import EntityScaffold.Proofs.Command.ExportedTemplates
import EntityScaffold.Proofs.Generation.Declared

/-! # Deliveries

What a run generated is delivered as a whole: each file at its path, with its own code, or all of them in order on the
output. Nothing else changes, and a run that generates nothing leaves all as it was.
-/

namespace EntityScaffold.Command

open Workspace

namespace Workspace

variable {workspace before after made : Workspace} {spot : Place} {directory path text : String}
  {files : List (String × String)}

/-! ## Places of files -/

/-- The last name of a path ends like the path. -/
theorem exists_last_name {c : Char} (h : path.toList.getLast? = some c) (hc : c ≠ '/') :
    ∃ before name, names path = before ++ [name] ∧ name.toList.getLast? = some c := by
  obtain ⟨cs, hcs⟩ := List.getLast?_eq_some_iff.1 h
  obtain ⟨before, piece, hpieces⟩ := Text.exists_splitAt_append_singleton hc cs
  refine ⟨(if isAbsolute path then ["/"] else []) ++ before.map String.ofList, String.ofList (piece ++ [c]), ?_, ?_⟩
  · rw [names, hcs, hpieces, List.map_append, List.append_assoc]
    rfl
  · rw [String.toList_ofList, List.getLast?_concat]

theorem getLast?_joinPath {name : String} (h : name ≠ "") (directory : String) :
    (joinPath directory name).toList.getLast? = name.toList.getLast? := by
  have hne : name.toList ≠ [] := mt String.toList_eq_nil_iff.1 h
  have hlast : ∀ before : String, (before ++ name).toList.getLast? = name.toList.getLast? := fun before => by
    rw [String.toList_append, List.getLast?_append_of_ne_nil _ hne]
  unfold joinPath
  split
  · rfl
  · split
    · exact hlast _
    · exact hlast _

/-- Nothing stands at once and for all where a path leads whose last letter no special name has. -/
theorem fixed?_of_getLast? (h : path.toList.getLast? = some 's') (hresolve : workspace.resolve path = .ok spot) :
    fixed? spot = none := by
  obtain ⟨before, name, hnames, hlast⟩ := exists_last_name h (by decide)
  have hname := isOrdinary_of_getLast? hlast
  have hfollow := (of_resolve hresolve).2
  rw [hnames, follow_append] at hfollow
  cases hbefore : workspace.follow [] before with
  | error fault => rw [hbefore] at hfollow; cases hfollow
  | ok place =>
    rw [hbefore] at hfollow
    obtain ⟨-, next, hstep, hrest⟩ := exists_step_of_follow hfollow
    cases hrest
    rw [step_of_isOrdinary hname] at hstep
    split at hstep
    · cases hstep
      exact fixed?_of_isOrdinary hname
    · cases hstep

/-! ## Written files -/

/-- Writing files changes no directory. -/
theorem Writes.keeps (h : Writes directory before files after) :
    before.KeepsDirectories after ∧ after.KeepsDirectories before := by
  induction h with
  | nil => exact ⟨fun _ h => h, fun _ h => h⟩
  | cons hwrite _ ih =>
    obtain ⟨spot, -, hfree, rfl⟩ := exists_of_writeText hwrite
    exact ⟨(keepsDirectories_put hfree).trans ih.1, ih.2.trans keepsDirectories_of_put_file⟩

/-- What no file is written to stays. -/
theorem Writes.find?_eq (h : Writes directory before files after) {other : Place}
    (hother : ∀ file ∈ files, before.resolve (joinPath directory file.1) ≠ .ok other) :
    after.find? other = before.find? other := by
  induction h with
  | nil => rfl
  | cons hwrite _ ih =>
    obtain ⟨spot, hspot, -, rfl⟩ := exists_of_writeText hwrite
    have hne : other ≠ spot := fun heq => hother _ List.mem_cons_self (heq ▸ hspot)
    rw [ih fun file hf hresolve => hother file (List.mem_cons_of_mem _ hf)
      (keepsDirectories_of_put_file.resolve hresolve), find?_put_of_ne hne]

/-- Two paths do not lead to one place. -/
def LeadsApart (workspace : Workspace) (path other : String) : Prop :=
  ∀ place, workspace.resolve path = .ok place → workspace.resolve other ≠ .ok place

theorem readText_of_find? (hresolve : workspace.resolve path = .ok spot)
    (hfind : workspace.find? spot = some (.file text)) : workspace.readText path = .ok text := by
  rw [readText, hresolve]
  dsimp only [Except.bind]
  rw [hfind]

/-- Files with names that end like those of sources, and that lead apart, all keep their code. -/
theorem Writes.readText_eq (h : Writes directory before files after)
    (hnames : ∀ file ∈ files, file.1.toList.getLast? = some 's')
    (hapart : files.Pairwise fun file other =>
      before.LeadsApart (joinPath directory file.1) (joinPath directory other.1)) :
    ∀ file ∈ files, after.readText (joinPath directory file.1) = .ok file.2 := by
  induction h with
  | nil => exact nofun
  | @cons workspace next after name code rest hwrite hrest ih =>
    obtain ⟨hfirst, hapart⟩ := List.pairwise_cons.1 hapart
    obtain ⟨spot, hspot, hfree, rfl⟩ := exists_of_writeText hwrite
    have hback : ∀ {path : String} {place : Place},
        (workspace.put spot (.file code)).resolve path = .ok place → workspace.resolve path = .ok place :=
      keepsDirectories_of_put_file.resolve
    intro file hf
    rcases List.mem_cons.1 hf with rfl | hf
    · have hname := hnames _ List.mem_cons_self
      have hlast : (joinPath directory name).toList.getLast? = some 's' := by
        rw [getLast?_joinPath (fun heq => by rw [heq] at hname; cases hname), hname]
      have hthere : (workspace.put spot (.file code)).find? spot = some (.file code) := by
        rw [find?_put (fixed?_of_getLast? hlast hspot), if_pos rfl]
      refine readText_of_find? (((keepsDirectories_put hfree).trans hrest.keeps.1).resolve hspot) ?_
      -- No later file is written where the first one stands.
      rw [hrest.find?_eq fun other ho hresolve => hfirst other ho spot hspot (hback hresolve), hthere]
    · refine ih (fun other ho => hnames other (List.mem_cons_of_mem _ ho)) (hapart.imp ?_) file hf
      exact fun hpair place hplace hsame => hpair place (hback hplace) (hback hsame)

/-- After a delivery each file is at its path in the directory with its own code; without slashes in its name it stands
in the directory itself. All else is as it was before, but for the directory and those that lead to it. -/
structure Delivers (before after : Workspace) (directory : String) (place : Place)
    (files : List (String × String)) : Prop where
  leads : after.follow [] (names directory) = .ok place
  own : ∀ file ∈ files, after.readText (joinPath directory file.1) = .ok file.2
  inside : ∀ file ∈ files, '/' ∉ file.1.toList → after.find? (place ++ [file.1]) = some (.file file.2)
  others : ∀ other, (∀ file ∈ files, after.resolve (joinPath directory file.1) ≠ .ok other) →
    after.find? other = before.find? other ∨
      before.find? other = none ∧ after.find? other = some .directory ∧
        ∃ count, after.follow [] ((onward (names directory)).take count) = .ok other

theorem exists_delivers (hmade : before.makeDirectories directory = some made)
    (h : Writes directory made files after) (hnames : ∀ file ∈ files, file.1.toList.getLast? = some 's')
    (hapart : files.Pairwise fun file other =>
      made.LeadsApart (joinPath directory file.1) (joinPath directory other.1)) :
    ∃ place, before.Delivers after directory place files := by
  obtain ⟨place, hplace, hdirectory⟩ := exists_place_of_makeDirectories hmade
  have hleads := h.keeps.1.follow hplace
  have hown := h.readText_eq hnames hapart
  refine ⟨place, hleads, hown, fun file hf hslash => ?_, fun other hother => ?_⟩
  · obtain ⟨spot, hspot, hfind⟩ := exists_of_entry? (entry?_of_readText (hown file hf))
    rw [resolve_joinPath (isOrdinary_of_getLast? (hnames file hf)) hslash hleads (h.keeps.1 _ hdirectory)] at hspot
    split at hspot
    · cases hspot
    · split at hspot
      · cases hspot
        exact hfind
      · cases hspot
  · rw [h.find?_eq fun file hf hresolve => hother file hf (h.keeps.1.resolve hresolve)]
    refine (makesDirectories_of_makeDirectories hmade other).imp id ?_
    rintro ⟨hnone, hnew, _, ⟨count, rfl⟩, hway⟩
    exact ⟨hnone, hnew, count, h.keeps.1.follow hway⟩

end Workspace

/-! ## Printed files -/

/-- A file as it is printed: after its name, and with a line break at the end, which is its own if it has one. -/
structure IsSection (file : String × String) (text : String) : Prop where
  starts : ∃ ending, text = "// ---- " ++ file.1 ++ " ----\n" ++ file.2 ++ ending ∧
    (ending = "" ∨ ending = "\n" ∧ file.2.toList.getLast? ≠ some '\n')
  ends : text.toList.getLast? = some '\n'

theorem exists_sections (files : List (String × String)) :
    ∃ sections, printedFiles files = String.join sections ∧ List.Forall₂ IsSection files sections := by
  refine ⟨_, rfl, List.forall₂_map_right_iff.2 (List.forall₂_same.2 fun file _ => ?_)⟩
  obtain ⟨name, code⟩ := file
  dsimp only
  split
  · next hbreak =>
    refine ⟨⟨"", rfl, .inl rfl⟩, ?_⟩
    rw [String.append_empty, String.toList_append, List.getLast?_append, hbreak]
    rfl
  · next hbreak =>
    refine ⟨⟨"\n", rfl, .inr ⟨rfl, hbreak⟩⟩, ?_⟩
    rw [String.toList_append, List.getLast?_append]
    rfl

/-! ## Runs -/

theorem report_eq (options : ScaffoldOptions) (templates : TemplateSource) (model : DatabaseModel) :
    report options templates model =
      (Scaffolder.new (GenerationConfig.preset options.mode options.language options.naming : GenerationConfig Unit)
        templates options).bind fun scaffolder => (scaffolder.generateReport model ()).1 := rfl

/-- A run asks for no templates but the declared ones. -/
theorem report_congr {options : ScaffoldOptions} {templates other : TemplateSource}
    (h : (RoleBindings.select options.mode options.language).AgreeOn templates other) (model : DatabaseModel) :
    report options other model = report options templates model := by
  rw [report_eq, report_eq, Scaffolder.new_congr h]

variable {filter : String} {given : GenerateArguments} {workspace : Workspace} {made : ScaffoldReport}

theorem eq_ok_of_toOption {ε α : Type} {result : Except ε α} {a : α} (h : result.toOption = some a) :
    result = .ok a := by
  cases result with
  | error error => cases h
  | ok value => exact congrArg _ (Option.some_inj.1 h)

/-- What is generated is the report of a run with the options and the model that were read. -/
theorem generatedWith_eq_ok_iff : workspace.generatedWith filter given = .ok made ↔
    LogFilter.fault? filter = none ∧
    ∃ options model, workspace.optionsOf given = .ok options ∧ workspace.modelAt given.model = .ok model ∧
      report options (workspace.templatesOf given.templates).get? model = .ok made := by
  unfold generatedWith generated
  constructor
  · intro h
    split at h
    · cases h
    · next hfilter =>
      obtain ⟨options, hoptions, h⟩ := exists_ok_of_bind h
      obtain ⟨model, hmodel, h⟩ := exists_ok_of_bind h
      refine ⟨hfilter, options, model, hoptions, hmodel, ?_⟩
      cases hreport : report options (workspace.templatesOf given.templates).get? model with
      | error error => rw [hreport] at h; cases h
      | ok made => rw [hreport] at h; cases h; rfl
  · rintro ⟨hfilter, options, model, hoptions, hmodel, hreport⟩
    rw [hfilter, hoptions, hmodel]
    dsimp only [Except.bind]
    rw [hreport]
    rfl

/-- An entity failed and the failure is there, or the file of the entity is there, or no entities were asked for. -/
def Accounts (made : ScaffoldReport) (scaffolder : Scaffolder Unit) (model : DatabaseModel) (entity : EntityType) :
    Prop :=
  (∃ failure ∈ made.failures, scaffolder.entityResult model () entity = .error failure ∧
    failure.entity = entity.name) ∨
  (∃ file : GeneratedFile, (file.fileName, file.code) ∈ made.model.files.entries ∧
    scaffolder.entityResult model () entity = .ok (some file)) ∨
  scaffolder.entityResult model () entity = .ok none ∧ scaffolder.config.roles.entityType.isEnabled = false

theorem accounts_of_report {scaffolder : Scaffolder Unit} {model : DatabaseModel}
    (h : (scaffolder.generateReport model ()).1 = .ok made) {entity : EntityType} (he : entity ∈ model.entityTypes) :
    Accounts made scaffolder model entity := by
  have hshows := Scaffolder.shows_entityResult he h
  unfold Accounts
  cases hresult : scaffolder.entityResult model () entity with
  | error failure =>
    rw [hresult] at hshows
    exact .inl ⟨failure, hshows, rfl, Scaffolder.entity_of_entityResult hresult⟩
  | ok file? =>
    rw [hresult] at hshows
    cases file? with
    | none => exact .inr (.inr ⟨rfl, Scaffolder.disabled_of_entityResult hresult⟩)
    | some file => exact .inr (.inl ⟨file, (Keyed.mem_entries_iff _).2 hshows, rfl⟩)

/-- What is told at the end of a run that generated something. -/
def toldText (made : ScaffoldReport) : String := failuresText made.failures ++ endingText (ending made)

/-- A run that fails before its delivery leaves all files as they were and prints nothing. Any other run prints its
files in the order of their names, or writes them and changes no other file; it ends with 0 exactly if no output failed,
and the other outputs are delivered all the same. -/
theorem runIn_generate {filter? : Option String} {arguments : List String}
    (h : CommandLine.parse arguments = .ok ⟨filter?, .generate given⟩) (workspace : Workspace) (log : String) :
    (∀ fault, workspace.generatedWith (filter?.getD log) given = .error fault →
      runIn workspace log arguments = (1, { workspace := workspace, diagnostics := endingText (.error fault) })) ∧
    ∀ made, workspace.generatedWith (filter?.getD log) given = .ok made →
      (given.out = none → ∃ sections, List.Forall₂ IsSection made.model.files.entries sections ∧
        runIn workspace log arguments = (if made.failures = [] then 0 else 1,
          { workspace := workspace, output := String.join sections, diagnostics := toldText made })) ∧
      (∀ directory before after, given.out = some directory → workspace.makeDirectories directory = some before →
        Writes directory before made.model.files.entries after →
          runIn workspace log arguments = (if made.failures = [] then 0 else 1,
            { workspace := after
              diagnostics := generatedText directory made.model.files.entries.length ++ toldText made }) ∧
          (made.model.files.entries.Pairwise (fun file other =>
              before.LeadsApart (joinPath directory file.1) (joinPath directory other.1)) →
            ∃ place, workspace.Delivers after directory place made.model.files.entries)) ∧
      made.model.files.entries.Pairwise (fun file other => file.1 < other.1) ∧
      ∃ options model scaffolder, workspace.optionsOf given = .ok options ∧
        workspace.modelAt given.model = .ok model ∧
        Scaffolder.new (.preset options.mode options.language options.naming : GenerationConfig Unit)
          (workspace.templatesOf given.templates).get? options = .ok scaffolder ∧
        (scaffolder.generateReport model ()).1 = .ok made ∧
        ∀ entity ∈ model.entityTypes, Accounts made scaffolder model entity := by
  have hrun : (CommandLine.run ⟨filter?, .generate given⟩ log : CommandM (StateM Session) Unit).run
      { workspace := workspace } = _ := run_commandLine filter? log given _
  dsimp only at hrun
  refine ⟨fun fault hfault => ?_, fun made hmade =>
    ⟨fun hout => ?_, fun directory before after hout hbefore hwrites => ?_, made.model.files.ascending, ?_⟩⟩
  · rw [hfault] at hrun
    rw [runIn_of_parse h workspace log hrun, String.empty_append]
    rfl
  · obtain ⟨sections, hprinted, hsections⟩ := exists_sections made.model.files.entries
    refine ⟨sections, hsections, ?_⟩
    rw [hmade, hout] at hrun
    rw [runIn_of_parse h workspace log (hrun.trans (run_deliver_print made _)), exitCode_ending, hprinted,
      String.empty_append, String.empty_append, toldText]
  · rw [hmade, hout] at hrun
    refine ⟨?_, exists_delivers hbefore hwrites ?_⟩
    · rw [runIn_of_parse h workspace log (hrun.trans (run_deliver_write hbefore hwrites)), exitCode_ending,
        String.empty_append, toldText, String.append_assoc]
    · obtain ⟨-, options, model, -, -, hreport⟩ := generatedWith_eq_ok_iff.1 hmade
      exact fun file hf => getLast?_of_mem_report hreport (List.mem_map_of_mem hf)
  · obtain ⟨-, options, model, hoptions, hmodel, hreport⟩ := generatedWith_eq_ok_iff.1 hmade
    obtain ⟨scaffolder, hnew, hgenerate⟩ := exists_ok_of_report hreport
    exact ⟨options, model, scaffolder, hoptions, hmodel, hnew, hgenerate, fun _ => accounts_of_report hgenerate⟩

/-! ## An output that fails among others -/

/-- Generate the entities of a model with the templates of the workspace. -/
def lineArguments : List String :=
  ["generate", "--model", "shop.json", "--templates", ".", "--mode", "entities-only", "--out", "gen"]

/-- What the arguments ask for. -/
def lineGenerate : GenerateArguments :=
  { model := "shop.json", templates := some ".", mode := some .entitiesOnly, out := some "gen" }

/-- A template that fails for every entity with a property. -/
def lineTemplates : TemplateSource := fun path =>
  some (if path = "CSharpEntityType/Class.hbs" then
    "class\x7b\x7b#each properties\x7d\x7d\x7b\x7bnope\x7d\x7d\x7b\x7b/each\x7d\x7d" else "")

/-- A model of two entities, one of which has a property. -/
def lineModel : DatabaseModel :=
  ⟨"Shop", [.new "Line", { EntityType.new "Order" with properties := [.new "Id" "int"] }]⟩

/-- A workspace with the model and the templates. -/
def lineWorkspace : Workspace := ⟨
  [(["shop.json"], .file <| "\x7b\"name\":\"Shop\",\"entity_types\":[\x7b\"name\":\"Line\"\x7d," ++
      "\x7b\"name\":\"Order\",\"properties\":[\x7b\"name\":\"Id\",\"clr_type\":\"int\"\x7d]\x7d]\x7d"),
    (["CSharpEntityType"], .directory),
    (["CSharpEntityType", "Class.hbs"],
      .file "class\x7b\x7b#each properties\x7d\x7d\x7b\x7bnope\x7d\x7d\x7b\x7b/each\x7d\x7d"),
    (["CSharpEntityType", "Partials"], .directory),
    (["CSharpEntityType", "Partials", "Imports.hbs"], .file ""),
    (["CSharpEntityType", "Partials", "Constructor.hbs"], .file ""),
    (["CSharpEntityType", "Partials", "Properties.hbs"], .file "")]⟩

theorem agreeOn_lineTemplates : (RoleBindings.select .entitiesOnly .csharp).AgreeOn lineTemplates
    (lineWorkspace.templatesOf (some ".")).get? := by
  intro declared hd
  have hpaths : declared.path ∈ (RoleBindings.select .entitiesOnly .csharp).declared.map (·.path) :=
    List.mem_map_of_mem hd
  have hread : ∀ path ∈ (RoleBindings.select .entitiesOnly .csharp).declared.map (·.path),
      path ∈ templatePaths ∧ (lineWorkspace.readText (joinPath "." path)).toOption = lineTemplates path := by
    decide +kernel
  obtain ⟨hknown, hread⟩ := hread _ hpaths
  rw [get?_templatesOf lineWorkspace "." hknown, hread]
  rfl

/-- One file is made, and the other entity fails. -/
theorem exists_generated_lines : ∃ made, lineWorkspace.generatedWith "" lineGenerate = .ok made ∧
    made.model.files.entries = [("Line.cs", "class")] ∧ made.failures.length = 1 := by
  have hoptions : (lineWorkspace.optionsOf lineGenerate).toOption = some { mode := .entitiesOnly } := by
    decide +kernel
  have hmodel : (lineWorkspace.modelAt lineGenerate.model).toOption = some lineModel := by decide +kernel
  have hreport : (report { mode := .entitiesOnly } lineTemplates lineModel).toOption.map
      (fun made => (made.model.files.entries, made.failures.length)) = some ([("Line.cs", "class")], 1) := by
    decide +kernel
  obtain ⟨made, hmade, hfiles⟩ := Option.map_eq_some_iff.1 hreport
  obtain ⟨hentries, hfailures⟩ := Prod.mk.inj hfiles
  refine ⟨made, generatedWith_eq_ok_iff.2 ⟨by decide, _, _, eq_ok_of_toOption hoptions, eq_ok_of_toOption hmodel, ?_⟩,
    hentries, hfailures⟩
  exact (report_congr agreeOn_lineTemplates lineModel).trans (eq_ok_of_toOption hmade)

/-- The file is written below the directory, and the run fails. In an empty workspace there is no model, so that
nothing is written. -/
theorem runIn_generate_lines :
    CommandLine.parse lineArguments = .ok ⟨none, .generate lineGenerate⟩ ∧
    (∃ made after, lineWorkspace.generatedWith "" lineGenerate = .ok made ∧ made.failures.length = 1 ∧
      runIn lineWorkspace "" lineArguments =
        (1, { workspace := after, diagnostics := generatedText "gen" 1 ++ toldText made }) ∧
      ∃ place, lineWorkspace.Delivers after "gen" place [("Line.cs", "class")]) ∧
    runIn ⟨[]⟩ "" lineArguments =
      (1, { workspace := ⟨[]⟩, diagnostics := endingText (.error (.modelUnreadable "shop.json" .missing)) }) := by
  have hparse : CommandLine.parse lineArguments = .ok ⟨none, .generate lineGenerate⟩ := by decide +kernel
  obtain ⟨made, hmade, hentries, hfailures⟩ := exists_generated_lines
  have hdirectory : lineWorkspace.makeDirectories "gen" = some (lineWorkspace.put ["gen"] .directory) := by
    decide +kernel
  have hwrite : (lineWorkspace.put ["gen"] .directory).writeText (joinPath "gen" "Line.cs") "class" =
      some ((lineWorkspace.put ["gen"] .directory).put ["gen", "Line.cs"] (.file "class")) := by
    decide +kernel
  refine ⟨hparse, ⟨made, (lineWorkspace.put ["gen"] .directory).put ["gen", "Line.cs"] (.file "class"), hmade,
    hfailures, ?_⟩, (runIn_generate hparse ⟨[]⟩ "").1 _ ?_⟩
  · obtain ⟨-, hwritten, -⟩ := (runIn_generate hparse lineWorkspace "").2 made hmade
    have hfailed : made.failures ≠ [] := fun hnone => by rw [hnone] at hfailures; cases hfailures
    rw [hentries, if_neg hfailed] at hwritten
    obtain ⟨hrun, hdelivers⟩ := hwritten "gen" _ _ rfl hdirectory (.cons hwrite .nil)
    exact ⟨hrun, hdelivers (List.pairwise_singleton ..)⟩
  · have hoptions : (optionsOf ⟨[]⟩ lineGenerate).toOption = some { mode := .entitiesOnly } := by decide +kernel
    have hread : readText ⟨[]⟩ lineGenerate.model = .error .missing := by decide +kernel
    rw [generatedWith, generated, eq_ok_of_toOption hoptions, modelAt, hread]
    rfl

end EntityScaffold.Command
