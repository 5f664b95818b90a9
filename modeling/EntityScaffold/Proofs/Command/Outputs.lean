import EntityScaffold.Command.Generate
import EntityScaffold.Proofs.Command.Paths
import EntityScaffold.Proofs.Generation.Presets
import EntityScaffold.Proofs.Generation.Referring
import EntityScaffold.Proofs.Text.Words

/-! # Where generated files are written

Files are told apart by their names, but each is written where its path leads. The two agree on names without
slashes: such a file stands in the output directory itself, and no other is written there. A slash can only come
from the name of the database context or, where names stay as they are, from that of an entity.
-/

namespace EntityScaffold

/-! ## Names of files -/

namespace Scaffolder

variable {σ : Type} {scaffolder : Scaffolder σ} {model : DatabaseModel} {s : σ}

/-- With a preset a file has the name of the database context or that which the preset gives an entity. -/
theorem fileName_of_mem_report {naming : NamingConvention} {report : ScaffoldReport} {key : String}
    (hnaming : scaffolder.config.transformers = .ofNaming naming)
    (h : (scaffolder.generateReport model s).1 = .ok report) (hkey : key ∈ report.model.files.keys) :
    key = ModelGenerator.dbContextFileName (scaffolder.options.contextNameFor model) ∨
      ∃ entity ∈ model.entityTypes,
        key = naming.entityName entity.name ++ "." ++ scaffolder.config.roles.language.extension := by
  obtain ⟨⟨name, code⟩, hentry, rfl⟩ := List.mem_map.1 hkey
  obtain ⟨outcome, ho, hresult⟩ := (mem_entries_report h).1 hentry
  rcases List.mem_append.1 ho with ho | ho
  · obtain ⟨failure, -, rfl⟩ := List.mem_map.1 ho
    cases hresult
  · rcases List.mem_cons.1 ho with rfl | ho
    · simp only [dbContextOutcome] at hresult
      cases hg : scaffolder.config.roles.model.generateDbContext scaffolder.config.roles.dbContext
          (scaffolder.runScope model s) model with
      | error e => rw [runScope] at hg; rw [hg] at hresult; cases hresult
      | ok made =>
        rw [runScope] at hg
        rw [hg] at hresult
        cases hresult
        exact .inl (ModelGenerator.exists_view_of_generateDbContext hg).1
    · obtain ⟨entity, hentity, rfl⟩ := List.mem_map.1 ho
      obtain ⟨⟨names, hnames, hname⟩, -⟩ := (scaffolder.refersByNames model s).file entity hentity _ hresult
      rw [get_runScope hnaming (DatabaseModel.entity_mem_mentionedNames hentity)] at hnames
      cases hnames
      exact .inr ⟨entity, hentity, hname⟩

end Scaffolder

namespace Command

open Workspace

variable {options : ScaffoldOptions} {templates : TemplateSource} {model : DatabaseModel}

theorem isOrdinary_of_getLast? {name : String} (h : name.toList.getLast? = some 's') : IsOrdinary name := by
  intro hmem
  have hnone : ∀ name ∈ ["", ".", "..", "/", "dev", "null"], name.toList.getLast? ≠ some 's' := by decide
  exact hnone _ hmem h

theorem getLast?_append_extension (stem : String) {extension : String} (h : extension = "cs" ∨ extension = "ts") :
    (stem ++ "." ++ extension).toList.getLast? = some 's' := by
  rcases h with rfl | rfl <;> simp [String.toList_append]

theorem slash_mem_append_extension (stem : String) {extension : String}
    (h : extension = "cs" ∨ extension = "ts") :
    '/' ∈ (stem ++ "." ++ extension).toList ↔ '/' ∈ stem.toList := by
  rcases h with rfl | rfl <;> simp [String.toList_append]

/-- A preset that changes names leaves no slashes in them. -/
theorem slash_mem_entityName (naming : NamingConvention) (name : String) :
    '/' ∈ (naming.entityName name).toList ↔ naming = .none ∧ '/' ∈ name.toList := by
  have hpascal : '/' ∉ (Text.pascalCase name).toList := fun hmem =>
    absurd (Text.isWordChar_of_mem_pascalCase hmem) (by unfold Text.IsWordChar; decide)
  cases naming <;> simp [NamingConvention.entityName, hpascal]

/-- A report is that of a scaffolder for the options. -/
theorem exists_ok_of_report {made : ScaffoldReport} (h : report options templates model = .ok made) :
    ∃ scaffolder : Scaffolder Unit,
      Scaffolder.new { (GenerationConfig.start options.mode options.language : GenerationConfig Unit) with
        transformers := .ofNaming options.naming } templates options = .ok scaffolder ∧
      (scaffolder.generateReport model ()).1 = .ok made :=
  exists_ok_of_bind h

/-- The names of the files of a report. -/
theorem key_of_mem_report {made : ScaffoldReport} (h : report options templates model = .ok made)
    {key : String} (hkey : key ∈ made.model.files.keys) :
    key = ModelGenerator.dbContextFileName (options.contextNameFor model) ∨
      ∃ entity ∈ model.entityTypes,
        key = options.naming.entityName entity.name ++ "." ++ options.language.extension := by
  obtain ⟨scaffolder, hnew, h⟩ := exists_ok_of_report h
  obtain ⟨hc, ho⟩ := Scaffolder.of_new hnew
  have hlanguage : scaffolder.config.roles.language = options.language := by rw [hc]; rfl
  have hnaming : scaffolder.config.transformers = .ofNaming options.naming := by rw [hc]
  have hkey := scaffolder.fileName_of_mem_report hnaming h hkey
  rwa [ho, hlanguage] at hkey

theorem extension_eq (language : LanguageMode) : language.extension = "cs" ∨ language.extension = "ts" := by
  cases language <;> simp [LanguageMode.extension]

theorem getLast?_of_mem_report {made : ScaffoldReport} (h : report options templates model = .ok made)
    {key : String} (hkey : key ∈ made.model.files.keys) : key.toList.getLast? = some 's' := by
  rcases key_of_mem_report h hkey with rfl | ⟨entity, -, rfl⟩
  · exact getLast?_append_extension _ (.inl rfl)
  · exact getLast?_append_extension _ (extension_eq options.language)

/-- The names of the files of a report are ordinary, and slashes in them come from those of the model. -/
theorem isOrdinary_of_mem_report {made : ScaffoldReport} (h : report options templates model = .ok made)
    {key : String} (hkey : key ∈ made.model.files.keys) :
    IsOrdinary key ∧ ('/' ∈ key.toList →
      key = ModelGenerator.dbContextFileName (options.contextNameFor model) ∧
          '/' ∈ (options.contextNameFor model).toList ∨
        options.naming = .none ∧ ∃ entity ∈ model.entityTypes,
          key = entity.name ++ "." ++ options.language.extension ∧ '/' ∈ entity.name.toList) := by
  refine ⟨isOrdinary_of_getLast? (getLast?_of_mem_report h hkey), fun hslash => ?_⟩
  rcases key_of_mem_report h hkey with hcontext | ⟨entity, hentity, hname⟩
  · subst hcontext
    exact .inl ⟨rfl, (slash_mem_append_extension _ (.inl rfl)).1 hslash⟩
  · subst hname
    obtain ⟨hnaming, hname⟩ :=
      (slash_mem_entityName _ _).1 ((slash_mem_append_extension _ (extension_eq options.language)).1 hslash)
    exact .inr ⟨hnaming, entity, hentity, by rw [hnaming]; rfl, hname⟩

/-! ## Writing files -/

/-- Each of some files stands under its name in a directory, and all else is as it was before. -/
structure Workspace.HoldsFiles (after before : Workspace) (place : Place)
    (files : List (String × String)) : Prop where
  own : ∀ file ∈ files, after.find? (place ++ [file.1]) = some (.file file.2)
  others : ∀ other, (∀ file ∈ files, other ≠ place ++ [file.1]) → after.find? other = before.find? other

/-- Files are written into a directory, one after the other. -/
inductive Workspace.Writes (directory : String) : Workspace → List (String × String) → Workspace → Prop
  | nil {workspace : Workspace} : Writes directory workspace [] workspace
  | cons {workspace next after : Workspace} {name code : String} {rest : List (String × String)} :
      workspace.writeText (joinPath directory name) code = some next → Writes directory next rest after →
      Writes directory workspace ((name, code) :: rest) after

/-- What is done in sequence goes on unless it fails. -/
theorem run_bind {α β : Type} (x : CommandM (StateM Session) α) (f : α → CommandM (StateM Session) β)
    (session : Session) : (x >>= f).run session =
      match x.run session with
      | (.ok a, next) => (f a).run next
      | (.error fault, next) => (.error fault, next) := by
  rw [ExceptT.run_bind, state_bind]
  rcases x.run session with ⟨result, next⟩
  cases result <;> rfl

/-- A change of the workspace is made, or nothing is. -/
theorem run_attempt (change : Workspace → Option Workspace) (session : Session) :
    (ExceptT.lift (Session.attempt change) : CommandM (StateM Session) Bool).run session =
      match change session.workspace with
      | some next => (.ok true, { session with workspace := next })
      | none => (.ok false, session) := by
  change ((.ok (Session.attempt change session).1, (Session.attempt change session).2) :
    Except CommandFault Bool × Session) = _
  unfold Session.attempt
  cases change session.workspace <;> rfl

theorem writeEach_cons (directory name code : String) (rest : List (String × String)) (session : Session) :
    (writeEach directory ((name, code) :: rest) : CommandM (StateM Session) Unit).run session =
      match session.workspace.writeText (joinPath directory name) code with
      | some next => (writeEach directory rest : CommandM (StateM Session) Unit).run
          { session with workspace := next }
      | none => (.error (.file .output (joinPath directory name)), session) := by
  rw [writeEach, run_bind]
  have hhost : (Host.writeText (joinPath directory name) code : CommandM (StateM Session) Bool) =
      ExceptT.lift (Session.attempt (·.writeText (joinPath directory name) code)) := rfl
  rw [hhost, run_attempt]
  cases session.workspace.writeText (joinPath directory name) code <;> rfl

/-- Files are written until one cannot be. -/
theorem exists_writes (directory : String) (files : List (String × String)) (session : Session) :
    ∃ written rest, files = written ++ rest ∧
      Writes directory session.workspace written
        ((writeEach directory files : CommandM (StateM Session) Unit).run session).2.workspace ∧
      (((writeEach directory files : CommandM (StateM Session) Unit).run session).1 = .ok () → rest = []) := by
  induction files generalizing session with
  | nil => exact ⟨[], [], rfl, .nil, fun _ => rfl⟩
  | cons file rest ih =>
    obtain ⟨name, code⟩ := file
    rw [writeEach_cons]
    cases hwrite : session.workspace.writeText (joinPath directory name) code with
    | none => exact ⟨[], _, rfl, .nil, nofun⟩
    | some next =>
      obtain ⟨written, unwritten, rfl, hwrites, hall⟩ := ih { session with workspace := next }
      exact ⟨(name, code) :: written, unwritten, rfl, .cons hwrite hwrites, hall⟩

/-- The files of a run are written into a directory that is there then. -/
theorem exists_writes_of_writeFiles (directory : String) (files : List (String × String)) (session : Session)
    {result : Except CommandFault Unit} {after : Session}
    (h : (writeFiles directory files : CommandM (StateM Session) Unit).run session = (result, after)) :
    after.workspace = session.workspace ∧ result ≠ .ok () ∨
      ∃ made written rest, session.workspace.makeDirectories directory = some made ∧ files = written ++ rest ∧
        Writes directory made written after.workspace ∧ (result = .ok () → rest = []) := by
  have hhost : (Host.makeDirectories directory : CommandM (StateM Session) Bool) =
      ExceptT.lift (Session.attempt (·.makeDirectories directory)) := rfl
  rw [writeFiles, run_bind, hhost, run_attempt] at h
  cases hmade : session.workspace.makeDirectories directory with
  | none =>
    rw [hmade] at h
    cases h
    exact .inl ⟨rfl, nofun⟩
  | some made =>
    obtain ⟨written, rest, hfiles, hwrites, hall⟩ :=
      exists_writes directory files { session with workspace := made }
    refine .inr ⟨made, written, rest, rfl, hfiles, ?_⟩
    rw [hmade] at h
    dsimp only at h
    rw [if_pos rfl, run_bind] at h
    rcases hrun : (writeEach directory files : CommandM (StateM Session) Unit).run
      { session with workspace := made } with ⟨outcome, next⟩
    rw [hrun] at h hwrites hall
    cases outcome with
    | error fault => cases h; exact ⟨hwrites, nofun⟩
    | ok _ => cases h; exact ⟨hwrites, fun _ => hall rfl⟩

namespace Workspace

variable {directory : String} {workspace after : Workspace} {place : Place} {files : List (String × String)}

theorem Writes.exists_resolve (h : Writes directory workspace files after) {file : String × String}
    (hf : file ∈ files) : ∃ (between : Workspace) (spot : Place),
      between.resolve (joinPath directory file.1) = .ok spot := by
  induction h with
  | nil => cases hf
  | cons hwrite _ ih =>
    rcases List.mem_cons.1 hf with rfl | hf
    · obtain ⟨spot, hspot, -⟩ := exists_of_writeText hwrite
      exact ⟨_, spot, hspot⟩
    · exact ih hf

/-- A file written under an ordinary name without slashes stands in the directory, which stays where it is. -/
theorem writeText_joinPath {name code : String} (hname : IsOrdinary name) (hslash : '/' ∉ name.toList)
    (hplace : workspace.follow [] (names directory) = .ok place)
    (hdirectory : workspace.find? place = some .directory)
    (h : workspace.writeText (joinPath directory name) code = some after) :
    after.HoldsFiles workspace place [(name, code)] ∧
      after.follow [] (names directory) = .ok place ∧ after.find? place = some .directory := by
  obtain ⟨spot, hspot, hfree, rfl⟩ := exists_of_writeText h
  have hput : ∀ other, (workspace.put (place ++ [name]) (.file code)).find? other =
      if other = place ++ [name] then some (.file code) else workspace.find? other :=
    find?_put (fixed?_of_isOrdinary hname)
  rw [resolve_joinPath hname hslash hplace hdirectory] at hspot
  split at hspot
  · cases hspot
  · split at hspot
    · cases hspot
      refine ⟨⟨fun file hf => ?_, fun other hother => ?_⟩, ?_, ?_⟩
      · rw [List.mem_singleton.1 hf, hput, if_pos rfl]
      · rw [hput, if_neg (hother _ (List.mem_singleton.2 rfl))]
      · exact follow_put (fixed?_of_isOrdinary hname) hfree hplace
      · rw [hput, if_neg (by simp), hdirectory]
    · cases hspot

/-- Files written one after the other all stand in the directory, if no name stands for a path. -/
theorem Writes.holdsFiles (h : Writes directory workspace files after)
    (hplace : workspace.follow [] (names directory) = .ok place)
    (hdirectory : workspace.find? place = some .directory)
    (hnames : ∀ file ∈ files, IsOrdinary file.1 ∧ '/' ∉ file.1.toList)
    (hdistinct : (files.map (·.1)).Nodup) : after.HoldsFiles workspace place files := by
  induction h with
  | nil => exact ⟨nofun, fun _ _ => rfl⟩
  | @cons workspace next after name code rest hwrite _ ih =>
    obtain ⟨hname, hslash⟩ := hnames _ List.mem_cons_self
    obtain ⟨hnew, hdistinct⟩ := List.nodup_cons.1 hdistinct
    obtain ⟨hfirst, hplace, hdirectory⟩ := writeText_joinPath hname hslash hplace hdirectory hwrite
    have hrest := ih hplace hdirectory (fun file hf => hnames file (List.mem_cons_of_mem _ hf)) hdistinct
    refine ⟨fun file hf => ?_, fun other hother => ?_⟩
    · rcases List.mem_cons.1 hf with rfl | hf
      · -- No later file has the name of the first one, which is therefore kept.
        have hkept : ∀ file ∈ rest, place ++ [name] ≠ place ++ [file.1] := fun file hf heq =>
          hnew (List.mem_map.2 ⟨file, hf, (List.singleton_inj.1 (List.append_cancel_left heq)).symm⟩)
        rw [hrest.others _ hkept]
        exact hfirst.own _ (List.mem_singleton.2 rfl)
      · exact hrest.own file hf
    · rw [hrest.others other fun file hf => hother file (List.mem_cons_of_mem _ hf)]
      exact hfirst.others other fun file hf => hother file (List.mem_singleton.1 hf ▸ List.mem_cons_self)

end Workspace

/-! ## Reports -/

/-- A written file stands in the output directory itself exactly if its name has no slash. If no name has one,
every file stands there with its own code and nothing else is written. A slash comes from the name of the database
context, or from that of an entity where names stay as they are. -/
theorem writeFiles_report {made : ScaffoldReport} {directory : String} {session after : Session}
    {result : Except CommandFault Unit} (hreport : report options templates model = .ok made)
    (hwrite : (writeFiles directory made.model.files.entries : CommandM (StateM Session) Unit).run session =
      (result, after)) :
    after.workspace = session.workspace ∧ result ≠ .ok () ∨
      ∃ before place written rest, session.workspace.makeDirectories directory = some before ∧
        before.follow [] (names directory) = .ok place ∧ before.find? place = some .directory ∧
        made.model.files.entries = written ++ rest ∧ (result = .ok () → rest = []) ∧
        (∀ file ∈ written,
          (before.resolve (joinPath directory file.1) = .ok (place ++ [file.1]) ↔ '/' ∉ file.1.toList) ∧
          ('/' ∈ file.1.toList →
            file.1 = ModelGenerator.dbContextFileName (options.contextNameFor model) ∧
                '/' ∈ (options.contextNameFor model).toList ∨
              options.naming = .none ∧ ∃ entity ∈ model.entityTypes,
                file.1 = entity.name ++ "." ++ options.language.extension ∧ '/' ∈ entity.name.toList)) ∧
        ((∀ file ∈ written, '/' ∉ file.1.toList) → after.workspace.HoldsFiles before place written) := by
  rcases exists_writes_of_writeFiles _ _ _ hwrite with
    hsame | ⟨before, written, rest, hmade, hfiles, hwrites, hall⟩
  · exact .inl hsame
  · obtain ⟨place, hplace, hdirectory⟩ := exists_place_of_makeDirectories hmade
    have hkey : ∀ file ∈ written, file.1 ∈ made.model.files.keys := fun file hf =>
      List.mem_map_of_mem (hfiles ▸ List.mem_append_left _ hf)
    have hdistinct : (written.map (·.1)).Nodup := by
      have hall := made.model.files.nodup_keys
      rw [Keyed.keys, hfiles, List.map_append] at hall
      exact hall.of_append_left
    refine .inr ⟨before, place, written, rest, hmade, hplace, hdirectory, hfiles, hall,
      fun file hf => ?_, ?_⟩
    · obtain ⟨hname, hsource⟩ := isOrdinary_of_mem_report hreport (hkey file hf)
      refine ⟨⟨fun hresolve hslash => resolve_joinPath_ne hname hslash place hresolve, fun hslash => ?_⟩, hsource⟩
      -- The file was written at some time, so its name is one that a directory can have.
      obtain ⟨between, spot, hspot⟩ := hwrites.exists_resolve hf
      obtain ⟨hsize, hfits⟩ := isName_of_resolve hname hslash hspot
      rw [resolve_joinPath hname hslash hplace hdirectory, if_neg hsize, if_pos hfits]
    · exact fun hslash => hwrites.holdsFiles hplace hdirectory
        (fun file hf => ⟨(isOrdinary_of_mem_report hreport (hkey file hf)).1, hslash file hf⟩) hdistinct

/-- A model of two entities whose names are paths out of a directory. -/
def outwardModel : DatabaseModel := ⟨"Shop", [.new "../Order", .new ".././Order"]⟩

/-- A store whose only template is one word. -/
def wordTemplates : TemplateSource :=
  fun path => if path = "CSharpEntityType/Class.hbs" then some "class" else none

/-- Both files of the model are written without complaint, but outside of the directory, and the second in
place of the first. -/
theorem writeFiles_report_outward :
    ∃ made after, report { mode := .entitiesOnly } wordTemplates outwardModel = .ok made ∧
      made.model.files.entries = [(".././Order.cs", "class"), ("../Order.cs", "class")] ∧
      (writeFiles "gen" made.model.files.entries : CommandM (StateM Session) Unit).run
        { workspace := ⟨[]⟩ } = (.ok (), after) ∧
      after.workspace.files = [("Order.cs", "class")] ∧
      ∃ before place, makeDirectories ⟨[]⟩ "gen" = some before ∧ before.follow [] (names "gen") = .ok place ∧
        ∀ file ∈ made.model.files.entries,
          before.resolve (joinPath "gen" file.1) = .ok ["Order.cs"] ∧
          before.resolve (joinPath "gen" file.1) ≠ .ok (place ++ [file.1]) := by
  have hentries : (report { mode := .entitiesOnly } wordTemplates outwardModel).toOption.map
      (·.model.files.entries) = some [(".././Order.cs", "class"), ("../Order.cs", "class")] := by
    decide +kernel
  obtain ⟨made, hmade, hfiles⟩ := Option.map_eq_some_iff.1 hentries
  have hreport : report { mode := .entitiesOnly } wordTemplates outwardModel = .ok made := by
    cases h : report { mode := .entitiesOnly } wordTemplates outwardModel with
    | error e => rw [h] at hmade; cases hmade
    | ok other => rw [h] at hmade; cases hmade; rfl
  have hdirectory : makeDirectories ⟨[]⟩ "gen" = some ⟨[(["gen"], .directory)]⟩ := by decide +kernel
  have hpaths : ∀ file ∈ [(".././Order.cs", "class"), ("../Order.cs", "class")],
      resolve ⟨[(["gen"], .directory)]⟩ (joinPath "gen" file.1) = .ok ["Order.cs"] ∧ '/' ∈ file.1.toList := by
    decide +kernel
  have hrun : ((writeFiles "gen" [(".././Order.cs", "class"), ("../Order.cs", "class")] :
      CommandM (StateM Session) Unit).run { workspace := ⟨[]⟩ }).1.toOption = some () := by decide +kernel
  have hafter : ((writeFiles "gen" [(".././Order.cs", "class"), ("../Order.cs", "class")] :
      CommandM (StateM Session) Unit).run { workspace := ⟨[]⟩ }).2.workspace.files =
        [("Order.cs", "class")] := by decide +kernel
  rcases hwrite : (writeFiles "gen" [(".././Order.cs", "class"), ("../Order.cs", "class")] :
      CommandM (StateM Session) Unit).run { workspace := ⟨[]⟩ } with ⟨result, after⟩
  rw [hwrite] at hrun hafter
  cases result with
  | error fault => cases hrun
  | ok _ => ?_
  refine ⟨made, after, hreport, hfiles, hfiles ▸ hwrite, hafter, ?_⟩
  rcases writeFiles_report hreport (hfiles ▸ hwrite) with ⟨-, hfails⟩ |
    ⟨before, place, written, rest, hmade, hplace, -, hall, hrest, hdirect, -⟩
  · exact absurd rfl hfails
  · obtain rfl : before = ⟨[(["gen"], .directory)]⟩ := Option.some_inj.1 (hmade.symm.trans hdirectory)
    rw [hrest rfl, List.append_nil] at hall
    refine ⟨_, place, hdirectory, hplace, fun file hf => ?_⟩
    obtain ⟨hpath, hslash⟩ := hpaths file (hfiles ▸ hf)
    exact ⟨hpath, fun hresolve => ((hdirect file (hall ▸ hf)).1.1 hresolve) hslash⟩

end Command

end EntityScaffold
