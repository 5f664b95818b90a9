import EntityScaffold.Proofs.Command.ExportSuccess
import EntityScaffold.Proofs.Command.Generating
import EntityScaffold.Proofs.Templates.Parsed
import EntityScaffold.Proofs.Templates.Paths
import Mathlib.Data.List.Pairwise
import Mathlib.Data.String.Basic

/-! # The bundled templates below a directory

The bundled templates are apart from each other, so that an export leaves each of them below the directory, or what
stood there. Files are generated from a directory of exported templates as they are without one, also when some of
the exported templates are gone.
-/

namespace EntityScaffold

/-! ## Stores -/

theorem insertEntry_of_mem {α : Type} {key : String} {value : α} {entries : List (String × α)}
    (h : (key, value) ∈ entries) (hentries : Ascending entries) : insertEntry key value entries = entries := by
  induction entries with
  | nil => cases h
  | cons entry rest ih =>
    obtain ⟨name, other⟩ := entry
    obtain ⟨hfirst, hrest⟩ := List.pairwise_cons.1 hentries
    rcases List.mem_cons.1 h with heq | hmem
    · cases heq
      rw [insertEntry, if_neg (String.lt_irrefl key), if_neg (String.lt_irrefl key)]
    · have hlt : name < key := hfirst _ hmem
      rw [insertEntry, if_neg (String.lt_asymm hlt), if_pos hlt, ih hmem hrest]

theorem TemplateStore.get?_insert (store : TemplateStore) (path source other : String) :
    (store.insert path source).get? other =
      if normalizePath other = normalizePath path then some source else store.get? other :=
  store.files.get?_insert ..

theorem TemplateStore.mem_toList_iff {store : TemplateStore} {path source : String} :
    (normalizePath path, source) ∈ store.toList ↔ store.get? path = some source :=
  store.files.mem_entries_iff

/-- Putting in a template that is there already changes nothing. -/
theorem TemplateStore.insert_of_get? {store : TemplateStore} {path source : String}
    (h : store.get? path = some source) : store.insert path source = store := by
  obtain ⟨⟨entries, hentries⟩⟩ := store
  have hmem : (normalizePath path, source) ∈ entries := TemplateStore.mem_toList_iff.2 h
  simp only [insert, Keyed.insert, insertEntry_of_mem hmem hentries]

theorem TemplateStore.pairwise_toList (store : TemplateStore) :
    store.toList.Pairwise fun template other => template.1 < other.1 :=
  store.files.ascending

/-! ## The bundled templates -/

namespace Bundled

open Command Workspace

theorem templatePaths_eq : templatePaths =
    ["CSharpDbContext/DbContext.hbs", "CSharpDbContext/Partials/DbImports.hbs",
      "CSharpDbContext/Partials/DbConstructor.hbs", "CSharpDbContext/Partials/DbSets.hbs",
      "CSharpEntityType/Class.hbs", "CSharpEntityType/Partials/Imports.hbs",
      "CSharpEntityType/Partials/Constructor.hbs", "CSharpEntityType/Partials/Properties.hbs",
      "TypeScriptEntityType/Interface.hbs", "TypeScriptEntityType/Partials/Imports.hbs",
      "TypeScriptEntityType/Partials/Constructor.hbs", "TypeScriptEntityType/Partials/Properties.hbs"] := rfl

theorem names_templatePaths : templatePaths.map names =
    [["CSharpDbContext", "DbContext.hbs"], ["CSharpDbContext", "Partials", "DbImports.hbs"],
      ["CSharpDbContext", "Partials", "DbConstructor.hbs"], ["CSharpDbContext", "Partials", "DbSets.hbs"],
      ["CSharpEntityType", "Class.hbs"], ["CSharpEntityType", "Partials", "Imports.hbs"],
      ["CSharpEntityType", "Partials", "Constructor.hbs"], ["CSharpEntityType", "Partials", "Properties.hbs"],
      ["TypeScriptEntityType", "Interface.hbs"], ["TypeScriptEntityType", "Partials", "Imports.hbs"],
      ["TypeScriptEntityType", "Partials", "Constructor.hbs"],
      ["TypeScriptEntityType", "Partials", "Properties.hbs"]] := by
  simp only [templatePaths_eq, List.map_cons, List.map_nil]
  repeat rw [names_ofList]
  rfl

theorem isInner_of_mem {path : String} (h : path ∈ templatePaths) : IsInner path := by
  have hall : ∀ way ∈ templatePaths.map names,
      (∀ name ∈ way, IsOrdinary name ∧ isName name) ∧ 1 < way.length := by
    rw [names_templatePaths]
    decide +kernel
  obtain ⟨hnames, hnested⟩ := hall _ (List.mem_map_of_mem h)
  exact ⟨fun name hname => (hnames name hname).1, fun name hname => (hnames name hname).2, hnested⟩

/-- No template is where another needs a directory. -/
theorem not_isPrefix_of_mem {path other : String} (h : path ∈ templatePaths) (ho : other ∈ templatePaths)
    (hne : path ≠ other) : ¬ names path <+: names other ∧ ¬ names other <+: names path := by
  have hall : (templatePaths.map names).Pairwise fun way others => ¬ way <+: others ∧ ¬ others <+: way := by
    rw [names_templatePaths]
    decide +kernel
  have : Std.Symm fun path other => ¬ names path <+: names other ∧ ¬ names other <+: names path :=
    ⟨fun _ _ => And.symm⟩
  exact (List.pairwise_map.1 hall).forall h ho hne

theorem normalizePath_of_mem {path : String} (h : path ∈ templatePaths) : normalizePath path = path := by
  have hall : templatePaths.map normalizePath = templatePaths.map id := by
    simp only [templatePaths_eq, List.map_cons, List.map_nil]
    repeat rw [normalizePath_ofList]
    rfl
  exact List.map_inj_left.1 hall path h

/-- Every bundled template has one of the known paths, under which it is found. -/
theorem of_mem_store {template : String × String} (h : template ∈ store.toList) :
    template.1 ∈ templatePaths ∧ store.get? template.1 = some template.2 := by
  have hpaths : ∀ entry ∈ all, entry.1 ∈ templatePaths := by
    simp [all, templatePaths, dbContextTemplate, dbContextPartials, LanguageMode.entityTemplate,
      LanguageMode.entityPartials]
  obtain ⟨given, hgiven, hnormal⟩ := TemplateStore.exists_of_mem_ofList h
  rw [normalizePath_of_mem (hpaths given hgiven)] at hnormal
  have hpath := hnormal ▸ hpaths given hgiven
  exact ⟨hpath, TemplateStore.get?_of_fixed h (normalizePath_of_mem hpath)⟩

theorem mem_store {path source : String} (h : path ∈ templatePaths) (hfound : store.get? path = some source) :
    (path, source) ∈ store.toList := by
  rw [← TemplateStore.mem_toList_iff, normalizePath_of_mem h] at hfound
  exact hfound

theorem dbContext_mem_store : (dbContextTemplate, dbContext) ∈ store.toList :=
  mem_store List.mem_cons_self (get?_store 0 rfl)

/-- The template of the database context comes first. -/
theorem exists_toList_store : ∃ rest, store.toList = (dbContextTemplate, dbContext) :: rest := by
  have hleast : ∀ path ∈ templatePaths, ¬ path < dbContextTemplate := by
    rw [templatePaths_eq, dbContextTemplate]
    simp only [List.forall_mem_cons, String.lt_iff_toList_lt]
    repeat rw [String.toList_ofList]
    decide +kernel
  have hmem := dbContext_mem_store
  have hlisted : ∀ template ∈ store.toList, template.1 ∈ templatePaths := fun template ht => (of_mem_store ht).1
  have hascending := store.pairwise_toList
  cases htemplates : store.toList with
  | nil => rw [htemplates] at hmem; cases hmem
  | cons first rest =>
    rw [htemplates] at hmem hlisted hascending
    rcases List.mem_cons.1 hmem with rfl | hrest
    · exact ⟨rest, rfl⟩
    · exact absurd ((List.pairwise_cons.1 hascending).1 _ hrest) (hleast _ (hlisted _ List.mem_cons_self))

theorem areTemplates_store : AreTemplates store.toList := by
  refine ⟨fun template ht => isInner_of_mem (of_mem_store ht).1, ?_⟩
  refine store.pairwise_toList.imp_of_mem fun {template other} ht ho hlt => ?_
  exact not_isPrefix_of_mem (of_mem_store ht).1 (of_mem_store ho).1 (String.ne_of_lt hlt)

end Bundled

namespace Command

open Workspace

/-! ## Places without what stood there -/

namespace Workspace

/-- A workspace without what stands at some places. -/
def without (workspace : Workspace) (gone : List Place) : Workspace :=
  ⟨workspace.entries.filter fun entry => entry.1 ∉ gone⟩

variable {workspace : Workspace} {gone : List Place} {path text : String} {entry : Entry}

theorem lookup_without (entries : List (Place × Entry)) (gone : List Place) (place : Place) :
    (entries.filter fun entry => entry.1 ∉ gone).lookup place =
      if place ∈ gone then none else entries.lookup place := by
  induction entries with
  | nil => simp
  | cons first rest ih =>
    obtain ⟨key, value⟩ := first
    by_cases hkey : key ∈ gone
    · rw [List.filter_cons_of_neg (by simpa using hkey), ih]
      split
      · rfl
      · next hplace =>
        have hb : (place == key) = false := beq_eq_false_iff_ne.2 fun heq => hplace (heq ▸ hkey)
        rw [List.lookup_cons, hb]
    · rw [List.filter_cons_of_pos (by simpa using hkey), List.lookup_cons, ih, List.lookup_cons]
      by_cases heq : place = key
      · subst heq
        simp [hkey]
      · have hb : (place == key) = false := beq_eq_false_iff_ne.2 heq
        rw [hb]

theorem find?_of_without {place : Place} (h : (workspace.without gone).find? place = some entry) :
    workspace.find? place = some entry := by
  rw [find?, without, lookup_without] at h
  rw [find?]
  split at h
  · rw [Option.or_none] at h
    rw [h, Option.some_or]
  · exact h

theorem entry?_of_without (h : entry? (workspace.without gone) path = some entry) :
    workspace.entry? path = some entry := by
  have hkeeps : (workspace.without gone).KeepsDirectories workspace := fun place => find?_of_without
  obtain ⟨target, hresolve, hfind⟩ := exists_of_entry? h
  rw [entry?_of_resolve (hkeeps.resolve hresolve), find?_of_without hfind]

theorem entry?_of_readText (h : workspace.readText path = .ok text) : workspace.entry? path = some (.file text) := by
  unfold readText at h
  unfold entry?
  cases hresolve : workspace.resolve path with
  | error fault => rw [hresolve] at h; cases h
  | ok place =>
    rw [hresolve] at h
    dsimp only [Except.bind] at h ⊢
    split at h
    · next hfind => cases h; exact hfind
    · cases h
    · cases h

end Workspace

/-! ## Templates from a directory -/

variable {directory : String} {session : Session}

/-- A directory goes before a store at the paths that are read, and nowhere else. -/
theorem Workspace.get?_overlaid (workspace : Workspace) (directory : String) {path : String}
    (hpath : normalizePath path = path) (store : TemplateStore) {paths : List String}
    (h : ∀ other ∈ paths, normalizePath other = other) :
    (workspace.overlaid directory store paths).get? path =
      if path ∈ paths then (workspace.readText (joinPath directory path)).toOption.or (store.get? path)
      else store.get? path := by
  induction paths generalizing store with
  | nil => rfl
  | cons first rest ih =>
    rw [overlaid, List.foldl_cons]
    refine (ih _ fun other ho => h other (List.mem_cons_of_mem _ ho)).trans ?_
    by_cases hfirst : path = first
    · -- A path that comes again is read again, with what it was put in with.
      subst hfirst
      cases hread : workspace.readText (joinPath directory path) with
      | ok source => simp [TemplateStore.get?_insert, Except.toOption]
      | error fault => simp [Except.toOption]
    · have hother : ∀ source, (store.insert first source).get? path = store.get? path := fun source => by
        rw [TemplateStore.get?_insert, hpath, h first List.mem_cons_self, if_neg hfirst]
      have hmem : path ∈ first :: rest ↔ path ∈ rest := by simp [hfirst]
      cases workspace.readText (joinPath directory first) with
      | ok source => simp only [hother, hmem]
      | error fault => simp only [hmem]

/-- A template of a run is that of the directory or, where that has none, the bundled one. -/
theorem Workspace.get?_templatesOf (workspace : Workspace) (directory : String) {path : String}
    (h : path ∈ templatePaths) :
    (workspace.templatesOf (some directory)).get? path =
      (workspace.readText (joinPath directory path)).toOption.or (Bundled.store.get? path) := by
  rw [templatesOf, get?_overlaid workspace directory (Bundled.normalizePath_of_mem h) _
    fun _ => Bundled.normalizePath_of_mem, if_pos h]

/-- A directory whose templates are those of a store changes nothing. -/
theorem Workspace.overlaid_eq_self {workspace : Workspace} {store : TemplateStore} {paths : List String}
    (h : ∀ path ∈ paths, ∀ text,
      workspace.readText (joinPath directory path) = .ok text → store.get? path = some text) :
    workspace.overlaid directory store paths = store := by
  induction paths with
  | nil => rfl
  | cons path rest ih =>
    have hrest := ih fun other ho => h other (List.mem_cons_of_mem _ ho)
    rw [overlaid, List.foldl_cons]
    split
    · next source hsource =>
      rw [TemplateStore.insert_of_get? (h path List.mem_cons_self source hsource)]
      exact hrest
    · exact hrest

/-- With templates that are the bundled ones, or missing, files are generated as with the bundled ones. -/
theorem run_generate_of_bundled (arguments : GenerateArguments) (h : ∀ path ∈ templatePaths, ∀ text,
    session.workspace.readText (joinPath directory path) = .ok text → Bundled.store.get? path = some text) :
    (generate { arguments with templates := some directory } : CommandM (StateM Session) Unit).run session =
      (generate { arguments with templates := none } : CommandM (StateM Session) Unit).run session := by
  have htemplates : session.workspace.templatesOf (some directory) = session.workspace.templatesOf none :=
    overlaid_eq_self h
  have hgenerated : session.workspace.generated { arguments with templates := some directory } =
      session.workspace.generated { arguments with templates := none } := by
    unfold generated
    rw [htemplates]
    rfl
  rw [run_generate, run_generate, hgenerated]

/-! ## Exports -/

variable {force : Bool} {after : Session} {place : Place} {written kept : List (String × String)}

/-- After an export each bundled template is below the directory. It was written, or kept if something was there and
nothing is to be replaced. All else is as it was before, but for new directories. -/
structure ExportResult (before after : Session) (directory : String) (force : Bool) (place : Place)
    (written kept : List (String × String)) : Prop where
  leads : after.workspace.follow [] (names directory) = .ok place
  all : (written ++ kept).Perm Bundled.store.toList
  forced : force = true → kept = []
  holds : after.workspace.HoldsTemplates before.workspace directory place written kept
  unchanged : ∀ template ∈ kept, ∀ entry,
    before.workspace.entry? (joinPath directory template.1) = some entry →
      after.workspace.entry? (joinPath directory template.1) = some entry
  output : after.output = before.output
  diagnostics : after.diagnostics =
    before.diagnostics ++ keptText directory kept ++ exportedText directory written.length

namespace ExportResult

theorem of_exports (h : Exports directory force session.workspace Bundled.store.toList written kept after.workspace)
    (hplace : after.workspace.follow [] (names directory) = .ok place) (houtput : after.output = session.output)
    (htext : after.diagnostics =
      session.diagnostics ++ keptText directory kept ++ exportedText directory written.length) :
    ExportResult session after directory force place written kept where
  leads := hplace
  all := h.perm
  forced := h.kept_eq_nil
  holds := h.holdsTemplates Bundled.areTemplates_store hplace
  unchanged _ ht _ := h.entry?_of_mem_kept Bundled.areTemplates_store ht
  output := houtput
  diagnostics := htext

variable (h : ExportResult session after directory force place written kept)
include h

theorem isSome_entry? : ∀ template ∈ Bundled.store.toList,
    (after.workspace.entry? (joinPath directory template.1)).isSome := by
  intro template ht
  have hmem := h.all.symm.subset ht
  rw [entry?_of_resolve (h.holds.resolves template hmem)]
  rcases List.mem_append.1 hmem with hwritten | hkept
  · rw [h.holds.own template hwritten]
    rfl
  · exact h.holds.there template hkept

/-- Where nothing stood before, a text below the directory is that of a bundled template. -/
theorem get?_of_entry? (hfree : ∀ path ∈ templatePaths, session.workspace.find? (place ++ names path) = none)
    {path text : String} (hpath : path ∈ templatePaths)
    (hentry : after.workspace.entry? (joinPath directory path) = some (.file text)) :
    Bundled.store.get? path = some text := by
  obtain ⟨target, hresolve, hfind⟩ := exists_of_entry? hentry
  obtain rfl := (Bundled.isInner_of_mem hpath).resolve_of_exists hresolve h.leads
  by_cases hwritten : ∃ template ∈ written, template.1 = path
  · obtain ⟨template, ht, rfl⟩ := hwritten
    rw [h.holds.own template ht] at hfind
    cases hfind
    exact (Bundled.of_mem_store (h.all.subset (List.mem_append_left _ ht))).2
  · have hother : ∀ template ∈ written, place ++ names path ≠ place ++ names template.1 := by
      intro template ht heq
      have hlisted := (Bundled.of_mem_store (h.all.subset (List.mem_append_left _ ht))).1
      have hne : path ≠ template.1 := fun hsame => hwritten ⟨template, ht, hsame.symm⟩
      exact (Bundled.not_isPrefix_of_mem hpath hlisted hne).1 (List.append_cancel_left heq ▸ List.prefix_rfl)
    rcases h.holds.others _ hother with hsame | ⟨-, hnew⟩
    · rw [hsame, hfree path hpath] at hfind
      cases hfind
    · rw [hnew] at hfind
      cases hfind

end ExportResult

/-- An export below a directory that is there ends well if nothing is in the way of any template. -/
theorem exists_run_exportTemplates (session : Session) (force : Bool) (htree : session.workspace.IsTree)
    (hleads : session.workspace.follow [] (names directory) = .ok place)
    (hplace : session.workspace.find? place = some .directory)
    (hfree : ∀ path ∈ templatePaths, session.workspace.IsFree directory place path) :
    ∃ after, (exportTemplates directory force : CommandM (StateM Session) Unit).run session = (.ok (), after) := by
  rw [exportTemplates_eq]
  exact exists_run_exportAll Bundled.areTemplates_store session force htree hleads hplace fun template ht =>
    hfree _ (Bundled.of_mem_store ht).1

/-- What an export does that ends well: which templates it keeps is up to what stood there before, if the directory
was there or its path does not go outwards. Exporting again keeps all of them. Where nothing stood before, files are
generated with the exported templates, or some of them, as with the bundled ones. -/
theorem exportTemplates_ok
    (h : (exportTemplates directory force : CommandM (StateM Session) Unit).run session = (.ok (), after)) :
    ∃ place written kept, ExportResult session after directory force place written kept ∧
      (session.workspace.IsTree → ".." ∉ names directory ∨ session.workspace.isDirectory (names directory) →
        kept = Bundled.store.toList.filter (session.workspace.isKept directory force) ∧
          written = Bundled.store.toList.filter (!session.workspace.isKept directory force ·)) ∧
      (∀ later : Session, later.workspace = after.workspace →
        (exportTemplates directory false : CommandM (StateM Session) Unit).run later =
          (.ok (), { later with diagnostics :=
            later.diagnostics ++ keptText directory Bundled.store.toList ++ exportedText directory 0 })) ∧
      ((∀ path ∈ templatePaths, session.workspace.find? (place ++ names path) = none) →
        ∀ (gone : List Place) (later : Session), (∀ path ∈ templatePaths,
          later.workspace.entry? (joinPath directory path) =
            entry? (after.workspace.without gone) (joinPath directory path)) →
          ∀ arguments : GenerateArguments,
            (generate { arguments with templates := some directory } : CommandM (StateM Session) Unit).run later =
              (generate { arguments with templates := none } : CommandM (StateM Session) Unit).run later) := by
  rw [exportTemplates_eq] at h
  obtain ⟨written, kept, hexports, houtput, htext⟩ := exists_exports_of_exportAll h
  have hinner := Bundled.areTemplates_store.inner
  obtain ⟨place, hplace⟩ := hexports.exists_place hinner (List.ne_nil_of_mem Bundled.dbContext_mem_store)
  have hresult := ExportResult.of_exports hexports hplace houtput htext
  refine ⟨place, written, kept, hresult, hexports.eq_filter Bundled.areTemplates_store, fun later hlater => ?_,
    fun hfree gone later hlater arguments => ?_⟩
  · rw [exportTemplates_eq]
    exact run_exportAll_of_there (hlater ▸ hresult.isSome_entry?)
  · refine run_generate_of_bundled arguments fun path hpath text hread => ?_
    have hentry := entry?_of_readText hread
    rw [hlater path hpath] at hentry
    exact hresult.get?_of_entry? hfree hpath (entry?_of_without hentry)

theorem isFree_of_names {workspace : Workspace}
    (h : ∀ way ∈ templatePaths.map names,
      workspace.IsOpen place way.dropLast ∧ workspace.find? (place ++ way) ≠ some .directory)
    (hsize : ∀ path ∈ templatePaths, ¬ maxPathSize < (joinPath directory path).utf8ByteSize) :
    ∀ path ∈ templatePaths, workspace.IsFree directory place path := fun path hpath =>
  have hway := h _ (List.mem_map_of_mem hpath)
  ⟨hway.1, hway.2, hsize path hpath⟩

/-- A workspace with a template of its own. -/
def ownTemplate : Workspace := .ofFiles [(dbContextTemplate, "mine")]

theorem isTree_ownTemplate : ownTemplate.IsTree := by
  refine isTree_ofFiles ⟨fun file hf => ?_, fun file hf other ho _ => ?_⟩
  · obtain rfl := List.mem_singleton.1 hf
    exact (Bundled.isInner_of_mem List.mem_cons_self).ordinary
  · rw [List.mem_singleton.1 hf, List.mem_singleton.1 ho]

/-- In an empty workspace all templates are written, and files are generated with them as without them. A template of
its own is kept. -/
theorem exportTemplates_ok_here :
    (∃ after, (exportTemplates "." false : CommandM (StateM Session) Unit).run { workspace := ⟨[]⟩ } =
        (.ok (), after) ∧
      ∀ arguments : GenerateArguments,
        (generate { arguments with templates := some "." } : CommandM (StateM Session) Unit).run after =
          (generate { arguments with templates := none } : CommandM (StateM Session) Unit).run after) ∧
    ∃ after place written kept,
      (exportTemplates "." false : CommandM (StateM Session) Unit).run { workspace := ownTemplate } =
        (.ok (), after) ∧
      ExportResult { workspace := ownTemplate } after "." false place written kept ∧
      (dbContextTemplate, Bundled.dbContext) ∈ kept ∧
      after.workspace.entry? (joinPath "." dbContextTemplate) = some (.file "mine") := by
  have hsize : ∀ path ∈ templatePaths, ¬ maxPathSize < (joinPath "." path).utf8ByteSize := by decide +kernel
  constructor
  · have hfree : ∀ path ∈ templatePaths, IsFree ⟨[]⟩ "." [] path := by
      refine isFree_of_names ?_ hsize
      rw [Bundled.names_templatePaths]
      decide +kernel
    obtain ⟨after, hrun⟩ := exists_run_exportTemplates { workspace := ⟨[]⟩ } false isTree_empty rfl rfl hfree
    obtain ⟨place, written, kept, hresult, -, -, hgenerate⟩ := exportTemplates_ok hrun
    refine ⟨after, hrun, hgenerate (fun path hpath => ?_) [] after fun path _ => ?_⟩
    · exact Option.or_none.trans ((Bundled.isInner_of_mem hpath).fixed?_eq_none place)
    · simp [without]
  · have hfree : ∀ path ∈ templatePaths, ownTemplate.IsFree "." [] path := by
      refine isFree_of_names ?_ hsize
      rw [Bundled.names_templatePaths]
      decide +kernel
    obtain ⟨after, hrun⟩ :=
      exists_run_exportTemplates { workspace := ownTemplate } false isTree_ownTemplate rfl rfl hfree
    obtain ⟨place, written, kept, hresult, hfilter, -⟩ := exportTemplates_ok hrun
    have hmine : ownTemplate.entry? (joinPath "." dbContextTemplate) = some (.file "mine") := by decide +kernel
    have hkept : (dbContextTemplate, Bundled.dbContext) ∈ kept := by
      rw [(hfilter isTree_ownTemplate (.inl (by decide))).1, List.mem_filter, isKept]
      dsimp only
      rw [hmine]
      exact ⟨Bundled.dbContext_mem_store, rfl⟩
    exact ⟨after, place, written, kept, hrun, hresult, hkept, hresult.unchanged _ hkept _ hmine⟩

/-! ## A directory on whose way another is missing -/

/-- The path of another bundled template. -/
def dbConstructorTemplate : String := "CSharpDbContext/Partials/DbConstructor.hbs"

/-- A directory with two templates of its own. -/
def ownTemplates : Workspace :=
  .ofFiles [(joinPath "b" dbContextTemplate, "mine"), (joinPath "b" dbConstructorTemplate, "mine")]

/-- The workspace once the first template is written. -/
def firstWritten : Workspace :=
  (ownTemplates.put ["a"] .directory).put ["b", "CSharpDbContext", "DbContext.hbs"] (.file Bundled.dbContext)

theorem isTree_ownTemplates : ownTemplates.IsTree := isTree_ofFiles ⟨by decide +kernel, by decide +kernel⟩

/-- The directory on the way is made, then the first template is written, and the path leads to a directory. -/
theorem writes_firstWritten :
    ownTemplates.makeDirectories (parentPath (joinPath "a/../b" dbContextTemplate)) =
      some (ownTemplates.put ["a"] .directory) ∧
    (ownTemplates.put ["a"] .directory).writeText (joinPath "a/../b" dbContextTemplate) Bundled.dbContext =
      some firstWritten ∧
    firstWritten.follow [] (names "a/../b") = .ok ["b"] ∧ firstWritten.find? ["b"] = some .directory := by
  decide +kernel

theorem makeDirectories_ownTemplates : ownTemplates.makeDirectories
    (parentPath (joinPath "a/../b" dbContextTemplate)) = some (ownTemplates.put ["a"] .directory) :=
  writes_firstWritten.1

theorem writeText_ownTemplates : (ownTemplates.put ["a"] .directory).writeText
    (joinPath "a/../b" dbContextTemplate) Bundled.dbContext = some firstWritten :=
  writes_firstWritten.2.1

theorem isTree_firstWritten : firstWritten.IsTree :=
  (isTree_ownTemplates.makeDirectories makeDirectories_ownTemplates).writeText writeText_ownTemplates

theorem follow_firstWritten : firstWritten.follow [] (names "a/../b") = .ok ["b"] := writes_firstWritten.2.2.1

theorem find?_firstWritten : firstWritten.find? ["b"] = some .directory := writes_firstWritten.2.2.2

theorem isFree_firstWritten : ∀ path ∈ templatePaths, firstWritten.IsFree "a/../b" ["b"] path := by
  refine isFree_of_names ?_ (by decide +kernel)
  rw [Bundled.names_templatePaths]
  decide +kernel

/-- The first template is written, and with it the directory on the way. So all others are put where the directory
is. -/
theorem exists_exports_outward : ∃ rest count written kept after,
    Bundled.store.toList = (dbContextTemplate, Bundled.dbContext) :: rest ∧
      Exports "a/../b" false firstWritten rest written kept after.workspace ∧
        (exportEach "a/../b" false Bundled.store.toList :
          CommandM (StateM Session) Nat).run { workspace := ownTemplates } = (.ok (count + 1), after) := by
  obtain ⟨rest, hrest⟩ := Bundled.exists_toList_store
  have htemplates := hrest ▸ Bundled.areTemplates_store
  have hkept : ownTemplates.isKept "a/../b" false (dbContextTemplate, Bundled.dbContext) = false := by
    decide +kernel
  obtain ⟨count, after, hrun⟩ : ∃ count after,
      (exportEach "a/../b" false rest : CommandM (StateM Session) Nat).run { workspace := firstWritten } =
        (.ok count, after) :=
    exists_run_exportEach htemplates.tail isTree_firstWritten follow_firstWritten find?_firstWritten
      fun template ht => isFree_firstWritten _ (Bundled.of_mem_store (hrest ▸ List.mem_cons_of_mem _ ht)).1
  obtain ⟨written, kept, hexports, -⟩ := exists_exports hrun
  refine ⟨rest, count, written, kept, after, hrest, hexports, ?_⟩
  rw [hrest]
  exact run_exportEach_of_written hkept makeDirectories_ownTemplates writeText_ownTemplates hrun

/-- As long as a directory on the way is missing, what stands below is not seen: the first template is replaced
though nothing is to be, and the second one, which is seen once the directory was made, is kept. -/
theorem exportTemplates_outward : ownTemplates.IsTree ∧
    (∀ path ∈ [dbContextTemplate, dbConstructorTemplate],
      ownTemplates.entry? (joinPath "b" path) = some (.file "mine")) ∧
    ∃ after, (exportTemplates "a/../b" false : CommandM (StateM Session) Unit).run { workspace := ownTemplates } =
        (.ok (), after) ∧
      after.workspace.entry? (joinPath "b" dbContextTemplate) = some (.file Bundled.dbContext) ∧
      after.workspace.entry? (joinPath "b" dbConstructorTemplate) = some (.file "mine") := by
  refine ⟨isTree_ownTemplates, by decide +kernel, ?_⟩
  obtain ⟨rest, count, written, kept, after, hrest, hexports, hrun⟩ := exists_exports_outward
  have htemplates := hrest ▸ Bundled.areTemplates_store
  have hkeeps := hexports.keeps htemplates.tail.inner
  have hplace := hkeeps.follow follow_firstWritten
  have hresolve : ∀ path ∈ [dbContextTemplate, dbConstructorTemplate],
      firstWritten.resolve (joinPath "b" path) = .ok (["b"] ++ names path) := by decide +kernel
  refine ⟨{ after with diagnostics := after.diagnostics ++ exportedText "a/../b" (count + 1) }, ?_, ?_, ?_⟩
  · rw [exportTemplates_eq, run_exportAll, hrun]
  · have hfind : firstWritten.find? (["b"] ++ names dbContextTemplate) = some (.file Bundled.dbContext) := by
      decide +kernel
    rw [entry?_of_resolve (hkeeps.resolve (hresolve _ List.mem_cons_self))]
    have hother := hexports.ne_of_mem_written htemplates ["b"]
    rcases (hexports.holdsTemplates htemplates.tail hplace).others _ hother with hsame | ⟨hnone, -⟩
    · exact hsame.trans hfind
    · cases hnone.symm.trans hfind
  · have hother : (dbConstructorTemplate, Bundled.dbConstructor) ∈ rest := by
      have hmem : (dbConstructorTemplate, Bundled.dbConstructor) ∈ Bundled.store.toList :=
        Bundled.mem_store (by decide +kernel) (Bundled.get?_store 2 rfl)
      rw [hrest] at hmem
      exact (List.mem_cons.1 hmem).resolve_left fun heq => absurd (congrArg Prod.fst heq) (by decide +kernel)
    have hmine : firstWritten.entry? (joinPath "a/../b" dbConstructorTemplate) = some (.file "mine") := by
      decide +kernel
    have hopen := isDirectory_iff.2 ⟨["b"], follow_firstWritten, find?_firstWritten⟩
    have hstays : (dbConstructorTemplate, Bundled.dbConstructor) ∈ kept := by
      rw [(hexports.eq_filter htemplates.tail isTree_firstWritten (.inr hopen)).1, List.mem_filter, isKept]
      dsimp only
      rw [hmine]
      exact ⟨hother, rfl⟩
    obtain ⟨target, htarget, hfind⟩ :=
      exists_of_entry? (hexports.entry?_of_mem_kept htemplates.tail hstays hmine)
    obtain rfl := (htemplates.tail.inner _ hother).resolve_of_exists htarget hplace
    rw [entry?_of_resolve (hkeeps.resolve (hresolve _ (List.mem_cons_of_mem _ List.mem_cons_self))), hfind]

end Command

end EntityScaffold
