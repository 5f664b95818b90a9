import EntityScaffold.Proofs.Generation.Complete
import EntityScaffold.Proofs.Generation.Referring

/-! # Files of a run

A run makes files exactly if none of its outputs fails. The files are then the entries of the outputs, whose
names are different.
-/

namespace EntityScaffold

variable {σ : Type}

/-! ## Collections -/

namespace Keyed

variable {α : Type}

/-- Collections with the same entries are equal, since both list them in ascending order. -/
theorem eq_of_perm {first second : Keyed α} (h : first.entries.Perm second.entries) : first = second := by
  obtain ⟨entries, hascending⟩ := first
  obtain ⟨others, hascending'⟩ := second
  have heq : entries = others := List.Perm.eq_of_pairwise
    (fun a b _ _ hab hba => absurd hba (String.lt_asymm hab)) hascending hascending' h
  subst heq
  rfl

/-- The names of entries are different, so it does not matter which of them is looked at first. -/
theorem lookup_reverse (m : Keyed α) (name : String) : m.entries.reverse.lookup name = m.get? name := by
  have hnames : (m.entries.reverse.map Prod.fst).Nodup := by
    rw [List.map_reverse, List.nodup_reverse]
    exact m.nodup_keys
  cases h : m.get? name with
  | none =>
    refine lookup_eq_none_of_notMem fun hmem => ?_
    rw [List.map_reverse, List.mem_reverse] at hmem
    obtain ⟨⟨_, value⟩, he, rfl⟩ := List.mem_map.1 hmem
    have hfound : m.get? _ = some value := lookup_of_mem m.nodup_keys he
    rw [h] at hfound
    cases hfound
  | some value =>
    obtain ⟨before, after, hsplit, -⟩ := List.lookup_eq_some_iff.1 h
    exact lookup_of_mem hnames (List.mem_reverse.2 (by simp [hsplit]))

/-- Entries under new names are added to those that are there. -/
theorem perm_insertAll {entries : List (String × α)} (known : Keyed α)
    (h : (known.keys ++ entries.map Prod.fst).Nodup) :
    (known.insertAll entries).entries.Perm (known.entries ++ entries) := by
  induction entries generalizing known with
  | nil => simp [insertAll]
  | cons entry rest ih =>
    obtain ⟨key, value⟩ := entry
    have hnew : known.entries.lookup key = none := by
      refine lookup_eq_none_of_notMem fun hkey => ?_
      exact (List.nodup_append.1 h).2.2 key hkey key List.mem_cons_self rfl
    have hinserted : (known.insert key value).entries.Perm ((key, value) :: known.entries) :=
      insertEntry_perm value hnew
    have hkeys : ((known.insert key value).keys ++ rest.map Prod.fst).Nodup := by
      refine (List.Perm.nodup_iff ?_).1 h
      exact List.perm_middle.trans ((hinserted.map Prod.fst).symm.append_right _)
    exact ((ih (known.insert key value) hkeys).trans (hinserted.append_right rest)).trans
      List.perm_middle.symm

end Keyed

/-! ## Files of two runs -/

namespace ScaffoldedModel

variable {first second : ScaffoldedModel}

theorem eq_of_perm (h : first.files.entries.Perm second.files.entries)
    (hcontext : first.dbContextFile = second.dbContextFile) : first = second := by
  obtain ⟨files, contextFile⟩ := first
  obtain ⟨others, otherFile⟩ := second
  cases Keyed.eq_of_perm h
  cases hcontext
  rfl

/-- The files of two runs; the database context is that of the first. -/
def union (first second : ScaffoldedModel) : ScaffoldedModel :=
  ⟨first.files.insertAll second.files.entries, first.dbContextFile⟩

/-- Runs that share no name lose no file when they are put together. -/
theorem perm_union (h : first.files.keys.Disjoint second.files.keys) :
    (first.union second).files.entries.Perm (first.files.entries ++ second.files.entries) :=
  first.files.perm_insertAll (first.files.nodup_keys.append second.files.nodup_keys h)

end ScaffoldedModel

/-! ## Runs that make files -/

namespace Scaffolder

variable {scaffolder : Scaffolder σ} {model : DatabaseModel} {s : σ}

/-- No output of a run fails. -/
def Succeeds (scaffolder : Scaffolder σ) (model : DatabaseModel) (s : σ) : Prop :=
  ∀ outcome ∈ scaffolder.runOutcomes model s, ∃ file, outcome.result = .ok file

/-- The entries of the outputs of a run, in the order of the outputs. -/
def runEntries (scaffolder : Scaffolder σ) (model : DatabaseModel) (s : σ) : List (String × String) :=
  (scaffolder.runOutcomes model s).filterMap Outcome.entry?

/-- No output of a run fails, and the files are those of the outputs. -/
structure Makes (scaffolder : Scaffolder σ) (model : DatabaseModel) (s : σ) (files : ScaffoldedModel) :
    Prop where
  succeeds : scaffolder.Succeeds model s
  entries : files.files.entries.Perm (scaffolder.runEntries model s)
  dbContextFile : files.dbContextFile =
    (scaffolder.dbContextOutcome (scaffolder.runScope model s) model).fileName?

theorem Makes.eq {files other : ScaffoldedModel} (h : scaffolder.Makes model s files)
    (h' : scaffolder.Makes model s other) : files = other :=
  ScaffoldedModel.eq_of_perm (h.entries.trans h'.entries.symm) (h.dbContextFile.trans h'.dbContextFile.symm)

theorem makes_of_generate {files : ScaffoldedModel} (h : (scaffolder.generate model s).1 = .ok files) :
    scaffolder.Makes model s files := by
  obtain ⟨report, hreport, h⟩ := exists_ok_of_bind h
  obtain ⟨collected, hmerges, rfl⟩ := exists_merges hreport
  unfold ScaffoldReport.toResult at h
  split at h
  · next hempty =>
    cases h
    have hnone : collected.failures = [] := List.isEmpty_iff.1 hempty
    refine ⟨fun outcome ho => ?_, hmerges.files, ?_⟩
    · rw [hmerges.failures, List.filterMap_eq_nil_iff] at hnone
      have hfailure := hnone outcome ho
      unfold Outcome.failure? at hfailure
      split at hfailure
      · next file hfile => exact ⟨file, hfile⟩
      · cases hfailure
    · exact dbContextFile_of_merges hmerges
  · cases h

/-- Where no output fails, a run makes files if their names are different, and ends with a collision if two
of them are the same. -/
theorem Succeeds.generate (h : scaffolder.Succeeds model s) :
    (((scaffolder.runEntries model s).map Prod.fst).Nodup →
      ∃ files, (scaffolder.generate model s).1 = .ok files) ∧
    (¬ ((scaffolder.runEntries model s).map Prod.fst).Nodup → ∃ fileName first second,
      (scaffolder.generate model s).1 = .error (.fileNameCollision fileName first second)) := by
  obtain ⟨hdistinct, hequal⟩ := generate_of_no_failure h
  rw [fileNames_eq] at hdistinct hequal
  refine ⟨fun hn => ?_, fun hn => ?_⟩
  · obtain ⟨files, hfiles, -⟩ := hdistinct hn
    exact ⟨files, hfiles⟩
  · obtain ⟨fileName, first, second, hcollision, -⟩ := hequal hn
    exact ⟨fileName, first, second, hcollision⟩

/-- A run makes files exactly if no output fails. Then they are those of the outputs. -/
theorem generate_eq_ok_iff {files : ScaffoldedModel} :
    (scaffolder.generate model s).1 = .ok files ↔ scaffolder.Makes model s files := by
  refine ⟨makes_of_generate, fun h => ?_⟩
  -- Names of files are different, so the outputs that they come from do not collide.
  have hdistinct : ((scaffolder.runEntries model s).map Prod.fst).Nodup :=
    (h.entries.map Prod.fst).nodup_iff.1 files.files.nodup_keys
  obtain ⟨made, hmade⟩ := h.succeeds.generate.1 hdistinct
  rw [hmade, (makes_of_generate hmade).eq h]

/-- A run can fail in the names, in the database context and in each entity type, and nowhere else. -/
theorem succeeds_iff : scaffolder.Succeeds model s ↔ (scaffolder.resolution model s).2 = [] ∧
    (∃ file, (scaffolder.dbContextOutcome (scaffolder.runScope model s) model).result = .ok file) ∧
    ∀ entity ∈ model.entityTypes, ∃ file,
      (scaffolder.entityOutcome (scaffolder.runScope model s) entity).result = .ok file := by
  constructor
  · intro h
    refine ⟨List.eq_nil_iff_forall_not_mem.2 fun failure hf => ?_, h _ ?_, fun entity he => h _ ?_⟩
    · obtain ⟨file, hfile⟩ := h (nameOutcome failure)
        (List.mem_append_left _ (List.mem_map_of_mem hf))
      cases hfile
    · exact List.mem_append_right _ List.mem_cons_self
    · exact List.mem_append_right _ (List.mem_cons_of_mem _ (List.mem_map_of_mem he))
  · rintro ⟨hnames, hcontext, hentities⟩ outcome ho
    rcases List.mem_append.1 ho with ho | ho
    · rw [hnames] at ho
      cases ho
    · rcases List.mem_cons.1 ho with rfl | ho
      · exact hcontext
      · obtain ⟨entity, he, rfl⟩ := List.mem_map.1 ho
        exact hentities entity he

/-- The entries of a run are that of the database context and those of the entity types. -/
theorem runEntries_eq (scaffolder : Scaffolder σ) (model : DatabaseModel) (s : σ) :
    scaffolder.runEntries model s =
      (Outcome.entry? (scaffolder.dbContextOutcome (scaffolder.runScope model s) model)).toList ++
        model.entityTypes.filterMap fun entity =>
          Outcome.entry? (scaffolder.entityOutcome (scaffolder.runScope model s) entity) := by
  have hnames : ((scaffolder.resolution model s).2.map nameOutcome).filterMap Outcome.entry? = [] := by
    rw [List.filterMap_eq_nil_iff]
    intro outcome ho
    obtain ⟨failure, -, rfl⟩ := List.mem_map.1 ho
    rfl
  have houtcomes : scaffolder.runOutcomes model s = (scaffolder.resolution model s).2.map nameOutcome ++
      scaffolder.dbContextOutcome (scaffolder.runScope model s) model ::
        model.entityTypes.map (scaffolder.entityOutcome (scaffolder.runScope model s)) := rfl
  rw [runEntries, houtcomes, List.filterMap_append, hnames, List.nil_append, List.filterMap_cons,
    List.filterMap_map]
  cases Outcome.entry? (scaffolder.dbContextOutcome (scaffolder.runScope model s) model) <;> rfl

/-- An output that is left out has no entry. -/
theorem entry?_eq_none {outcome : Outcome} (h : outcome.result = .ok none) :
    Outcome.entry? outcome = none := by
  rw [Outcome.entry?, Outcome.file?, h]
  rfl

/-- A complete scaffolder makes the files of a mode if they have different names. -/
theorem IsComplete.exists_generate {scaffolder : Scaffolder σ} {mode : ReverseEngineerMode}
    {language : LanguageMode} {naming : NamingConvention} (h : scaffolder.IsComplete mode language naming)
    {model : DatabaseModel} (hm : model.IsCounted) (s : σ)
    (hnames : (mode.fileNames language naming (scaffolder.options.contextNameFor model) model).Nodup) :
    ∃ files, (scaffolder.generate model s).1 = .ok files ∧ files.files.keys.Perm
      (mode.fileNames language naming (scaffolder.options.contextNameFor model) model) := by
  have hok : scaffolder.Succeeds model s := fun outcome ho => h.exists_result_eq_ok hm ho
  rw [← h.fileNames_runOutcomes (s := s) hm] at hnames ⊢
  obtain ⟨files, hfiles, hkeys, -⟩ := (generate_of_no_failure hok).1 hnames
  exact ⟨files, hfiles, hkeys⟩

end Scaffolder

end EntityScaffold
