import EntityScaffold.Proofs.Configuration
import EntityScaffold.Generation.Report
import Mathlib.Data.List.Nodup

/-! # Merging

Outcomes are merged one after another. As long as nothing ends the run, what has been merged is exactly
the outcomes so far: an entry for every file, every failure in order, and the origin of every file name.
A file name that is taken ends the run; if no failure is fatal, nothing else does.
-/

namespace EntityScaffold

/-! ## Parts of an outcome -/

namespace Outcome

/-- The file of an output that has one. -/
def file? (outcome : Outcome) : Option GeneratedFile :=
  match outcome.result with
  | .ok file => file
  | .error _ => none

/-- The failure of an output that failed. -/
def failure? (outcome : Outcome) : Option EntityFailure :=
  match outcome.result with
  | .ok _ => none
  | .error failure => some failure

/-- The name of the file. -/
def fileName? (outcome : Outcome) : Option String := outcome.file?.map (·.fileName)

/-- The name and the code of the file. -/
def entry? (outcome : Outcome) : Option (String × String) :=
  outcome.file?.map fun file => (file.fileName, file.code)

/-- A failure, if there is one, lets the run go on. -/
def IsRecoverable (outcome : Outcome) : Prop :=
  ∀ failure, outcome.result = .error failure → failure.error.isFatal = false

end Outcome

/-- The earliest outcome whose file name was taken has the origin `second`; the outcome that took the
name has the origin `first`. -/
def FirstCollision (outcomes : List Outcome) (fileName first second : String) : Prop :=
  ∃ before outcome after earlier, outcomes = before ++ outcome :: after ∧
    (before.filterMap Outcome.fileName?).Nodup ∧
    outcome.fileName? = some fileName ∧ outcome.origin = second ∧
    earlier ∈ before ∧ earlier.fileName? = some fileName ∧ earlier.origin = first

/-- What has been merged is what the outcomes say. -/
structure Collected.Merges (collected : Collected) (outcomes : List Outcome) : Prop where
  distinct : (outcomes.filterMap Outcome.fileName?).Nodup
  files : collected.files.entries.Perm (outcomes.filterMap Outcome.entry?)
  origins : ∀ name origin, collected.origins.get? name = some origin ↔
    ∃ outcome ∈ outcomes, outcome.fileName? = some name ∧ outcome.origin = origin
  failures : collected.failures = outcomes.filterMap Outcome.failure?
  dbContextFile : collected.dbContextFile =
    ((outcomes.filter (·.isDbContext)).filterMap Outcome.fileName?).getLast?

/-! ## Entries -/

theorem insertEntry_perm {α : Type} {key : String} (value : α) :
    ∀ {entries : List (String × α)}, entries.lookup key = none →
      (insertEntry key value entries).Perm ((key, value) :: entries)
  | [], _ => .refl _
  | (k, v) :: rest, h => by
    rw [Keyed.lookup_entry_cons] at h
    have hne : key ≠ k := fun he => by rw [if_pos he] at h; cases h
    rw [if_neg hne] at h
    unfold insertEntry
    split
    · exact .refl _
    · next hge =>
      split
      · exact ((insertEntry_perm value h).cons _).trans (.swap ..)
      · next hle =>
        exact absurd (String.le_antisymm (String.not_lt.1 hle) (String.not_lt.1 hge)) hne

/-! ## One outcome -/

namespace Collected

variable {collected next : Collected} {outcomes : List Outcome} {outcome : Outcome}

theorem merges_empty : empty.Merges [] where
  distinct := .nil
  files := .nil
  origins := by simp [empty]
  failures := rfl
  dbContextFile := rfl

/-- A file name without origin is new. -/
theorem Merges.fileName_notMem (h : collected.Merges outcomes) {name : String}
    (hn : collected.origins.get? name = none) : name ∉ outcomes.filterMap Outcome.fileName? := by
  intro hm
  obtain ⟨outcome, ho, hname⟩ := List.mem_filterMap.1 hm
  have := (h.origins name outcome.origin).2 ⟨outcome, ho, hname, rfl⟩
  rw [hn] at this
  cases this

theorem Merges.files_get? (h : collected.Merges outcomes) {name : String}
    (hn : collected.origins.get? name = none) : collected.files.get? name = none := by
  refine List.lookup_eq_none_iff.2 fun entry he => ?_
  obtain ⟨outcome, ho, hentry⟩ := List.mem_filterMap.1 (h.files.mem_iff.1 he)
  obtain ⟨file, hfile, rfl⟩ := Option.map_eq_some_iff.1 hentry
  have hne : name ≠ file.fileName := by
    rintro rfl
    exact h.fileName_notMem hn (List.mem_filterMap.2 ⟨outcome, ho, by simp [Outcome.fileName?, hfile]⟩)
  simpa using hne

/-- An outcome without file, which may be a failure. -/
theorem Merges.append_fileless (h : collected.Merges outcomes) (outcome : Outcome)
    (ho : outcome.file? = none) :
    { collected with failures := collected.failures ++ outcome.failure?.toList }.Merges
      (outcomes ++ [outcome]) where
  distinct := by simpa [Outcome.fileName?, ho] using h.distinct
  files := by simpa [Outcome.entry?, ho] using h.files
  origins := by
    intro name origin
    rw [h.origins name origin]
    simp [List.mem_append, or_and_right, exists_or, Outcome.fileName?, ho]
  failures := by
    cases hf : outcome.failure? <;> simp [h.failures, hf]
  dbContextFile := by
    rw [h.dbContextFile]
    cases hd : outcome.isDbContext <;> simp [hd, Outcome.fileName?, ho]

/-- An outcome with a file of a new name. -/
theorem Merges.append_file (h : collected.Merges outcomes) {file : GeneratedFile}
    (ho : outcome.result = .ok (some file)) (hn : collected.origins.get? file.fileName = none) :
    { collected with
      files := collected.files.insert file.fileName file.code
      origins := collected.origins.insert file.fileName outcome.origin
      dbContextFile :=
        if outcome.isDbContext then some file.fileName else collected.dbContextFile }.Merges
      (outcomes ++ [outcome]) := by
  have hfile : outcome.file? = some file := by simp [Outcome.file?, ho]
  have hname : outcome.fileName? = some file.fileName := by simp [Outcome.fileName?, hfile]
  refine ⟨?_, ?_, ?_, ?_, ?_⟩
  · rw [List.filterMap_append, List.nodup_append_comm]
    simp only [List.filterMap_cons, hname, List.filterMap_nil, List.singleton_append]
    exact List.nodup_cons.2 ⟨h.fileName_notMem hn, h.distinct⟩
  · refine (insertEntry_perm file.code (h.files_get? hn)).trans ?_
    simp only [List.filterMap_append, List.filterMap_cons, Outcome.entry?, hfile, Option.map_some,
      List.filterMap_nil]
    exact ((h.files.cons _).trans (List.perm_append_singleton _ _).symm)
  · intro name origin
    rw [Keyed.get?_insert]
    simp only [List.mem_append, List.mem_singleton, or_and_right, exists_or, exists_eq_left, hname,
      Option.some.injEq]
    rw [← h.origins name origin]
    by_cases he : name = file.fileName
    · subst he
      rw [if_pos rfl, hn]
      simp
    · rw [if_neg he]
      have hne : ¬ file.fileName = name := fun h => he h.symm
      simp [hne]
  · simp [h.failures, Outcome.failure?, ho]
  · cases hd : outcome.isDbContext <;> simp [hd, hname, h.dbContextFile]

/-- One accepted outcome more is one merged outcome more. -/
theorem Merges.step {failFast : Bool} (h : collected.Merges outcomes)
    (hnext : collected.accept failFast outcome = .ok next) : next.Merges (outcomes ++ [outcome]) := by
  unfold accept at hnext
  split at hnext
  · next hr =>
    cases hnext
    have := h.append_fileless outcome (by simp [Outcome.file?, hr])
    simpa [Outcome.failure?, hr] using this
  · next file hr =>
    split at hnext
    · cases hnext
    · next hn =>
      cases hnext
      exact h.append_file hr hn
  · next failure hr =>
    split at hnext
    · cases hnext
    · cases hnext
      have := h.append_fileless outcome (by simp [Outcome.file?, hr])
      simpa [Outcome.failure?, hr] using this

/-- Without fatal failures only a taken file name is refused. -/
theorem Merges.collision {e : GenerationError} (h : collected.Merges outcomes)
    (hr : outcome.IsRecoverable) (he : collected.accept false outcome = .error e) :
    ∃ fileName first, e = .fileNameCollision fileName first outcome.origin ∧
      outcome.fileName? = some fileName ∧
      ∃ earlier ∈ outcomes, earlier.fileName? = some fileName ∧ earlier.origin = first := by
  unfold accept at he
  split at he
  · cases he
  · next file hfile =>
    split at he
    · next first hfirst =>
      cases he
      refine ⟨file.fileName, first, rfl, ?_, (h.origins _ _).1 hfirst⟩
      simp [Outcome.fileName?, Outcome.file?, hfile]
    · cases he
  · next failure hf =>
    rw [hr failure hf] at he
    cases he

/-! ## A whole run -/

/-- What has been accepted in a run is merged. -/
theorem Merges.run {failFast : Bool} {rest : List Outcome} (h : collected.Merges outcomes)
    (hnext : collected.acceptAll failFast rest = .ok next) : next.Merges (outcomes ++ rest) := by
  induction rest generalizing collected outcomes with
  | nil => cases hnext; simpa using h
  | cons outcome rest ih =>
    obtain ⟨after, hafter, hrest⟩ := exists_ok_of_bind hnext
    simpa using ih (h.step hafter) hrest

/-- Without fatal failures a run that ends early ends with the first collision. -/
theorem Merges.firstCollision {e : GenerationError} {rest : List Outcome}
    (h : collected.Merges outcomes) (hr : ∀ outcome ∈ rest, outcome.IsRecoverable)
    (he : collected.acceptAll false rest = .error e) :
    ∃ fileName first second, e = .fileNameCollision fileName first second ∧
      FirstCollision (outcomes ++ rest) fileName first second := by
  induction rest generalizing collected outcomes with
  | nil => cases he
  | cons outcome rest ih =>
    cases ha : collected.accept false outcome with
    | error e' =>
      have he' : e' = e := by
        simp only [acceptAll, ha] at he
        cases he
        rfl
      subst he'
      obtain ⟨fileName, first, rfl, hname, earlier, hmem, hearlier, horigin⟩ :=
        h.collision (hr outcome List.mem_cons_self) ha
      exact ⟨fileName, first, _, rfl, outcomes, outcome, rest, earlier, rfl, h.distinct, hname, rfl,
        hmem, hearlier, horigin⟩
    | ok next =>
      simp only [acceptAll, ha] at he
      have := ih (h.step ha) (fun o ho => hr o (List.mem_cons_of_mem _ ho)) he
      simpa using this

end Collected

end EntityScaffold
