import EntityScaffold.Proofs.Generation.Endings

/-! # Schedules

The outputs of entities may be made in any order, for instance by several workers. What is made of an
entity is stored under the index of the entity, and nothing is merged before all of it is there. It is then
merged in the order of the model, so a run does not show in which order its outputs were made.
-/

namespace EntityScaffold

variable {σ α β : Type}

/-! ## Jobs -/

/-- What jobs have made so far, each result at the index of its input. -/
abbrev Slots (β : Type) := List (Option β)

namespace Slots

/-- No job of so many has been executed. -/
def empty (count : Nat) : Slots β := List.replicate count none

/-- Execute the job of an index and store its result there. -/
def execute (job : α → β) (inputs : List α) (slots : Slots β) (index : Nat) : Slots β :=
  match inputs[index]? with
  | some input => slots.set index (some (job input))
  | none => slots

/-- Execute jobs one after another. -/
def executeAll (job : α → β) (inputs : List α) (slots : Slots β) : List Nat → Slots β
  | [] => slots
  | index :: rest => (slots.execute job inputs index).executeAll job inputs rest

/-- The results in the order of the inputs, once there are all. -/
def collect? : Slots β → Option (List β)
  | [] => some []
  | none :: _ => none
  | some result :: rest => (collect? rest).map (result :: ·)

variable {job : α → β} {inputs : List α} {slots : Slots β}

/-- The jobs of some indices have been executed, and no others. -/
def Holds (slots : Slots β) (job : α → β) (inputs : List α) (done : List Nat) : Prop :=
  ∀ i, slots[i]? = inputs[i]?.map fun input => if i ∈ done then some (job input) else none

theorem holds_empty (job : α → β) (inputs : List α) : (empty inputs.length).Holds job inputs [] := by
  intro i
  by_cases hi : i < inputs.length
  · simp [empty, hi]
  · simp [empty, hi]

/-- One job more has been executed; what the others made is untouched. -/
theorem Holds.execute {done : List Nat} (h : slots.Holds job inputs done) (index : Nat) :
    (slots.execute job inputs index).Holds job inputs (done ++ [index]) := by
  intro i
  unfold Slots.execute
  cases hindex : inputs[index]? with
  | none =>
    rw [h i]
    refine Option.map_congr fun input hinput => ?_
    have hne : i ≠ index := by
      rintro rfl
      rw [hindex] at hinput
      cases hinput
    simp [hne]
  | some input =>
    dsimp only
    by_cases hi : i = index
    · subst hi
      have hslot : i < slots.length := by
        by_contra hlong
        have hnone := h i
        rw [List.getElem?_eq_none (Nat.le_of_not_lt hlong), hindex] at hnone
        cases hnone
      simp [hindex, hslot]
    · rw [List.getElem?_set_ne (Ne.symm hi), h i]
      simp [hi]

/-- After a sequence of jobs, each of them has been executed. -/
theorem Holds.executeAll {done : List Nat} (h : slots.Holds job inputs done) (order : List Nat) :
    (slots.executeAll job inputs order).Holds job inputs (done ++ order) := by
  induction order generalizing slots done with
  | nil => simpa [Slots.executeAll] using h
  | cons index rest ih => simpa [Slots.executeAll] using ih (h.execute index)

theorem collect?_map_some (results : List β) : collect? (results.map some) = some results := by
  induction results with
  | nil => rfl
  | cons result rest ih => rw [List.map_cons, collect?, ih, Option.map_some]

/-- Once every job has been executed, all results are there in the order of the inputs. -/
theorem Holds.collect?_eq {done : List Nat} (h : slots.Holds job inputs done)
    (hall : ∀ i < inputs.length, i ∈ done) : slots.collect? = some (inputs.map job) := by
  have hslots : slots = (inputs.map job).map some := by
    refine List.ext_getElem? fun i => ?_
    rw [h i, List.map_map, List.getElem?_map]
    refine Option.map_congr fun input hinput => ?_
    rw [if_pos (hall i (List.getElem?_eq_some_iff.1 hinput).1)]
    rfl
  rw [hslots, collect?_map_some]

/-- As long as a job is missing, so are the results. -/
theorem collect?_eq_none {i : Nat} (h : slots[i]? = some none) : slots.collect? = none := by
  induction slots generalizing i with
  | nil => cases h
  | cons slot rest ih =>
    cases i with
    | zero => cases h; rfl
    | succ i =>
      cases slot with
      | none => rfl
      | some result => rw [collect?, ih h, Option.map_none]

/-- The results of the jobs of a schedule are there exactly if it leaves no job out. -/
theorem collect?_executeAll (job : α → β) (inputs : List α) (order : List Nat) :
    ((empty inputs.length).executeAll job inputs order).collect? =
      if ∀ i < inputs.length, i ∈ order then some (inputs.map job) else none := by
  have hholds := (holds_empty job inputs).executeAll order
  rw [List.nil_append] at hholds
  split
  · next hall => exact hholds.collect?_eq hall
  · next hmissing =>
    simp only [not_forall, exists_prop] at hmissing
    obtain ⟨i, hi, hnot⟩ := hmissing
    refine collect?_eq_none (i := i) ?_
    rw [hholds i, List.getElem?_eq_getElem hi, Option.map_some, if_neg hnot]

end Slots

/-! ## Runs -/

theorem Collected.acceptAll_append (failFast : Bool) (collected : Collected) (first second : List Outcome) :
    collected.acceptAll failFast (first ++ second) =
      (collected.acceptAll failFast first).bind (acceptAll failFast · second) := by
  induction first generalizing collected with
  | nil => rfl
  | cons outcome rest ih =>
    rw [List.cons_append, acceptAll, acceptAll]
    cases collected.accept failFast outcome with
    | error e => rfl
    | ok next => exact ih next

namespace Scaffolder

/-- What is stored for an entity. -/
def entityJob (scaffolder : Scaffolder σ) (scope : GenerationScope) (entity : EntityType) :
    Except EntityFailure (Option GeneratedFile) :=
  (scaffolder.entityOutcome scope entity).result

/-- The outcomes of entities from what is stored for them. -/
def storedOutcomes (entities : List EntityType)
    (results : List (Except EntityFailure (Option GeneratedFile))) : List Outcome :=
  (entities.zip results).map fun (entity, result) => ⟨entity.name, false, result⟩

/-- A run that makes the outputs of entities in an order of its own. There is no result if that order
leaves out an entity. -/
def generateReportIn (scaffolder : Scaffolder σ) (order : List Nat) (model : DatabaseModel) :
    StateM σ (Option (Except GenerationError ScaffoldReport)) := do
  let (names, nameFailures) ← EntityNames.resolve scaffolder.config.transformers model
    scaffolder.config.roles.language.extension
  let scope := scaffolder.scope model names
  let started := (Collected.empty.acceptAll scaffolder.options.failFast
      (nameFailures.map nameOutcome)).bind
    (·.accept scaffolder.options.failFast (scaffolder.dbContextOutcome scope model))
  let slots := (Slots.empty model.entityTypes.length).executeAll (scaffolder.entityJob scope)
    model.entityTypes order
  return slots.collect?.map fun results =>
    (started.bind (·.acceptAll scaffolder.options.failFast
      (storedOutcomes model.entityTypes results))).map Collected.report

theorem storedOutcomes_map (scaffolder : Scaffolder σ) (scope : GenerationScope)
    (entities : List EntityType) :
    storedOutcomes entities (entities.map (scaffolder.entityJob scope)) =
      entities.map (scaffolder.entityOutcome scope) := by
  induction entities with
  | nil => rfl
  | cons entity rest ih =>
    rw [storedOutcomes] at ih ⊢
    rw [List.map_cons, List.zip_cons_cons, List.map_cons, ih]
    rfl

/-- Starting with the names and the database context and going on with what is stored is a whole run. -/
theorem acceptAll_outcomes (scaffolder : Scaffolder σ) (model : DatabaseModel) (names : EntityNames)
    (nameFailures : List EntityFailure) (failFast : Bool) :
    let scope := scaffolder.scope model names
    ((Collected.empty.acceptAll failFast (nameFailures.map nameOutcome)).bind
        (·.accept failFast (scaffolder.dbContextOutcome scope model))).bind
      (·.acceptAll failFast
        (storedOutcomes model.entityTypes (model.entityTypes.map (scaffolder.entityJob scope)))) =
      Collected.empty.acceptAll failFast (scaffolder.outcomes model names nameFailures) := by
  intro scope
  rw [storedOutcomes_map, outcomes, Collected.acceptAll_append]
  cases Collected.empty.acceptAll failFast (nameFailures.map nameOutcome) with
  | error e => rfl
  | ok collected => rfl

/-- In whatever order the outputs of the entities are made, a run comes to the report of the run that makes
them one after another, or to the error that ends that run. -/
theorem generateReport_of_schedule (scaffolder : Scaffolder σ) (model : DatabaseModel)
    {order : List Nat} (horder : order.Perm (List.range model.entityTypes.length)) :
    scaffolder.generateReportIn order model = some <$> scaffolder.generateReport model := by
  have hall : ∀ i < model.entityTypes.length, i ∈ order := fun i hi =>
    horder.mem_iff.2 (List.mem_range.2 hi)
  funext s
  simp only [generateReportIn, generateReport, map_eq_pure_bind, state_bind, state_pure,
    Slots.collect?_executeAll, if_pos hall, Option.map_some, acceptAll_outcomes]

/-- Entities that are done from the last to the first: a collision still tells the first of them first, and a
run that stops at a failure still ends with that of the name. -/
theorem generateReport_of_schedule_backwards :
    let line := (EntityType.new "Line").withNavigation (.reference "Order" "Order")
    let shop : DatabaseModel := ⟨"Shop", [line, .new "Order"]⟩
    let crowded : DatabaseModel := ⟨"Shop", [.new "A", .new "B", .new "C"]⟩
    [1, 0].Perm (List.range shop.entityTypes.length) ∧
    (orderlessScaffolder.failingFast.generateReportIn [1, 0] shop ()).1 =
      some (.error (.transformation "Order" .entityName "refused")) ∧
    [2, 1, 0].Perm (List.range crowded.entityTypes.length) ∧
    (oneFileScaffolder.generateReportIn [2, 1, 0] crowded ()).1 =
      some (.error (.fileNameCollision "All.cs" "A" "B")) := by
  intro line shop crowded
  have hshop : [1, 0].Perm (List.range shop.entityTypes.length) := by decide
  have hcrowded : [2, 1, 0].Perm (List.range crowded.entityTypes.length) := by decide
  refine ⟨hshop, ?_, hcrowded, ?_⟩
  · rw [orderlessScaffolder.failingFast.generateReport_of_schedule shop hshop]
    rfl
  · rw [oneFileScaffolder.generateReport_of_schedule crowded hcrowded]
    rfl

end Scaffolder

end EntityScaffold
