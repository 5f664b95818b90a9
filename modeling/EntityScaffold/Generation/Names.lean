import EntityScaffold.Keyed
import EntityScaffold.Transform
import EntityScaffold.Model.Basic

/-! # Names of entities

Before anything is rendered, the name of every entity of a model and of every target of a navigation is
transformed once, first to the name of a class and then to the name of a file. Whatever needs a name
later looks it up here.
-/

namespace EntityScaffold

/-- The names of one entity after transformation. -/
structure ResolvedName where
  className : String
  /-- The file name without its extension. -/
  fileStem : String
deriving DecidableEq, Repr

/-- Transformed names by the name of the entity in the model, and the names whose transformation failed. -/
structure EntityNames where
  resolved : List (String × ResolvedName)
  failed : List String
  apart : ∀ name ∈ failed, resolved.lookup name = none

/-- The names that a model mentions, as often as it does: those of its entities, then the targets of their
navigations. -/
def DatabaseModel.namesInOrder (model : DatabaseModel) : List String :=
  model.entityTypes.map (·.name) ++
    model.entityTypes.flatMap fun entity => entity.navigations.map (·.targetEntity)

namespace EntityNames

variable {σ : Type}

/-- Both transformers are called, the second also when the first fails. An error comes with the name of
the file if that is known. -/
def resolveOne (transformers : TransformerSet σ) (name : String) :
    StateM σ (Except (GenerationError × Option String) ResolvedName) := do
  let className ← transformers.transformEntityName name
  let fileStem ← transformers.transformEntityFileName name
  return match className, fileStem with
    | .ok className, .ok fileStem => .ok ⟨className, fileStem⟩
    | .error e, .ok fileStem => .error (e, some fileStem)
    | .error e, .error _ => .error (e, none)
    | .ok _, .error e => .error (e, none)

/-- No names yet. -/
def empty : EntityNames := ⟨[], [], nofun⟩

/-- Whether a name was transformed already, or failed. -/
def contains (names : EntityNames) (name : String) : Bool :=
  (names.resolved.lookup name).isSome || names.failed.contains name

theorem not_contains_iff {names : EntityNames} {name : String} :
    ¬ names.contains name = true ↔ names.resolved.lookup name = none ∧ name ∉ names.failed := by
  rw [contains, Bool.or_eq_true, not_or, List.contains_iff_mem, Option.not_isSome_iff_eq_none]

/-- Note what a new name is transformed to. -/
def insert (names : EntityNames) (name : String) (resolved : ResolvedName)
    (h : ¬ names.contains name = true) : EntityNames where
  resolved := (name, resolved) :: names.resolved
  failed := names.failed
  apart other hother := by
    have hne : other ≠ name := fun heq => (not_contains_iff.1 h).2 (heq ▸ hother)
    rw [Keyed.lookup_entry_cons, if_neg hne]
    exact names.apart other hother

/-- Note that a new name failed. -/
def fail (names : EntityNames) (name : String) (h : ¬ names.contains name = true) : EntityNames where
  resolved := names.resolved
  failed := name :: names.failed
  apart := List.forall_mem_cons.2 ⟨(not_contains_iff.1 h).1, names.apart⟩

/-- One turn of the resolution: a name that was met before is passed over, and a failure is told after
those of earlier names. -/
def resolveNext (transformers : TransformerSet σ) (extension : String) :
    EntityNames × List EntityFailure → String → StateM σ (EntityNames × List EntityFailure)
  | (names, failures), name => do
    if h : names.contains name = true then return (names, failures)
    else match ← resolveOne transformers name with
      | .ok resolved => return (names.insert name resolved h, failures)
      | .error (e, fileStem) =>
        let failure := .mk name (fileStem.map fun stem => stem ++ "." ++ extension) e
        return (names.fail name h, failures ++ [failure])

/-- Resolve the names that a model mentions. -/
def resolve (transformers : TransformerSet σ) (model : DatabaseModel) (extension : String) :
    StateM σ (EntityNames × List EntityFailure) :=
  model.namesInOrder.foldlM (resolveNext transformers extension) (empty, [])

/-- The names of an entity. -/
def get (names : EntityNames) (entity : String) : Except GenerationError ResolvedName :=
  match names.resolved.lookup entity with
  | some name => .ok name
  | none =>
    if names.failed.contains entity then .error (.failedDependency entity)
    else .error (.configuration (.unknownEntity entity))

/-- The name of the class of an entity. -/
def className (names : EntityNames) (entity : String) : Except GenerationError String :=
  (names.get entity).map (·.className)

/-- The file name of an entity without its extension. -/
def fileStem (names : EntityNames) (entity : String) : Except GenerationError String :=
  (names.get entity).map (·.fileStem)

/-- Whether the transformation of a name failed. -/
def isFailed (names : EntityNames) (entity : String) : Bool := names.failed.contains entity

end EntityNames

end EntityScaffold
