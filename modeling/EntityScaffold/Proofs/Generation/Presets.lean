import EntityScaffold.Proofs.Generation.Views

/-! # Naming presets

The transformers of a preset never refuse a name or a member and remember nothing. So with a preset every
name that a model mentions is known, no name fails, and every output has a view.
-/

namespace EntityScaffold

variable {σ : Type} {naming : NamingConvention}

/-- The name of the class of an entity, and of its file. -/
def NamingConvention.entityName : NamingConvention → String → String
  | .none, name => name
  | .pascal, name | .camel, name => Text.pascalCase name

/-! ## Names -/

namespace EntityNames

theorem resolveOne_ofNaming (naming : NamingConvention) (name : String) (s : σ) :
    resolveOne (.ofNaming naming) name s =
      (.ok ⟨naming.entityName name, naming.entityName name⟩, s) := by
  cases naming <;> rfl

/-- A preset resolves all names. -/
theorem resolveAll_ofNaming (naming : NamingConvention) (extension : String) (names : List String) (s : σ) :
    (resolveAll (.ofNaming naming) extension names s).1 =
      (names.map fun name => (name, .resolved ⟨naming.entityName name, naming.entityName name⟩), []) := by
  induction names generalizing s with
  | nil => rfl
  | cons name rest ih =>
    rw [resolveAll_cons, resolveOne_ofNaming]
    dsimp only
    rw [ih]
    rfl

theorem get_resolve_ofNaming (extension : String) {model : DatabaseModel} {name : String}
    (h : name ∈ model.mentionedNames) (s : σ) :
    (resolve (.ofNaming naming) model extension s).1.1.get name =
      .ok ⟨naming.entityName name, naming.entityName name⟩ := by
  have hlookup : (resolve (.ofNaming naming) model extension s).1.1.resolution? name =
      some (.resolved ⟨naming.entityName name, naming.entityName name⟩) := by
    rw [resolution?_resolve, resolveAll_ofNaming]
    exact List.lookup_graph _ h
  rw [get_eq, hlookup]

end EntityNames

/-! ## Runs -/

namespace Scaffolder

variable {scaffolder : Scaffolder σ} {model : DatabaseModel} {s : σ} {entity : EntityType}

/-- With a preset no name fails. -/
theorem resolution_ofNaming (hnaming : scaffolder.config.transformers = .ofNaming naming) :
    (scaffolder.resolution model s).2 = [] := by
  rw [resolution, hnaming, EntityNames.failures_resolve, EntityNames.resolveAll_ofNaming]

theorem get_runScope (hnaming : scaffolder.config.transformers = .ofNaming naming) {name : String}
    (h : name ∈ model.mentionedNames) :
    (scaffolder.runScope model s).names.get name =
      .ok ⟨naming.entityName name, naming.entityName name⟩ := by
  change (scaffolder.resolution model s).1.get name = _
  rw [resolution, hnaming]
  exact EntityNames.get_resolve_ofNaming _ h s

/-- With a preset every name is known and no member is refused. -/
theorem isTotal_runScope (hnaming : scaffolder.config.transformers = .ofNaming naming) :
    (scaffolder.runScope model s).IsTotal model where
  names _ h := ⟨_, get_runScope hnaming h⟩
  property info := by
    change ∃ changed, scaffolder.config.transformers.transformProperty info = .ok changed
    rw [hnaming]
    cases naming <;> exact ⟨_, rfl⟩
  navigation info := by
    change ∃ changed, scaffolder.config.transformers.transformNavigation info = .ok changed
    rw [hnaming]
    cases naming <;> exact ⟨_, rfl⟩

end Scaffolder

end EntityScaffold
