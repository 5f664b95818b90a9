import EntityScaffold.Proofs.Generation.Failing
import EntityScaffold.Proofs.Template.Shapes

/-! # Views that exist

Where every name is known and no transformer refuses a member, every output has a view. A view has the same
shape whatever the model is, and its lists are no longer than those of the model.
-/

namespace EntityScaffold

open Template (Shape)

/-! ## Shapes -/

namespace DbSetView

/-- What a template finds in an entity type of a database context. -/
def shape : Shape := .object
  [("entity_name", .any), ("db_set_name", .any), ("table_name", .any), ("schema", .any)]

theorem holds_shape (view : DbSetView) : shape.Holds view.toJson := by
  refine .ofFields ?_
  simp only [List.forall_mem_cons, List.not_mem_nil, false_implies, implies_true, and_true]
  exact ⟨⟨_, rfl, .any⟩, ⟨_, rfl, .any⟩, ⟨_, rfl, .any⟩, _, rfl, .any⟩

end DbSetView

namespace PropertyView

/-- What a template finds in a property. -/
def shape : Shape := .object
  [("property_type", .any), ("property_name", .any), ("column_name", .any), ("property_is_nullable", .any),
    ("is_key", .any)]

theorem holds_shape (view : PropertyView) : shape.Holds view.toJson := by
  refine .ofFields ?_
  simp only [List.forall_mem_cons, List.not_mem_nil, false_implies, implies_true, and_true]
  exact ⟨⟨_, rfl, .any⟩, ⟨_, rfl, .any⟩, ⟨_, rfl, .any⟩, ⟨_, rfl, .any⟩, _, rfl, .any⟩

end PropertyView

namespace NavigationView

/-- What a template finds in a navigation. -/
def shape : Shape := .object
  [("property_type", .any), ("property_name", .any), ("element_type", .any), ("is_collection", .any)]

theorem holds_shape (view : NavigationView) : shape.Holds view.toJson := by
  refine .ofFields ?_
  simp only [List.forall_mem_cons, List.not_mem_nil, false_implies, implies_true, and_true]
  exact ⟨⟨_, rfl, .any⟩, ⟨_, rfl, .any⟩, ⟨_, rfl, .any⟩, _, rfl, .any⟩

end NavigationView

namespace ImportView

/-- What a template finds in an import. -/
def shape : Shape := .object [("name", .any), ("path", .any)]

theorem holds_shape (view : ImportView) : shape.Holds view.toJson := by
  refine .ofFields ?_
  simp only [List.forall_mem_cons, List.not_mem_nil, false_implies, implies_true, and_true]
  exact ⟨⟨_, rfl, .any⟩, _, rfl, .any⟩

end ImportView

/-- The objects of a list of views are a list of their shape. -/
theorem holds_list {α : Type} {toJson : α → Json} {shape : Shape} (h : ∀ a, shape.Holds (toJson a))
    {views : List α} (hlength : views.length ≤ Decimal.maxNatural64) :
    (Shape.list shape).Holds (.array (views.map toJson)) := by
  refine .list (by rwa [List.length_map]) fun value hv => ?_
  obtain ⟨view, -, rfl⟩ := List.mem_map.1 hv
  exact h view

namespace DbContextView

/-- What the template of a database context finds. -/
def shape : Shape := .object
  [("namespace", .any), ("context_name", .any), ("entity_types", .list DbSetView.shape)]

theorem holds_shape {view : DbContextView} (h : view.entityTypes.length ≤ Decimal.maxNatural64) :
    shape.Holds view.toJson := by
  refine .ofFields ?_
  simp only [List.forall_mem_cons, List.not_mem_nil, false_implies, implies_true, and_true]
  exact ⟨⟨_, rfl, .any⟩, ⟨_, rfl, .any⟩, _, rfl, holds_list DbSetView.holds_shape h⟩

end DbContextView

namespace EntityTypeView

/-- What the template of an entity type finds. -/
def shape : Shape := .object
  [("namespace", .any), ("class_name", .any), ("table_name", .any), ("schema", .any),
    ("properties", .list PropertyView.shape), ("nav_properties", .list NavigationView.shape),
    ("imports", .list ImportView.shape), ("has_collections", .any)]

/-- The lists of a view are as long as a machine can count. -/
structure IsCounted (view : EntityTypeView) : Prop where
  properties : view.properties.length ≤ Decimal.maxNatural64
  navProperties : view.navProperties.length ≤ Decimal.maxNatural64
  imports : view.imports.length ≤ Decimal.maxNatural64

theorem IsCounted.holds_shape {view : EntityTypeView} (h : view.IsCounted) :
    shape.Holds view.toJson := by
  refine .ofFields ?_
  simp only [List.forall_mem_cons, List.not_mem_nil, false_implies, implies_true, and_true]
  exact ⟨⟨_, rfl, .any⟩, ⟨_, rfl, .any⟩, ⟨_, rfl, .any⟩, ⟨_, rfl, .any⟩,
    ⟨_, rfl, holds_list PropertyView.holds_shape h.properties⟩,
    ⟨_, rfl, holds_list NavigationView.holds_shape h.navProperties⟩,
    ⟨_, rfl, holds_list ImportView.holds_shape h.imports⟩, _, rfl, .any⟩

end EntityTypeView

/-! ## Models and scopes -/

/-- The lists of a model are as long as a machine can count. -/
structure DatabaseModel.IsCounted (model : DatabaseModel) : Prop where
  entityTypes : model.entityTypes.length ≤ Decimal.maxNatural64
  properties : ∀ entity ∈ model.entityTypes, entity.properties.length ≤ Decimal.maxNatural64
  navigations : ∀ entity ∈ model.entityTypes, entity.navigations.length ≤ Decimal.maxNatural64

/-- Every name that a model mentions is known, and no transformer refuses a member. -/
structure GenerationScope.IsTotal (scope : GenerationScope) (model : DatabaseModel) : Prop where
  names : ∀ name ∈ model.mentionedNames, ∃ resolved, scope.names.get name = .ok resolved
  property : ∀ info, ∃ changed, scope.transformers.transformProperty info = .ok changed
  navigation : ∀ info, ∃ changed, scope.transformers.transformNavigation info = .ok changed

/-! ## Views -/

/-- Steps over a list that all succeed give one result for each. -/
theorem exists_mapM_length {ε α β : Type} {f : α → Except ε β} {l : List α}
    (h : ∀ a ∈ l, ∃ b, f a = .ok b) : ∃ bs, l.mapM f = .ok bs ∧ bs.length = l.length := by
  induction l with
  | nil => exact ⟨[], rfl, rfl⟩
  | cons first rest ih =>
    obtain ⟨b, hb⟩ := h first List.mem_cons_self
    obtain ⟨bs, hbs, hlength⟩ := ih fun a ha => h a (List.mem_cons_of_mem _ ha)
    refine ⟨b :: bs, ?_, by rw [List.length_cons, hlength, List.length_cons]⟩
    rw [List.mapM_cons, hb, hbs]
    rfl

theorem length_insertEntry_le {α : Type} (key : String) (value : α) (entries : List (String × α)) :
    (insertEntry key value entries).length ≤ entries.length + 1 := by
  induction entries with
  | nil => exact Nat.le_refl _
  | cons entry rest ih =>
    obtain ⟨k, v⟩ := entry
    unfold insertEntry
    split
    · exact Nat.le_refl _
    · split
      · exact Nat.succ_le_succ ih
      · exact Nat.le_succ _

/-- Every navigation adds at most one import. -/
theorem length_typescriptImports_le {names : EntityNames} {own : String} {known imports : Keyed String}
    {navigations : List Navigation} (h : typescriptImports names own known navigations = .ok imports) :
    imports.entries.length ≤ known.entries.length + navigations.length := by
  induction navigations generalizing known with
  | nil =>
    cases h
    exact Nat.le_refl _
  | cons navigation rest ih =>
    obtain ⟨target, -, h⟩ := exists_ok_of_bind h
    rw [List.length_cons]
    split at h
    · exact Nat.le_succ_of_le (ih h)
    · have hinsert : (known.insert target.className ("./" ++ target.fileStem)).entries.length ≤
          known.entries.length + 1 := length_insertEntry_le ..
      have hrest := ih h
      omega

section

variable {scope : GenerationScope} {model : DatabaseModel} {entity : EntityType}

theorem GenerationScope.IsTotal.className (h : scope.IsTotal model) {name : String}
    (hn : name ∈ model.mentionedNames) : ∃ className, scope.names.className name = .ok className := by
  obtain ⟨resolved, hresolved⟩ := h.names name hn
  exact ⟨resolved.className, by rw [EntityNames.className, hresolved]; rfl⟩

/-- The view of a database context has one set for each entity type. -/
theorem DbContextView.exists_build (h : scope.IsTotal model) :
    ∃ view, build scope model = .ok view ∧ view.entityTypes.length = model.entityTypes.length := by
  obtain ⟨sets, hsets, hlength⟩ : ∃ sets, model.entityTypes.mapM (DbSetView.build scope.names) = .ok sets ∧
      sets.length = model.entityTypes.length := by
    refine exists_mapM_length fun entity he => ?_
    obtain ⟨className, hname⟩ := h.className (model.entity_mem_mentionedNames he)
    exact ⟨_, by rw [DbSetView.build, hname]; rfl⟩
  exact ⟨_, by rw [build, hsets]; rfl, hlength⟩

theorem PropertyView.exists_build (h : scope.IsTotal model) (entity : EntityType) (property : Property) :
    ∃ view, build scope entity property = .ok view := by
  obtain ⟨info, hinfo⟩ := h.property
    ⟨scope.language.typeName property.clrType property.nullable, property.name, some entity.name⟩
  exact ⟨_, by rw [build, hinfo]; rfl⟩

theorem NavigationView.exists_build (h : scope.IsTotal model) (he : entity ∈ model.entityTypes)
    {navigation : Navigation} (hn : navigation ∈ entity.navigations) :
    ∃ view, build scope entity navigation = .ok view := by
  obtain ⟨target, htarget⟩ := h.className (model.target_mem_mentionedNames he hn)
  obtain ⟨info, hinfo⟩ := h.navigation ⟨target, navigation.name, some entity.name⟩
  exact ⟨_, by rw [build, htarget]; simp only [bind, Except.bind, hinfo]; rfl⟩

/-- The view of an entity type has one property for each property, and one navigation for each. -/
theorem EntityTypeView.exists_build (h : scope.IsTotal model) (he : entity ∈ model.entityTypes) :
    ∃ view, build scope entity = .ok view ∧ view.properties.length = entity.properties.length ∧
      view.navProperties.length = entity.navigations.length := by
  obtain ⟨className, hname⟩ := h.className (model.entity_mem_mentionedNames he)
  obtain ⟨properties, hproperties, hplength⟩ :=
    exists_mapM_length fun property (_ : property ∈ entity.properties) =>
      PropertyView.exists_build h entity property
  obtain ⟨navigations, hnavigations, hnlength⟩ :=
    exists_mapM_length fun navigation (hn : navigation ∈ entity.navigations) =>
      NavigationView.exists_build h he hn
  refine ⟨⟨scope.rootNamespace, className, entity.table, entity.schema, properties, navigations, [],
    navigations.any (·.isCollection)⟩, ?_, hplength, hnlength⟩
  rw [build, hname]
  simp only [bind, Except.bind, hproperties, hnavigations]
  rfl

/-- What an entity type imports is known, and can be counted. -/
theorem LanguageMode.exists_imports (h : scope.IsTotal model) (hm : model.IsCounted)
    (he : entity ∈ model.entityTypes) (language : LanguageMode) (view : EntityTypeView) :
    ∃ imports, language.imports scope entity view = .ok imports ∧
      imports.length ≤ Decimal.maxNatural64 := by
  cases language with
  | csharp =>
    refine ⟨_, rfl, ?_⟩
    cases view.hasCollections <;> decide
  | typescript =>
    obtain ⟨imports, himports⟩ := exists_typescriptImports_eq_ok view.className .empty
      fun navigation (hn : navigation ∈ entity.navigations) =>
        h.names _ (model.target_mem_mentionedNames he hn)
    have hlength := length_typescriptImports_le himports
    refine ⟨_, by rw [LanguageMode.imports, himports]; rfl, ?_⟩
    rw [List.length_map]
    exact Nat.le_trans hlength ((Nat.zero_add _).symm ▸ hm.navigations entity he)

/-- The complete view of an entity type has lists that can be counted. -/
theorem EntityTypeView.exists_complete (h : scope.IsTotal model) (hm : model.IsCounted)
    (he : entity ∈ model.entityTypes) (language : LanguageMode) :
    ∃ view, complete language scope entity = .ok view ∧ view.IsCounted := by
  obtain ⟨view, hview, hproperties, hnavigations⟩ := exists_build h he
  have hp : view.properties.length ≤ Decimal.maxNatural64 := hproperties ▸ hm.properties entity he
  have hn : view.navProperties.length ≤ Decimal.maxNatural64 := hnavigations ▸ hm.navigations entity he
  obtain ⟨imports, himports, hi⟩ := language.exists_imports h hm he view
  refine ⟨{ view with imports := imports }, ?_, hp, hn, hi⟩
  rw [complete, hview]
  simp only [bind, Except.bind, himports]
  rfl

end

end EntityScaffold
