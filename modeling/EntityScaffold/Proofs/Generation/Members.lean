import EntityScaffold.Proofs.Generation.Referring

/-! # Members of an entity

The view of an entity type shows the members of the entity one for one and in order: properties as the
transformer of properties answers for them, navigations as the transformer of navigations does. Neither
transformer has a part in what is shown of the other role. A view that cannot be built fails with the first of
its steps that does: the name of the class, the properties, and for each navigation its target and then the
navigation itself.
-/

namespace EntityScaffold

/-! ## Answers -/

/-- What a transformer answers; without one, a member stays as it is. -/
def PropertyTransformer.answer (transformer : Option PropertyTransformer) (info : PropertyInfo) :
    Except String PropertyInfo :=
  match transformer with
  | none => .ok info
  | some f => f info

/-- Why a transformer refuses a member, if it does. -/
def PropertyTransformer.refusal? (transformer : Option PropertyTransformer) (info : PropertyInfo) :
    Option String :=
  match answer transformer info with
  | .ok _ => none
  | .error cause => some cause

/-- Why an entity has no names, if it has none. -/
def EntityNames.missing? (names : EntityNames) (name : String) : Option GenerationError :=
  match names.resolution? name with
  | some (.resolved _) => none
  | some .failed => some (.failedDependency name)
  | none => some (.configuration (.unknownEntity name))

/-- What an attempt fails with. -/
def failureOf? {ε α : Type} : Except ε α → Option ε
  | .ok _ => none
  | .error e => some e

section

variable {ε α β : Type} {e : ε}

theorem failureOf?_eq_some {x : Except ε α} : failureOf? x = some e ↔ x = .error e := by
  cases x with
  | ok a => simp [failureOf?]
  | error e' => simp [failureOf?]

theorem failureOf?_map (x : Except ε α) (f : α → β) : failureOf? (x.map f) = failureOf? x := by
  cases x <;> rfl

theorem failureOf?_bind_pure (x : Except ε α) (f : α → β) :
    failureOf? (x >>= fun a => pure (f a)) = failureOf? x := by
  cases x <;> rfl

/-- What is done in sequence fails with the first part that does. -/
theorem failureOf?_bind {x : Except ε α} {f : α → Except ε β} (later : Option ε)
    (h : ∀ a, x = .ok a → failureOf? (f a) = later) :
    failureOf? (x >>= f) = (failureOf? x).or later := by
  cases x with
  | error e => rfl
  | ok a => exact h a rfl

theorem failureOf?_mapM (f : α → Except ε β) (l : List α) :
    failureOf? (l.mapM f) = l.findSome? fun a => failureOf? (f a) := by
  induction l with
  | nil => rfl
  | cons first rest ih =>
    rw [List.mapM_cons, List.findSome?_cons,
      failureOf?_bind (failureOf? (rest.mapM f)) fun b _ => failureOf?_bind_pure _ _, ih]
    cases failureOf? (f first) <;> rfl

theorem findSome?_flatMap (f : β → Option ε) (g : α → List β) (l : List α) :
    (l.flatMap g).findSome? f = l.findSome? fun a => (g a).findSome? f := by
  induction l with
  | nil => rfl
  | cons first rest ih =>
    rw [List.flatMap_cons, List.findSome?_append, ih, List.findSome?_cons]
    cases (g first).findSome? f <;> rfl

end

theorem EntityNames.failureOf?_className (names : EntityNames) (name : String) :
    failureOf? (names.className name) = names.missing? name := by
  rw [className, failureOf?_map, get_eq, missing?]
  cases names.resolution? name with
  | none => rfl
  | some resolution => cases resolution <;> rfl

namespace MemberTransformers

variable (transformer : Option PropertyTransformer) (role : TransformRole) (info : PropertyInfo)

/-- An error comes with the role and with the entity that declares the member. -/
theorem apply_eq_mapError : apply transformer role info =
    (PropertyTransformer.answer transformer info).mapError
      (.transformation (info.declaringType.getD info.propertyName) role ·) := by
  cases transformer <;> rfl

theorem apply_eq_ok {changed : PropertyInfo} : apply transformer role info = .ok changed ↔
    PropertyTransformer.answer transformer info = .ok changed := by
  rw [apply_eq_mapError]
  cases PropertyTransformer.answer transformer info with
  | ok answer => rw [mapError_ok, Except.ok.injEq, Except.ok.injEq]
  | error cause => simp [mapError_error]

theorem failureOf?_apply : failureOf? (apply transformer role info) =
    (PropertyTransformer.refusal? transformer info).map
      (.transformation (info.declaringType.getD info.propertyName) role ·) := by
  rw [apply_eq_mapError, PropertyTransformer.refusal?]
  cases PropertyTransformer.answer transformer info <;> rfl

end MemberTransformers

/-! ## What a view shows -/

/-- A view shows a property as the transformer of properties answers for it. -/
structure PropertyView.Shows (scope : GenerationScope) (entity : EntityType) (property : Property)
    (view : PropertyView) : Prop where
  answer : ∃ declaring, PropertyTransformer.answer scope.transformers.property
    ⟨scope.language.typeName property.clrType property.nullable, property.name, some entity.name⟩ =
      .ok ⟨view.propertyType, view.propertyName, declaring⟩
  columnName : view.columnName = property.column
  isNullable : view.isNullable = property.nullable
  isKey : view.isKey = property.isKey

/-- A view shows a navigation as the transformer of navigations answers for it, by the class of its target. -/
structure NavigationView.Shows (scope : GenerationScope) (entity : EntityType) (navigation : Navigation)
    (view : NavigationView) : Prop where
  answer : ∃ target declaring, scope.names.className navigation.targetEntity = .ok target ∧
    PropertyTransformer.answer scope.transformers.navigation ⟨target, navigation.name, some entity.name⟩ =
      .ok ⟨view.elementType, view.propertyName, declaring⟩
  propertyType : view.propertyType = if navigation.isCollection
    then scope.language.collectionType view.elementType else view.elementType
  isCollection : view.isCollection = navigation.isCollection

/-- A view shows an entity with all of its members in order. -/
structure EntityTypeView.Shows (scope : GenerationScope) (entity : EntityType) (view : EntityTypeView) :
    Prop where
  rootNamespace : view.rootNamespace = scope.rootNamespace
  className : scope.names.className entity.name = .ok view.className
  tableName : view.tableName = entity.table
  schema : view.schema = entity.schema
  properties : List.Forall₂ (PropertyView.Shows scope entity) entity.properties view.properties
  navProperties : List.Forall₂ (NavigationView.Shows scope entity) entity.navigations view.navProperties
  imports : view.imports = []
  hasCollections : view.hasCollections = true ↔ ∃ navigation ∈ entity.navigations, navigation.isCollection

section

variable {scope other : GenerationScope} {entity : EntityType}

theorem PropertyView.build_eq_ok {property : Property} {view : PropertyView} :
    build scope entity property = .ok view ↔ Shows scope entity property view := by
  constructor
  · intro h
    obtain ⟨info, hinfo, h⟩ := exists_ok_of_bind h
    cases h
    exact ⟨⟨info.declaringType, (MemberTransformers.apply_eq_ok _ _ _).1 hinfo⟩, rfl, rfl, rfl⟩
  · rintro ⟨⟨declaring, hanswer⟩, hcolumn, hnullable, hkey⟩
    have hinfo := (MemberTransformers.apply_eq_ok _ .property _).2 hanswer
    rw [build, MemberTransformers.transformProperty, hinfo]
    change Except.ok (PropertyView.mk view.propertyType view.propertyName _ _ _) = _
    rw [← hcolumn, ← hnullable, ← hkey]

theorem NavigationView.build_eq_ok {navigation : Navigation} {view : NavigationView} :
    build scope entity navigation = .ok view ↔ Shows scope entity navigation view := by
  constructor
  · intro h
    obtain ⟨target, htarget, h⟩ := exists_ok_of_bind h
    obtain ⟨info, hinfo, h⟩ := exists_ok_of_bind h
    cases h
    refine ⟨⟨target, info.declaringType, htarget, ?_⟩, rfl, rfl⟩
    exact (MemberTransformers.apply_eq_ok _ _ _).1 hinfo
  · rintro ⟨⟨target, declaring, htarget, hanswer⟩, htype, hcollection⟩
    have hinfo := (MemberTransformers.apply_eq_ok _ .navigationProperty _).2 hanswer
    rw [build, htarget]
    change (MemberTransformers.transformNavigation _ _ >>= _) = _
    rw [MemberTransformers.transformNavigation, hinfo]
    change Except.ok (NavigationView.mk _ view.propertyName view.elementType _) = _
    rw [← htype, ← hcollection]

/-- What is done to each item of a list in order is done to the list. -/
theorem mapM_eq_ok {ε α β : Type} {f : α → Except ε β} {l : List α} {bs : List β} :
    l.mapM f = .ok bs ↔ List.Forall₂ (fun a b => f a = .ok b) l bs := by
  refine ⟨forall₂_of_mapM, fun h => ?_⟩
  induction h with
  | nil => rfl
  | cons hfirst _ ih =>
    rw [List.mapM_cons, hfirst, ih]
    rfl

/-- A collection among the views is one among the navigations. -/
theorem NavigationView.any_isCollection {navigations : List Navigation} {views : List NavigationView}
    (h : List.Forall₂ (Shows scope entity) navigations views) :
    views.any (·.isCollection) = navigations.any (·.isCollection) := by
  induction h with
  | nil => rfl
  | cons hfirst _ ih => rw [List.any_cons, List.any_cons, ih, hfirst.isCollection]

theorem EntityTypeView.build_eq_ok {view : EntityTypeView} :
    build scope entity = .ok view ↔ Shows scope entity view := by
  constructor
  · intro h
    obtain ⟨className, hclass, h⟩ := exists_ok_of_bind h
    obtain ⟨properties, hproperties, h⟩ := exists_ok_of_bind h
    obtain ⟨navProperties, hnavigations, h⟩ := exists_ok_of_bind h
    cases h
    have hshown := (forall₂_of_mapM hnavigations).imp fun _ _ => NavigationView.build_eq_ok.1
    refine ⟨rfl, hclass, rfl, rfl, ?_, hshown, rfl, ?_⟩
    · exact (forall₂_of_mapM hproperties).imp fun _ _ => PropertyView.build_eq_ok.1
    · rw [NavigationView.any_isCollection hshown, List.any_eq_true]
  · intro h
    have hproperties := mapM_eq_ok.2 (h.properties.imp fun _ _ => PropertyView.build_eq_ok.2)
    have hnavigations := mapM_eq_ok.2 (h.navProperties.imp fun _ _ => NavigationView.build_eq_ok.2)
    have hcollections : view.hasCollections = view.navProperties.any (·.isCollection) := by
      rw [NavigationView.any_isCollection h.navProperties, Bool.eq_iff_iff, h.hasCollections,
        List.any_eq_true]
    rw [build, h.className, hproperties, hnavigations, ← h.rootNamespace, ← h.tableName, ← h.schema]
    change Except.ok { view with imports := [], hasCollections := _ } = _
    rw [← hcollections, ← h.imports]

/-! ## Steps -/

/-- A step of the construction of a view. -/
inductive BuildStep where
  | ownName
  | property (property : Property)
  /-- The name of the class that a navigation leads to. -/
  | target (navigation : Navigation)
  | navigation (navigation : Navigation)

/-- The steps of the view of an entity, in order. -/
def EntityType.buildSteps (entity : EntityType) : List BuildStep :=
  .ownName :: (entity.properties.map .property ++
    entity.navigations.flatMap fun navigation => [.target navigation, .navigation navigation])

/-- What a step fails with, if it does. -/
def BuildStep.error? (scope : GenerationScope) (entity : EntityType) : BuildStep → Option GenerationError
  | .ownName => scope.names.missing? entity.name
  | .property member =>
    (PropertyTransformer.refusal? scope.transformers.property
      ⟨scope.language.typeName member.clrType member.nullable, member.name, some entity.name⟩).map
      (.transformation entity.name .property ·)
  | .target member => scope.names.missing? member.targetEntity
  | .navigation member =>
    match scope.names.className member.targetEntity with
    | .error _ => none
    | .ok className =>
      (PropertyTransformer.refusal? scope.transformers.navigation
        ⟨className, member.name, some entity.name⟩).map (.transformation entity.name .navigationProperty ·)

theorem PropertyView.failureOf?_build (property : Property) :
    failureOf? (build scope entity property) = BuildStep.error? scope entity (.property property) := by
  rw [build, failureOf?_bind_pure, MemberTransformers.transformProperty,
    MemberTransformers.failureOf?_apply]
  rfl

/-- A navigation fails for its target, or else for itself. -/
theorem NavigationView.failureOf?_build (member : Navigation) :
    failureOf? (build scope entity member) =
      [BuildStep.target member, .navigation member].findSome? (BuildStep.error? scope entity) := by
  rw [build, failureOf?_bind (BuildStep.error? scope entity (.navigation member)) fun target htarget => ?_]
  · rw [EntityNames.failureOf?_className, List.findSome?_cons, List.findSome?_cons, List.findSome?_nil]
    change (BuildStep.error? scope entity (.target member)).or _ = _
    cases BuildStep.error? scope entity (.target member) with
    | some e => rfl
    | none => cases BuildStep.error? scope entity (.navigation member) <;> rfl
  · rw [failureOf?_bind_pure, MemberTransformers.transformNavigation,
      MemberTransformers.failureOf?_apply]
    simp only [BuildStep.error?, htarget]
    rfl

/-- A view fails with the first of its steps that does. -/
theorem EntityTypeView.failureOf?_build :
    failureOf? (build scope entity) = entity.buildSteps.findSome? (BuildStep.error? scope entity) := by
  have hproperties : failureOf? (entity.properties.mapM (PropertyView.build scope entity)) =
      (entity.properties.map .property).findSome? (BuildStep.error? scope entity) := by
    rw [failureOf?_mapM, List.findSome?_map]
    exact congrArg (entity.properties.findSome? ·) (funext PropertyView.failureOf?_build)
  have hnavigations : failureOf? (entity.navigations.mapM (NavigationView.build scope entity)) =
      (entity.navigations.flatMap fun member => [.target member, .navigation member]).findSome?
        (BuildStep.error? scope entity) := by
    rw [failureOf?_mapM, findSome?_flatMap]
    exact congrArg (entity.navigations.findSome? ·) (funext NavigationView.failureOf?_build)
  rw [build, failureOf?_bind _ fun _ _ => failureOf?_bind _ fun _ _ => failureOf?_bind_pure _ _,
    EntityNames.failureOf?_className, hproperties, hnavigations, ← List.findSome?_append]
  rw [EntityType.buildSteps, List.findSome?_cons]
  simp only [BuildStep.error?]
  cases scope.names.missing? entity.name <;> rfl

/-! ## Roles apart -/

/-- Properties do not depend on the transformer of navigations, on names or on navigations. -/
theorem PropertyView.build_congr {entity' : EntityType} (hlanguage : scope.language = other.language)
    (htransformer : scope.transformers.property = other.transformers.property)
    (hname : entity.name = entity'.name) : build scope entity = build other entity' := by
  funext property
  simp only [build, MemberTransformers.transformProperty, hlanguage, htransformer, hname]

/-- A navigation does not depend on the transformer of properties, and on no other name than that of its
target. -/
theorem NavigationView.build_congr {entity' : EntityType} (hlanguage : scope.language = other.language)
    (htransformer : scope.transformers.navigation = other.transformers.navigation)
    (hname : entity.name = entity'.name) {navigation : Navigation}
    (htarget : scope.names.className navigation.targetEntity =
      other.names.className navigation.targetEntity) :
    build scope entity navigation = build other entity' navigation := by
  simp only [build, MemberTransformers.transformNavigation, hlanguage, htransformer, hname, htarget]

/-- The parts of a view are made one by one. -/
theorem EntityTypeView.mapM_of_build {view : EntityTypeView} (h : build scope entity = .ok view) :
    entity.properties.mapM (PropertyView.build scope entity) = .ok view.properties ∧
      entity.navigations.mapM (NavigationView.build scope entity) = .ok view.navProperties := by
  obtain ⟨_, -, h⟩ := exists_ok_of_bind h
  obtain ⟨properties, hproperties, h⟩ := exists_ok_of_bind h
  obtain ⟨navProperties, hnavigations, h⟩ := exists_ok_of_bind h
  cases h
  exact ⟨hproperties, hnavigations⟩

/-- The members that a view shows depend on the transformer of their own role. -/
structure EntityTypeView.KeepsRolesApart (scope : GenerationScope) (entity : EntityType)
    (view : EntityTypeView) : Prop where
  properties : ∀ (other : GenerationScope) (entity' : EntityType) (view' : EntityTypeView),
    build other entity' = .ok view' → other.language = scope.language →
    other.transformers.property = scope.transformers.property → entity'.name = entity.name →
    entity'.properties = entity.properties → view'.properties = view.properties
  navProperties : ∀ (other : GenerationScope) (entity' : EntityType) (view' : EntityTypeView),
    build other entity' = .ok view' → other.language = scope.language →
    other.transformers.navigation = scope.transformers.navigation → entity'.name = entity.name →
    entity'.navigations = entity.navigations →
    (∀ navigation ∈ entity.navigations, other.names.className navigation.targetEntity =
      scope.names.className navigation.targetEntity) → view'.navProperties = view.navProperties

theorem EntityTypeView.keepsRolesApart_of_build {view : EntityTypeView}
    (h : build scope entity = .ok view) : KeepsRolesApart scope entity view := by
  obtain ⟨hproperties, hnavigations⟩ := mapM_of_build h
  constructor
  · intro other entity' view' h' hlanguage htransformer hname hsame
    have hproperties' := (mapM_of_build h').1
    rw [hsame, PropertyView.build_congr hlanguage htransformer hname, hproperties] at hproperties'
    exact (Except.ok.inj hproperties').symm
  · intro other entity' view' h' hlanguage htransformer hname hsame htargets
    have hnavigations' := (mapM_of_build h').2
    have hcongr : entity.navigations.mapM (NavigationView.build other entity') =
        entity.navigations.mapM (NavigationView.build scope entity) :=
      mapM_congr_of_mem fun navigation hn =>
        NavigationView.build_congr hlanguage htransformer hname (htargets navigation hn)
    rw [hsame, hcongr, hnavigations] at hnavigations'
    exact (Except.ok.inj hnavigations').symm

end

/-! ## The whole view -/

/-- A view is built if and only if it shows the entity: its properties and navigations one for one and in
order, each as the transformer of its role answers for it. It shows of each role the same whatever the rest of
the run does. If it is not built, the error is that of the first step that fails. -/
theorem EntityTypeView.build_decided (scope : GenerationScope) (entity : EntityType) :
    (∀ view, build scope entity = .ok view ↔ Shows scope entity view) ∧
    (∀ view, build scope entity = .ok view → KeepsRolesApart scope entity view) ∧
    (∀ e, build scope entity = .error e ↔ ∃ before step after,
      entity.buildSteps = before ++ step :: after ∧ step.error? scope entity = some e ∧
        ∀ earlier ∈ before, earlier.error? scope entity = none) := by
  refine ⟨fun view => build_eq_ok, fun view => keepsRolesApart_of_build, fun e => ?_⟩
  rw [← failureOf?_eq_some, failureOf?_build]
  exact List.findSome?_eq_some_iff

/-! ## An order -/

/-- A transformer that refuses one member and puts a mark before the names of the others. -/
def marking (mark refused : String) : PropertyTransformer := fun info =>
  if info.propertyName = refused then .error "refused" else .ok (info.rename (mark ++ ·))

/-- A scope with a name that failed, and a mark for each role. -/
def markedScope (propertyMark navigationMark : String) : GenerationScope where
  renderer := ⟨Keyed.empty, Keyed.empty, Keyed.empty⟩
  transformers := ⟨some (marking propertyMark "Secret"), some (marking navigationMark "Hidden")⟩
  names := ⟨[("Order", ⟨"OrderDto", "order"⟩), ("Line", ⟨"LineDto", "line"⟩)], ["Lost"], by decide⟩
  language := .csharp
  rootNamespace := "Shop"
  contextName := "ShopContext"

/-- An order has a column under another name and refers to many lines. -/
def markedOrder : EntityType :=
  ⟨"Order", some "Orders", none, [⟨"Id", some "order_id", "int", false, true⟩],
    [.collection "Lines" "Line", .reference "Parent" "Order"]⟩

/-- What the view of the order shows under two marks. -/
def markedView (propertyMark navigationMark : String) : EntityTypeView :=
  ⟨"Shop", "OrderDto", "Orders", none, [⟨"int", propertyMark ++ "Id", "order_id", false, true⟩],
    [⟨"ICollection<LineDto>", navigationMark ++ "Lines", "LineDto", true⟩,
      ⟨"OrderDto", navigationMark ++ "Parent", "OrderDto", false⟩], [], true⟩

/-- Another mark for navigations leaves the properties of the order, and the refusal of a navigation comes
before the target of a later one is missed. -/
theorem EntityTypeView.build_decided_order :
    Shows (markedScope "p" "n") markedOrder (markedView "p" "n") ∧
    (markedView "p" "m").properties = (markedView "p" "n").properties ∧
    build (markedScope "p" "n") ((markedOrder.withNavigation (.reference "Hidden" "Line")).withNavigation
      (.reference "Cause" "Lost")) =
        .error (.transformation "Order" .navigationProperty "refused") := by
  have hbuild : build (markedScope "p" "n") markedOrder = .ok (markedView "p" "n") := rfl
  have hother : build (markedScope "p" "m") markedOrder = .ok (markedView "p" "m") := rfl
  obtain ⟨hshows, hapart, -⟩ := build_decided (markedScope "p" "n") markedOrder
  refine ⟨(hshows _).1 hbuild, (hapart _ hbuild).properties _ _ _ hother rfl rfl rfl rfl, ?_⟩
  refine ((build_decided _ _).2.2 _).2 ⟨?_, .navigation (.reference "Hidden" "Line"), ?_, ?_⟩
  · exact [.ownName, .property ⟨"Id", some "order_id", "int", false, true⟩,
      .target (.collection "Lines" "Line"), .navigation (.collection "Lines" "Line"),
      .target (.reference "Parent" "Order"), .navigation (.reference "Parent" "Order"),
      .target (.reference "Hidden" "Line")]
  · exact [.target (.reference "Cause" "Lost"), .navigation (.reference "Cause" "Lost")]
  · refine ⟨rfl, rfl, ?_⟩
    simp only [List.forall_mem_cons, List.not_mem_nil, false_implies, implies_true, and_true]
    exact ⟨rfl, rfl, rfl, rfl, rfl, rfl, rfl⟩

end EntityScaffold
