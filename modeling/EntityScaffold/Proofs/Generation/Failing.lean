import EntityScaffold.Proofs.Generation.Runs

/-! # Why outputs fail

Looking up a name fails if the name did, a transformer fails with an error of its own, and rendering fails
for its own faults. The view of a database context fails for the first entity without a name; the view of
an entity fails with the first of its properties that does, or else with the first of its navigations. An
output fails with its view, or else with its template.
-/

namespace EntityScaffold

variable {σ : Type}

/-! ## Steps that fail -/

section

variable {ε α β : Type} {e : ε}

/-- What is done in sequence fails with the first part that does. -/
theorem bind_eq_error {x : Except ε α} {f : α → Except ε β} :
    (x >>= f) = .error e ↔ x = .error e ∨ ∃ a, x = .ok a ∧ f a = .error e := by
  cases x with
  | error e' => simp [bind, Except.bind]
  | ok a => simp [bind, Except.bind]

theorem map_eq_error {x : Except ε α} {f : α → β} : x.map f = .error e ↔ x = .error e := by
  cases x with
  | error e' => simp [Except.map]
  | ok a => simp [Except.map]

theorem exists_map_eq_ok {x : Except ε α} {f : α → β} :
    (∃ b, x.map f = .ok b) ↔ ∃ a, x = .ok a := by
  cases x with
  | error e' => simp [Except.map]
  | ok a => simp [Except.map]

/-- Steps over a list fail with the first step that does. -/
theorem mapM_eq_error {f : α → Except ε β} {l : List α} :
    l.mapM f = .error e ↔ ∃ before a after, l = before ++ a :: after ∧
      (∀ b ∈ before, ∃ c, f b = .ok c) ∧ f a = .error e := by
  induction l with
  | nil =>
    constructor
    · intro h
      cases h
    · rintro ⟨before, a, after, h, -⟩
      cases before <;> cases h
  | cons first rest ih =>
    rw [List.mapM_cons, bind_eq_error]
    constructor
    · rintro (hfirst | ⟨b, hfirst, hrest⟩)
      · exact ⟨[], first, rest, rfl, nofun, hfirst⟩
      · obtain hrest | ⟨_, -, hpure⟩ := bind_eq_error.1 hrest
        · obtain ⟨before, a, after, rfl, hbefore, ha⟩ := ih.1 hrest
          refine ⟨first :: before, a, after, rfl, fun c hc => ?_, ha⟩
          rcases List.mem_cons.1 hc with rfl | hc
          · exact ⟨b, hfirst⟩
          · exact hbefore c hc
        · cases hpure
    · rintro ⟨before, a, after, hsplit, hbefore, ha⟩
      cases before with
      | nil => cases hsplit; exact .inl ha
      | cons first before =>
        cases hsplit
        obtain ⟨b, hb⟩ := hbefore first List.mem_cons_self
        refine .inr ⟨b, hb, bind_eq_error.2 (.inl (ih.2 ⟨before, a, after, rfl, ?_, ha⟩))⟩
        exact fun c hc => hbefore c (List.mem_cons_of_mem _ hc)

/-- Steps over a list succeed if every step does. -/
theorem exists_mapM_eq_ok {f : α → Except ε β} {l : List α} :
    (∃ bs, l.mapM f = .ok bs) ↔ ∀ a ∈ l, ∃ b, f a = .ok b := by
  induction l with
  | nil => exact iff_of_true ⟨[], rfl⟩ nofun
  | cons first rest ih =>
    rw [List.mapM_cons, List.forall_mem_cons, ← ih]
    constructor
    · rintro ⟨bs, h⟩
      obtain ⟨b, hfirst, h⟩ := exists_ok_of_bind h
      obtain ⟨others, hrest, -⟩ := exists_ok_of_bind h
      exact ⟨⟨b, hfirst⟩, others, hrest⟩
    · rintro ⟨⟨b, hfirst⟩, others, hrest⟩
      exact ⟨b :: others, by rw [hfirst, hrest]; rfl⟩

end

/-! ## Names -/

namespace EntityNames

/-- Looking up a mentioned name fails if the name did. -/
theorem Covers.get_eq_error {names : EntityNames} {model : DatabaseModel} (hc : names.Covers model)
    {name : String} (h : name ∈ model.mentionedNames) {e : GenerationError} :
    names.get name = .error e ↔ names.isFailed name = true ∧ e = .failedDependency name := by
  constructor
  · intro he
    have hfatal := hc name h e he
    rw [get_eq] at he
    split at he
    · cases he
    · next hn => cases he; exact ⟨isFailed_iff.2 hn, rfl⟩
    · cases he; cases hfatal
  · rintro ⟨hf, rfl⟩
    rw [get_eq, isFailed_iff.1 hf]

/-- A mentioned name that did not fail can be looked up. -/
theorem Covers.exists_get_eq_ok {names : EntityNames} {model : DatabaseModel}
    (hc : names.Covers model) {name : String} (h : name ∈ model.mentionedNames) :
    (∃ resolved, names.get name = .ok resolved) ↔ names.isFailed name = false := by
  cases hg : names.get name with
  | ok resolved =>
    refine iff_of_true ⟨resolved, rfl⟩ (Bool.eq_false_iff.2 fun hf => ?_)
    rw [(hc.get_eq_error h).2 ⟨hf, rfl⟩] at hg
    cases hg
  | error e =>
    have hf := ((hc.get_eq_error h).1 hg).1
    refine iff_of_false ?_ (by simp [hf])
    rintro ⟨resolved, ⟨⟩⟩

end EntityNames

/-! ## Views that fail -/

/-- Rendering fails for a name that is neither a helper nor a value, or for another fault of it. -/
theorem Renderer.error_of_renderNamed {renderer : Renderer} {name : String} {data : Json}
    {e : GenerationError} (h : renderer.renderNamed name data = .error e) :
    ∃ failure, e = errorOf name failure := by
  unfold renderNamed at h
  split at h
  · next body _ =>
    unfold renderBody at h
    cases hr : body.renderAlone (renderer.environment data) (some name) with
    | ok text => rw [hr] at h; cases h
    | error failure => rw [hr] at h; cases h; exact ⟨failure, rfl⟩
  · cases h
    exact ⟨_, rfl⟩

theorem Renderer.errorOf_ne_failedDependency (name : String) (failure : Template.Failure)
    (dependency : String) : errorOf name failure ≠ .failedDependency dependency := by
  unfold errorOf
  split <;> nofun

theorem Renderer.errorOf_ne_transformation (name : String) (failure : Template.Failure)
    (entity : String) (role : TransformRole) (cause : String) :
    errorOf name failure ≠ .transformation entity role cause := by
  unfold errorOf
  split <;> nofun

/-- A transformer of properties fails with an error of its own, told for the declaring type. -/
theorem MemberTransformers.apply_eq_error {transformer : Option PropertyTransformer}
    {role : TransformRole} {info : PropertyInfo} {e : GenerationError} :
    apply transformer role info = .error e ↔ ∃ f cause, transformer = some f ∧
      f info = .error cause ∧
      e = .transformation (info.declaringType.getD info.propertyName) role cause := by
  cases transformer with
  | none => simp [apply]
  | some f =>
    cases hf : f info with
    | ok changed => simp [apply, hf, mapError_ok]
    | error cause => simp [apply, hf, mapError_error, eq_comm]

variable {model : DatabaseModel} {scope : GenerationScope} {entity : EntityType} {e : GenerationError}

/-- The first entity of a model whose name failed. -/
def EntityNames.firstFailed? (names : EntityNames) (model : DatabaseModel) : Option String :=
  (model.entityTypes.find? fun entity => names.isFailed entity.name).map (·.name)

/-- The view of a database context fails for the first entity without a name. -/
theorem DbContextView.build_eq_error (hc : scope.names.Covers model) :
    build scope model = .error e ↔
      ∃ name, scope.names.firstFailed? model = some name ∧ e = .failedDependency name := by
  have hset (entity : EntityType) (he : entity ∈ model.entityTypes) (e : GenerationError) :
      DbSetView.build scope.names entity = .error e ↔
        scope.names.isFailed entity.name = true ∧ e = .failedDependency entity.name := by
    rw [DbSetView.build, map_eq_error, EntityNames.className, map_eq_error,
      hc.get_eq_error (model.entity_mem_mentionedNames he)]
  have hok (entity : EntityType) (he : entity ∈ model.entityTypes) :
      (∃ view, DbSetView.build scope.names entity = .ok view) ↔
        scope.names.isFailed entity.name = false := by
    rw [DbSetView.build, exists_map_eq_ok, EntityNames.className, exists_map_eq_ok,
      hc.exists_get_eq_ok (model.entity_mem_mentionedNames he)]
  simp only [build, bind_eq_error, pure, Except.pure, reduceCtorEq, and_false, exists_false, or_false,
    mapM_eq_error, EntityNames.firstFailed?, Option.map_eq_some_iff, List.find?_eq_some_iff_append]
  constructor
  · rintro ⟨before, entity, after, hsplit, hbefore, he⟩
    have hmem : ∀ other ∈ before ++ entity :: after, other ∈ model.entityTypes := fun _ h => hsplit ▸ h
    obtain ⟨hf, rfl⟩ := (hset entity (hmem _ (by simp)) e).1 he
    refine ⟨entity.name, ⟨entity, ⟨hf, before, after, hsplit, fun other ho => ?_⟩, rfl⟩, rfl⟩
    simp [(hok other (hmem _ (by simp [ho]))).1 (hbefore other ho)]
  · rintro ⟨name, ⟨entity, ⟨hf, before, after, hsplit, hbefore⟩, rfl⟩, rfl⟩
    have hmem : ∀ other ∈ before ++ entity :: after, other ∈ model.entityTypes := fun _ h => hsplit ▸ h
    refine ⟨before, entity, after, hsplit, fun other ho => ?_, ?_⟩
    · exact (hok other (hmem _ (by simp [ho]))).2 (by simpa using hbefore other ho)
    · exact (hset entity (hmem _ (by simp)) _).2 ⟨hf, rfl⟩

/-- The view of a property fails if the transformer does. -/
theorem PropertyView.build_eq_error {property : Property} :
    build scope entity property = .error e ↔ ∃ f cause, scope.transformers.property = some f ∧
      f ⟨scope.language.typeName property.clrType property.nullable, property.name, some entity.name⟩ =
        .error cause ∧
      e = .transformation entity.name .property cause := by
  rw [build, bind_eq_error, MemberTransformers.transformProperty, MemberTransformers.apply_eq_error]
  simp [pure, Except.pure]

/-- The view of a navigation fails if the name of its target did, or else if the transformer does. -/
theorem NavigationView.build_eq_error (hc : scope.names.Covers model)
    (he : entity ∈ model.entityTypes) {navigation : Navigation}
    (hn : navigation ∈ entity.navigations) :
    build scope entity navigation = .error e ↔
      scope.names.isFailed navigation.targetEntity = true ∧
          e = .failedDependency navigation.targetEntity ∨
        ∃ resolved f cause, scope.names.get navigation.targetEntity = .ok resolved ∧
          scope.transformers.navigation = some f ∧
          f ⟨resolved.className, navigation.name, some entity.name⟩ = .error cause ∧
          e = .transformation entity.name .navigationProperty cause := by
  have htarget := model.target_mem_mentionedNames he hn
  rw [build, bind_eq_error, EntityNames.className, map_eq_error, hc.get_eq_error htarget]
  refine or_congr_right ?_
  cases hg : scope.names.get navigation.targetEntity with
  | error e' => simp [Except.map]
  | ok resolved =>
    simp [Except.map, bind_eq_error, MemberTransformers.transformNavigation,
      MemberTransformers.apply_eq_error, pure, Except.pure]

/-- The view of an entity with a name fails with its first property that does, or else with its first
navigation that does. -/
theorem EntityTypeView.build_eq_error (hc : scope.names.Covers model)
    (he : entity ∈ model.entityTypes) (hown : scope.names.isFailed entity.name = false) :
    build scope entity = .error e ↔
      entity.properties.mapM (PropertyView.build scope entity) = .error e ∨
        (∀ property ∈ entity.properties, ∃ view, PropertyView.build scope entity property = .ok view) ∧
          entity.navigations.mapM (NavigationView.build scope entity) = .error e := by
  obtain ⟨resolved, hget⟩ := (hc.exists_get_eq_ok (model.entity_mem_mentionedNames he)).2 hown
  have hname : scope.names.className entity.name = .ok resolved.className := by
    rw [EntityNames.className, hget]
    rfl
  rw [build, hname, ← exists_mapM_eq_ok]
  simp [bind_eq_error, pure, Except.pure]

/-- An entity with a name fails for another name if everything up to the first navigation that leads to
that name has a view. -/
theorem EntityTypeView.build_eq_failedDependency (hc : scope.names.Covers model)
    (he : entity ∈ model.entityTypes) (hown : scope.names.isFailed entity.name = false)
    {name : String} :
    build scope entity = .error (.failedDependency name) ↔
      (∀ property ∈ entity.properties, ∃ view, PropertyView.build scope entity property = .ok view) ∧
        ∃ before navigation after, entity.navigations = before ++ navigation :: after ∧
          (∀ other ∈ before, ∃ view, NavigationView.build scope entity other = .ok view) ∧
          scope.names.isFailed navigation.targetEntity = true ∧ navigation.targetEntity = name := by
  rw [build_eq_error hc he hown, mapM_eq_error, mapM_eq_error]
  constructor
  · rintro (⟨_, property, _, -, -, h⟩ | ⟨hproperties, before, navigation, after, hsplit, hbefore, h⟩)
    · obtain ⟨_, _, -, -, ⟨⟩⟩ := PropertyView.build_eq_error.1 h
    · have hn : navigation ∈ entity.navigations := by simp [hsplit]
      obtain ⟨hf, herror⟩ | ⟨_, _, _, -, -, -, ⟨⟩⟩ := (NavigationView.build_eq_error hc he hn).1 h
      cases herror
      exact ⟨hproperties, before, navigation, after, hsplit, hbefore, hf, rfl⟩
  · rintro ⟨hproperties, before, navigation, after, hsplit, hbefore, hf, rfl⟩
    have hn : navigation ∈ entity.navigations := by simp [hsplit]
    refine .inr ⟨hproperties, before, navigation, after, hsplit, hbefore, ?_⟩
    exact (NavigationView.build_eq_error hc he hn).2 (.inl ⟨hf, rfl⟩)

/-- The transformer of a role refuses a member of an entity for a cause. -/
def GenerationScope.Refuses (scope : GenerationScope) (entity : EntityType) (cause : String) :
    TransformRole → Prop
  | .property => ∃ property ∈ entity.properties, ∃ f, scope.transformers.property = some f ∧
      f ⟨scope.language.typeName property.clrType property.nullable, property.name, some entity.name⟩ =
        .error cause
  | .navigationProperty => ∃ navigation ∈ entity.navigations, ∃ resolved f,
      scope.names.get navigation.targetEntity = .ok resolved ∧ scope.transformers.navigation = some f ∧
      f ⟨resolved.className, navigation.name, some entity.name⟩ = .error cause
  | .entityName | .entityFileName => False

/-- An error of a transformer tells the entity whose member it refuses. -/
theorem EntityTypeView.refuses_of_build (hc : scope.names.Covers model)
    (he : entity ∈ model.entityTypes) (hown : scope.names.isFailed entity.name = false)
    {told cause : String} {role : TransformRole}
    (h : build scope entity = .error (.transformation told role cause)) :
    told = entity.name ∧ scope.Refuses entity cause role := by
  rw [build_eq_error hc he hown, mapM_eq_error, mapM_eq_error] at h
  obtain ⟨_, property, _, hsplit, -, h⟩ | ⟨-, _, navigation, _, hsplit, -, h⟩ := h
  · obtain ⟨f, _, hf, hrefused, herror⟩ := PropertyView.build_eq_error.1 h
    cases herror
    exact ⟨rfl, property, by simp [hsplit], f, hf, hrefused⟩
  · have hn : navigation ∈ entity.navigations := by simp [hsplit]
    obtain ⟨-, ⟨⟩⟩ | ⟨resolved, f, _, hget, hf, hrefused, herror⟩ :=
      (NavigationView.build_eq_error hc he hn).1 h
    cases herror
    exact ⟨rfl, navigation, hn, resolved, f, hget, hf, hrefused⟩

/-- An entity with a view has the names of all targets. -/
theorem EntityTypeView.exists_get_of_build {view : EntityTypeView}
    (h : build scope entity = .ok view) {navigation : Navigation}
    (hn : navigation ∈ entity.navigations) :
    ∃ resolved, scope.names.get navigation.targetEntity = .ok resolved := by
  obtain ⟨_, -, h⟩ := exists_ok_of_bind h
  obtain ⟨_, -, h⟩ := exists_ok_of_bind h
  obtain ⟨views, hviews, -⟩ := exists_ok_of_bind h
  obtain ⟨_, hview⟩ := exists_mapM_eq_ok.1 ⟨views, hviews⟩ navigation hn
  obtain ⟨target, htarget, -⟩ := exists_ok_of_bind hview
  exact exists_map_eq_ok.1 ⟨target, htarget⟩

theorem exists_typescriptImports_eq_ok {names : EntityNames} (own : String) :
    ∀ (known : Keyed String) {navigations : List Navigation},
      (∀ navigation ∈ navigations, ∃ resolved, names.get navigation.targetEntity = .ok resolved) →
        ∃ imports, typescriptImports names own known navigations = .ok imports
  | known, [], _ => ⟨known, rfl⟩
  | known, navigation :: rest, h => by
    obtain ⟨resolved, hget⟩ := h navigation List.mem_cons_self
    have hrest (known : Keyed String) :
        ∃ imports, typescriptImports names own known rest = .ok imports :=
      exists_typescriptImports_eq_ok own known fun n hn => h n (List.mem_cons_of_mem _ hn)
    simp only [typescriptImports, hget, bind, Except.bind]
    split
    · exact hrest _
    · exact hrest _

/-- What an entity imports does not make its view fail. -/
theorem EntityTypeView.complete_eq_error {language : LanguageMode} :
    complete language scope entity = .error e ↔ build scope entity = .error e := by
  rw [complete, bind_eq_error]
  refine or_iff_left ?_
  rintro ⟨view, hview, h⟩
  obtain h | ⟨_, -, h⟩ := bind_eq_error.1 h
  · cases language with
    | csharp => cases h
    | typescript =>
      obtain ⟨imports, himports⟩ := exists_typescriptImports_eq_ok view.className .empty
        fun _ hn => exists_get_of_build hview hn
      obtain h | ⟨_, -, h⟩ := bind_eq_error.1 h
      · rw [himports] at h; cases h
      · cases h
  · cases h

/-! ## Outputs that fail -/

theorem Outcome.failure?_eq_some {outcome : Outcome} {failure : EntityFailure} :
    outcome.failure? = some failure ↔ outcome.result = .error failure := by
  unfold failure?
  cases outcome.result with
  | ok file => simp
  | error other => simp

namespace ModelGenerator

variable {generator : ModelGenerator} {failure : EntityFailure}

/-- A database context fails with its view or with its template. -/
theorem generateDbContext_eq_error (hl : scope.language = generator.language) :
    generator.generateDbContext .rendering scope model = .error e ↔
      DbContextView.build scope model = .error e ∨ ∃ view, DbContextView.build scope model = .ok view ∧
        scope.renderer.renderNamed dbContextTemplate view.toJson = .error e := by
  rw [generateDbContext, if_neg (not_not_intro hl)]
  simp [DbContextGenerator.writeCode, bind_eq_error, pure, Except.pure]

/-- An entity with a name fails with its view or with its template. -/
theorem generateEntity_eq_error (hc : scope.names.Covers model) (he : entity ∈ model.entityTypes)
    (hown : scope.names.isFailed entity.name = false) :
    generator.generateEntity (.rendering scope.language) scope entity = .error failure ↔
      ∃ fileName e, entityFileName scope entity = .ok fileName ∧
        failure = .mk entity.name (some fileName) e ∧
        (EntityTypeView.build scope entity = .error e ∨
          ∃ view, EntityTypeView.complete scope.language scope entity = .ok view ∧
            scope.renderer.renderNamed scope.language.entityTemplate view.toJson = .error e) := by
  obtain ⟨resolved, hget⟩ := (hc.exists_get_eq_ok (model.entity_mem_mentionedNames he)).2 hown
  have hfile : entityFileName scope entity =
      .ok (resolved.fileStem ++ "." ++ scope.language.extension) := by
    simp [entityFileName, EntityNames.fileStem, hget, Except.map]
  have hcode (e : GenerationError) :
      (EntityTypeGenerator.rendering scope.language).writeCode scope entity = .error e ↔
        EntityTypeView.build scope entity = .error e ∨
          ∃ view, EntityTypeView.complete scope.language scope entity = .ok view ∧
            scope.renderer.renderNamed scope.language.entityTemplate view.toJson = .error e := by
    simp [EntityTypeGenerator.writeCode, bind_eq_error, EntityTypeView.complete_eq_error, pure,
      Except.pure]
  simp only [← hcode, generateEntity, hfile, EntityTypeGenerator.isEnabled, Bool.not_true,
    Bool.false_eq_true, if_false, Except.ok.injEq]
  cases hw : (EntityTypeGenerator.rendering scope.language).writeCode scope entity with
  | error e => simp [eq_comm]
  | ok code => simp

end ModelGenerator

namespace Scaffolder

variable {scaffolder : Scaffolder σ} {s : σ} {failure : EntityFailure} {name : String}

theorem roles_dbContext (hc : scaffolder.config.HasOwnRoles) :
    scaffolder.config.roles.dbContext =
      if scaffolder.config.mode.generatesDbContext then .rendering else .null := by
  rw [hc]
  rfl

theorem roles_entityType (hc : scaffolder.config.HasOwnRoles) (model : DatabaseModel) (s : σ) :
    scaffolder.config.roles.entityType = if scaffolder.config.mode.generatesEntities then
      .rendering (scaffolder.runScope model s).language else .null := by
  rw [hc]
  change _ = if _ then EntityTypeGenerator.rendering scaffolder.config.roles.language else _
  rw [hc]
  rfl

/-- The database context fails for its own errors only. -/
theorem dbContextOutcome_eq_error (hc : scaffolder.config.HasOwnRoles) :
    (scaffolder.dbContextOutcome (scaffolder.runScope model s) model).result = .error failure ↔
      scaffolder.config.mode.generatesDbContext = true ∧ ∃ e,
        failure = .mk (scaffolder.runScope model s).contextName
          (some (ModelGenerator.dbContextFileName (scaffolder.runScope model s).contextName)) e ∧
        (DbContextView.build (scaffolder.runScope model s) model = .error e ∨
          ∃ view, DbContextView.build (scaffolder.runScope model s) model = .ok view ∧
            (scaffolder.runScope model s).renderer.renderNamed dbContextTemplate view.toJson =
              .error e) := by
  cases hm : scaffolder.config.mode.generatesDbContext with
  | false =>
    rw [dbContextOutcome_of_disabled hc (by rw [roles_dbContext hc, hm]; rfl)]
    simp
  | true =>
    simp only [← ModelGenerator.generateDbContext_eq_error (language_runScope hc), dbContextOutcome,
      roles_dbContext hc, hm, if_true, true_and]
    cases scaffolder.config.roles.model.generateDbContext .rendering (scaffolder.runScope model s)
      model with
    | error e => simp [mapError_error, eq_comm]
    | ok file => simp [mapError_ok]

/-- An entity fails for its own errors only, and not again if its name failed. -/
theorem entityOutcome_eq_error (hc : scaffolder.config.HasOwnRoles) (he : entity ∈ model.entityTypes) :
    (scaffolder.entityOutcome (scaffolder.runScope model s) entity).result = .error failure ↔
      (scaffolder.runScope model s).names.isFailed entity.name = false ∧
      scaffolder.config.mode.generatesEntities = true ∧ ∃ fileName e,
        ModelGenerator.entityFileName (scaffolder.runScope model s) entity = .ok fileName ∧
        failure = .mk entity.name (some fileName) e ∧
        (EntityTypeView.build (scaffolder.runScope model s) entity = .error e ∨
          ∃ view, EntityTypeView.complete (scaffolder.runScope model s).language
              (scaffolder.runScope model s) entity = .ok view ∧
            (scaffolder.runScope model s).renderer.renderNamed
              (scaffolder.runScope model s).language.entityTemplate view.toJson = .error e) := by
  cases hf : (scaffolder.runScope model s).names.isFailed entity.name with
  | true => simp [entityOutcome_of_disabled (.inl hf)]
  | false =>
    cases hm : scaffolder.config.mode.generatesEntities with
    | false =>
      rw [entityOutcome_of_disabled (.inr (by rw [roles_entityType hc model s, hm]; rfl))]
      simp
    | true =>
      simp only [entityOutcome, hf, roles_entityType hc model s, hm, if_true,
        Bool.false_eq_true, if_false, true_and,
        ModelGenerator.generateEntity_eq_error (covers_runScope scaffolder model s) he hf]

end Scaffolder

end EntityScaffold
