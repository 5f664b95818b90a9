import EntityScaffold.Proofs.Generation.Runs

/-! # Outputs do not disturb each other

The output of an entity depends on the rest of the model only through the table of names, and there only
through the entries of the entity itself and of the targets of its navigations. With transformers that
remember nothing these entries are the same for every model, so two runs over models that share an
entity make the same of it.
-/

namespace EntityScaffold

variable {σ : Type}

theorem mapM_congr_of_mem {α β : Type} {m : Type → Type} [Monad m] [LawfulMonad m]
    {f g : α → m β} :
    ∀ {l : List α}, (∀ a ∈ l, f a = g a) → l.mapM f = l.mapM g
  | [], _ => rfl
  | a :: rest, h => by
    rw [List.mapM_cons, List.mapM_cons, h a List.mem_cons_self,
      mapM_congr_of_mem fun b hb => h b (List.mem_cons_of_mem _ hb)]

theorem Keyed.get?_of_mem {α : Type} {key : String} {value : α} (m : Keyed α)
    (h : (key, value) ∈ m.entries) : m.get? key = some value := by
  obtain ⟨before, after, hsplit⟩ := List.append_of_mem h
  refine List.lookup_eq_some_iff.2 ⟨before, after, hsplit, fun entry he => ?_⟩
  have hlt : entry.1 < key := by
    have hasc : Ascending (before ++ (key, value) :: after) := hsplit ▸ m.ascending
    exact (List.pairwise_append.1 hasc).2.2 entry he _ List.mem_cons_self
  have hne : key ≠ entry.1 := fun heq => String.lt_irrefl key (heq ▸ hlt)
  simpa using hne

/-! ## What an output depends on -/

/-- Two tables have the same entries for an entity and for the targets of its navigations. -/
structure EntityNames.AgreeOn (entity : EntityType) (names others : EntityNames) : Prop where
  own : names.resolution? entity.name = others.resolution? entity.name
  target : ∀ navigation ∈ entity.navigations,
    names.resolution? navigation.targetEntity = others.resolution? navigation.targetEntity

/-- The scope of another run, which has other names and another context. -/
def GenerationScope.withNames (scope : GenerationScope) (names : EntityNames)
    (contextName : String) : GenerationScope :=
  { scope with names := names, contextName := contextName }

namespace EntityNames.AgreeOn

variable {entity : EntityType} {names : EntityNames} {scope : GenerationScope}
variable (contextName : String)

theorem get_own (h : AgreeOn entity names scope.names) :
    names.get entity.name = scope.names.get entity.name := by
  rw [get_eq, get_eq, h.own]

theorem get_target (h : AgreeOn entity names scope.names) {navigation : Navigation}
    (hn : navigation ∈ entity.navigations) :
    names.get navigation.targetEntity = scope.names.get navigation.targetEntity := by
  rw [get_eq, get_eq, h.target navigation hn]

theorem navigationView (h : AgreeOn entity names scope.names) {navigation : Navigation}
    (hn : navigation ∈ entity.navigations) :
    NavigationView.build (scope.withNames names contextName) entity navigation =
      NavigationView.build scope entity navigation := by
  simp only [NavigationView.build, className, GenerationScope.withNames, h.get_target hn]

theorem entityTypeView (h : AgreeOn entity names scope.names) :
    EntityTypeView.build (scope.withNames names contextName) entity =
      EntityTypeView.build scope entity := by
  have hnav : entity.navigations.mapM
      (NavigationView.build (scope.withNames names contextName) entity) =
        entity.navigations.mapM (NavigationView.build scope entity) :=
    mapM_congr_of_mem fun navigation hn => h.navigationView contextName hn
  have hown : (scope.withNames names contextName).names.className entity.name =
      scope.names.className entity.name := by
    simp only [className, GenerationScope.withNames, h.get_own]
  simp only [EntityTypeView.build, hown, hnav]
  rfl

theorem typescriptImports {own : String} :
    ∀ {navigations : List Navigation} {known : Keyed String},
      (∀ navigation ∈ navigations,
        names.get navigation.targetEntity = scope.names.get navigation.targetEntity) →
      EntityScaffold.typescriptImports names own known navigations =
        EntityScaffold.typescriptImports scope.names own known navigations
  | [], _, _ => rfl
  | navigation :: rest, known, h => by
    have hrest (known : Keyed String) : EntityScaffold.typescriptImports names own known rest =
        EntityScaffold.typescriptImports scope.names own known rest :=
      typescriptImports fun n hn => h n (List.mem_cons_of_mem _ hn)
    simp only [EntityScaffold.typescriptImports, h navigation List.mem_cons_self, hrest]

theorem imports (language : LanguageMode) (h : AgreeOn entity names scope.names)
    (view : EntityTypeView) :
    language.imports (scope.withNames names contextName) entity view =
      language.imports scope entity view := by
  cases language with
  | csharp => rfl
  | typescript =>
    simp only [LanguageMode.imports, GenerationScope.withNames]
    rw [typescriptImports fun navigation hn => h.get_target hn]

theorem writeCode (generator : EntityTypeGenerator) (h : AgreeOn entity names scope.names) :
    generator.writeCode (scope.withNames names contextName) entity =
      generator.writeCode scope entity := by
  cases generator with
  | null => rfl
  | rendering language =>
    simp only [EntityTypeGenerator.writeCode, EntityTypeView.complete, h.entityTypeView contextName,
      h.imports contextName language]
    rfl

/-- The file of an entity type depends on nothing else of the table, and not on the context. -/
theorem generateEntity (model : ModelGenerator) (generator : EntityTypeGenerator)
    (h : AgreeOn entity names scope.names) :
    model.generateEntity generator (scope.withNames names contextName) entity =
      model.generateEntity generator scope entity := by
  have hname : ModelGenerator.entityFileName (scope.withNames names contextName) entity =
      ModelGenerator.entityFileName scope entity := by
    simp only [ModelGenerator.entityFileName, fileStem, GenerationScope.withNames, h.get_own]
  simp only [ModelGenerator.generateEntity, hname, h.writeCode contextName generator]

end EntityNames.AgreeOn

/-! ## Runs over different models -/

/-- A generator that is enabled makes a file or fails. -/
theorem EntityTypeGenerator.isSome_of_writeCode {generator : EntityTypeGenerator}
    {scope : GenerationScope} {entity : EntityType} {code? : Option String}
    (h : generator.writeCode scope entity = .ok code?) (he : generator.isEnabled = true) :
    code?.isSome := by
  cases generator with
  | null => cases he
  | rendering language =>
    simp only [writeCode] at h
    split at h
    · cases h
    · obtain ⟨view, -, h⟩ := exists_ok_of_bind h
      obtain ⟨text, -, h⟩ := exists_ok_of_bind h
      cases h
      rfl

theorem ModelGenerator.disabled_of_generateEntity {model : ModelGenerator}
    {generator : EntityTypeGenerator} {scope : GenerationScope} {entity : EntityType}
    (h : model.generateEntity generator scope entity = .ok none) : generator.isEnabled = false := by
  by_contra hd
  have he : generator.isEnabled = true := by simpa using hd
  simp only [generateEntity, he, Bool.not_true, Bool.false_eq_true, if_false] at h
  split at h
  · cases h
  · split at h
    · cases h
    · next code? hcode =>
      have hsome := EntityTypeGenerator.isSome_of_writeCode hcode he
      cases code? with
      | none => cases hsome
      | some code => cases h

/-- The report has what was made of an output. -/
def ScaffoldReport.Shows (report : ScaffoldReport) :
    Except EntityFailure (Option GeneratedFile) → Prop
  | .ok none => True
  | .ok (some file) => report.model.get? file.fileName = some file.code
  | .error failure => failure ∈ report.failures

namespace Scaffolder

variable {scaffolder : Scaffolder σ} {model : DatabaseModel} {entity : EntityType} {s : σ}

/-- What a run makes of an entity: the failure of its name, or else its file or failure. -/
def entityResult (scaffolder : Scaffolder σ) (model : DatabaseModel) (s : σ)
    (entity : EntityType) : Except EntityFailure (Option GeneratedFile) :=
  match (scaffolder.resolution model s).2.find? (fun failure => failure.entity = entity.name) with
  | some failure => .error failure
  | none => (scaffolder.entityOutcome (scaffolder.runScope model s) entity).result

/-- A report has what the run made of each entity. -/
theorem shows_entityResult {report : ScaffoldReport} (he : entity ∈ model.entityTypes)
    (hr : (scaffolder.generateReport model s).1 = .ok report) :
    report.Shows (scaffolder.entityResult model s entity) := by
  obtain ⟨collected, hmerges, rfl⟩ := exists_merges hr
  have hmem : scaffolder.entityOutcome (scaffolder.runScope model s) entity ∈
      scaffolder.runOutcomes model s :=
    List.mem_append_right _ (List.mem_cons_of_mem _ (List.mem_map_of_mem he))
  unfold entityResult
  split
  · next failure hf =>
    change failure ∈ collected.failures
    rw [hmerges.failures]
    refine List.mem_filterMap.2 ⟨nameOutcome failure, ?_, rfl⟩
    exact List.mem_append_left _ (List.mem_map_of_mem (List.mem_of_find?_eq_some hf))
  · cases hresult : (scaffolder.entityOutcome (scaffolder.runScope model s) entity).result with
    | error failure =>
      change failure ∈ collected.failures
      rw [hmerges.failures]
      refine List.mem_filterMap.2 ⟨_, hmem, ?_⟩
      rw [Outcome.failure?, hresult]
    | ok file? =>
      cases file? with
      | none => trivial
      | some file =>
        refine Keyed.get?_of_mem _ (hmerges.files.mem_iff.2 (List.mem_filterMap.2 ⟨_, hmem, ?_⟩))
        rw [Outcome.entry?, Outcome.file?, hresult]
        rfl

/-- An entity that nothing is made of has no generator. -/
theorem disabled_of_entityResult (h : scaffolder.entityResult model s entity = .ok none) :
    scaffolder.config.roles.entityType.isEnabled = false := by
  unfold entityResult at h
  split at h
  · cases h
  · next hfind =>
    simp only [entityOutcome] at h
    split at h
    · next hfailed =>
      obtain ⟨failure, hf, hentity⟩ := EntityNames.exists_failure_of_isFailed hfailed
      exact absurd hentity (by simpa using List.find?_eq_none.1 hfind failure hf)
    · exact ModelGenerator.disabled_of_generateEntity h

/-- The tables of two runs agree on an entity of both models. -/
theorem agreeOn_of_isPure (hp : scaffolder.config.transformers.IsPure) {other : DatabaseModel}
    (he : entity ∈ model.entityTypes) (he' : entity ∈ other.entityTypes) (s t : σ) :
    EntityNames.AgreeOn entity (scaffolder.resolution model s).1 (scaffolder.resolution other t).1 where
  own := (EntityNames.resolution?_of_isPure hp (model.entity_mem_mentionedNames he) s s).trans
    (EntityNames.resolution?_of_isPure hp (other.entity_mem_mentionedNames he') t s).symm
  target := fun _ hn =>
    (EntityNames.resolution?_of_isPure hp (model.target_mem_mentionedNames he hn) s s).trans
      (EntityNames.resolution?_of_isPure hp (other.target_mem_mentionedNames he' hn) t s).symm

/-- Two runs make the same of an entity of both models. -/
theorem entityResult_of_isPure (hp : scaffolder.config.transformers.IsPure) {other : DatabaseModel}
    (he : entity ∈ model.entityTypes) (he' : entity ∈ other.entityTypes) (s t : σ) :
    scaffolder.entityResult model s entity = scaffolder.entityResult other t entity := by
  have hagree : EntityNames.AgreeOn entity (scaffolder.resolution model s).1
      (scaffolder.runScope other t).names := agreeOn_of_isPure hp he he' s t
  have hfind : (scaffolder.resolution model s).2.find? (fun failure => failure.entity = entity.name) =
      (scaffolder.resolution other t).2.find? fun failure => failure.entity = entity.name := by
    refine (EntityNames.find?_resolve hp model entity.name s s).trans ?_
    refine Eq.trans ?_ (EntityNames.find?_resolve hp other entity.name t s).symm
    rw [if_pos (model.entity_mem_mentionedNames he), if_pos (other.entity_mem_mentionedNames he')]
  have hfile := hagree.generateEntity (scaffolder.options.contextNameFor model)
    scaffolder.config.roles.model scaffolder.config.roles.entityType
  have hfailed : (scaffolder.runScope model s).names.isFailed entity.name =
      (scaffolder.runScope other t).names.isFailed entity.name := by
    rw [Bool.eq_iff_iff, EntityNames.isFailed_iff, EntityNames.isFailed_iff]
    exact Eq.congr_left hagree.own
  have hresult : (scaffolder.entityOutcome (scaffolder.runScope model s) entity).result =
      (scaffolder.entityOutcome (scaffolder.runScope other t) entity).result := by
    simp only [entityOutcome, hfailed]
    split
    · rfl
    · exact hfile
  simp only [entityResult, hfind, hresult]

theorem entity_of_entityResult {failure : EntityFailure}
    (h : scaffolder.entityResult model s entity = .error failure) : failure.entity = entity.name := by
  unfold entityResult at h
  split at h
  · next hfind => cases h; simpa using List.find?_some hfind
  · simp only [entityOutcome] at h
    split at h
    · cases h
    · unfold ModelGenerator.generateEntity at h
      split at h
      · cases h
      · split at h
        · cases h; rfl
        · split at h <;> cases h
          rfl

/-- Two runs over models that share an entity make the same of it, and both reports have it: the same
code in the same file, or the same failure. Nothing is made of it only if no entity is to be generated. -/
theorem generateReport_isolated (hp : scaffolder.config.transformers.IsPure)
    {other : DatabaseModel} (he : entity ∈ model.entityTypes) (he' : entity ∈ other.entityTypes)
    {s t : σ} {report report' : ScaffoldReport}
    (hr : (scaffolder.generateReport model s).1 = .ok report)
    (hr' : (scaffolder.generateReport other t).1 = .ok report') :
    ∃ result, scaffolder.entityResult model s entity = result ∧
      scaffolder.entityResult other t entity = result ∧
      report.Shows result ∧ report'.Shows result ∧
      (∀ failure, result = .error failure → failure.entity = entity.name) ∧
      (result = .ok none → scaffolder.config.roles.entityType.isEnabled = false) := by
  have heq := entityResult_of_isPure hp he he' s t
  refine ⟨_, rfl, heq.symm, shows_entityResult he hr, ?_, fun failure => entity_of_entityResult,
    disabled_of_entityResult⟩
  rw [heq]
  exact shows_entityResult he' hr'

/-- A scaffolder whose name transformer refuses one name. -/
def refusingScaffolder : Scaffolder Unit :=
  let config : GenerationConfig Unit := GenerationConfig.start .entitiesOnly .typescript
  let refuse : NameTransformer Unit := fun name =>
    pure (if name = "Order" then .error "refused" else .ok name)
  ⟨{ config with transformers := { TransformerSet.empty with entityName := some refuse } }, {},
    { Renderer.new config.helpers config.blockHelpers with
      templates := Keyed.empty.insert "TypeScriptEntityType/Interface.hbs"
        (.cons none (.text "interface") .nil) }⟩

theorem generateReport_isolated_refused :
    ∃ report report',
      (refusingScaffolder.generateReport ⟨"Shop", [.new "Item"]⟩ ()).1 = .ok report ∧
      (refusingScaffolder.generateReport ⟨"Store", [.new "Order", .new "Item"]⟩ ()).1 = .ok report' ∧
      report.Shows (.ok (some ⟨"Item.ts", "interface"⟩)) ∧
      report'.Shows (.ok (some ⟨"Item.ts", "interface"⟩)) := by
  have hp : refusingScaffolder.config.transformers.IsPure :=
    ⟨by rintro _ ⟨⟩; exact fun _ _ _ => rfl, by rintro _ ⟨⟩⟩
  obtain ⟨report, hr⟩ : ∃ report,
      (refusingScaffolder.generateReport ⟨"Shop", [.new "Item"]⟩ ()).1 = .ok report := ⟨_, rfl⟩
  obtain ⟨report', hr'⟩ : ∃ report,
      (refusingScaffolder.generateReport ⟨"Store", [.new "Order", .new "Item"]⟩ ()).1 =
        .ok report := ⟨_, rfl⟩
  have he : EntityType.new "Item" ∈ [EntityType.new "Item"] := List.mem_singleton_self _
  have he' : EntityType.new "Item" ∈ [EntityType.new "Order", EntityType.new "Item"] :=
    List.mem_cons_of_mem _ he
  obtain ⟨_, rfl, -, hshows, hshows', -⟩ := generateReport_isolated hp he he' hr hr'
  exact ⟨report, report', hr, hr', hshows, hshows'⟩

end Scaffolder

end EntityScaffold
