import EntityScaffold.Proofs.Generation.Runs
import EntityScaffold.Proofs.Template.Depth

/-! # What a run renders

A run renders the template of the database context, and that of an entity type for each entity, with the views that
can be built. It makes no other use of its renderer. So it returns what it computes if all of these renderings come
to an end, and it does not return if one of them does not.
-/

namespace EntityScaffold

variable {σ : Type}

/-! ## Outputs and their renderings -/

section

variable {renderer : Renderer}

/-- The database context only depends on how its template is rendered with the view. -/
theorem ModelGenerator.generateDbContext_congr (generator : ModelGenerator) (context : DbContextGenerator)
    (scope : GenerationScope) (model : DatabaseModel)
    (h : context = .rendering → scope.language = generator.language → ∀ view,
      DbContextView.build scope model = .ok view →
        renderer.renderNamed dbContextTemplate view.toJson =
          scope.renderer.renderNamed dbContextTemplate view.toJson) :
    generator.generateDbContext context { scope with renderer := renderer } model =
      generator.generateDbContext context scope model := by
  unfold generateDbContext
  by_cases hlanguage : scope.language = generator.language
  · have hcode : context.writeCode { scope with renderer := renderer } model = context.writeCode scope model := by
      cases context with
      | null => rfl
      | rendering =>
        have hview : DbContextView.build { scope with renderer := renderer } model =
          DbContextView.build scope model := rfl
        unfold DbContextGenerator.writeCode
        rw [hview]
        cases hbuilt : DbContextView.build scope model with
        | error e => simp only [bind, Except.bind]
        | ok view =>
          simp only [bind, Except.bind]
          rw [h rfl hlanguage view hbuilt]
    rw [hcode]
  · simp only [ne_eq, hlanguage, not_false_eq_true, if_true, throw, throwThe, MonadExceptOf.throw, bind, Except.bind]

/-- An entity type only depends on how the template of its language is rendered with the view. -/
theorem ModelGenerator.generateEntity_congr (generator : ModelGenerator)
    (entityGenerator : EntityTypeGenerator) (scope : GenerationScope) (entity : EntityType)
    (h : entityGenerator = .rendering scope.language → ∀ view,
      EntityTypeView.complete scope.language scope entity = .ok view →
        renderer.renderNamed scope.language.entityTemplate view.toJson =
          scope.renderer.renderNamed scope.language.entityTemplate view.toJson) :
    generator.generateEntity entityGenerator { scope with renderer := renderer } entity =
      generator.generateEntity entityGenerator scope entity := by
  have hcode : entityGenerator.writeCode { scope with renderer := renderer } entity =
      entityGenerator.writeCode scope entity := by
    cases entityGenerator with
    | null => rfl
    | rendering language =>
      unfold EntityTypeGenerator.writeCode
      by_cases hlanguage : scope.language = language
      · subst hlanguage
        have hview : EntityTypeView.complete scope.language { scope with renderer := renderer } entity =
          EntityTypeView.complete scope.language scope entity := rfl
        dsimp only
        rw [hview]
        cases hbuilt : EntityTypeView.complete scope.language scope entity with
        | error e => simp only [bind, Except.bind]
        | ok view =>
          simp only [bind, Except.bind]
          rw [h rfl view hbuilt]
      · simp only [ne_eq, hlanguage, not_false_eq_true, if_true, throw, throwThe, MonadExceptOf.throw, bind,
          Except.bind]
  have hname : entityFileName { scope with renderer := renderer } entity = entityFileName scope entity := rfl
  simp only [generateEntity, hcode, hname]

end

/-! ## Runs and their renderings -/

namespace Scaffolder

variable {scaffolder : Scaffolder σ} {model : DatabaseModel} {s : σ}

/-- A run renders the template of a name with data: for the database context, and for each entity whose name did not
fail, where the role is enabled and the view can be built. -/
inductive Renders (scaffolder : Scaffolder σ) (model : DatabaseModel) (s : σ) : String → Json → Prop
  | dbContext {view : DbContextView} : scaffolder.config.roles.dbContext = .rendering →
    (scaffolder.runScope model s).language = scaffolder.config.roles.model.language →
      DbContextView.build (scaffolder.runScope model s) model = .ok view →
        Renders scaffolder model s dbContextTemplate view.toJson
  | entityType {entity : EntityType} {view : EntityTypeView} : entity ∈ model.entityTypes →
    (scaffolder.runScope model s).names.isFailed entity.name = false →
      scaffolder.config.roles.entityType = .rendering (scaffolder.runScope model s).language →
        EntityTypeView.complete (scaffolder.runScope model s).language (scaffolder.runScope model s) entity =
            .ok view →
          Renders scaffolder model s (scaffolder.runScope model s).language.entityTemplate view.toJson

/-- A run depends on its renderer only in what it renders. -/
theorem generateReport_congr {renderer : Renderer}
    (h : ∀ name data, scaffolder.Renders model s name data →
      renderer.renderNamed name data = scaffolder.renderer.renderNamed name data) :
    (({ scaffolder with renderer := renderer } : Scaffolder σ).generateReport model s).1 =
      (scaffolder.generateReport model s).1 := by
  -- The names are resolved before anything is rendered, so the scopes differ in the renderer only.
  let other : Scaffolder σ := { scaffolder with renderer := renderer }
  have hconfig : other.config = scaffolder.config := rfl
  have hscope : other.runScope model s = { scaffolder.runScope model s with renderer := renderer } := rfl
  have hcontext : other.dbContextOutcome (other.runScope model s) model =
      scaffolder.dbContextOutcome (scaffolder.runScope model s) model := by
    have hresult := ModelGenerator.generateDbContext_congr scaffolder.config.roles.model
      scaffolder.config.roles.dbContext (scaffolder.runScope model s) model
      fun henabled hlanguage view hview => h _ _ (.dbContext henabled hlanguage hview)
    simp only [dbContextOutcome, hconfig, hscope, hresult]
  have hentity : ∀ entity ∈ model.entityTypes, other.entityOutcome (other.runScope model s) entity =
      scaffolder.entityOutcome (scaffolder.runScope model s) entity := by
    intro entity he
    cases hfailed : (scaffolder.runScope model s).names.isFailed entity.name with
    | true => simp only [entityOutcome, hscope, hfailed, if_true]
    | false =>
      have hresult := ModelGenerator.generateEntity_congr scaffolder.config.roles.model
        scaffolder.config.roles.entityType (scaffolder.runScope model s) entity
        fun henabled view hview => h _ _ (.entityType he hfailed henabled hview)
      simp only [entityOutcome, hconfig, hscope, hresult]
  have houtcomes : other.runOutcomes model s = scaffolder.runOutcomes model s :=
    congrArg ((scaffolder.resolution model s).2.map nameOutcome ++ ·)
      (congrArg₂ List.cons hcontext (List.map_congr_left hentity))
  rw [generateReport_eq, generateReport_eq]
  exact congrArg (fun outcomes => (Collected.empty.acceptAll scaffolder.options.failFast outcomes).map
    Collected.report) houtcomes

/-- All that a run renders comes to an end. -/
def Ends (scaffolder : Scaffolder σ) (model : DatabaseModel) (s : σ) : Prop :=
  ∀ name data, scaffolder.Renders model s name data → scaffolder.renderer.Ends name data

/-- A run returns a result: it computes the result, and all that it renders comes to an end. -/
structure Returns {α : Type} (scaffolder : Scaffolder σ) (model : DatabaseModel) (s : σ)
    (run : DatabaseModel → StateM σ α) (result : α) : Prop where
  ends : scaffolder.Ends model s
  computes : (run model s).1 = result

end Scaffolder

end EntityScaffold
