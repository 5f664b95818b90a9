import EntityScaffold.Proofs.Generation.Bundled
import EntityScaffold.Proofs.Generation.Files
import EntityScaffold.Proofs.Generation.Renderings
import EntityScaffold.Proofs.Generation.Roles

/-! # Modes

A mode only selects outputs. Where neither role includes templates of the other, its outputs are the same
whether the other role is there or not. So a run for both roles makes the files of the run for the database
context and of the run for entity types.
-/

namespace EntityScaffold

open Template (Body)

variable {σ : Type}

/-! ## Runs for both roles -/

namespace Scaffolder

variable {model : DatabaseModel} {s : σ}

/-- The outcomes of a run are those of the database context in one run and those of the entity types in
another. The names are resolved in the same way in all three. -/
structure Splits (both context entities : Scaffolder σ) (model : DatabaseModel) (s : σ) : Prop where
  names : (context.resolution model s).2 = (both.resolution model s).2 ∧
    (entities.resolution model s).2 = (both.resolution model s).2
  dbContext : context.dbContextOutcome (context.runScope model s) model =
    both.dbContextOutcome (both.runScope model s) model
  noDbContext : (entities.dbContextOutcome (entities.runScope model s) model).result = .ok none
  entity : ∀ entity ∈ model.entityTypes, entities.entityOutcome (entities.runScope model s) entity =
    both.entityOutcome (both.runScope model s) entity
  noEntity : ∀ entity ∈ model.entityTypes,
    (context.entityOutcome (context.runScope model s) entity).result = .ok none

namespace Splits

variable {both context entities : Scaffolder σ}

/-- No output of the run fails exactly if none of the other two fails. -/
theorem succeeds_iff (h : both.Splits context entities model s) :
    both.Succeeds model s ↔ context.Succeeds model s ∧ entities.Succeeds model s := by
  rw [Scaffolder.succeeds_iff, Scaffolder.succeeds_iff, Scaffolder.succeeds_iff, h.names.1, h.names.2,
    h.dbContext]
  constructor
  · rintro ⟨hnames, hcontext, hentities⟩
    refine ⟨⟨hnames, hcontext, fun entity he => ⟨none, h.noEntity entity he⟩⟩, hnames, ⟨none, h.noDbContext⟩,
      fun entity he => ?_⟩
    rw [h.entity entity he]
    exact hentities entity he
  · rintro ⟨⟨hnames, hcontext, -⟩, -, -, hentities⟩
    refine ⟨hnames, hcontext, fun entity he => ?_⟩
    rw [← h.entity entity he]
    exact hentities entity he

/-- The other two share the entries of the run, the database context first. -/
theorem runEntries_eq (h : both.Splits context entities model s) :
    both.runEntries model s = context.runEntries model s ++ entities.runEntries model s := by
  have hnone : (model.entityTypes.filterMap fun entity =>
      Outcome.entry? (context.entityOutcome (context.runScope model s) entity)) = [] :=
    List.filterMap_eq_nil_iff.2 fun entity he => entry?_eq_none (h.noEntity entity he)
  have hsame : (model.entityTypes.filterMap fun entity =>
      Outcome.entry? (entities.entityOutcome (entities.runScope model s) entity)) =
      model.entityTypes.filterMap fun entity =>
        Outcome.entry? (both.entityOutcome (both.runScope model s) entity) :=
    List.filterMap_congr fun entity he => congrArg Outcome.entry? (h.entity entity he)
  rw [Scaffolder.runEntries_eq, Scaffolder.runEntries_eq, Scaffolder.runEntries_eq, h.dbContext, hnone, hsame,
    entry?_eq_none h.noDbContext, List.append_nil]
  rfl

/-- The run for both roles makes the files of the other two, if these have different names. -/
theorem generate_eq_ok_iff (h : both.Splits context entities model s) {files : ScaffoldedModel} :
    (both.generate model s).1 = .ok files ↔ ∃ first second,
      (context.generate model s).1 = .ok first ∧ (entities.generate model s).1 = .ok second ∧
        first.files.keys.Disjoint second.files.keys ∧ files = first.union second := by
  constructor
  · intro hboth
    have hmakes := makes_of_generate hboth
    have hdistinct : ((both.runEntries model s).map Prod.fst).Nodup :=
      (hmakes.entries.map Prod.fst).nodup_iff.1 files.files.nodup_keys
    rw [h.runEntries_eq, List.map_append, List.nodup_append'] at hdistinct
    obtain ⟨hfirst, hsecond, hdisjoint⟩ := hdistinct
    obtain ⟨hcontext, hentities⟩ := h.succeeds_iff.1 hmakes.succeeds
    obtain ⟨first, hfirst⟩ := hcontext.generate.1 hfirst
    obtain ⟨second, hsecond⟩ := hentities.generate.1 hsecond
    have hmakesFirst := makes_of_generate hfirst
    have hmakesSecond := makes_of_generate hsecond
    have hkeys : first.files.keys.Disjoint second.files.keys := by
      intro name hname hname'
      exact hdisjoint ((hmakesFirst.entries.map Prod.fst).mem_iff.1 hname)
        ((hmakesSecond.entries.map Prod.fst).mem_iff.1 hname')
    refine ⟨first, second, hfirst, hsecond, hkeys, ScaffoldedModel.eq_of_perm ?_ ?_⟩
    · refine hmakes.entries.trans ?_
      rw [h.runEntries_eq]
      exact ((ScaffoldedModel.perm_union hkeys).trans
        (hmakesFirst.entries.append hmakesSecond.entries)).symm
    · exact hmakes.dbContextFile.trans
        ((congrArg Outcome.fileName? h.dbContext).symm.trans hmakesFirst.dbContextFile.symm)
  · rintro ⟨first, second, hfirst, hsecond, hkeys, rfl⟩
    have hmakesFirst := makes_of_generate hfirst
    have hmakesSecond := makes_of_generate hsecond
    have hsucceeds := h.succeeds_iff.2 ⟨hmakesFirst.succeeds, hmakesSecond.succeeds⟩
    refine Scaffolder.generate_eq_ok_iff.2 ⟨hsucceeds, ?_, ?_⟩
    · rw [h.runEntries_eq]
      exact (ScaffoldedModel.perm_union hkeys).trans (hmakesFirst.entries.append hmakesSecond.entries)
    · exact hmakesFirst.dbContextFile.trans (congrArg Outcome.fileName? h.dbContext)

/-- A name in both of the other runs is a collision. -/
theorem generate_eq_collision (h : both.Splits context entities model s) {first second : ScaffoldedModel}
    (hfirst : (context.generate model s).1 = .ok first) (hsecond : (entities.generate model s).1 = .ok second)
    (hkeys : ¬ first.files.keys.Disjoint second.files.keys) : ∃ fileName origin other,
      (both.generate model s).1 = .error (.fileNameCollision fileName origin other) := by
  have hmakesFirst := makes_of_generate hfirst
  have hmakesSecond := makes_of_generate hsecond
  have hsucceeds := h.succeeds_iff.2 ⟨hmakesFirst.succeeds, hmakesSecond.succeeds⟩
  refine hsucceeds.generate.2 fun hdistinct => hkeys fun name hname hname' => ?_
  rw [h.runEntries_eq, List.map_append, List.nodup_append'] at hdistinct
  exact hdistinct.2.2 ((hmakesFirst.entries.map Prod.fst).mem_iff.1 hname)
    ((hmakesSecond.entries.map Prod.fst).mem_iff.1 hname')

end Splits

section

variable {config : GenerationConfig σ} {templates : TemplateSource}

/-- With roles that are kept apart, the outcomes of a run for both are those of the runs for one of them. -/
theorem splits_of_keepsApart {dbContext entityType : List (String × Body)} {enabled enabled' : Bool}
    (hdbContext : RoleAdds templates enabled dbContextTemplate dbContextPartials dbContext)
    (hentityType : RoleAdds templates enabled' config.language.entityTemplate config.language.entityPartials
      entityType)
    (hapart : (config.rendererOf dbContext entityType).KeepsApart config.language)
    (options : ScaffoldOptions) (written : ReverseEngineerMode → ReverseEngineerMode) (model : DatabaseModel)
    (s : σ) :
    let optionsFor := fun mode => { options with mode := written mode }
    Splits
      ⟨config.inMode .dbContextAndEntities, optionsFor .dbContextAndEntities,
        config.rendererOf dbContext entityType⟩
      ⟨config.inMode .dbContextOnly, optionsFor .dbContextOnly, config.rendererOf dbContext []⟩
      ⟨config.inMode .entitiesOnly, optionsFor .entitiesOnly, config.rendererOf [] entityType⟩ model s := by
  intro optionsFor
  let both : Scaffolder σ := ⟨config.inMode .dbContextAndEntities, optionsFor .dbContextAndEntities,
    config.rendererOf dbContext entityType⟩
  -- The names are resolved before anything is rendered, so only the renderings can differ.
  have hcontext := ModelGenerator.generateDbContext_congr ⟨config.language⟩ .rendering (both.runScope model s)
    model fun _ _ view _ => hapart.renderNamed_dbContext hdbContext hentityType view
  have hentity : ∀ entity, _ := fun entity => ModelGenerator.generateEntity_congr ⟨config.language⟩
    (.rendering config.language) (both.runScope model s) entity
    fun _ view _ => hapart.renderNamed_entityType hdbContext hentityType view
  refine ⟨⟨rfl, rfl⟩, ?_, dbContextOutcome_of_disabled rfl rfl, fun entity _ => ?_,
    fun _ _ => entityOutcome_of_disabled (.inr rfl)⟩
  · exact congrArg (fun result : Except GenerationError (Option GeneratedFile) =>
      (⟨options.contextNameFor model, true, result.mapError fun e => .mk (options.contextNameFor model)
        (some (ModelGenerator.dbContextFileName (options.contextNameFor model))) e⟩ : Outcome)) hcontext
  · exact congrArg (fun result : Except EntityFailure (Option GeneratedFile) =>
      (⟨entity.name, false, if (both.runScope model s).names.isFailed entity.name then .ok none
        else result⟩ : Outcome)) (hentity entity)

end

/-- A mode only selects outputs. The same steps with another mode build the configuration for that mode. A
configuration starts for both roles exactly if it starts for each of them. Where neither role includes templates of
the other, the run for both makes the files of the runs for one role, unless they share a name; then it ends with a
collision. No run looks at the mode that is written in the options. -/
theorem generate_inMode (config : GenerationConfig σ) (templates : TemplateSource) (options : ScaffoldOptions)
    (written : ReverseEngineerMode → ReverseEngineerMode) :
    let start := fun mode => new (config.inMode mode) templates { options with mode := written mode }
    (∀ steps, GenerationBuilder.buildBy steps = .ok config → ∀ mode,
      GenerationBuilder.buildBy (steps.map (·.inMode mode)) = .ok (config.inMode mode)) ∧
    ((∃ both, start .dbContextAndEntities = .ok both) ↔
      (∃ context, start .dbContextOnly = .ok context) ∧ ∃ entities, start .entitiesOnly = .ok entities) ∧
    ∀ both context entities, start .dbContextAndEntities = .ok both → start .dbContextOnly = .ok context →
      start .entitiesOnly = .ok entities → both.renderer.KeepsApart config.language →
      ∀ (model : DatabaseModel) (s : σ),
        (∀ files, (both.generate model s).1 = .ok files ↔ ∃ first second,
          (context.generate model s).1 = .ok first ∧ (entities.generate model s).1 = .ok second ∧
            first.files.keys.Disjoint second.files.keys ∧ files = first.union second) ∧
        ∀ first second, (context.generate model s).1 = .ok first →
          (entities.generate model s).1 = .ok second →
          ¬ first.files.keys.Disjoint second.files.keys → ∃ fileName origin other,
            (both.generate model s).1 = .error (.fileNameCollision fileName origin other) := by
  intro start
  refine ⟨fun steps hconfig mode => ?_, ⟨?_, ?_⟩, ?_⟩
  · rw [GenerationBuilder.buildBy_inMode, hconfig]
    rfl
  · rintro ⟨both, hboth⟩
    obtain ⟨dbContext, entityType, hdbContext, hentityType, -⟩ := new_inMode_eq_ok_iff.1 hboth
    exact ⟨⟨_, new_inMode_eq_ok_iff.2 ⟨dbContext, [], hdbContext, rfl, rfl⟩⟩,
      _, new_inMode_eq_ok_iff.2 ⟨[], entityType, rfl, hentityType, rfl⟩⟩
  · rintro ⟨⟨context, hcontext⟩, entities, hentities⟩
    obtain ⟨dbContext, _, hdbContext, -, -⟩ := new_inMode_eq_ok_iff.1 hcontext
    obtain ⟨_, entityType, -, hentityType, -⟩ := new_inMode_eq_ok_iff.1 hentities
    exact ⟨_, new_inMode_eq_ok_iff.2 ⟨dbContext, entityType, hdbContext, hentityType, rfl⟩⟩
  · intro both context entities hboth hcontext hentities hapart model s
    obtain ⟨dbContext, entityType, hdbContext, hentityType, rfl⟩ := new_inMode_eq_ok_iff.1 hboth
    -- A run for one role has the renderer of the run for both, without what the other role adds.
    have hcontext' : start .dbContextOnly = .ok ⟨config.inMode .dbContextOnly, _, _⟩ :=
      new_inMode_eq_ok_iff.2 ⟨dbContext, [], hdbContext, rfl, rfl⟩
    have hentities' : start .entitiesOnly = .ok ⟨config.inMode .entitiesOnly, _, _⟩ :=
      new_inMode_eq_ok_iff.2 ⟨[], entityType, rfl, hentityType, rfl⟩
    cases hcontext.symm.trans hcontext'
    cases hentities.symm.trans hentities'
    have hsplits := splits_of_keepsApart hdbContext hentityType hapart options written model s
    exact ⟨fun files => hsplits.generate_eq_ok_iff, fun first second => hsplits.generate_eq_collision⟩

/-- With the bundled templates, a shop with an order has the files of both roles, and one with an entity that
is called like its database context ends with a collision. -/
theorem generate_inMode_bundled :
    let config : GenerationConfig Unit := .preset .dbContextAndEntities .csharp .pascal
    let start := fun mode => new (config.inMode mode) Bundled.store.get? { mode := mode }
    let shop : DatabaseModel := ⟨"Shop", [.new "order"]⟩
    let crowded : DatabaseModel := ⟨"Shop", [.new "shop_context"]⟩
    (∀ mode, GenerationBuilder.buildBy ([.ofOptions { naming := .pascal }].map (BuilderStep.inMode mode)) =
      .ok (config.inMode mode)) ∧
    ∃ both context entities, start .dbContextAndEntities = .ok both ∧ start .dbContextOnly = .ok context ∧
      start .entitiesOnly = .ok entities ∧ both.renderer.KeepsApart .csharp ∧
      (∃ first second, (context.generate shop ()).1 = .ok first ∧ (entities.generate shop ()).1 = .ok second ∧
        (both.generate shop ()).1 = .ok (first.union second)) ∧
      ∃ fileName origin other,
        (both.generate crowded ()).1 = .error (.fileNameCollision fileName origin other) := by
  intro config start shop crowded
  have hshop : shop.IsCounted := ⟨by decide, by decide, by decide⟩
  have hcrowded : crowded.IsCounted := ⟨by decide, by decide, by decide⟩
  have hstart : ∀ mode, ∃ scaffolder, start mode = .ok scaffolder ∧ scaffolder.options = { mode := mode } ∧
      scaffolder.IsComplete mode .csharp .pascal := by
    intro mode
    obtain ⟨scaffolder, hnew, hcomplete⟩ := exists_new_preset (σ := Unit) mode .pascal { mode := mode }
      Bundled.dbContext_fits (Bundled.entityType_fits .csharp)
    exact ⟨scaffolder, hnew, (of_new hnew).2, hcomplete⟩
  obtain ⟨both, hboth, hoptions, hcomplete⟩ := hstart .dbContextAndEntities
  obtain ⟨context, hcontext, hoptions', hcomplete'⟩ := hstart .dbContextOnly
  obtain ⟨entities, hentities, hoptions'', hcomplete''⟩ := hstart .entitiesOnly
  have hapart : both.renderer.KeepsApart config.language :=
    keepsApart_of_fits Bundled.dbContext_fits (Bundled.entityType_fits .csharp) hboth
  obtain ⟨hsteps, -, hruns⟩ := generate_inMode config Bundled.store.get? {} id
  obtain ⟨hunion, -⟩ := hruns both context entities hboth hcontext hentities hapart shop ()
  obtain ⟨-, hcollision⟩ := hruns both context entities hboth hcontext hentities hapart crowded ()
  obtain ⟨files, hfiles, -⟩ := hcomplete.exists_generate hshop () (by rw [hoptions]; decide)
  obtain ⟨first, second, hfirst, hsecond, -, rfl⟩ := (hunion files).1 hfiles
  obtain ⟨first', hfirst', hkeys'⟩ := hcomplete'.exists_generate hcrowded () (by rw [hoptions']; decide)
  obtain ⟨second', hsecond', hkeys''⟩ := hcomplete''.exists_generate hcrowded () (by rw [hoptions'']; decide)
  refine ⟨hsteps [.ofOptions { naming := .pascal }] rfl, both, context, entities, hboth, hcontext, hentities, hapart,
    ⟨first, second, hfirst, hsecond, hfiles⟩,
    hcollision first' second' hfirst' hsecond' fun hdisjoint => ?_⟩
  have hname : "ShopContext.cs" ∈ first'.files.keys := by
    rw [hkeys'.mem_iff, hoptions']
    decide
  have hname' : "ShopContext.cs" ∈ second'.files.keys := by
    rw [hkeys''.mem_iff, hoptions'']
    decide
  exact hdisjoint hname hname'

end Scaffolder

end EntityScaffold
