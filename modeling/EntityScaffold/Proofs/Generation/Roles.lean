import EntityScaffold.Proofs.Generation.Complete
import EntityScaffold.Proofs.Template.Inclusions

/-! # Roles

A scaffolder compiles the templates of its roles one role after the other, and each role adds the same whether
the other is there or not. Where neither includes templates of the other, the templates of both are rendered
as they are for one role alone.
-/

namespace EntityScaffold

open Template (Body)

variable {σ : Type}

/-! ## Configurations -/

/-- The configuration for another mode. -/
def GenerationConfig.inMode (config : GenerationConfig σ) (mode : ReverseEngineerMode) :
    GenerationConfig σ :=
  { config with mode := mode, roles := .select mode config.language }

/-- The step for another mode. -/
def BuilderStep.inMode (mode : ReverseEngineerMode) : BuilderStep σ → BuilderStep σ
  | ofOptions options => .ofOptions { options with mode := mode }
  | configure _ language => .configure mode language
  | other => other

namespace GenerationBuilder

/-- The builder for another mode. -/
def inMode (builder : GenerationBuilder σ) (mode : ReverseEngineerMode) : GenerationBuilder σ :=
  ⟨builder.configured.map (·.inMode mode)⟩

variable {mode : ReverseEngineerMode}

theorem change_inMode (builder : GenerationBuilder σ) {operation : String}
    {f : GenerationConfig σ → Except GenerationError (GenerationConfig σ)}
    (h : ∀ config, f (config.inMode mode) = (f config).map (·.inMode mode)) :
    (builder.inMode mode).change operation f = (builder.change operation f).map (·.inMode mode) := by
  obtain ⟨_ | config⟩ := builder
  · rfl
  · change (f (config.inMode mode)).map _ = ((f config).map _).map _
    rw [h]
    cases f config <;> rfl

/-- A step does the same for every mode. -/
theorem apply_inMode (builder : GenerationBuilder σ) (step : BuilderStep σ) :
    (step.inMode mode).apply (builder.inMode mode) = (step.apply builder).map (·.inMode mode) := by
  cases step with
  | ofOptions options => rfl
  | configure other language => rfl
  | registerHelpers helpers =>
    refine builder.change_inMode fun config => ?_
    cases refuseReserved helpers <;> rfl
  | registerBlockHelpers helpers =>
    refine builder.change_inMode fun config => ?_
    cases refuseReserved helpers <;> rfl
  | registerTransformers transformers => exact builder.change_inMode fun config => rfl

theorem takeSteps_inMode (builder : GenerationBuilder σ) (steps : List (BuilderStep σ)) :
    (builder.inMode mode).takeSteps (steps.map (·.inMode mode)) =
      (builder.takeSteps steps).map (·.inMode mode) := by
  induction steps generalizing builder with
  | nil => rfl
  | cons step rest ih =>
    rw [List.map_cons, takeSteps, takeSteps, apply_inMode]
    cases step.apply builder with
    | error e => rfl
    | ok next => exact ih next

/-- The same steps for another mode build the configuration for that mode, or fail in the same way. -/
theorem buildBy_inMode (mode : ReverseEngineerMode) (steps : List (BuilderStep σ)) :
    buildBy (steps.map (·.inMode mode)) = (buildBy steps).map (·.inMode mode) := by
  have htaken : takeSteps .new (steps.map (·.inMode mode)) = (takeSteps .new steps).map (·.inMode mode) :=
    takeSteps_inMode .new steps
  rw [buildBy, buildBy, htaken]
  cases takeSteps .new steps with
  | error e => rfl
  | ok builder => obtain ⟨_ | config⟩ := builder <;> rfl

end GenerationBuilder

/-! ## Loading a role -/

/-- What a role adds if it is enabled: the template that must be there, and those that are. -/
def RoleAdds (templates : TemplateSource) (enabled : Bool) (path : String) (partials : List PartialTemplate)
    (bodies : List (String × Body)) : Prop :=
  if enabled then (templates path).isSome = true ∧
    compileAll (presentSources templates (roleParts path partials)) = some bodies
  else bodies = []

namespace Renderer

variable {renderer loaded : Renderer} {templates : TemplateSource} {parts : List PartialTemplate}
  {path : String} {partials : List PartialTemplate} {enabled : Bool}

/-- Only a source that is a template is registered. -/
theorem exists_parse_of_register {name source : String} (h : renderer.register name source = .ok loaded) :
    ∃ body, Template.parseChars source.toList = .ok body := by
  rw [register, Template.parse_eq] at h
  cases hbody : Template.parseChars source.toList with
  | error e =>
    rw [hbody] at h
    cases h
  | ok body => exact ⟨body, rfl⟩

theorem compileAll_cons {name : String} {source : List Char} {rest : List (String × List Char)}
    {body : Body} {others : List (String × Body)} (hbody : Template.parseChars source = .ok body)
    (hrest : compileAll rest = some others) :
    compileAll ((name, source) :: rest) = some ((name, body) :: others) := by
  rw [compileAll, hbody, hrest]

/-- Only sources that are templates are registered. -/
theorem exists_compileAll_of_loadPartials (h : renderer.loadPartials templates parts = .ok loaded) :
    ∃ bodies, compileAll (presentSources templates parts) = some bodies := by
  induction parts generalizing renderer with
  | nil => exact ⟨[], rfl⟩
  | cons part rest ih =>
    rw [loadPartials] at h
    rw [presentSources, List.filterMap_cons]
    cases hsource : templates part.path with
    | none =>
      rw [hsource] at h
      exact ih h
    | some source =>
      rw [hsource] at h
      obtain ⟨registered, hregister, hrest⟩ := exists_ok_of_bind h
      obtain ⟨body, hbody⟩ := exists_parse_of_register hregister
      obtain ⟨others, hothers⟩ := ih hrest
      exact ⟨_, compileAll_cons hbody hothers⟩

/-- A role is loaded exactly if its template is there and its sources are templates, whatever the renderer
has. Then it adds these. -/
theorem loadRole_eq_ok_iff : renderer.loadRole templates enabled path partials = .ok loaded ↔
    ∃ bodies, RoleAdds templates enabled path partials bodies ∧ loaded = renderer.addAll bodies := by
  cases enabled with
  | false =>
    constructor
    · intro h
      cases h
      exact ⟨[], rfl, rfl⟩
    · rintro ⟨_, rfl, rfl⟩
      rfl
  | true =>
    constructor
    · intro h
      obtain ⟨first, hfirst, hrest⟩ := exists_ok_of_bind h
      rw [loadTemplate] at hfirst
      cases hsource : templates path with
      | none =>
        rw [hsource] at hfirst
        cases hfirst
      | some source =>
        rw [hsource] at hfirst
        obtain ⟨body, hbody⟩ := exists_parse_of_register hfirst
        obtain ⟨others, hothers⟩ := exists_compileAll_of_loadPartials hrest
        have hpresent : (templates path).isSome = true := Option.isSome_of_eq_some hsource
        have hcompiled : compileAll (presentSources templates (roleParts path partials)) =
            some ((path, body) :: others) := by
          rw [roleParts, presentSources, List.filterMap_cons, hsource]
          exact compileAll_cons hbody hothers
        refine ⟨_, ⟨hpresent, hcompiled⟩, ?_⟩
        rw [loadRole_eq renderer hpresent hcompiled] at h
        cases h
        rfl
    · rintro ⟨bodies, ⟨hpresent, hcompiled⟩, rfl⟩
      exact loadRole_eq renderer hpresent hcompiled

end Renderer

namespace RoleAdds

variable {templates : TemplateSource} {enabled : Bool} {path : String} {partials : List PartialTemplate}
  {bodies : List (String × Body)} {name : String}

/-- A role takes only names of its own. -/
theorem names_mem (h : RoleAdds templates enabled path partials bodies)
    (hname : name ∈ bodies.map Prod.fst) : name ∈ (roleParts path partials).map (·.name) := by
  cases enabled with
  | false =>
    cases h
    cases hname
  | true =>
    rw [names_of_compileAll h.2] at hname
    exact mem_names_of_mem_presentSources hname

/-- A role has nothing under a name that is not its own. -/
theorem lookup_eq_none (h : RoleAdds templates enabled path partials bodies)
    (hname : name ∉ (roleParts path partials).map (·.name)) : bodies.reverse.lookup name = none := by
  refine lookup_eq_none_of_notMem fun hmem => hname (h.names_mem ?_)
  rwa [List.map_reverse, List.mem_reverse] at hmem

/-- A role that fits includes only templates of its own. -/
theorem mem_of_includes {renderer : Renderer} {shape : Template.Shape} {data : Json} {included : String}
    (h : RoleAdds templates true path partials bodies) (hfits : RoleFits templates path partials shape)
    (hget : ∀ name ∈ (roleParts path partials).map (·.name),
      renderer.templates.get? name = bodies.reverse.lookup name)
    (hincludes : renderer.Includes path data included) :
    included ∈ (roleParts path partials).map (·.name) := by
  obtain ⟨_, hcompiled, hbodies⟩ := (Option.any_eq_true _ _).1 hfits.fits
  cases hcompiled.symm.trans h.2
  have hnames : ∀ name ∈ bodies.reverse.map Prod.fst, name ∈ (roleParts path partials).map (·.name) := by
    intro name hname
    rw [List.map_reverse, List.mem_reverse] at hname
    exact h.names_mem hname
  refine hnames included (Renderer.mem_of_includes_of_fits (fun name hname body hbody => ?_) hbodies hincludes)
  rwa [hget name (hnames name hname)] at hbody

end RoleAdds

/-! ## Renderers of two roles -/

/-- The renderer of a configuration with the templates that the two roles add. -/
def GenerationConfig.rendererOf (config : GenerationConfig σ) (dbContext entityType : List (String × Body)) :
    Renderer :=
  ((Renderer.new config.helpers config.blockHelpers).addAll dbContext).addAll entityType

namespace GenerationConfig

variable {config : GenerationConfig σ} {language : LanguageMode} {templates : TemplateSource}
  {enabled : Bool} {dbContext entityType : List (String × Body)} {name : String}

theorem get?_rendererOf (config : GenerationConfig σ) (dbContext entityType : List (String × Body))
    (name : String) : (config.rendererOf dbContext entityType).templates.get? name =
      (entityType.reverse.lookup name).or (dbContext.reverse.lookup name) := by
  rw [rendererOf, Renderer.get?_addAll, Renderer.get?_addAll]
  exact congrArg _ (Option.or_none ..)

/-- Under a name that is not of entity types, there is what the role of the database context adds. -/
theorem get?_rendererOf_dbContext
    (hadds : RoleAdds templates enabled language.entityTemplate language.entityPartials entityType)
    (hname : name ∉ (roleParts language.entityTemplate language.entityPartials).map (·.name)) :
    (config.rendererOf dbContext entityType).templates.get? name = dbContext.reverse.lookup name := by
  rw [get?_rendererOf, hadds.lookup_eq_none hname, Option.none_or]

/-- Under a name that is not of the database context, there is what the role of entity types adds. -/
theorem get?_rendererOf_entityType
    (hadds : RoleAdds templates enabled dbContextTemplate dbContextPartials dbContext)
    (hname : name ∉ (roleParts dbContextTemplate dbContextPartials).map (·.name)) :
    (config.rendererOf dbContext entityType).templates.get? name = entityType.reverse.lookup name := by
  rw [get?_rendererOf, hadds.lookup_eq_none hname, Option.or_none]

end GenerationConfig

namespace Scaffolder

variable {config : GenerationConfig σ} {templates : TemplateSource} {options : ScaffoldOptions}

/-- A scaffolder has what the enabled roles add, each on its own. -/
theorem new_inMode_eq_ok_iff {mode : ReverseEngineerMode} {scaffolder : Scaffolder σ} :
    new (config.inMode mode) templates options = .ok scaffolder ↔ ∃ dbContext entityType,
      RoleAdds templates mode.generatesDbContext dbContextTemplate dbContextPartials dbContext ∧
      RoleAdds templates mode.generatesEntities config.language.entityTemplate
        config.language.entityPartials entityType ∧
      scaffolder = ⟨config.inMode mode, options, config.rendererOf dbContext entityType⟩ := by
  have hdbContext : (config.inMode mode).roles.dbContext.isEnabled = mode.generatesDbContext := by
    cases mode <;> rfl
  have hentityType : (config.inMode mode).roles.entityType.isEnabled = mode.generatesEntities := by
    cases mode <;> rfl
  have hlanguage : (config.inMode mode).roles.language = config.language := rfl
  constructor
  · intro h
    obtain ⟨first, hfirst, h⟩ := exists_ok_of_bind h
    obtain ⟨second, hsecond, h⟩ := exists_ok_of_bind h
    cases h
    rw [hdbContext] at hfirst
    rw [hentityType, hlanguage] at hsecond
    obtain ⟨dbContext, hadds, rfl⟩ := Renderer.loadRole_eq_ok_iff.1 hfirst
    obtain ⟨entityType, hadds', rfl⟩ := Renderer.loadRole_eq_ok_iff.1 hsecond
    exact ⟨dbContext, entityType, hadds, hadds', rfl⟩
  · rintro ⟨dbContext, entityType, hadds, hadds', rfl⟩
    rw [new_eq, compile, hdbContext, hentityType, hlanguage,
      Renderer.loadRole_eq_ok_iff.2 ⟨dbContext, hadds, rfl⟩]
    dsimp only [Except.bind]
    rw [Renderer.loadRole_eq_ok_iff.2 ⟨entityType, hadds', rfl⟩]
    rfl

end Scaffolder

/-! ## Roles that are kept apart -/

/-- The template of a role, rendered for a view, includes no template that is registered for the other role. -/
structure Renderer.KeepsApart (renderer : Renderer) (language : LanguageMode) : Prop where
  dbContext : ∀ view : DbContextView,
    ∀ name ∈ (roleParts language.entityTemplate language.entityPartials).map (·.name),
      ¬ renderer.Includes dbContextTemplate view.toJson name
  entityType : ∀ view : EntityTypeView,
    ∀ name ∈ (roleParts dbContextTemplate dbContextPartials).map (·.name),
      ¬ renderer.Includes language.entityTemplate view.toJson name

section

variable {config : GenerationConfig σ} {language : LanguageMode} {templates : TemplateSource}
  {enabled enabled' : Bool} {dbContext entityType : List (String × Body)}

/-- The template of the database context is rendered in the same way without the role of entity types. -/
theorem Renderer.KeepsApart.renderNamed_dbContext
    (hapart : (config.rendererOf dbContext entityType).KeepsApart language)
    (hdbContext : RoleAdds templates enabled dbContextTemplate dbContextPartials dbContext)
    (hentityType : RoleAdds templates enabled' language.entityTemplate language.entityPartials entityType)
    (view : DbContextView) : (config.rendererOf dbContext []).renderNamed dbContextTemplate view.toJson =
      (config.rendererOf dbContext entityType).renderNamed dbContextTemplate view.toJson := by
  refine renderNamed_without rfl rfl (fun name hname => ?_) (fun name hname => ?_)
    (language.disjoint_roleParts List.mem_cons_self) (hapart.dbContext view)
  · rw [GenerationConfig.get?_rendererOf_dbContext hentityType hname, GenerationConfig.get?_rendererOf]
    rfl
  · rw [GenerationConfig.get?_rendererOf]
    exact hdbContext.lookup_eq_none fun hmem => language.disjoint_roleParts hmem hname

/-- The template of entity types is rendered in the same way without the role of the database context. -/
theorem Renderer.KeepsApart.renderNamed_entityType
    (hapart : (config.rendererOf dbContext entityType).KeepsApart language)
    (hdbContext : RoleAdds templates enabled dbContextTemplate dbContextPartials dbContext)
    (hentityType : RoleAdds templates enabled' language.entityTemplate language.entityPartials entityType)
    (view : EntityTypeView) :
    (config.rendererOf [] entityType).renderNamed language.entityTemplate view.toJson =
      (config.rendererOf dbContext entityType).renderNamed language.entityTemplate view.toJson := by
  refine renderNamed_without rfl rfl (fun name hname => ?_) (fun name hname => ?_)
    (fun hname => language.disjoint_roleParts hname List.mem_cons_self) (hapart.entityType view)
  · rw [GenerationConfig.get?_rendererOf_entityType hdbContext hname, GenerationConfig.get?_rendererOf]
    exact Option.or_none
  · rw [GenerationConfig.get?_rendererOf, hentityType.lookup_eq_none (language.disjoint_roleParts hname)]
    rfl

/-- Roles whose templates fit are kept apart: each includes only what it fits with, which is its own. -/
theorem Scaffolder.keepsApart_of_fits {both : Scaffolder σ} {options : ScaffoldOptions}
    {contextShape entityShape : Template.Shape}
    (hcontext : RoleFits templates dbContextTemplate dbContextPartials contextShape)
    (hentity : RoleFits templates config.language.entityTemplate config.language.entityPartials entityShape)
    (hnew : new (config.inMode .dbContextAndEntities) templates options = .ok both) :
    both.renderer.KeepsApart config.language := by
  obtain ⟨dbContext, entityType, hdbContext, hentityType, rfl⟩ := new_inMode_eq_ok_iff.1 hnew
  have hget : ∀ name ∈ (roleParts dbContextTemplate dbContextPartials).map (·.name),
      (config.rendererOf dbContext entityType).templates.get? name = dbContext.reverse.lookup name :=
    fun name hname =>
      GenerationConfig.get?_rendererOf_dbContext hentityType (config.language.disjoint_roleParts hname)
  have hget' : ∀ name ∈ (roleParts config.language.entityTemplate config.language.entityPartials).map (·.name),
      (config.rendererOf dbContext entityType).templates.get? name = entityType.reverse.lookup name :=
    fun name hname => GenerationConfig.get?_rendererOf_entityType hdbContext fun hmem =>
      config.language.disjoint_roleParts hmem hname
  refine ⟨fun view name hname hincludes => ?_, fun view name hname hincludes => ?_⟩
  · exact config.language.disjoint_roleParts (hdbContext.mem_of_includes hcontext hget hincludes) hname
  · exact config.language.disjoint_roleParts hname (hentityType.mem_of_includes hentity hget' hincludes)

end

end EntityScaffold
