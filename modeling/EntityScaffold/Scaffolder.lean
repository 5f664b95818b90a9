import EntityScaffold.Config
import EntityScaffold.Generation.Report
import EntityScaffold.Templates.Store

/-! # Scaffolders

A scaffolder holds a configuration, options, and the compiled templates of the enabled roles. For a model
it resolves all names first; every output is then made from the resolved names alone, and the outcomes
are merged in the order of the model.
-/

namespace EntityScaffold

/-- Generates the outputs of models. -/
structure Scaffolder (σ : Type) where
  config : GenerationConfig σ
  options : ScaffoldOptions
  renderer : Renderer

/-! ## Loading templates -/

/-- Compile the template at a path, which must be there, under its path. -/
def Renderer.loadTemplate (renderer : Renderer) (templates : TemplateSource) (path : String) :
    Except GenerationError Renderer :=
  match templates path with
  | some source => renderer.register path source
  | none => .error (.templateNotFound path)

/-- Compile the templates of a list that are there, each under its name. -/
def Renderer.loadPartials (renderer : Renderer) (templates : TemplateSource) :
    List PartialTemplate → Except GenerationError Renderer
  | [] => .ok renderer
  | part :: rest => match templates part.path with
    | some source => (renderer.register part.name source).bind (loadPartials · templates rest)
    | none => loadPartials renderer templates rest

/-- Compile the templates of a role if it is enabled. -/
def Renderer.loadRole (renderer : Renderer) (templates : TemplateSource) (enabled : Bool)
    (path : String) (partials : List PartialTemplate) : Except GenerationError Renderer :=
  if enabled then (renderer.loadTemplate templates path).bind (loadPartials · templates partials)
  else .ok renderer

namespace Scaffolder

variable {σ : Type}

/-- The scaffolder of a configuration: the templates of the database context are compiled first, then
those of entity types. -/
def new (config : GenerationConfig σ) (templates : TemplateSource) (options : ScaffoldOptions) :
    Except GenerationError (Scaffolder σ) := do
  let roles := config.roles
  let renderer := Renderer.new config.helpers config.blockHelpers
  let renderer ← renderer.loadRole templates roles.dbContext.isEnabled dbContextTemplate
    dbContextPartials
  let renderer ← renderer.loadRole templates roles.entityType.isEnabled roles.language.entityTemplate
    roles.language.entityPartials
  return ⟨config, options, renderer⟩

/-! ## Outcomes -/

/-- What all outputs of a run share. -/
def scope (scaffolder : Scaffolder σ) (model : DatabaseModel) (names : EntityNames) :
    GenerationScope where
  renderer := scaffolder.renderer
  transformers := scaffolder.config.transformers.toMemberTransformers
  names := names
  language := scaffolder.config.roles.language
  rootNamespace := scaffolder.options.rootNamespace
  contextName := scaffolder.options.contextNameFor model

/-- A name that failed. -/
def nameOutcome (failure : EntityFailure) : Outcome := ⟨failure.entity, false, .error failure⟩

/-- What became of the database context. -/
def dbContextOutcome (scaffolder : Scaffolder σ) (scope : GenerationScope) (model : DatabaseModel) :
    Outcome :=
  let roles := scaffolder.config.roles
  let result := roles.model.generateDbContext roles.dbContext scope model
  ⟨scope.contextName, true, result.mapError fun e =>
    .mk scope.contextName (some (ModelGenerator.dbContextFileName scope.contextName)) e⟩

/-- What became of an entity. There is nothing to do for one whose name failed before. -/
def entityOutcome (scaffolder : Scaffolder σ) (scope : GenerationScope) (entity : EntityType) :
    Outcome :=
  let roles := scaffolder.config.roles
  ⟨entity.name, false,
    if scope.names.isFailed entity.name then .ok none
    else roles.model.generateEntity roles.entityType scope entity⟩

/-- The outcomes of a run in order: failed names, the database context, the entities. -/
def outcomes (scaffolder : Scaffolder σ) (model : DatabaseModel) (names : EntityNames)
    (nameFailures : List EntityFailure) : List Outcome :=
  let scope := scaffolder.scope model names
  nameFailures.map nameOutcome ++ scaffolder.dbContextOutcome scope model ::
    model.entityTypes.map (scaffolder.entityOutcome scope)

/-! ## Runs -/

/-- The files and failures of a run. -/
def generateReport (scaffolder : Scaffolder σ) (model : DatabaseModel) :
    StateM σ (Except GenerationError ScaffoldReport) := do
  let (names, nameFailures) ← EntityNames.resolve scaffolder.config.transformers model
    scaffolder.config.roles.language.extension
  let outcomes := scaffolder.outcomes model names nameFailures
  return (Collected.empty.acceptAll scaffolder.options.failFast outcomes).map Collected.report

/-- The files of a run in which nothing fails. -/
def generate (scaffolder : Scaffolder σ) (model : DatabaseModel) :
    StateM σ (Except GenerationError ScaffoldedModel) := do
  return (← scaffolder.generateReport model).bind ScaffoldReport.toResult

/-- The text of diagnostics. -/
def inspect (scaffolder : Scaffolder σ) : String :=
  Text.recordText "Scaffolder"
    [("config", scaffolder.config.inspect), ("options", scaffolder.options.inspect),
      ("renderer", scaffolder.renderer.inspect)]

end Scaffolder

end EntityScaffold
