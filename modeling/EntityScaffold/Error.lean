import EntityScaffold.Template.Failure
import EntityScaffold.Template.Source

/-! # Errors of a generation run

Every error has a cause. Some end a run; the others belong to one output, which fails while the rest of
the run goes on.
-/

namespace EntityScaffold

open Template (SourceError Failure)

/-- The names that pass through a transformer. -/
inductive TransformRole where
  | entityName
  | entityFileName
  | property
  | navigationProperty
deriving DecidableEq, Repr

/-- The role in words. -/
def TransformRole.words : TransformRole → String
  | .entityName => "entity name"
  | .entityFileName => "entity file name"
  | .property => "property"
  | .navigationProperty => "navigation property"

/-- What is wrong with a configuration. -/
inductive ConfigurationFault where
  | unknownMode (text : String)
  | unknownLanguage (text : String)
  | unknownNaming (text : String)
  /-- Nothing was configured before the end. -/
  | notConfigured
  /-- Something was registered before anything was configured. -/
  | registeredTooEarly (operation : String)
  | reservedName (name : String)
  /-- An entity was asked for that no name was resolved for. -/
  | unknownEntity (entity : String)
  /-- An entity generator meets templates of another language. -/
  | wrongTemplates (generator language : String)
  /-- A model generator meets the service of another language. -/
  | wrongService (generator own service : String)
  | other (message : String)
deriving DecidableEq, Repr

/-- What is told about a configuration fault. -/
def ConfigurationFault.message : ConfigurationFault → String
  | .unknownMode text =>
    "unknown reverse-engineer mode '" ++ text ++
      "' (expected db-context-only, entities-only or db-context-and-entities)"
  | .unknownLanguage text => "unknown language '" ++ text ++ "' (expected csharp or typescript)"
  | .unknownNaming text =>
    "unknown naming convention '" ++ text ++ "' (expected none, pascal or camel)"
  | .notConfigured => "no roles wired: call configure_generation first"
  | .registeredTooEarly operation =>
    operation ++ " called before configure_generation: call configure_generation first"
  | .reservedName name => "helper name '" ++ name ++ "' is reserved for a Handlebars built-in"
  | .unknownEntity entity => "entity '" ++ entity ++ "' is not part of the resolved model"
  | .wrongTemplates generator language => generator ++ " cannot render " ++ language ++ " templates"
  | .wrongService generator own service =>
    generator ++ " is bound to " ++ own ++ " but the language service is " ++ service
  | .other message => message

/-- Why a template gives no text. -/
inductive RenderFault where
  /-- The source of a named template is no template. -/
  | source (error : SourceError)
  /-- A source that is rendered at once is no template. -/
  | inlineSource (error : SourceError)
  /-- Rendering failed. -/
  | failure (failure : Failure)
  | other (message : String)
deriving DecidableEq, Repr

/-- What is told about a render fault. -/
def RenderFault.message : RenderFault → String
  | .source error => error.message
  | .inlineSource error => "Failed to parse template " ++ error.message
  | .failure f => f.message
  | .other message => message

mutual

/-- An error of a generation run. -/
inductive GenerationError where
  | configuration (fault : ConfigurationFault)
  /-- A name is neither a helper nor a value. -/
  | unresolvedHelper (helper template : String)
  /-- A transformer reports an error. -/
  | transformation (entity : String) (role : TransformRole) (cause : String)
  /-- Two outputs have one file name. -/
  | fileNameCollision (fileName first second : String)
  /-- An entity that the output refers to has no name. -/
  | failedDependency (dependency : String)
  | render (template : String) (fault : RenderFault)
  | templateNotFound (path : String)
  | entityFailures (failures : List EntityFailure)

/-- An error that belongs to one entity, with the file it was to go into if that is known. -/
inductive EntityFailure where
  | mk (entity : String) (fileName : Option String) (error : GenerationError)

end

namespace EntityFailure

/-- The entity as the model names it. -/
def entity : EntityFailure → String | .mk entity _ _ => entity

/-- The file that the entity was to go into. -/
def fileName : EntityFailure → Option String | .mk _ fileName _ => fileName

/-- The error. -/
def error : EntityFailure → GenerationError | .mk _ _ error => error

end EntityFailure

/-! ## Messages -/

mutual

/-- What is told about an error. -/
def GenerationError.message : GenerationError → String
  | .configuration fault => "Configuration error: " ++ fault.message
  | .unresolvedHelper helper template =>
    "Unresolved helper '" ++ helper ++ "' in template '" ++ template ++ "'"
  | .transformation entity role cause =>
    role.words ++ " transformer failed for entity '" ++ entity ++ "': " ++ cause
  | .fileNameCollision fileName first second =>
    "Generated file name '" ++ fileName ++ "' produced by both '" ++ first ++ "' and '" ++ second ++
      "'"
  | .failedDependency dependency =>
    "Depends on entity '" ++ dependency ++ "', whose name transformation failed"
  | .render template fault => "Render error in template '" ++ template ++ "': " ++ fault.message
  | .templateNotFound path => "Template not found: " ++ path
  | .entityFailures failures =>
    toString failures.length ++ " entity type(s) failed to generate: " ++
      "; ".intercalate (failureMessages failures)

/-- What is told about a failure: the entity, its file and the error. -/
def EntityFailure.message : EntityFailure → String
  | .mk entity (some file) error => entity ++ " (" ++ file ++ "): " ++ error.message
  | .mk entity none error => entity ++ ": " ++ error.message

/-- The messages of the failures, in order. -/
def failureMessages : List EntityFailure → List String
  | [] => []
  | failure :: rest => failure.message :: failureMessages rest

end

/-- Whether an error ends the run instead of failing one output. -/
def GenerationError.isFatal : GenerationError → Bool
  | .configuration _ | .fileNameCollision .. | .templateNotFound _ | .entityFailures _ => true
  | .unresolvedHelper .. | .transformation .. | .failedDependency _ | .render .. => false

end EntityScaffold
