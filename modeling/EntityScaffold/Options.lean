import EntityScaffold.Language.Basic
import EntityScaffold.Transform
import EntityScaffold.Model.Basic
import EntityScaffold.Json.Printer

/-! # Options of a run -/

namespace EntityScaffold

/-- What a run is asked for. -/
structure ScaffoldOptions where
  mode : ReverseEngineerMode := .dbContextAndEntities
  language : LanguageMode := .csharp
  /-- The namespace of the generated code. -/
  rootNamespace : String := "Scaffolded"
  /-- The name of the database context, if it does not follow from the model. -/
  contextName : Option String := none
  naming : NamingConvention := .none
  /-- Stop at the first failure. -/
  failFast : Bool := false
  /-- Render entity types in any order; the result is the same. -/
  parallel : Bool := false
deriving DecidableEq, Repr

/-! ## Names in option files -/

/-- The modes by their names. -/
def ReverseEngineerMode.byName : List (String × ReverseEngineerMode) :=
  [("db-context-only", .dbContextOnly), ("entities-only", .entitiesOnly),
    ("db-context-and-entities", .dbContextAndEntities)]

/-- The languages by their names. -/
def LanguageMode.byName : List (String × LanguageMode) :=
  [("cs", .csharp), ("csharp", .csharp), ("ts", .typescript), ("typescript", .typescript)]

/-- The presets by their names. -/
def NamingConvention.byName : List (String × NamingConvention) :=
  [("none", .none), ("pascal", .pascal), ("camel", .camel)]

namespace ScaffoldOptions

/-- The name of the database context of a model. -/
def contextNameFor (options : ScaffoldOptions) (model : DatabaseModel) : String :=
  match options.contextName with
  | some name => name
  | none => if model.name.isEmpty then "ModelContext" else model.name ++ "Context"

/-- The text of diagnostics. -/
def inspect (options : ScaffoldOptions) : String :=
  Text.recordText "ScaffoldOptions"
    [("mode", options.mode.inspect), ("language", options.language.inspect),
      ("namespace", Text.quoted options.rootNamespace),
      ("context_name", Text.optionText (options.contextName.map Text.quoted)),
      ("naming", options.naming.inspect), ("fail_fast", Text.boolText options.failFast),
      ("parallel", Text.boolText options.parallel)]

/-- The object of the options under the names of their file. -/
def toJson (options : ScaffoldOptions) : Json := .ofFields
  [("mode", .string options.mode.name), ("language", .string options.language.name),
    ("namespace", .string options.rootNamespace), ("context-name", .ofString? options.contextName),
    ("naming", .string options.naming.name), ("fail-fast", .bool options.failFast),
    ("parallel", .bool options.parallel)]

end ScaffoldOptions

end EntityScaffold
