import EntityScaffold.Language.Types

/-! # Roles of a run

A language knows its templates and helpers. A run binds four roles: what generates the database context,
what generates entity types, what names the files, and the language. The database context is the same in
every language.
-/

namespace EntityScaffold

/-! ## Templates of a language -/

/-- A template that others include under a name. -/
structure PartialTemplate where
  name : String
  path : String
deriving DecidableEq, Repr

/-- The extension of the file of the database context. -/
def dbContextExtension : String := "cs"

/-- The template of the database context. -/
def dbContextTemplate : String := "CSharpDbContext/DbContext.hbs"

/-- Templates that the one of the database context may include. -/
def dbContextPartials : List PartialTemplate :=
  [⟨"dbimports", "CSharpDbContext/Partials/DbImports.hbs"⟩,
    ⟨"dbconstructor", "CSharpDbContext/Partials/DbConstructor.hbs"⟩,
    ⟨"dbsets", "CSharpDbContext/Partials/DbSets.hbs"⟩]

namespace LanguageMode

/-- The extension of the files of entity types. -/
def extension : LanguageMode → String
  | .csharp => "cs"
  | .typescript => "ts"

/-- The template of entity types. -/
def entityTemplate : LanguageMode → String
  | .csharp => "CSharpEntityType/Class.hbs"
  | .typescript => "TypeScriptEntityType/Interface.hbs"

/-- Templates that the one of entity types may include. -/
def entityPartials : LanguageMode → List PartialTemplate
  | .csharp =>
    [⟨"imports", "CSharpEntityType/Partials/Imports.hbs"⟩,
      ⟨"constructor", "CSharpEntityType/Partials/Constructor.hbs"⟩,
      ⟨"properties", "CSharpEntityType/Partials/Properties.hbs"⟩]
  | .typescript =>
    [⟨"imports", "TypeScriptEntityType/Partials/Imports.hbs"⟩,
      ⟨"constructor", "TypeScriptEntityType/Partials/Constructor.hbs"⟩,
      ⟨"properties", "TypeScriptEntityType/Partials/Properties.hbs"⟩]

/-- Helpers that the templates of a language may use. -/
def helpers : LanguageMode → List (String × InlineHelper)
  | .csharp => []
  | .typescript => [(tsTypeName, tsType)]

/-- The text of diagnostics for the service of a language. -/
def inspectService : LanguageMode → String
  | .csharp => "CSharpTemplateLanguageService"
  | .typescript => "TypeScriptTemplateLanguageService"

end LanguageMode

/-- The paths of all templates that a language may have. -/
def templatePaths : List String :=
  dbContextTemplate :: dbContextPartials.map (·.path) ++ [LanguageMode.csharp, .typescript].flatMap
    fun language => language.entityTemplate :: language.entityPartials.map (·.path)

/-! ## Roles -/

/-- What generates the database context. -/
inductive DbContextGenerator where
  | rendering
  /-- Generates nothing. -/
  | null
deriving DecidableEq, Repr

namespace DbContextGenerator

/-- The name of the generator. -/
def name : DbContextGenerator → String
  | .rendering => "HbsDbContextGenerator"
  | .null => "NullDbContextGenerator"

/-- Whether anything is generated. -/
def isEnabled : DbContextGenerator → Bool
  | .rendering => true
  | .null => false

end DbContextGenerator

/-- What generates entity types. -/
inductive EntityTypeGenerator where
  | rendering (language : LanguageMode)
  /-- Generates nothing. -/
  | null
deriving DecidableEq, Repr

namespace EntityTypeGenerator

/-- The name of the generator. -/
def name : EntityTypeGenerator → String
  | .rendering .csharp => "HbsCSharpEntityTypeGenerator"
  | .rendering .typescript => "HbsTypeScriptEntityTypeGenerator"
  | .null => "NullEntityTypeGenerator"

/-- Whether anything is generated. -/
def isEnabled : EntityTypeGenerator → Bool
  | .rendering _ => true
  | .null => false

end EntityTypeGenerator

/-- What turns outputs into files, in one language. -/
structure ModelGenerator where
  language : LanguageMode
deriving DecidableEq, Repr

/-- The name of the generator. -/
def ModelGenerator.name (generator : ModelGenerator) : String :=
  match generator.language with
  | .csharp => "HbsCSharpModelGenerator"
  | .typescript => "HbsTypeScriptModelGenerator"

/-- The roles of a run. -/
structure RoleBindings where
  dbContext : DbContextGenerator
  entityType : EntityTypeGenerator
  model : ModelGenerator
  language : LanguageMode
deriving DecidableEq, Repr

namespace RoleBindings

/-- The roles for a mode and a language. -/
def select (mode : ReverseEngineerMode) (language : LanguageMode) : RoleBindings where
  dbContext := if mode.generatesDbContext then .rendering else .null
  entityType := if mode.generatesEntities then .rendering language else .null
  model := ⟨language⟩
  language := language

/-- The text of diagnostics. -/
def inspect (roles : RoleBindings) : String :=
  Text.recordText "RoleBindings"
    [("dbcontext", roles.dbContext.name), ("entity_type", roles.entityType.name),
      ("model", roles.model.name), ("language", roles.language.inspectService)]

end RoleBindings

end EntityScaffold
