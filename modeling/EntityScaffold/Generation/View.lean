import EntityScaffold.Generation.Names
import EntityScaffold.Language.Roles
import EntityScaffold.Renderer

/-! # Views

Everything that a template can refer to: the views of a database context and of an entity type, built
after all transformations.
-/

namespace EntityScaffold

/-- What all outputs of a run share. -/
structure GenerationScope where
  renderer : Renderer
  transformers : MemberTransformers
  names : EntityNames
  language : LanguageMode
  rootNamespace : String
  contextName : String

/-- The text of diagnostics. -/
def GenerationScope.inspect (scope : GenerationScope) : String :=
  Text.openRecordText "GenerationScope"
    [("language", scope.language.inspect), ("namespace", Text.quoted scope.rootNamespace),
      ("context_name", Text.quoted scope.contextName)]

/-! ## Parts of views -/

/-- An entity type in a database context. -/
structure DbSetView where
  entityName : String
  dbSetName : String
  tableName : String
  schema : Option String
deriving DecidableEq, Repr

/-- A property of an entity type. -/
structure PropertyView where
  propertyType : String
  propertyName : String
  columnName : String
  isNullable : Bool
  isKey : Bool
deriving DecidableEq, Repr

/-- A navigation of an entity type. -/
structure NavigationView where
  /-- The declared type, which for a collection is that of many elements. -/
  propertyType : String
  propertyName : String
  elementType : String
  isCollection : Bool
deriving DecidableEq, Repr

/-- Something that an entity type imports: a namespace, or a type from a path. -/
structure ImportView where
  name : String
  path : Option String
deriving DecidableEq, Repr

/-! ## Views -/

/-- What the template of a database context sees. -/
structure DbContextView where
  rootNamespace : String
  contextName : String
  entityTypes : List DbSetView
deriving DecidableEq, Repr

/-- What the template of an entity type sees. -/
structure EntityTypeView where
  rootNamespace : String
  className : String
  tableName : String
  schema : Option String
  properties : List PropertyView
  navProperties : List NavigationView
  imports : List ImportView
  hasCollections : Bool
deriving DecidableEq, Repr

namespace DbSetView

/-- The entity type under its class name. -/
def build (names : EntityNames) (entity : EntityType) : Except GenerationError DbSetView :=
  (names.className entity.name).map fun name => ⟨name, name, entity.table, entity.schema⟩

/-- The object that a template sees. -/
def toJson (view : DbSetView) : Json := .ofFields
  [("entity_name", .string view.entityName), ("db_set_name", .string view.dbSetName),
    ("table_name", .string view.tableName), ("schema", .ofString? view.schema)]

end DbSetView

namespace DbContextView

/-- The entity types of a model in order; the first without a name is an error. -/
def build (scope : GenerationScope) (model : DatabaseModel) :
    Except GenerationError DbContextView := do
  let entityTypes ← model.entityTypes.mapM (DbSetView.build scope.names)
  return ⟨scope.rootNamespace, scope.contextName, entityTypes⟩

/-- The object that a template sees. -/
def toJson (view : DbContextView) : Json := .ofFields
  [("namespace", .string view.rootNamespace), ("context_name", .string view.contextName),
    ("entity_types", .array (view.entityTypes.map DbSetView.toJson))]

end DbContextView

namespace PropertyView

/-- A property after its transformer; the type is named in the language of the scope. -/
def build (scope : GenerationScope) (entity : EntityType) (property : Property) :
    Except GenerationError PropertyView := do
  let info ← scope.transformers.transformProperty
    ⟨scope.language.typeName property.clrType property.nullable, property.name, some entity.name⟩
  return ⟨info.propertyType, info.propertyName, property.column, property.nullable, property.isKey⟩

/-- The object that a template sees. -/
def toJson (view : PropertyView) : Json := .ofFields
  [("property_type", .string view.propertyType), ("property_name", .string view.propertyName),
    ("column_name", .string view.columnName), ("property_is_nullable", .bool view.isNullable),
    ("is_key", .bool view.isKey)]

end PropertyView

namespace NavigationView

/-- A navigation after its transformer; its type is the class of its target. -/
def build (scope : GenerationScope) (entity : EntityType) (navigation : Navigation) :
    Except GenerationError NavigationView := do
  let target ← scope.names.className navigation.targetEntity
  let info ← scope.transformers.transformNavigation ⟨target, navigation.name, some entity.name⟩
  let declared := if navigation.isCollection then scope.language.collectionType info.propertyType
    else info.propertyType
  return ⟨declared, info.propertyName, info.propertyType, navigation.isCollection⟩

/-- The object that a template sees. -/
def toJson (view : NavigationView) : Json := .ofFields
  [("property_type", .string view.propertyType), ("property_name", .string view.propertyName),
    ("element_type", .string view.elementType), ("is_collection", .bool view.isCollection)]

end NavigationView

/-- The object that a template sees. -/
def ImportView.toJson (view : ImportView) : Json := .ofFields
  [("name", .string view.name), ("path", .ofString? view.path)]

namespace EntityTypeView

/-- An entity type with its properties and then its navigations in order; the first error ends the
view. What it imports is left open. -/
def build (scope : GenerationScope) (entity : EntityType) :
    Except GenerationError EntityTypeView := do
  let className ← scope.names.className entity.name
  let properties ← entity.properties.mapM (PropertyView.build scope entity)
  let navProperties ← entity.navigations.mapM (NavigationView.build scope entity)
  return {
    rootNamespace := scope.rootNamespace
    className
    tableName := entity.table
    schema := entity.schema
    properties
    navProperties
    imports := []
    hasCollections := navProperties.any (·.isCollection) }

/-- The object that a template sees. -/
def toJson (view : EntityTypeView) : Json := .ofFields
  [("namespace", .string view.rootNamespace), ("class_name", .string view.className),
    ("table_name", .string view.tableName), ("schema", .ofString? view.schema),
    ("properties", .array (view.properties.map PropertyView.toJson)),
    ("nav_properties", .array (view.navProperties.map NavigationView.toJson)),
    ("imports", .array (view.imports.map ImportView.toJson)),
    ("has_collections", .bool view.hasCollections)]

end EntityTypeView

end EntityScaffold
