/-! # Database models

A model lists the entity types of a database: one for each table or view, with a property for each
column and a navigation for each relationship to another entity type.
-/

namespace EntityScaffold

/-- A column. -/
structure Property where
  name : String
  /-- The column, if it is called differently. -/
  columnName : Option String
  /-- The semantic type, such as `int` or `DateTime`. -/
  clrType : String
  nullable : Bool
  isKey : Bool
deriving DecidableEq, Repr

namespace Property

/-- A required property that is no key. -/
def new (name clrType : String) : Property := ⟨name, none, clrType, false, false⟩

/-- The property as part of the key. -/
def key (property : Property) : Property := { property with isKey := true }

/-- The property with null among its values. -/
def orNull (property : Property) : Property := { property with nullable := true }

/-- The name of the column. -/
def column (property : Property) : String := property.columnName.getD property.name

end Property

/-- A relationship to another entity type. -/
structure Navigation where
  name : String
  /-- The entity type on the other end, as the model names it. -/
  targetEntity : String
  isCollection : Bool
deriving DecidableEq, Repr

namespace Navigation

/-- A relationship to one entity. -/
def reference (name targetEntity : String) : Navigation := ⟨name, targetEntity, false⟩

/-- A relationship to many entities. -/
def collection (name targetEntity : String) : Navigation := ⟨name, targetEntity, true⟩

end Navigation

/-- A table or view. -/
structure EntityType where
  name : String
  /-- The table, if it is called differently. -/
  tableName : Option String
  schema : Option String
  properties : List Property
  navigations : List Navigation
deriving DecidableEq, Repr

namespace EntityType

/-- An entity type without properties and navigations. -/
def new (name : String) : EntityType := ⟨name, none, none, [], []⟩

/-- Add a property at the end. -/
def withProperty (entity : EntityType) (property : Property) : EntityType :=
  { entity with properties := entity.properties ++ [property] }

/-- Add a navigation at the end. -/
def withNavigation (entity : EntityType) (navigation : Navigation) : EntityType :=
  { entity with navigations := entity.navigations ++ [navigation] }

/-- The name of the table. -/
def table (entity : EntityType) : String := entity.tableName.getD entity.name

end EntityType

/-- A database model. -/
structure DatabaseModel where
  name : String
  entityTypes : List EntityType
deriving DecidableEq, Repr

namespace DatabaseModel

/-- A model without entity types. -/
def new (name : String) : DatabaseModel := ⟨name, []⟩

/-- Add an entity type at the end. -/
def withEntity (model : DatabaseModel) (entity : EntityType) : DatabaseModel :=
  { model with entityTypes := model.entityTypes ++ [entity] }

end DatabaseModel

end EntityScaffold
