import EntityScaffold.Model.Basic
import EntityScaffold.Json.Reader
import EntityScaffold.Json.Printer

/-! # Models as JSON

A record of a model is written as an object with all its fields. It is read from an object, in which
fields that have a default may be missing and unknown fields are skipped, or from an array of its fields
in their order, of which only lists and flags at the end may be missing. The first fault in the order of
the text is reported.
-/

namespace EntityScaffold

/-! ## Writing -/

/-- The object of a property. -/
def Property.toJson (property : Property) : Json := .ofFields
  [("name", .string property.name), ("column_name", .ofString? property.columnName),
    ("clr_type", .string property.clrType), ("nullable", .bool property.nullable),
    ("is_key", .bool property.isKey)]

/-- The object of a navigation. -/
def Navigation.toJson (navigation : Navigation) : Json := .ofFields
  [("name", .string navigation.name), ("target_entity", .string navigation.targetEntity),
    ("is_collection", .bool navigation.isCollection)]

/-- The object of an entity type. -/
def EntityType.toJson (entity : EntityType) : Json := .ofFields
  [("name", .string entity.name), ("table_name", .ofString? entity.tableName),
    ("schema", .ofString? entity.schema), ("properties", .array (entity.properties.map Property.toJson)),
    ("navigations", .array (entity.navigations.map Navigation.toJson))]

/-- The object of a model. -/
def DatabaseModel.toJson (model : DatabaseModel) : Json := .ofFields
  [("name", .string model.name), ("entity_types", .array (model.entityTypes.map EntityType.toJson))]

/-! ## Faults -/

/-- Why a text is no model. -/
inductive ModelFault where
  /-- The text is no JSON. -/
  | text (fault : Fault)
  /-- A value is of another kind than the one expected. -/
  | invalidType (found expected : String)
  | missingField (name : String)
  | duplicateField (name : String)
  /-- An array has too few items for a record. -/
  | invalidLength (length : Nat) (expected : String)
deriving DecidableEq, Repr

/-- What is told about a model fault; a text that is no JSON has no message. -/
def ModelFault.message? : ModelFault → Option String
  | .text _ => none
  | .invalidType found expected => some ("invalid type: " ++ found ++ ", expected " ++ expected)
  | .missingField name => some ("missing field `" ++ name ++ "`")
  | .duplicateField name => some ("duplicate field `" ++ name ++ "`")
  | .invalidLength length expected =>
    some ("invalid length " ++ toString length ++ ", expected " ++ expected)

/-! ## Reading values -/

/-- Reads a value from a document. -/
abbrev Decoder (α : Type) := Document → Except ModelFault α

namespace Decoder

/-- What a number is called. -/
def describeNumber : Number → String
  | .integer i => "integer `" ++ toString i ++ "`"
  | .double d => "floating point `" ++ d.text ++ "`"

/-- What a document is called that is of the wrong kind; its own faults come first. -/
def describe : Document → Except ModelFault String
  | .null => .ok "null"
  | .bool b => .ok ("boolean `" ++ Text.boolText b ++ "`")
  | .number (some n) => .ok (describeNumber n)
  | .number none => .error (.text .malformed)
  | .string (.ok s) => .ok ("string " ++ Text.quoted s)
  | .string (.error fault) => .error (.text fault)
  | .array _ => .ok "sequence"
  | .object _ => .ok "map"
  | .broken fault _ => .error (.text fault)

/-- Report that a document is of the wrong kind. -/
def wrongKind {α : Type} (expected : String) (document : Document) : Except ModelFault α :=
  match describe document with
  | .ok found => .error (.invalidType found expected)
  | .error fault => .error fault

/-- A string. -/
def text : Decoder String
  | .string (.ok s) => .ok s
  | document => wrongKind "a string" document

/-- A string or null. -/
def optionalText : Decoder (Option String)
  | .null => .ok none
  | document => (text document).map some

/-- A boolean. -/
def flag : Decoder Bool
  | .bool b => .ok b
  | document => wrongKind "a boolean" document

/-- An array of values. -/
def list {α : Type} (item : Decoder α) : Decoder (List α)
  | .array items => items.mapM item
  | document => wrongKind "a sequence" document

/-! ## Reading records -/

/-- A field of a record that is read into a draft. -/
structure FieldRule (δ : Type) where
  name : String
  /-- Whether the draft has the field already. -/
  isSet : δ → Bool
  /-- Read the field into the draft. -/
  read : δ → Decoder δ
  /-- Whether the field may be missing at the end of an array. -/
  optional : Bool

/-- Read the fields of an object in their order. -/
def readFields {δ : Type} (fields : List (FieldRule δ)) (draft : δ) :
    List (Except Fault String × Document) → Except ModelFault δ
  | [] => .ok draft
  | (.error fault, _) :: _ => .error (.text fault)
  | (.ok name, value) :: rest =>
    match fields.find? (·.name == name) with
    | none => match value.skip with
      | .ok () => readFields fields draft rest
      | .error fault => .error (.text fault)
    | some field =>
      if field.isSet draft then .error (.duplicateField name)
      else match field.read draft value with
        | .ok draft => readFields fields draft rest
        | .error fault => .error fault

/-- The end of an array that has been read as a record: nothing may follow. -/
def endOfItems : List Document → Except ModelFault Unit
  | [] => .ok ()
  | .broken .unclosed _ :: _ => .error (.text .unclosed)
  | _ :: _ => .error (.text .malformed)

/-- Read the items of an array as the fields of a record; `index` fields are read already. -/
def readItems {δ : Type} (expected : String) (draft : δ) (index : Nat) :
    List (FieldRule δ) → List Document → Except ModelFault δ
  | [], items => (endOfItems items).map fun () => draft
  | field :: fields, [] =>
    if field.optional then readItems expected draft (index + 1) fields []
    else .error (.invalidLength index expected)
  | field :: fields, item :: items =>
    match field.read draft item with
    | .ok draft => readItems expected draft (index + 1) fields items
    | .error fault => .error fault

/-- A record: an object or an array of its fields. -/
def record {δ α : Type} (name : String) (fields : List (FieldRule δ)) (draft : δ)
    (complete : δ → Except ModelFault α) : Decoder α
  | .object entries => (readFields fields draft entries).bind complete
  | .array items =>
    let expected := "struct " ++ name ++ " with " ++ toString fields.length ++ " elements"
    (readItems expected draft 0 fields items).bind complete
  | document => wrongKind ("struct " ++ name) document

/-- A field that must be there. -/
def required {α : Type} (name : String) : Option α → Except ModelFault α
  | some value => .ok value
  | none => .error (.missingField name)

end Decoder

open Decoder

/-! ### Properties -/

/-- The fields of a property read so far. -/
structure PropertyDraft where
  name : Option String
  columnName : Option (Option String)
  clrType : Option String
  nullable : Option Bool
  isKey : Option Bool

/-- The fields of a property in their order. -/
def PropertyDraft.fields : List (FieldRule PropertyDraft) :=
  [⟨"name", (·.name.isSome), fun draft d => do return { draft with name := ← text d }, false⟩,
    ⟨"column_name", (·.columnName.isSome),
      fun draft d => do return { draft with columnName := some (← optionalText d) }, false⟩,
    ⟨"clr_type", (·.clrType.isSome), fun draft d => do return { draft with clrType := ← text d }, false⟩,
    ⟨"nullable", (·.nullable.isSome), fun draft d => do return { draft with nullable := ← flag d }, true⟩,
    ⟨"is_key", (·.isKey.isSome), fun draft d => do return { draft with isKey := ← flag d }, true⟩]

/-- The property of a draft. -/
def PropertyDraft.complete (draft : PropertyDraft) : Except ModelFault Property := do
  return {
    name := ← required "name" draft.name
    columnName := draft.columnName.getD none
    clrType := ← required "clr_type" draft.clrType
    nullable := draft.nullable.getD false
    isKey := draft.isKey.getD false }

/-- A property. -/
def Property.decode : Decoder Property :=
  record "Property" PropertyDraft.fields ⟨none, none, none, none, none⟩ PropertyDraft.complete

/-! ### Navigations -/

/-- The fields of a navigation read so far. -/
structure NavigationDraft where
  name : Option String
  targetEntity : Option String
  isCollection : Option Bool

/-- The fields of a navigation in their order. -/
def NavigationDraft.fields : List (FieldRule NavigationDraft) :=
  [⟨"name", (·.name.isSome), fun draft d => do return { draft with name := ← text d }, false⟩,
    ⟨"target_entity", (·.targetEntity.isSome),
      fun draft d => do return { draft with targetEntity := ← text d }, false⟩,
    ⟨"is_collection", (·.isCollection.isSome),
      fun draft d => do return { draft with isCollection := ← flag d }, true⟩]

/-- The navigation of a draft. -/
def NavigationDraft.complete (draft : NavigationDraft) : Except ModelFault Navigation := do
  return {
    name := ← required "name" draft.name
    targetEntity := ← required "target_entity" draft.targetEntity
    isCollection := draft.isCollection.getD false }

/-- A navigation. -/
def Navigation.decode : Decoder Navigation :=
  record "Navigation" NavigationDraft.fields ⟨none, none, none⟩ NavigationDraft.complete

/-! ### Entity types -/

/-- The fields of an entity type read so far. -/
structure EntityDraft where
  name : Option String
  tableName : Option (Option String)
  schema : Option (Option String)
  properties : Option (List Property)
  navigations : Option (List Navigation)

/-- The fields of an entity type in their order. -/
def EntityDraft.fields : List (FieldRule EntityDraft) :=
  [⟨"name", (·.name.isSome), fun draft d => do return { draft with name := ← text d }, false⟩,
    ⟨"table_name", (·.tableName.isSome),
      fun draft d => do return { draft with tableName := some (← optionalText d) }, false⟩,
    ⟨"schema", (·.schema.isSome),
      fun draft d => do return { draft with schema := some (← optionalText d) }, false⟩,
    ⟨"properties", (·.properties.isSome),
      fun draft d => do return { draft with properties := ← list Property.decode d }, true⟩,
    ⟨"navigations", (·.navigations.isSome),
      fun draft d => do return { draft with navigations := ← list Navigation.decode d }, true⟩]

/-- The entity type of a draft. -/
def EntityDraft.complete (draft : EntityDraft) : Except ModelFault EntityType := do
  return {
    name := ← required "name" draft.name
    tableName := draft.tableName.getD none
    schema := draft.schema.getD none
    properties := draft.properties.getD []
    navigations := draft.navigations.getD [] }

/-- An entity type. -/
def EntityType.decode : Decoder EntityType :=
  record "EntityType" EntityDraft.fields ⟨none, none, none, none, none⟩ EntityDraft.complete

/-! ### Models -/

/-- The fields of a model read so far. -/
structure ModelDraft where
  name : Option String
  entityTypes : Option (List EntityType)

/-- The fields of a model in their order. -/
def ModelDraft.fields : List (FieldRule ModelDraft) :=
  [⟨"name", (·.name.isSome), fun draft d => do return { draft with name := ← text d }, false⟩,
    ⟨"entity_types", (·.entityTypes.isSome),
      fun draft d => do return { draft with entityTypes := ← list EntityType.decode d }, true⟩]

/-- The model of a draft. -/
def ModelDraft.complete (draft : ModelDraft) : Except ModelFault DatabaseModel := do
  return {
    name := ← required "name" draft.name
    entityTypes := draft.entityTypes.getD [] }

/-- A model. -/
def DatabaseModel.decode : Decoder DatabaseModel :=
  record "DatabaseModel" ModelDraft.fields ⟨none, none⟩ ModelDraft.complete

/-- The model that a text denotes. -/
def DatabaseModel.parse (source : String) : Except ModelFault DatabaseModel := do
  let written := Json.documentOf source.toList
  let model ← DatabaseModel.decode written.document
  match written.finish with
  | .ok () => return model
  | .error fault => throw (.text fault)

end EntityScaffold
