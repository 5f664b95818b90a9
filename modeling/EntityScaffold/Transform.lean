import EntityScaffold.Error
import EntityScaffold.Text.Blank
import EntityScaffold.Text.Record
import EntityScaffold.Text.Words

/-! # Transformers

Before any template sees a model, its names and properties pass through transformers: entity names,
entity file names, properties and navigations each through their own. A missing transformer changes
nothing. A name transformer may keep a state of type `σ` between its calls; transformers of properties
depend on the property alone.
-/

namespace EntityScaffold

/-! ## Naming presets -/

/-- A preset of transformers. -/
inductive NamingConvention where
  /-- Names stay as they are. -/
  | none
  /-- Every word of every name starts with a capital. -/
  | pascal
  /-- As `pascal`, but the first word of a property is small. -/
  | camel
deriving DecidableEq, Repr

namespace NamingConvention

/-- The preset that a text names, in any letter case. -/
def parse (s : String) : Except GenerationError NamingConvention :=
  match Text.asciiLower s with
  | "none" => .ok .none
  | "pascal" | "pascal-case" => .ok .pascal
  | "camel" | "camel-case" => .ok .camel
  | other => .error (.configuration (.unknownNaming other))

/-- The name of the preset. -/
def name : NamingConvention → String
  | .none => "none"
  | .pascal => "pascal"
  | .camel => "camel"

/-- The text of diagnostics. -/
def inspect : NamingConvention → String
  | .none => "None"
  | .pascal => "Pascal"
  | .camel => "Camel"

end NamingConvention

/-! ## Properties under transformation -/

/-- A property or navigation on its way through a transformer. -/
structure PropertyInfo where
  propertyType : String
  propertyName : String
  /-- The entity type that declares the property. -/
  declaringType : Option String
deriving DecidableEq, Repr

/-- Give a property another name. -/
def PropertyInfo.rename (info : PropertyInfo) (f : String → String) : PropertyInfo :=
  { info with propertyName := f info.propertyName }

/-- Makes a name from a name and the state left by earlier calls, or reports an error. -/
abbrev NameTransformer (σ : Type) := String → StateM σ (Except String String)

/-- Makes a property from a property, or reports an error. -/
abbrev PropertyTransformer := PropertyInfo → Except String PropertyInfo

/-! ## Transformer sets -/

/-- The transformers of properties and navigations. -/
structure MemberTransformers where
  property : Option PropertyTransformer
  navigation : Option PropertyTransformer

/-- The transformers of all four roles. -/
structure TransformerSet (σ : Type) extends MemberTransformers where
  entityName : Option (NameTransformer σ)
  entityFileName : Option (NameTransformer σ)

namespace MemberTransformers

/-- Apply a transformer if there is one; an error names the declaring type, or the property where there
is none. -/
def apply (transformer : Option PropertyTransformer) (role : TransformRole) (info : PropertyInfo) :
    Except GenerationError PropertyInfo :=
  match transformer with
  | none => .ok info
  | some f => (f info).mapError fun cause =>
    .transformation (info.declaringType.getD info.propertyName) role cause

/-- Transform a property. -/
def transformProperty (set : MemberTransformers) (info : PropertyInfo) :
    Except GenerationError PropertyInfo :=
  apply set.property .property info

/-- Transform a navigation. -/
def transformNavigation (set : MemberTransformers) (info : PropertyInfo) :
    Except GenerationError PropertyInfo :=
  apply set.navigation .navigationProperty info

end MemberTransformers

namespace TransformerSet

variable {σ : Type}

/-- No transformers. -/
def empty : TransformerSet σ := ⟨⟨none, none⟩, none, none⟩

/-- A transformer without state that cannot fail. -/
def total (f : String → String) : NameTransformer σ := fun name => pure (.ok (f name))

/-- A transformer that gives properties other names. -/
def renamed (f : String → String) : PropertyTransformer := fun info => .ok (info.rename f)

/-- The transformers of a preset. -/
def ofNaming : NamingConvention → TransformerSet σ
  | .none => empty
  | .pascal => ⟨⟨some (renamed Text.pascalCase), some (renamed Text.pascalCase)⟩,
      some (total Text.pascalCase), some (total Text.pascalCase)⟩
  | .camel => ⟨⟨some (renamed Text.camelCase), some (renamed Text.camelCase)⟩,
      some (total Text.pascalCase), some (total Text.pascalCase)⟩

/-- Whether no role has a transformer. -/
def isIdentity (set : TransformerSet σ) : Bool :=
  set.entityName.isNone && set.entityFileName.isNone && set.property.isNone && set.navigation.isNone

/-- Apply a transformer if there is one; an error names the entity. -/
def applyName (transformer : Option (NameTransformer σ)) (role : TransformRole) (name : String) :
    StateM σ (Except GenerationError String) :=
  match transformer with
  | none => pure (.ok name)
  | some f => do return (← f name).mapError fun cause => .transformation name role cause

/-- Transform the name of an entity. -/
def transformEntityName (set : TransformerSet σ) (name : String) :
    StateM σ (Except GenerationError String) :=
  applyName set.entityName .entityName name

/-- Transform the name of an entity into the name of its file. -/
def transformEntityFileName (set : TransformerSet σ) (name : String) :
    StateM σ (Except GenerationError String) :=
  applyName set.entityFileName .entityFileName name

/-- The text of diagnostics: which roles have a transformer. -/
def inspect (set : TransformerSet σ) : String :=
  Text.recordText "TransformerSet"
    [("entity_name", Text.boolText set.entityName.isSome),
      ("entity_file_name", Text.boolText set.entityFileName.isSome),
      ("property", Text.boolText set.property.isSome),
      ("navigation_property", Text.boolText set.navigation.isSome)]

end TransformerSet

end EntityScaffold
