import EntityScaffold.Error
import EntityScaffold.Text.Blank

/-! # Languages and modes

A run generates entity types in one language, and its mode says which of the database context and the
entity types it generates.
-/

namespace EntityScaffold

/-- The language of the entity types. -/
inductive LanguageMode where
  | csharp
  | typescript
deriving DecidableEq, Repr

namespace LanguageMode

/-- The name of the language. -/
def name : LanguageMode → String
  | .csharp => "csharp"
  | .typescript => "typescript"

/-- The language that a text names, in any letter case and with blanks around it. -/
def parse (s : String) : Except GenerationError LanguageMode :=
  match Text.asciiLower (String.ofList (Text.trim s.toList)) with
  | "csharp" | "cs" | "c#" => .ok .csharp
  | "typescript" | "ts" => .ok .typescript
  | other => .error (.configuration (.unknownLanguage other))

/-- The text of diagnostics. -/
def inspect : LanguageMode → String
  | .csharp => "CSharp"
  | .typescript => "TypeScript"

end LanguageMode

/-- Which outputs a run generates. -/
inductive ReverseEngineerMode where
  | dbContextOnly
  | entitiesOnly
  | dbContextAndEntities
deriving DecidableEq, Repr

namespace ReverseEngineerMode

/-- The name of the mode. -/
def name : ReverseEngineerMode → String
  | .dbContextOnly => "db-context-only"
  | .entitiesOnly => "entities-only"
  | .dbContextAndEntities => "db-context-and-entities"

/-- Characters that do not matter in the name of a mode. -/
def isFiller (c : Char) : Bool := c == '-' || c == '_' || c == ' '

/-- The mode that a text names, in any letter case and with any fillers. -/
def parse (s : String) : Except GenerationError ReverseEngineerMode :=
  match Text.asciiLower (String.ofList ((Text.trim s.toList).filter fun c => !isFiller c)) with
  | "dbcontextonly" | "dbcontext" => .ok .dbContextOnly
  | "entitiesonly" | "entities" => .ok .entitiesOnly
  | "dbcontextandentities" | "all" => .ok .dbContextAndEntities
  | _ => .error (.configuration (.unknownMode s))

/-- Whether the database context is generated. -/
def generatesDbContext : ReverseEngineerMode → Bool
  | .dbContextOnly | .dbContextAndEntities => true
  | .entitiesOnly => false

/-- Whether entity types are generated. -/
def generatesEntities : ReverseEngineerMode → Bool
  | .entitiesOnly | .dbContextAndEntities => true
  | .dbContextOnly => false

/-- The text of diagnostics. -/
def inspect : ReverseEngineerMode → String
  | .dbContextOnly => "DbContextOnly"
  | .entitiesOnly => "EntitiesOnly"
  | .dbContextAndEntities => "DbContextAndEntities"

end ReverseEngineerMode

end EntityScaffold
