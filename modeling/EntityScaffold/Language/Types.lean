import EntityScaffold.Language.Basic
import EntityScaffold.Helper.Basic

/-! # Names of types

How a semantic type is called in each language. In C# a value type that may be null ends in one question
mark; in TypeScript question marks and blanks around the type do not matter.
-/

namespace EntityScaffold

/-- Drop question marks at the end. -/
def withoutMarks (clrType : String) : String :=
  String.ofList (Text.dropEndWhile (· == '?') clrType.toList)

/-! ## C# -/

/-- Types whose values are not references. -/
def valueTypes : List String :=
  ["bool", "byte", "sbyte", "char", "short", "ushort", "int", "uint", "long", "ulong", "float",
    "double", "decimal", "DateTime", "DateTimeOffset", "DateOnly", "TimeOnly", "TimeSpan", "Guid"]

/-- The C# name of a type. -/
def csharpType (clrType : String) (nullable : Bool) : String :=
  if nullable && valueTypes.contains (withoutMarks clrType) then withoutMarks clrType ++ "?"
  else clrType

/-! ## TypeScript -/

/-- Types that are numbers in TypeScript. -/
def numberTypes : List String :=
  ["byte", "sbyte", "short", "ushort", "int", "uint", "long", "ulong", "float", "double", "decimal"]

/-- The TypeScript name of a type. -/
def typescriptType (clrType : String) : String :=
  let base := withoutMarks (String.ofList (Text.trim clrType.toList))
  if numberTypes.contains base then "number"
  else if ["string", "char", "Guid", "TimeSpan"].contains base then "string"
  else if base = "bool" then "boolean"
  else if ["DateTime", "DateTimeOffset", "DateOnly"].contains base then "Date"
  else "any"

/-- The name of the helper that writes TypeScript types. -/
def tsTypeName : String := "ts-type"

/-- Writes the TypeScript name of the type that the first argument names. -/
def tsType : InlineHelper := fun _ arguments =>
  match arguments with
  | .string clrType :: _ => .ok (typescriptType clrType)
  | _ => .error "ts-type helper expects a type name argument"

/-! ## Either language -/

namespace LanguageMode

/-- The name of the type of a property. -/
def typeName (language : LanguageMode) (clrType : String) (nullable : Bool) : String :=
  match language with
  | .csharp => csharpType clrType nullable
  | .typescript => typescriptType clrType

/-- The type of many elements. -/
def collectionType (language : LanguageMode) (element : String) : String :=
  match language with
  | .csharp => "ICollection<" ++ element ++ ">"
  | .typescript => element ++ "[]"

end LanguageMode

end EntityScaffold
