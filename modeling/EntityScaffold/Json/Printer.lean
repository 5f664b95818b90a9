import EntityScaffold.Json.Basic
import EntityScaffold.Decimal.Shortest
import EntityScaffold.Text.Record

/-! # Texts of data values

A value has three texts: its compact notation, from which it can be read again; the text that a
template prints for it; and the text of diagnostics, which names the kind of every part.
-/

namespace EntityScaffold

/-- Decimal digits of an integer, the shortest text of a double. -/
def Number.text : Number → String
  | .integer i => toString i
  | .double d => d.text

namespace Json

/-! ## Compact notation -/

/-- One character as it stands in a string: quotes, backslashes and controls are escaped. -/
def escapedChar (c : Char) : String :=
  if c = '"' then "\\\""
  else if c = '\\' then "\\\\"
  else if c = '\n' then "\\n"
  else if c = '\r' then "\\r"
  else if c = '\t' then "\\t"
  else if c = '\x08' then "\\b"
  else if c = '\x0c' then "\\f"
  else if c.toNat < 16 then "\\u000" ++ Text.hexText c.toNat
  else if c.toNat < 32 then "\\u00" ++ Text.hexText c.toNat
  else c.toString

/-- A string in its notation. -/
def stringNotation (s : String) : String :=
  "\"" ++ String.join (s.toList.map escapedChar) ++ "\""

mutual

/-- The notation without blanks; fields come in ascending order of their names. -/
def compact : Json → String
  | .null => "null"
  | .bool b => Text.boolText b
  | .number n => n.text
  | .string s => stringNotation s
  | .array items => "[" ++ Text.joinWith "," (compactItems items) ++ "]"
  | .object fields => "\x7b" ++ Text.joinWith "," (compactFields fields) ++ "\x7d"

/-- The notations of the items. -/
def compactItems : List Json → List String
  | [] => []
  | item :: rest => compact item :: compactItems rest

/-- The notations of the fields, each with its name. -/
def compactFields : List (String × Json) → List String
  | [] => []
  | (name, value) :: rest => (stringNotation name ++ ":" ++ compact value) :: compactFields rest

end

/-- A string as it is, any other value in compact notation. -/
def plain : Json → String
  | .string s => s
  | value => value.compact

/-! ## Printed text -/

mutual

/-- What a template prints: null is empty, items stand in brackets, objects have no text. -/
def printed : Json → String
  | .null => ""
  | .bool b => Text.boolText b
  | .number n => n.text
  | .string s => s
  | .array items => Text.listText (printedItems items)
  | .object _ => "[object]"

/-- The printed texts of the items. -/
def printedItems : List Json → List String
  | [] => []
  | item :: rest => printed item :: printedItems rest

end

/-! ## Diagnostics -/

mutual

/-- The text in which every part names its kind. -/
def inspect : Json → String
  | .null => "Null"
  | .bool b => "Bool(" ++ Text.boolText b ++ ")"
  | .number n => "Number(" ++ n.text ++ ")"
  | .string s => "String(" ++ Text.quoted s ++ ")"
  | .array items => "Array " ++ Text.listText (inspectItems items)
  | .object fields => "Object " ++ Text.dictionaryText (inspectFields fields)

/-- The texts of the items. -/
def inspectItems : List Json → List String
  | [] => []
  | item :: rest => inspect item :: inspectItems rest

/-- The texts of the fields under their names. -/
def inspectFields : List (String × Json) → List (String × String)
  | [] => []
  | (name, value) :: rest => (name, inspect value) :: inspectFields rest

end

end Json

end EntityScaffold
