import EntityScaffold.Text.Quoted

/-! # One-line texts of records and lists

Diagnostics show a record as `Name { field: value, other: value }`, a record with hidden fields as
`Name { field: value, .. }`, a list as `[a, b]` and a dictionary as `{"key": value}`. The values are
given as texts already.
-/

namespace EntityScaffold.Text

/-- The texts in order with `separator` between neighbours. -/
def joinWith (separator : String) (items : List String) : String := separator.intercalate items

/-- `[a, b]`. -/
def listText (items : List String) : String := "[" ++ joinWith ", " items ++ "]"

/-- `name: value` for each field, separated by commas. -/
def fieldsText (fields : List (String × String)) : String :=
  joinWith ", " (fields.map fun (name, value) => name ++ ": " ++ value)

/-- `Name { field: value }`; a record without fields is its name alone. -/
def recordText (name : String) (fields : List (String × String)) : String :=
  if fields.isEmpty then name else name ++ " \x7b " ++ fieldsText fields ++ " \x7d"

/-- `Name { field: value, .. }`: some fields are not shown. -/
def openRecordText (name : String) (fields : List (String × String)) : String :=
  if fields.isEmpty then name ++ " \x7b .. \x7d"
  else name ++ " \x7b " ++ fieldsText fields ++ ", .. \x7d"

/-- `{"key": value}` with quoted keys. -/
def dictionaryText (entries : List (String × String)) : String :=
  "\x7b" ++ fieldsText (entries.map fun (key, value) => (quoted key, value)) ++ "\x7d"

/-- `None` or `Some(value)`. -/
def optionText : Option String → String
  | none => "None"
  | some text => "Some(" ++ text ++ ")"

/-- `true` or `false`. -/
def boolText (b : Bool) : String := if b then "true" else "false"

end EntityScaffold.Text
