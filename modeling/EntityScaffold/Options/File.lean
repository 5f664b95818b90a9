import EntityScaffold.Options
import EntityScaffold.Toml.Reader
import EntityScaffold.Text.Record

/-! # Option files

Options are read from the root table of a TOML text. An option that is missing keeps its default, and
unknown ones are skipped. Of several faults the one whose key comes first in ascending order is reported.
-/

namespace EntityScaffold

/-- Why a text gives no options. -/
inductive OptionsFault where
  /-- The text is no TOML. -/
  | malformed
  /-- A number is too large to be read. -/
  | oversized
  /-- A value is of another kind than the one expected. -/
  | invalidType (found expected : String)
  /-- A name is none of those expected. -/
  | unknownName (found : String) (expected : List String)
  /-- A name is expected and something else found. -/
  | notAName
deriving DecidableEq, Repr

/-- What is told about an options fault; some have no message of their own. -/
def OptionsFault.message? : OptionsFault → Option String
  | .malformed | .oversized | .notAName => none
  | .invalidType found expected => some ("invalid type: " ++ found ++ ", expected " ++ expected)
  | .unknownName found expected =>
    some ("unknown variant `" ++ found ++ "`, expected one of " ++
      Text.joinWith ", " (expected.map fun name => "`" ++ name ++ "`"))

namespace Toml

open Decimal (Extended)

/-! ## Numbers in range -/

mutual

/-- No number in the value is too large to be read. -/
def Value.isReadable : Value → Bool
  | .oversized => false
  | .array items => itemsReadable items
  | .table _ entries => entriesReadable entries
  | .tables elements => tablesReadable elements
  | .string _ | .integer _ | .float _ | .bool _ | .moment => true

/-- No number in the items is too large. -/
def itemsReadable : List Value → Bool
  | [] => true
  | item :: rest => item.isReadable && itemsReadable rest

/-- No number in the entries is too large. -/
def entriesReadable : List (String × Value) → Bool
  | [] => true
  | (_, value) :: rest => value.isReadable && entriesReadable rest

/-- No number in the tables is too large. -/
def tablesReadable : List (List (String × Value)) → Bool
  | [] => true
  | entries :: rest => entriesReadable entries && tablesReadable rest

end

/-! ## Kinds of values -/

/-- What an integer is called; one that 64 bits do not hold is called with its width. -/
def describeInteger (n : Int) : String :=
  let width :=
    if -Nat.pow 2 63 ≤ n ∧ n < Nat.pow 2 64 then ""
    else if n < Nat.pow 2 127 then " as i128"
    else " as u128"
  "integer `" ++ toString n ++ "`" ++ width

/-- The text of a float in a message. -/
def floatText : Extended → String
  | .finite d => d.plainText
  | .infinite negative => if negative then "-inf" else "inf"
  | .notANumber => "NaN"

/-- What a value is called that is of the wrong kind. -/
def Value.describe? : Value → Option String
  | .string s => some ("string " ++ Text.quoted s)
  | .integer n => some (describeInteger n)
  | .float x => some ("floating point `" ++ floatText x ++ "`")
  | .oversized => none
  | .bool b => some ("boolean `" ++ Text.boolText b ++ "`")
  | .array _ | .tables _ => some "sequence"
  | .moment | .table .. => some "map"

/-- Nothing is in an array or a table. -/
def Value.isVacant : Value → Bool
  | .array [] | .table _ [] => true
  | _ => false

end Toml

namespace OptionsFile

open Toml (Value)

/-! ## Reading values -/

/-- Report that a value is of the wrong kind. -/
def wrongKind {α : Type} (expected : String) (value : Value) : Except OptionsFault α :=
  match value.describe? with
  | some found => .error (.invalidType found expected)
  | none => .error .oversized

/-- A string. -/
def text : Value → Except OptionsFault String
  | .string s => .ok s
  | value => wrongKind "a string" value

/-- A boolean. -/
def flag : Value → Except OptionsFault Bool
  | .bool b => .ok b
  | value => wrongKind "a boolean" value

/-- One of the values that have names. -/
def named {α : Type} (all : List (String × α)) (name : String) : Except OptionsFault α :=
  match all.lookup name with
  | some a => .ok a
  | none => .error (.unknownName name (all.map (·.1)))

/-- A name as a string, or as the only key of a table with nothing under it. -/
def choice {α : Type} (all : List (String × α)) : Value → Except OptionsFault α
  | .string name => named all name
  | .table _ [(name, inner)] => do
    let a ← named all name
    if inner.isVacant then return a else throw .notAName
  | _ => .error .notAName

/-! ## Reading options -/

/-- Put the entry of a key into the options. -/
def readEntry (options : ScaffoldOptions) (key : String) (value : Value) :
    Except OptionsFault ScaffoldOptions :=
  match key with
  | "context-name" => (text value).map fun name => { options with contextName := some name }
  | "fail-fast" => (flag value).map fun b => { options with failFast := b }
  | "language" => (choice LanguageMode.byName value).map fun l => { options with language := l }
  | "mode" => (choice ReverseEngineerMode.byName value).map fun m => { options with mode := m }
  | "namespace" => (text value).map fun name => { options with rootNamespace := name }
  | "naming" => (choice NamingConvention.byName value).map fun n => { options with naming := n }
  | "parallel" => (flag value).map fun b => { options with parallel := b }
  | _ => if value.isReadable then .ok options else .error .oversized

/-- Read the entries of a table in their order. -/
def readEntries (options : ScaffoldOptions) : Toml.Entries → Except OptionsFault ScaffoldOptions
  | [] => .ok options
  | (key, value) :: rest => (readEntry options key value).bind (readEntries · rest)

end OptionsFile

/-- The options in a text. -/
def ScaffoldOptions.parse (source : String) : Except OptionsFault ScaffoldOptions :=
  match Toml.parse source with
  | some entries => OptionsFile.readEntries {} entries
  | none => .error .malformed

end EntityScaffold
