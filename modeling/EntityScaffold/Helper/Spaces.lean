import EntityScaffold.Helper.Registry
import EntityScaffold.Decimal.Natural
import EntityScaffold.Text.Blank

/-! # Indentation

The helper `spaces` writes as many spaces as its first argument says, and nothing without arguments. The
count is an integer, or a text that spells one.
-/

namespace EntityScaffold

/-- The name of the helper. -/
def spacesName : String := "spaces"

/-- The most spaces that are written. -/
def maxSpaces : Nat := 4096

/-- The count that an argument stands for. -/
def spacesCount? : Json → Option Nat
  | .number n => n.natural?
  | .string s => Decimal.natural64? (Text.trim s.toList)
  | _ => none

/-- As many spaces as the first argument says. -/
def spaces : InlineHelper := fun _ arguments =>
  match arguments with
  | [] => .ok ""
  | argument :: _ => match spacesCount? argument with
    | none => .error ("spaces helper expects a non-negative integer, got " ++ argument.compact)
    | some count =>
      if maxSpaces < count then
        .error ("spaces helper count " ++ toString count ++ " exceeds the maximum of " ++
          toString maxSpaces)
      else .ok (String.ofList (List.replicate count ' '))

/-- The inline helpers that are always there. -/
def HelperRegistry.standard : HelperRegistry :=
  ⟨.inline, Keyed.empty.insert spacesName spaces⟩

/-- No block helpers. -/
def BlockHelperRegistry.empty : BlockHelperRegistry := ⟨.block, Keyed.empty⟩

end EntityScaffold
