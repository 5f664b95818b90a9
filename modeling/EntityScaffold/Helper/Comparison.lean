import EntityScaffold.Template.Failure
import EntityScaffold.Json.Basic

/-! # Values in conditions

Which values count as true, and the calls `eq`, `ne`, `gt`, `gte`, `lt`, `lte`, `and`, `or`, `not` and
`len` that every template knows. Any two values can be equal, but only integers are ordered.
-/

namespace EntityScaffold

open Template (Cause)

namespace Json

/-- Empty values, null, false and zero are false. With `zero` every number is true; without it a number
that is too small to have its full precision is false like zero. -/
def isTrue (zero : Bool) : Json → Bool
  | .null => false
  | .bool b => b
  | .number (.integer i) => zero || i != 0
  | .number (.double d) => zero || d.isNormal
  | .string s => !s.isEmpty
  | .array items => !items.isEmpty
  | .object fields => !fields.isEmpty

/-- The number of items or fields, or of the bytes of a string. -/
def size : Json → Nat
  | .array items => items.length
  | .object fields => fields.length
  | .string s => s.utf8ByteSize
  | _ => 0

end Json

/-! ## Calls -/

/-- A call that computes a value from its arguments. -/
inductive Operator where
  | binary (value : Json → Json → Json)
  | unary (value : Json → Json)
  /-- Compares two integers of 64 bits. -/
  | comparison (holds : Int → Int → Bool)

namespace Operator

/-- The operator of a name. -/
def named? : String → Option Operator
  | "eq" => some (.binary fun x y => .bool (x.same y))
  | "ne" => some (.binary fun x y => .bool (!x.same y))
  | "gt" => some (.comparison fun x y => y < x)
  | "gte" => some (.comparison fun x y => y ≤ x)
  | "lt" => some (.comparison fun x y => x < y)
  | "lte" => some (.comparison fun x y => x ≤ y)
  | "and" => some (.binary fun x y => .bool (x.isTrue false && y.isTrue false))
  | "or" => some (.binary fun x y => .bool (x.isTrue false || y.isTrue false))
  | "not" => some (.unary fun x => .bool (!x.isTrue false))
  | "len" => some (.unary fun x => .integer x.size)
  | _ => none

/-- The argument at a place, which a call needs under the name `parameter`. -/
def argument (name parameter : String) (index : Nat) (arguments : List Json) : Except Cause Json :=
  match arguments[index]? with
  | some value => .ok value
  | none => .error (.namedArgumentMissing name parameter)

/-- The argument at a place as an integer of 64 bits. -/
def integerArgument (name parameter : String) (index : Nat) (arguments : List Json) :
    Except Cause Int := do
  match (← argument name parameter index arguments).integer? with
  | some i => return i
  | none => throw (.integerExpected name parameter)

/-- The value of a call; arguments beyond those needed do not matter. The first argument at fault is
told, be it missing or no integer. -/
def apply (name : String) (operator : Operator) (arguments : List Json) : Except Cause Json :=
  match operator with
  | .unary value => do return value (← argument name "x" 0 arguments)
  | .binary value => do
    let x ← argument name "x" 0 arguments
    let y ← argument name "y" 1 arguments
    return value x y
  | .comparison holds => do
    let x ← integerArgument name "x" 0 arguments
    let y ← integerArgument name "y" 1 arguments
    return .bool (holds x y)

end Operator

end EntityScaffold
