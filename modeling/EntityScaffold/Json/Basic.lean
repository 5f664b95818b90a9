import EntityScaffold.Decimal.Double
import EntityScaffold.Keyed

/-! # Data values

Templates, helpers and models exchange values of one dynamic type. A number is an integer of at most
64 bits or a double, and the two kinds are never equal. The fields of an object are kept in ascending
order of their names.
-/

namespace EntityScaffold

open Decimal (Double)

/-- An integer of at most 64 bits, or a double. -/
inductive Number where
  | integer (value : Int)
  | double (value : Double)
deriving DecidableEq, Repr

namespace Number

/-- The value as a signed integer of 64 bits. -/
def integer? : Number → Option Int
  | .integer i => if -9223372036854775808 ≤ i ∧ i ≤ 9223372036854775807 then some i else none
  | .double _ => none

/-- The value as a natural number, for integers that are not negative. -/
def natural? : Number → Option Nat
  | .integer i => if 0 ≤ i then some i.toNat else none
  | .double _ => none

/-- Numbers of one kind and one value; zeros of either sign are the same. -/
def same : Number → Number → Bool
  | .integer i, .integer j => i == j
  | .double x, .double y => x.sameValue y
  | _, _ => false

end Number

/-- A data value. -/
inductive Json where
  | null
  | bool (value : Bool)
  | number (value : Number)
  | string (value : String)
  | array (items : List Json)
  | object (fields : List (String × Json))
deriving Repr

namespace Json

instance : Inhabited Json := ⟨.null⟩

/-- An integer. -/
def integer (i : Int) : Json := .number (.integer i)

/-- A string, or null where there is none. -/
def ofString? : Option String → Json
  | some s => .string s
  | none => .null

/-- The object with the given fields; of two under one name the later stays. -/
def ofFields (fields : List (String × Json)) : Json := .object (sortEntries fields)

/-! ## Access -/

/-- The text of a string. -/
def string? : Json → Option String
  | .string s => some s
  | _ => none

/-- The value of a boolean. -/
def bool? : Json → Option Bool
  | .bool b => some b
  | _ => none

/-- The value of an integer of 64 bits with a sign. -/
def integer? : Json → Option Int
  | .number n => n.integer?
  | _ => none

/-- The value of an integer that is not negative. -/
def natural? : Json → Option Nat
  | .number n => n.natural?
  | _ => none

/-- The items of an array. -/
def items? : Json → Option (List Json)
  | .array items => some items
  | _ => none

/-- A field of an object. -/
def field? (name : String) : Json → Option Json
  | .object fields => fields.lookup name
  | _ => none

/-! ## Sameness -/

mutual

/-- Equal values: kinds agree, strings agree, numbers are the same, items and fields agree. -/
def same : Json → Json → Bool
  | .null, .null => true
  | .bool a, .bool b => a == b
  | .number a, .number b => a.same b
  | .string a, .string b => a == b
  | .array as, .array bs => sameItems as bs
  | .object as, .object bs => sameFields as bs
  | _, _ => false

/-- Two lists of the same values. -/
def sameItems : List Json → List Json → Bool
  | [], [] => true
  | a :: as, b :: bs => same a b && sameItems as bs
  | _, _ => false

/-- Two lists of fields with the same names and values. -/
def sameFields : List (String × Json) → List (String × Json) → Bool
  | [], [] => true
  | (k, a) :: as, (l, b) :: bs => k == l && same a b && sameFields as bs
  | _, _ => false

end

end Json

end EntityScaffold
