/-! # Unsigned integers written as text

An optional plus sign and at least one digit; the value must fit into 64 bits.
-/

namespace EntityScaffold.Decimal

/-- The largest unsigned integer of 64 bits. -/
def maxNatural64 : Nat := Nat.pow 2 64 - 1

/-- The number that decimal digits denote. -/
def digitsNumber (cs : List Char) : Nat := cs.foldl (fun n c => 10 * n + (c.toNat - 48)) 0

/-- The unsigned integer that a text denotes. -/
def natural64? (cs : List Char) : Option Nat :=
  let digits := match cs with
    | '+' :: rest => rest
    | cs => cs
  if digits.isEmpty || !digits.all Char.isDigit then none
  else if digitsNumber digits ≤ maxNatural64 then some (digitsNumber digits) else none

end EntityScaffold.Decimal
