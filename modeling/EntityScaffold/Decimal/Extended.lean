import EntityScaffold.Decimal.Double

/-! # Doubles beyond the finite ones

Where every decimal number is to be read, the result may be too large for a finite double, and a notation
may also name an infinity or a value that is no number.
-/

namespace EntityScaffold.Decimal

/-- A double, an infinity, or no number. -/
inductive Extended where
  | finite (value : Double)
  | infinite (negative : Bool)
  | notANumber
deriving DecidableEq, Repr

namespace Extended

/-- The double nearest to `± coefficient · 10 ^ exponent`. Powers of ten far outside the range of
doubles are not computed. -/
def ofScaled (negative : Bool) (coefficient : Nat) (exponent : Int) : Extended :=
  let size : Int := exponent + (Nat.toDigits 10 coefficient).length
  if coefficient = 0 ∨ size < -400 then .finite (.zero negative)
  else if 400 < size then .infinite negative
  else
    let (n, d) := if 0 ≤ exponent then (coefficient * Nat.pow 10 exponent.toNat, 1)
      else (coefficient, Nat.pow 10 (-exponent).toNat)
    match Double.ofRatio negative n d with
    | some value => .finite value
    | none => .infinite negative

end Extended

end EntityScaffold.Decimal
