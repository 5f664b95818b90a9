/-! # Binary floating point numbers of 64 bits

A finite double is `± mantissa · 2 ^ exponent` with a mantissa below `2 ^ 53`. It is kept in its one
normal form: either the mantissa has its full 53 bits, or the exponent is the least one. Rounding is
to the nearest double, a tie goes to the even mantissa.
-/

namespace EntityScaffold.Decimal

/-- A finite double, `± mantissa · 2 ^ exponent`. -/
structure Double where
  negative : Bool
  mantissa : Nat
  exponent : Int
deriving DecidableEq, Repr

namespace Double

/-- The least exponent. -/
def minExponent : Int := -1074

/-- The largest exponent. -/
def maxExponent : Int := 971

/-- Zero with the given sign. -/
def zero (negative : Bool) : Double := ⟨negative, 0, minExponent⟩

instance : Inhabited Double := ⟨zero false⟩

/-- Change the sign. -/
def neg (d : Double) : Double := { d with negative := !d.negative }

/-- Zero of either sign. -/
def isZero (d : Double) : Bool := d.mantissa == 0

/-- The mantissa has all of its 53 bits. -/
def isNormal (d : Double) : Bool := Nat.pow 2 52 ≤ d.mantissa

/-! ## Rounding -/

/-- The natural number nearest to `n / d`, the even one in a tie. -/
def roundQuotient (n d : Nat) : Nat :=
  let q := n / d
  let r := n % d
  if d < 2 * r ∨ (2 * r = d ∧ q % 2 = 1) then q + 1 else q

/-- The fraction `n / d` divided by `2 ^ e`, as a fraction. -/
def scaleDown (n d : Nat) (e : Int) : Nat × Nat :=
  if 0 ≤ e then (n, d * Nat.pow 2 e.toNat) else (n * Nat.pow 2 (-e).toNat, d)

/-- The double nearest to `± n / d`; `none` when it is beyond the largest double. -/
def ofRatio (negative : Bool) (n d : Nat) : Option Double :=
  if n = 0 then some (zero negative)
  else
    let guess : Int := (n.log2 : Int) - d.log2 - 52
    let (a, b) := scaleDown n d guess
    let exponent := max minExponent (if a / b < Nat.pow 2 52 then guess - 1 else guess)
    let (a, b) := scaleDown n d exponent
    let m := roundQuotient a b
    let (m, exponent) := if m = Nat.pow 2 53 then (Nat.pow 2 52, exponent + 1) else (m, exponent)
    if maxExponent < exponent then none else some ⟨negative, m, exponent⟩

/-- The double nearest to an integer of at most 64 bits. -/
def ofInt (i : Int) : Double := (ofRatio (i < 0) i.natAbs 1).getD default

/-! ## Arithmetic -/

/-- The exact absolute value as a fraction. -/
def ratio (d : Double) : Nat × Nat :=
  if 0 ≤ d.exponent then (d.mantissa * Nat.pow 2 d.exponent.toNat, 1)
  else (d.mantissa, Nat.pow 2 (-d.exponent).toNat)

/-- The rounded product; `none` when it is beyond the largest double. -/
def mul? (x y : Double) : Option Double :=
  ofRatio (x.negative != y.negative) (x.ratio.1 * y.ratio.1) (x.ratio.2 * y.ratio.2)

/-- The rounded quotient by a double that is not zero; `none` when it is beyond the largest
double. -/
def div? (x y : Double) : Option Double :=
  ofRatio (x.negative != y.negative) (x.ratio.1 * y.ratio.2) (x.ratio.2 * y.ratio.1)

/-- The double nearest to a power of ten. -/
def powerOfTen (k : Nat) : Double := (ofRatio false (Nat.pow 10 k) 1).getD default

/-- Equal by value; zeros of either sign are equal. -/
def sameValue (x y : Double) : Bool := x == y || (x.isZero && y.isZero)

end Double

end EntityScaffold.Decimal
