import EntityScaffold.Decimal.Double

/-! # Shortest decimal texts of doubles

The reals that round to a double form an interval around it, ends included when the mantissa is even.
The shortest text uses the fewest digits of any decimal in that interval, and of those the decimal
nearest to the double.
-/

namespace EntityScaffold.Decimal

/-- The number of decimal digits of a positive number. -/
def digitCount (n : Nat) : Nat := (Nat.toDigits 10 n).length

/-- A positive decimal `coefficient · 10 ^ exponent`. -/
structure Scaled where
  coefficient : Nat
  exponent : Int
deriving DecidableEq, Repr

/-- Positive reals as fractions over one denominator: a value and the interval around it. -/
structure Interval where
  low : Nat
  value : Nat
  high : Nat
  denominator : Nat
  closed : Bool
deriving DecidableEq, Repr

namespace Interval

/-- The reals that round to a positive double. Below a power of two the neighbour is half as far. -/
def ofDouble (d : Double) : Interval :=
  let low := if d.mantissa = Nat.pow 2 52 ∧ Double.minExponent < d.exponent then 4 * d.mantissa - 1
    else 4 * d.mantissa - 2
  let (up, denominator) :=
    if 2 ≤ d.exponent then (Nat.pow 2 (d.exponent - 2).toNat, 1) else (1, Nat.pow 2 (2 - d.exponent).toNat)
  ⟨low * up, 4 * d.mantissa * up, (4 * d.mantissa + 2) * up, denominator, d.mantissa % 2 = 0⟩

/-- The decimal exponent of the leading digit of the value. -/
def leadingExponent (i : Interval) : Int :=
  if i.denominator ≤ i.value then (digitCount (i.value / i.denominator) : Int) - 1
  else
    let q := (i.denominator + i.value - 1) / i.value
    Int.negOfNat (digitCount (q - 1))

/-- A decimal and a bound over a common denominator. -/
def scaledPair (i : Interval) (s : Scaled) (bound : Nat) : Nat × Nat :=
  if 0 ≤ s.exponent then (s.coefficient * Nat.pow 10 s.exponent.toNat * i.denominator, bound)
  else (s.coefficient * i.denominator, bound * Nat.pow 10 (-s.exponent).toNat)

/-- Whether a decimal lies in the interval. -/
def contains (i : Interval) (s : Scaled) : Bool :=
  let (a, low) := i.scaledPair s i.low
  let (b, high) := i.scaledPair s i.high
  if i.closed then low ≤ a && b ≤ high else low < a && b < high

/-- The better of the two decimals with `digits` digits next to the value, if one is in the
interval; an exact tie goes to the even coefficient. -/
def nearest? (i : Interval) (digits : Nat) : Option Scaled :=
  let exponent := i.leadingExponent - digits + 1
  let (n, d) :=
    if 0 ≤ exponent then (i.value, i.denominator * Nat.pow 10 exponent.toNat)
    else (i.value * Nat.pow 10 (-exponent).toNat, i.denominator)
  let below : Scaled := ⟨n / d, exponent⟩
  let above : Scaled := ⟨n / d + 1, exponent⟩
  let belowFirst := 2 * (n % d) < d ∨ (2 * (n % d) = d ∧ (n / d) % 2 = 0)
  match i.contains below, i.contains above with
  | true, true => some (if belowFirst then below else above)
  | true, false => some below
  | false, true => some above
  | false, false => none

/-- The first hit among the grids of `digits`, `digits + 1`, … digits. -/
def search (i : Interval) (digits : Nat) : Nat → Scaled
  | 0 => ⟨i.value / i.denominator, 0⟩
  | fuel + 1 => match i.nearest? digits with
    | some s => s
    | none => i.search (digits + 1) fuel

/-- The shortest decimal in the interval; seventeen digits always suffice. -/
def shortest (i : Interval) : Scaled := i.search 1 17

end Interval

/-- The digits of a decimal without trailing zeros, and the exponent of the first digit. -/
def Scaled.digits (s : Scaled) : List Char × Int :=
  let all := Nat.toDigits 10 s.coefficient
  let kept := (all.reverse.dropWhile (· == '0')).reverse
  (kept, s.exponent + all.length - 1)

/-! ## Texts -/

/-- Digits with the point after the place of the first exponent: `1.5`, `0.001`, `1000.0`. -/
def positional (digits : List Char) (leading : Int) : List Char :=
  if leading < 0 then
    ['0', '.'] ++ List.replicate (-leading - 1).toNat '0' ++ digits
  else
    let whole := leading.toNat + 1
    let front := digits.take whole ++ List.replicate (whole - digits.length) '0'
    let back := digits.drop whole
    front ++ '.' :: (if back.isEmpty then ['0'] else back)

/-- `d.ddde±x`, without a point when there is one digit. -/
def scientific (digits : List Char) (leading : Int) : List Char :=
  let mantissa := match digits with
    | [] => []
    | [d] => [d]
    | d :: rest => d :: '.' :: rest
  mantissa ++ 'e' :: (if leading < 0 then '-' else '+') :: Nat.toDigits 10 leading.natAbs

namespace Double

/-- The sign of a double in front of a text. -/
def withSign (d : Double) (cs : List Char) : String :=
  String.ofList (if d.negative then '-' :: cs else cs)

/-- Shortest text, positional from `0.00001` up to below `10 ^ 16` and scientific outside; there is
always a point or an exponent. -/
def text (d : Double) : String :=
  if d.isZero then d.withSign ['0', '.', '0']
  else
    let (digits, leading) := (Interval.ofDouble d).shortest.digits
    d.withSign (if -5 ≤ leading ∧ leading ≤ 15 then positional digits leading
      else scientific digits leading)

/-- Shortest text, positional for every exponent. -/
def plainText (d : Double) : String :=
  if d.isZero then d.withSign ['0', '.', '0']
  else
    let (digits, leading) := (Interval.ofDouble d).shortest.digits
    d.withSign (positional digits leading)

end Double

end EntityScaffold.Decimal
