import EntityScaffold.Json.Basic
import EntityScaffold.Decimal.Natural

/-! # Values of number notations

An integer notation that fits into 64 bits is an integer, signed or not; minus zero and everything
else is a double. A double is made from the leading digits that fit into 64 bits, rounded, and then
scaled by a power of ten, rounded again. A notation beyond the largest double has no value.
-/

namespace EntityScaffold

open Decimal (Double digitsNumber)

/-- The parts of a number in its notation: the digits before the point, after it, and the exponent
with its sign. -/
structure NumberNotation where
  negative : Bool
  whole : List Char
  fraction : Option (List Char)
  exponent : Option (Bool × List Char)
deriving DecidableEq, Repr

namespace NumberNotation

/-- The largest unsigned integer. -/
def maxSignificand : Nat := Nat.pow 2 64 - 1

/-- Append digits to a significand while it fits; what does not fit remains. -/
def accumulate (significand : Nat) : List Char → Nat × List Char
  | [] => (significand, [])
  | c :: cs =>
    let next := 10 * significand + (c.toNat - 48)
    if maxSignificand < next then (significand, c :: cs) else accumulate next cs

/-- `f · 10 ^ e`, rounded after each step; powers beyond `10 ^ 308` take several steps. -/
def scale (f : Double) (e : Int) : Nat → Option Double
  | 0 => some f
  | fuel + 1 =>
    if e.natAbs ≤ 308 then
      if 0 ≤ e then f.mul? (.powerOfTen e.toNat) else f.div? (.powerOfTen e.natAbs)
    else if f.isZero then some f
    else if 0 ≤ e then none
    else match f.div? (.powerOfTen 308) with
      | some f => scale f (e + 308) fuel
      | none => none

/-- The double `± significand · 10 ^ e`. A positive significand of 64 bits vanishes within three
steps. -/
def double? (negative : Bool) (significand : Nat) (e : Int) : Option Double :=
  (scale (.ofInt significand) e 4).map fun d => if negative then d.neg else d

/-- The integer of a notation without point and exponent, as a double where it does not fit. -/
def ofWhole (negative : Bool) (significand : Nat) : Number :=
  if !negative then .integer significand
  else if significand = 0 ∨ Nat.pow 2 63 < significand then .double (Double.ofInt significand).neg
  else .integer (-significand)

/-- The value of a notation, if it has one. -/
def value? (n : NumberNotation) : Option Number :=
  let (significand, dropped) := accumulate 0 n.whole
  match n.fraction, n.exponent, dropped with
  | none, none, [] => some (ofWhole n.negative significand)
  | fraction, exponent, dropped =>
    let digits := fraction.getD []
    let (significand, left) := accumulate significand digits
    let start : Int := (dropped.length : Int) - (digits.length - left.length : Nat)
    let value := match exponent with
      | none => double? n.negative significand start
      | some (below, digits) =>
        let e := digitsNumber digits
        if Nat.pow 2 31 ≤ e then
          if significand = 0 ∨ below then some (.zero n.negative) else none
        else double? n.negative significand (if below then start - e else start + e)
    value.map .double

end NumberNotation

end EntityScaffold
