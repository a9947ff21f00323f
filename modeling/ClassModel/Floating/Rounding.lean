import ClassModel.Floating.Format

/-!
# Rounding to a binary format

The number of a format nearest to a fraction of natural numbers, ties to the even neighbour, and
the conversions made from it. All arithmetic is exact until the one rounding step.
-/

namespace ClassModel.Floating

/-- The quotient rounded to the nearest natural number, a half to the even neighbour. -/
def divNearest (num den : Nat) : Nat :=
  let quotient := num / den
  let rest := num % den
  if 2 * rest < den then quotient
  else if den < 2 * rest then quotient + 1
  else quotient + quotient % 2

/-- The greatest `e` with `2 ^ e ≤ num / den`, for a positive fraction. -/
def floorLog (num den : Nat) : Int :=
  let e : Int := (num.log2 : Int) - den.log2
  if den * twoTo e.toNat ≤ num * twoTo (-e).toNat then e else e - 1

/-- The pattern nearest to a fraction, sign apart: beyond the greatest finite number it is infinity.

Patterns count the numbers of a format in order, so the pattern is the rounded mantissa added to
the steps of all smaller binades, and a mantissa that rounds up to the next binade carries over. -/
def nearestPattern (f : Format) (num den : Nat) : Nat :=
  if num = 0 then 0
  else
    let e := max (floorLog num den - f.fractionBits) f.leastExponent
    let mantissa := divNearest (num * twoTo (-e).toNat) (den * twoTo e.toNat)
    min ((e - f.leastExponent).toNat * twoTo f.fractionBits + mantissa) f.infinity

/-- The number nearest to a signed fraction. -/
def ofFraction {f : Format} (negative : Bool) (num den : Nat) : Floating f :=
  ofUnsigned negative (nearestPattern f num den)

/-- The number nearest to an integer. -/
def ofInt {f : Format} (n : Int) : Floating f :=
  ofFraction (n < 0) n.natAbs 1

/-- The number of another format nearest to a number. -/
def convert {f g : Format} (x : Floating f) : Floating g :=
  match x.magnitude with
  | .finite mantissa exponent =>
    ofFraction x.isNegative (mantissa * twoTo exponent.toNat) (twoTo (-exponent).toNat)
  | .infinite => ofUnsigned x.isNegative g.infinity
  | .nan => ofUnsigned x.isNegative (g.infinity + 1)

end ClassModel.Floating
