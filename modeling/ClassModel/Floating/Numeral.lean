import ClassModel.Floating.Rounding
import ClassModel.Text.Digits

/-!
# Decimal numerals

A numeral is a decimal fraction `± coefficient · 10 ^ exponent`; its value in a binary format is
the nearest number of the format. A numeral is written with an optional sign, digits with an
optional point, and an optional exponent.
-/

namespace ClassModel.Floating

open ClassModel.Text

/-- The decimal fraction `± coefficient · 10 ^ exponent`. -/
structure Numeral where
  negative : Bool
  coefficient : Nat
  exponent : Int
deriving DecidableEq, Repr

namespace Numeral

/-- The number of a format nearest to a numeral.

With `d` digits in the coefficient the value lies between `10 ^ (exponent + d - 1)` and
`10 ^ (exponent + d)`. Where that settles that it is beyond all finite numbers, or nearer to zero
than to all others, the power of ten is not computed. -/
def toFloating (f : Format) (n : Numeral) : Floating f :=
  let last := n.exponent + (natText n.coefficient).length
  if n.coefficient = 0 then ofUnsigned n.negative 0
  else if twoTo f.exponentBits < last then ofUnsigned n.negative f.infinity
  else if last < f.leastExponent - 1 then ofUnsigned n.negative 0
  else
    ofFraction n.negative (n.coefficient * tenTo n.exponent.toNat) (tenTo (-n.exponent).toNat)

/-- Reads an exponent, the letter and all; nothing stands for zero. -/
def exponentOf? : List Char → Option Int
  | [] => some 0
  | 'e' :: rest | 'E' :: rest => intOf? rest
  | _ => none

/-- Splits off an optional point and the digits after it. -/
def splitFraction : List Char → List Char × List Char
  | '.' :: rest => (rest.takeWhile Char.isDigit, rest.dropWhile Char.isDigit)
  | cs => ([], cs)

/-- Reads a numeral. At least one digit stands before or after the point. -/
def ofText? (cs : List Char) : Option Numeral :=
  let (negative, rest) := splitSign cs
  let whole := rest.takeWhile Char.isDigit
  let (fraction, rest) := splitFraction (rest.dropWhile Char.isDigit)
  if whole.isEmpty && fraction.isEmpty then none
  else
    (exponentOf? rest).map fun exponent =>
      ⟨negative, natOf (whole ++ fraction), exponent - fraction.length⟩

end Numeral

end ClassModel.Floating
