import ClassModel.Floating.Shortest
import ClassModel.Text.Digits

/-!
# Decimal text of floating-point numbers

A layout fixes what the shortest decimal leaves open: which exponents are written positionally,
whether a whole number keeps a fraction, which of two equally near decimals is taken, and the words
for what is not a finite number.
-/

namespace ClassModel.Floating

open ClassModel.Text

/-- The choices that make a decimal notation for floating-point numbers. -/
structure Layout where
  tie : Tie
  /-- The exponents of the first digit that are written positionally; none stands for all. -/
  positional : Option (Int × Int)
  /-- What follows the digits of a whole number written positionally. -/
  wholeEnd : List Char
  nan : List Char
  /-- The word for infinity, by sign. -/
  infinity : Bool → List Char

namespace Layout

/-- Digits with the point where the exponent of the last digit puts it. -/
def place (layout : Layout) (digits : List Char) (exponent : Int) : List Char :=
  if 0 ≤ exponent then digits ++ List.replicate exponent.toNat '0' ++ layout.wholeEnd
  else
    let places := (-exponent).toNat
    if places < digits.length then
      digits.take (digits.length - places) ++ '.' :: digits.drop (digits.length - places)
    else '0' :: '.' :: List.replicate (places - digits.length) '0' ++ digits

/-- Digits with a point after the first and the exponent of that one. -/
def scientific (digits : List Char) (lead : Int) : List Char :=
  let mark := if lead < 0 then '-' else '+'
  let fraction := if digits.length ≤ 1 then [] else '.' :: digits.drop 1
  digits.take 1 ++ fraction ++ 'e' :: mark :: natText lead.natAbs

/-- Whether a first digit of this exponent is written positionally. -/
def isPositional (layout : Layout) (lead : Int) : Bool :=
  match layout.positional with
  | none => true
  | some (least, greatest) => least ≤ lead && lead ≤ greatest

/-- A decimal in the layout. -/
def decimal (layout : Layout) (d : Decimal) : List Char :=
  let digits := natText d.digits
  let lead := d.exponent + (digits.length - 1)
  if layout.isPositional lead then layout.place digits d.exponent else scientific digits lead

/-- A floating-point number in the layout. -/
def text (layout : Layout) {f : Format} (x : Floating f) : List Char :=
  let sign := if x.isNegative then ['-'] else []
  match x.magnitude with
  | .nan => layout.nan
  | .infinite => layout.infinity x.isNegative
  | .finite 0 _ => sign ++ layout.decimal ⟨0, 0⟩
  | .finite mantissa exponent => sign ++ layout.decimal (shortest f layout.tie mantissa exponent)

/-- The plain layout: no exponent and no fraction for a whole number. Of two nearest decimals the
larger is taken. -/
def plain : Layout where
  tie := .up
  positional := none
  wholeEnd := []
  nan := "NaN".toList
  infinity := fun negative => if negative then "-inf".toList else "inf".toList

end Layout

end ClassModel.Floating
