import ClassModel.Floating.Power

/-!
# Binary floating-point numbers

A number in a binary interchange format of IEEE 754, held as its bit pattern: a sign, a field of
`exponentBits` and a field of `fractionBits`. A finite pattern stands for
`± mantissa · 2 ^ exponent`, and everything else here is read off these two integers.
-/

namespace ClassModel

namespace Floating

/-- The widths that make a binary format. -/
structure Format where
  fractionBits : Nat
  exponentBits : Nat
deriving DecidableEq, Repr

namespace Format

/-- The 64-bit format. -/
def double : Format := ⟨52, 11⟩

/-- The 32-bit format. -/
def single : Format := ⟨23, 8⟩

/-- The number of bits below the sign. -/
abbrev magnitudeBits (f : Format) : Nat := f.fractionBits + f.exponentBits

/-- The number of bits of a pattern. -/
abbrev width (f : Format) : Nat := f.magnitudeBits + 1

/-- The exponent `e` of the least positive number `2 ^ e`. -/
def leastExponent (f : Format) : Int := 2 - twoTo (f.exponentBits - 1) - f.fractionBits

/-- The pattern of positive infinity. -/
def infinity (f : Format) : Nat := (twoTo f.exponentBits - 1) * twoTo f.fractionBits

end Format

end Floating

open Floating (Format)

/-- A number of a binary format, by its bit pattern. -/
structure Floating (f : Format) where
  bits : BitVec f.width
deriving DecidableEq, Repr

/-- A double-precision number. -/
abbrev Double := Floating Format.double

/-- A single-precision number. -/
abbrev Single := Floating Format.single

namespace Floating

variable {f : Format}

/-- What a pattern without its sign stands for. -/
inductive Magnitude where
  | finite (mantissa : Nat) (exponent : Int)
  | infinite
  | nan
deriving DecidableEq, Repr

/-- Whether the sign bit is set. -/
def isNegative (x : Floating f) : Bool := x.bits.msb

/-- The pattern without its sign. -/
def unsigned (x : Floating f) : Nat := x.bits.toNat % twoTo f.magnitudeBits

/-- What the pattern stands for, sign apart. -/
def magnitude (x : Floating f) : Magnitude :=
  let field := x.unsigned / twoTo f.fractionBits
  let fraction := x.unsigned % twoTo f.fractionBits
  if field = twoTo f.exponentBits - 1 then
    if fraction = 0 then .infinite else .nan
  else if field = 0 then .finite fraction f.leastExponent
  else .finite (twoTo f.fractionBits + fraction) (f.leastExponent + (field - 1))

/-- Whether the number is neither infinite nor a NaN. -/
def isFinite (x : Floating f) : Bool := x.unsigned < f.infinity

/-- Whether the pattern is a NaN. -/
def isNaN (x : Floating f) : Bool := f.infinity < x.unsigned

/-- Whether the number is zero, of either sign. -/
def isZero (x : Floating f) : Bool := x.unsigned = 0

/-- The number with a given sign and pattern below it. -/
def ofUnsigned (negative : Bool) (pattern : Nat) : Floating f :=
  ⟨BitVec.ofNat _ (pattern + if negative then twoTo f.magnitudeBits else 0)⟩

/-- Equality as numbers: a NaN equals nothing, and the two zeros are equal. -/
def numEq (x y : Floating f) : Bool :=
  !x.isNaN && !y.isNaN && (x = y || (x.isZero && y.isZero))

end Floating

end ClassModel
