import ClassModel.Floating.Format

/-!
# The shortest decimal for a binary number

A finite number of a binary format owns an interval of reals: those that round to it. Its shortest
decimal is the one in that interval with the fewest digits, and of those the nearest to the
number. The search tries one digit, two digits and so on; on each decimal grid only the two
neighbours of the number need a look, since a grid with any point in the interval has one of
these two in it.
-/

namespace ClassModel.Floating

/-- Which way to go when two decimals are equally near. -/
inductive Tie where
  | even
  | up
deriving DecidableEq, Repr

/-- A positive decimal `digits · 10 ^ exponent`. -/
structure Decimal where
  digits : Nat
  exponent : Int
deriving DecidableEq, Repr

/-- A number of the form `value · 2 ^ exponent` with the ends of its interval, on one scale. -/
structure Interval where
  low : Nat
  value : Nat
  high : Nat
  /-- Whether the ends belong to the interval. -/
  closed : Bool
  exponent : Int
deriving DecidableEq, Repr

/-- The interval of the reals that round to `mantissa · 2 ^ exponent`: half a step to each side,
but a quarter step down from the least mantissa of a binade, below which numbers lie closer. -/
def Interval.of (f : Format) (mantissa : Nat) (exponent : Int) : Interval :=
  let narrow := mantissa = twoTo f.fractionBits ∧ f.leastExponent < exponent
  { low := if narrow then 4 * mantissa - 1 else 4 * mantissa - 2
    value := 4 * mantissa
    high := 4 * mantissa + 2
    closed := mantissa % 2 = 0
    exponent := exponent - 2 }

/-- The decimal exponent of the first digit of a positive fraction. -/
def leadingExponent (num den : Nat) : Int :=
  if den ≤ num then (Nat.toDigits 10 (num / den)).length - 1
  else -(Nat.toDigits 10 ((den - 1) / num)).length

/-- The multiple of `10 ^ exponent` in the interval that is nearest to its value, if any. -/
def Interval.onGrid (tie : Tie) (i : Interval) (exponent : Int) : Option Nat :=
  let scale := twoTo i.exponent.toNat * tenTo (-exponent).toNat
  let step := tenTo exponent.toNat * twoTo (-i.exponent).toNat
  let below := i.value * scale / step
  let above := below + 1
  let holdsBelow :=
    if i.closed then i.low * scale ≤ below * step else i.low * scale < below * step
  let holdsAbove :=
    if i.closed then above * step ≤ i.high * scale else above * step < i.high * scale
  match decide (holdsBelow ∧ 0 < below), decide holdsAbove with
  | false, false => none
  | true, false => some below
  | false, true => some above
  | true, true =>
    let down := i.value * scale - below * step
    let up := above * step - i.value * scale
    if down < up then some below
    else if up < down then some above
    else match tie with
      | .up => some above
      | .even => some (below + below % 2)

/-- Tries the grids from the given exponent downward. -/
def Interval.search (tie : Tie) (i : Interval) (exponent : Int) : Nat → Decimal
  | 0 => ⟨i.value, i.exponent⟩
  | tries + 1 =>
    match i.onGrid tie exponent with
    | some digits => ⟨digits, exponent⟩
    | none => i.search tie (exponent - 1) tries

/-- A decimal whose digits do not end in zero: `tries` zeros at most are moved to the exponent. -/
def Decimal.reduce (d : Decimal) : Nat → Decimal
  | 0 => d
  | tries + 1 =>
    if d.digits % 10 = 0 then Decimal.reduce ⟨d.digits / 10, d.exponent + 1⟩ tries else d

/-- The shortest decimal that rounds to the positive number `mantissa · 2 ^ exponent`. Seventeen
digits tell all doubles apart. -/
def shortest (f : Format) (tie : Tie) (mantissa : Nat) (exponent : Int) : Decimal :=
  let lead := leadingExponent (mantissa * twoTo exponent.toNat) (twoTo (-exponent).toNat)
  ((Interval.of f mantissa exponent).search tie lead 17).reduce 17

end ClassModel.Floating
