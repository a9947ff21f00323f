import ClassModel.Text.Blank
import ClassModel.Text.Digits

/-!
# Calendar dates

Days of the proleptic Gregorian calendar, which has a year 0 and years before it.
-/

namespace ClassModel

/-- Whether a year has a 29th of February. -/
def isLeapYear (year : Int) : Bool := year % 4 = 0 && (year % 100 ≠ 0 || year % 400 = 0)

/-- The number of days in a month. -/
def daysInMonth (year : Int) (month : Nat) : Nat :=
  match month with
  | 2 => if isLeapYear year then 29 else 28
  | 4 | 6 | 9 | 11 => 30
  | _ => 31

/-- Whether the calendar has a day. -/
def IsDay (year : Int) (month day : Nat) : Prop :=
  1 ≤ month ∧ month ≤ 12 ∧ 1 ≤ day ∧ day ≤ daysInMonth year month

instance (year : Int) (month day : Nat) : Decidable (IsDay year month day) :=
  inferInstanceAs (Decidable (_ ∧ _))

/-- A day of the calendar. -/
structure Date where
  year : Int
  month : Nat
  day : Nat
  isDay : IsDay year month day
deriving DecidableEq, Repr

namespace Date

open ClassModel.Text

/-- A number with zeros before it up to a count of digits. -/
def padded (count : Nat) (n : Nat) : List Char :=
  List.replicate (count - (natText n).length) '0' ++ natText n

/-- A year has four digits at least, and a sign unless it lies in 0 to 9999. -/
def yearText (year : Int) : List Char :=
  if 0 ≤ year ∧ year ≤ 9999 then padded 4 year.natAbs
  else (if year < 0 then '-' else '+') :: padded 4 year.natAbs

/-- The date as year, month and day with dashes between. -/
def text (d : Date) : List Char :=
  yearText d.year ++ '-' :: padded 2 d.month ++ '-' :: padded 2 d.day

/-- The date with given numbers, if there is such a day. -/
def of? (year : Int) (month day : Nat) : Option Date :=
  if h : IsDay year month day then some ⟨year, month, day, h⟩ else none

/-- A month or a day of two characters: two digits, or an ASCII blank and a digit. -/
def partOf? (first second : Char) : Option Nat :=
  if isDigits [first, second] then some (natOf [first, second])
  else if isBlank first ∧ first.toNat < 0x80 ∧ second.isDigit then some (natOf [second])
  else none

/-- Reads a date from ten characters with dashes in the fifth and the eighth place. The year may
spend its first character on a sign. -/
def ofText? (cs : List Char) : Option Date :=
  match cs with
  | [y₁, y₂, y₃, y₄, '-', m₁, m₂, '-', d₁, d₂] => do
    let year ← intOf? [y₁, y₂, y₃, y₄]
    let month ← partOf? m₁ m₂
    let day ← partOf? d₁ d₂
    of? year month day
  | _ => none

end Date

end ClassModel
