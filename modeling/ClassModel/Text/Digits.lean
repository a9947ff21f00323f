/-!
# Decimal integers

Natural numbers and integers as text, and the reading of integers: an optional sign followed by
one ASCII digit or more.

`intOf?_intText` says that written integers read back.
-/

namespace ClassModel.Text

/-- A natural number in decimal digits. -/
def natText (n : Nat) : List Char := Nat.toDigits 10 n

/-- The number that a list of decimal digits denotes. -/
def natOf (digits : List Char) : Nat := Nat.ofDigitChars 10 digits 0

/-- An integer in decimal digits, with a sign if it is negative. -/
def intText (n : Int) : List Char :=
  if n < 0 then '-' :: natText n.natAbs else natText n.natAbs

/-- Splits off an optional sign: whether it is a minus, and what follows. -/
def splitSign : List Char → Bool × List Char
  | '-' :: rest => (true, rest)
  | '+' :: rest => (false, rest)
  | cs => (false, cs)

/-- Whether a text is made of ASCII digits, at least one. -/
def isDigits (cs : List Char) : Bool := !cs.isEmpty && cs.all Char.isDigit

/-- The integer with a given sign and size. -/
def signedInt (negative : Bool) (size : Nat) : Int := if negative then -size else size

/-- Reads an integer: a sign or none, then digits. -/
def intOf? (cs : List Char) : Option Int :=
  let (negative, digits) := splitSign cs
  if isDigits digits then some (signedInt negative (natOf digits)) else none

theorem natOf_natText (n : Nat) : natOf (natText n) = n :=
  Nat.ofDigitChars_toDigits (by decide) (by decide)

theorem isDigits_natText (n : Nat) : isDigits (natText n) := by
  have hne : natText n ≠ [] := Nat.toDigits_ne_nil
  have hall : ∀ c ∈ natText n, c.isDigit = true := fun _ =>
    Nat.isDigit_of_mem_toDigits (by decide) (by decide)
  simpa [isDigits] using ⟨hne, hall⟩

/-- Digits start with no sign. -/
theorem splitSign_of_isDigits {cs : List Char} (h : isDigits cs) : splitSign cs = (false, cs) := by
  cases cs with
  | nil => rfl
  | cons c rest =>
    have hc : c.isDigit = true := by
      simp only [isDigits, List.isEmpty_cons, Bool.not_false, List.all_cons, Bool.true_and,
        Bool.and_eq_true] at h
      exact h.1
    unfold splitSign
    split
    · next h' => cases h'; simp [Char.isDigit] at hc
    · next h' => cases h'; simp [Char.isDigit] at hc
    · rfl

theorem splitSign_intText (n : Int) :
    splitSign (intText n) = (decide (n < 0), natText n.natAbs) := by
  by_cases h : n < 0
  · simp [intText, splitSign, h]
  · simp [intText, h, splitSign_of_isDigits (isDigits_natText _)]

theorem intOf?_intText (n : Int) : intOf? (intText n) = some n := by
  simp only [intOf?, splitSign_intText, isDigits_natText, natOf_natText, signedInt, if_true,
    Option.some.injEq, decide_eq_true_eq]
  split <;> omega

end ClassModel.Text
