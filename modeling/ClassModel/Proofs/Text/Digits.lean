import ClassModel.Text.Blank
import ClassModel.Text.Digits
import Mathlib

/-!
# Texts of digits

What decimal digits denote, and which texts are read as integers.

* `Text.natOf_lt` and `Text.eq_of_natOf_eq` — digits of a fixed count denote the numbers below a
  power of ten, each in one way;
* `Text.intOf?_eq_some_iff` — the texts that are read as integers;
* `Text.trim_of_not_isBlank` — without blanks there is nothing to trim;
* `Text.trim_of_digits` — nor with digits at both ends.
-/

namespace ClassModel.Text

/-! ## Digits -/

theorem toNat_of_isDigit {c : Char} (h : c.isDigit) : 48 ≤ c.toNat ∧ c.toNat ≤ 57 := by
  simp only [Char.isDigit, ge_iff_le, Bool.and_eq_true, decide_eq_true_eq,
    UInt32.le_iff_toNat_le] at h
  exact h

theorem isDigits_iff {cs : List Char} : isDigits cs ↔ cs ≠ [] ∧ ∀ c ∈ cs, c.isDigit := by
  simp [isDigits]

theorem isDigit_of_isDigits {cs : List Char} (h : isDigits cs) : ∀ c ∈ cs, c.isDigit :=
  (isDigits_iff.mp h).2

theorem not_isBlank_of_isDigit {c : Char} (h : c.isDigit) : ¬ isBlank c := by
  have hrange := toNat_of_isDigit h
  simp only [isBlank, blanks, Ranges.has, List.any_cons, List.any_nil, Bool.or_eq_true,
    Bool.and_eq_true, decide_eq_true_eq, Bool.false_eq_true, or_false]
  omega

/-- A digit at the end counts once, and all before it ten times. -/
theorem natOf_concat (cs : List Char) (c : Char) :
    natOf (cs ++ [c]) = 10 * natOf cs + (c.toNat - 48) := by
  rw [natOf, natOf, Nat.ofDigitChars_append, Nat.ofDigitChars_cons, Nat.ofDigitChars_nil]
  rfl

theorem natOf_lt {cs : List Char} (h : ∀ c ∈ cs, c.isDigit) : natOf cs < 10 ^ cs.length := by
  induction cs using List.reverseRecOn with
  | nil => decide
  | append_singleton cs c ih =>
    have hlast := toNat_of_isDigit (h c (by simp))
    have hrest := ih fun d hd => h d (List.mem_append_left _ hd)
    rw [natOf_concat, List.length_append, List.length_singleton, Nat.pow_succ]
    omega

/-- As many digits denote a number in one way only. -/
theorem eq_of_natOf_eq {cs ds : List Char} (hcs : ∀ c ∈ cs, c.isDigit) (hds : ∀ d ∈ ds, d.isDigit)
    (hlength : cs.length = ds.length) (h : natOf cs = natOf ds) : cs = ds := by
  induction cs using List.reverseRecOn generalizing ds with
  | nil => exact (List.eq_nil_of_length_eq_zero hlength.symm).symm
  | append_singleton cs c ih =>
    rcases List.eq_nil_or_concat ds with rfl | ⟨ds, d, rfl⟩
    · simp at hlength
    · have hc := toNat_of_isDigit (hcs c (by simp))
      have hd := toNat_of_isDigit (hds d (by simp))
      rw [List.concat_eq_append, natOf_concat, natOf_concat] at h
      -- the last digits are the remainders by ten, and the rest the quotients
      have hlast : c = d := by
        apply Char.toNat_inj.mp
        omega
      have hrest : cs = ds := by
        apply ih
        · exact fun d hd => hcs d (List.mem_append_left _ hd)
        · exact fun d hd => hds d (by simp [hd])
        · simpa using hlength
        · omega
      rw [hrest, hlast, List.concat_eq_append]

/-- A text of some count of digits, and the number they denote. -/
def Digits (count : Nat) (cs : List Char) (n : Nat) : Prop :=
  cs.length = count ∧ isDigits cs ∧ natOf cs = n

theorem Digits.lt {count n : Nat} {cs : List Char} (h : Digits count cs n) : n < 10 ^ count := by
  rcases h with ⟨rfl, hdigits, rfl⟩
  exact natOf_lt (isDigit_of_isDigits hdigits)

/-! ## Integers -/

theorem intOf?_of_isDigits {cs : List Char} (h : isDigits cs) :
    intOf? cs = some (natOf cs : Int) := by
  simp only [intOf?, splitSign_of_isDigits h, h, if_true, signedInt, Bool.false_eq_true, if_false]

theorem splitSign_cases (cs : List Char) :
    (∃ rest, cs = '-' :: rest ∧ splitSign cs = (true, rest)) ∨
      (∃ rest, cs = '+' :: rest ∧ splitSign cs = (false, rest)) ∨ splitSign cs = (false, cs) := by
  unfold splitSign
  split
  · next rest => exact Or.inl ⟨rest, rfl, rfl⟩
  · next rest => exact Or.inr (Or.inl ⟨rest, rfl, rfl⟩)
  · exact Or.inr (Or.inr rfl)

/-- The texts that are read as integers: digits alone, or a sign and digits. -/
theorem intOf?_eq_some_iff {cs : List Char} {n : Int} :
    intOf? cs = some n ↔
      isDigits cs ∧ n = natOf cs ∨
        ∃ digits, isDigits digits ∧ (cs = '+' :: digits ∧ n = natOf digits ∨
          cs = '-' :: digits ∧ n = -natOf digits) := by
  constructor
  · intro h
    have hread : isDigits (splitSign cs).2 ∧
        signedInt (splitSign cs).1 (natOf (splitSign cs).2) = n := by
      simpa [intOf?] using h
    rcases splitSign_cases cs with ⟨rest, hcs, hsplit⟩ | ⟨rest, hcs, hsplit⟩ | hsplit
    · rw [hsplit] at hread
      exact Or.inr ⟨rest, hread.1, Or.inr ⟨hcs, hread.2.symm⟩⟩
    · rw [hsplit] at hread
      exact Or.inr ⟨rest, hread.1, Or.inl ⟨hcs, hread.2.symm⟩⟩
    · rw [hsplit] at hread
      exact Or.inl ⟨hread.1, hread.2.symm⟩
  · rintro (⟨hdigits, rfl⟩ | ⟨digits, hdigits, ⟨rfl, rfl⟩ | ⟨rfl, rfl⟩⟩)
    · exact intOf?_of_isDigits hdigits
    · simp [intOf?, splitSign, hdigits, signedInt]
    · simp [intOf?, splitSign, hdigits, signedInt]

/-! ## Trimming -/

theorem trim_of_not_isBlank {cs : List Char} (h : ∀ c ∈ cs, ¬ isBlank c) : trim cs = cs := by
  have hdrop : ∀ ds : List Char, (∀ c ∈ ds, ¬ isBlank c) → ds.dropWhile isBlank = ds := by
    intro ds hds
    cases ds with
    | nil => rfl
    | cons d rest => exact List.dropWhile_cons_of_neg (hds d List.mem_cons_self)
  have hreverse : ∀ c ∈ cs.reverse, ¬ isBlank c := fun c hc => h c (List.mem_reverse.mp hc)
  rw [trim, trimStart, hdrop cs h, trimEnd, hdrop cs.reverse hreverse, List.reverse_reverse]

/-- A text that starts and ends with a digit has nothing to trim. -/
theorem trim_of_digits {first last : Char} (hfirst : first.isDigit) (hlast : last.isDigit)
    (cs : List Char) : trim (first :: (cs ++ [last])) = first :: (cs ++ [last]) := by
  have hstart : trimStart (first :: (cs ++ [last])) = first :: (cs ++ [last]) :=
    List.dropWhile_cons_of_neg (not_isBlank_of_isDigit hfirst)
  have hreverse : (first :: (cs ++ [last])).reverse = last :: (cs.reverse ++ [first]) := by simp
  rw [trim, hstart, trimEnd, hreverse, List.dropWhile_cons_of_neg (not_isBlank_of_isDigit hlast),
    ← hreverse, List.reverse_reverse]

end ClassModel.Text
