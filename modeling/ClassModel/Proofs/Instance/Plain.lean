import ClassModel.Proofs.Instance.Typing
import ClassModel.Proofs.Text.Digits

/-!
# Values as plain scalars

Every value has a plain scalar that stands for it: the value itself without its type, and of a date
its text. An attribute of the type of the value reads the value back from it.

* `Date.ofText?_trim_text` — a date of four-digit year reads back from its text;
* `Scalar.coerce?_plain` — a value reads back from its plain scalar.

Numbers of single precision are left out: theirs is a number of double precision, and what comes
back is a matter of rounding.
-/

namespace ClassModel

/-! ## Dates -/

namespace Date

open Text

theorem length_padded {count n : Nat} (hcount : 0 < count) (h : n < 10 ^ count) :
    (padded count n).length = count := by
  have hlength : (natText n).length ≤ count := (Nat.length_toDigits_le_iff (by decide) hcount).mpr h
  simp only [padded, List.length_append, List.length_replicate]
  omega

theorem isDigits_padded (count n : Nat) : isDigits (padded count n) := by
  have hne : padded count n ≠ [] := List.append_ne_nil_of_right_ne_nil _ Nat.toDigits_ne_nil
  have hall : ∀ c ∈ padded count n, c.isDigit = true := by
    intro c hc
    rcases List.mem_append.mp hc with hzero | hdigit
    · rw [(List.mem_replicate.mp hzero).2]
      decide
    · exact Nat.isDigit_of_mem_toDigits (by decide) (by decide) hdigit
  simpa [isDigits] using ⟨hne, hall⟩

/-- Zeros before a number do not change it. -/
theorem natOf_padded (count n : Nat) : natOf (padded count n) = n := by
  rw [natOf, padded, Nat.ofDigitChars_append, Nat.ofDigitChars_replicate_zero, Nat.mul_zero]
  exact natOf_natText n

theorem daysInMonth_le (year : Int) (month : Nat) : daysInMonth year month ≤ 31 := by
  unfold daysInMonth
  split
  · split
    · decide
    · decide
  all_goals decide

theorem lt_hundred (d : Date) : d.month < 100 ∧ d.day < 100 := by
  have hmonth := d.isDay.2.1
  have hday := Nat.le_trans d.isDay.2.2.2 (daysInMonth_le d.year d.month)
  omega

/-- A month or a day is written with two digits, and reads back from them. -/
theorem exists_padded_two {n : Nat} (h : n < 100) :
    ∃ first second, padded 2 n = [first, second] ∧ partOf? first second = some n := by
  rcases List.length_eq_two.mp (length_padded (by decide) h) with ⟨first, second, hdigits⟩
  refine ⟨first, second, hdigits, ?_⟩
  rw [partOf?, ← hdigits, if_pos (isDigits_padded 2 n), natOf_padded]

/-- The text of a date with a year of four digits, character by character. -/
theorem text_eq (d : Date) (hyear : 0 ≤ d.year ∧ d.year ≤ 9999) :
    ∃ y₁ y₂ y₃ y₄ m₁ m₂ d₁ d₂, d.text = [y₁, y₂, y₃, y₄, '-', m₁, m₂, '-', d₁, d₂] ∧
      y₁.isDigit ∧ d₂.isDigit ∧ intOf? [y₁, y₂, y₃, y₄] = some d.year ∧
      partOf? m₁ m₂ = some d.month ∧ partOf? d₁ d₂ = some d.day := by
  have hlength : (padded 4 d.year.natAbs).length = 4 := length_padded (by decide) (by omega)
  rcases List.length_eq_four.mp hlength with ⟨y₁, y₂, y₃, y₄, hy⟩
  rcases exists_padded_two d.lt_hundred.1 with ⟨m₁, m₂, hm, hmonthRead⟩
  rcases exists_padded_two d.lt_hundred.2 with ⟨d₁, d₂, hd, hdayRead⟩
  have hyearDigits := isDigits_padded 4 d.year.natAbs
  have hdayDigits := isDigits_padded 2 d.day
  refine ⟨y₁, y₂, y₃, y₄, m₁, m₂, d₁, d₂, ?_, ?_, ?_, ?_, hmonthRead, hdayRead⟩
  · rw [text, yearText, if_pos hyear, hy, hm, hd]
    rfl
  · exact isDigit_of_isDigits hyearDigits y₁ (by simp [hy])
  · exact isDigit_of_isDigits hdayDigits d₂ (by simp [hd])
  · rw [← hy, intOf?_of_isDigits hyearDigits, natOf_padded]
    congr 1
    omega

/-- A date with a year of four digits reads back from its text. -/
theorem ofText?_trim_text (d : Date) (hyear : 0 ≤ d.year ∧ d.year ≤ 9999) :
    ofText? (trim d.text) = some d := by
  rcases text_eq d hyear with
    ⟨y₁, y₂, y₃, y₄, m₁, m₂, d₁, d₂, htext, hfirst, hlast, hyearRead, hmonthRead, hdayRead⟩
  have htrim := trim_of_digits hfirst hlast [y₂, y₃, y₄, '-', m₁, m₂, '-', d₁]
  have hday : of? d.year d.month d.day = some d := by rw [of?, dif_pos d.isDay]
  rw [htext]
  simp only [List.cons_append, List.nil_append] at htrim
  rw [htrim]
  simp only [ofText?, hyearRead, hmonthRead, hdayRead, Option.bind_eq_bind, Option.bind_some, hday]

end Date

/-! ## Values -/

/-- The plain scalar that stands for a value. -/
def Value.plain : Value → Scalar
  | .string value => .text value
  | .short value => .int value.toInt64
  | .integer value => .int value.toInt64
  | .long value => .int value
  | .double value => .float value
  | .float value => .float value.convert
  | .boolean value => .bool value
  | .date value => .text (String.ofList value.text)
  | .any value => value

namespace Scalar

theorem toShort?_plain (value : Int16) : (int value.toInt64).toShort? = some value := by
  have hlow := value.minValue_le_toInt
  have hhigh := value.toInt_le
  simp only [toShort?, toInt?, Option.bind_some, Int16.toInt_toInt64, Int16.toInt16_toInt64]
  rw [if_pos ⟨hlow, hhigh⟩]

theorem toInteger?_plain (value : Int32) : (int value.toInt64).toInteger? = some value := by
  have hlow := value.minValue_le_toInt
  have hhigh := value.toInt_le
  simp only [toInteger?, toInt?, Option.bind_some, Int32.toInt_toInt64, Int32.toInt32_toInt64]
  rw [if_pos ⟨hlow, hhigh⟩]

theorem toDate?_plain (value : Date) (hyear : 0 ≤ value.year ∧ value.year ≤ 9999) :
    (text (String.ofList value.text)).toDate? = some value := by
  rw [toDate?, String.toList_ofList, value.ofText?_trim_text hyear]

/-- An attribute reads a value of its type back from the plain scalar. -/
theorem coerce?_plain {value : Value} (hfinite : value.isFinite)
    (hwide : ∀ x, value ≠ .float x)
    (hyear : ∀ d, value = .date d → 0 ≤ d.year ∧ d.year ≤ 9999) :
    value.plain.coerce? value.type = some value := by
  cases value with
  | string value => rfl
  | short value =>
    show (int value.toInt64).toShort?.map Value.short = _
    rw [toShort?_plain, Option.map_some]
  | integer value =>
    show (int value.toInt64).toInteger?.map Value.integer = _
    rw [toInteger?_plain, Option.map_some]
  | long value => rfl
  | double value =>
    have hnumber : Floating.isFinite value := hfinite
    have hread : (float value).toDouble? = some value :=
      Option.filter_eq_some_iff.mpr ⟨rfl, hnumber⟩
    show (float value).toDouble?.map Value.double = _
    rw [hread, Option.map_some]
  | float value => exact absurd rfl (hwide value)
  | boolean value => rfl
  | date value =>
    show (text (String.ofList value.text)).toDate?.map Value.date = _
    rw [toDate?_plain value (hyear value rfl), Option.map_some]
  | any value => rfl

end Scalar

end ClassModel
