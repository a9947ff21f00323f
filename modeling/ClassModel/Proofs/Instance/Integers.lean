import ClassModel.Instance.Value
import ClassModel.Proofs.Text.Digits

/-!
# Integers from scalars

An attribute of 16, 32 or 64 bits takes an integer from a scalar that is one, and from the text of
one between blanks, if it is in the range of its width. It takes the integer as it is, and a scalar
that it does not take comes back.

* `Scalar.Denotes` — the integer that a scalar is or spells;
* `Scalar.toInt?_eq_some_iff` — an integer of 64 bits is read from the scalars that denote it;
* `Scalar.coerce_eq_ok_iff` — what an attribute of a width takes;
* `Scalar.coerce_integers` — the same for all three widths, with what follows: an integer and its
  text are taken alike, wider types take what narrower ones take, and what is taken reads back from
  its text.
-/

namespace ClassModel

open Text

/-! ## Integers and their texts -/

namespace Text

/-- A text spells an integer: digits, at least one, with a sign before them or without. -/
def Spells (cs : List Char) (n : Int) : Prop :=
  ∃ digits, isDigits digits ∧
    ((cs = digits ∨ cs = '+' :: digits) ∧ n = natOf digits ∨ cs = '-' :: digits ∧ n = -natOf digits)

theorem intOf?_eq_some_iff_spells {cs : List Char} {n : Int} :
    intOf? cs = some n ↔ Spells cs n := by
  rw [intOf?_eq_some_iff]
  constructor
  · rintro (⟨hdigits, hn⟩ | ⟨digits, hdigits, ⟨hcs, hn⟩ | ⟨hcs, hn⟩⟩)
    · exact ⟨cs, hdigits, Or.inl ⟨Or.inl rfl, hn⟩⟩
    · exact ⟨digits, hdigits, Or.inl ⟨Or.inr hcs, hn⟩⟩
    · exact ⟨digits, hdigits, Or.inr ⟨hcs, hn⟩⟩
  · rintro ⟨digits, hdigits, ⟨rfl | hcs, hn⟩ | ⟨hcs, hn⟩⟩
    · exact Or.inl ⟨hdigits, hn⟩
    · exact Or.inr ⟨digits, hdigits, Or.inl ⟨hcs, hn⟩⟩
    · exact Or.inr ⟨digits, hdigits, Or.inr ⟨hcs, hn⟩⟩

/-- A written integer spells itself, and has no blanks. -/
theorem spells_trim_intText (n : Int) : Spells (trim (intText n)) n := by
  have hdigits := isDigit_of_isDigits (isDigits_natText n.natAbs)
  have hblank : ∀ c ∈ intText n, ¬ isBlank c := by
    intro c hc
    by_cases hneg : n < 0
    · rw [intText, if_pos hneg] at hc
      rcases List.mem_cons.mp hc with rfl | hdigit
      · decide
      · exact not_isBlank_of_isDigit (hdigits c hdigit)
    · rw [intText, if_neg hneg] at hc
      exact not_isBlank_of_isDigit (hdigits c hc)
  rw [trim_of_not_isBlank hblank, ← intOf?_eq_some_iff_spells]
  exact intOf?_intText n

end Text

/-- An integer is in the range of a width, in two's complement. -/
def InWidth (bits : Nat) (n : Int) : Prop := -2 ^ (bits - 1) ≤ n ∧ n < 2 ^ (bits - 1)

/-- The width of a type of integers. -/
def ValueType.bits? : ValueType → Option Nat
  | short => some 16
  | integer => some 32
  | long => some 64
  | string | double | float | boolean | date | any => none

/-! ## What a scalar denotes -/

namespace Scalar

/-- The integer that a scalar is, or that its text spells between blanks. -/
inductive Denotes : Scalar → Int → Prop
  | int (value : Int64) : Denotes (.int value) value.toInt
  | text {value : String} {n : Int} (h : Spells (trim value.toList) n) : Denotes (.text value) n

theorem int64?_eq_some_iff {n : Int} {value : Int64} :
    int64? n = some value ↔ value.toInt = n := by
  have hmin : Int64.minValue.toInt = -2 ^ 63 := by decide
  have hmax : Int64.maxValue.toInt = 2 ^ 63 - 1 := by decide
  have hlow := value.minValue_le_toInt
  have hhigh := value.toInt_le
  unfold int64?
  constructor
  · intro h
    split at h
    · next hrange =>
      rw [← Option.some.inj h, Int64.toInt_ofInt_of_le (by omega) (by omega)]
    · simp at h
  · rintro rfl
    rw [if_pos ⟨hlow, hhigh⟩, Int64.ofInt_toInt]

/-- An integer of 64 bits is read from the scalars that denote it. -/
theorem toInt?_eq_some_iff {scalar : Scalar} {value : Int64} :
    scalar.toInt? = some value ↔ scalar.Denotes value.toInt := by
  constructor
  · intro h
    cases scalar with
    | bool b => simp [toInt?] at h
    | float x => simp [toInt?] at h
    | int n =>
      rcases Option.some.inj h with rfl
      exact .int _
    | text s =>
      rcases Option.bind_eq_some_iff.mp h with ⟨n, hread, hwide⟩
      rw [int64?_eq_some_iff.mp hwide]
      exact .text (intOf?_eq_some_iff_spells.mp hread)
  · intro h
    generalize hn : value.toInt = n at h
    cases h with
    | int other => rw [toInt?, Int64.toInt_inj.mp hn]
    | text hspells =>
      rw [toInt?, intOf?_eq_some_iff_spells.mpr hspells, Option.bind_some, int64?_eq_some_iff, hn]

/-- A scalar that is read as an integer denotes no other. -/
theorem Denotes.eq_of_toInt? {scalar : Scalar} {value : Int64} {n : Int}
    (h : scalar.toInt? = some value) (hn : scalar.Denotes n) : value.toInt = n := by
  cases hn with
  | int other => rw [Option.some.inj h]
  | text hspells =>
    rcases Option.bind_eq_some_iff.mp h with ⟨m, hread, hwide⟩
    rw [intOf?_eq_some_iff_spells.mpr hspells] at hread
    rw [Option.some.inj hread, int64?_eq_some_iff.mp hwide]

/-! ## What an attribute of a width takes -/

theorem toInt16_eq_iff {n : Int64} {value : Int16} :
    (Int16.minValue.toInt ≤ n.toInt ∧ n.toInt ≤ Int16.maxValue.toInt) ∧ n.toInt16 = value ↔
      n = value.toInt64 := by
  have hmin : Int16.minValue.toInt = -2 ^ 15 := by decide
  have hmax : Int16.maxValue.toInt = 2 ^ 15 - 1 := by decide
  -- Narrowing takes the balanced remainder, which in the range is the integer itself.
  constructor
  · rintro ⟨hrange, rfl⟩
    rw [← Int64.toInt_inj, Int16.toInt_toInt64, Int64.toInt_toInt16, Int.bmod_eq_of_le]
    · omega
    · omega
  · rintro rfl
    rw [Int16.toInt_toInt64, Int16.toInt16_toInt64]
    exact ⟨⟨value.minValue_le_toInt, value.toInt_le⟩, rfl⟩

theorem toInt32_eq_iff {n : Int64} {value : Int32} :
    (Int32.minValue.toInt ≤ n.toInt ∧ n.toInt ≤ Int32.maxValue.toInt) ∧ n.toInt32 = value ↔
      n = value.toInt64 := by
  have hmin : Int32.minValue.toInt = -2 ^ 31 := by decide
  have hmax : Int32.maxValue.toInt = 2 ^ 31 - 1 := by decide
  constructor
  · rintro ⟨hrange, rfl⟩
    rw [← Int64.toInt_inj, Int32.toInt_toInt64, Int64.toInt_toInt32, Int.bmod_eq_of_le]
    · omega
    · omega
  · rintro rfl
    rw [Int32.toInt_toInt64, Int32.toInt32_toInt64]
    exact ⟨⟨value.minValue_le_toInt, value.toInt_le⟩, rfl⟩

theorem toShort?_eq_some_iff {scalar : Scalar} {value : Int16} :
    scalar.toShort? = some value ↔ scalar.toInt? = some value.toInt64 := by
  simp only [toShort?, Option.bind_eq_some_iff, Option.ite_none_right_eq_some, Option.some.injEq,
    toInt16_eq_iff, exists_eq_right]

theorem toInteger?_eq_some_iff {scalar : Scalar} {value : Int32} :
    scalar.toInteger? = some value ↔ scalar.toInt? = some value.toInt64 := by
  simp only [toInteger?, Option.bind_eq_some_iff, Option.ite_none_right_eq_some,
    Option.some.injEq, toInt32_eq_iff, exists_eq_right]

end Scalar

/-! ## The three widths -/

theorem InWidth.mono {bits more : Nat} {n : Int} (h : InWidth bits n) (hmore : bits ≤ more) :
    InWidth more n := by
  have hpow : (2 : Int) ^ (bits - 1) ≤ 2 ^ (more - 1) :=
    pow_le_pow_right₀ (by decide) (Nat.sub_le_sub_right hmore 1)
  rcases h with ⟨hlow, hhigh⟩
  exact ⟨by omega, by omega⟩

/-- The values of a type are made of words of a width, each of which is an integer of 64 bits. -/
structure ValueType.MadeOf {α : Type} (type : ValueType) (bits : Nat) (make : α → Value)
    (wide : α → Int64) : Prop where
  values : ∀ value : Value, value.type = type ↔ ∃ a, make a = value
  int? : ∀ a, (make a).int? = some (wide a)
  range : ∀ n : Int, (∃ a, (wide a).toInt = n) ↔ InWidth bits n

namespace ValueType

theorem short_madeOf : short.MadeOf 16 Value.short Int16.toInt64 where
  values value := by cases value <;> simp [Value.type]
  int? _ := rfl
  range n := by
    constructor
    · rintro ⟨a, rfl⟩
      rw [Int16.toInt_toInt64]
      exact ⟨a.le_toInt, a.toInt_lt⟩
    · rintro ⟨hlow, hhigh⟩
      exact ⟨.ofInt n, by rw [Int16.toInt_toInt64, Int16.toInt_ofInt_of_le hlow hhigh]⟩

theorem integer_madeOf : integer.MadeOf 32 Value.integer Int32.toInt64 where
  values value := by cases value <;> simp [Value.type]
  int? _ := rfl
  range n := by
    constructor
    · rintro ⟨a, rfl⟩
      rw [Int32.toInt_toInt64]
      exact ⟨a.le_toInt, a.toInt_lt⟩
    · rintro ⟨hlow, hhigh⟩
      exact ⟨.ofInt n, by rw [Int32.toInt_toInt64, Int32.toInt_ofInt_of_le hlow hhigh]⟩

theorem long_madeOf : long.MadeOf 64 Value.long id where
  values value := by cases value <;> simp [Value.type]
  int? _ := rfl
  range n := by
    constructor
    · rintro ⟨a, rfl⟩
      exact ⟨a.le_toInt, a.toInt_lt⟩
    · rintro ⟨hlow, hhigh⟩
      exact ⟨.ofInt n, Int64.toInt_ofInt_of_le hlow hhigh⟩

namespace MadeOf

variable {α : Type} {type : ValueType} {bits : Nat} {make : α → Value} {wide : α → Int64}

theorem exists_int?_iff (h : type.MadeOf bits make wide) (n : Int) :
    (∃ value : Value, value.type = type ∧ ∃ i, value.int? = some i ∧ i.toInt = n) ↔
      InWidth bits n := by
  rw [← h.range]
  constructor
  · rintro ⟨value, hvalue, i, hint, hn⟩
    rcases (h.values value).mp hvalue with ⟨a, rfl⟩
    rw [h.int?, Option.some.injEq] at hint
    exact ⟨a, hint ▸ hn⟩
  · rintro ⟨a, hn⟩
    exact ⟨make a, (h.values _).mpr ⟨a, rfl⟩, wide a, h.int? a, hn⟩

/-- What is read as a word of the width is read as the integer that it is. -/
theorem map_eq_some_iff (h : type.MadeOf bits make wide) {narrow : Option α} {read : Option Int64}
    (hnarrow : ∀ a, narrow = some a ↔ read = some (wide a)) {value : Value} :
    narrow.map make = some value ↔
      value.type = type ∧ ∃ i, value.int? = some i ∧ read = some i := by
  rw [Option.map_eq_some_iff]
  constructor
  · rintro ⟨a, ha, rfl⟩
    exact ⟨(h.values _).mpr ⟨a, rfl⟩, wide a, h.int? a, (hnarrow a).mp ha⟩
  · rintro ⟨hvalue, i, hint, hread⟩
    rcases (h.values value).mp hvalue with ⟨a, rfl⟩
    rw [h.int?, Option.some.injEq] at hint
    exact ⟨a, (hnarrow a).mpr (hint ▸ hread), rfl⟩

end MadeOf

end ValueType

/-! ## What an attribute of a width takes -/

variable {type : ValueType} {bits : Nat}

theorem Value.exists_int?_iff (htype : type.bits? = some bits) (n : Int) :
    (∃ value : Value, value.type = type ∧ ∃ i, value.int? = some i ∧ i.toInt = n) ↔
      InWidth bits n := by
  cases type with
  | short => exact Option.some.inj htype ▸ ValueType.short_madeOf.exists_int?_iff n
  | integer => exact Option.some.inj htype ▸ ValueType.integer_madeOf.exists_int?_iff n
  | long => exact Option.some.inj htype ▸ ValueType.long_madeOf.exists_int?_iff n
  | string | double | float | boolean | date | any => simp [ValueType.bits?] at htype

namespace Scalar

/-- An attribute of a width takes a scalar as the value of its type that is the integer read. -/
theorem coerce?_eq_some_iff (htype : type.bits? = some bits) {scalar : Scalar} {value : Value} :
    scalar.coerce? type = some value ↔
      value.type = type ∧ ∃ i, value.int? = some i ∧ scalar.toInt? = some i := by
  cases type with
  | short => exact ValueType.short_madeOf.map_eq_some_iff fun _ => toShort?_eq_some_iff
  | integer => exact ValueType.integer_madeOf.map_eq_some_iff fun _ => toInteger?_eq_some_iff
  | long => exact ValueType.long_madeOf.map_eq_some_iff fun _ => Iff.rfl
  | string | double | float | boolean | date | any => simp [ValueType.bits?] at htype

theorem coerce_eq_ok_iff (htype : type.bits? = some bits) {scalar : Scalar} {value : Value} :
    scalar.coerce type = .ok value ↔
      value.type = type ∧ ∃ i, value.int? = some i ∧ scalar.toInt? = some i := by
  rw [← coerce?_eq_some_iff htype, coerce]
  cases scalar.coerce? type <;> simp

theorem coerce_eq_error {scalar refused : Scalar} (h : scalar.coerce type = .error refused) :
    refused = scalar := by
  unfold coerce at h
  split at h
  · simp at h
  · exact (Except.error.inj h).symm

/-- A scalar is taken if it denotes an integer in the range of the width. -/
theorem exists_coerce_iff (htype : type.bits? = some bits) (scalar : Scalar) :
    (∃ value, scalar.coerce type = .ok value) ↔ ∃ n, scalar.Denotes n ∧ InWidth bits n := by
  simp only [coerce_eq_ok_iff htype, ← Value.exists_int?_iff htype, toInt?_eq_some_iff]
  constructor
  · rintro ⟨value, hvalue, i, hint, hread⟩
    exact ⟨i.toInt, hread, value, hvalue, i, hint, rfl⟩
  · rintro ⟨_, hread, value, hvalue, i, hint, rfl⟩
    exact ⟨value, hvalue, i, hint, hread⟩

theorem toInt?_text_intText (n : Int64) :
    (text (String.ofList (intText n.toInt))).toInt? = some n := by
  rw [toInt?_eq_some_iff]
  refine .text ?_
  rw [String.toList_ofList]
  exact spells_trim_intText n.toInt

/-- What an attribute of 16, 32 or 64 bits takes. It takes the scalars that denote an integer in the
range of its width, each as that integer, and gives every other scalar back as it is. So an integer
and its text are taken alike, a wider attribute takes what a narrower one takes, and what is taken
reads back from its text. -/
theorem coerce_integers (type : ValueType) (bits : Nat) (htype : type.bits? = some bits) :
    (∀ scalar : Scalar,
      (∃ v, scalar.coerce type = .ok v) ↔ ∃ n, scalar.Denotes n ∧ InWidth bits n) ∧
    (∀ (scalar : Scalar) (v : Value) (n : Int), scalar.coerce type = .ok v → scalar.Denotes n →
      v.type = type ∧ v.int?.map Int64.toInt = some n) ∧
    (∀ scalar refused : Scalar, scalar.coerce type = .error refused → refused = scalar) ∧
    (∀ (n : Int64) (v : Value), (int n).coerce type = .ok v ↔
      (text (String.ofList (intText n.toInt))).coerce type = .ok v) ∧
    (∀ (wider : ValueType) (more : Nat), wider.bits? = some more → bits ≤ more →
      ∀ (scalar : Scalar) (v : Value), scalar.coerce type = .ok v →
        ∃ w, scalar.coerce wider = .ok w ∧ w.int? = v.int?) ∧
    ∀ (scalar : Scalar) (v : Value) (n : Int64), scalar.coerce type = .ok v → v.int? = some n →
      (text (String.ofList (intText n.toInt))).coerce type = .ok v := by
  refine ⟨exists_coerce_iff htype, ?exact, fun _ _ => coerce_eq_error, ?alike, ?wider, ?back⟩
  case exact =>
    intro scalar v n htaken hdenotes
    rcases (coerce_eq_ok_iff htype).mp htaken with ⟨hvalue, i, hint, hread⟩
    refine ⟨hvalue, ?_⟩
    rw [hint, Option.map_some, hdenotes.eq_of_toInt? hread]
  case alike =>
    intro n v
    rw [coerce_eq_ok_iff htype, coerce_eq_ok_iff htype, toInt?_text_intText, toInt?]
  case wider =>
    intro wider more hwider hmore scalar v htaken
    rcases (coerce_eq_ok_iff htype).mp htaken with ⟨hvalue, i, hint, hread⟩
    have hrange : InWidth bits i.toInt :=
      (Value.exists_int?_iff htype i.toInt).mp ⟨v, hvalue, i, hint, rfl⟩
    rcases (Value.exists_int?_iff hwider i.toInt).mpr (hrange.mono hmore) with
      ⟨w, hw, j, hj, hsame⟩
    rw [Int64.toInt_inj] at hsame
    subst hsame
    exact ⟨w, (coerce_eq_ok_iff hwider).mpr ⟨hw, j, hj, hread⟩, hj.trans hint.symm⟩
  case back =>
    intro scalar v n htaken hn
    rcases (coerce_eq_ok_iff htype).mp htaken with ⟨hvalue, -⟩
    exact (coerce_eq_ok_iff htype).mpr ⟨hvalue, n, hn, toInt?_text_intText n⟩

/-- The least integer of 16 bits is taken from a text with zeros before it, by the narrow attribute
and the wide one, and reads back from its own text; the least that is too great comes back. -/
theorem coerce_integers_edges :
    ValueType.short.bits? = some 16 ∧ ValueType.long.bits? = some 64 ∧
      (text "\t-00032768 ").coerce .short = .ok (.short (-32768)) ∧
      (∃ w, (text "\t-00032768 ").coerce .long = .ok w ∧ w.int? = some (-32768)) ∧
      (text "-32768").coerce .short = .ok (.short (-32768)) ∧
      ¬ ∃ n, (text "32768").Denotes n ∧ InWidth 16 n := by
  have htaken : (text "\t-00032768 ").coerce .short = .ok (.short (-32768)) := by decide
  have hrefused : (text "32768").coerce .short = .error (text "32768") := by decide
  have htext : String.ofList (intText (Int16.toInt64 (-32768)).toInt) = "-32768" := by decide
  rcases coerce_integers .short 16 rfl with ⟨htakes, -, -, -, hwider, hback⟩
  have hread := hback _ _ (Int16.toInt64 (-32768)) htaken rfl
  rw [htext] at hread
  refine ⟨rfl, rfl, htaken, hwider .long 64 rfl (by decide) _ _ htaken, hread, ?_⟩
  rw [← htakes]
  rintro ⟨v, hv⟩
  rw [hrefused] at hv
  simp at hv

end Scalar

end ClassModel
