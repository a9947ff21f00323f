import ClassModel.Proofs.Instance.Plain

/-!
# The texts of dates

A date is written in calendar form: four digits, two digits and two digits, with dashes between.
The texts from which a date attribute takes a date are these and some more, since a year may spend
its first digit on a sign, and a month or a day its first digit on a blank.

* `Date.CalendarForm` and `Date.Accepted` — the two forms;
* `Date.ofText?_eq_some_iff` — the accepted texts are those from which a date is read;
* `Date.calendarForm_iff` — of the accepted texts, those in calendar form are the ones that a date
  is written as;
* `Scalar.coerce?_date_iff` — what a date attribute takes, and when that is the calendar form.
-/

namespace ClassModel

open Text

/-! ## The two forms -/

namespace Date

/-- Four digits that denote a year. -/
def FourDigits (cs : List Char) (year : Int) : Prop := ∃ n, Digits 4 cs n ∧ year = n

/-- A sign and three digits that denote a year. -/
def SignedYear (cs : List Char) (year : Int) : Prop :=
  ∃ digits n, Digits 3 digits n ∧ (cs = '+' :: digits ∧ year = n ∨ cs = '-' :: digits ∧ year = -n)

/-- An ASCII blank and a digit that denotes a month or a day. -/
def BlankLed (cs : List Char) (n : Nat) : Prop :=
  ∃ blank digit, cs = [blank, digit] ∧ isBlank blank ∧ blank.toNat < 0x80 ∧ digit.isDigit ∧
    natOf [digit] = n

/-- A text is made of three parts with dashes between, that denote the year, the month and the day
of a date. -/
def InParts (ofYear : List Char → Int → Prop) (ofPart : List Char → Nat → Prop) (cs : List Char)
    (d : Date) : Prop :=
  ∃ year month day, cs = year ++ '-' :: month ++ '-' :: day ∧
    ofYear year d.year ∧ ofPart month d.month ∧ ofPart day d.day

/-- The calendar form of a date: four digits, two digits and two digits with dashes between. -/
def CalendarForm : List Char → Date → Prop := InParts FourDigits (Digits 2)

/-- The texts from which a date is taken. -/
def Accepted : List Char → Date → Prop :=
  InParts (fun cs year => FourDigits cs year ∨ SignedYear cs year)
    fun cs n => Digits 2 cs n ∨ BlankLed cs n

/-! ## Parts -/

theorem FourDigits.length_eq {cs : List Char} {year : Int} (h : FourDigits cs year) :
    cs.length = 4 := by
  rcases h with ⟨n, ⟨hlength, -⟩, -⟩
  exact hlength

theorem SignedYear.length_eq {cs : List Char} {year : Int} (h : SignedYear cs year) :
    cs.length = 4 := by
  rcases h with ⟨digits, n, ⟨hlength, -⟩, ⟨rfl, -⟩ | ⟨rfl, -⟩⟩
  · rw [List.length_cons, hlength]
  · rw [List.length_cons, hlength]

theorem BlankLed.length_eq {cs : List Char} {n : Nat} (h : BlankLed cs n) : cs.length = 2 := by
  rcases h with ⟨blank, digit, rfl, -⟩
  rfl

/-- A year is read from four characters: digits, or a sign and digits. -/
theorem intOf?_year {cs : List Char} (hlength : cs.length = 4) {year : Int} :
    intOf? cs = some year ↔ FourDigits cs year ∨ SignedYear cs year := by
  rw [intOf?_eq_some_iff]
  constructor
  · rintro (⟨hdigits, rfl⟩ | ⟨digits, hdigits, hsign⟩)
    · exact Or.inl ⟨natOf cs, ⟨hlength, hdigits, rfl⟩, rfl⟩
    · right
      have hthree : digits.length = 3 := by
        rcases hsign with ⟨rfl, -⟩ | ⟨rfl, -⟩
        · simpa using hlength
        · simpa using hlength
      exact ⟨digits, natOf digits, ⟨hthree, hdigits, rfl⟩, hsign⟩
  · rintro (⟨n, ⟨-, hdigits, rfl⟩, rfl⟩ | ⟨digits, n, ⟨-, hdigits, rfl⟩, hsign⟩)
    · exact Or.inl ⟨hdigits, rfl⟩
    · exact Or.inr ⟨digits, hdigits, hsign⟩

/-- A month or a day is read from two characters: digits, or a blank and a digit. -/
theorem partOf?_eq_some_iff {first second : Char} {n : Nat} :
    partOf? first second = some n ↔
      Digits 2 [first, second] n ∨ BlankLed [first, second] n := by
  unfold partOf?
  by_cases hdigits : isDigits [first, second]
  · have hfirst := isDigit_of_isDigits hdigits first List.mem_cons_self
    have hblank : ¬ BlankLed [first, second] n := by
      rintro ⟨blank, digit, heq, hblank, -⟩
      rw [← (List.cons.inj heq).1] at hblank
      exact not_isBlank_of_isDigit hfirst hblank
    simp [hdigits, hblank, Digits]
  · have hnot : ¬ Digits 2 [first, second] n := by
      rintro ⟨-, hdigits', -⟩
      exact hdigits hdigits'
    rw [if_neg hdigits, or_iff_right hnot]
    constructor
    · intro h
      split at h
      · next hparts =>
        rcases hparts with ⟨hblank, hascii, hdigit⟩
        exact ⟨first, second, rfl, hblank, hascii, hdigit, Option.some.inj h⟩
      · simp at h
    · rintro ⟨blank, digit, heq, hblank, hascii, hdigit, rfl⟩
      simp only [List.cons.injEq, and_true] at heq
      rcases heq with ⟨rfl, rfl⟩
      rw [if_pos ⟨hblank, hascii, hdigit⟩]

/-! ## Reading -/

theorem of?_eq_some_iff {year : Int} {month day : Nat} {d : Date} :
    of? year month day = some d ↔ d.year = year ∧ d.month = month ∧ d.day = day := by
  unfold of?
  constructor
  · intro h
    split at h
    · rcases Option.some.inj h with rfl
      exact ⟨rfl, rfl, rfl⟩
    · simp at h
  · rintro ⟨rfl, rfl, rfl⟩
    rw [dif_pos d.isDay]

/-- Reading looks for the dashes first, and then reads the parts between them. -/
theorem ofText?_parts {cs : List Char} {d : Date} :
    ofText? cs = some d ↔ ∃ y₁ y₂ y₃ y₄ m₁ m₂ d₁ d₂,
      cs = [y₁, y₂, y₃, y₄, '-', m₁, m₂, '-', d₁, d₂] ∧ intOf? [y₁, y₂, y₃, y₄] = some d.year ∧
        partOf? m₁ m₂ = some d.month ∧ partOf? d₁ d₂ = some d.day := by
  constructor
  · intro h
    unfold ofText? at h
    split at h
    · next y₁ y₂ y₃ y₄ m₁ m₂ d₁ d₂ =>
      rcases Option.bind_eq_some_iff.mp h with ⟨year, hyear, hmonths⟩
      rcases Option.bind_eq_some_iff.mp hmonths with ⟨month, hmonth, hdays⟩
      rcases Option.bind_eq_some_iff.mp hdays with ⟨day, hday, hdate⟩
      rcases of?_eq_some_iff.mp hdate with ⟨rfl, rfl, rfl⟩
      exact ⟨y₁, y₂, y₃, y₄, m₁, m₂, d₁, d₂, rfl, hyear, hmonth, hday⟩
    · simp at h
  · rintro ⟨y₁, y₂, y₃, y₄, m₁, m₂, d₁, d₂, rfl, hyear, hmonth, hday⟩
    simp only [ofText?, hyear, hmonth, hday, Option.bind_eq_bind, Option.bind_some]
    exact of?_eq_some_iff.mpr ⟨rfl, rfl, rfl⟩

/-- A date is read from the accepted texts and from no others. -/
theorem ofText?_eq_some_iff {cs : List Char} {d : Date} : ofText? cs = some d ↔ Accepted cs d := by
  rw [ofText?_parts]
  constructor
  -- the dashes stand where the lengths of the parts put them
  · rintro ⟨y₁, y₂, y₃, y₄, m₁, m₂, d₁, d₂, rfl, hyear, hmonth, hday⟩
    exact ⟨[y₁, y₂, y₃, y₄], [m₁, m₂], [d₁, d₂], rfl, (intOf?_year rfl).mp hyear,
      partOf?_eq_some_iff.mp hmonth, partOf?_eq_some_iff.mp hday⟩
  · rintro ⟨year, month, day, rfl, hyear, hmonth, hday⟩
    have hyearLength : year.length = 4 := hyear.elim FourDigits.length_eq SignedYear.length_eq
    have hmonthLength : month.length = 2 := hmonth.elim And.left BlankLed.length_eq
    have hdayLength : day.length = 2 := hday.elim And.left BlankLed.length_eq
    rcases List.length_eq_four.mp hyearLength with ⟨y₁, y₂, y₃, y₄, rfl⟩
    rcases List.length_eq_two.mp hmonthLength with ⟨m₁, m₂, rfl⟩
    rcases List.length_eq_two.mp hdayLength with ⟨d₁, d₂, rfl⟩
    exact ⟨y₁, y₂, y₃, y₄, m₁, m₂, d₁, d₂, rfl, (intOf?_year rfl).mpr hyear,
      partOf?_eq_some_iff.mpr hmonth, partOf?_eq_some_iff.mpr hday⟩

/-! ## Writing -/

/-- Digits are written again as they are. -/
theorem padded_of_digits {count n : Nat} {cs : List Char} (hcount : 0 < count)
    (h : Digits count cs n) : padded count n = cs := by
  have hlt := h.lt
  rcases h with ⟨hlength, hdigits, hn⟩
  have hcs := isDigit_of_isDigits hdigits
  apply eq_of_natOf_eq (isDigit_of_isDigits (isDigits_padded count n)) hcs
  · rw [length_padded hcount hlt, hlength]
  · rw [natOf_padded, hn]

theorem digits_padded {count n : Nat} (hcount : 0 < count) (h : n < 10 ^ count) :
    Digits count (padded count n) n :=
  ⟨length_padded hcount h, isDigits_padded count n, natOf_padded count n⟩

/-- A date in calendar form is written as it stands. -/
theorem CalendarForm.text_eq {cs : List Char} {d : Date} (h : CalendarForm cs d) : d.text = cs := by
  rcases h with ⟨year, month, day, rfl, ⟨n, hyear, hn⟩, hmonth, hday⟩
  have hlt := hyear.lt
  have hrange : 0 ≤ d.year ∧ d.year ≤ 9999 := by omega
  have hnat : d.year.natAbs = n := by omega
  rw [text, yearText, if_pos hrange, hnat, padded_of_digits (by decide) hyear,
    padded_of_digits (by decide) hmonth, padded_of_digits (by decide) hday, List.append_assoc]

/-- A date with a year of four digits is written in calendar form. -/
theorem calendarForm_text {d : Date} (hyear : 0 ≤ d.year ∧ d.year ≤ 9999) :
    CalendarForm d.text d := by
  rcases d.lt_hundred with ⟨hmonth, hday⟩
  refine ⟨padded 4 d.year.natAbs, padded 2 d.month, padded 2 d.day, ?_, ?_, ?_, ?_⟩
  · rw [text, yearText, if_pos hyear, List.append_assoc]
  · exact ⟨d.year.natAbs, digits_padded (by decide) (by omega), by omega⟩
  · exact digits_padded (by decide) hmonth
  · exact digits_padded (by decide) hday

theorem CalendarForm.accepted {cs : List Char} {d : Date} (h : CalendarForm cs d) :
    Accepted cs d := by
  rcases h with ⟨year, month, day, hcs, hyear, hmonth, hday⟩
  exact ⟨year, month, day, hcs, Or.inl hyear, Or.inl hmonth, Or.inl hday⟩

theorem Accepted.length_eq {cs : List Char} {d : Date} (h : Accepted cs d) : cs.length = 10 := by
  rcases ofText?_parts.mp (ofText?_eq_some_iff.mpr h) with ⟨_, _, _, _, _, _, _, _, rfl, -⟩
  rfl

/-- The year of an accepted text has four digits at most, and three after a sign. -/
theorem Accepted.year_range {cs : List Char} {d : Date} (h : Accepted cs d) :
    -999 ≤ d.year ∧ d.year ≤ 9999 := by
  rcases h with ⟨year, month, day, -, ⟨n, hdigits, hn⟩ | ⟨digits, n, hdigits, hsign⟩, -, -⟩
  · have hlt := hdigits.lt
    omega
  · have hlt := hdigits.lt
    rcases hsign with ⟨-, hplus⟩ | ⟨-, hminus⟩
    · omega
    · omega

/-- A date before the year 0 is written with one character more. -/
theorem length_text_of_neg {d : Date} (hlow : -9999 ≤ d.year) (hneg : d.year < 0) :
    d.text.length = 11 := by
  have hout : ¬ (0 ≤ d.year ∧ d.year ≤ 9999) := by omega
  have hyearLength : (padded 4 d.year.natAbs).length = 4 := length_padded (by decide) (by omega)
  have hmonthLength : (padded 2 d.month).length = 2 := length_padded (by decide) d.lt_hundred.1
  have hdayLength : (padded 2 d.day).length = 2 := length_padded (by decide) d.lt_hundred.2
  rw [text, yearText, if_neg hout, if_pos hneg]
  simp [hyearLength, hmonthLength, hdayLength]

/-- Of the accepted texts, those in calendar form are the ones that the date is written as. -/
theorem calendarForm_iff {cs : List Char} {d : Date} :
    CalendarForm cs d ↔ Accepted cs d ∧ d.text = cs := by
  constructor
  · intro h
    exact ⟨h.accepted, h.text_eq⟩
  · rintro ⟨haccepted, htext⟩
    rcases haccepted.year_range with ⟨hlow, hhigh⟩
    have hyear : 0 ≤ d.year := by
      by_contra hneg
      -- the sign goes before four digits, which makes the text too long
      have hlonger := length_text_of_neg (by omega) (show d.year < 0 by omega)
      rw [htext, haccepted.length_eq] at hlonger
      omega
    rw [← htext]
    exact calendarForm_text ⟨hyear, hhigh⟩

/-- An accepted text without a sign at its start and without blanks is in calendar form. -/
theorem Accepted.calendarForm {cs : List Char} {d : Date} (h : Accepted cs d)
    (hplus : cs.head? ≠ some '+') (hminus : cs.head? ≠ some '-') (hblank : ∀ c ∈ cs, ¬ isBlank c) :
    CalendarForm cs d := by
  rcases h with ⟨year, month, day, rfl, hyear, hmonth, hday⟩
  refine ⟨year, month, day, rfl, ?_, ?_, ?_⟩
  · rcases hyear with hdigits | ⟨digits, n, -, ⟨rfl, -⟩ | ⟨rfl, -⟩⟩
    · exact hdigits
    · simp at hplus
    · simp at hminus
  · rcases hmonth with hdigits | ⟨blank, digit, rfl, hled, -⟩
    · exact hdigits
    · exact absurd hled (hblank blank (by simp))
  · rcases hday with hdigits | ⟨blank, digit, rfl, hled, -⟩
    · exact hdigits
    · exact absurd hled (hblank blank (by simp))

end Date

namespace Scalar

theorem coerce?_date_eq_some {s : String} {value : Value} :
    (text s).coerce? .date = some value ↔
      ∃ d, value = .date d ∧ Date.Accepted (trim s.toList) d := by
  have hcoerce : (text s).coerce? .date = (Date.ofText? (trim s.toList)).map Value.date := rfl
  rw [hcoerce, Option.map_eq_some_iff]
  simp only [Date.ofText?_eq_some_iff]
  constructor
  · rintro ⟨d, haccepted, rfl⟩
    exact ⟨d, rfl, haccepted⟩
  · rintro ⟨d, rfl, haccepted⟩
    exact ⟨d, haccepted, rfl⟩

/-- A text that is taken but not given back is not in calendar form. -/
theorem not_calendarForm_of_text_ne {s : String} {d : Date}
    (h : (text s).coerce? .date = some (.date d)) (hne : d.text ≠ trim s.toList) :
    ¬ ∃ d', Date.CalendarForm (trim s.toList) d' := by
  rintro ⟨d', hform⟩
  have hsame : some (Value.date d) = some (Value.date d') :=
    h.symm.trans (coerce?_date_eq_some.mpr ⟨d', rfl, hform.accepted⟩)
  rcases Value.date.inj (Option.some.inj hsame) with rfl
  exact hne hform.text_eq

/-- What a date attribute takes of a text without the blanks at its ends. It takes every date in
calendar form, and gives it back as that text; and it takes no other text, except that the year may
have a sign for its first digit and the month and the day a blank for theirs. What it takes beyond
the calendar form is given back as another text. -/
theorem coerce?_date_iff (s : String) :
    (∀ d, Date.CalendarForm (trim s.toList) d → (text s).coerce? .date = some (.date d) ∧
      d.text = trim s.toList ∧ (Value.date d).json = .text (String.ofList (trim s.toList))) ∧
    (∀ v, (text s).coerce? .date = some v ↔
      ∃ d, v = .date d ∧ Date.Accepted (trim s.toList) d) ∧
    (∀ d, Date.CalendarForm (trim s.toList) d ↔
      Date.Accepted (trim s.toList) d ∧ d.text = trim s.toList) ∧
    ((trim s.toList).head? ≠ some '+' → (trim s.toList).head? ≠ some '-' →
      (∀ c ∈ trim s.toList, ¬ isBlank c) →
        (((text s).coerce? .date).isSome ↔ ∃ d, Date.CalendarForm (trim s.toList) d)) := by
  refine ⟨?_, ?_, ?_, ?_⟩
  · intro d h
    refine ⟨coerce?_date_eq_some.mpr ⟨d, rfl, h.accepted⟩, h.text_eq, ?_⟩
    rw [Value.json, h.text_eq]
  · intro v
    exact coerce?_date_eq_some
  · intro d
    exact Date.calendarForm_iff
  · intro hplus hminus hblank
    rw [Option.isSome_iff_exists]
    constructor
    · rintro ⟨v, hv⟩
      rcases coerce?_date_eq_some.mp hv with ⟨d, -, haccepted⟩
      exact ⟨d, haccepted.calendarForm hplus hminus hblank⟩
    · rintro ⟨d, h⟩
      exact ⟨.date d, coerce?_date_eq_some.mpr ⟨d, rfl, h.accepted⟩⟩

/-- The last day of a February that has one more is taken between blanks, and given back without
them; in the year before there is no such day. -/
theorem coerce?_date_iff_leapDay :
    Date.CalendarForm (trim "\t2024-02-29 ".toList) ⟨2024, 2, 29, by decide⟩ ∧
      (text "\t2024-02-29 ").coerce? .date = some (.date ⟨2024, 2, 29, by decide⟩) ∧
      (trim "2023-02-29".toList).head? ≠ some '+' ∧ (trim "2023-02-29".toList).head? ≠ some '-' ∧
      (∀ c ∈ trim "2023-02-29".toList, ¬ isBlank c) ∧
      ¬ ∃ d, Date.CalendarForm (trim "2023-02-29".toList) d := by
  have htext : (⟨2024, 2, 29, by decide⟩ : Date).text = trim "\t2024-02-29 ".toList := by decide
  have hform : Date.CalendarForm (trim "\t2024-02-29 ".toList) ⟨2024, 2, 29, by decide⟩ := by
    rw [← htext]
    exact Date.calendarForm_text (by decide)
  rcases coerce?_date_iff "\t2024-02-29 " with ⟨htakes, -, -, -⟩
  rcases coerce?_date_iff "2023-02-29" with ⟨-, -, -, hexact⟩
  have hplus : (trim "2023-02-29".toList).head? ≠ some '+' := by decide
  have hminus : (trim "2023-02-29".toList).head? ≠ some '-' := by decide
  have htrim : trim "2023-02-29".toList = ['2', '0', '2', '3', '-', '0', '2', '-', '2', '9'] := by
    decide
  have hblank : ∀ c ∈ trim "2023-02-29".toList, ¬ isBlank c := by
    rw [htrim]
    simp [isBlank, blanks, Ranges.has]
  refine ⟨hform, (htakes _ hform).1, hplus, hminus, hblank, ?_⟩
  rw [← hexact hplus hminus hblank]
  decide

/-- A month and a day with a blank for the first digit are taken, and so is a year with a sign,
though neither text is in calendar form. -/
theorem date_taken_beyond_calendarForm :
    (text "2024- 1- 1").coerce? .date = some (.date ⟨2024, 1, 1, by decide⟩) ∧
      (¬ ∃ d, Date.CalendarForm (trim "2024- 1- 1".toList) d) ∧
      (text "+123-01-01").coerce? .date = some (.date ⟨123, 1, 1, by decide⟩) ∧
      ¬ ∃ d, Date.CalendarForm (trim "+123-01-01".toList) d := by
  have hblank : (text "2024- 1- 1").coerce? .date = some (.date ⟨2024, 1, 1, by decide⟩) := by
    decide
  have hsign : (text "+123-01-01").coerce? .date = some (.date ⟨123, 1, 1, by decide⟩) := by
    decide
  exact ⟨hblank, not_calendarForm_of_text_ne hblank (by decide), hsign,
    not_calendarForm_of_text_ne hsign (by decide)⟩

end Scalar

end ClassModel
