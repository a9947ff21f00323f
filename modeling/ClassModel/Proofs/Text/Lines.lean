import ClassModel.Json.Writer
import ClassModel.Proofs.Instance.Plain

/-!
# Lines

A text has one line more than it has line feeds, and texts that are joined by line feeds keep the
lines that they have. Numbers, dates and compact JSON are written on one line, since what is
written of a string in JSON has its line feeds escaped.

* `Text.lines`, `Text.lineFeeds` — the lines of a text, and what parts them;
* `Text.lines_intercalate` — the lines of texts that are joined by line feeds;
* `Json.not_mem_compact` — a compact text is one line.
-/

namespace ClassModel

namespace Text

/-- The lines of a text. -/
def lines (s : String) : List String := (s.toList.splitOn '\n').map String.ofList

/-- The number of line feeds in a text. -/
def lineFeeds (s : String) : Nat := s.toList.count '\n'

/-- A text without line feeds. -/
def OneLine (s : String) : Prop := '\n' ∉ s.toList

instance (s : String) : Decidable (OneLine s) := inferInstanceAs (Decidable ('\n' ∉ s.toList))

variable {s : String}

theorem lineFeeds_eq_zero : lineFeeds s = 0 ↔ OneLine s := List.count_eq_zero

@[simp] theorem lineFeeds_append (s t : String) :
    lineFeeds (s ++ t) = lineFeeds s + lineFeeds t := by
  simp [lineFeeds]

theorem lineFeeds_ofList {cs : List Char} (h : '\n' ∉ cs) : lineFeeds (String.ofList cs) = 0 := by
  rw [lineFeeds, String.toList_ofList]
  exact List.count_eq_zero.mpr h

theorem length_lines (s : String) : (lines s).length = lineFeeds s + 1 := by
  rw [lines, List.length_map, lineFeeds, List.splitOn_eq_splitOnP]
  induction s.toList with
  | nil => rfl
  | cons c rest ih =>
    rw [List.splitOnP_cons_eq_if_modifyHead, List.count_cons]
    by_cases hc : c = '\n'
    · simp [hc, ih]
    · simp [hc, ih]

theorem lines_of_oneLine (h : OneLine s) : lines s = [s] := by
  rw [lines, List.splitOn_eq_singleton h, List.map_singleton, String.ofList_toList]

/-- Texts that are joined by line feeds keep their lines. -/
theorem lines_intercalate {texts : List String} (h : texts ≠ []) :
    lines (String.intercalate "\n" texts) = texts.flatMap lines := by
  induction texts with
  | nil => exact absurd rfl h
  | cons first rest ih =>
    cases rest with
    | nil => simp
    | cons next others =>
      have hjoined : (String.intercalate "\n" (first :: next :: others)).toList =
          first.toList ++ '\n' :: (String.intercalate "\n" (next :: others)).toList := by
        simp [String.toList_intercalate]
      rw [List.flatMap_cons, ← ih (by simp), lines, lines, lines, hjoined, ← List.map_append]
      simp only [List.splitOn_eq_splitOnP]
      rw [List.splitOnP_append_cons _ _ (by decide)]

/-! ## Numbers -/

theorem ne_lineFeed_of_isDigit {c : Char} (h : c.isDigit) : c ≠ '\n' := by
  rintro rfl
  exact absurd h (by decide)

theorem not_mem_of_isDigits {cs : List Char} (h : isDigits cs) : '\n' ∉ cs := by
  intro hmem
  exact ne_lineFeed_of_isDigit (isDigit_of_isDigits h _ hmem) rfl

@[simp] theorem not_mem_natText (n : Nat) : '\n' ∉ natText n :=
  not_mem_of_isDigits (isDigits_natText n)

@[simp] theorem not_mem_intText (n : Int) : '\n' ∉ intText n := by
  unfold intText
  split
  · simp
  · simp

end Text

theorem Date.not_mem_text (d : Date) : '\n' ∉ d.text := by
  have hpadded : ∀ count n, '\n' ∉ padded count n := fun count n =>
    Text.not_mem_of_isDigits (isDigits_padded count n)
  have hyear : '\n' ∉ yearText d.year := by
    unfold yearText
    split
    · exact hpadded 4 _
    · split
      · simp [hpadded]
      · simp [hpadded]
  simp [text, hpadded, hyear]

namespace Floating.Layout

open ClassModel.Text

variable {layout : Layout}

theorem not_mem_place (hwhole : '\n' ∉ layout.wholeEnd) {digits : List Char} (h : '\n' ∉ digits)
    (exponent : Int) : '\n' ∉ layout.place digits exponent := by
  have htake : ∀ n, '\n' ∉ digits.take n := fun n hmem => h (List.mem_of_mem_take hmem)
  have hdrop : ∀ n, '\n' ∉ digits.drop n := fun n hmem => h (List.mem_of_mem_drop hmem)
  simp only [place]
  split
  · simp [h, hwhole]
  · split
    · simp [htake, hdrop]
    · simp [h]

theorem not_mem_scientific {digits : List Char} (h : '\n' ∉ digits) (lead : Int) :
    '\n' ∉ scientific digits lead := by
  have htake : '\n' ∉ digits.take 1 := fun hmem => h (List.mem_of_mem_take hmem)
  have htail : '\n' ∉ digits.tail := fun hmem => h (List.mem_of_mem_tail hmem)
  have hmark : '\n' ≠ if lead < 0 then '-' else '+' := by
    split
    · decide
    · decide
  simp [scientific, htake, htail, hmark]

theorem not_mem_decimal (hwhole : '\n' ∉ layout.wholeEnd) (d : Decimal) :
    '\n' ∉ layout.decimal d := by
  simp only [decimal]
  split
  · exact not_mem_place hwhole (not_mem_natText d.digits) d.exponent
  · exact not_mem_scientific (not_mem_natText d.digits) _

/-- A number is written on one line if the words of the layout are. -/
theorem not_mem_text (hwhole : '\n' ∉ layout.wholeEnd) (hnan : '\n' ∉ layout.nan)
    (hinfinity : ∀ negative, '\n' ∉ layout.infinity negative) {f : Format} (x : Floating f) :
    '\n' ∉ layout.text x := by
  have hfinite : ∀ d, '\n' ∉ (if x.isNegative then ['-'] else []) ++ layout.decimal d := by
    intro d
    refine List.not_mem_append ?_ (not_mem_decimal hwhole d)
    split
    · simp
    · simp
  unfold text
  cases x.magnitude with
  | nan => exact hnan
  | infinite => exact hinfinity x.isNegative
  | finite mantissa exponent =>
    cases mantissa with
    | zero => exact hfinite _
    | succ mantissa => exact hfinite _

end Floating.Layout

/-! ## JSON -/

namespace Json

theorem not_mem_escape (c : Char) : '\n' ∉ escape c := by
  have hdigit : ∀ n, '\n' ≠ hexDigit n := by
    intro n
    have hall : ∀ d < 16, '\n' ≠ Nat.digitChar d := by decide
    exact hall (n % 16) (Nat.mod_lt n (by decide))
  unfold escape
  split
  case h_8 =>
    split
    · simp [hdigit]
    · next hcontrol =>
      rw [List.mem_singleton]
      rintro rfl
      exact hcontrol (by decide)
  all_goals decide

theorem not_mem_quote (s : String) : '\n' ∉ quote s := by
  simp [quote, not_mem_escape]

theorem not_mem_numberText (least greatest : Int) {f : Floating.Format} (x : Floating f) :
    '\n' ∉ (numberLayout least greatest).text x :=
  Floating.Layout.not_mem_text (by simp [numberLayout]) (by simp [numberLayout])
    (by simp [numberLayout]) x

mutual

/-- A compact text is one line. -/
theorem not_mem_compact : ∀ value : Json, '\n' ∉ compact value
  | .null => by simp [compact]
  | .bool true => by simp [compact]
  | .bool false => by simp [compact]
  | .int n => by simp [compact]
  | .double x => by rw [compact]; exact not_mem_numberText (-5) 15 x
  | .single x => by rw [compact]; exact not_mem_numberText (-6) 12 x
  | .text s => by simpa [compact] using not_mem_quote s
  | .list items => by simp [compact, not_mem_compactItems items]
  | .object members => by simp [compact, not_mem_compactMembers members]

theorem not_mem_compactItems : ∀ items : List Json, '\n' ∉ compactItems items
  | [] => by simp [compactItems]
  | [item] => by simpa [compactItems] using not_mem_compact item
  | item :: next :: rest => by
    simp [compactItems, not_mem_compact item, not_mem_compactItems (next :: rest)]

theorem not_mem_compactMembers : ∀ members : List (String × Json), '\n' ∉ compactMembers members
  | [] => by simp [compactMembers]
  | [(name, value)] => by simp [compactMembers, not_mem_quote name, not_mem_compact value]
  | (name, value) :: next :: rest => by
    simp [compactMembers, not_mem_quote name, not_mem_compact value,
      not_mem_compactMembers (next :: rest)]

end

end Json

end ClassModel
