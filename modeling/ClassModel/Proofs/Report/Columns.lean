import ClassModel.Report.Description
import Mathlib.Data.List.Forall2

/-!
# Columns of a described class

The fields of a described class stand in columns. A column is as wide as its longest entry in UTF-8,
and its entries are filled up with blanks to as many characters. These are two measures: an entry
may have fewer characters than bytes, never more, so no entry is wider than its column, whatever
texts the names and kinds are.

* `Report.length_le_columnWidth` — an entry fits its column;
* `Report.InColumns` — a line shows a field with its kind and its type at given offsets;
* `Report.fields_aligned` — there are two offsets for all the lines of a table.
-/

namespace ClassModel

/-- A character is one byte at least. -/
theorem length_le_utf8ByteSize (text : String) : text.length ≤ text.utf8ByteSize := by
  have hchars : ∀ cs : List Char, cs.length ≤ (String.ofList cs).utf8ByteSize := by
    intro cs
    induction cs with
    | nil => exact Nat.zero_le _
    | cons c rest ih =>
      have hsplit : String.ofList (c :: rest) = String.singleton c ++ String.ofList rest := by
        rw [String.singleton_eq_ofList, ← String.ofList_append, List.singleton_append]
      have hpos := c.utf8Size_pos
      rw [hsplit, String.utf8ByteSize_append, String.utf8ByteSize_singleton, List.length_cons]
      omega
  have htext := hchars text.toList
  rwa [String.length_toList, String.ofList_toList] at htext

namespace Report

/-- Blanks, as many as given. -/
def blanks (count : Nat) : String := String.ofList (List.replicate count ' ')

theorem length_blanks (count : Nat) : (blanks count).length = count := by
  simp [blanks]

/-- A column is as wide as any of its entries. -/
theorem length_le_columnWidth {entries : List String} {entry : String} (h : entry ∈ entries) :
    entry.length ≤ columnWidth entries := by
  have hfold : ∀ (rest : List String) (width : Nat),
      width ≤ rest.foldl (fun width entry => max width entry.utf8ByteSize) width ∧
        ∀ entry ∈ rest, entry.utf8ByteSize ≤
          rest.foldl (fun width entry => max width entry.utf8ByteSize) width := by
    intro rest
    induction rest with
    | nil => simp
    | cons first rest ih =>
      intro width
      rcases ih (max width first.utf8ByteSize) with ⟨hwidth, hrest⟩
      rw [List.foldl_cons, List.forall_mem_cons]
      exact ⟨Nat.le_trans (Nat.le_max_left _ _) hwidth,
        Nat.le_trans (Nat.le_max_right _ _) hwidth, hrest⟩
  exact Nat.le_trans (length_le_utf8ByteSize entry) ((hfold entries 0).2 entry h)

/-- What stands behind the type of a field: the field that points back, and the class that declares
the field where it is not the one described. -/
def fieldEnd (described : String) (field : FieldSummary) : String :=
  (match field.reverse with
    | none => ""
    | some reverse => " <-> " ++ reverse) ++
  if field.declaredIn = described then "" else "  [from " ++ field.declaredIn ++ "]"

/-- A line shows a field in columns: its name in full, its kind from one offset on and its type from
another one, with two blanks or more before each of them. Offsets count characters. -/
def InColumns (kindAt typeAt : Nat) (described : String) (field : FieldSummary) (line : String) :
    Prop :=
  ∃ nameGap kindGap, 2 ≤ nameGap ∧ 2 ≤ kindGap ∧
    line = "  " ++ field.name ++ blanks nameGap ++ field.kind ++ blanks kindGap ++
      field.typeName ++ fieldEnd described field ∧
    ("  " ++ field.name ++ blanks nameGap).length = kindAt ∧
    ("  " ++ field.name ++ blanks nameGap ++ field.kind ++ blanks kindGap).length = typeAt

/-- A text filled up to a width has blanks behind it. -/
theorem padded_append (width : Nat) (text : String) :
    padded width text ++ "  " = text ++ blanks (width - text.length + 2) := by
  have hblanks : blanks (width - text.length + 2) = blanks (width - text.length) ++ "  " := by
    rw [blanks, blanks, List.replicate_add, String.ofList_append]
    rfl
  rw [padded, hblanks, String.append_assoc]
  rfl

theorem fieldLine_eq (nameWidth kindWidth : Nat) (described : String) (field : FieldSummary) :
    fieldLine nameWidth kindWidth described field =
      "  " ++ field.name ++ blanks (nameWidth - field.name.length + 2) ++ field.kind ++
        blanks (kindWidth - field.kind.length + 2) ++ field.typeName ++
        fieldEnd described field := by
  have hend : fieldLine nameWidth kindWidth described field =
      "  " ++ (padded nameWidth field.name ++ "  ") ++ (padded kindWidth field.kind ++ "  ") ++
        field.typeName ++ fieldEnd described field := by
    simp only [fieldLine, fieldEnd, String.append_assoc]
    rfl
  rw [hend, padded_append, padded_append]
  simp only [String.append_assoc]

/-- A name or a kind that fits its column is filled up to the width of the column and two more. -/
theorem fieldLine_inColumns {nameWidth kindWidth : Nat} {field : FieldSummary}
    (hname : field.name.length ≤ nameWidth) (hkind : field.kind.length ≤ kindWidth)
    (described : String) :
    InColumns (2 + nameWidth + 2) (2 + nameWidth + 2 + kindWidth + 2) described field
      (fieldLine nameWidth kindWidth described field) := by
  have hindent : "  ".length = 2 := by decide
  refine ⟨nameWidth - field.name.length + 2, kindWidth - field.kind.length + 2, by omega, by omega,
    fieldLine_eq nameWidth kindWidth described field, ?_, ?_⟩
  · simp only [String.length_append, length_blanks, hindent]
    omega
  · simp only [String.length_append, length_blanks, hindent]
    omega

/-- The lines of the fields have their columns at the same offsets, which the widths settle. -/
theorem fieldLines_inColumns (d : Description) :
    ∃ kindAt typeAt : Nat,
      List.Forall₂ (InColumns kindAt typeAt d.name) d.fields (fieldLines d) := by
  let nameWidth := columnWidth (d.fields.map FieldSummary.name)
  let kindWidth := columnWidth (d.fields.map FieldSummary.kind)
  refine ⟨2 + nameWidth + 2, 2 + nameWidth + 2 + kindWidth + 2, ?_⟩
  rw [fieldLines, List.forall₂_map_right_iff, List.forall₂_same]
  intro field hfield
  have hname : field.name.length ≤ nameWidth :=
    length_le_columnWidth (List.mem_map_of_mem hfield)
  have hkind : field.kind.length ≤ kindWidth :=
    length_le_columnWidth (List.mem_map_of_mem hfield)
  exact fieldLine_inColumns hname hkind d.name

/-- Behind six lines about the class and one that counts the fields, the table has one line for each
field, in order; and there are two offsets, the same for all these lines, at which the kinds and the
types of the fields stand. -/
theorem fields_aligned (d : Description) (hfields : d.fields ≠ []) :
    ∃ head rows, ∃ kindAt typeAt : Nat,
      (ofDescription d).table =
        String.intercalate "\n" (head ++ ("Fields (" ++ count d.fields.length ++ "):") :: rows) ∧
      head.length = 6 ∧ List.Forall₂ (InColumns kindAt typeAt d.name) d.fields rows := by
  have hlines : ∃ head, head.length = 6 ∧ (ofDescription d).lines =
      head ++ ("Fields (" ++ count d.fields.length ++ "):") :: fieldLines d := by
    simp only [ofDescription, if_neg hfields]
    exact ⟨_, rfl, rfl⟩
  rcases hlines with ⟨head, hlength, hlines⟩
  rcases fieldLines_inColumns d with ⟨kindAt, typeAt, hrows⟩
  exact ⟨head, fieldLines d, kindAt, typeAt, by rw [table, hlines], hlength, hrows⟩

/-- A class with names and kinds whose characters take one byte to four. -/
def measures : Description where
  name := "Maß"
  qualifier := none
  parents := []
  ancestors := ["Maß", "量"]
  subclasses := []
  fields := [⟨"größe", "attribute", "int", "Maß", none⟩, ⟨"", "", "𝔸", "量", none⟩,
    ⟨"数量", "référence", "量", "量", some "Maße"⟩]

/-- The columns are as wide as `größe` and `référence` in UTF-8, two characters more than these
have. -/
theorem fields_aligned_measures :
    measures.fields ≠ [] ∧
      fieldLines measures = ["  größe    attribute    int", "                        𝔸  [from 量]",
        "  数量       référence    量 <-> Maße  [from 量]"] ∧
      ∃ head rows, ∃ kindAt typeAt : Nat,
        (ofDescription measures).table =
          String.intercalate "\n" (head ++ ("Fields (" ++ count 3 ++ "):") :: rows) ∧
        head.length = 6 ∧ List.Forall₂ (InColumns kindAt typeAt "Maß") measures.fields rows :=
  have hfields : measures.fields ≠ [] := by decide
  ⟨hfields, by decide +kernel, fields_aligned measures hfields⟩

end Report

end ClassModel
