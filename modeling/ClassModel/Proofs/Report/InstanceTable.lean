import ClassModel.Proofs.Model.FieldViews
import ClassModel.Proofs.Model.Naming
import ClassModel.Proofs.Report.Outline
import ClassModel.Proofs.Text.Lines

/-!
# Tables of instances

The table of an instance is a headline, an empty line and the outline of the instance. Names,
numbers, truth values and dates are shown on one line, and so is any value of an untyped attribute,
whose text is escaped. The text of a text attribute is only put in quotes: where it has line feeds,
its row goes on to further lines, which can look like rows.

* `Report.lineFeeds_valueText` — the line feeds in what is shown of a value;
* `Outline.lineFeeds_text` — the line feeds in a row;
* `Report.lines_table` — the lines of the table, and when there is one for each row;
* `Report.text_forges_line` — a text that looks like a field more.
-/

namespace ClassModel

open Outline

/-- No name of a model has a line feed. -/
structure Model.NamesOneLine (m : Model) : Prop where
  classes : ∀ cls ∈ m.classes, Text.OneLine cls.name
  fields : ∀ cls ∈ m.classes, ∀ field ∈ cls.ownFields, Text.OneLine field.name
  qualifier : ∀ q, m.qualifier = some q → Text.OneLine q

/-- The line feeds in what a field holds itself: those of a text. -/
def Slot.lineFeeds : Slot → Nat
  | .attr (.string text) => Text.lineFeeds text
  | _ => 0

/-- The line feeds in the texts of an instance and of the objects in it. -/
def Instance.lineFeeds (i : Instance) : Nat :=
  (i.parts.map fun part => (part.fields.map fun entry => entry.2.lineFeeds).sum).sum

/-- No text attribute of an instance, or of an object in it, has a line feed. -/
def Instance.TextsOneLine (i : Instance) : Prop :=
  ∀ part ∈ i.parts, ∀ name text, (name, Slot.attr (.string text)) ∈ part.fields →
    Text.OneLine text

/-- The first line of the table of an instance. -/
def Report.headline (b : Built) : String :=
  if b.built.className = b.requested then s!"Instance of {b.built.className}"
  else s!"Instance of {b.built.className} (requested {b.requested})"

/-! ## Values -/

theorem Slot.lineFeeds_eq_zero {held : Slot} :
    held.lineFeeds = 0 ↔ ∀ text, held = .attr (.string text) → Text.OneLine text := by
  unfold lineFeeds
  split
  · simp [Text.lineFeeds_eq_zero]
  · next hother =>
    simp only [true_iff]
    intro text heq
    exact absurd heq (hother text)

theorem Instance.lineFeeds_eq_zero {i : Instance} : i.lineFeeds = 0 ↔ i.TextsOneLine := by
  simp only [lineFeeds, List.sum_eq_zero_iff, List.forall_mem_map, Slot.lineFeeds_eq_zero]
  constructor
  · intro h part hpart name text hentry
    exact h part hpart _ hentry text rfl
  · rintro h part hpart ⟨name, held⟩ hentry text rfl
    exact h part hpart name text hentry

/-- The value of an attribute is shown on one line, but for the line feeds of a text. -/
theorem Report.lineFeeds_valueText (value : Value) :
    Text.lineFeeds (valueText value) = (Slot.attr value).lineFeeds := by
  cases value with
  | string text =>
    have hquote : Text.lineFeeds "\"" = 0 := by decide
    simp [valueText, Slot.lineFeeds, hquote]
  | date value => exact Text.lineFeeds_ofList value.not_mem_text
  | short _ | integer _ | long _ | double _ | float _ | boolean _ | any _ =>
    exact Text.lineFeeds_ofList (Json.not_mem_compact _)

@[simp] theorem Report.lineFeeds_count (n : Nat) : Text.lineFeeds (count n) = 0 :=
  Text.lineFeeds_ofList (Text.not_mem_natText n)

/-! ## Names -/

/-- The name of a visible field is that of an own field of some class. -/
theorem Model.NamesOneLine.of_field? {m : Model} (hnames : m.NamesOneLine) (hm : m.Sound)
    {cls : Class} (hcls : cls ∈ m.classes) {name : String} {field : Field}
    (hfield : m.field? cls name = some field) : Text.OneLine name := by
  rw [hm.field?_eq_findSome? hcls] at hfield
  rcases List.exists_of_findSome?_eq_some hfield with ⟨owner, howner, hown⟩
  have hname : field.name = name := by simpa using List.find?_some hown
  rw [← hname]
  exact hnames.fields owner (hm.mem_of_mem_classesAt howner) field (List.mem_of_find?_eq_some hown)

/-- A name that finds a class is its name, up to a namespace put before it or taken off. -/
theorem Model.NamesOneLine.of_class? {m : Model} (hnames : m.NamesOneLine) (hm : m.Sound)
    {name : String} {cls : Class} (hcls : m.class? name = some cls) : Text.OneLine name := by
  have hmem := hm.mem_of_class? hcls
  have hname := Text.lineFeeds_eq_zero.mpr (hnames.classes cls hmem)
  have hqualified : ∀ q short, Text.lineFeeds (Names.qualified q short) =
      Text.lineFeeds q + Text.lineFeeds short := by
    intro q short
    have hdot : Text.lineFeeds "." = 0 := by decide
    simp [Names.qualified, hdot]
  rw [← Text.lineFeeds_eq_zero]
  rcases (hm.class?_eq_some_iff hmem).mp hcls with heq | ⟨-, q, hq, hlong | ⟨-, hshort⟩⟩
  · rwa [← heq]
  · rw [hlong, hqualified] at hname
    exact (Nat.add_eq_zero_iff.mp hname).2
  · have hq' := Text.lineFeeds_eq_zero.mpr (hnames.qualifier q hq)
    rw [hshort, hqualified, hq', hname]

theorem Model.NamesOneLine.of_wellTyped {m : Model} (hnames : m.NamesOneLine) {i : Instance}
    (hi : i.WellTyped m) : Text.lineFeeds i.className = 0 := by
  rcases hi.exists_typedAs with ⟨cls, htyped⟩
  rw [htyped.name]
  exact Text.lineFeeds_eq_zero.mpr (hnames.classes cls htyped.mem)

namespace Outline

/-! ## Rows of well-typed instances -/

/-- The objects at a node are well typed. -/
def Node.Typed (m : Model) : Node → Prop
  | .object i => i.WellTyped m
  | .slot held => ∀ i ∈ held.objects, i.WellTyped m

/-- The line feeds in what a row shows of its node. -/
def Node.lineFeeds : Node → Nat
  | .object _ => 0
  | .slot held => held.lineFeeds

/-- A branch to a field has no line feed in its name. -/
def Branch.OneLine : Branch → Prop
  | .field name => Text.OneLine name
  | .item _ => True

theorem Branch.OneLine.lineFeeds_label {branch : Branch} (h : branch.OneLine) :
    Text.lineFeeds branch.label = 0 := by
  cases branch with
  | field name =>
    have hname : Text.lineFeeds name = 0 := Text.lineFeeds_eq_zero.mpr h
    have hcolon : Text.lineFeeds ": " = 0 := by decide
    simp [label, hname, hcolon]
  | item index =>
    have hopen : Text.lineFeeds "[" = 0 := by decide
    have hclose : Text.lineFeeds "] " = 0 := by decide
    simp [label, hopen, hclose]

namespace Node.Typed

variable {m : Model} {node : Node}

theorem inOrder (h : node.Typed m) (hm : m.Sound) : node.InOrder := by
  have hfields : ∀ i : Instance, i.WellTyped m → (Node.object i).InOrder := by
    intro i hi
    rcases hi.exists_typedAs with ⟨cls, htyped⟩
    rw [InOrder, branches, List.pairwise_map]
    exact htyped.rising hm
  cases node with
  | object i => exact hfields i h
  | slot held =>
    cases held with
    | unset => exact .nil
    | attr value => exact .nil
    | reference i => exact hfields i (h i (List.mem_singleton_self i))
    | collection items =>
      have hindices : (items.zipIdx.map Prod.snd).Pairwise (· < ·) := by
        rw [List.zipIdx_map_snd]
        exact List.pairwise_lt_range'
      rw [InOrder, branches, List.pairwise_map]
      exact (List.pairwise_map.mp hindices).imp fun hlt => hlt

theorem next (h : node.Typed m) (hm : m.Sound) (hnames : m.NamesOneLine) {branch : Branch}
    {next : Node} (hbranch : (branch, next) ∈ node.branches) :
    branch.OneLine ∧ next.Typed m := by
  have hfields : ∀ i : Instance, i.WellTyped m → (branch, next) ∈ (Node.object i).branches →
      branch.OneLine ∧ next.Typed m := by
    intro i hi hmem
    rcases hi.exists_typedAs with ⟨cls, htyped⟩
    rcases List.mem_map.mp hmem with ⟨entry, hentry, heq⟩
    obtain ⟨rfl, rfl⟩ := Prod.mk.inj heq
    rcases htyped.described entry hentry with ⟨field, hfield, hfits⟩
    exact ⟨hnames.of_field? hm htyped.mem hfield, fun object hobject => hfits.wellTyped hobject⟩
  cases node with
  | object i => exact hfields i h hbranch
  | slot held =>
    cases held with
    | unset => simp [Node.branches] at hbranch
    | attr value => simp [Node.branches] at hbranch
    | reference i => exact hfields i (h i (List.mem_singleton_self i)) hbranch
    | collection items =>
      rcases List.mem_map.mp hbranch with ⟨entry, hentry, heq⟩
      obtain ⟨rfl, rfl⟩ := Prod.mk.inj heq
      exact ⟨trivial, h entry.1 (List.fst_mem_of_mem_zipIdx hentry)⟩

theorem leads (h : node.Typed m) (hm : m.Sound) (hnames : m.NamesOneLine) {place : List Branch}
    {last : Node} (hplace : node.Leads place last) :
    (∀ branch ∈ place, branch.OneLine) ∧ last.Typed m := by
  induction hplace with
  | here node => exact ⟨by simp, h⟩
  | down node next last branch place hbranch hplace ih =>
    rcases h.next hm hnames hbranch with ⟨hfirst, hnext⟩
    rcases ih hnext with ⟨hrest, hlast⟩
    exact ⟨List.forall_mem_cons.mpr ⟨hfirst, hrest⟩, hlast⟩

theorem lineFeeds_heading (h : node.Typed m) (hnames : m.NamesOneLine) :
    Text.lineFeeds node.heading = node.lineFeeds := by
  cases node with
  | object i => exact hnames.of_wellTyped h
  | slot held =>
    cases held with
    | unset => decide
    | attr value => exact Report.lineFeeds_valueText value
    | reference i => exact hnames.of_wellTyped (h i (List.mem_singleton_self i))
    | collection items =>
      have hopen : Text.lineFeeds "[" = 0 := by decide
      have hclose : Text.lineFeeds "]" = 0 := by decide
      simp [heading, Node.lineFeeds, Slot.lineFeeds, hopen, hclose]

theorem ordered (h : node.Typed m) (hm : m.Sound) (hnames : m.NamesOneLine) : node.Ordered :=
  fun _ _ hplace => (h.leads hm hnames hplace).2.inOrder hm

end Node.Typed

/-- A row under a well-typed instance is one line, but for the line feeds of a text. -/
theorem lineFeeds_text {m : Model} (hm : m.Sound) (hnames : m.NamesOneLine) {i : Instance}
    (hi : i.WellTyped m) {row : Row} (hrow : row ∈ (Node.object i).rows []) :
    Text.lineFeeds row.text = row.node.lineFeeds := by
  have htyped : (Node.object i).Typed m := hi
  rcases Node.mem_rows_iff.mp hrow with ⟨below, -, hplace⟩
  rcases htyped.leads hm hnames hplace with ⟨hbranches, hnode⟩
  have hbranch : row.branch.OneLine := hbranches row.branch (by simp)
  have hindent : Text.lineFeeds (Report.indent row.place.length) = 0 :=
    Text.lineFeeds_ofList (by simp)
  rw [Row.text, Text.lineFeeds_append, Text.lineFeeds_append, hindent, hbranch.lineFeeds_label,
    hnode.lineFeeds_heading hnames, Nat.zero_add]

/-- So the rows have the line feeds of the texts. -/
theorem sum_lineFeeds_text {m : Model} (hm : m.Sound) (hnames : m.NamesOneLine) {i : Instance}
    (hi : i.WellTyped m) :
    (((Node.object i).rows []).map fun row => Text.lineFeeds row.text).sum = i.lineFeeds := by
  have hrows : ((Node.object i).rows []).map (fun row => Text.lineFeeds row.text) =
      ((Node.object i).rows []).map fun row => row.node.lineFeeds :=
    List.map_congr_left fun row hrow => lineFeeds_text hm hnames hi hrow
  rw [hrows, sum_rows, Instance.lineFeeds]
  simp [Node.lineFeeds]

end Outline

/-! ## The table -/

namespace Report

theorem oneLine_headline {m : Model} (hm : m.Sound) (hnames : m.NamesOneLine) {b : Built}
    (hb : b.built.WellTyped m) {asked : Class} (hasked : m.class? b.requested = some asked) :
    Text.OneLine (headline b) := by
  have hclass := hnames.of_wellTyped hb
  have hrequested := Text.lineFeeds_eq_zero.mpr (hnames.of_class? hm hasked)
  have hfirst : Text.lineFeeds "Instance of " = 0 := by decide
  have hopen : Text.lineFeeds " (requested " = 0 := by decide
  have hclose : Text.lineFeeds ")" = 0 := by decide
  rw [← Text.lineFeeds_eq_zero, headline]
  split
  · simp [toString, hfirst, hclass]
  · simp [toString, hfirst, hopen, hclose, hclass, hrequested]

/-- The table of a well-typed instance is its headline, an empty line and its outline, where the
names of the model have no line feeds. A row of the outline is one line, but for the line feeds of a
text attribute, each of which begins a line more; no other value does. So the table has a line for
each field and each object of a collection, and two more, exactly if no text attribute has a line
feed, and then these lines are the rows. -/
theorem lines_table {m : Model} (hm : m.Built) (hnames : m.NamesOneLine) {i : Instance}
    (hi : i.WellTyped m) {requested : String} {asked : Class}
    (hasked : m.class? requested = some asked) :
    ∃ rows, i.Outline rows ∧ rows.length = i.fieldTotal + i.itemTotal ∧
      Text.lines (ofBuilt ⟨requested, i⟩).table =
        headline ⟨requested, i⟩ :: "" :: rows.flatMap (fun row => Text.lines row.text) ∧
      (Text.lines (ofBuilt ⟨requested, i⟩).table).length =
        2 + i.fieldTotal + i.itemTotal + i.lineFeeds ∧
      ((Text.lines (ofBuilt ⟨requested, i⟩).table).length = 2 + i.fieldTotal + i.itemTotal ↔
        i.TextsOneLine) ∧
      (i.TextsOneLine → Text.lines (ofBuilt ⟨requested, i⟩).table =
        headline ⟨requested, i⟩ :: "" :: rows.map Row.text) := by
  have hs := hm.sound
  have htyped : (Node.object i).Typed m := hi
  have hcount := length_rows i []
  have hfeeds := sum_lineFeeds_text hs hnames hi
  have houtline := Instance.outline_rows (htyped.ordered hs hnames)
  have hlines : (ofBuilt ⟨requested, i⟩).lines =
      headline ⟨requested, i⟩ :: "" :: ((Node.object i).rows []).map Row.text := by
    rw [← instanceLines_eq i []]
    rfl
  generalize (Node.object i).rows [] = rows at hcount hfeeds houtline hlines
  have hhead : Text.lines (headline ⟨requested, i⟩) = [headline ⟨requested, i⟩] :=
    Text.lines_of_oneLine (oneLine_headline hs hnames hi hasked)
  have hempty : Text.lines "" = [""] := Text.lines_of_oneLine (by simp [Text.OneLine])
  have hsplit : Text.lines (ofBuilt ⟨requested, i⟩).table =
      headline ⟨requested, i⟩ :: "" :: rows.flatMap fun row => Text.lines row.text := by
    rw [Report.table, hlines, Text.lines_intercalate (by simp), List.flatMap_cons,
      List.flatMap_cons, hhead, hempty, List.flatMap_map]
    rfl
  have hlength : (Text.lines (ofBuilt ⟨requested, i⟩).table).length =
      2 + i.fieldTotal + i.itemTotal + i.lineFeeds := by
    have hsum : (rows.map fun row => (Text.lines row.text).length).sum =
        i.lineFeeds + rows.length := by
      simp [Text.length_lines, List.sum_map_add, hfeeds]
    rw [hsplit, List.length_cons, List.length_cons, List.length_flatMap, hsum, hcount]
    omega
  refine ⟨rows, houtline, hcount, hsplit, hlength, ?_, ?_⟩
  · rw [hlength, ← Instance.lineFeeds_eq_zero]
    omega
  · intro htexts
    rw [Instance.lineFeeds_eq_zero.mpr htexts, List.sum_eq_zero_iff, List.forall_mem_map] at hfeeds
    have hrows : ∀ row ∈ rows, Text.lines row.text = [row.text] := fun row hrow =>
      Text.lines_of_oneLine (Text.lineFeeds_eq_zero.mp (hfeeds row hrow))
    rw [hsplit, List.map_eq_flatMap, List.flatMap_congr hrows]

end Report

namespace Diamond

theorem names_oneLine : model.NamesOneLine where
  classes := by decide
  fields := by decide
  qualifier := by simp [model]

/-- Data with a text that goes on to another line, and looks there like a field. -/
def forgedData : Data := .map [("label", .scalar (.text "a\"\n  owner: \"b"))]

/-- The object built from it. -/
def forged : Instance := ⟨"Thing", [("label", .attr (.string "a\"\n  owner: \"b"))]⟩

end Diamond

/-- An event has two fields, and two parts with a field each, hence eight lines. -/
theorem Report.lines_table_outing :
    Diamond.model.Built ∧ Diamond.model.NamesOneLine ∧ Diamond.outing.WellTyped Diamond.model ∧
      Diamond.model.class? "Thing" = some Diamond.thing ∧ Diamond.outing.TextsOneLine ∧
      (Text.lines (ofBuilt ⟨"Thing", Diamond.outing⟩).table).length = 8 := by
  have hclass : Diamond.model.class? "Thing" = some Diamond.thing := by decide
  have htexts : Diamond.outing.TextsOneLine := Instance.lineFeeds_eq_zero.mp (by cbv)
  have hfields : Diamond.outing.fieldTotal = 4 := by cbv
  have hitems : Diamond.outing.itemTotal = 2 := by cbv
  rcases lines_table Diamond.model_built Diamond.names_oneLine Diamond.wellTyped_outing hclass with
    ⟨_, -, -, -, -, hlength, -⟩
  have height := hlength.mpr htexts
  rw [hfields, hitems] at height
  exact ⟨Diamond.model_built, Diamond.names_oneLine, Diamond.wellTyped_outing, hclass, htexts,
    height⟩

/-- An object with one field, whose table has four lines in place of three: its text is not escaped,
and the last line is one of a field that the object does not have. -/
theorem Report.text_forges_line :
    Diamond.model.Built ∧ Diamond.model.NamesOneLine ∧
      Diamond.model.construct "Thing" Diamond.forgedData = .ok Diamond.forged ∧
      Diamond.forged.WellTyped Diamond.model ∧
      Diamond.model.class? "Thing" = some Diamond.thing ∧
      2 + Diamond.forged.fieldTotal + Diamond.forged.itemTotal = 3 ∧
      Text.lines (ofBuilt ⟨"Thing", Diamond.forged⟩).table =
        ["Instance of Thing", "", "  label: \"a\"", "  owner: \"b\""] := by
  have hbuilt : Diamond.model.construct "Thing" Diamond.forgedData = .ok Diamond.forged := by cbv
  have htyped : Diamond.forged.WellTyped Diamond.model := by
    rcases Model.returned_of_construct Diamond.model_built.sound
      (by simp [Diamond.forgedData, Data.embedded, Data.embeddedEntries]) hbuilt with
      ⟨_, -, hreturned⟩
    exact hreturned.wellTyped
  exact ⟨Diamond.model_built, Diamond.names_oneLine, hbuilt, htyped, by decide, by cbv, by cbv⟩

end ClassModel
