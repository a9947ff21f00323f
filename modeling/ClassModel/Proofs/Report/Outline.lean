import ClassModel.Report.Outcome
import ClassModel.Proofs.Instance.RoundTrip

/-!
# Outlines of instances

An instance is a tree. Under an object stand its fields, under a reference the fields of the object
that it holds, and under a collection its objects. An outline has a row for each place in the tree,
further in with each step down; rows come depth first, and fields in the order of their names.

* `Outline.Node.Leads` — the places in an instance, and what stands there;
* `Instance.Outline` — that rows are those of all places, in depth-first order;
* `Instance.outline_rows` — the rows that are listed along an instance are its outline;
* `Outline.instanceLines_eq` — they are the lines that show it;
* `Outline.sum_rows`, `Outline.length_rows` — they are as many as its objects have fields and
  objects in collections.
-/

namespace ClassModel

/-- The objects of a collection. -/
def Slot.items : Slot → List Instance
  | .collection items => items
  | .unset | .attr _ | .reference _ => []

namespace Outline

/-- A step down in an outline: to a field of an object, or to an object of a collection. -/
inductive Branch where
  | field (name : String)
  | item (index : Nat)
deriving DecidableEq, Repr

/-- What an outline has at a place. -/
inductive Node where
  | object (i : Instance)
  | slot (held : Slot)

/-- One row of an outline: the way to it, its own branch, and what it has there. -/
structure Row where
  above : List Branch
  branch : Branch
  node : Node

namespace Branch

/-- Fields come in the order of their names, objects in that of the collection. -/
def Before : Branch → Branch → Prop
  | .field name, .field later => name < later
  | .item index, .item later => index < later
  | _, _ => False

/-- What a row starts with, behind its indentation. -/
def label : Branch → String
  | .field name => name ++ ": "
  | .item index => "[" ++ Report.count index ++ "] "

end Branch

namespace Node

/-- What stands under a node. A reference shows the fields of the object that it holds. -/
def branches : Node → List (Branch × Node)
  | .object i | .slot (.reference i) => i.fields.map fun entry => (.field entry.1, .slot entry.2)
  | .slot (.collection items) => items.zipIdx.map fun entry => (.item entry.2, .object entry.1)
  | .slot .unset | .slot (.attr _) => []

/-- What a row shows of its node. -/
def heading : Node → String
  | .object i | .slot (.reference i) => i.className
  | .slot .unset => "-"
  | .slot (.attr value) => Report.valueText value
  | .slot (.collection items) => "[" ++ Report.count items.length ++ "]"

/-- A place leads from a node to another one. -/
inductive Leads : Node → List Branch → Node → Prop
  | here (node : Node) : Leads node [] node
  | down (node next last : Node) (branch : Branch) (place : List Branch)
      (hbranch : (branch, next) ∈ node.branches) (hplace : Leads next place last) :
      Leads node (branch :: place) last

end Node

namespace Row

/-- The place of a row. -/
def place (row : Row) : List Branch := row.above ++ [row.branch]

/-- A row as it is shown, indented by its depth. -/
def text (row : Row) : String :=
  Report.indent row.place.length ++ row.branch.label ++ row.node.heading

end Row

/-- Depth-first order of places: what stands under a place comes right behind it, and branches come
in their order. -/
def Precedes : List Branch → List Branch → Prop := List.Lex Branch.Before

end Outline

open Outline

/-- Rows are the outline of an instance: one for each place that leads to anything, in depth-first
order. -/
structure Instance.Outline (i : Instance) (rows : List Row) : Prop where
  complete : ∀ row, row ∈ rows ↔ (Node.object i).Leads row.place row.node
  depthFirst : rows.Pairwise fun row later => Precedes row.place later.place

namespace Outline

/-! ## Rows -/

theorem sizeOf_lt_of_mem_branches {node : Node} {branch : Branch} {next : Node}
    (h : (branch, next) ∈ node.branches) : sizeOf next < sizeOf node := by
  have hfields : ∀ i : Instance,
      (branch, next) ∈ i.fields.map (fun entry => (.field entry.1, .slot entry.2)) →
        sizeOf next ≤ sizeOf i := by
    rintro ⟨className, fields⟩ hmem
    rcases List.mem_map.mp hmem with ⟨⟨name, held⟩, hentry, heq⟩
    obtain ⟨rfl, rfl⟩ := Prod.mk.inj heq
    have hlt := List.sizeOf_lt_of_mem hentry
    simp only [Prod.mk.sizeOf_spec] at hlt
    simp only [Node.slot.sizeOf_spec, Instance.mk.sizeOf_spec]
    omega
  cases node with
  | object i =>
    have hle := hfields i h
    simp only [Node.object.sizeOf_spec]
    omega
  | slot held =>
    cases held with
    | unset => simp [Node.branches] at h
    | attr value => simp [Node.branches] at h
    | reference i =>
      have hle := hfields i h
      simp only [Node.slot.sizeOf_spec, Slot.reference.sizeOf_spec]
      omega
    | collection items =>
      rcases List.mem_map.mp h with ⟨entry, hentry, heq⟩
      obtain ⟨rfl, rfl⟩ := Prod.mk.inj heq
      have hlt := List.sizeOf_lt_of_mem (List.fst_mem_of_mem_zipIdx hentry)
      simp only [Node.object.sizeOf_spec, Node.slot.sizeOf_spec, Slot.collection.sizeOf_spec]
      omega

/-- The rows under a node. -/
def Node.rows (above : List Branch) (node : Node) : List Row :=
  node.branches.attach.flatMap fun ⟨(branch, next), _⟩ =>
    ⟨above, branch, next⟩ :: next.rows (above ++ [branch])
termination_by sizeOf node
decreasing_by exact sizeOf_lt_of_mem_branches ‹_›

/-- A row and those under it. -/
def Row.withRows (row : Row) : List Row := row :: row.node.rows row.place

/-- What holds of a node if it holds of those right under it, holds of all nodes. -/
theorem Node.induct {motive : Node → Prop}
    (step : ∀ node : Node, (∀ branch next, (branch, next) ∈ node.branches → motive next) →
      motive node) (node : Node) : motive node :=
  step node fun _ next h =>
    have := sizeOf_lt_of_mem_branches h
    induct step next
termination_by sizeOf node

namespace Node

variable {node last : Node} {above place : List Branch}

theorem rows_eq (above : List Branch) (node : Node) :
    node.rows above = node.branches.flatMap fun step => Row.withRows ⟨above, step.1, step.2⟩ := by
  rw [rows]
  simp only [Row.withRows, Row.place, List.flatMap_subtype, List.unattach_attach]

theorem leads_cons_iff {branch : Branch} :
    node.Leads (branch :: place) last ↔
      ∃ next, (branch, next) ∈ node.branches ∧ next.Leads place last := by
  constructor
  · rintro ⟨-⟩
    exact ⟨_, ‹_›, ‹_›⟩
  · rintro ⟨next, hbranch, hplace⟩
    exact .down node next last branch place hbranch hplace

theorem leads_nil_iff : node.Leads [] last ↔ last = node := by
  constructor
  · rintro ⟨-⟩
    rfl
  · rintro rfl
    exact .here _

/-- The rows under a node are those of the places that lead on from it. -/
theorem mem_rows_iff {row : Row} :
    row ∈ node.rows above ↔
      ∃ below, row.above = above ++ below ∧ node.Leads (below ++ [row.branch]) row.node := by
  induction node using Node.induct generalizing above with
  | step node ih =>
    rw [rows_eq, List.mem_flatMap]
    constructor
    · rintro ⟨⟨branch, next⟩, hbranch, hrow⟩
      rcases List.mem_cons.mp hrow with rfl | hunder
      · exact ⟨[], (List.append_nil above).symm, leads_cons_iff.mpr ⟨next, hbranch, .here next⟩⟩
      · rcases (ih branch next hbranch).mp hunder with ⟨below, habove, hleads⟩
        refine ⟨branch :: below, ?_, leads_cons_iff.mpr ⟨next, hbranch, hleads⟩⟩
        rw [habove, Row.place, List.append_assoc, List.singleton_append]
    · rintro ⟨_ | ⟨branch, below⟩, habove, hleads⟩
      · rcases leads_cons_iff.mp hleads with ⟨next, hbranch, hlast⟩
        refine ⟨(row.branch, next), hbranch, List.mem_cons.mpr (Or.inl ?_)⟩
        rw [← leads_nil_iff.mp hlast, ← habove.trans (List.append_nil above)]
      · rcases leads_cons_iff.mp hleads with ⟨next, hbranch, hrest⟩
        refine ⟨(branch, next), hbranch, List.mem_cons.mpr (Or.inr ?_)⟩
        refine (ih branch next hbranch).mpr ⟨below, ?_, hrest⟩
        rw [habove, Row.place, List.append_assoc, List.singleton_append]

theorem exists_place_of_mem_rows {row : Row} (h : row ∈ node.rows above) :
    ∃ branch below, row.place = above ++ branch :: below := by
  rcases mem_rows_iff.mp h with ⟨below, habove, -⟩
  rcases List.exists_cons_of_ne_nil (List.append_ne_nil_of_right_ne_nil below
    (List.cons_ne_nil row.branch [])) with ⟨branch, rest, heq⟩
  refine ⟨branch, rest, ?_⟩
  rw [Row.place, habove, List.append_assoc, heq]

/-- The branches at a node come in their order. -/
def InOrder (node : Node) : Prop :=
  node.branches.Pairwise fun step later => step.1.Before later.1

/-- So they do at all nodes that a node leads to. -/
def Ordered (node : Node) : Prop := ∀ place next, node.Leads place next → next.InOrder

theorem Ordered.inOrder (h : node.Ordered) : node.InOrder := h [] node (.here node)

theorem Ordered.next (h : node.Ordered) {branch : Branch} {next : Node}
    (hbranch : (branch, next) ∈ node.branches) : next.Ordered := by
  intro place last hplace
  exact h (branch :: place) last (leads_cons_iff.mpr ⟨next, hbranch, hplace⟩)

/-- Where all branches come in their order, the rows come in depth-first order. -/
theorem depthFirst_rows (h : node.Ordered) (above : List Branch) :
    (node.rows above).Pairwise fun row later => Precedes row.place later.place := by
  have hcommon : ∀ (common : List Branch) {place later : List Branch}, Precedes place later →
      Precedes (common ++ place) (common ++ later) := by
    intro common place later hplace
    induction common with
    | nil => exact hplace
    | cons branch rest ih => exact .cons ih
  induction node using Node.induct generalizing above with
  | step node ih =>
    have hfirst : ∀ (branch : Branch) (next : Node) (row : Row),
        row ∈ Row.withRows ⟨above, branch, next⟩ →
          ∃ below, row.place = above ++ branch :: below := by
      intro branch next row hrow
      rcases List.mem_cons.mp hrow with rfl | hunder
      · exact ⟨[], rfl⟩
      · rcases exists_place_of_mem_rows hunder with ⟨first, below, hplace⟩
        refine ⟨first :: below, ?_⟩
        rw [hplace, Row.place, List.append_assoc, List.singleton_append]
    rw [rows_eq, List.pairwise_flatMap]
    constructor
    · rintro ⟨branch, next⟩ hbranch
      rw [Row.withRows, List.pairwise_cons]
      refine ⟨?_, ih branch next hbranch (h.next hbranch) _⟩
      intro row hrow
      rcases exists_place_of_mem_rows hrow with ⟨first, below, hplace⟩
      rw [hplace]
      have hnil := hcommon (Row.place ⟨above, branch, next⟩) (.nil (a := first) (l := below))
      rwa [List.append_nil] at hnil
    · refine h.inOrder.imp ?_
      intro step later hbefore row hrow other hother
      rcases hfirst _ _ row hrow with ⟨below, hplace⟩
      rcases hfirst _ _ other hother with ⟨below', hplace'⟩
      rw [hplace, hplace']
      exact hcommon above (.rel hbefore)

end Node

/-! ## Lines -/

theorem rows_reference (above : List Branch) (i : Instance) :
    (Node.slot (.reference i)).rows above = (Node.object i).rows above := by
  rw [Node.rows_eq, Node.rows_eq]
  rfl

theorem rows_object (above : List Branch) (className : String) (fields : List (String × Slot)) :
    (Node.object ⟨className, fields⟩).rows above =
      fields.flatMap fun entry => Row.withRows ⟨above, .field entry.1, .slot entry.2⟩ := by
  rw [Node.rows_eq, Node.branches, List.flatMap_map]

theorem rows_collection (above : List Branch) (items : List Instance) :
    (Node.slot (.collection items)).rows above =
      items.zipIdx.flatMap fun entry => Row.withRows ⟨above, .item entry.2, .object entry.1⟩ := by
  rw [Node.rows_eq, Node.branches, List.flatMap_map]

open Report

theorem indent_succ (depth : Nat) : indent (depth + 1) = indent depth ++ "  " := by
  rw [← String.toList_inj]
  simp [indent, Nat.mul_add, List.replicate_add]

theorem text_field (above : List Branch) (name : String) (node : Node) :
    Row.text ⟨above, .field name, node⟩ =
      s!"{indent (above.length + 1)}{name}: {node.heading}" := by
  simp [Row.text, Row.place, Branch.label, toString, String.append_assoc]

theorem text_item (above : List Branch) (index : Nat) (node : Node) :
    Row.text ⟨above, .item index, node⟩ =
      s!"{indent above.length}  [{count index}] {node.heading}" := by
  rw [← String.toList_inj]
  simp [Row.text, Row.place, Branch.label, indent_succ, toString]

mutual

/-- The lines of the fields of an instance are the rows under it. -/
theorem instanceLines_eq : ∀ (i : Instance) (above : List Branch),
    instanceLines (above.length + 1) i = ((Node.object i).rows above).map Row.text
  | ⟨className, fields⟩, above => by
    rw [instanceLines, rows_object]
    exact slotsLines_eq fields above

theorem slotsLines_eq : ∀ (fields : List (String × Slot)) (above : List Branch),
    slotsLines (above.length + 1) fields =
      (fields.flatMap fun entry => Row.withRows ⟨above, .field entry.1, .slot entry.2⟩).map Row.text
  | [], above => by
    rw [slotsLines]
    rfl
  | (name, held) :: rest, above => by
    rw [slotsLines, slotLines_eq held name above, slotsLines_eq rest above, List.flatMap_cons,
      List.map_append]

theorem slotLines_eq : ∀ (held : Slot) (name : String) (above : List Branch),
    slotLines (above.length + 1) name held =
      (Row.withRows ⟨above, .field name, .slot held⟩).map Row.text
  | .unset, name, above => by
    rw [slotLines, Row.withRows, Node.rows_eq, Node.branches, List.flatMap_nil, List.map_singleton,
      text_field]
    refine congrArg (fun line => [line]) ?_
    rw [← String.toList_inj]
    simp [Node.heading, toString]
  | .attr value, name, above => by
    rw [slotLines, Row.withRows, Node.rows_eq, Node.branches, List.flatMap_nil, List.map_singleton,
      text_field]
    rfl
  | .reference i, name, above => by
    have hunder := instanceLines_eq i (above ++ [.field name])
    rw [List.length_append, List.length_singleton] at hunder
    rw [slotLines, Row.withRows, rows_reference, List.map_cons, text_field, hunder]
    rfl
  | .collection items, name, above => by
    have hunder := itemsLines_eq items 0 (above ++ [.field name])
    rw [List.length_append, List.length_singleton] at hunder
    rw [slotLines, Row.withRows, rows_collection, List.map_cons, text_field, hunder]
    refine congrArg (fun line => line :: _) ?_
    rw [← String.toList_inj]
    simp [Node.heading, toString]

theorem itemsLines_eq : ∀ (items : List Instance) (index : Nat) (above : List Branch),
    itemsLines above.length index items =
      ((items.zipIdx index).flatMap fun entry =>
        Row.withRows ⟨above, .item entry.2, .object entry.1⟩).map Row.text
  | [], index, above => by
    rw [itemsLines]
    rfl
  | item :: rest, index, above => by
    have hunder := instanceLines_eq item (above ++ [.item index])
    rw [List.length_append, List.length_singleton] at hunder
    rw [itemsLines, hunder, itemsLines_eq rest (index + 1) above, List.zipIdx_cons,
      List.flatMap_cons, List.map_append, Row.withRows, List.map_cons, text_item]
    rfl

end

end Outline

/-! ## Counting rows -/

/-- The number of fields of an instance and of the objects in it. -/
def Instance.fieldTotal (i : Instance) : Nat := (i.parts.map fun part => part.fields.length).sum

/-- The number of objects in the collections of an instance and of the objects in it. -/
def Instance.itemTotal (i : Instance) : Nat :=
  (i.parts.map fun part => (part.fields.map fun entry => entry.2.items.length).sum).sum

theorem Instance.partsOfFields_eq (fields : List (String × Slot)) :
    partsOfFields fields = fields.flatMap fun entry => entry.2.parts := by
  induction fields with
  | nil => rw [partsOfFields, List.flatMap_nil]
  | cons entry rest ih => rw [partsOfFields, ih, List.flatMap_cons]

theorem Instance.partsOfItems_eq (items : List Instance) :
    partsOfItems items = items.flatMap parts := by
  induction items with
  | nil => rw [partsOfItems, List.flatMap_nil]
  | cons item rest ih => rw [partsOfItems, ih, List.flatMap_cons]

namespace Outline

/-- What the rows of one object show: each field, and behind it the objects of a collection. -/
def nodesOf (i : Instance) : List Node :=
  i.fields.flatMap fun entry => .slot entry.2 :: entry.2.items.map .object

/-- The rows under an object show what it and all objects in it have. -/
def ShowsParts (i : Instance) : Prop :=
  ∀ above, (((Node.object i).rows above).map Row.node).Perm (i.parts.flatMap nodesOf)

/-- The rows under a field show the objects of the collection, and what all objects in the field
have. -/
theorem perm_rows_slot {held : Slot} (h : ∀ i ∈ held.objects, ShowsParts i) (above : List Branch) :
    (((Node.slot held).rows above).map Row.node).Perm
      (held.items.map Node.object ++ held.parts.flatMap nodesOf) := by
  cases held with
  | unset => simp [Node.rows_eq, Node.branches, Slot.items, Slot.parts]
  | attr value => simp [Node.rows_eq, Node.branches, Slot.items, Slot.parts]
  | reference i =>
    rw [rows_reference, Slot.parts]
    exact h i (List.mem_singleton_self i) above
  | collection items =>
    -- both sides go through the objects with their positions
    have hindexed : ∀ nodes : Instance → List Node,
        items.flatMap nodes = items.zipIdx.flatMap fun entry => nodes entry.1 := by
      intro nodes
      rw [← List.flatMap_map Prod.fst, List.zipIdx_map_fst]
    rw [rows_collection, List.map_flatMap, Slot.items, Slot.parts, Instance.partsOfItems_eq,
      List.flatMap_assoc, List.map_eq_flatMap, hindexed, hindexed]
    refine List.Perm.trans ?_ (List.flatMap_append_perm items.zipIdx _ _).symm
    refine List.Perm.flatMap_left _ fun entry hentry => ?_
    exact (h entry.1 (List.fst_mem_of_mem_zipIdx hentry) _).cons _

theorem perm_rows (i : Instance) : ShowsParts i := by
  induction i using Instance.induct with
  | step i ih =>
    intro above
    obtain ⟨className, fields⟩ := i
    rw [rows_object, List.map_flatMap, Instance.parts, List.flatMap_cons,
      Instance.partsOfFields_eq, List.flatMap_assoc, nodesOf]
    refine List.Perm.trans ?_ (List.flatMap_append_perm fields _ _).symm
    refine List.Perm.flatMap_left fields fun entry hentry => ?_
    rw [Row.withRows, List.map_cons, List.cons_append]
    exact (perm_rows_slot (ih entry hentry) _).cons _

/-- What is counted row by row may be counted object by object. -/
theorem sum_rows (i : Instance) (above : List Branch) (size : Node → Nat) :
    (((Node.object i).rows above).map fun row => size row.node).sum =
      (i.parts.map fun part => (part.fields.map fun entry =>
        size (.slot entry.2) +
          (entry.2.items.map fun item => size (.object item)).sum).sum).sum := by
  have hperm := ((perm_rows i above).map size).sum_eq
  rw [List.map_map] at hperm
  refine hperm.trans ?_
  simp [nodesOf, List.flatMap_def, List.sum_flatten, Function.comp_def]

theorem length_rows (i : Instance) (above : List Branch) :
    ((Node.object i).rows above).length = i.fieldTotal + i.itemTotal := by
  have hsum := sum_rows i above fun _ => 1
  simp only [List.map_const', List.sum_replicate, smul_eq_mul, mul_one, List.sum_map_add] at hsum
  exact hsum

end Outline

theorem Instance.outline_rows {i : Instance} (h : (Node.object i).Ordered) :
    i.Outline ((Node.object i).rows []) where
  complete := by
    intro row
    rw [Node.mem_rows_iff]
    constructor
    · rintro ⟨below, habove, hleads⟩
      rwa [Row.place, habove, List.nil_append]
    · exact fun hleads => ⟨row.above, rfl, hleads⟩
  depthFirst := Node.depthFirst_rows h []

end ClassModel
