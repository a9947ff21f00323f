import ClassModel.Instance.Construction
import ClassModel.Proofs.Model.Moved

/-!
# Construction where classes are at other positions

Data and instances speak of classes by name. So models that differ in the positions of their classes
alone make the same instances of the same data, and refuse the same data for the same reason.

* `Model.Moved.chooseClass` — the class chosen is the same, at its other position;
* `Model.Moved.slots`, `Model.Moved.slot`, `Model.Moved.related` — data becomes the same at every
  depth;
* `Model.Moved.construct` — so whole constructions have the same outcome.
-/

namespace ClassModel.Model.Moved

open Construction (classKey)

variable {move : Move} {m other : Model}

theorem target (h : m.Moved move other) (name : String) :
    Agree (fun cls cls' => cls' = cls.moved move) (Construction.target m name)
      (Construction.target other name) :=
  (h.getClass name).mapError ConstructionError.lookup

/-- The class chosen is the same, and so is whether a key has been used for it. -/
theorem chooseClass (h : m.Moved move other) (asked : Class) (entries : List (String × Data)) :
    Agree (fun chosen chosen' => chosen' = (chosen.1.moved move, chosen.2))
      (Construction.chooseClass m asked entries)
      (Construction.chooseClass other (asked.moved move) entries) := by
  unfold Construction.chooseClass
  rw [Class.hasField_moved]
  split
  · exact .ok rfl
  · cases Entries.get? classKey entries with
    | none => exact .ok rfl
    | some value =>
      dsimp only
      cases Construction.nameOf? value with
      | none => exact .error _
      | some name =>
        refine (h.target name).bind fun actual _ hactual => ?_
        rw [hactual, Class.isSubclassOf_moved]
        split
        · exact .ok rfl
        · exact .error _

theorem fits (h : m.Moved move other) (cls : Class) (built : Instance) :
    Construction.fits other (cls.moved move) built = Construction.fits m cls built := by
  symm
  refine (h.target built.className).bind_eq fun found _ hfound => ?_
  rw [hfound, Class.isSubclassOf_moved]

theorem accept (h : m.Moved move other) (owner : Class) (field : Field) (cls : Class)
    (built : Instance) :
    Construction.accept other (owner.moved move) (field.moved move) (cls.moved move) built =
      Construction.accept m owner field cls built := by
  unfold Construction.accept
  rw [h.fits]
  rfl

/-- A value that does not fit a link is refused with the name of the class it asks for. -/
theorem refused {α : Type} (h : m.Moved move other) (owner : Class) (field : Field) (name : String)
    (expected : String → String) (value : Data) :
    (Construction.target other name >>= fun cls =>
        Construction.mismatch (owner.moved move) (field.moved move) (expected cls.name) value) =
      (Construction.target m name >>= fun cls =>
        Construction.mismatch owner field (expected cls.name) value : Construction α) := by
  symm
  refine (h.target name).bind_eq fun cls _ hcls => ?_
  rw [hcls]
  rfl

theorem ofScalar (h : m.Moved move other) (owner : Class) (field : Field) (value : Scalar) :
    Construction.ofScalar other (owner.moved move) (field.moved move) value =
      Construction.ofScalar m owner field value := by
  have hkind : (field.moved move).kind = field.kind := rfl
  unfold Construction.ofScalar
  rw [hkind]
  cases field.kind with
  | attr declaredType => rfl
  | reference link =>
    exact h.refused owner field link.target (fun name => s!"object of class {name}") _
  | collection link =>
    exact h.refused owner field link.target (fun name => s!"list of {name}") _

theorem instanceOf (cls : Class) (given : List (String × Slot)) :
    Construction.instanceOf (cls.moved move) given = Construction.instanceOf cls given := by
  unfold Construction.instanceOf
  rw [Class.fieldNames_moved]
  rfl

mutual

/-- The entries of a map become the same fields. -/
theorem slots (h : m.Moved move other) (cls : Class) (named : Bool) :
    ∀ entries, Construction.slots other (cls.moved move) named entries =
      Construction.slots m cls named entries
  | [] => rfl
  | (key, value) :: rest => by
    rw [Construction.slots, Construction.slots, h.slots cls named rest, h.field?]
    split
    · rfl
    · cases m.field? cls key with
      | none => rfl
      | some field =>
        simp only [Option.map_some, h.slot cls field value]

/-- Data becomes the same value of a field. -/
theorem slot (h : m.Moved move other) (owner : Class) (field : Field) :
    ∀ data, Construction.slot other (owner.moved move) (field.moved move) data =
      Construction.slot m owner field data
  | .null => rfl
  | .scalar value => by
    rw [Construction.slot, Construction.slot, h.ofScalar]
  | .map entries => by
    have hkind : (field.moved move).kind = field.kind := rfl
    rw [Construction.slot, Construction.slot, hkind]
    cases field.kind with
    | attr declaredType => rfl
    | reference link =>
      symm
      refine (h.target link.target).bind_eq fun asked _ hasked => ?_
      rw [hasked]
      refine (h.chooseClass asked entries).bind_eq fun chosen _ hchosen => ?_
      rw [hchosen]
      simp only [h.slots chosen.1 chosen.2 entries, instanceOf]
    | collection link =>
      exact h.refused owner field link.target (fun name => s!"list of {name}") _
  | .list items => by
    have hkind : (field.moved move).kind = field.kind := rfl
    rw [Construction.slot, Construction.slot, hkind]
    cases field.kind with
    | attr declaredType => rfl
    | reference link =>
      exact h.refused owner field link.target (fun name => s!"object of class {name}") _
    | collection link =>
      symm
      refine (h.target link.target).bind_eq fun cls _ hcls => ?_
      rw [hcls, h.related owner field cls items]
  | .built built => by
    have hkind : (field.moved move).kind = field.kind := rfl
    rw [Construction.slot, Construction.slot, hkind]
    cases field.kind with
    | attr declaredType => rfl
    | reference link =>
      symm
      refine (h.target link.target).bind_eq fun cls _ hcls => ?_
      rw [hcls, h.accept]
    | collection link =>
      exact h.refused owner field link.target (fun name => s!"list of {name}") _

/-- Items become the same objects of a collection. -/
theorem related (h : m.Moved move other) (owner : Class) (field : Field) (cls : Class) :
    ∀ items,
      Construction.related other (owner.moved move) (field.moved move) (cls.moved move) items =
        Construction.related m owner field cls items
  | [] => rfl
  | .map entries :: rest => by
    rw [Construction.related, Construction.related]
    symm
    refine (h.chooseClass cls entries).bind_eq fun chosen _ hchosen => ?_
    rw [hchosen]
    simp only [h.slots chosen.1 chosen.2 entries, instanceOf, h.related owner field cls rest]
  | .built built :: rest => by
    rw [Construction.related, Construction.related, h.accept, h.related owner field cls rest]
  | .null :: rest => rfl
  | .scalar value :: rest => rfl
  | .list items :: rest => rfl

end

theorem object (h : m.Moved move other) (asked : Class) (entries : List (String × Data)) :
    Construction.object other (asked.moved move) entries = Construction.object m asked entries := by
  symm
  refine (h.chooseClass asked entries).bind_eq fun chosen _ hchosen => ?_
  rw [hchosen]
  simp only [h.slots chosen.1 chosen.2 entries, instanceOf]

/-- A construction has the same outcome in both models. -/
theorem construct (h : m.Moved move other) (className : String) (data : Data) :
    other.construct className data = m.construct className data := by
  symm
  refine (h.target className).bind_eq fun cls _ hcls => ?_
  rw [hcls]
  cases data with
  | map entries => exact (h.object cls entries).symm
  | built built =>
    simp only [h.fits]
    rfl
  | null => rfl
  | scalar value => rfl
  | list items => rfl

end ClassModel.Model.Moved
