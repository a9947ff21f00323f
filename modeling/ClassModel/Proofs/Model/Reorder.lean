import ClassModel.Proofs.Instance.Moved

/-!
# The order of classes in a document

A document may list a class before the classes it extends or refers to, and it may list them in any
other order as well. In whatever order they stand, the document makes a model or makes none; and the
models agree in all that can be asked by name. Only positions and the order of listing differ.

* `Model.view` — what a model says of a class by names alone;
* `Model.SameByName` — models that say the same of all classes and make the same instances;
* `Model.Moved.sameByName` — models that differ in positions alone are such;
* `Model.ofDocument_reordered` — so are those of a document and of the document in another order.
-/

namespace ClassModel

/-- What a model says of a field: its descriptor, with the name of the class that declares it. -/
structure FieldView where
  name : String
  kind : FieldKind
  owner : Option String
deriving DecidableEq, Repr

/-- What a model says of a class by names alone. -/
structure ClassView where
  name : String
  builtin : Bool
  parentNames : List String
  ownFields : List FieldView
  parents : List String
  ancestors : List String
  /-- The visible fields in chain order. -/
  fields : List FieldView
  /-- The field visible under each name. -/
  visible : List (String × Option FieldView)
deriving DecidableEq, Repr

namespace Model

/-- A field with its owner by name. -/
def fieldView (m : Model) (field : Field) : FieldView where
  name := field.name
  kind := field.kind
  owner := (m.declaringClass? field).map fun cls => cls.name

/-- A class with all that is related to it by name. -/
def view (m : Model) (cls : Class) : ClassView where
  name := cls.name
  builtin := cls.builtin
  parentNames := cls.parentNames
  ownFields := cls.ownFields.map m.fieldView
  parents := (m.classesAt cls.parents).map fun parent => parent.name
  ancestors := (m.classesAt cls.ancestors).map fun ancestor => ancestor.name
  fields := (m.fields cls).map m.fieldView
  visible := cls.fieldNames.map fun name => (name, (m.field? cls name).map m.fieldView)

/-- Two models agree in all that is asked by name. -/
structure SameByName (m other : Model) : Prop where
  classes : (other.classes.map other.view).Perm (m.classes.map m.view)
  class? : ∀ name, (other.class? name).map other.view = (m.class? name).map m.view
  isSubclassOf : ∀ name ancestor, other.isSubclassOf name ancestor = m.isSubclassOf name ancestor
  subclassesOf : ∀ name,
    Agree (fun classes classes' => (classes'.map other.view).Perm (classes.map m.view))
      (m.subclassesOf name) (other.subclassesOf name)
  construct : ∀ name data, other.construct name data = m.construct name data

/-! ## Models that differ in positions -/

namespace Moved

variable {move : Move} {m other : Model}

theorem fieldView (h : m.Moved move other) (field : Field) :
    other.fieldView (field.moved move) = m.fieldView field := by
  unfold Model.fieldView
  rw [h.declaringClass?, Option.map_map]
  rfl

/-- A class at another position says the same by name. -/
theorem view (h : m.Moved move other) (cls : Class) :
    other.view (cls.moved move) = m.view cls := by
  have hfields : ∀ fields : List Field,
      (fields.map (Field.moved move)).map other.fieldView = fields.map m.fieldView := by
    intro fields
    rw [List.map_map]
    exact List.map_congr_left fun field _ => h.fieldView field
  have hclasses : ∀ ids : List ClassId,
      (other.classesAt (ids.map move)).map (fun cls => cls.name) =
        (m.classesAt ids).map fun cls => cls.name := by
    intro ids
    rw [h.classesAt, List.map_map]
    rfl
  have hvisible : ∀ name, (other.field? (cls.moved move) name).map other.fieldView =
      (m.field? cls name).map m.fieldView := by
    intro name
    rw [h.field?, Option.map_map]
    cases m.field? cls name with
    | none => rfl
    | some field => exact congrArg some (h.fieldView field)
  simp only [Model.view, Class.name_moved, Class.builtin_moved, Class.parentNames_moved,
    Class.ownFields_moved, Class.parents_moved, Class.ancestors_moved, Class.fieldNames_moved,
    h.fields, hfields, hclasses, hvisible]

/-- Classes at other positions say the same by name. -/
theorem map_view (h : m.Moved move other) (classes : List Class) :
    (classes.map (Class.moved move)).map other.view = classes.map m.view := by
  rw [List.map_map]
  exact List.map_congr_left fun cls _ => h.view cls

theorem sameByName (h : m.Moved move other) : m.SameByName other where
  classes := by
    rw [← h.map_view]
    exact h.perm_classes.map other.view
  class? name := by
    rw [h.class?, Option.map_map]
    cases m.class? name with
    | none => rfl
    | some cls => exact congrArg some (h.view cls)
  isSubclassOf := h.isSubclassOf
  subclassesOf name := by
    refine (h.subclassesOf name).imp fun classes classes' hperm => ?_
    rw [← h.map_view]
    exact hperm.map other.view
  construct := h.construct

end Moved

/-! ## Documents in another order -/

/-- A well-formed schema of distinct classes makes a model. -/
theorem exists_ofSchema {schema : Schema}
    (hdistinct : (schema.classes.map DeclaredClass.name).Nodup) (hwell : schema.WellFormed) :
    ∃ m, ofSchema schema = .ok m := by
  cases hbuild : ofSchema schema with
  | ok m => exact ⟨m, rfl⟩
  | error error => exact absurd hwell (Build.blames_of_ofSchema hdistinct hbuild).not_wellFormed

theorem ofDocument_eq_ok {document : Document} {m : Model} :
    ofDocuments [document] = .ok m ↔ document.Distinct ∧ ofSchema document.schema = .ok m := by
  rw [ofDocuments_cons_eq_ok]
  simp only [Schema.ofDocument_eq_ok, and_assoc, exists_and_left, exists_eq_left]

theorem distinct_reordered {document : Document} {classes : List ClassEntry}
    (h : document.classes.Perm classes) (hdistinct : document.Distinct) :
    { document with classes }.Distinct where
  classes := (h.map ClassEntry.name).nodup_iff.mp hdistinct.classes
  fields entry hentry := hdistinct.fields entry (h.mem_iff.mpr hentry)

theorem names_schema (document : Document) :
    document.schema.classes.map DeclaredClass.name = document.classes.map ClassEntry.name := by
  apply List.ext_getElem?
  intro i
  simp [Document.schema, ClassEntry.declared, Function.comp_def]

/-- A document that makes a model makes one in every other order. -/
theorem exists_ofDocument_reordered (document : Document) {classes : List ClassEntry}
    (h : document.classes.Perm classes) {m : Model} (hm : ofDocuments [document] = .ok m) :
    ∃ other, ofDocuments [{ document with classes }] = .ok other := by
  rcases ofDocument_eq_ok.mp hm with ⟨hdistinct, hbuild⟩
  rcases document.exists_moved_schema { document with classes } rfl h with ⟨move, hmove⟩
  have hdistinct' := distinct_reordered h hdistinct
  have hnames := (names_schema document).symm ▸ hdistinct.classes
  have hnames' := (names_schema { document with classes }).symm ▸ hdistinct'.classes
  rcases exists_ofSchema hnames' (hmove.wellFormed hnames (Build.wellFormed_of_ofSchema hbuild))
    with ⟨other, hother⟩
  exact ⟨other, ofDocument_eq_ok.mpr ⟨hdistinct', hother⟩⟩

/-- In whatever order a document lists its classes, it makes a model or makes none, and the models
agree in all that is asked by name. -/
theorem ofDocument_reordered (document : Document) {classes : List ClassEntry}
    (h : classes.Perm document.classes) :
    ((∃ m, ofDocuments [document] = .ok m) ↔
        ∃ other, ofDocuments [{ document with classes }] = .ok other) ∧
      ∀ m other, ofDocuments [document] = .ok m →
        ofDocuments [{ document with classes }] = .ok other → m.SameByName other := by
  refine ⟨⟨?_, ?_⟩, ?_⟩
  · rintro ⟨m, hm⟩
    exact exists_ofDocument_reordered document h.symm hm
  · rintro ⟨other, hother⟩
    exact exists_ofDocument_reordered { document with classes } h hother
  · intro m other hm hother
    rcases document.exists_moved_schema { document with classes } rfl h.symm with ⟨move, hmove⟩
    have hmoved := hmove.model (built_of_ofDocuments hm).sound (built_of_ofDocuments hother).sound
      (ofDocument_eq_ok.mp hm).2 (ofDocument_eq_ok.mp hother).2
    exact hmoved.sameByName

/-- A document that lists each class before the class it extends. -/
def boxes : Document where
  name := "boxes"
  qualifier := none
  classes := [⟨"Crate", ["Box"], []⟩,
    ⟨"Box", ["Thing"], [⟨"parts", .collection ⟨"Thing", none⟩⟩]⟩,
    ⟨"Thing", [], [⟨"label", .attr "string"⟩]⟩]

/-- The model of the document as it stands. -/
def boxesModel : Model where
  name := "boxes"
  qualifier := none
  classes := [
    ⟨⟨0, "Crate", ["Box"], [], false⟩, [1], [0, 1, 2], [("label", ⟨2, 0⟩), ("parts", ⟨1, 0⟩)]⟩,
    ⟨⟨1, "Box", ["Thing"], [⟨"parts", 1, .collection ⟨"Thing", none⟩⟩], false⟩, [2], [1, 2],
      [("label", ⟨2, 0⟩), ("parts", ⟨1, 0⟩)]⟩,
    ⟨⟨2, "Thing", [], [⟨"label", 2, .attr "string"⟩], false⟩, [], [2], [("label", ⟨2, 0⟩)]⟩,
    ⟨.builtinOf 3 "Integer", [], [3], []⟩, ⟨.builtinOf 4 "Long", [], [4], []⟩]

theorem ofDocument_reordered_boxes :
    ∃ other, ofDocuments [{ boxes with classes := boxes.classes.reverse }] = .ok other ∧
      boxesModel.SameByName other ∧ other.isSubclassOf "Crate" "Thing" = .ok true := by
  have hboxes : ofDocuments [boxes] = .ok boxesModel := by cbv
  rcases ofDocument_reordered boxes boxes.classes.reverse_perm with ⟨hiff, hsame⟩
  rcases hiff.mp ⟨boxesModel, hboxes⟩ with ⟨other, hother⟩
  have hagree := hsame boxesModel other hboxes hother
  refine ⟨other, hother, hagree, ?_⟩
  rw [hagree.isSubclassOf]
  cbv

end Model

end ClassModel
