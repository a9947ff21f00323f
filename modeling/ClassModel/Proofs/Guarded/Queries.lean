import ClassModel.Proofs.Guarded.Build
import ClassModel.Proofs.Model.Visible

/-!
# Questions to a model, guarded

A model answers with classes and fields that it looks up by the ids and places it has stored: the
parents and ancestors of a class, the field visible under a name, the fields of a chain, the class
that declares a field. Here these look-ups are guarded. In a built model every id and every place
that is stored leads somewhere, so no look-up goes wrong, and the answers are those of the model.

* `Model.Addressed` — what ids and places stored in a model lead to;
* `Model.Sound.addressed` — they all do, in every built model;
* `Guarded.getClass_eq`, `Guarded.field?_eq`, `Guarded.fields_eq` and their siblings — the answers.
-/

namespace ClassModel

/-- Where the ids and places that a model has stored lead. -/
structure Model.Addressed (m : Model) : Prop where
  /-- Each class stands at the position that its id names. -/
  ids : ∀ (i : Nat) (cls : Class), m.classes[i]? = some cls → cls.id = i
  /-- The parents are classes, one for each parent name and the one that it refers to. -/
  parents : ∀ cls ∈ m.classes, List.Forall₂
    (fun name id => ∃ parent, m.classes[id]? = some parent ∧ m.class? name = some parent)
    cls.parentNames cls.parents
  ancestors : ∀ cls ∈ m.classes, ∀ id ∈ cls.ancestors, ∃ ancestor, m.classes[id]? = some ancestor
  /-- What is visible under a name is an own field of that name, of a class in the chain. -/
  visible : ∀ cls ∈ m.classes, ∀ (name : String) (ref : FieldRef), (name, ref) ∈ cls.visible →
    ref.owner ∈ cls.ancestors ∧ ∃ owner field, m.classes[ref.owner]? = some owner ∧
      owner.ownFields[ref.index]? = some field ∧ field.name = name
  owners : ∀ cls ∈ m.classes, ∀ field ∈ cls.ownFields, m.classes[field.owner]? = some cls

namespace Guarded

variable {ε : Type}

/-- The class that a name refers to, looked up by the id that is stored with it. -/
def getClass (m : Model) (name : String) : Guarded LookupError Class :=
  match resolve? m.qualifier (m.classes.map Class.toDeclaredClass) name with
  | some id => nth m.classes id
  | none => .error (.refused (.unknownClass name))

/-- The classes at some ids. -/
def classesAt (m : Model) (ids : List ClassId) : Guarded ε (List Class) := ids.mapM (nth m.classes)

/-- The field at a place. -/
def fieldAt (m : Model) (ref : FieldRef) : Guarded ε Field := do
  let owner ← nth m.classes ref.owner
  nth owner.ownFields ref.index

/-- The field of a given name visible on a class. -/
def field? (m : Model) (cls : Class) (name : String) : Guarded ε (Option Field) :=
  match cls.visible.get? name with
  | none => return none
  | some ref => return some (← fieldAt m ref)

/-- The own fields of a class that are visible on another. -/
def survivingFields (m : Model) (cls : Class) (owner : ClassId) : Guarded ε (List Field) := do
  let ancestor ← nth m.classes owner
  return (ancestor.ownFields.zipIdx.filter fun (field, index) =>
    cls.visible.get? field.name = some ⟨owner, index⟩).map (·.1)

/-- The fields visible on a class. -/
def fields (m : Model) (cls : Class) : Guarded ε (List Field) := do
  return (← cls.ancestors.mapM (survivingFields m cls)).flatten

/-- The class that declares a field. -/
def declaringClass (m : Model) (field : Field) : Guarded ε Class := nth m.classes field.owner

end Guarded

theorem Model.length_parents (m : Model) : m.parents.length = m.classes.length := by
  rw [Model.parents, List.length_map]

namespace Model.Sound

variable {m : Model} {cls : Class} {ε : Type}

theorem getElem?_eq_some (hm : m.Sound) {id : ClassId} :
    m.classes[id]? = some cls ↔ cls ∈ m.classes ∧ cls.id = id := hm.classAt?_eq_some

theorem linked_parents (hm : m.Sound) : Ancestry.Linked m.parents := by
  intro ids hids id hid
  rcases List.mem_map.mp hids with ⟨cls, hcls, rfl⟩
  rcases hm.exists_parent hcls hid with ⟨parent, hparent, rfl⟩
  rw [length_parents]
  exact (List.getElem?_eq_some_iff.mp (hm.getElem?_eq_some.mpr ⟨hparent, rfl⟩)).1

theorem lt_of_mem_parents (hm : m.Sound) (hcls : cls ∈ m.classes) :
    ∀ id ∈ cls.parents, id < m.classes.length := by
  have hlinked := hm.linked_parents cls.parents (List.mem_map_of_mem hcls)
  rwa [length_parents] at hlinked

theorem lt_of_mem_ancestors (hm : m.Sound) (hcls : cls ∈ m.classes) :
    ∀ id ∈ cls.ancestors, id < m.classes.length := by
  have hself : cls.id < m.parents.length := by
    rw [length_parents]
    exact (List.getElem?_eq_some_iff.mp (hm.getElem?_eq_some.mpr ⟨hcls, rfl⟩)).1
  have hlt := (hm.ancestors cls hcls).lt hm.linked_parents hself
  rwa [length_parents] at hlt

/-- What is visible under a name is found in its place. -/
theorem exists_of_get?_visible (hm : m.Sound) (hcls : cls ∈ m.classes) {name : String}
    {ref : FieldRef} (h : cls.visible.get? name = some ref) :
    ref.owner ∈ cls.ancestors ∧ ∃ owner field, m.classes[ref.owner]? = some owner ∧
      owner.ownFields[ref.index]? = some field ∧ field.name = name := by
  rcases hm.exists_of_visible hcls h with ⟨owner, howner, hsub, hown⟩
  rcases hm.ownRef?_eq_some howner hown with ⟨field, hfield, hid, hindex, -⟩
  have hname : field.name = name := by
    have hfound := List.find?_some hfield
    simpa using hfound
  refine ⟨?_, owner, field, hm.getElem?_eq_some.mpr ⟨howner, hid.symm⟩, hindex, hname⟩
  rw [hid]
  simpa [Class.isSubclassOf] using hsub

/-- Every id and every place that a built model has stored leads somewhere. -/
theorem addressed (hm : m.Sound) : m.Addressed where
  ids i cls hi := (hm.getElem?_eq_some.mp hi).2
  parents cls hcls := by
    refine (hm.parents cls hcls).imp fun name id hid => ?_
    rcases hm.class?_of_resolve? hid with ⟨parent, hparent, rfl, hfound⟩
    exact ⟨parent, hm.getElem?_eq_some.mpr ⟨hparent, rfl⟩, hfound⟩
  ancestors cls hcls id hid :=
    ⟨_, List.getElem?_eq_getElem (hm.lt_of_mem_ancestors hcls id hid)⟩
  visible cls hcls name ref hmem := by
    have hrising : cls.visible.Rising := by
      rw [hm.visible cls hcls]
      exact Build.rising_visibleOn _ _
    have hget := Entries.get?_of_mem (Entries.nodup_of_rising hrising) hmem
    exact hm.exists_of_get?_visible hcls hget
  owners cls hcls field hfield := by
    rw [hm.owned cls hcls field hfield]
    exact hm.getElem?_eq_some.mpr ⟨hcls, rfl⟩

end Model.Sound

namespace Guarded

open Model.Sound

variable {m : Model} {cls : Class} {ε : Type}

theorem getClass_eq (hm : m.Sound) (name : String) :
    getClass m name = guarded (m.getClass name) := by
  have hids : (m.classes.map Class.toDeclaredClass).map DeclaredClass.id =
      List.range (m.classes.map Class.toDeclaredClass).length := by
    rw [List.map_map, List.length_map]
    exact hm.ids
  have hresolve : resolve? m.qualifier (m.classes.map Class.toDeclaredClass) =
      m.names.resolve? := by
    rw [resolve?_eq hids, List.map_map]
    rfl
  rw [getClass, hresolve, Model.getClass, Model.class?]
  cases hid : m.names.resolve? name with
  | none => rfl
  | some id =>
    rcases hm.class?_of_resolve? hid with ⟨cls, hcls, hat, -⟩
    have hthere := hm.classAt?_eq_some.mpr ⟨hcls, hat⟩
    simp only [Option.bind_some, hthere]
    exact nth_eq_ok.mpr hthere

theorem parents_eq (hm : m.Sound) (hcls : cls ∈ m.classes) :
    (classesAt m cls.parents : Guarded ε _) = .ok (m.classesAt cls.parents) :=
  mapM_nth (hm.lt_of_mem_parents hcls)

theorem ancestors_eq (hm : m.Sound) (hcls : cls ∈ m.classes) :
    (classesAt m cls.ancestors : Guarded ε _) = .ok (m.classesAt cls.ancestors) :=
  mapM_nth (hm.lt_of_mem_ancestors hcls)

theorem field?_eq (hm : m.Sound) (hcls : cls ∈ m.classes) (name : String) :
    (field? m cls name : Guarded ε _) = .ok (m.field? cls name) := by
  rw [field?, Model.field?]
  cases href : cls.visible.get? name with
  | none => rfl
  | some ref =>
    rcases hm.exists_of_get?_visible hcls href with ⟨-, owner, field, howner, hfield, -⟩
    have hat : m.fieldAt? ref = some field := by
      rw [Model.fieldAt?, Model.classAt?, howner, Option.bind_some, hfield]
    simp only [fieldAt, nth_eq_ok.mpr howner, bind_ok, nth_eq_ok.mpr hfield, Option.bind_some, hat]
    rfl

theorem fields_eq (hm : m.Sound) (hcls : cls ∈ m.classes) :
    (fields m cls : Guarded ε _) = .ok (m.fields cls) := by
  have hsurviving : cls.ancestors.mapM (survivingFields m cls) =
      (.ok (cls.ancestors.map (m.survivingFields cls)) : Guarded ε _) := by
    rw [mapM_eq_ok, List.forall₂_map_right_iff, List.forall₂_same]
    intro id hid
    have hthere := List.getElem?_eq_getElem (hm.lt_of_mem_ancestors hcls id hid)
    rw [survivingFields, Model.survivingFields, Model.classAt?, nth_eq_ok.mpr hthere, hthere]
    rfl
  rw [fields, hsurviving, bind_ok, Model.fields, List.flatMap_def]
  rfl

/-- The class that declares an own field is the class itself. -/
theorem declaringClass_eq (hm : m.Sound) (hcls : cls ∈ m.classes) {field : Field}
    (hfield : field ∈ cls.ownFields) :
    (declaringClass m field : Guarded ε _) = .ok cls ∧ m.declaringClass? field = some cls := by
  have hthere := hm.addressed.owners cls hcls field hfield
  exact ⟨nth_eq_ok.mpr hthere, hthere⟩

end Guarded

end ClassModel
