import ClassModel.Proofs.Model.Repeat
import ClassModel.Proofs.Model.Visible
import ClassModel.Proofs.Schema.Accepted

/-!
# Documents in layers

Documents that come after others add to what these declare: classes, and to known classes parents
and fields. They take nothing back. As long as parent names go on to refer to the classes they
referred to, every class keeps what it inherits as well.

* `DeclaredClass.Within` and `Schema.within_of_layers` — further documents only add to classes;
* `Model.Within` — so do the models, in which built-in classes may stand at other positions;
* `Model.Within.exists_way` — ways up over parents remain;
* `Model.ofDocuments_layered` — with them subclasses and visible fields remain.
-/

namespace ClassModel

/-- A declared class is kept in another one, which may have more parents and more fields behind. -/
structure DeclaredClass.Within (cls later : DeclaredClass) : Prop where
  name : later.name = cls.name
  parentNames : cls.parentNames <+: later.parentNames
  ownFields : cls.ownFields <+: later.ownFields

theorem DraftClass.Within.declared {cls later : DraftClass} (h : cls.Within later)
    (hname : later.name = cls.name) : cls.declared.Within later.declared where
  name := hname
  parentNames := h.parentNames
  ownFields := h.fields.map DraftField.field

/-! ## Further documents -/

namespace Draft

variable {draft next : Draft}

/-- Further documents keep all that a draft has. -/
theorem Within.addDocuments (h : draft.Sound) {documents : List Document}
    (hnext : documents.foldlM Draft.addDocument draft = .ok next) :
    next.Sound ∧ draft.Within next := by
  induction documents generalizing draft with
  | nil =>
    obtain rfl := Except.ok.inj hnext
    exact ⟨h, .refl draft⟩
  | cons document rest ih =>
    rw [List.foldlM_cons] at hnext
    rcases bind_eq_ok.mp hnext with ⟨mid, hmid, hrest⟩
    rcases addDocument_eq_ok.mp hmid with ⟨passed, hpassed, hdeclared⟩
    have hsound := h.beginPass hpassed
    rcases ih (hsound.declare hdeclared) hrest with ⟨hlast, hwithin⟩
    have hmidWithin := (Within.beginPass hpassed).trans (.declare hsound hdeclared)
    exact ⟨hlast, hmidWithin.trans hwithin⟩

end Draft

/-- What documents declare is kept when further documents follow. -/
theorem Schema.within_of_layers {first : Document} {rest more : List Document}
    {schema later : Schema} (h : Schema.ofDocuments first rest = .ok schema)
    (hlater : Schema.ofDocuments first (rest ++ more) = .ok later) :
    ∀ cls ∈ schema.classes, ∃ cls' ∈ later.classes, cls.Within cls' := by
  rw [ofDocuments_eq] at h hlater
  rcases bind_eq_ok.mp h with ⟨draft, hdraft, hrest⟩
  rcases bind_eq_ok.mp hrest with ⟨early, hearly, hfinish⟩
  -- the longer list goes through the draft of the shorter one
  rcases bind_eq_ok.mp hlater with ⟨_, hdraft', hrest'⟩
  obtain rfl := Except.ok.inj (hdraft.symm.trans hdraft')
  rw [List.foldlM_append] at hrest'
  rcases bind_eq_ok.mp hrest' with ⟨last, hmore, hfinish'⟩
  rcases bind_eq_ok.mp hmore with ⟨_, hearly', hlast⟩
  obtain rfl := Except.ok.inj (hearly.symm.trans hearly')
  have hstart := (Draft.sound_start first.name first.qualifier).declare hdraft
  have hsound := (Draft.Within.addDocuments hstart hearly).1
  rcases Draft.Within.addDocuments hsound hlast with ⟨hsound', hwithin⟩
  obtain ⟨-, rfl⟩ := Draft.finish_eq_ok.mp hfinish
  obtain ⟨-, rfl⟩ := Draft.finish_eq_ok.mp hfinish'
  intro cls hcls
  rcases List.mem_map.mp hcls with ⟨old, hold, rfl⟩
  rcases hsound.exists_later hsound' hwithin (hsound.getElem?_id hold) with
    ⟨kept, hkept, hname, hwithin'⟩
  exact ⟨kept.declared, List.mem_map_of_mem (List.mem_of_getElem? hkept), hwithin'.declared hname⟩

theorem Build.within_withBuiltins {classes later : List DeclaredClass}
    (h : ∀ cls ∈ classes, ∃ cls' ∈ later, cls.Within cls') :
    ∀ cls ∈ withBuiltins classes, ∃ cls' ∈ withBuiltins later, cls.Within cls' := by
  intro cls hcls
  rw [withBuiltins_eq, List.mem_append] at hcls
  rw [withBuiltins_eq]
  rcases hcls with hdeclared | hbuiltin
  · rcases h cls hdeclared with ⟨cls', hcls', hkept⟩
    exact ⟨cls', List.mem_append_left _ hcls', hkept⟩
  · -- a built-in class stands behind other classes, and has nothing
    simp only [List.mem_cons, List.not_mem_nil, or_false] at hbuiltin
    rcases hbuiltin with rfl | rfl
    · refine ⟨.builtinOf later.length "Integer", by simp, rfl, ?_, ?_⟩
      · exact List.prefix_rfl
      · exact List.prefix_rfl
    · refine ⟨.builtinOf (later.length + 1) "Long", by simp, rfl, ?_, ?_⟩
      · exact List.prefix_rfl
      · exact List.prefix_rfl

namespace Model

/-- A field is visible on a class when a class of its chain declares it. -/
theorem Sound.hasField_iff_declared {m : Model} (hm : m.Sound) {cls : Class}
    (hcls : cls ∈ m.classes) {field : String} :
    cls.hasField field ↔
      ∃ owner ∈ m.classes, cls.isSubclassOf owner ∧ field ∈ owner.ownFields.map Field.name := by
  have hdeclares : ∀ owner : Class, owner.ownRef? field ≠ none ↔
      field ∈ owner.ownFields.map Field.name := by
    intro owner
    rw [ne_eq, ownRef?_eq_none, Class.ownField?, List.find?_eq_none]
    simp
  constructor
  · intro hfield
    rcases hasField_iff.mp hfield with ⟨ref, href⟩
    rcases hm.exists_of_visible hcls href with ⟨owner, howner, hsub, hown⟩
    exact ⟨owner, howner, hsub, (hdeclares owner).mp (by simp [hown])⟩
  · rintro ⟨owner, howner, hsub, hdeclared⟩
    have hown := Option.isSome_iff_ne_none.mpr ((hdeclares owner).mpr hdeclared)
    have hmem : owner.id ∈ cls.ancestors := of_decide_eq_true hsub
    rw [Class.hasField, hm.get?_visible hcls, List.findSome?_isSome_iff]
    refine ⟨owner.id, hmem, ?_⟩
    rw [hm.ownRefAt?_id howner]
    exact hown

/-- Each class of a model is kept in a class of another one. -/
def Within (m later : Model) : Prop :=
  ∀ cls ∈ m.classes, ∃ cls' ∈ later.classes, cls.toDeclaredClass.Within cls'.toDeclaredClass

variable {m later : Model}

/-- The model of documents is kept in that of more documents. -/
theorem within_of_layers {documents more : List Document} (h : ofDocuments documents = .ok m)
    (hlater : ofDocuments (documents ++ more) = .ok later) : m.Within later := by
  cases documents with
  | nil => simp [ofDocuments] at h
  | cons first rest =>
    rw [List.cons_append] at hlater
    rcases ofDocuments_cons_eq_ok.mp h with ⟨schema, hschema, hbuild⟩
    rcases ofDocuments_cons_eq_ok.mp hlater with ⟨schema', hschema', hbuild'⟩
    have hkept := Build.within_withBuiltins (Schema.within_of_layers hschema hschema')
    rw [← (ofSchema_classes hbuild).1, ← (ofSchema_classes hbuild').1] at hkept
    intro cls hcls
    rcases hkept _ (List.mem_map_of_mem hcls) with ⟨_, hmem, hwithin⟩
    rcases List.mem_map.mp hmem with ⟨cls', hcls', rfl⟩
    exact ⟨cls', hcls', hwithin⟩

/-- Parent names of a model refer in another one to classes of the names that they have here. -/
def KeepsParents (m later : Model) : Prop :=
  ∀ cls ∈ m.classes, ∀ parent ∈ cls.parentNames,
    (later.class? parent).map (fun cls => cls.name) = (m.class? parent).map fun cls => cls.name

namespace Within

/-- A way up over parents remains. -/
theorem exists_way (h : m.Within later) (hm : m.Sound) (hlater : later.Sound)
    (hparents : m.KeepsParents later) {cls other : Class}
    (hway : Relation.ReflTransGen m.Extends cls other) (hcls : cls ∈ m.classes) {cls' : Class}
    (hcls' : cls' ∈ later.classes) (hkept : cls.toDeclaredClass.Within cls'.toDeclaredClass) :
    ∃ other' ∈ later.classes, other.toDeclaredClass.Within other'.toDeclaredClass ∧
      Relation.ReflTransGen later.Extends cls' other' := by
  induction hway using Relation.ReflTransGen.head_induction_on generalizing cls' with
  | refl => exact ⟨cls', hcls', hkept, .refl⟩
  | @head cls mid hstep _ ih =>
    have hmid : mid ∈ m.classes := (hm.mem_classesAt.mp hstep).1
    rcases (hm.extends_iff_class? hcls).mp hstep with ⟨name, hname, hfound⟩
    -- the name of the parent refers to the class in which the parent is kept
    have hsame := hparents cls hcls name hname
    rw [hfound, Option.map_some, Option.map_eq_some_iff] at hsame
    rcases hsame with ⟨found, hfound', hfoundName⟩
    rcases h mid hmid with ⟨mid', hmid', hkept'⟩
    have heq : found = mid' :=
      hlater.eq_of_name_eq (hlater.mem_of_class? hfound') hmid' (hfoundName.trans hkept'.name.symm)
    subst heq
    have hextends : later.Extends cls' found :=
      (hlater.extends_iff_class? hcls').mpr ⟨name, hkept.parentNames.subset hname, hfound'⟩
    rcases ih hmid hmid' hkept' with ⟨other', hother', hkeptOther, hrest⟩
    exact ⟨other', hother', hkeptOther, .head hextends hrest⟩

section

variable (h : m.Within later) (hm : m.Sound) (hlater : later.Sound)
  (hparents : m.KeepsParents later)

include h hm hlater hparents

/-- A subclass remains one. -/
theorem isSubclassOf {cls other : Class} (hcls : cls ∈ m.classes) (hother : other ∈ m.classes)
    (hsub : cls.isSubclassOf other) {cls' : Class} (hcls' : cls' ∈ later.classes)
    (hkept : cls.toDeclaredClass.Within cls'.toDeclaredClass) :
    ∃ other' ∈ later.classes, other.toDeclaredClass.Within other'.toDeclaredClass ∧
      cls'.isSubclassOf other' := by
  have hway := (hm.isSubclassOf_iff hcls hother).mp hsub
  rcases h.exists_way hm hlater hparents hway hcls hcls' hkept with
    ⟨other', hother', hkeptOther, hway'⟩
  exact ⟨other', hother', hkeptOther, (hlater.isSubclassOf_iff hcls' hother').mpr hway'⟩

/-- A visible field remains visible. -/
theorem hasField {cls : Class} (hcls : cls ∈ m.classes) {cls' : Class}
    (hcls' : cls' ∈ later.classes) (hkept : cls.toDeclaredClass.Within cls'.toDeclaredClass)
    {field : String} (hfield : cls.hasField field) : cls'.hasField field := by
  rcases (hm.hasField_iff_declared hcls).mp hfield with ⟨owner, howner, hsub, hdeclared⟩
  rcases h.isSubclassOf hm hlater hparents hcls howner hsub hcls' hkept with
    ⟨owner', howner', hkeptOwner, hsub'⟩
  -- the class that declares the field still does
  have hdeclared' : field ∈ owner'.ownFields.map Field.name :=
    (hkeptOwner.ownFields.map Field.name).subset hdeclared
  exact (hlater.hasField_iff_declared hcls').mpr ⟨owner', howner', hsub', hdeclared'⟩

end

end Within

/-- Let further documents come after those of a model and make a model with them, in which the
parent names of its classes refer to classes of the same names. Then each class is there under its
name, with its parent names and its own fields before all others; subclasses remain subclasses; and
what is visible on a class remains visible. -/
theorem ofDocuments_layered {documents more : List Document} (hm : ofDocuments documents = .ok m)
    (hlater : ofDocuments (documents ++ more) = .ok later) (hparents : m.KeepsParents later) :
    (∀ cls ∈ m.classes, ∃ cls', later.class? cls.name = some cls' ∧ cls'.name = cls.name ∧
        cls.parentNames <+: cls'.parentNames ∧ cls.ownFields <+: cls'.ownFields ∧
        ∀ field, cls.hasField field → cls'.hasField field) ∧
      ∀ cls ∈ m.classes, ∀ other ∈ m.classes, cls.isSubclassOf other →
        later.isSubclassOf cls.name other.name = .ok true := by
  have hwithin := within_of_layers hm hlater
  have hsound := (built_of_ofDocuments hm).sound
  have hsound' := (built_of_ofDocuments hlater).sound
  constructor
  · intro cls hcls
    rcases hwithin cls hcls with ⟨cls', hcls', hkept⟩
    refine ⟨cls', ?_, hkept.name, hkept.parentNames, hkept.ownFields, fun field hfield => ?_⟩
    · rw [← hkept.name]
      exact hsound'.class?_name hcls'
    · exact hwithin.hasField hsound hsound' hparents hcls hcls' hkept hfield
  · intro cls hcls other hother hsub
    rcases hwithin cls hcls with ⟨cls', hcls', hkept⟩
    rcases hwithin.isSubclassOf hsound hsound' hparents hcls hother hsub hcls' hkept with
      ⟨other', hother', hkeptOther, hsub'⟩
    have hfound := hsound'.getClass_name hcls'
    have hfoundOther := hsound'.getClass_name hother'
    rw [hkept.name] at hfound
    rw [hkeptOther.name] at hfoundOther
    unfold Model.isSubclassOf
    rw [hfound, hfoundOther]
    exact congrArg Except.ok hsub'

/-- A document of two classes. -/
def store : Document where
  name := "store"
  qualifier := some "org"
  classes := [⟨"Thing", [], [⟨"label", .attr "string"⟩]⟩,
    ⟨"Crate", ["org.Thing"], [⟨"parts", .collection ⟨"Thing", none⟩⟩]⟩]

/-- A document that opens both again and adds a parent to them. -/
def storeAddition : Document where
  name := "addition"
  qualifier := none
  classes := [⟨"Thing", ["Named"], [⟨"size", .attr "int"⟩]⟩,
    ⟨"Named", [], [⟨"label", .attr "date"⟩]⟩, ⟨"Crate", ["Named"], []⟩]

/-- The model of the first document. -/
def storeModel : Model where
  name := "store"
  qualifier := some "org"
  classes := [
    ⟨⟨0, "Thing", [], [⟨"label", 0, .attr "string"⟩], false⟩, [], [0], [("label", ⟨0, 0⟩)]⟩,
    ⟨⟨1, "Crate", ["org.Thing"], [⟨"parts", 1, .collection ⟨"Thing", none⟩⟩], false⟩, [0], [1, 0],
      [("label", ⟨0, 0⟩), ("parts", ⟨1, 0⟩)]⟩,
    ⟨.builtinOf 2 "Integer", [], [2], []⟩, ⟨.builtinOf 3 "Long", [], [3], []⟩]

/-- The model of both. -/
def storeLater : Model where
  name := "store"
  qualifier := some "org"
  classes := [
    ⟨⟨0, "Thing", ["Named"], [⟨"label", 0, .attr "string"⟩, ⟨"size", 0, .attr "int"⟩], false⟩, [2],
      [0, 2], [("label", ⟨0, 0⟩), ("size", ⟨0, 1⟩)]⟩,
    ⟨⟨1, "Crate", ["org.Thing", "Named"], [⟨"parts", 1, .collection ⟨"Thing", none⟩⟩], false⟩,
      [0, 2], [1, 0, 2], [("label", ⟨0, 0⟩), ("parts", ⟨1, 0⟩), ("size", ⟨0, 1⟩)]⟩,
    ⟨⟨2, "Named", [], [⟨"label", 2, .attr "date"⟩], false⟩, [], [2], [("label", ⟨2, 0⟩)]⟩,
    ⟨.builtinOf 3 "Integer", [], [3], []⟩, ⟨.builtinOf 4 "Long", [], [4], []⟩]

theorem ofDocuments_layered_store :
    storeLater.isSubclassOf "Crate" "Thing" = .ok true ∧
      ∃ cls', storeLater.class? "Crate" = some cls' ∧ ["org.Thing"] <+: cls'.parentNames ∧
        cls'.hasField "label" := by
  have hm : ofDocuments [store] = .ok storeModel := by cbv
  have hlater : ofDocuments ([store] ++ [storeAddition]) = .ok storeLater := by cbv
  have hparents : storeModel.KeepsParents storeLater := by
    unfold KeepsParents
    decide
  rcases ofDocuments_layered hm hlater hparents with ⟨hkept, hsub⟩
  constructor
  · exact hsub storeModel.classes[1] (by decide) storeModel.classes[0] (by decide) (by decide)
  · rcases hkept storeModel.classes[1] (by decide) with ⟨cls', hcls', -, hprefix, -, hfields⟩
    exact ⟨cls', hcls', hprefix, hfields "label" (by decide)⟩

end Model

end ClassModel
