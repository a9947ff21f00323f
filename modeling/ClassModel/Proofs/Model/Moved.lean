import ClassModel.Proofs.Model.Renumber

/-!
# Models with classes at other positions

Two models may differ in the positions of their classes alone. Then names refer to the same
classes, fields are visible on the same classes, and one class is a subclass of another in both or
in neither.

* `Model.Moved` — models that differ in positions alone;
* `Model.Restated.moved` — so do models that declare the same classes at other positions: all else
  is worked out from what is declared;
* `Schema.Moved.model` — the models of schemas that differ so;
* `Model.Moved.class?`, `Model.Moved.field?`, `Model.Moved.fields` and their siblings — what is
  asked of one model by name is answered as by the other.
-/

namespace ClassModel

/-- The classes of a model are those of another one, at other positions. -/
structure Model.Moved (move : Move) (m other : Model) : Prop where
  names : m.names.Moved move other.names
  classes : ∀ id, other.classAt? (move id) = (m.classAt? id).map (Class.moved move)

/-- Two sound models declare the same classes, at other positions. -/
structure Model.Restated (move : Move) (m other : Model) : Prop where
  left : m.Sound
  right : other.Sound
  names : m.names.Moved move other.names
  declared : ∀ id, (other.classes.map Class.toDeclaredClass)[move id]? =
    ((m.classes.map Class.toDeclaredClass)[id]?).map (DeclaredClass.moved move)

namespace Model.Restated

variable {move : Move} {m other : Model}

theorem toDeclaredClass (h : m.Restated move other) (id : ClassId) :
    (other.classAt? (move id)).map Class.toDeclaredClass =
      ((m.classAt? id).map Class.toDeclaredClass).map (DeclaredClass.moved move) := by
  simpa only [classAt?, List.getElem?_map] using h.declared id

theorem classAt?_eq_none (h : m.Restated move other) {id : ClassId} (hnone : m.classAt? id = none) :
    other.classAt? (move id) = none := by
  have hsame := h.toDeclaredClass id
  rwa [hnone, Option.map_none, Option.map_none, Option.map_eq_none_iff] at hsame

theorem exists_classAt? (h : m.Restated move other) {id : ClassId} {cls : Class}
    (hcls : m.classAt? id = some cls) :
    ∃ cls', other.classAt? (move id) = some cls' ∧
      cls'.toDeclaredClass = cls.toDeclaredClass.moved move := by
  have hsame := h.toDeclaredClass id
  rwa [hcls, Option.map_some, Option.map_some, Option.map_eq_some_iff] at hsame

/-- Parent names resolve to the same classes, so the parents are the same. -/
theorem parents (h : m.Restated move other) {id : ClassId} {cls cls' : Class}
    (hcls : m.classAt? id = some cls) (hcls' : other.classAt? (move id) = some cls')
    (hsame : cls'.toDeclaredClass = cls.toDeclaredClass.moved move) :
    cls'.parents = cls.parents.map move := by
  have hnames : cls'.parentNames = cls.parentNames := by
    rw [hsame]
    rfl
  have hresolved : cls.parentNames.map m.names.resolve? = cls.parents.map some :=
    map_eq_map_iff_forall₂.mpr (h.left.parents cls (h.left.classAt?_eq_some.mp hcls).1)
  have hresolved' : cls'.parentNames.map other.names.resolve? = cls'.parents.map some :=
    map_eq_map_iff_forall₂.mpr (h.right.parents cls' (h.right.classAt?_eq_some.mp hcls').1)
  have hmoved : cls.parentNames.map other.names.resolve? =
      (cls.parentNames.map m.names.resolve?).map (Option.map move) := by
    rw [List.map_map]
    exact List.map_congr_left fun name _ => h.names.resolve? name
  have hsome : cls'.parents.map some = (cls.parents.map move).map some := by
    rw [← hresolved', hnames, hmoved, hresolved, List.map_map, List.map_map]
    rfl
  exact List.map_injective_iff.mpr (Option.some_injective _) hsome

theorem above (h : m.Restated move other) (id : ClassId) :
    Ancestry.above other.parents (move id) = (Ancestry.above m.parents id).map move := by
  have hfound : ∀ (model : Model) (i : ClassId),
      Ancestry.above model.parents i = ((model.classAt? i).map Class.parents).getD [] := by
    intro model i
    rw [Ancestry.above, Model.parents, List.getElem?_map, classAt?]
  rw [hfound, hfound]
  cases hcls : m.classAt? id with
  | none =>
    rw [h.classAt?_eq_none hcls]
    rfl
  | some cls =>
    rcases h.exists_classAt? hcls with ⟨cls', hcls', hsame⟩
    rw [hcls', Option.map_some, Option.map_some, Option.getD_some, Option.getD_some]
    exact h.parents hcls hcls' hsame

/-- With the parents the chains are the same, and with the chains the visible fields. -/
theorem eq_moved (h : m.Restated move other) {id : ClassId} {cls cls' : Class}
    (hcls : m.classAt? id = some cls) (hcls' : other.classAt? (move id) = some cls')
    (hsame : cls'.toDeclaredClass = cls.toDeclaredClass.moved move) : cls' = cls.moved move := by
  rcases h.left.classAt?_eq_some.mp hcls with ⟨hmem, hid⟩
  rcases h.right.classAt?_eq_some.mp hcls' with ⟨hmem', hid'⟩
  have hparents := h.parents hcls hcls' hsame
  have hancestors : cls'.ancestors = cls.ancestors.map move := by
    have hchain := (h.left.ancestors cls hmem).moved h.above
    have hchain' := h.right.ancestors cls' hmem'
    rw [hid] at hchain
    rw [hid'] at hchain'
    exact hchain'.unique hchain
  have hvisible : cls'.visible = cls.visible.mapValues (FieldRef.moved move) := by
    rw [h.right.visible cls' hmem', h.left.visible cls hmem, hancestors,
      Build.visibleOn_moved h.declared]
  cases cls'
  simp only at hsame hparents hancestors hvisible
  simp only [Class.moved, hsame, hparents, hancestors, hvisible]

/-- Models that declare the same classes differ in positions alone. -/
theorem moved (h : m.Restated move other) : m.Moved move other := by
  refine ⟨h.names, fun id => ?_⟩
  cases hcls : m.classAt? id with
  | none => exact h.classAt?_eq_none hcls
  | some cls =>
    rcases h.exists_classAt? hcls with ⟨cls', hcls', hsame⟩
    rw [hcls', h.eq_moved hcls hcls' hsame]
    rfl

end Model.Restated

/-- The models of schemas that differ in positions differ in positions alone. -/
theorem Schema.Moved.model {move : Move} {schema other : Schema} (h : schema.Moved move other)
    {m m' : Model} (hm : m.Sound) (hm' : m'.Sound) (hbuild : Model.ofSchema schema = .ok m)
    (hbuild' : Model.ofSchema other = .ok m') : m.Moved move m' := by
  rcases Build.ofSchema_eq_ok.mp hbuild with ⟨hchecked, -⟩
  rcases Build.checkNames_eq_ok.mp hchecked with ⟨hfree, hdistinct, -⟩
  rcases Model.ofSchema_classes hbuild with ⟨hclasses, hnames, -⟩
  rcases Model.ofSchema_classes hbuild' with ⟨hclasses', hnames', -⟩
  have hrestated : m.Restated move m' := by
    refine ⟨hm, hm', ?_, ?_⟩
    · rw [hnames, hnames']
      exact h.names hfree hdistinct
    · rw [hclasses, hclasses']
      exact h.withBuiltins
  exact hrestated.moved

/-! ## One class -/

namespace Class

variable {move : Move}

@[simp] theorem name_moved (cls : Class) : (cls.moved move).name = cls.name := rfl

@[simp] theorem builtin_moved (cls : Class) : (cls.moved move).builtin = cls.builtin := rfl

@[simp] theorem parentNames_moved (cls : Class) :
    (cls.moved move).parentNames = cls.parentNames := rfl

@[simp] theorem ownFields_moved (cls : Class) :
    (cls.moved move).ownFields = cls.ownFields.map (Field.moved move) := rfl

@[simp] theorem parents_moved (cls : Class) :
    (cls.moved move).parents = cls.parents.map move := rfl

@[simp] theorem ancestors_moved (cls : Class) :
    (cls.moved move).ancestors = cls.ancestors.map move := rfl

@[simp] theorem isSubclassOf_moved (cls other : Class) :
    (cls.moved move).isSubclassOf (other.moved move) = cls.isSubclassOf other := by
  have hmem : move other.id ∈ cls.ancestors.map move ↔ other.id ∈ cls.ancestors :=
    List.mem_map_of_injective move.injective
  exact decide_eq_decide.mpr hmem

@[simp] theorem hasField_moved (cls : Class) (name : String) :
    (cls.moved move).hasField name = cls.hasField name := by
  unfold hasField
  rw [moved, Entries.get?_mapValues, Option.isSome_map]

@[simp] theorem fieldNames_moved (cls : Class) : (cls.moved move).fieldNames = cls.fieldNames :=
  Entries.names_mapValues

end Class

/-! ## Questions by name -/

namespace Model.Moved

variable {move : Move} {m other : Model}

theorem class? (h : m.Moved move other) (name : String) :
    other.class? name = (m.class? name).map (Class.moved move) := by
  unfold Model.class?
  rw [h.names.resolve?]
  cases m.names.resolve? name with
  | none => rfl
  | some id => exact h.classes id

theorem getClass (h : m.Moved move other) (name : String) :
    Agree (fun cls cls' => cls' = cls.moved move) (m.getClass name) (other.getClass name) := by
  unfold Model.getClass
  rw [h.class?]
  cases m.class? name with
  | none => exact .error _
  | some cls => exact .ok rfl

theorem isSubclassOf (h : m.Moved move other) (name ancestor : String) :
    other.isSubclassOf name ancestor = m.isSubclassOf name ancestor := by
  symm
  refine (h.getClass name).bind_eq fun cls _ hcls => ?_
  refine (h.getClass ancestor).bind_eq fun asked _ hasked => ?_
  rw [hcls, hasked, Class.isSubclassOf_moved]

/-- All classes are there, in whatever order. -/
theorem perm_classes (h : m.Moved move other) :
    other.classes.Perm (m.classes.map (Class.moved move)) := by
  have hnodup : ∀ classes : List Class, (classes.map fun cls => cls.name).Nodup → classes.Nodup :=
    fun classes => List.Nodup.of_map fun cls : Class => cls.name
  have hdistinct : ((m.classes.map (Class.moved move)).map fun cls => cls.name).Nodup := by
    rw [List.map_map]
    exact h.names.distinct
  rw [List.perm_ext_iff_of_nodup (hnodup _ h.names.distinct_right) (hnodup _ hdistinct)]
  intro cls
  rw [List.mem_map]
  constructor
  · intro hcls
    rcases List.mem_iff_getElem?.mp hcls with ⟨i, hi⟩
    have hat : other.classAt? (move (move.symm i)) = some cls := by
      rw [Equiv.apply_symm_apply]
      exact hi
    rw [h.classes, Option.map_eq_some_iff] at hat
    rcases hat with ⟨old, hold, hmoved⟩
    exact ⟨old, List.mem_of_getElem? hold, hmoved⟩
  · rintro ⟨old, hold, rfl⟩
    rcases List.mem_iff_getElem?.mp hold with ⟨i, hi⟩
    have hat : m.classAt? i = some old := hi
    have hat' := h.classes i
    rw [hat, Option.map_some] at hat'
    exact List.mem_of_getElem? hat'

theorem subclassesOf (h : m.Moved move other) (name : String) :
    Agree (fun classes classes' => classes'.Perm (classes.map (Class.moved move)))
      (m.subclassesOf name) (other.subclassesOf name) := by
  refine (h.getClass name).bind fun asked asked' hasked => .ok ?_
  rw [hasked]
  have hfilter := h.perm_classes.filter fun cls => cls.isSubclassOf (asked.moved move)
  rw [List.filter_map] at hfilter
  simpa [Function.comp_def] using hfilter

/-! ## Classes and fields at positions -/

theorem classesAt (h : m.Moved move other) (ids : List ClassId) :
    other.classesAt (ids.map move) = (m.classesAt ids).map (Class.moved move) := by
  unfold Model.classesAt
  rw [List.filterMap_map, List.map_filterMap]
  apply List.filterMap_congr
  intro id _
  exact h.classes id

theorem fieldAt? (h : m.Moved move other) (ref : FieldRef) :
    other.fieldAt? (ref.moved move) = (m.fieldAt? ref).map (Field.moved move) := by
  unfold Model.fieldAt?
  rw [FieldRef.moved, h.classes]
  cases m.classAt? ref.owner with
  | none => rfl
  | some cls => exact List.getElem?_map

theorem field? (h : m.Moved move other) (cls : Class) (name : String) :
    other.field? (cls.moved move) name = (m.field? cls name).map (Field.moved move) := by
  unfold Model.field?
  rw [Class.moved, Entries.get?_mapValues]
  cases cls.visible.get? name with
  | none => rfl
  | some ref => exact h.fieldAt? ref

theorem declaringClass? (h : m.Moved move other) (field : Field) :
    other.declaringClass? (field.moved move) =
      (m.declaringClass? field).map (Class.moved move) :=
  h.classes field.owner

theorem survivingFields (h : m.Moved move other) (cls : Class) (owner : ClassId) :
    other.survivingFields (cls.moved move) (move owner) =
      (m.survivingFields cls owner).map (Field.moved move) := by
  unfold Model.survivingFields
  rw [h.classes]
  cases m.classAt? owner with
  | none => rfl
  | some ancestor =>
    -- a field survives where it is the one visible under its name, there as here
    have hkept : ∀ entry : Field × Nat,
        ((cls.moved move).visible.get? entry.1.name = some ⟨move owner, entry.2⟩ ↔
          cls.visible.get? entry.1.name = some ⟨owner, entry.2⟩) := by
      intro entry
      have hinjective : Function.Injective (FieldRef.moved move) := by
        rintro ⟨owner, index⟩ ⟨owner', index'⟩ hsame
        simpa [FieldRef.moved] using hsame
      rw [Class.moved, Entries.get?_mapValues]
      exact (Option.map_injective hinjective).eq_iff (b := some ⟨owner, entry.2⟩)
    simp only [Option.map_some, Class.ownFields_moved, List.zipIdx_map, List.filter_map,
      List.map_map]
    refine congrArg (List.map _) (List.filter_congr fun entry _ => ?_)
    exact decide_eq_decide.mpr (hkept entry)

/-- The visible fields come in the same order. -/
theorem fields (h : m.Moved move other) (cls : Class) :
    other.fields (cls.moved move) = (m.fields cls).map (Field.moved move) := by
  unfold Model.fields
  rw [Class.ancestors_moved, List.flatMap_map, List.map_flatMap]
  congr 1
  funext owner
  exact h.survivingFields cls owner

end Model.Moved

end ClassModel
