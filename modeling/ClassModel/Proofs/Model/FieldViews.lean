import ClassModel.Proofs.Model.Visible

/-!
# Views of the fields of a class

The fields of a class are asked for in several ways: by name, as the sorted names, as a list along
the chain, by sort, and from the side of the classes that declare them. The list along the chain
keeps of each class the own fields that are visible from below; which these are is decided by
comparing places, not names.

* `Model.Sound.fields_eq_filter` — the list of the fields keeps, of all that the chain declares,
  each field that its name stands for;
* `Model.Sound.mem_fields_iff` — it has exactly the fields found by name, each once;
* `Model.Built.ownFields_of_builtin` — a built-in class has no fields;
* `Model.fields_agree` — all views tell the same.
-/

namespace ClassModel

/-- A choice among numbered elements that does not depend on the number is a choice among the
elements. -/
theorem map_fst_filter_zipIdx {α : Type} {p : α × Nat → Bool} {q : α → Bool} {xs : List α}
    (h : ∀ (i : Nat) (x : α), xs[i]? = some x → p (x, i) = q x) :
    (xs.zipIdx.filter p).map Prod.fst = xs.filter q := by
  have hchosen : xs.zipIdx.filter p = xs.zipIdx.filter (q ∘ Prod.fst) := by
    apply List.filter_congr
    rintro ⟨x, i⟩ hx
    exact h i x (List.mk_mem_zipIdx_iff_getElem?.mp hx)
  rw [hchosen, ← List.filter_map, List.zipIdx_map_fst]

/-- The fields of the three sorts together are all fields. -/
theorem FieldSort.perm_filter (fields : List Field) :
    (fields.filter (fun field => field.kind.sort = attr) ++
      fields.filter (fun field => field.kind.sort = reference) ++
      fields.filter (fun field => field.kind.sort = collection)).Perm fields := by
  have hattr := List.filter_append_perm (fun field : Field => field.kind.sort = attr) fields
  have hothers := List.filter_append_perm (fun field : Field => field.kind.sort = reference)
    (fields.filter fun field => !decide (field.kind.sort = attr))
  -- what is no attribute is a reference, or else a collection
  have hreference : (fields.filter fun field => !decide (field.kind.sort = attr)).filter
      (fun field => field.kind.sort = reference) =
        fields.filter fun field => field.kind.sort = reference := by
    rw [List.filter_filter]
    apply List.filter_congr
    intro field _
    cases field.kind.sort <;> decide
  have hcollection : (fields.filter fun field => !decide (field.kind.sort = attr)).filter
      (fun field => !decide (field.kind.sort = reference)) =
        fields.filter fun field => field.kind.sort = collection := by
    rw [List.filter_filter]
    apply List.filter_congr
    intro field _
    cases field.kind.sort <;> decide
  rw [hreference, hcollection] at hothers
  rw [List.append_assoc]
  exact (hothers.append_left _).trans hattr

namespace Model

/-- All that the classes of the chain of a class declare, class by class. -/
def declaredAlong (m : Model) (cls : Class) : List Field :=
  (m.classesAt cls.ancestors).flatMap fun owner => owner.ownFields

/-- A field survives on a class if it is the one that its name stands for there. -/
def survives (m : Model) (cls : Class) (field : Field) : Bool :=
  m.field? cls field.name = some field

/-- A built-in class has no fields. -/
theorem Built.ownFields_of_builtin {m : Model} (hm : m.Built) {cls : Class} (hcls : cls ∈ m.classes)
    (hbuiltin : cls.builtin) : cls.ownFields = [] := by
  rcases hm with ⟨schema, hdeclared, hbuild⟩
  have hmem : cls.toDeclaredClass ∈ Build.withBuiltins schema.classes := by
    rw [← (ofSchema_classes hbuild).1]
    exact List.mem_map_of_mem hcls
  rcases Build.mem_withBuiltins hmem with hdecl | hnone
  · have hfalse := hdeclared.sound.declared _ hdecl
    rw [hbuiltin] at hfalse
    exact absurd hfalse (by decide)
  · exact hnone

namespace Sound

variable {m : Model} {cls other owner : Class} {field : Field} {name : String}

/-! ## All that the chain declares -/

/-- The chain of a class starts with the class. -/
theorem exists_chain_cons (hm : m.Sound) (hcls : cls ∈ m.classes) :
    ∃ above, m.classesAt cls.ancestors = cls :: above := by
  rcases (hm.ancestors cls hcls).head with ⟨rest, hrest⟩
  refine ⟨m.classesAt rest, ?_⟩
  rw [← hrest, List.singleton_append, classesAt, List.filterMap_cons,
    hm.classAt?_eq_some.mpr ⟨hcls, rfl⟩]
  rfl

/-- The first field of a name that the chain declares is the one that the name stands for. -/
theorem find?_declaredAlong (hm : m.Sound) (hcls : cls ∈ m.classes) :
    (m.declaredAlong cls).find? (fun field => field.name = name) = m.field? cls name := by
  rw [hm.field?_eq_findSome? hcls, declaredAlong, List.find?_flatMap]
  rfl

theorem nodup_declaredAlong (hm : m.Sound) (hcls : cls ∈ m.classes) :
    (m.declaredAlong cls).Nodup := by
  have hchain : (m.classesAt cls.ancestors).Nodup :=
    hm.nodup_classesAt (hm.ancestors cls hcls).nodup
  rw [declaredAlong, List.nodup_flatMap]
  constructor
  · intro owner howner
    exact (hm.fields owner (hm.mem_of_mem_classesAt howner)).of_map
  · -- a field knows its class, so two classes have no field in common
    refine hchain.imp_of_mem ?_
    intro first second hfirst hsecond hne field hfield hfield'
    have howner := hm.owned first (hm.mem_of_mem_classesAt hfirst) field hfield
    have howner' := hm.owned second (hm.mem_of_mem_classesAt hsecond) field hfield'
    exact hne (hm.eq_of_id_eq (hm.mem_of_mem_classesAt hfirst) (hm.mem_of_mem_classesAt hsecond)
      (howner.symm.trans howner'))

/-! ## The list of the fields -/

/-- An own field is the one that its name stands for among the own fields. -/
theorem ownField?_of_mem (hm : m.Sound) (hcls : cls ∈ m.classes) (h : field ∈ cls.ownFields) :
    cls.ownField? field.name = some field := by
  have hsome : (cls.ownField? field.name).isSome :=
    List.find?_isSome.mpr ⟨field, h, by simp⟩
  rcases Option.isSome_iff_exists.mp hsome with ⟨found, hfound⟩
  have hname : found.name = field.name := by simpa using List.find?_some hfound
  rw [hfound, List.inj_on_of_nodup_map (hm.fields cls hcls) (List.mem_of_find?_eq_some hfound) h
    hname]

/-- The place of an own field is the visible one of its name exactly when the field survives. -/
theorem visible_place_iff (hm : m.Sound) (hcls : cls ∈ m.classes) (howner : owner ∈ m.classes)
    {index : Nat} (hindex : owner.ownFields[index]? = some field) :
    cls.visible.get? field.name = some ⟨owner.id, index⟩ ↔
      m.field? cls field.name = some field := by
  have hat : m.fieldAt? ⟨owner.id, index⟩ = some field := by
    simp [fieldAt?, hm.classAt?_eq_some.mpr ⟨howner, rfl⟩, hindex]
  constructor
  · intro h
    rw [field?, h, Option.bind_some, hat]
  · intro h
    rcases Option.bind_eq_some_iff.mp h with ⟨ref, href, hfield⟩
    rcases hm.exists_of_visible hcls href with ⟨found, hfound, -, hown⟩
    rcases hm.ownRef?_eq_some hfound hown with ⟨field', hfield', hrefOwner, hrefIndex, hat'⟩
    obtain rfl : field = field' := Option.some.inj (hfield.symm.trans hat')
    -- the class of the place is the one that owns the field, and there the field stands once
    have hsame := hm.eq_of_ownField? hfound howner hfield'
      (hm.ownField?_of_mem howner (List.mem_of_getElem? hindex))
    subst hsame
    have hnodup : found.ownFields.Nodup := (hm.fields found hfound).of_map
    have hlt := (List.getElem?_eq_some_iff.mp hindex).1
    have hplace : index = ref.index :=
      (List.getElem?_inj hlt hnodup).mp (hindex.trans hrefIndex.symm)
    rw [href, hplace, ← hrefOwner]

theorem survivingFields_eq (hm : m.Sound) (hcls : cls ∈ m.classes) (howner : owner ∈ m.classes) :
    m.survivingFields cls owner.id = owner.ownFields.filter (m.survives cls) := by
  rw [survivingFields, hm.classAt?_eq_some.mpr ⟨howner, rfl⟩]
  apply map_fst_filter_zipIdx
  intro index field hindex
  simp only [survives, hm.visible_place_iff hcls howner hindex]

/-- The fields of a class, class by class along the chain. -/
theorem fields_eq_flatMap (hm : m.Sound) (hcls : cls ∈ m.classes) :
    m.fields cls = (m.classesAt cls.ancestors).flatMap fun owner =>
      owner.ownFields.filter (m.survives cls) := by
  rw [Model.fields, classesAt, List.filterMap_eq_flatMap_toList, List.flatMap_assoc]
  apply List.flatMap_congr
  intro id _
  cases hat : m.classAt? id with
  | none => simp [survivingFields, hat]
  | some owner =>
    rcases hm.classAt?_eq_some.mp hat with ⟨howner, rfl⟩
    rw [hm.survivingFields_eq hcls howner, Option.toList_some, List.flatMap_singleton]

theorem fields_eq_filter (hm : m.Sound) (hcls : cls ∈ m.classes) :
    m.fields cls = (m.declaredAlong cls).filter (m.survives cls) := by
  rw [hm.fields_eq_flatMap hcls, declaredAlong, List.filter_flatMap]

/-- The list of the fields has exactly the fields that are found by their names. -/
theorem mem_fields_iff (hm : m.Sound) (hcls : cls ∈ m.classes) :
    field ∈ m.fields cls ↔ m.field? cls field.name = some field := by
  rw [hm.fields_eq_filter hcls, List.mem_filter, survives, decide_eq_true_iff,
    and_iff_right_iff_imp]
  intro h
  rw [← hm.find?_declaredAlong hcls] at h
  exact List.mem_of_find?_eq_some h

theorem name_of_field? (hm : m.Sound) (hcls : cls ∈ m.classes)
    (h : m.field? cls name = some field) : field.name = name := by
  rw [← hm.find?_declaredAlong hcls] at h
  simpa using List.find?_some h

theorem nodup_fields (hm : m.Sound) (hcls : cls ∈ m.classes) : (m.fields cls).Nodup := by
  rw [hm.fields_eq_filter hcls]
  exact (hm.nodup_declaredAlong hcls).filter _

/-- No two fields of a class have a name in common. -/
theorem nodup_names_fields (hm : m.Sound) (hcls : cls ∈ m.classes) :
    ((m.fields cls).map Field.name).Nodup := by
  apply List.Nodup.map_on _ (hm.nodup_fields hcls)
  intro first hfirst second hsecond hname
  have hfound := (hm.mem_fields_iff hcls).mp hfirst
  rw [hname, (hm.mem_fields_iff hcls).mp hsecond] at hfound
  exact (Option.some.inj hfound).symm

/-- A class starts with its own fields, all of them. -/
theorem filter_ownFields (hm : m.Sound) (hcls : cls ∈ m.classes) :
    cls.ownFields.filter (m.survives cls) = cls.ownFields := by
  rw [List.filter_eq_self]
  intro field hfield
  rcases hm.exists_chain_cons hcls with ⟨above, habove⟩
  have hown := hm.ownField?_of_mem hcls hfield
  simp [survives, hm.field?_eq_findSome? hcls, habove, hown]

/-! ## Names -/

theorem mem_fieldNames_iff : name ∈ cls.fieldNames ↔ cls.hasField name := by
  rw [Class.fieldNames, Class.hasField, Entries.isSome_get?]

theorem hasField_iff_isSome_field? (hm : m.Sound) (hcls : cls ∈ m.classes) :
    cls.hasField name ↔ (m.field? cls name).isSome := by
  constructor
  · intro h
    rcases hm.exists_field?_of_hasField hcls h with ⟨field, hfield⟩
    simp [hfield]
  · intro h
    rcases Option.isSome_iff_exists.mp h with ⟨field, hfield⟩
    rcases Option.bind_eq_some_iff.mp hfield with ⟨ref, href, -⟩
    exact hasField_iff.mpr ⟨ref, href⟩

theorem rising_fieldNames (hm : m.Sound) (hcls : cls ∈ m.classes) :
    cls.fieldNames.Pairwise (· < ·) := by
  have hrising : cls.visible.Rising := by
    rw [hm.visible cls hcls]
    exact Build.rising_visibleOn _ _
  exact Entries.rising_iff.mp hrising

/-- The names of the fields, in whatever order, are the names of the visible fields. -/
theorem perm_fieldNames (hm : m.Sound) (hcls : cls ∈ m.classes) :
    ((m.fields cls).map Field.name).Perm cls.fieldNames := by
  have hdistinct : cls.fieldNames.Nodup := by
    refine (hm.rising_fieldNames hcls).imp ?_
    intro first second hlt heq
    rw [heq] at hlt
    exact String.lt_irrefl _ hlt
  rw [List.perm_ext_iff_of_nodup (hm.nodup_names_fields hcls) hdistinct]
  intro name
  rw [mem_fieldNames_iff, hm.hasField_iff_isSome_field? hcls, Option.isSome_iff_exists]
  constructor
  · intro hname
    rcases List.mem_map.mp hname with ⟨field, hfield, rfl⟩
    exact ⟨field, (hm.mem_fields_iff hcls).mp hfield⟩
  · rintro ⟨field, hfield⟩
    have hname := hm.name_of_field? hcls hfield
    rw [← hname] at hfield
    exact List.mem_map.mpr ⟨field, (hm.mem_fields_iff hcls).mpr hfield, hname⟩

/-! ## Declaring classes -/

/-- The class that declares a field is the first of the chain with an own field of the name. -/
theorem exists_declaringClass? (hm : m.Sound) (hcls : cls ∈ m.classes)
    (h : m.field? cls name = some field) :
    ∃ owner ∈ m.classes, m.declaringClass? field = some owner ∧
      (m.classesAt cls.ancestors).find? (fun owner => (owner.ownField? name).isSome) =
        some owner := by
  rw [hm.field?_eq_findSome? hcls] at h
  rcases List.findSome?_eq_some_iff.mp h with ⟨before, owner, after, hchain, hown, hbefore⟩
  have hmem : owner ∈ m.classesAt cls.ancestors := by simp [hchain]
  have howner := hm.mem_of_mem_classesAt hmem
  refine ⟨owner, howner, ?_, ?_⟩
  · rw [declaringClass?, hm.owner_of_ownField? howner hown]
    exact hm.classAt?_eq_some.mpr ⟨howner, rfl⟩
  · rw [List.find?_eq_some_iff_append]
    refine ⟨by simp [hown], before, after, hchain, ?_⟩
    intro earlier hearlier
    simp [hbefore earlier hearlier]

theorem hasField_of_ownField? (hm : m.Sound) (hcls : cls ∈ m.classes)
    (h : (cls.ownField? name).isSome) : cls.hasField name := by
  rcases hm.exists_chain_cons hcls with ⟨above, habove⟩
  rcases Option.isSome_iff_exists.mp h with ⟨field, hfield⟩
  rw [hm.hasField_iff_isSome_field? hcls, hm.field?_eq_findSome? hcls, habove]
  simp [hfield]

end Sound

/-- A class has a field exactly when it is one of the classes declaring the name, or below one. -/
theorem Built.hasField_iff_declaring {m : Model} (hm : m.Built) {cls : Class} {name : String}
    (hcls : cls ∈ m.classes) :
    cls.hasField name ↔ ∃ owner ∈ m.declaring name, cls.isSubclassOf owner := by
  have hs := hm.sound
  constructor
  · intro h
    rcases Sound.hasField_iff.mp h with ⟨ref, href⟩
    rcases hs.exists_of_visible hcls href with ⟨owner, howner, hsub, hown⟩
    rcases hs.ownRef?_eq_some howner hown with ⟨field, hfield, -⟩
    refine ⟨owner, ?_, hsub⟩
    have hdeclared : owner.builtin = false := by
      by_contra hbuiltin
      have hnone := hm.ownFields_of_builtin howner (by simpa using hbuiltin)
      simp [Class.ownField?, hnone] at hfield
    simp [declaring, declaredClasses, howner, hdeclared, hfield]
  · rintro ⟨owner, howner, hsub⟩
    rcases List.mem_filter.mp howner with ⟨hdeclared, hfield⟩
    have hmem : owner ∈ m.classes := (List.mem_filter.mp hdeclared).1
    exact hs.hasField_of_isSubclassOf hcls hmem hsub (hs.hasField_of_ownField? hmem hfield)

/-- All views of the fields of a class agree. The list along the chain has each visible field once,
the own fields first and then what survives of each class above; it has the fields that are found by
name, each declared by the first class of the chain to declare the name; the three sorts share it
out; and a name is visible exactly on the classes that declare it and on those below them. -/
theorem fields_agree {m : Model} {c : Class} (hm : m.Built) (hc : c ∈ m.classes) :
    (m.fields c).length = c.fieldCount ∧
    ((m.fields c).map Field.name).Perm c.fieldNames ∧ c.fieldNames.Pairwise (· < ·) ∧
    (∃ above, m.classesAt c.ancestors = c :: above ∧
      m.fields c = c.ownFields ++ above.flatMap fun a =>
        a.ownFields.filter fun g => m.field? c g.name = some g) ∧
    (∀ f g, g ∈ m.fields c ∧ g.name = f ↔ m.field? c f = some g) ∧
    (∀ f g, m.field? c f = some g → ∃ a ∈ m.classes, m.declaringClass? g = some a ∧
      (m.classesAt c.ancestors).find? (fun a => (a.ownField? f).isSome) = some a) ∧
    (m.fieldsOfSort c .attr ++ m.fieldsOfSort c .reference ++ m.fieldsOfSort c .collection).Perm
      (m.fields c) ∧
    (∀ sort, (m.fieldsOfSort c sort).Sublist (m.fields c) ∧
      ∀ g ∈ m.fieldsOfSort c sort, g.kind.sort = sort) ∧
    (∀ f, c.hasField f ↔ ∃ d ∈ m.declaring f, c.isSubclassOf d) := by
  have hs := hm.sound
  have hnames := hs.perm_fieldNames hc
  refine ⟨?count, hnames, hs.rising_fieldNames hc, ?order, ?byName, ?declared, ?sorts, ?sort, ?has⟩
  case count =>
    have hlength := hnames.length_eq
    rw [List.length_map, Class.fieldNames, Entries.names, List.length_map] at hlength
    exact hlength
  case order =>
    rcases hs.exists_chain_cons hc with ⟨above, habove⟩
    refine ⟨above, habove, ?_⟩
    rw [hs.fields_eq_flatMap hc, habove, List.flatMap_cons, hs.filter_ownFields hc]
    rfl
  case byName =>
    intro f g
    constructor
    · rintro ⟨hg, rfl⟩
      exact (hs.mem_fields_iff hc).mp hg
    · intro hfound
      have hname := hs.name_of_field? hc hfound
      rw [← hname] at hfound
      exact ⟨(hs.mem_fields_iff hc).mpr hfound, hname⟩
  case declared =>
    intro f g hfound
    exact hs.exists_declaringClass? hc hfound
  case sorts => exact FieldSort.perm_filter (m.fields c)
  case sort =>
    intro sort
    refine ⟨List.filter_sublist, ?_⟩
    intro g hg
    simpa using (List.mem_filter.mp hg).2
  case has =>
    intro f
    exact hm.hasField_iff_declaring hc

/-- In the diamond the class has its own field and that of the base, which is also the first class
of its chain to declare the name. -/
theorem fields_agree_diamond :
    Diamond.model.Built ∧ Diamond.event ∈ Diamond.model.classes ∧
      (Diamond.model.fields Diamond.event).map Field.name = ["parts", "label"] ∧
      (Diamond.model.fields Diamond.event).length = Diamond.event.fieldCount ∧
      Diamond.model.field? Diamond.event "label" = some ⟨"label", 0, .attr "string"⟩ ∧
      Diamond.model.declaringClass? ⟨"label", 0, .attr "string"⟩ = some Diamond.thing ∧
      ∃ d ∈ Diamond.model.declaring "label", Diamond.event.isSubclassOf d := by
  have hevent : Diamond.event ∈ Diamond.model.classes := by decide
  have hlabel : Diamond.model.field? Diamond.event "label" = some ⟨"label", 0, .attr "string"⟩ := by
    decide
  rcases fields_agree Diamond.model_built hevent
      with ⟨hcount, -, -, -, -, hdeclared, -, -, hhas⟩
  rcases hdeclared "label" _ hlabel with ⟨a, -, hclass, hfirst⟩
  obtain rfl : Diamond.thing = a := Option.some.inj hfirst
  exact ⟨Diamond.model_built, hevent, by decide, hcount, hlabel, hclass,
    (hhas "label").mp (by decide)⟩

end Model

end ClassModel
