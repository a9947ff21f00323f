import ClassModel.Proofs.Instance.Plain

/-!
# Instances taken apart and built again

An instance can be taken apart into plain data: a map that names its class and holds, under the
names of its fields, plain scalars for attributes and further such maps for related objects. Fields
that are unset may be left out or be null. Construction puts the instance together again, whatever
class it is asked for, as long as the instance is of that class.

* `Instance.TakenApart` — the data that an instance may be taken apart into;
* `Instance.Readable` — what an object must be like for its data to be read back: the key that names
  the class is not one of its fields, no number is of single precision and dates have years of four
  digits;
* `Model.construct_takenApart` — construction gives the instance back.
-/

namespace ClassModel

open Construction (classKey)

mutual

/-- The data that an instance may be taken apart into. -/
inductive Instance.TakenApart : Instance → Data → Prop
  | of (i : Instance) (entries : List (String × Data)) (hrising : Entries.Rising entries)
      (hclass : Entries.get? classKey entries = some (.scalar (.text i.className)))
      (hkeys : ∀ key ∈ Entries.names entries, key = classKey ∨ key ∈ Entries.names i.fields)
      (hslots : ∀ entry ∈ i.fields, Slot.TakenApart entry.2 (Entries.get? entry.1 entries)) :
      Instance.TakenApart i (.map entries)

/-- The entry, if any, that stands for a field. -/
inductive Slot.TakenApart : Slot → Option Data → Prop
  | leftOut : Slot.TakenApart .unset none
  | null : Slot.TakenApart .unset (some .null)
  | attr (value : Value) : Slot.TakenApart (.attr value) (some (.scalar value.plain))
  | reference (target : Instance) (data : Data) (htarget : Instance.TakenApart target data) :
      Slot.TakenApart (.reference target) (some data)
  | collection (items : List Instance) (data : List Data)
      (hitems : List.Forall₂ Instance.TakenApart items data) :
      Slot.TakenApart (.collection items) (some (.list data))

end

mutual

/-- The objects that an instance is made of: itself, and those of its fields. -/
def Instance.parts : Instance → List Instance
  | ⟨className, fields⟩ => ⟨className, fields⟩ :: Instance.partsOfFields fields

/-- The objects in fields. -/
def Instance.partsOfFields : List (String × Slot) → List Instance
  | [] => []
  | (_, slot) :: rest => slot.parts ++ Instance.partsOfFields rest

/-- The objects in a field. -/
def Slot.parts : Slot → List Instance
  | .unset | .attr _ => []
  | .reference target => target.parts
  | .collection items => Instance.partsOfItems items

/-- The objects of a collection, and those that they are made of. -/
def Instance.partsOfItems : List Instance → List Instance
  | [] => []
  | item :: rest => item.parts ++ Instance.partsOfItems rest

end

/-- An object can be read back from its plain data. -/
structure Instance.Readable (m : Model) (i : Instance) : Prop where
  noClassField : ∀ cls ∈ m.classes, i.className = cls.name → ¬ cls.hasField classKey
  noSingle : ∀ name value, (name, Slot.attr (.float value)) ∉ i.fields
  years : ∀ name value, (name, Slot.attr (.date value)) ∈ i.fields →
    0 ≤ value.year ∧ value.year ≤ 9999

/-! ## Parts -/

/-- The objects that a field holds. -/
def Slot.objects : Slot → List Instance
  | .unset | .attr _ => []
  | .reference target => [target]
  | .collection items => items

namespace Instance

theorem mem_partsOfItems {items : List Instance} {item part : Instance} (hitem : item ∈ items)
    (hpart : part ∈ item.parts) : part ∈ partsOfItems items := by
  induction items with
  | nil => simp at hitem
  | cons first rest ih =>
    rw [partsOfItems, List.mem_append]
    rcases List.mem_cons.mp hitem with rfl | hrest
    · exact Or.inl hpart
    · exact Or.inr (ih hrest)

theorem mem_parts_of_objects {slot : Slot} {object part : Instance}
    (hobject : object ∈ slot.objects) (hpart : part ∈ object.parts) : part ∈ slot.parts := by
  cases slot with
  | unset => simp [Slot.objects] at hobject
  | attr value => simp [Slot.objects] at hobject
  | reference target =>
    rcases List.mem_singleton.mp hobject with rfl
    rw [Slot.parts]
    exact hpart
  | collection items =>
    rw [Slot.parts]
    exact mem_partsOfItems hobject hpart

theorem mem_partsOfFields {fields : List (String × Slot)} {entry : String × Slot}
    {part : Instance} (hentry : entry ∈ fields) (hpart : part ∈ entry.2.parts) :
    part ∈ partsOfFields fields := by
  induction fields with
  | nil => simp at hentry
  | cons first rest ih =>
    obtain ⟨name, slot⟩ := first
    rw [partsOfFields, List.mem_append]
    rcases List.mem_cons.mp hentry with rfl | hrest
    · exact Or.inl hpart
    · exact Or.inr (ih hrest)

theorem mem_parts_self (i : Instance) : i ∈ i.parts := by
  cases i
  rw [parts]
  exact List.mem_cons_self

/-- The parts of an object in a field are parts of the object that has the field. -/
theorem mem_parts {i object part : Instance} {entry : String × Slot} (hentry : entry ∈ i.fields)
    (hobject : object ∈ entry.2.objects) (hpart : part ∈ object.parts) : part ∈ i.parts := by
  cases i
  rw [parts]
  exact List.mem_cons_of_mem _ (mem_partsOfFields hentry (mem_parts_of_objects hobject hpart))

theorem sizeOf_lt_of_objects {slot : Slot} {object : Instance} (hobject : object ∈ slot.objects) :
    sizeOf object < sizeOf slot := by
  cases slot with
  | unset => simp [Slot.objects] at hobject
  | attr value => simp [Slot.objects] at hobject
  | reference target =>
    rcases List.mem_singleton.mp hobject with rfl
    simp
  | collection items =>
    have hitem := List.sizeOf_lt_of_mem hobject
    simp only [Slot.collection.sizeOf_spec]
    simp only [Slot.objects] at hitem
    omega

/-- The objects in the fields of an instance are smaller than the instance. -/
theorem sizeOf_lt {i object : Instance} {entry : String × Slot} (hentry : entry ∈ i.fields)
    (hobject : object ∈ entry.2.objects) : sizeOf object < sizeOf i := by
  obtain ⟨className, fields⟩ := i
  obtain ⟨name, slot⟩ := entry
  have hfield := List.sizeOf_lt_of_mem hentry
  have hslot : sizeOf object < sizeOf slot := sizeOf_lt_of_objects hobject
  simp only [Prod.mk.sizeOf_spec] at hfield
  simp only [mk.sizeOf_spec]
  omega

/-- What holds of an instance if it holds of the objects in its fields, holds of all instances. -/
theorem induct {motive : Instance → Prop}
    (step : ∀ i : Instance, (∀ entry ∈ i.fields, ∀ object ∈ entry.2.objects, motive object) →
      motive i) (i : Instance) : motive i :=
  step i fun _ hentry object hobject =>
    have := sizeOf_lt hentry hobject
    induct step object
termination_by sizeOf i

end Instance

/-! ## Putting an object together -/

namespace Model.Sound

open Construction

variable {m : Model} {asked cls owner : Class} {field : Field} {entries : List (String × Data)}

/-- An entry that names a class of those asked for makes it the class to build. -/
theorem chooseClass_of_name (hm : m.Sound) (hcls : cls ∈ m.classes) (hasked : asked ∈ m.classes)
    (hsub : cls.isSubclassOf asked) (hfield : ¬ cls.hasField classKey)
    (hname : Entries.get? classKey entries = some (.scalar (.text cls.name))) :
    chooseClass m asked entries = .ok (cls, true) := by
  have hnone : ¬ asked.hasField classKey := fun hvisible =>
    hfield (hm.hasField_of_isSubclassOf hcls hasked hsub hvisible)
  rw [chooseClass_of_some_eq_ok hnone hname]
  exact ⟨rfl, hsub, cls.name, rfl, hm.class?_name hcls⟩

end Model.Sound

namespace Construction

variable {m : Model} {asked cls owner : Class} {field : Field} {entries : List (String × Data)}

/-- Entries that each give what a field should hold give it to the fields they name, and to no
others. -/
theorem exists_slots (hold : String → Slot)
    (h : ∀ entry ∈ entries, entry.1 ≠ classKey → ∃ field, m.field? cls entry.1 = some field ∧
      slot m cls field entry.2 = .ok (hold entry.1)) :
    ∃ given, slots m cls true entries = .ok given ∧ ∀ name, Entries.get? name given =
      if name ≠ classKey ∧ name ∈ Entries.names entries then some (hold name) else none := by
  induction entries with
  | nil => exact ⟨[], by rw [slots]; rfl, by simp [Entries.get?, Entries.names]⟩
  | cons entry rest ih =>
    obtain ⟨key, value⟩ := entry
    rw [List.forall_mem_cons] at h
    rcases ih h.2 with ⟨others, hothers, hget⟩
    have hnames : ∀ name, name ∈ Entries.names ((key, value) :: rest) ↔
        name = key ∨ name ∈ Entries.names rest := fun name => List.mem_cons
    by_cases hkey : key = classKey
    · -- the entry that names the class is passed over
      refine ⟨others, slots_cons_eq_ok.mpr (Or.inl ⟨⟨rfl, hkey⟩, hothers⟩), fun name => ?_⟩
      rw [hget name]
      refine if_congr ?_ rfl rfl
      rw [hnames]
      constructor
      · rintro ⟨hname, hrest⟩
        exact ⟨hname, Or.inr hrest⟩
      · rintro ⟨hname, heq | hrest⟩
        · exact absurd (heq.trans hkey) hname
        · exact ⟨hname, hrest⟩
    · rcases h.1 hkey with ⟨field, hfield, hslot⟩
      have hfirst : ¬ ((true : Bool) ∧ key = classKey) := fun hpassed => hkey hpassed.2
      refine ⟨(key, hold key) :: others, slots_cons_eq_ok.mpr
        (Or.inr ⟨hfirst, field, hold key, others, hfield, hslot, hothers, rfl⟩), fun name => ?_⟩
      rw [Entries.get?, hget name]
      by_cases hname : key = name
      · subst hname
        rw [if_pos rfl, if_pos ⟨hkey, (hnames key).mpr (Or.inl rfl)⟩]
      · rw [if_neg hname]
        refine if_congr ?_ rfl rfl
        rw [hnames, or_iff_right (Ne.symm hname)]

/-- The fields given make an instance, if each of its fields is given or unset. -/
theorem instanceOf_eq {i : Instance} (hname : i.className = cls.name)
    (hkeys : i.fields.map (·.1) = cls.fieldNames) {given : List (String × Slot)}
    (hgiven : ∀ entry ∈ i.fields, (Entries.get? entry.1 given).getD .unset = entry.2) :
    instanceOf cls given = i := by
  obtain ⟨className, fields⟩ := i
  simp only [instanceOf, Instance.mk.injEq]
  refine ⟨hname.symm, ?_⟩
  rw [← hkeys, List.map_map]
  refine (List.map_congr_left fun entry hentry => ?_).trans (List.map_id fields)
  exact Prod.ext rfl (hgiven entry hentry)

end Construction

theorem Instance.TakenApart.exists_entries {i : Instance} {data : Data} (h : i.TakenApart data) :
    ∃ entries, data = .map entries := by
  cases h
  exact ⟨_, rfl⟩

/-- An instance is put together again, as an object of any class it is of, from whatever it may be
taken apart into. -/
def Instance.Rebuilt (m : Model) (i : Instance) : Prop :=
  ∀ asked ∈ m.classes, i.IsA m asked → ∀ entries, i.TakenApart (.map entries) →
    Construction.object m asked entries = .ok i

theorem Slot.TakenApart.eq_unset {held : Slot} (h : held.TakenApart none) : held = .unset := by
  cases h
  rfl

/-! ## The class of an instance -/

/-- A well-typed instance together with its class. -/
structure Instance.TypedAs (m : Model) (cls : Class) (i : Instance) : Prop where
  mem : cls ∈ m.classes
  name : i.className = cls.name
  keys : i.fields.map (·.1) = cls.fieldNames
  described : ∀ entry ∈ i.fields, ∃ field, m.field? cls entry.1 = some field ∧ entry.2.Fits m field

theorem Instance.WellTyped.exists_typedAs {m : Model} {i : Instance} (h : i.WellTyped m) :
    ∃ cls, i.TypedAs m cls := by
  cases h with
  | of _ cls hcls hname hkeys hdescribed hfits =>
    refine ⟨cls, hcls, hname, hkeys, fun entry hentry => ?_⟩
    have hvisible : entry.1 ∈ cls.fieldNames := hkeys ▸ List.mem_map_of_mem hentry
    rcases Option.isSome_iff_exists.mp (hdescribed entry.1 hvisible) with ⟨field, hfield⟩
    exact ⟨field, hfield, hfits entry hentry field hfield⟩

theorem Slot.Fits.wellTyped {m : Model} {field : Field} {held : Slot} (h : held.Fits m field)
    {object : Instance} (hobject : object ∈ held.objects) : object.WellTyped m := by
  cases h with
  | unset _ => simp [Slot.objects] at hobject
  | attr _ _ _ _ _ _ => simp [Slot.objects] at hobject
  | reference _ _ _ _ _ _ _ htyped =>
    rcases List.mem_singleton.mp hobject with rfl
    exact htyped
  | collection _ _ _ _ _ _ _ htyped => exact htyped object hobject

/-- What a field holds; a field that is not there is unset. -/
def Instance.held (i : Instance) (name : String) : Slot := (i.slot? name).getD .unset

namespace Instance.TypedAs

variable {m : Model} {cls : Class} {i : Instance}

/-- The fields stand in the order of their names, as the class has them. -/
theorem rising (h : i.TypedAs m cls) (hm : m.Sound) : Entries.Rising i.fields := by
  have hvisible : cls.visible.Rising := by
    rw [hm.visible cls h.mem]
    exact Build.rising_visibleOn _ _
  have hnames : Entries.names i.fields = cls.visible.names := h.keys
  rw [Entries.rising_iff] at hvisible ⊢
  rw [hnames]
  exact hvisible

theorem held_eq (h : i.TypedAs m cls) (hm : m.Sound) {entry : String × Slot}
    (hentry : entry ∈ i.fields) : i.held entry.1 = entry.2 := by
  have hdistinct := Entries.nodup_of_rising (h.rising hm)
  rw [held, slot?, Entries.get?_of_mem hdistinct hentry, Option.getD_some]

theorem ne_classKey (h : i.TypedAs m cls) (hreadable : i.Readable m) {entry : String × Slot}
    (hentry : entry ∈ i.fields) : entry.1 ≠ classKey := by
  intro heq
  have hvisible : entry.1 ∈ cls.fieldNames := h.keys ▸ List.mem_map_of_mem hentry
  exact hreadable.noClassField cls h.mem h.name (Entries.isSome_get?.mpr (heq ▸ hvisible))

end Instance.TypedAs

/-! ## Taking apart and putting together -/

namespace Model.Sound

open Construction

variable {m : Model} {cls owner : Class} {field : Field} {held : Slot}

theorem related_takenApart {asked : Class} (hasked : asked ∈ m.classes) {items : List Instance}
    {data : List Data} (hclass : ∀ item ∈ items, item.IsA m asked)
    (hrebuilt : ∀ item ∈ items, item.Rebuilt m)
    (hdata : List.Forall₂ Instance.TakenApart items data) :
    related m owner field asked data = .ok items := by
  induction hdata with
  | nil => rw [related]; rfl
  | @cons item value rest values hitem _ ih =>
    rw [List.forall_mem_cons] at hclass hrebuilt
    rcases hitem.exists_entries with ⟨entries, rfl⟩
    have hobject := hrebuilt.1 asked hasked hclass.1 entries hitem
    exact related_map_eq_ok.mpr ⟨item, rest, hobject, ih hclass.2 hrebuilt.2, rfl⟩

/-- A field gets back what it held. -/
theorem slot_takenApart (hm : m.Sound) (hfits : held.Fits m field)
    (hsingle : ∀ value, held ≠ .attr (.float value))
    (hyears : ∀ value, held = .attr (.date value) → 0 ≤ value.year ∧ value.year ≤ 9999)
    (hrebuilt : ∀ object ∈ held.objects, object.Rebuilt m) {data : Data}
    (hdata : held.TakenApart (some data)) : slot m owner field data = .ok held := by
  cases hfits with
  | unset _ =>
    cases hdata with
    | null => rw [slot]; rfl
  | attr _ declaredType value hkind htype hfinite =>
    cases hdata with
    | attr _ =>
      have hvalue : value.plain.coerce? value.type = some value := by
        refine Scalar.coerce?_plain hfinite ?_ ?_
        · rintro x rfl
          exact hsingle x rfl
        · rintro d rfl
          exact hyears d rfl
      rw [htype] at hvalue
      rw [slot]
      exact ofScalar_eq_ok.mpr ⟨declaredType, value, hkind, hvalue, rfl⟩
  | reference _ link asked target hkind hasked hclass _ =>
    cases hdata with
    | reference _ _ htarget =>
      rcases htarget.exists_entries with ⟨entries, rfl⟩
      have hobject := hrebuilt target (List.mem_singleton_self target) asked
        (hm.mem_of_class? hasked) hclass entries htarget
      exact slot_map_eq_ok.mpr ⟨link, asked, target, hkind, hasked, hobject, rfl⟩
  | collection _ link asked items hkind hasked hclass _ =>
    cases hdata with
    | collection _ values hitems =>
      have hrelated : related m owner field asked values = .ok items :=
        related_takenApart (hm.mem_of_class? hasked) hclass hrebuilt hitems
      exact slot_list_eq_ok.mpr ⟨link, asked, items, hkind, hasked, hrelated, rfl⟩

/-- Every entry but the one that names the class gives its field what the field held. -/
theorem slot_of_entry (hm : m.Sound) {i : Instance} (hi : i.TypedAs m cls)
    (hreadable : i.Readable m)
    (hobjects : ∀ entry ∈ i.fields, ∀ object ∈ entry.2.objects, object.Rebuilt m)
    {entries : List (String × Data)} (hdata : i.TakenApart (.map entries)) {entry : String × Data}
    (hentry : entry ∈ entries) (hkey : entry.1 ≠ classKey) :
    ∃ field, m.field? cls entry.1 = some field ∧
      slot m cls field entry.2 = .ok (i.held entry.1) := by
  cases hdata with
  | of _ _ hrising _ hkeys hslots =>
    obtain ⟨key, data⟩ := entry
    rcases List.mem_map.mp ((hkeys key (List.mem_map_of_mem hentry)).resolve_left hkey) with
      ⟨⟨name, held⟩, hown, hname⟩
    obtain rfl : name = key := hname
    rcases hi.described (name, held) hown with ⟨field, hfield, hfits⟩
    have htaken := hslots (name, held) hown
    rw [Entries.get?_of_mem (Entries.nodup_of_rising hrising) hentry] at htaken
    -- keys are distinct, so this entry is the one that stands for the field
    refine ⟨field, hfield, ?_⟩
    rw [hi.held_eq hm hown]
    refine hm.slot_takenApart hfits ?_ ?_ (hobjects (name, held) hown) htaken
    · rintro value rfl
      exact hreadable.noSingle name value hown
    · rintro value rfl
      exact hreadable.years name value hown

/-- An instance is put together again if the objects in its fields are. -/
theorem rebuilt_of_objects (hm : m.Sound) {i : Instance} (hi : i.TypedAs m cls)
    (hreadable : i.Readable m)
    (hobjects : ∀ entry ∈ i.fields, ∀ object ∈ entry.2.objects, object.Rebuilt m) :
    i.Rebuilt m := by
  rintro asked hasked ⟨cls', hcls', hname, hsub⟩ entries hdata
  rcases hm.eq_of_name_eq hi.mem hcls' (hi.name.symm.trans hname) with rfl
  -- the class of the instance is named, and each entry gives its field what the field held
  rcases exists_slots i.held fun entry hentry => hm.slot_of_entry hi hreadable hobjects hdata hentry
    with ⟨given, hgiven, hget⟩
  cases hdata with
  | of _ _ _ hclass _ hslots =>
    have hchoice : chooseClass m asked entries = .ok (cls, true) :=
      hm.chooseClass_of_name hi.mem hasked hsub (hreadable.noClassField cls hi.mem hi.name)
        (hi.name ▸ hclass)
    have hall : ∀ entry ∈ i.fields, (Entries.get? entry.1 given).getD .unset = entry.2 := by
      intro entry hentry
      rw [hget entry.1]
      by_cases hthere : entry.1 ∈ Entries.names entries
      · rw [if_pos ⟨hi.ne_classKey hreadable hentry, hthere⟩, Option.getD_some,
          hi.held_eq hm hentry]
      · -- a field without an entry was unset
        have hleftOut : Entries.get? entry.1 entries = none := by
          rwa [← Option.not_isSome_iff_eq_none, Entries.isSome_get?]
        have htaken := hslots entry hentry
        rw [hleftOut] at htaken
        rw [if_neg fun hboth => hthere hboth.2, Option.getD_none, htaken.eq_unset]
    exact object_eq_ok.mpr
      ⟨cls, true, given, hchoice, hgiven, (instanceOf_eq hi.name hi.keys hall).symm⟩

/-- Every instance whose objects can all be read back is put together again. -/
theorem rebuilt (hm : m.Sound) {i : Instance} (hi : i.WellTyped m)
    (hreadable : ∀ part ∈ i.parts, part.Readable m) : i.Rebuilt m := by
  induction i using Instance.induct with
  | step i ih =>
    rcases hi.exists_typedAs with ⟨cls, htyped⟩
    refine hm.rebuilt_of_objects htyped (hreadable i i.mem_parts_self) ?_
    intro entry hentry object hobject
    rcases htyped.described entry hentry with ⟨field, -, hfits⟩
    exact ih entry hentry object hobject (hfits.wellTyped hobject)
      fun part hpart => hreadable part (Instance.mem_parts hentry hobject hpart)

/-- What is put together as an object is constructed from the same data. -/
theorem construct_of_rebuilt (hm : m.Sound) {asked : Class} (hasked : asked ∈ m.classes)
    {i : Instance} (hisA : i.IsA m asked) (hrebuilt : i.Rebuilt m) {data : Data}
    (hdata : i.TakenApart data) : m.construct asked.name data = .ok i := by
  rcases hdata.exists_entries with ⟨entries, rfl⟩
  have hobject := hrebuilt asked hasked hisA entries hdata
  exact construct_eq_ok.mpr ⟨asked, hm.class?_name hasked, Or.inl ⟨entries, rfl, hobject⟩⟩

end Model.Sound

/-- Construction undoes taking an instance apart, for every class that the instance is of. -/
theorem Model.construct_takenApart {m : Model} (hm : m.Built) {i : Instance} (hi : i.WellTyped m)
    (hreadable : ∀ part ∈ i.parts, part.Readable m) {data : Data} (hdata : i.TakenApart data)
    {asked : Class} (hasked : asked ∈ m.classes) (hisA : i.IsA m asked) :
    m.construct asked.name data = .ok i := by
  have hrebuilt : i.Rebuilt m := hm.sound.rebuilt hi hreadable
  exact hm.sound.construct_of_rebuilt hasked hisA hrebuilt hdata

namespace Diamond

/-- An instance of the class that declares the field of the base anew. -/
def leapDay : Instance := ⟨"Dated", [("label", .attr (.date ⟨2024, 2, 29, by decide⟩))]⟩

/-- An instance that holds it beside one of the base. -/
def outing : Instance := ⟨"Event", [("label", .unset), ("parts", .collection [leapDay, part])]⟩

/-- Data that it may be taken apart into. -/
def outingData : Data :=
  .map [("class", .scalar (.text "Event")),
    ("parts", .list [
      .map [("class", .scalar (.text "Dated")), ("label", .scalar (.text "2024-02-29"))],
      .map [("class", .scalar (.text "Thing")), ("label", .scalar (.text "part"))]])]

theorem takenApart_leapDay : leapDay.TakenApart
    (.map [("class", .scalar (.text "Dated")), ("label", .scalar (.text "2024-02-29"))]) := by
  have htext : Value.plain (.date ⟨2024, 2, 29, by decide⟩) = .text "2024-02-29" := by cbv
  refine .of _ _ ?_ rfl ?_ ?_
  · unfold Entries.Rising
    decide
  · decide
  · simp only [leapDay, List.forall_mem_cons]
    refine ⟨?_, by simp⟩
    rw [← htext]
    exact .attr _

theorem takenApart_part : part.TakenApart
    (.map [("class", .scalar (.text "Thing")), ("label", .scalar (.text "part"))]) := by
  refine .of _ _ ?_ rfl ?_ ?_
  · unfold Entries.Rising
    decide
  · decide
  · simp only [part, List.forall_mem_cons]
    exact ⟨.attr (.string "part"), by simp⟩

theorem takenApart_outing : outing.TakenApart outingData := by
  refine .of _ _ ?_ rfl ?_ ?_
  · unfold Entries.Rising
    decide
  · decide
  · simp only [outing, List.forall_mem_cons]
    have hparts : List.Forall₂ Instance.TakenApart [leapDay, part] _ :=
      .cons takenApart_leapDay (.cons takenApart_part .nil)
    exact ⟨.leftOut, .collection _ _ hparts, by simp⟩

theorem readable_outing : ∀ object ∈ outing.parts, object.Readable model := by
  have hnone : ∀ cls ∈ model.classes, ¬ cls.hasField Construction.classKey := by decide
  have hparts : outing.parts = [outing, leapDay, part] := by
    simp [outing, leapDay, part, Instance.parts, Instance.partsOfFields, Slot.parts,
      Instance.partsOfItems]
  rw [hparts]
  simp only [List.forall_mem_cons]
  refine ⟨⟨fun cls hcls _ => hnone cls hcls, ?_, ?_⟩, ⟨fun cls hcls _ => hnone cls hcls, ?_, ?_⟩,
    ⟨fun cls hcls _ => hnone cls hcls, ?_, ?_⟩, by simp⟩
  · simp [outing]
  · simp [outing]
  · simp [leapDay]
  · intro name value hvalue
    simp only [leapDay, List.mem_singleton, Prod.mk.injEq, Slot.attr.injEq,
      Value.date.injEq] at hvalue
    rw [hvalue.2]
    decide
  · simp [part]
  · simp [part]

theorem wellTyped_outing : outing.WellTyped model := by
  have hembedded : outingData.embedded = [] := by
    simp [outingData, Data.embedded, Data.embeddedEntries, Data.embeddedItems]
  have hbuilt : model.construct "Event" outingData = .ok outing := by cbv
  rcases Model.returned_of_construct model_built.sound (by simp [hembedded]) hbuilt with
    ⟨_, -, hreturned⟩
  exact hreturned.wellTyped

end Diamond

/-- An event built from its data when an object of the base is asked for. -/
theorem Model.construct_takenApart_diamond :
    Diamond.model.Built ∧ Diamond.outing.WellTyped Diamond.model ∧
      (∀ part ∈ Diamond.outing.parts, part.Readable Diamond.model) ∧
      Diamond.outing.TakenApart Diamond.outingData ∧
      Diamond.outing.IsA Diamond.model Diamond.thing ∧
      Diamond.model.construct "Thing" Diamond.outingData = .ok Diamond.outing := by
  have hthing : Diamond.thing ∈ Diamond.model.classes := by decide
  have hisA : Diamond.outing.IsA Diamond.model Diamond.thing :=
    ⟨Diamond.event, by decide, rfl, by decide⟩
  refine ⟨Diamond.model_built, Diamond.wellTyped_outing, Diamond.readable_outing,
    Diamond.takenApart_outing, hisA, ?_⟩
  exact Model.construct_takenApart Diamond.model_built Diamond.wellTyped_outing
    Diamond.readable_outing Diamond.takenApart_outing hthing hisA

end ClassModel
