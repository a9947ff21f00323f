import ClassModel.Proofs.Model.Subclass

/-!
# Visible fields

The fields visible on a class are collected along its chain, and the first class of the chain that
declares a name decides which field the name stands for. Parents are never merged. This file
compares that with merging the parents one after another, and says when a class gets a field
although it is declared anew below.

* `Model.Sound.get?_visible` — a visible field is that of the first class of the chain with one;
* `Model.Sound.get?_visible_eq_or` — it is the own field of the name, or else that of the first
  parent on which one is visible;
* `Model.field_merged` — inheritance of fields, class by class;
* `Model.field_of_base_iff` — when a class gets the field of a base although a class below the base
  declares it anew.
-/

namespace ClassModel

/-- The place of the first field of a given name among the fields that a class owns. -/
def FieldRef.first? (owner : ClassId) (fields : List Field) (name : String) : Option FieldRef :=
  (fields.findIdx? fun field => field.name = name).map fun index => ⟨owner, index⟩

/-- The place of the field of a given name among the own fields of a class. -/
def Class.ownRef? (cls : Class) (name : String) : Option FieldRef :=
  FieldRef.first? cls.id cls.ownFields name

/-! ## Collecting fields along a chain -/

namespace Build

theorem get?_foldl_putNew (owner : ClassId) (name : String) (fields : List Field) (start : Nat)
    (visible : Entries FieldRef) :
    Entries.get? name ((fields.zipIdx start).foldl
        (fun visible (field, index) => Entries.putNew field.name ⟨owner, index⟩ visible) visible) =
      (visible.get? name).or
        ((FieldRef.first? owner fields name).map fun ref => ⟨ref.owner, ref.index + start⟩) := by
  unfold FieldRef.first?
  induction fields generalizing start visible with
  | nil => simp
  | cons field rest ih =>
    rw [List.zipIdx_cons, List.foldl_cons, ih, Entries.get?_putNew, List.findIdx?_cons,
      Option.or_assoc]
    congr 1
    by_cases hname : field.name = name
    · simp [hname]
    · -- the fields behind the first one stand one place further on
      simp [hname, Function.comp_def, Nat.add_comm, Nat.add_left_comm]

/-- The own fields of a class come after what is visible already, the first of a name first. -/
theorem get?_addFields (owner : ClassId) (name : String) (fields : List Field)
    (visible : Entries FieldRef) :
    (addFields owner fields visible).get? name =
      (visible.get? name).or (FieldRef.first? owner fields name) := by
  have hfold := get?_foldl_putNew owner name fields 0 visible
  simpa [addFields] using hfold

/-- What a chain adds to what is visible already is the field of its first class to declare it. -/
theorem get?_foldl_addFields (classes : List DeclaredClass) (name : String) (chain : List ClassId)
    (visible : Entries FieldRef) :
    Entries.get? name (chain.foldl (fun visible id =>
        match classes[id]? with
        | some cls => addFields id cls.ownFields visible
        | none => visible) visible) =
      (visible.get? name).or (chain.findSome? fun id =>
        classes[id]?.bind fun cls => FieldRef.first? id cls.ownFields name) := by
  induction chain generalizing visible with
  | nil => simp
  | cons id rest ih =>
    rw [List.foldl_cons, ih, List.findSome?_cons]
    cases hcls : classes[id]? with
    | none => simp
    | some cls =>
      simp only [get?_addFields, Option.or_assoc, Option.bind_some]
      congr 1
      cases FieldRef.first? id cls.ownFields name <;> simp

theorem get?_visibleOn (classes : List DeclaredClass) (chain : List ClassId) (name : String) :
    (visibleOn classes chain).get? name = chain.findSome? fun id =>
      classes[id]?.bind fun cls => FieldRef.first? id cls.ownFields name :=
  (get?_foldl_addFields classes name chain []).trans (Option.none_or ..)

theorem rising_addFields {owner : ClassId} {fields : List Field} {visible : Entries FieldRef}
    (h : visible.Rising) : (addFields owner fields visible).Rising := by
  unfold addFields
  generalize fields.zipIdx = placed
  induction placed generalizing visible with
  | nil => exact h
  | cons field rest ih => exact ih (Entries.rising_putNew h)

/-- The visible fields stand in the order of their names. -/
theorem rising_visibleOn (classes : List DeclaredClass) (chain : List ClassId) :
    (visibleOn classes chain).Rising := by
  unfold visibleOn
  have hstart : Entries.Rising ([] : Entries FieldRef) := List.Pairwise.nil
  generalize ([] : Entries FieldRef) = visible at hstart ⊢
  induction chain generalizing visible with
  | nil => exact hstart
  | cons id rest ih =>
    rw [List.foldl_cons]
    split
    · exact ih _ (rising_addFields hstart)
    · exact ih _ hstart

end Build

namespace Model

/-- A search through classes at positions is a search through the positions. -/
theorem findSome?_classesAt {α : Type} {m : Model} {search : Class → Option α}
    {searchAt : ClassId → Option α} {ids : List ClassId}
    (h : ∀ id ∈ ids, (m.classAt? id).bind search = searchAt id) :
    (m.classesAt ids).findSome? search = ids.findSome? searchAt := by
  induction ids with
  | nil => rfl
  | cons id rest ih =>
    rw [List.forall_mem_cons] at h
    rw [List.findSome?_cons, ← h.1, ← ih h.2]
    cases hat : m.classAt? id with
    | none => simp [classesAt, hat]
    | some cls =>
      simp only [classesAt, List.filterMap_cons, hat, List.findSome?_cons, Option.bind_some]

/-- What is found first may be looked up after the search, if everything found can be. -/
theorem bind_findSome? {α β γ : Type} {xs : List α} {search : α → Option β}
    {lookUp : β → Option γ} {result : α → Option γ}
    (hresult : ∀ x ∈ xs, (search x).bind lookUp = result x)
    (hfound : ∀ x ∈ xs, ∀ y, search x = some y → (lookUp y).isSome) :
    (xs.findSome? search).bind lookUp = xs.findSome? result := by
  induction xs with
  | nil => rfl
  | cons x rest ih =>
    rw [List.forall_mem_cons] at hresult hfound
    rw [List.findSome?_cons, List.findSome?_cons, ← hresult.1]
    cases hsearch : search x with
    | none => exact ih hresult.2 hfound.2
    | some y =>
      rcases Option.isSome_iff_exists.mp (hfound.1 y hsearch) with ⟨z, hz⟩
      simp [hz]

/-- The place of the own field of a given name of the class at a position. -/
def ownRefAt? (m : Model) (name : String) (id : ClassId) : Option FieldRef :=
  (m.classAt? id).bind fun cls => cls.ownRef? name

namespace Sound

variable {m : Model} {cls other parent : Class} {name : String}

theorem ownRefAt?_id (hm : m.Sound) (hcls : cls ∈ m.classes) :
    m.ownRefAt? name cls.id = cls.ownRef? name := by
  simp [ownRefAt?, hm.classAt?_eq_some.mpr ⟨hcls, rfl⟩]

/-- A visible field is that of the first class of the chain to declare it. -/
theorem get?_visible (hm : m.Sound) (hcls : cls ∈ m.classes) :
    cls.visible.get? name = cls.ancestors.findSome? (m.ownRefAt? name) := by
  rw [hm.visible cls hcls, Build.get?_visibleOn]
  congr 1
  funext id
  rw [List.getElem?_map]
  cases hat : m.classes[id]? with
  | none => simp [ownRefAt?, classAt?, hat]
  | some found =>
    have hid : found.id = id := id_eq_of_getElem? hm.ids hat
    simp [ownRefAt?, classAt?, hat, Class.ownRef?, hid]

/-! ## Fields at their places -/

theorem ownRef?_eq_some (hm : m.Sound) (hcls : cls ∈ m.classes) {ref : FieldRef}
    (h : cls.ownRef? name = some ref) :
    ∃ field, cls.ownField? name = some field ∧ ref.owner = cls.id ∧
      cls.ownFields[ref.index]? = some field ∧ m.fieldAt? ref = some field := by
  rcases Option.map_eq_some_iff.mp h with ⟨index, hindex, rfl⟩
  rcases List.findIdx?_eq_some_iff_getElem.mp hindex with ⟨hlt, hname, hfirst⟩
  have hat : m.classes[cls.id]? = some cls := hm.classAt?_eq_some.mpr ⟨hcls, rfl⟩
  have hown : cls.ownFields[index]? = some cls.ownFields[index] := List.getElem?_eq_getElem hlt
  refine ⟨cls.ownFields[index], ?_, rfl, hown, ?_⟩
  · rw [Class.ownField?, List.find?_eq_some_iff_getElem]
    exact ⟨hname, index, hlt, rfl, fun j hj => by simpa using hfirst j hj⟩
  · simp [fieldAt?, classAt?, hat, hown]

theorem ownRef?_eq_none : cls.ownRef? name = none ↔ cls.ownField? name = none := by
  simp [Class.ownRef?, FieldRef.first?, Class.ownField?]

/-- A class has an own field of a name exactly when it has a place for it. -/
theorem exists_ownRef? (hm : m.Sound) (hcls : cls ∈ m.classes) {field : Field}
    (h : cls.ownField? name = some field) :
    ∃ ref, cls.ownRef? name = some ref ∧ ref.owner = cls.id ∧
      cls.ownFields[ref.index]? = some field ∧ m.fieldAt? ref = some field := by
  cases href : cls.ownRef? name with
  | none => simp [ownRef?_eq_none.mp href] at h
  | some ref =>
    rcases hm.ownRef?_eq_some hcls href with ⟨found, hfound, howner, hindex, hat⟩
    rcases Option.some.inj (h.symm.trans hfound) with rfl
    exact ⟨ref, rfl, howner, hindex, hat⟩

theorem hasField_iff : cls.hasField name ↔ ∃ ref, cls.visible.get? name = some ref := by
  rw [Class.hasField, Option.isSome_iff_exists]

/-- What is visible on a class is an own field of a class of its chain. -/
theorem exists_of_visible (hm : m.Sound) (hcls : cls ∈ m.classes) {ref : FieldRef}
    (h : cls.visible.get? name = some ref) :
    ∃ owner ∈ m.classes, cls.isSubclassOf owner ∧ owner.ownRef? name = some ref := by
  rw [hm.get?_visible hcls] at h
  rcases List.exists_of_findSome?_eq_some h with ⟨id, hid, href⟩
  rcases Option.bind_eq_some_iff.mp href with ⟨owner, hat, hown⟩
  rcases hm.classAt?_eq_some.mp hat with ⟨howner, rfl⟩
  exact ⟨owner, howner, by simpa [Class.isSubclassOf] using hid, hown⟩

/-- A visible field has a descriptor. -/
theorem exists_field?_of_hasField (hm : m.Sound) (hcls : cls ∈ m.classes)
    (h : cls.hasField name) : ∃ field, m.field? cls name = some field := by
  rcases hasField_iff.mp h with ⟨ref, href⟩
  rcases hm.exists_of_visible hcls href with ⟨owner, howner, -, hown⟩
  rcases hm.ownRef?_eq_some howner hown with ⟨field, -, -, -, hat⟩
  exact ⟨field, by simp [field?, href, hat]⟩

/-! ## Merging parents -/

/-- The chain of a class is the class with the chains of its parents joined to it. -/
theorem ancestors_eq_joinAll (hm : m.Sound) (hcls : cls ∈ m.classes) :
    ∃ chainOf, (∀ parent ∈ m.classes, parent.id ∈ cls.parents →
        chainOf parent.id = parent.ancestors) ∧
      cls.ancestors = Ancestry.joinAll chainOf [cls.id] cls.parents := by
  have hchain := hm.ancestors cls hcls
  generalize hfound : cls.ancestors = found at hchain
  cases hchain with
  | of _ chainOf habove =>
    rw [hm.above_parents hcls] at habove
    refine ⟨chainOf, fun parent hparent hid => ?_, by rw [hm.above_parents hcls]⟩
    exact (habove parent.id hid).unique (hm.ancestors parent hparent)

/-- What is visible on a class is its own, or else what is visible on the first parent on which
something is: repeats dropped from joined chains do not matter to what is found first. -/
theorem get?_visible_eq_or (hm : m.Sound) (hcls : cls ∈ m.classes) (name : String) :
    cls.visible.get? name = (cls.ownRef? name).or
      ((m.classesAt cls.parents).findSome? fun parent => parent.visible.get? name) := by
  rcases hm.ancestors_eq_joinAll hcls with ⟨chainOf, hparents, hjoin⟩
  rw [hm.get?_visible hcls, hjoin, Ancestry.findSome?_joinAll]
  have hself : [cls.id].findSome? (m.ownRefAt? name) = cls.ownRef? name := by
    rw [List.findSome?_cons, List.findSome?_nil, hm.ownRefAt?_id hcls]
    cases cls.ownRef? name <;> rfl
  rw [hself]
  congr 1
  symm
  apply findSome?_classesAt
  intro id hid
  rcases hm.exists_parent hcls hid with ⟨parent, hparent, rfl⟩
  rw [hm.classAt?_eq_some.mpr ⟨hparent, rfl⟩, Option.bind_some, hm.get?_visible hparent,
    hparents parent hparent hid]

/-- A subclass has every field that a class has. -/
theorem hasField_of_isSubclassOf (hm : m.Sound) (hcls : cls ∈ m.classes)
    (hother : other ∈ m.classes) (h : cls.isSubclassOf other) (hfield : other.hasField name) :
    cls.hasField name := by
  rcases hasField_iff.mp hfield with ⟨ref, href⟩
  rcases hm.exists_of_visible hother href with ⟨owner, howner, hsub, hown⟩
  have hmem : owner.id ∈ cls.ancestors := by
    simpa [Class.isSubclassOf] using hm.isSubclassOf_trans hcls hother howner h hsub
  rw [Class.hasField, hm.get?_visible hcls, List.findSome?_isSome_iff]
  exact ⟨owner.id, hmem, by rw [hm.ownRefAt?_id howner, hown]; rfl⟩

/-! ## The first class to declare a name -/

theorem nodup_classesAt (hm : m.Sound) {ids : List ClassId} (h : ids.Nodup) :
    (m.classesAt ids).Nodup := by
  apply h.filterMap
  intro id id' found hid hid'
  rw [Option.mem_def, hm.classAt?_eq_some] at hid hid'
  exact hid.2.symm.trans hid'.2

theorem fieldAt?_ownRef? (hm : m.Sound) (hcls : cls ∈ m.classes) :
    (cls.ownRef? name).bind m.fieldAt? = cls.ownField? name := by
  cases href : cls.ownRef? name with
  | none => rw [ownRef?_eq_none.mp href, Option.bind_none]
  | some ref =>
    rcases hm.ownRef?_eq_some hcls href with ⟨field, hfield, -, -, hat⟩
    rw [hfield, Option.bind_some, hat]

/-- The field of a name is that of the first class of the chain with an own field of the name. -/
theorem field?_eq_findSome? (hm : m.Sound) (hcls : cls ∈ m.classes) :
    m.field? cls name = (m.classesAt cls.ancestors).findSome? (·.ownField? name) := by
  have hfound : cls.visible.get? name =
      (m.classesAt cls.ancestors).findSome? fun owner => owner.ownRef? name := by
    rw [hm.get?_visible hcls, findSome?_classesAt fun id _ => rfl]
    rfl
  have hfield : ∀ owner ∈ m.classesAt cls.ancestors,
      (owner.ownRef? name).bind m.fieldAt? = owner.ownField? name := by
    intro owner howner
    exact hm.fieldAt?_ownRef? (hm.mem_classesAt.mp howner).1
  rw [field?, hfound]
  apply bind_findSome? hfield
  intro owner howner ref href
  rcases hm.ownRef?_eq_some (hm.mem_classesAt.mp howner).1 href with ⟨field, -, -, -, hat⟩
  simp [hat]

theorem owner_of_ownField? (hm : m.Sound) (hcls : cls ∈ m.classes) {field : Field}
    (h : cls.ownField? name = some field) : field.owner = cls.id :=
  hm.owned cls hcls field (List.mem_of_find?_eq_some h)

/-- No two classes have the same own field. -/
theorem eq_of_ownField? (hm : m.Sound) (hcls : cls ∈ m.classes) (hother : other ∈ m.classes)
    {field : Field} (h : cls.ownField? name = some field) (h' : other.ownField? name = some field) :
    cls = other := by
  apply hm.eq_of_id_eq hcls hother
  rw [← hm.owner_of_ownField? hcls h, hm.owner_of_ownField? hother h']

/-- A class that has the field of another can be left upwards to that over classes with no own field
of the name. -/
theorem way_of_field? (hm : m.Sound) (hcls : cls ∈ m.classes) (hother : other ∈ m.classes)
    {field : Field} (hfield : m.field? cls name = some field)
    (hown : other.ownField? name = some field) :
    Relation.ReflTransGen (fun cls parent => m.Extends cls parent ∧ cls.ownField? name = none)
      cls other := by
  rcases Option.bind_eq_some_iff.mp hfield with ⟨ref, href, hat⟩
  rw [hm.get?_visible hcls] at href
  rcases (hm.ancestors cls hcls).exists_way_of_findSome? href with ⟨last, hlast, hway⟩
  rcases Option.bind_eq_some_iff.mp hlast with ⟨owner, hfound, hown'⟩
  rcases hm.classAt?_eq_some.mp hfound with ⟨howner, rfl⟩
  obtain rfl : owner = other := by
    have hfirst : owner.ownField? name = some field := by
      rw [← hm.fieldAt?_ownRef? howner, hown', Option.bind_some, hat]
    exact hm.eq_of_ownField? howner hother hfirst hown
  apply hm.way_of_id ?_ hcls howner hway
  intro cls hcls hnone
  rwa [hm.ownRefAt?_id hcls, ownRef?_eq_none] at hnone

end Sound

/-- Fields are inherited class by class. A class has its own field of a name; without one it has
that of the first parent, in declared order, on which the name is visible; otherwise it has none. So
a subclass has every field that its superclasses have. -/
theorem field_merged {m : Model} {c : Class} (hm : m.Built) (hc : c ∈ m.classes) (f : String) :
    (∀ field, c.ownField? f = some field → m.field? c f = some field ∧
      ∃ index, c.ownFields[index]? = some field ∧ c.visible.get? f = some ⟨c.id, index⟩) ∧
    (c.ownField? f = none → ∀ before p after, m.classesAt c.parents = before ++ p :: after →
      (∀ q ∈ before, ¬ q.hasField f) → p.hasField f →
        c.visible.get? f = p.visible.get? f ∧ m.field? c f = m.field? p f ∧
          (m.field? p f).isSome) ∧
    (c.ownField? f = none → (∀ p ∈ m.classesAt c.parents, ¬ p.hasField f) →
      ¬ c.hasField f ∧ m.field? c f = none) ∧
    (∀ b ∈ m.classes, c.isSubclassOf b → b.hasField f → c.hasField f) := by
  have hs := hm.sound
  have hmerged := hs.get?_visible_eq_or hc f
  refine ⟨?own, ?inherited, ?absent, ?below⟩
  case own =>
    intro field hfield
    rcases hs.exists_ownRef? hc hfield with ⟨ref, href, howner, hindex, hat⟩
    rw [href, Option.some_or] at hmerged
    refine ⟨by simp [field?, hmerged, hat], ref.index, hindex, ?_⟩
    rw [hmerged, ← howner]
  case inherited =>
    intro hnone before p after hparents hbefore hp
    have hpmem : p ∈ m.classes :=
      (hs.mem_classesAt.mp (hparents ▸ List.mem_append_right _ List.mem_cons_self)).1
    rcases Sound.hasField_iff.mp hp with ⟨ref, href⟩
    rcases hs.exists_field?_of_hasField hpmem hp with ⟨field, hfield⟩
    -- the parents before `p` have nothing to offer, so the search gets to `p`
    have hskip : before.findSome? (fun q => q.visible.get? f) = none := by
      rw [List.findSome?_eq_none_iff]
      intro q hq
      simpa [Class.hasField] using hbefore q hq
    have hvisible : c.visible.get? f = p.visible.get? f := by
      rw [hmerged, Sound.ownRef?_eq_none.mpr hnone, Option.none_or, hparents, List.findSome?_append,
        hskip, Option.none_or, List.findSome?_cons, href]
    exact ⟨hvisible, by rw [field?, field?, hvisible], by rw [hfield]; rfl⟩
  case absent =>
    intro hnone hparents
    have hvisible : c.visible.get? f = none := by
      rw [hmerged, Sound.ownRef?_eq_none.mpr hnone, Option.none_or, List.findSome?_eq_none_iff]
      intro p hp
      simpa [Class.hasField] using hparents p hp
    exact ⟨by simp [Class.hasField, hvisible], by simp [field?, hvisible]⟩
  case below =>
    intro b hb hsub hfield
    exact hs.hasField_of_isSubclassOf hc hb hsub hfield

/-- In the diamond both parents have the field, of two classes; that of the first is inherited. -/
theorem field_merged_diamond :
    Diamond.model.Built ∧ Diamond.event ∈ Diamond.model.classes ∧
      Diamond.dated.hasField "label" ∧
      Diamond.event.visible.get? "label" = Diamond.named.visible.get? "label" ∧
      Diamond.model.field? Diamond.event "label" = Diamond.model.field? Diamond.named "label" := by
  have hevent : Diamond.event ∈ Diamond.model.classes := by decide
  rcases field_merged Diamond.model_built hevent "label" with ⟨-, hinherited, -, -⟩
  rcases hinherited (by decide) [] Diamond.named [Diamond.dated] (by decide) (by decide) (by decide)
      with ⟨hvisible, hfield, -⟩
  exact ⟨Diamond.model_built, hevent, by decide, hvisible, hfield⟩

/-- A field that is declared anew may still be had from the base: the diamond reaches the base by
its first parent, before the class that declares the field anew. -/
theorem field_of_base_in_diamond :
    ¬ ∀ m : Model, m.Built → ∀ c ∈ m.classes, ∀ a ∈ m.classesAt c.ancestors,
      ∀ b ∈ m.classesAt c.ancestors, ∀ f, a ≠ b → (a.ownField? f).isSome → (b.ownField? f).isSome →
        b.isSubclassOf a → m.field? c f ≠ a.ownField? f := by
  intro hnearest
  apply hnearest Diamond.model Diamond.model_built Diamond.event (by decide)
    Diamond.thing (by decide) Diamond.dated (by decide) "label"
  all_goals decide

/-- When a class gets the field of a name of a class above it: exactly when no class before that one
in the chain declares the name. So it gets the field of a base that a class below declares anew only
when the base stands before that class, and can be reached over classes that do not declare the
name. -/
theorem field_of_base_iff {m : Model} {c a : Class} {f : String} {before after : List Class}
    (hm : m.Built) (hc : c ∈ m.classes) (hchain : m.classesAt c.ancestors = before ++ a :: after)
    (hdeclares : (a.ownField? f).isSome) :
    (m.field? c f = a.ownField? f ↔ ∀ d ∈ before, d.ownField? f = none) ∧
    ∀ b ∈ m.classesAt c.ancestors, a ≠ b → (b.ownField? f).isSome → b.isSubclassOf a →
      m.field? c f = a.ownField? f →
        b ∈ after ∧
          Relation.ReflTransGen (fun x y => m.Extends x y ∧ x.ownField? f = none) c a := by
  have hs := hm.sound
  rcases Option.isSome_iff_exists.1 hdeclares with ⟨field, hfield⟩
  have hmem : ∀ d ∈ m.classesAt c.ancestors, d ∈ m.classes := by
    intro d hd
    exact (hs.mem_classesAt.mp hd).1
  have hnodup := hs.nodup_classesAt (hs.ancestors c hc).nodup
  have ha : a ∈ m.classes := hmem a (by simp [hchain])
  have hfirst : m.field? c f = a.ownField? f ↔ ∀ d ∈ before, d.ownField? f = none := by
    rw [hs.field?_eq_findSome? hc, hchain, List.findSome?_append, List.findSome?_cons, hfield,
      ← List.findSome?_eq_none_iff]
    cases hearlier : before.findSome? (·.ownField? f) with
    | none => simp
    | some other =>
      -- the class found earlier is another than `a`, and so is its field
      rcases List.exists_of_findSome?_eq_some hearlier with ⟨d, hd, hother⟩
      simp only [Option.some_or, reduceCtorEq, iff_false, Option.some.injEq]
      rintro rfl
      have hda : d = a := hs.eq_of_ownField? (hmem d (by simp [hchain, hd])) ha hother hfield
      rw [hchain, List.nodup_append] at hnodup
      exact hnodup.2.2 d hd a List.mem_cons_self hda
  refine ⟨hfirst, ?_⟩
  intro b hb hne hdeclared _ hgets
  constructor
  · rw [hchain, List.mem_append, List.mem_cons] at hb
    rcases hb with hbefore | heq | hafter
    · -- no class before `a` declares the name
      rw [hfirst.1 hgets b hbefore] at hdeclared
      simp at hdeclared
    · exact absurd heq.symm hne
    · exact hafter
  · exact hs.way_of_field? hc ha (hgets.trans hfield) hfield

/-- In the diamond the base stands before the class that declares the field anew, and is reached
over the other way up. -/
theorem field_of_base_iff_diamond :
    Diamond.model.Built ∧ Diamond.event ∈ Diamond.model.classes ∧
      Diamond.model.classesAt Diamond.event.ancestors =
        [Diamond.event, Diamond.named] ++ Diamond.thing :: [Diamond.dated] ∧
      (Diamond.thing.ownField? "label").isSome ∧
      Diamond.model.field? Diamond.event "label" = Diamond.thing.ownField? "label" ∧
      Relation.ReflTransGen (fun x y => Diamond.model.Extends x y ∧ x.ownField? "label" = none)
        Diamond.event Diamond.thing := by
  have hevent : Diamond.event ∈ Diamond.model.classes := by decide
  have hchain : Diamond.model.classesAt Diamond.event.ancestors =
      [Diamond.event, Diamond.named] ++ Diamond.thing :: [Diamond.dated] := by decide
  rcases field_of_base_iff (f := "label") Diamond.model_built hevent hchain (by decide)
      with ⟨hfirst, hoverridden⟩
  have hgets := hfirst.2 (by decide)
  rcases hoverridden Diamond.dated (by decide) (by decide) (by decide) (by decide) hgets
      with ⟨-, hway⟩
  exact ⟨Diamond.model_built, hevent, hchain, by decide, hgets, hway⟩

end Model

end ClassModel
