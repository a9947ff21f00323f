import ClassModel.Proofs.Instance.Override

/-!
# Objects built beforehand

An object within data may be given as a map, to be built on the way, or as an instance that was
built before. Both ways lead to the same: data that makes an instance still makes it when any maps
in it give way to what they make of the class that is asked for in their place.

* `Construction.slot_eq_ok_reference`, `related_eq_ok` — what references and collections hold is
  what the class they refer to makes of the data;
* `Model.Stands` — a map in data, and the class asked for in its place;
* `Model.Prebuilt` — data some of whose maps have given way to instances;
* `Model.Sound.construct_of_prebuilt` — objects, entries, values and items, along the data;
* `Model.construct_prebuilt` — data makes what it made with its maps, as does the instance itself.
-/

namespace ClassModel

namespace Construction

variable {m : Model} {owner asked cls : Class} {field : Field} {link : Link}

/-! ## Related objects -/

/-- A reference holds what the class it refers to makes of the data. -/
theorem slot_eq_ok_reference (hkind : field.kind = .reference link) {value : Data} {i : Instance} :
    slot m owner field value = .ok (.reference i) ↔ m.construct link.target value = .ok i := by
  cases value with
  | null => simp [slot, pure, Except.pure, Model.construct_eq_ok]
  | scalar value => simp [slot, ofScalar_eq_ok, Model.construct_eq_ok]
  | list items => simp [slot_list_eq_ok, Model.construct_eq_ok]
  | map entries => simp [slot_map_eq_ok, hkind, Model.construct_eq_ok]
  | built built => simp [slot_built_eq_ok, hkind, Model.construct_built_eq_ok]

/-- An item of a collection is what the class it refers to makes of the data. -/
theorem item_eq_ok (hasked : m.class? link.target = some asked) {value : Data} {i : Instance} :
    item m owner field asked value = .ok i ↔ m.construct link.target value = .ok i := by
  cases value with
  | null => simp [item, Model.construct_eq_ok]
  | scalar value => simp [item, Model.construct_eq_ok]
  | list items => simp [item, Model.construct_eq_ok]
  | map entries => rw [item, Model.construct_map hasked]
  | built built => simp [item, accept_eq_ok, Model.construct_built_eq_ok, hasked]

/-- A collection holds what the class it refers to makes of the items. -/
theorem related_eq_ok (hasked : m.class? link.target = some asked) {items : List Data}
    {found : List Instance} :
    related m owner field asked items = .ok found ↔
      List.Forall₂ (fun value i => m.construct link.target value = .ok i) items found := by
  rw [related_eq_mapM, mapM_eq_ok]
  simp only [item_eq_ok hasked]

/-- Every entry that is left for a field has been taken for one. -/
theorem exists_slot {named : Bool} {entries : List (String × Data)} {given : List (String × Slot)}
    (h : slots m cls named entries = .ok given) {key : String} {value : Data}
    (hentry : (key, value) ∈ entries) (hkey : ¬ (named ∧ key = classKey)) :
    ∃ field held, m.field? cls key = some field ∧ slot m cls field value = .ok held := by
  have hleft : (key, value) ∈ entries.filter (isForField named) :=
    List.mem_filter.mpr ⟨hentry, by simpa [isForField, imp_iff_not_or] using hkey⟩
  rw [slots_eq_mapM, mapM_eq_ok] at h
  rcases exists_right_of_forall₂ h hleft with ⟨found, -, hfound⟩
  unfold Construction.given at hfound
  split at hfound
  · simp at hfound
  · next field hfield =>
    rcases bind_eq_ok.mp hfound with ⟨held, hheld, -⟩
    exact ⟨field, held, hfield, hheld⟩

end Construction

namespace Model

open Construction

/-- Every entry of a map that makes an object, but for one that names a class, makes a field. -/
theorem exists_slot_of_construct {m : Model} {asked cls : Class} {className key : String}
    {named : Bool} {entries : List (String × Data)} {value : Data} {field : Field} {i : Instance}
    (hasked : m.class? className = some asked)
    (hchoice : chooseClass m asked entries = .ok (cls, named))
    (hfield : m.field? cls key = some field) (hentry : (key, value) ∈ entries)
    (hkey : ¬ (named ∧ key = classKey)) (h : m.construct className (.map entries) = .ok i) :
    ∃ held, slot m cls field value = .ok held := by
  rcases (construct_map_eq_ok hasked hchoice).mp h with ⟨given, hgiven, -⟩
  rcases exists_slot hgiven hentry hkey with ⟨found, held, hfound, hheld⟩
  obtain rfl : field = found := Option.some.inj (hfield.symm.trans hfound)
  exact ⟨held, hheld⟩

/-! ## Maps within data -/

/-- A map stands within data where an object of a class is asked for: as the data itself, as the
value of a reference or as an item of a collection, at any depth. -/
inductive Stands (m : Model) : String → Data → String → List (String × Data) → Prop
  | whole (className : String) (entries : List (String × Data)) :
      Stands m className (.map entries) className entries
  | reference (className : String) (asked cls : Class) (named : Bool)
      (entries : List (String × Data)) (key : String) (value : Data) (field : Field) (link : Link)
      (partName : String) (part : List (String × Data))
      (hasked : m.class? className = some asked)
      (hchoice : chooseClass m asked entries = .ok (cls, named)) (hentry : (key, value) ∈ entries)
      (hkey : ¬ (named ∧ key = classKey)) (hfield : m.field? cls key = some field)
      (hkind : field.kind = .reference link) (hpart : Stands m link.target value partName part) :
      Stands m className (.map entries) partName part
  | item (className : String) (asked cls : Class) (named : Bool)
      (entries : List (String × Data)) (key : String) (items : List Data) (value : Data)
      (field : Field) (link : Link) (partName : String) (part : List (String × Data))
      (hasked : m.class? className = some asked)
      (hchoice : chooseClass m asked entries = .ok (cls, named))
      (hentry : (key, .list items) ∈ entries) (hkey : ¬ (named ∧ key = classKey))
      (hfield : m.field? cls key = some field) (hkind : field.kind = .collection link)
      (hitem : value ∈ items) (hpart : Stands m link.target value partName part) :
      Stands m className (.map entries) partName part

mutual

/-- Data for an object of a class, some of whose maps have given way to the instances they make. -/
inductive Prebuilt (m : Model) : String → Data → Data → Prop
  | same (className : String) (data : Data) : Prebuilt m className data data
  | inside (className : String) (asked cls : Class) (named : Bool)
      (entries entries' : List (String × Data)) (hasked : m.class? className = some asked)
      (hchoice : chooseClass m asked entries = .ok (cls, named))
      (hentries : PrebuiltEntries m cls named entries entries') :
      Prebuilt m className (.map entries) (.map entries')
  | built (className : String) (entries : List (String × Data)) (i : Instance)
      (hbuilt : m.construct className (.map entries) = .ok i) :
      Prebuilt m className (.map entries) (.built i)

/-- Entries for the fields of a class. The entry that named the class stays as it is. -/
inductive PrebuiltEntries (m : Model) :
    Class → Bool → List (String × Data) → List (String × Data) → Prop
  | nil (cls : Class) (named : Bool) : PrebuiltEntries m cls named [] []
  | passed (cls : Class) (named : Bool) (key : String) (value : Data)
      (rest rest' : List (String × Data)) (hkey : named ∧ key = classKey)
      (hrest : PrebuiltEntries m cls named rest rest') :
      PrebuiltEntries m cls named ((key, value) :: rest) ((key, value) :: rest')
  | field (cls : Class) (named : Bool) (key : String) (field : Field) (value value' : Data)
      (rest rest' : List (String × Data)) (hkey : ¬ (named ∧ key = classKey))
      (hfield : m.field? cls key = some field) (hvalue : PrebuiltValue m field value value')
      (hrest : PrebuiltEntries m cls named rest rest') :
      PrebuiltEntries m cls named ((key, value) :: rest) ((key, value') :: rest')

/-- The value of a field. -/
inductive PrebuiltValue (m : Model) : Field → Data → Data → Prop
  | same (field : Field) (value : Data) : PrebuiltValue m field value value
  | reference (field : Field) (link : Link) (entries : List (String × Data)) (value' : Data)
      (hkind : field.kind = .reference link)
      (hvalue : Prebuilt m link.target (.map entries) value') :
      PrebuiltValue m field (.map entries) value'
  | collection (field : Field) (link : Link) (items items' : List Data)
      (hkind : field.kind = .collection link)
      (hitems : PrebuiltItems m link.target items items') :
      PrebuiltValue m field (.list items) (.list items')

/-- The items of a collection. -/
inductive PrebuiltItems (m : Model) : String → List Data → List Data → Prop
  | nil (className : String) : PrebuiltItems m className [] []
  | cons (className : String) (value value' : Data) (rest rest' : List Data)
      (hvalue : Prebuilt m className value value')
      (hrest : PrebuiltItems m className rest rest') :
      PrebuiltItems m className (value :: rest) (value' :: rest')

end

variable {m : Model} {asked cls : Class} {className : String}

/-! ## The class chosen -/

namespace PrebuiltEntries

variable {named : Bool} {entries entries' : List (String × Data)}

theorem names_eq (h : PrebuiltEntries m cls named entries entries') :
    Entries.names entries' = Entries.names entries := by
  induction entries generalizing entries' with
  | nil =>
    cases h
    rfl
  | cons entry rest ih =>
    cases h with
    | passed _ _ _ _ _ _ _ hrest => simpa [Entries.names] using ih hrest
    | field _ _ _ _ _ _ _ _ _ _ _ hrest => simpa [Entries.names] using ih hrest

/-- What named the class does so still. -/
theorem get?_classKey (h : PrebuiltEntries m cls named entries entries') (hnamed : named) :
    Entries.get? classKey entries' = Entries.get? classKey entries := by
  induction entries generalizing entries' with
  | nil =>
    cases h
    rfl
  | cons entry rest ih =>
    cases h with
    | passed _ _ key _ _ _ hkey _ => simp only [Entries.get?, if_pos hkey.2]
    | field _ _ key _ _ _ _ _ hkey _ _ hrest =>
      have hother : key ≠ classKey := fun heq => hkey ⟨hnamed, heq⟩
      simp only [Entries.get?, if_neg hother, ih hrest]

/-- The class chosen is the same. -/
theorem chooseClass_eq_ok (h : PrebuiltEntries m cls named entries entries')
    (hchoice : chooseClass m asked entries = .ok (cls, named)) :
    chooseClass m asked entries' = .ok (cls, named) := by
  by_cases hfield : asked.hasField classKey
  · rw [← hchoice, chooseClass_of_hasField hfield, chooseClass_of_hasField hfield]
  · cases hget : Entries.get? classKey entries with
    | none =>
      have hget' : Entries.get? classKey entries' = none := by
        rw [← Option.not_isSome_iff_eq_none, Entries.isSome_get?] at hget ⊢
        rwa [h.names_eq]
      rw [← hchoice, chooseClass_of_none hget, chooseClass_of_none hget']
    | some value =>
      have hrule := (chooseClass_of_some_eq_ok hfield hget).mp hchoice
      have hget' : Entries.get? classKey entries' = some value := by
        rw [h.get?_classKey hrule.1, hget]
      exact (chooseClass_of_some_eq_ok hfield hget').mpr hrule

end PrebuiltEntries

/-! ## Instances again -/

namespace Sound

/-- An instance that a class has made is one of its instances. -/
theorem construct_built (hm : m.Sound) {data : Data} {i : Instance}
    (h : m.construct className data = .ok i) : m.construct className (.built i) = .ok i := by
  rcases construct_eq_ok.mp h with ⟨asked, hasked, ⟨entries, rfl, hobject⟩ | ⟨rfl, -⟩⟩
  · rcases object_eq_ok.mp hobject with ⟨cls, named, given, hchoice, -, rfl⟩
    have hclass := hm.mem_of_class? hasked
    have hcls : cls ∈ m.classes := mem_of_chooseClass hm hclass hchoice
    have hsub : cls.isSubclassOf asked := isSubclassOf_of_chooseClass hm hclass hchoice
    -- its class is found again under the name of the class itself
    have hfits : fits m asked (instanceOf cls given) = .ok true :=
      fits_eq_ok_true.mpr ⟨cls, hm.class?_name hcls, hsub⟩
    exact construct_built_eq_ok.mpr ⟨asked, hasked, hfits, rfl⟩
  · exact h

/-! ## Maps that give way

Data is followed down to the maps that give way. A map is met both as data for a class and as the
value of a reference, so its step is stated apart, for entries that are known to keep their fields.
-/

/-- A map makes the same when maps in its entries give way, and when it gives way itself. -/
theorem construct_of_map (hm : m.Sound) {entries : List (String × Data)} {data' : Data}
    {i : Instance}
    (hslots : ∀ cls named entries' given, PrebuiltEntries m cls named entries entries' →
      slots m cls named entries = .ok given → slots m cls named entries' = .ok given)
    (hdata : Prebuilt m className (.map entries) data')
    (h : m.construct className (.map entries) = .ok i) : m.construct className data' = .ok i := by
  cases hdata with
  | same => exact h
  | inside _ asked cls named _ entries' hasked hchoice hentries =>
    -- what names the class has stayed, so the entries are for the fields of the same class
    have hstill := hentries.chooseClass_eq_ok hchoice
    rcases (construct_map_eq_ok hasked hchoice).mp h with ⟨given, hgiven, rfl⟩
    have hgiven' := hslots cls named entries' given hentries hgiven
    exact (construct_map_eq_ok hasked hstill).mpr ⟨given, hgiven', rfl⟩
  | built _ _ made hbuilt =>
    -- the instance that took its place is the one that the map makes here
    rcases Except.ok.inj (hbuilt.symm.trans h) with rfl
    exact hm.construct_built h

mutual

/-- Data makes the same object. -/
theorem construct_of_prebuilt (hm : m.Sound) {className : String} :
    ∀ (data : Data) {data' : Data} {i : Instance}, Prebuilt m className data data' →
      m.construct className data = .ok i → m.construct className data' = .ok i
  | .map entries, _, _, hdata, h =>
    hm.construct_of_map (fun _ _ _ _ => slots_of_prebuilt hm entries) hdata h
  | .null, _, _, .same .., h => h
  | .scalar _, _, _, .same .., h => h
  | .list _, _, _, .same .., h => h
  | .built _, _, _, .same .., h => h
termination_by structural data => data

/-- Entries give the same fields. -/
theorem slots_of_prebuilt (hm : m.Sound) {cls : Class} {named : Bool} :
    ∀ (entries : List (String × Data)) {entries' : List (String × Data)}
      {given : List (String × Slot)}, PrebuiltEntries m cls named entries entries' →
        slots m cls named entries = .ok given → slots m cls named entries' = .ok given
  | [], entries', given, hentries, h => by
    cases hentries
    exact h
  | (key, value) :: rest, entries', given, hentries, h => by
    cases hentries with
    | passed _ _ _ _ _ rest' hkey hrest =>
      -- the key that named the class gives no field
      rcases slots_cons_eq_ok.mp h with ⟨-, hothers⟩ | ⟨hother, -⟩
      · exact slots_cons_eq_ok.mpr (Or.inl ⟨hkey, slots_of_prebuilt hm rest hrest hothers⟩)
      · exact absurd hkey hother
    | field _ _ _ field _ value' _ rest' hkey hfield hvalue hrest =>
      rcases slots_cons_eq_ok.mp h with
        ⟨hpassed, -⟩ | ⟨-, found, held, others, hfound, hheld, hothers, rfl⟩
      · exact absurd hpassed hkey
      · obtain rfl : field = found := Option.some.inj (hfield.symm.trans hfound)
        have hheld' := slot_of_prebuilt hm value hvalue hheld
        have hothers' := slots_of_prebuilt hm rest hrest hothers
        exact slots_cons_eq_ok.mpr
          (Or.inr ⟨hkey, field, held, others, hfield, hheld', hothers', rfl⟩)
termination_by structural entries => entries

/-- A value gives a field the same. -/
theorem slot_of_prebuilt (hm : m.Sound) {owner : Class} {field : Field} :
    ∀ (value : Data) {value' : Data} {held : Slot}, PrebuiltValue m field value value' →
      slot m owner field value = .ok held → slot m owner field value' = .ok held
  | .map entries, value', held, hvalue, h => by
    cases hvalue with
    | same => exact h
    | reference _ link _ _ hkind hobject =>
      rcases slot_map_eq_ok.mp h with ⟨_, _, i, -, -, -, rfl⟩
      rw [slot_eq_ok_reference hkind] at h ⊢
      exact hm.construct_of_map (fun _ _ _ _ => slots_of_prebuilt hm entries) hobject h
  | .list items, value', held, hvalue, h => by
    cases hvalue with
    | same => exact h
    | collection _ link _ items' hkind hitems =>
      rcases slot_list_eq_ok.mp h with ⟨link', asked, found, hkind', hasked, hfound, rfl⟩
      obtain rfl : link = link' := FieldKind.collection.inj (hkind.symm.trans hkind')
      -- the items are constructions of the class that the collection refers to
      rw [related_eq_ok hasked] at hfound
      have hfound' := items_of_prebuilt hm items hitems hfound
      exact slot_list_eq_ok.mpr
        ⟨link, asked, found, hkind, hasked, (related_eq_ok hasked).mpr hfound', rfl⟩
  | .null, _, _, .same .., h => h
  | .scalar _, _, _, .same .., h => h
  | .built _, _, _, .same .., h => h
termination_by structural value => value

/-- Items make the same objects. -/
theorem items_of_prebuilt (hm : m.Sound) {className : String} :
    ∀ (items : List Data) {items' : List Data} {found : List Instance},
      PrebuiltItems m className items items' →
        List.Forall₂ (fun value i => m.construct className value = .ok i) items found →
          List.Forall₂ (fun value i => m.construct className value = .ok i) items' found
  | [], items', found, hitems, h => by
    cases hitems
    exact h
  | value :: rest, items', found, hitems, h => by
    cases hitems with
    | cons _ _ value' _ rest' hvalue hrest =>
      rcases List.forall₂_cons_left_iff.mp h with ⟨i, others, hi, hothers, rfl⟩
      have hi' := construct_of_prebuilt hm value hvalue hi
      exact .cons hi' (items_of_prebuilt hm rest hrest hothers)
termination_by structural items => items

end

end Sound

/-- What stands for an object within data that makes an instance makes one as well. -/
theorem Stands.exists_construct {data : Data} {partName : String} {part : List (String × Data)}
    (hstands : m.Stands className data partName part) :
    ∀ i, m.construct className data = .ok i → ∃ j, m.construct partName (.map part) = .ok j := by
  induction hstands with
  | whole className entries => exact fun i h => ⟨i, h⟩
  | reference _ asked cls named entries key value field link _ _ hasked hchoice hentry hkey hfield
      hkind hpart ih =>
    intro i h
    rcases exists_slot_of_construct hasked hchoice hfield hentry hkey h with ⟨held, hheld⟩
    -- what stands within a value is no null, so the field is set
    obtain ⟨inner, rfl⟩ : ∃ inner, value = .map inner := by
      cases hpart <;> exact ⟨_, rfl⟩
    rcases slot_map_eq_ok.mp hheld with ⟨_, _, j, -, -, -, rfl⟩
    exact ih j ((slot_eq_ok_reference hkind).mp hheld)
  | item _ asked cls named entries key items value field link _ _ hasked hchoice hentry hkey hfield
      hkind hitem hpart ih =>
    intro i h
    rcases exists_slot_of_construct hasked hchoice hfield hentry hkey h with ⟨held, hheld⟩
    rcases slot_list_eq_ok.mp hheld with ⟨link', target, found, hkind', htarget, hfound, -⟩
    obtain rfl : link = link' := FieldKind.collection.inj (hkind.symm.trans hkind')
    rcases exists_right_of_forall₂ ((related_eq_ok htarget).mp hfound) hitem with ⟨j, -, hj⟩
    exact ih j hj

/-- Where data makes an instance, every map that stands in it for an object makes one of its own.
Maps may give way to these without a change of the instance, and the instance makes itself. -/
theorem construct_prebuilt (hm : m.Built) {data : Data} {i : Instance}
    (h : m.construct className data = .ok i) :
    (∀ partName part, m.Stands className data partName part →
      ∃ j, m.construct partName (.map part) = .ok j) ∧
    (∀ data', m.Prebuilt className data data' → m.construct className data' = .ok i) ∧
    m.construct className (.built i) = .ok i := by
  have hs := hm.sound
  refine ⟨fun partName part hpart => hpart.exists_construct i h, fun data' hdata => ?_, ?_⟩
  · exact hs.construct_of_prebuilt data hdata h
  · exact hs.construct_built h

end Model

namespace Museum

/-- A room with a fossil in its centre, which the data names, and two exhibits around it. -/
def roomData : Data :=
  .map [("centre", .map toothEntries), ("shown", .list [.map [], .map labelEntries])]

/-- The same room when the fossil and the last exhibit have been built before. -/
def roomPrebuilt : Data :=
  .map [("centre", .built tooth), ("shown", .list [.map [], .built labelled])]

/-- The room. -/
def roomInstance : Instance :=
  ⟨"museum.Room", [("centre", .reference tooth), ("shown", .collection [unlabelled, labelled])]⟩

theorem prebuilt_room : model.Prebuilt "Room" roomData roomPrebuilt := by
  have htooth : model.construct "Exhibit" (.map toothEntries) = .ok tooth := rfl
  have hlabelled : model.construct "museum.Exhibit" (.map labelEntries) = .ok labelled := rfl
  have hcentre : model.PrebuiltValue centre (.map toothEntries) (.built tooth) :=
    .reference _ ⟨"Exhibit", none⟩ _ _ rfl (.built _ _ _ htooth)
  have hshown : model.PrebuiltValue shown (.list [.map [], .map labelEntries])
      (.list [.map [], .built labelled]) :=
    .collection _ ⟨"museum.Exhibit", none⟩ _ _ rfl
      (.cons _ _ _ _ _ (.same _ _) (.cons _ _ _ _ _ (.built _ _ _ hlabelled) (.nil _)))
  refine .inside _ room room false _ _ (by decide) rfl ?_
  refine .field _ _ _ centre _ _ _ _ (by decide) (by decide) hcentre ?_
  exact .field _ _ _ shown _ _ _ _ (by decide) (by decide) hshown (.nil _ _)

end Museum

/-- The room is the same with exhibits built before, and when it has been built itself. -/
theorem Model.construct_prebuilt_museum :
    Museum.model.Built ∧ Museum.model.construct "Room" Museum.roomData = .ok Museum.roomInstance ∧
      Museum.model.Prebuilt "Room" Museum.roomData Museum.roomPrebuilt ∧
      Museum.model.construct "Room" Museum.roomPrebuilt = .ok Museum.roomInstance ∧
      Museum.model.construct "Room" (.built Museum.roomInstance) = .ok Museum.roomInstance := by
  have hroom : Museum.model.construct "Room" Museum.roomData = .ok Museum.roomInstance := rfl
  rcases construct_prebuilt Museum.model_built hroom with ⟨-, hprebuilt, hagain⟩
  have hsame := hprebuilt Museum.roomPrebuilt Museum.prebuilt_room
  exact ⟨Museum.model_built, hroom, Museum.prebuilt_room, hsame, hagain⟩

end ClassModel
