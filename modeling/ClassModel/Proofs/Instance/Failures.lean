import ClassModel.Proofs.Instance.Typing

/-!
# Why constructions fail

A construction goes down into its data, over references, collections and maps that name their class,
and may fail anywhere in it. What it fails with is to be found in the data and in the model: a class
that is unknown is named somewhere, a field that is unknown is the key of some map, and what does
not fit was given for a field that the class named has. The class that a field refers to is never
what is unknown, since it was looked up when the model was built.

* `FailsAs` — a computation fails with errors of some kind only;
* `Data.maps` — the maps in data, at any depth;
* `Model.Explains` — what a failure says of the model and of the data;
* `Construction.slots_failsAs` — the errors of entries, values and items, along the data;
* `Model.construct_explained` — every failure of a construction is explained.
-/

namespace ClassModel

/-- A computation fails with errors of some kind only. -/
def FailsAs {ε α : Type} (P : ε → Prop) (x : Except ε α) : Prop := ∀ e, x = .error e → P e

namespace FailsAs

variable {ε α β : Type} {P : ε → Prop}

theorem ok (a : α) : FailsAs P (.ok a : Except ε α) := by
  intro e h
  simp at h

theorem error {e : ε} (h : P e) : FailsAs P (.error e : Except ε α) := by
  intro e' he
  exact Except.error.inj he ▸ h

theorem bind {x : Except ε α} {f : α → Except ε β} (hx : FailsAs P x)
    (hf : ∀ a, x = .ok a → FailsAs P (f a)) : FailsAs P (x >>= f) := by
  intro e h
  rcases bind_eq_error.mp h with hfirst | ⟨a, ha, hthen⟩
  · exact hx e hfirst
  · exact hf a ha e hthen

end FailsAs

mutual

/-- The maps in data, at any depth. -/
def Data.maps : Data → List (List (String × Data))
  | .null | .scalar _ | .built _ => []
  | .map entries => entries :: Data.mapsOfEntries entries
  | .list items => Data.mapsOfItems items

/-- The maps in the values of a map. -/
def Data.mapsOfEntries : List (String × Data) → List (List (String × Data))
  | [] => []
  | (_, value) :: rest => value.maps ++ Data.mapsOfEntries rest

/-- The maps in the items of a list. -/
def Data.mapsOfItems : List Data → List (List (String × Data))
  | [] => []
  | item :: rest => item.maps ++ Data.mapsOfItems rest

end

/-- A map in data has an entry under a key. -/
def Data.HasKey (data : Data) (key : String) : Prop :=
  ∃ entries ∈ data.maps, key ∈ entries.map (·.1)

open Construction in
/-- What a failure to construct an instance of a class from data says of the model and the data. -/
inductive Model.Explains (m : Model) (className : String) (data : Data) : ConstructionError → Prop
  /-- A class that is unknown is the one asked for, or some map names it, or it is that of an
  instance built before. -/
  | unknownClass (name : String) (hunknown : m.class? name = none)
      (hnamed : name = className ∨
        (∃ entries ∈ data.maps, Entries.get? classKey entries = some (.scalar (.text name))) ∨
        ∃ i ∈ data.embedded, i.className = name) :
      Explains m className data (.lookup (.unknownClass name))
  /-- A field that a class does not have is the key of some map. -/
  | unknownField (cls : Class) (key : String) (hcls : cls ∈ m.classes) (hnone : ¬ cls.hasField key)
      (hkey : data.HasKey key) : Explains m className data (.unknownField cls.name key)
  /-- What does not fit was given for a field that the class has, or to name a class. -/
  | typeMismatch (cls : Class) (key expected value : String) (hcls : cls ∈ m.classes)
      (hfield : cls.hasField key ∨ key = classKey) :
      Explains m className data (.typeMismatch cls.name key expected value)
  /-- Data that is no object at all was given for the class asked for. -/
  | expectedObject (cls : Class) (hcls : m.class? className = some cls)
      (hmap : ∀ entries, data ≠ .map entries) (hbuilt : ∀ i, data ≠ .built i) :
      Explains m className data (.expectedObject cls.name data.describe)

/-! ## Parts of data -/

/-- Data holds maps and instances. -/
structure Data.Holds (whole : Data) (maps : List (List (String × Data)))
    (instances : List Instance) : Prop where
  maps : maps ⊆ whole.maps
  instances : instances ⊆ whole.embedded

namespace Data.Holds

variable {whole : Data} {maps maps' : List (List (String × Data))}
  {instances instances' : List Instance}

theorem left (h : whole.Holds (maps ++ maps') (instances ++ instances')) :
    whole.Holds maps instances :=
  ⟨fun _ hmem => h.maps (List.mem_append_left _ hmem),
    fun _ hmem => h.instances (List.mem_append_left _ hmem)⟩

theorem right (h : whole.Holds (maps ++ maps') (instances ++ instances')) :
    whole.Holds maps' instances' :=
  ⟨fun _ hmem => h.maps (List.mem_append_right _ hmem),
    fun _ hmem => h.instances (List.mem_append_right _ hmem)⟩

/-- The parts of a map are its entries, which are held as well. -/
theorem entries {map : List (String × Data)}
    (h : whole.Holds (Data.map map).maps (Data.map map).embedded) :
    whole.Holds (Data.mapsOfEntries map) (Data.embeddedEntries map) :=
  ⟨fun _ hmem => h.maps (List.mem_cons_of_mem _ hmem), h.instances⟩

end Data.Holds

theorem Data.hasKey_of_mem {whole : Data} {entries : List (String × Data)}
    (h : entries ∈ whole.maps) : ∀ entry ∈ entries, whole.HasKey entry.1 :=
  fun _ hentry => ⟨entries, h, List.mem_map_of_mem hentry⟩

/-! ## The steps of a construction -/

namespace Model

/-- A class has a field, and the class that the field refers to is known. -/
structure HasSlot (m : Model) (owner : Class) (field : Field) : Prop where
  mem : owner ∈ m.classes
  visible : owner.hasField field.name
  target : ∀ link, field.kind.link? = some link → ∃ cls ∈ m.classes, m.class? link.target = some cls

namespace Sound

variable {m : Model} {cls : Class} {key : String} {field : Field}

/-- A visible field has the name that it is visible by, and the class that it refers to was looked
up when the model was built. -/
theorem hasSlot (hm : m.Sound) (hcls : cls ∈ m.classes) (h : m.field? cls key = some field) :
    m.HasSlot cls field ∧ field.name = key := by
  rcases Option.bind_eq_some_iff.mp h with ⟨ref, href, hat⟩
  rcases hm.exists_of_visible hcls href with ⟨owner, howner, -, hown⟩
  rcases hm.ownRef?_eq_some howner hown with ⟨found, hfound, -, -, hat'⟩
  obtain rfl : found = field := Option.some.inj (hat'.symm.trans hat)
  have hname : found.name = key := by
    have hfind := List.find?_some hfound
    simpa using hfind
  refine ⟨⟨hcls, ?_, ?_⟩, hname⟩
  · rw [hname]
    exact hasField_iff.mpr ⟨ref, href⟩
  · intro link hlink
    have hresolve := hm.targets owner howner found (List.mem_of_find?_eq_some hfound) link hlink
    rcases Option.isSome_iff_exists.mp hresolve with ⟨id, hid⟩
    rcases hm.class?_of_resolve? hid with ⟨target, htarget, -, hclass⟩
    exact ⟨target, htarget, hclass⟩

/-- A name by which no field is found is that of no visible field. -/
theorem not_hasField (hm : m.Sound) (hcls : cls ∈ m.classes) (h : m.field? cls key = none) :
    ¬ cls.hasField key := by
  intro hfield
  rcases hm.exists_field?_of_hasField hcls hfield with ⟨field, hfound⟩
  simp [h] at hfound

end Sound

end Model

namespace Construction

variable {m : Model} {className : String} {whole : Data} {owner asked cls : Class} {field : Field}

theorem target_failsAs {P : ConstructionError → Prop} {name : String}
    (h : m.class? name = none → P (.lookup (.unknownClass name))) : FailsAs P (target m name) := by
  rw [target, Model.getClass]
  cases hfound : m.class? name with
  | none => exact .error (h hfound)
  | some cls => exact .ok cls

/-- The class that a field refers to is found, so nothing fails before it is. -/
theorem toTarget_failsAs {α : Type} {P : ConstructionError → Prop} (hslot : m.HasSlot owner field)
    {link : Link} (hlink : field.kind.link? = some link) {next : Class → Construction α}
    (h : ∀ cls ∈ m.classes, FailsAs P (next cls)) : FailsAs P (target m link.target >>= next) := by
  rcases hslot.target link hlink with ⟨cls, hcls, hfound⟩
  rw [target_eq_ok.mpr hfound]
  exact h cls hcls

theorem mismatch_failsAs {α : Type} (hslot : m.HasSlot owner field) (expected : String)
    (value : Data) :
    FailsAs (m.Explains className whole) (mismatch owner field expected value : Construction α) :=
  .error (.typeMismatch owner field.name expected value.describe hslot.mem (Or.inl hslot.visible))

theorem chooseClass_failsAs (hasked : asked ∈ m.classes) {entries : List (String × Data)}
    (hentries : entries ∈ whole.maps) :
    FailsAs (m.Explains className whole) (chooseClass m asked entries) := by
  by_cases hfield : asked.hasField classKey
  · rw [chooseClass_of_hasField hfield]
    exact .ok _
  · cases hget : Entries.get? classKey entries with
    | none =>
      rw [chooseClass_of_none hget]
      exact .ok _
    | some value =>
      have hunfit : ∀ expected found, m.Explains className whole
          (.typeMismatch asked.name classKey expected found) :=
        fun expected found => .typeMismatch asked classKey expected found hasked (Or.inr rfl)
      simp only [chooseClass, hfield, hget]
      cases hname : nameOf? value with
      | none => exact .error (hunfit _ _)
      | some name =>
        rcases nameOf?_eq_some.mp hname with rfl
        refine .bind (target_failsAs fun hunknown => ?_) fun actual _ => ?_
        · exact .unknownClass name hunknown (Or.inr (Or.inl ⟨entries, hentries, hget⟩))
        · split
          · exact .ok _
          · exact .error (hunfit _ _)

theorem mem_of_target (hm : m.Sound) {name : String} (h : target m name = .ok cls) :
    cls ∈ m.classes :=
  hm.mem_of_class? (target_eq_ok.mp h)

theorem fits_failsAs {built : Instance} (hbuilt : built ∈ whole.embedded) :
    FailsAs (m.Explains className whole) (fits m cls built) := by
  refine .bind (target_failsAs fun hunknown => ?_) fun actual _ => .ok _
  exact .unknownClass built.className hunknown (Or.inr (Or.inr ⟨built, hbuilt, rfl⟩))

/-- An instance that does not fit is blamed on the field that it was given for. -/
theorem accept_failsAs (hslot : m.HasSlot owner field) {built : Instance}
    (hbuilt : built ∈ whole.embedded) :
    FailsAs (m.Explains className whole) (accept m owner field cls built) := by
  refine .bind (fits_failsAs hbuilt) fun fitting _ => ?_
  cases fitting with
  | true => exact .ok built
  | false => exact mismatch_failsAs hslot _ _

theorem ofScalar_failsAs (hslot : m.HasSlot owner field) (value : Scalar) :
    FailsAs (m.Explains className whole) (ofScalar m owner field value) := by
  unfold ofScalar
  cases hkind : field.kind with
  | attr declaredType =>
    cases htaken : value.coerce? (.ofDeclared declaredType) with
    | none =>
      simp only [Scalar.coerce, htaken]
      exact mismatch_failsAs hslot _ _
    | some taken =>
      simp only [Scalar.coerce, htaken]
      exact .ok _
  | reference link | collection link =>
    exact toTarget_failsAs hslot (by rw [hkind]; rfl) fun _ _ => mismatch_failsAs hslot _ _

/-! ## Along the data

Entries, values and items fail as the parts that they are made of. What a failure is explained by
stays the whole data, of which they are part. -/

/-- An object fails as its choice of a class, or as its entries. -/
theorem object_failsAs (hm : m.Sound) (hasked : asked ∈ m.classes)
    {entries : List (String × Data)} (hentries : entries ∈ whole.maps)
    (hslots : ∀ cls ∈ m.classes, ∀ named,
      FailsAs (m.Explains className whole) (slots m cls named entries)) :
    FailsAs (m.Explains className whole) (object m asked entries) := by
  refine .bind (chooseClass_failsAs hasked hentries) ?_
  rintro ⟨cls, named⟩ hchoice
  exact .bind (hslots cls (mem_of_chooseClass hm hasked hchoice) named) fun given _ => .ok _

mutual

theorem slots_failsAs (hm : m.Sound) {cls : Class} (hcls : cls ∈ m.classes) (named : Bool) :
    ∀ (entries : List (String × Data)),
      (∀ entry ∈ entries, whole.HasKey entry.1) →
        whole.Holds (Data.mapsOfEntries entries) (Data.embeddedEntries entries) →
          FailsAs (m.Explains className whole) (slots m cls named entries)
  | [], _, _ => by
    rw [slots]
    exact .ok []
  | (key, value) :: rest, hkeys, hholds => by
    rw [List.forall_mem_cons] at hkeys
    have hrest := slots_failsAs hm hcls named rest hkeys.2 hholds.right
    rw [slots]
    split
    · exact hrest
    · split
      · next hnone => exact .error (.unknownField cls key hcls (hm.not_hasField hcls hnone) hkeys.1)
      · next field hfield =>
        refine .bind (slot_failsAs hm (hm.hasSlot hcls hfield).1 value hholds.left) fun held _ => ?_
        exact .bind hrest fun others _ => .ok _

theorem slot_failsAs (hm : m.Sound) {owner : Class} {field : Field}
    (hslot : m.HasSlot owner field) :
    ∀ (data : Data), whole.Holds data.maps data.embedded →
      FailsAs (m.Explains className whole) (slot m owner field data)
  | .null, _ => by
    rw [slot]
    exact .ok _
  | .scalar value, _ => by
    rw [slot]
    exact ofScalar_failsAs hslot value
  | .map entries, hholds => by
    cases hkind : field.kind with
    | attr declaredType =>
      rw [slot, hkind]
      exact mismatch_failsAs hslot _ _
    | reference link =>
      have hentries := hholds.maps List.mem_cons_self
      rw [slot_map_reference hkind]
      refine toTarget_failsAs hslot (by rw [hkind]; rfl) fun asked hasked => ?_
      refine .bind (object_failsAs hm hasked hentries fun cls hcls named => ?_) fun i _ => .ok _
      exact slots_failsAs hm hcls named entries (Data.hasKey_of_mem hentries) hholds.entries
    | collection link =>
      rw [slot, hkind]
      exact toTarget_failsAs hslot (by rw [hkind]; rfl) fun _ _ => mismatch_failsAs hslot _ _
  | .list items, hholds => by
    cases hkind : field.kind with
    | attr declaredType =>
      rw [slot, hkind]
      exact mismatch_failsAs hslot _ _
    | reference link =>
      rw [slot, hkind]
      exact toTarget_failsAs hslot (by rw [hkind]; rfl) fun _ _ => mismatch_failsAs hslot _ _
    | collection link =>
      rw [slot, hkind]
      refine toTarget_failsAs hslot (by rw [hkind]; rfl) fun asked hasked => ?_
      exact .bind (related_failsAs hm hslot hasked items hholds) fun found _ => .ok _
  | .built built, hholds => by
    have hbuilt := hholds.instances (List.mem_singleton_self built)
    cases hkind : field.kind with
    | attr declaredType =>
      rw [slot, hkind]
      exact mismatch_failsAs hslot _ _
    | reference link =>
      rw [slot, hkind]
      refine toTarget_failsAs hslot (by rw [hkind]; rfl) fun asked _ => ?_
      exact .bind (accept_failsAs hslot hbuilt) fun taken _ => .ok _
    | collection link =>
      rw [slot, hkind]
      exact toTarget_failsAs hslot (by rw [hkind]; rfl) fun _ _ => mismatch_failsAs hslot _ _

theorem related_failsAs (hm : m.Sound) {owner asked : Class} {field : Field}
    (hslot : m.HasSlot owner field) (hasked : asked ∈ m.classes) :
    ∀ (items : List Data), whole.Holds (Data.mapsOfItems items) (Data.embeddedItems items) →
      FailsAs (m.Explains className whole) (related m owner field asked items)
  | [], _ => by
    rw [related]
    exact .ok []
  | .map entries :: rest, hholds => by
    have hentries := hholds.left.maps List.mem_cons_self
    rw [related_map_cons]
    refine .bind (object_failsAs hm hasked hentries fun cls hcls named => ?_) fun i _ => ?_
    · exact slots_failsAs hm hcls named entries (Data.hasKey_of_mem hentries) hholds.left.entries
    · exact .bind (related_failsAs hm hslot hasked rest hholds.right) fun others _ => .ok _
  | .built built :: rest, hholds => by
    have hbuilt := hholds.left.instances (List.mem_singleton_self built)
    rw [related]
    refine .bind (accept_failsAs hslot hbuilt) fun taken _ => ?_
    exact .bind (related_failsAs hm hslot hasked rest hholds.right) fun others _ => .ok _
  | .null :: rest, _ => by
    unfold related
    exact mismatch_failsAs hslot _ _
  | .scalar _ :: rest, _ => by
    unfold related
    exact mismatch_failsAs hslot _ _
  | .list _ :: rest, _ => by
    unfold related
    exact mismatch_failsAs hslot _ _

end

end Construction

namespace Model

open Construction

variable {m : Model}

theorem construct_failsAs (hm : m.Sound) (className : String) (data : Data) :
    FailsAs (m.Explains className data) (m.construct className data) := by
  unfold construct
  refine .bind (target_failsAs fun hunknown => ?_) fun asked htarget => ?_
  · exact .unknownClass className hunknown (Or.inl rfl)
  · have hfound := target_eq_ok.mp htarget
    have hasked := mem_of_target hm htarget
    cases data with
    | map entries =>
      have hholds : (Data.map entries).Holds (Data.map entries).maps (Data.map entries).embedded :=
        ⟨fun _ => id, fun _ => id⟩
      have hentries := hholds.maps List.mem_cons_self
      refine object_failsAs hm hasked hentries fun cls hcls named => ?_
      exact slots_failsAs hm hcls named entries (Data.hasKey_of_mem hentries) hholds.entries
    | built built =>
      refine .bind (fits_failsAs (List.mem_singleton_self built)) fun fitting _ => ?_
      cases fitting with
      | true => exact .ok built
      | false => exact .error (.typeMismatch asked classKey _ _ hasked (Or.inr rfl))
    | null => exact .error (.expectedObject asked hfound nofun nofun)
    | scalar value => exact .error (.expectedObject asked hfound nofun nofun)
    | list items => exact .error (.expectedObject asked hfound nofun nofun)

/-- A construction of a built model fails for reasons that are there to be seen, in the data or in
the model, and never because a field of the model refers to a class that the model does not know. -/
theorem construct_explained (hm : m.Built) :
    (∀ (className : String) (data : Data) (e : ConstructionError),
      m.construct className data = .error e → m.Explains className data e) ∧
    ∀ cls ∈ m.classes, ∀ (name : String) (field : Field), m.field? cls name = some field →
      ∀ link, field.kind.link? = some link → ∃ target, m.class? link.target = some target := by
  constructor
  · exact fun className data => construct_failsAs hm.sound className data
  · intro cls hcls name field hfield link hlink
    rcases (hm.sound.hasSlot hcls hfield).1.target link hlink with ⟨target, -, hfound⟩
    exact ⟨target, hfound⟩

/-- An event with a part of a class that there is not. -/
def partyData : Data := .map [("parts", .list [.map [("class", .scalar (.text "Party"))]])]

/-- An event with a part that has a field that parts do not have. -/
def sizedData : Data := .map [("parts", .list [.map [("size", .null)]])]

theorem construct_explained_diamond :
    Diamond.model.construct "Event" partyData = .error (.lookup (.unknownClass "Party")) ∧
      Diamond.model.Explains "Event" partyData (.lookup (.unknownClass "Party")) ∧
      Diamond.model.construct "Event" sizedData = .error (.unknownField "Thing" "size") ∧
      Diamond.model.Explains "Event" sizedData (.unknownField "Thing" "size") := by
  have hparty : Diamond.model.construct "Event" partyData =
      .error (.lookup (.unknownClass "Party")) := by cbv
  have hsized : Diamond.model.construct "Event" sizedData =
      .error (.unknownField "Thing" "size") := by cbv
  rcases construct_explained Diamond.model_built with ⟨hexplained, -⟩
  exact ⟨hparty, hexplained _ _ _ hparty, hsized, hexplained _ _ _ hsized⟩

end Model

end ClassModel
