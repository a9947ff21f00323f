import ClassModel.Instance.Construction
import ClassModel.Proofs.Model.Subclass

/-!
# What each step of a construction decides

Each function of a construction is read here as the rule by which it succeeds: what it asks of the
model and of the data, and what it gives.

* `Construction.chooseClass_eq_ok` — the class built is the one asked for, or a subclass of it that
  the entries name;
* `Construction.slots_cons_eq_ok` — entries become fields one by one;
* `Construction.object_eq_ok` — an object has the fields that its entries give, and no others set;
* `Construction.slot_map_eq_ok`, `slot_list_eq_ok`, `slot_built_eq_ok` — objects, lists and
  instances built before as values of fields;
* `Model.construct_eq_ok` — data makes an instance as a map of its fields, or is one already;
* `Model.construct_map_eq_ok` — a map makes an instance of the class chosen for it.
-/

namespace ClassModel

namespace Construction

variable {m : Model} {owner cls asked : Class} {field : Field}

/-! ## Classes -/

theorem target_eq_ok {name : String} : target m name = .ok cls ↔ m.class? name = some cls := by
  rw [target, mapError_eq_ok, Model.getClass_eq_ok]

@[simp] theorem mismatch_ne_ok {α : Type} {expected : String} {value : Data} {a : α} :
    mismatch owner field expected value ≠ .ok a := by
  simp [mismatch]

theorem nameOf?_eq_some {value : Data} {name : String} :
    nameOf? value = some name ↔ value = .scalar (.text name) := by
  unfold nameOf?
  split
  · simp
  · next hother =>
    simp only [reduceCtorEq, false_iff]
    rintro rfl
    exact hother name rfl

theorem chooseClass_of_hasField {entries : List (String × Data)} (h : asked.hasField classKey) :
    chooseClass m asked entries = .ok (asked, false) := by
  simp [chooseClass, h, pure, Except.pure]

theorem chooseClass_of_none {entries : List (String × Data)}
    (h : Entries.get? classKey entries = none) :
    chooseClass m asked entries = .ok (asked, false) := by
  simp [chooseClass, h, pure, Except.pure]

/-- The entry that names a class must name a subclass of the one asked for. -/
theorem chooseClass_of_some_eq_ok {entries : List (String × Data)} {value : Data} {named : Bool}
    (hfield : ¬ asked.hasField classKey) (hget : Entries.get? classKey entries = some value) :
    chooseClass m asked entries = .ok (cls, named) ↔
      named ∧ cls.isSubclassOf asked ∧
        ∃ name, value = .scalar (.text name) ∧ m.class? name = some cls := by
  simp only [chooseClass, hfield, hget]
  cases hname : nameOf? value with
  | none =>
    -- what is no name is refused, and the rule asks for one
    have hvalue : ∀ name, value ≠ .scalar (.text name) := by
      rintro name rfl
      simp [nameOf?] at hname
    simp [hvalue]
  | some name =>
    rcases nameOf?_eq_some.mp hname with rfl
    simp only [Bool.false_eq_true, if_false, bind_eq_ok, target_eq_ok]
    constructor
    · rintro ⟨actual, hactual, h⟩
      -- only a subclass is taken
      split at h
      · next hsub =>
        rcases Prod.mk.inj (Except.ok.inj h) with ⟨rfl, rfl⟩
        exact ⟨rfl, hsub, name, rfl, hactual⟩
      · simp at h
    · rintro ⟨rfl, hsub, name', hvalue, hactual⟩
      obtain rfl : name = name' := by simpa using hvalue
      exact ⟨cls, hactual, by rw [if_pos hsub]; rfl⟩

/-- The class built is the one asked for, or a subclass of it that the entries name. -/
theorem chooseClass_eq_ok {entries : List (String × Data)} {named : Bool}
    (h : chooseClass m asked entries = .ok (cls, named)) :
    (cls = asked ∧ named = false) ∨
      (cls.isSubclassOf asked ∧ named ∧ ∃ name, m.class? name = some cls) := by
  by_cases hfield : asked.hasField classKey
  · rw [chooseClass_of_hasField hfield] at h
    rcases Prod.mk.inj (Except.ok.inj h) with ⟨rfl, rfl⟩
    exact Or.inl ⟨rfl, rfl⟩
  · cases hget : Entries.get? classKey entries with
    | none =>
      rw [chooseClass_of_none hget] at h
      rcases Prod.mk.inj (Except.ok.inj h) with ⟨rfl, rfl⟩
      exact Or.inl ⟨rfl, rfl⟩
    | some value =>
      rcases (chooseClass_of_some_eq_ok hfield hget).1 h with ⟨hnamed, hsub, name, -, hcls⟩
      exact Or.inr ⟨hsub, hnamed, name, hcls⟩

/-- The class chosen is a class of the model, as the one asked for is. -/
theorem mem_of_chooseClass (hm : m.Sound) (hasked : asked ∈ m.classes)
    {entries : List (String × Data)} {named : Bool}
    (h : chooseClass m asked entries = .ok (cls, named)) : cls ∈ m.classes := by
  rcases chooseClass_eq_ok h with ⟨rfl, -⟩ | ⟨-, -, name, hfound⟩
  · exact hasked
  · exact hm.mem_of_class? hfound

theorem isSubclassOf_of_chooseClass (hm : m.Sound) (hasked : asked ∈ m.classes)
    {entries : List (String × Data)} {named : Bool}
    (h : chooseClass m asked entries = .ok (cls, named)) : cls.isSubclassOf asked := by
  rcases chooseClass_eq_ok h with ⟨rfl, -⟩ | ⟨hsub, -⟩
  · exact hm.isSubclassOf_refl hasked
  · exact hsub

theorem fits_eq_ok_true {built : Instance} :
    fits m cls built = .ok true ↔
      ∃ actual, m.class? built.className = some actual ∧ actual.isSubclassOf cls := by
  rw [fits, bind_eq_ok]
  simp only [target_eq_ok, pure_eq_ok]

theorem accept_eq_ok {built taken : Instance} :
    accept m owner field cls built = .ok taken ↔ fits m cls built = .ok true ∧ taken = built := by
  rw [accept, bind_eq_ok]
  constructor
  · rintro ⟨fitting, hfits, h⟩
    cases fitting with
    | true => exact ⟨hfits, (pure_eq_ok.mp h).symm⟩
    | false => simp at h
  · rintro ⟨hfits, rfl⟩
    exact ⟨true, hfits, rfl⟩

/-! ## Fields -/

theorem slots_cons_eq_ok {named : Bool} {key : String} {value : Data} {rest : List (String × Data)}
    {given : List (String × Slot)} :
    slots m cls named ((key, value) :: rest) = .ok given ↔
      ((named ∧ key = classKey) ∧ slots m cls named rest = .ok given) ∨
      (¬ (named ∧ key = classKey) ∧ ∃ field held others, m.field? cls key = some field ∧
        slot m cls field value = .ok held ∧ slots m cls named rest = .ok others ∧
        given = (key, held) :: others) := by
  rw [slots]
  by_cases hkey : named ∧ key = classKey
  · simp [hkey]
  · -- any other entry needs a field of its name
    have hpassed : ¬ (named && decide (key = classKey)) = true := by simpa using hkey
    rw [if_neg hpassed]
    cases hfield : m.field? cls key with
    | none => simp [hkey]
    | some field =>
      simp only [bind_eq_ok, pure_eq_ok]
      constructor
      · rintro ⟨held, hheld, others, hothers, rfl⟩
        exact Or.inr ⟨hkey, field, held, others, rfl, hheld, hothers, rfl⟩
      · rintro (⟨hskip, -⟩ | ⟨-, found, held, others, hfound, hheld, hothers, rfl⟩)
        · exact absurd hskip hkey
        · rcases Option.some.inj hfound with rfl
          exact ⟨held, hheld, others, hothers, rfl⟩

/-- An object is of the class chosen for it, with the fields that its entries give. -/
theorem object_eq_ok {entries : List (String × Data)} {i : Instance} :
    object m asked entries = .ok i ↔
      ∃ cls named given, chooseClass m asked entries = .ok (cls, named) ∧
        slots m cls named entries = .ok given ∧ i = instanceOf cls given := by
  simp only [object, bind_eq_ok, pure_eq_ok]
  constructor
  · rintro ⟨⟨cls, named⟩, hchoice, given, hgiven, rfl⟩
    exact ⟨cls, named, given, hchoice, hgiven, rfl⟩
  · rintro ⟨cls, named, given, hchoice, hgiven, rfl⟩
    exact ⟨(cls, named), hchoice, given, hgiven, rfl⟩

/-- A map given for a reference is an object of the class that the field refers to. -/
theorem slot_map_reference {entries : List (String × Data)} {link : Link}
    (hkind : field.kind = .reference link) :
    slot m owner field (.map entries) = (do
      let asked ← target m link.target
      return .reference (← object m asked entries)) := by
  rw [slot, hkind]
  simp only [object, bind_assoc, pure_bind]

theorem slot_map_eq_ok {entries : List (String × Data)} {held : Slot} :
    slot m owner field (.map entries) = .ok held ↔
      ∃ link asked i, field.kind = .reference link ∧ m.class? link.target = some asked ∧
        object m asked entries = .ok i ∧ held = .reference i := by
  rw [slot]
  cases hkind : field.kind with
  | attr declaredType => simp
  | reference link =>
    simp only [bind_eq_ok, target_eq_ok, pure_eq_ok, object_eq_ok]
    constructor
    · rintro ⟨asked, hasked, ⟨cls, named⟩, hchoice, given, hgiven, rfl⟩
      exact ⟨link, asked, _, rfl, hasked, ⟨cls, named, given, hchoice, hgiven, rfl⟩, rfl⟩
    · rintro ⟨link', asked, _, hlink, hasked, ⟨cls, named, given, hchoice, hgiven, rfl⟩, rfl⟩
      obtain rfl : link = link' := by simpa using hlink
      exact ⟨asked, hasked, (cls, named), hchoice, given, hgiven, rfl⟩
  | collection link => simp [bind_eq_ok]

theorem slot_list_eq_ok {items : List Data} {held : Slot} :
    slot m owner field (.list items) = .ok held ↔
      ∃ link asked found, field.kind = .collection link ∧ m.class? link.target = some asked ∧
        related m owner field asked items = .ok found ∧ held = .collection found := by
  rw [slot]
  cases hkind : field.kind with
  | attr declaredType => simp
  | reference link => simp [bind_eq_ok]
  | collection link =>
    simp only [bind_eq_ok, target_eq_ok, pure_eq_ok]
    constructor
    · rintro ⟨asked, hasked, found, hfound, rfl⟩
      exact ⟨link, asked, found, rfl, hasked, hfound, rfl⟩
    · rintro ⟨link', asked, found, hlink, hasked, hfound, rfl⟩
      obtain rfl : link = link' := by simpa using hlink
      exact ⟨asked, hasked, found, hfound, rfl⟩

theorem slot_built_eq_ok {built : Instance} {held : Slot} :
    slot m owner field (.built built) = .ok held ↔
      ∃ link asked, field.kind = .reference link ∧ m.class? link.target = some asked ∧
        fits m asked built = .ok true ∧ held = .reference built := by
  rw [slot]
  cases hkind : field.kind with
  | attr declaredType => simp
  | reference link =>
    simp only [bind_eq_ok, target_eq_ok, pure_eq_ok, accept_eq_ok]
    constructor
    · rintro ⟨asked, hasked, taken, ⟨hfits, rfl⟩, rfl⟩
      exact ⟨link, asked, rfl, hasked, hfits, rfl⟩
    · rintro ⟨link', asked, hlink, hasked, hfits, rfl⟩
      obtain rfl : link = link' := by simpa using hlink
      exact ⟨asked, hasked, built, ⟨hfits, rfl⟩, rfl⟩
  | collection link => simp [bind_eq_ok]

/-- An attribute takes the value of its type that a scalar stands for; no other field takes a
scalar. -/
theorem ofScalar_eq_ok {value : Scalar} {held : Slot} :
    ofScalar m owner field value = .ok held ↔
      ∃ declaredType taken, field.kind = .attr declaredType ∧
        value.coerce? (.ofDeclared declaredType) = some taken ∧ held = .attr taken := by
  unfold ofScalar
  cases hkind : field.kind with
  | attr declaredType =>
    cases htaken : value.coerce? (.ofDeclared declaredType) with
    | none => simp [Scalar.coerce, htaken]
    | some taken => simp [Scalar.coerce, htaken, eq_comm]
  | reference link => simp [bind_eq_ok]
  | collection link => simp [bind_eq_ok]

/-! ## Items -/

/-- A map among the items of a list is an object of the class asked for. -/
theorem related_map_cons {entries : List (String × Data)} {rest : List Data} :
    related m owner field asked (.map entries :: rest) = (do
      let item ← object m asked entries
      return item :: (← related m owner field asked rest)) := by
  rw [related]
  simp only [object, bind_assoc, pure_bind]

theorem related_map_eq_ok {entries : List (String × Data)} {rest : List Data}
    {found : List Instance} :
    related m owner field asked (.map entries :: rest) = .ok found ↔
      ∃ i others, object m asked entries = .ok i ∧ related m owner field asked rest = .ok others ∧
        found = i :: others := by
  rw [related]
  simp only [bind_eq_ok, pure_eq_ok, object_eq_ok]
  constructor
  · rintro ⟨⟨cls, named⟩, hchoice, given, hgiven, others, hothers, rfl⟩
    exact ⟨_, others, ⟨cls, named, given, hchoice, hgiven, rfl⟩, hothers, rfl⟩
  · rintro ⟨_, others, ⟨cls, named, given, hchoice, hgiven, rfl⟩, hothers, rfl⟩
    exact ⟨(cls, named), hchoice, given, hgiven, others, hothers, rfl⟩

theorem related_built_eq_ok {built : Instance} {rest : List Data} {found : List Instance} :
    related m owner field asked (.built built :: rest) = .ok found ↔
      fits m asked built = .ok true ∧
        ∃ others, related m owner field asked rest = .ok others ∧ found = built :: others := by
  rw [related]
  simp only [bind_eq_ok, pure_eq_ok, accept_eq_ok]
  constructor
  · rintro ⟨taken, ⟨hfits, rfl⟩, others, hothers, rfl⟩
    exact ⟨hfits, others, hothers, rfl⟩
  · rintro ⟨hfits, others, hothers, rfl⟩
    exact ⟨built, ⟨hfits, rfl⟩, others, hothers, rfl⟩

end Construction

open Construction in
/-- Data makes an instance of a class as a map of its fields, or as an instance that fits. -/
theorem Model.construct_eq_ok {m : Model} {className : String} {data : Data} {i : Instance} :
    m.construct className data = .ok i ↔
      ∃ asked, m.class? className = some asked ∧
        ((∃ entries, data = .map entries ∧ object m asked entries = .ok i) ∨
          data = .built i ∧ fits m asked i = .ok true) := by
  unfold Model.construct
  rw [bind_eq_ok]
  simp only [target_eq_ok]
  apply exists_congr
  intro asked
  apply and_congr_right
  intro _
  -- data of any other form is refused, whatever the class
  cases data with
  | map entries => simp
  | built built =>
    rw [bind_eq_ok]
    constructor
    · rintro ⟨fitting, hfits, h⟩
      cases fitting with
      | true =>
        rcases pure_eq_ok.mp h with rfl
        exact Or.inr ⟨rfl, hfits⟩
      | false => simp at h
    · rintro (⟨_, hmap, -⟩ | ⟨hbuilt, hfits⟩)
      · simp at hmap
      · obtain rfl : built = i := by simpa using hbuilt
        exact ⟨true, hfits, rfl⟩
  | null => simp
  | scalar value => simp
  | list items => simp

open Construction in
/-- A map makes an object of the class that the name asked for refers to. -/
theorem Model.construct_map {m : Model} {className : String} {asked : Class}
    (h : m.class? className = some asked) (entries : List (String × Data)) :
    m.construct className (.map entries) = object m asked entries := by
  rw [Model.construct, target_eq_ok.mpr h]
  rfl

open Construction in
/-- What a map makes has the fields that its entries give for the class chosen. -/
theorem Model.construct_map_eq_ok {m : Model} {className : String} {asked cls : Class}
    {named : Bool} {entries : List (String × Data)} {i : Instance}
    (hasked : m.class? className = some asked)
    (hchoice : chooseClass m asked entries = .ok (cls, named)) :
    m.construct className (.map entries) = .ok i ↔
      ∃ given, slots m cls named entries = .ok given ∧ i = instanceOf cls given := by
  rw [Model.construct_map hasked, object_eq_ok]
  constructor
  · rintro ⟨cls', named', given, hchoice', hgiven, rfl⟩
    rcases Prod.mk.inj (Except.ok.inj (hchoice.symm.trans hchoice')) with ⟨rfl, rfl⟩
    exact ⟨given, hgiven, rfl⟩
  · rintro ⟨given, hgiven, rfl⟩
    exact ⟨cls, named, given, hchoice, hgiven, rfl⟩

open Construction in
/-- An instance built before is taken if it fits. -/
theorem Model.construct_built_eq_ok {m : Model} {className : String} {built i : Instance} :
    m.construct className (.built built) = .ok i ↔
      ∃ asked, m.class? className = some asked ∧
        fits m asked built = .ok true ∧ i = built := by
  rw [construct_eq_ok]
  refine exists_congr fun asked => and_congr_right fun _ => ?_
  constructor
  · rintro (⟨_, hmap, -⟩ | ⟨hbuilt, hfits⟩)
    · simp at hmap
    · obtain rfl : built = i := by simpa using hbuilt
      exact ⟨hfits, rfl⟩
  · rintro ⟨hfits, rfl⟩
    exact Or.inr ⟨rfl, hfits⟩

end ClassModel
