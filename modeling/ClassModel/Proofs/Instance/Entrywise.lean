import ClassModel.Proofs.Instance.Construction
import ClassModel.Proofs.Model.Visible

/-!
# Entries of an object, one by one

An object is built from the entries of a map in one go, and stops at the first entry that fails.
Still no entry has a say in what another one comes to: the object has in each field what the entry
of that name gives when it is given alone, and when it fails it fails as the entry of the least key
that fails alone.

* `Construction.slots_eq_mapM` — entries become fields each by itself;
* `Entries.isFirst_iff_least` — what comes first in rising entries has the least name;
* `Model.Entrywise` — an outcome is made up of the outcomes of single entries;
* `Model.construct_entrywise` — so it is of every object, of the class asked for or of the subclass
  that an entry names;
* `Museum` — a model to see it by.
-/

namespace ClassModel

namespace Entries

variable {α : Type}

/-- What comes first in entries whose names rise has the least name. -/
theorem isFirst_iff_least {entries : Entries α} (h : entries.Rising) {p : String × α → Prop}
    {entry : String × α} :
    IsFirst p entries entry ↔
      entry ∈ entries ∧ p entry ∧ ∀ other ∈ entries, other.1 < entry.1 → ¬ p other := by
  constructor
  · rintro ⟨before, after, rfl, hbefore, hentry⟩
    refine ⟨by simp, hentry, fun other hother hlt => ?_⟩
    rcases List.mem_append.mp hother with hearlier | hlater
    · exact hbefore other hearlier
    · -- the entry itself and those behind it have no lesser name
      have hrest : (entry :: after).Pairwise (·.1 < ·.1) := (List.pairwise_append.mp h).2.1
      rcases List.mem_cons.mp hlater with rfl | hbehind
      · exact absurd hlt (String.lt_irrefl _)
      · have hgt : entry.1 < other.1 := (List.pairwise_cons.mp hrest).1 other hbehind
        exact absurd (String.lt_trans hlt hgt) (String.lt_irrefl _)
  · rintro ⟨hmem, hentry, hleast⟩
    rcases List.append_of_mem hmem with ⟨before, after, rfl⟩
    refine ⟨before, after, rfl, fun other hother => ?_, hentry⟩
    have hlt : other.1 < entry.1 :=
      (List.pairwise_append.mp h).2.2 other hother entry List.mem_cons_self
    exact hleast other (List.mem_append_left _ hother) hlt

/-- Computations on entries whose names rise fail as the one of the least name that fails. -/
theorem mapM_eq_error_iff {ε β : Type} {entries : Entries α} (h : entries.Rising)
    {f : String × α → Except ε β} {e : ε} :
    entries.mapM f = .error e ↔ ∃ entry ∈ entries, f entry = .error e ∧
      ∀ other ∈ entries, other.1 < entry.1 → ∃ y, f other = .ok y := by
  rw [mapM_eq_error]
  constructor
  · rintro ⟨entry, hfirst, herror⟩
    rcases (isFirst_iff_least h).mp hfirst with ⟨hentry, -, hleast⟩
    refine ⟨entry, hentry, herror, fun other hother hlt => ?_⟩
    simpa using hleast other hother hlt
  · rintro ⟨entry, hentry, herror, hleast⟩
    refine ⟨entry, (isFirst_iff_least h).mpr ⟨hentry, by simp [herror], ?_⟩, herror⟩
    intro other hother hlt hfails
    rcases hleast other hother hlt with ⟨y, hy⟩
    exact hfails y hy

theorem Rising.filter {entries : Entries α} (h : entries.Rising) (p : String × α → Bool) :
    Rising (List.filter p entries) :=
  List.Pairwise.filter p h

/-- The value under a name among those worked out for some names. -/
theorem get?_map_of_mem {names : List String} (value : String → α) {name : String}
    (h : name ∈ names) : get? name (names.map fun name => (name, value name)) =
      some (value name) := by
  induction names with
  | nil => simp at h
  | cons first rest ih =>
    rw [List.map_cons, get?]
    by_cases hname : first = name
    · rw [if_pos hname, hname]
    · have hrest : name ∈ rest := (List.mem_cons.mp h).resolve_left (Ne.symm hname)
      rw [if_neg hname, ih hrest]

end Entries

namespace Construction

variable {m : Model} {asked cls : Class} {named : Bool} {entries : List (String × Data)}

/-! ## Each entry by itself -/

/-- A single entry as a field of an object. -/
def given (m : Model) (cls : Class) (entry : String × Data) : Construction (String × Slot) :=
  match m.field? cls entry.1 with
  | none => .error (.unknownField cls.name entry.1)
  | some field => do return (entry.1, ← slot m cls field entry.2)

/-- What a single entry gives is a field of its name. -/
theorem given_eq_ok {entry : String × Data} {found : String × Slot}
    (h : given m cls entry = .ok found) :
    ∃ field, m.field? cls entry.1 = some field ∧ found.1 = entry.1 := by
  unfold given at h
  split at h
  · simp at h
  · next field hfield =>
    rcases bind_eq_ok.mp h with ⟨held, -, hfound⟩
    rw [← pure_eq_ok.mp hfound]
    exact ⟨field, hfield, rfl⟩

/-- Whether an entry is left for a field, and has not been used to name the class. -/
def isForField (named : Bool) (entry : String × Data) : Bool := !(named && entry.1 = classKey)

/-- Entries become fields each by itself, but for the key that named the class. -/
theorem slots_eq_mapM (m : Model) (cls : Class) (named : Bool) (entries : List (String × Data)) :
    slots m cls named entries = (entries.filter (isForField named)).mapM (given m cls) := by
  induction entries with
  | nil => rw [slots, List.filter_nil, List.mapM_nil]
  | cons entry rest ih =>
    obtain ⟨key, value⟩ := entry
    rw [slots]
    by_cases hkey : (named && decide (key = classKey)) = true
    · have hpassed : ¬ isForField named (key, value) := by simp [isForField, hkey]
      rw [if_pos hkey, List.filter_cons_of_neg hpassed, ih]
    · have hkept : isForField named (key, value) := by
        rw [isForField, Bool.not_eq_true']
        exact Bool.eq_false_of_not_eq_true hkey
      rw [if_neg hkey, List.filter_cons_of_pos hkept, List.mapM_cons, ← ih, given]
      cases m.field? cls key with
      | none => rfl
      | some field => simp only [bind_assoc, pure_bind]

/-- Without an entry that names the class, an object is of the class asked for and has all entries
for its fields. -/
theorem object_of_plain
    (h : classKey ∉ Entries.names entries ∨ asked.hasField classKey) :
    object m asked entries = instanceOf asked <$> entries.mapM (given m asked) := by
  have hchoice : chooseClass m asked entries = .ok (asked, false) := by
    rcases h with hkey | hfield
    · rw [← Entries.isSome_get?, Option.not_isSome_iff_eq_none] at hkey
      exact chooseClass_of_none hkey
    · exact chooseClass_of_hasField hfield
  have hslots : slots m asked false entries = entries.mapM (given m asked) := by
    have hall : entries.filter (isForField false) = entries :=
      List.filter_eq_self.mpr fun entry _ => rfl
    rw [slots_eq_mapM, hall]
  rw [object, hchoice, ← hslots]
  rfl

/-- With an entry that names a subclass, an object is of that class and has the other entries for
its fields. -/
theorem object_of_named (hfield : ¬ asked.hasField classKey) {name : String}
    (hname : Entries.get? classKey entries = some (.scalar (.text name)))
    (hcls : m.class? name = some cls) (hsub : cls.isSubclassOf asked) :
    object m asked entries =
      instanceOf cls <$> (entries.filter fun entry => entry.1 ≠ classKey).mapM (given m cls) := by
  have hchoice : chooseClass m asked entries = .ok (cls, true) :=
    (chooseClass_of_some_eq_ok hfield hname).mpr ⟨rfl, hsub, name, rfl, hcls⟩
  have hslots : slots m cls true entries =
      (entries.filter fun entry => entry.1 ≠ classKey).mapM (given m cls) := by
    have hleft : isForField true = fun entry => decide (entry.1 ≠ classKey) := by
      funext entry
      simp [isForField]
    rw [slots_eq_mapM, hleft]
  rw [object, hchoice, ← hslots]
  rfl

theorem slot?_instanceOf {name : String} (h : name ∈ cls.fieldNames)
    (found : List (String × Slot)) :
    (instanceOf cls found).slot? name = some ((Entries.get? name found).getD .unset) :=
  Entries.get?_map_of_mem (fun name => (Entries.get? name found).getD .unset) h

theorem names_instanceOf (cls : Class) (found : List (String × Slot)) :
    Entries.names (instanceOf cls found).fields = cls.fieldNames := by
  simp [instanceOf, Entries.names, Function.comp_def]

/-- The fields that entries give have the names of the entries. -/
theorem names_of_mapM {found : List (String × Slot)}
    (h : entries.mapM (given m cls) = .ok found) :
    Entries.names found = Entries.names entries := by
  have hfound := mapM_eq_ok.mp h
  have hnames : List.Forall₂ (fun entry held => Prod.fst entry = Prod.fst held) entries found := by
    refine hfound.imp fun entry held hheld => ?_
    rcases given_eq_ok hheld with ⟨-, -, hname⟩
    exact hname.symm
  exact (map_eq_map_iff_forall₂.mpr hnames).symm

/-- Each of several entries gives what is found under its name in the end. -/
theorem exists_given (hrising : Entries.Rising entries) {found : List (String × Slot)}
    (h : entries.mapM (given m cls) = .ok found) {entry : String × Data}
    (hentry : entry ∈ entries) : ∃ held, given m cls entry = .ok (entry.1, held) ∧
      Entries.get? entry.1 found = some held := by
  rcases exists_right_of_forall₂ (mapM_eq_ok.mp h) hentry with ⟨⟨name, held⟩, hmem, hgiven⟩
  rcases given_eq_ok hgiven with ⟨-, -, hname⟩
  obtain rfl : name = entry.1 := hname
  have hdistinct : (Entries.names found).Nodup := by
    rw [names_of_mapM h]
    exact Entries.nodup_of_rising hrising
  exact ⟨held, hgiven, Entries.get?_of_mem hdistinct hmem⟩

end Construction

namespace Model

open Construction

variable {m : Model} {asked cls : Class} {entries : List (String × Data)}

/-- What an entry comes to when it is given alone for an object of a class. -/
def alone (m : Model) (cls : Class) (entry : String × Data) : Construction Instance :=
  m.construct cls.name (.map [entry])

/-- An outcome is made up of what single entries come to when they are given alone for an object of
a class. -/
structure Entrywise (m : Model) (cls : Class) (entries : List (String × Data))
    (outcome : Construction Instance) : Prop where
  /-- It is a success when each entry alone is one. -/
  succeeds_iff : (∃ i, outcome = .ok i) ↔ ∀ entry ∈ entries, ∃ one, m.alone cls entry = .ok one
  /-- The object is of the class, with the visible fields of the class. -/
  fields : ∀ i, outcome = .ok i → i.className = cls.name ∧
    Entries.names i.fields = cls.fieldNames
  /-- The field of an entry holds what it holds when the entry is given alone. -/
  holds : ∀ i, outcome = .ok i → ∀ entry ∈ entries, ∀ one, m.alone cls entry = .ok one →
    ∃ held, one.slot? entry.1 = some held ∧ i.slot? entry.1 = some held
  /-- Every other visible field is unset. -/
  unset : ∀ i, outcome = .ok i → ∀ name ∈ cls.fieldNames, name ∉ Entries.names entries →
    i.slot? name = some .unset
  /-- It is a failure when some entry alone is one, and the same as that of the least key. -/
  fails_iff : ∀ e, outcome = .error e ↔ ∃ entry ∈ entries, m.alone cls entry = .error e ∧
    ∀ other ∈ entries, other.1 < entry.1 → ∃ one, m.alone cls other = .ok one

theorem mem_fieldNames {name : String} {field : Field} (h : m.field? cls name = some field) :
    name ∈ cls.fieldNames := by
  rcases Option.bind_eq_some_iff.mp h with ⟨ref, href, -⟩
  exact Entries.isSome_get?.mp (Option.isSome_iff_exists.mpr ⟨ref, href⟩)

namespace Sound

/-- An entry given alone makes an object with one field, unless it would name a class. -/
theorem alone_eq (hm : m.Sound) (hcls : cls ∈ m.classes) {entry : String × Data}
    (h : entry.1 ≠ classKey ∨ cls.hasField classKey) :
    m.alone cls entry = (fun found => instanceOf cls [found]) <$> given m cls entry := by
  have hplain : classKey ∉ Entries.names [entry] ∨ cls.hasField classKey :=
    h.imp (fun hkey hmem => hkey (List.mem_singleton.mp hmem).symm) id
  rw [alone, construct_map (hm.class?_name hcls), object_of_plain hplain, List.mapM_cons,
    List.mapM_nil]
  simp only [map_eq_pure_bind, bind_assoc, pure_bind]

/-- An object with all entries for its fields is made up entry by entry. -/
theorem entrywise_of_plain (hm : m.Sound) (hcls : cls ∈ m.classes)
    (hrising : Entries.Rising entries)
    (h : classKey ∉ Entries.names entries ∨ cls.hasField classKey) :
    m.Entrywise cls entries (instanceOf cls <$> entries.mapM (given m cls)) := by
  have halone : ∀ entry ∈ entries, m.alone cls entry =
      (fun found => instanceOf cls [found]) <$> given m cls entry := by
    intro entry hentry
    refine hm.alone_eq hcls (h.imp (fun hkey heq => ?_) id)
    exact hkey (heq ▸ List.mem_map_of_mem hentry)
  have hsucceeds : ∀ entry ∈ entries, (∃ one, m.alone cls entry = .ok one) ↔
      ∃ found, given m cls entry = .ok found := by
    intro entry hentry
    rw [halone entry hentry]
    simp only [map_eq_ok, exists_comm, exists_eq_right']
  constructor
  case succeeds_iff =>
    have hall : (∃ found, entries.mapM (given m cls) = .ok found) ↔
        ∀ entry ∈ entries, ∃ found, given m cls entry = .ok found := exists_mapM_eq_ok_iff
    simp only [map_eq_ok, exists_comm, exists_eq_right']
    rw [hall]
    exact forall₂_congr fun entry hentry => (hsucceeds entry hentry).symm
  case fields =>
    intro i hi
    rcases map_eq_ok.mp hi with ⟨found, -, rfl⟩
    exact ⟨rfl, names_instanceOf cls found⟩
  case holds =>
    intro i hi entry hentry one hone
    rcases map_eq_ok.mp hi with ⟨found, hfound, rfl⟩
    rcases exists_given hrising hfound hentry with ⟨held, hgiven, hget⟩
    rcases given_eq_ok hgiven with ⟨field, hfield, -⟩
    have hvisible : entry.1 ∈ cls.fieldNames := mem_fieldNames hfield
    rw [halone entry hentry, hgiven] at hone
    obtain rfl : instanceOf cls [(entry.1, held)] = one := Except.ok.inj hone
    refine ⟨held, ?_, ?_⟩
    · rw [slot?_instanceOf hvisible, Entries.get?, if_pos rfl, Option.getD_some]
    · rw [slot?_instanceOf hvisible, hget, Option.getD_some]
  case unset =>
    intro i hi name hname hother
    rcases map_eq_ok.mp hi with ⟨found, hfound, rfl⟩
    have hnone : Entries.get? name found = none := by
      rwa [← Option.not_isSome_iff_eq_none, Entries.isSome_get?, names_of_mapM hfound]
    rw [slot?_instanceOf hname, hnone, Option.getD_none]
  case fails_iff =>
    intro e
    have hfails : ∀ entry ∈ entries, m.alone cls entry = .error e ↔
        given m cls entry = .error e := by
      intro entry hentry
      rw [halone entry hentry, map_eq_error]
    rw [map_eq_error, Entries.mapM_eq_error_iff hrising]
    refine exists_congr fun entry => and_congr_right fun hentry => ?_
    refine and_congr (hfails entry hentry).symm ?_
    exact forall₃_congr fun other hother _ => (hsucceeds other hother).symm

end Sound

/-- An object comes to what its entries come to one by one: as an object of the class asked for,
when no entry names a class, and as one of the subclass that an entry names, when one does. -/
theorem construct_entrywise (hm : m.Built) (hasked : asked ∈ m.classes)
    (hrising : Entries.Rising entries) :
    (classKey ∉ Entries.names entries ∨ asked.hasField classKey →
      m.Entrywise asked entries (m.construct asked.name (.map entries))) ∧
    ∀ name cls, ¬ asked.hasField classKey →
      Entries.get? classKey entries = some (.scalar (.text name)) → m.class? name = some cls →
      cls.isSubclassOf asked →
      m.Entrywise cls (entries.filter fun entry => entry.1 ≠ classKey)
        (m.construct asked.name (.map entries)) := by
  have hs := hm.sound
  rw [construct_map (hs.class?_name hasked)]
  constructor
  · intro hplain
    rw [object_of_plain hplain]
    exact hs.entrywise_of_plain hasked hrising hplain
  · intro name cls hfield hname hcls hsub
    -- the entries that are left name no class
    have hplain : classKey ∉ Entries.names (entries.filter fun entry => entry.1 ≠ classKey) := by
      simp [Entries.names]
    rw [object_of_named hfield hname hcls hsub]
    exact hs.entrywise_of_plain (hs.mem_of_class? hcls) (hrising.filter _) (Or.inl hplain)

end Model

/-! ## A museum

Classes with a namespace, one of which has a field under the key that names classes although the
class above it has none. -/

namespace Museum

/-- The declarations of the museum. -/
def declarations : List Declaration :=
  [.openClass "museum.Exhibit" [], .field ⟨"label", .attr "string"⟩,
    .field ⟨"found", .attr "date"⟩, .closeClass,
    .openClass "museum.Fossil" ["Exhibit"], .field ⟨"class", .attr "string"⟩, .closeClass,
    .openClass "museum.Room" [], .field ⟨"centre", .reference ⟨"Exhibit", none⟩⟩,
    .field ⟨"shown", .collection ⟨"museum.Exhibit", none⟩⟩, .closeClass]

/-- The exhibit that a room is about. -/
def centre : Field := ⟨"centre", 2, .reference ⟨"Exhibit", none⟩⟩

/-- The other exhibits of a room. -/
def shown : Field := ⟨"shown", 2, .collection ⟨"museum.Exhibit", none⟩⟩

/-- What is on show. -/
def exhibit : Class :=
  ⟨⟨0, "museum.Exhibit", [], [⟨"label", 0, .attr "string"⟩, ⟨"found", 0, .attr "date"⟩], false⟩,
    [], [0], [("found", ⟨0, 1⟩), ("label", ⟨0, 0⟩)]⟩

/-- An exhibit that has a class of its own, as animals have. -/
def fossil : Class :=
  ⟨⟨1, "museum.Fossil", ["Exhibit"], [⟨"class", 1, .attr "string"⟩], false⟩, [0], [1, 0],
    [("class", ⟨1, 0⟩), ("found", ⟨0, 1⟩), ("label", ⟨0, 0⟩)]⟩

/-- Where exhibits are shown. -/
def room : Class :=
  ⟨⟨2, "museum.Room", [], [centre, shown], false⟩, [], [2],
    [("centre", ⟨2, 0⟩), ("shown", ⟨2, 1⟩)]⟩

/-- The model of the museum. -/
def model : Model :=
  ⟨"museum", some "museum", [exhibit, fossil, room,
    ⟨.builtinOf 3 "Integer", [], [3], []⟩, ⟨.builtinOf 4 "Long", [], [4], []⟩]⟩

theorem model_built : model.Built := by
  have h : Model.ofDeclarations "museum" (some "museum") declarations = .ok model := by cbv
  exact Model.built_of_ofDeclarations h

/-- Entries with two faults: a field that exhibits do not have, and a day that there is not. -/
def faultyEntries : List (String × Data) :=
  [("age", .null), ("found", .scalar (.text "2020-02-30")), ("label", .scalar (.text "tooth"))]

/-- Entries that name no class. -/
def labelEntries : List (String × Data) := [("label", .scalar (.text "tooth"))]

/-- Entries that name a subclass. -/
def toothEntries : List (String × Data) := ("class", .scalar (.text "Fossil")) :: labelEntries

end Museum

/-- Of two faults the one of the lesser key is reported, and where a subclass is named the other
entries are those of the subclass. -/
theorem Model.construct_entrywise_museum :
    Museum.model.Built ∧ Museum.exhibit ∈ Museum.model.classes ∧
      (Entries.Rising Museum.faultyEntries ∧
        Construction.classKey ∉ Entries.names Museum.faultyEntries ∧
        Museum.model.construct "museum.Exhibit" (.map Museum.faultyEntries) =
          .error (.unknownField "museum.Exhibit" "age")) ∧
      (Entries.Rising Museum.toothEntries ∧
        ¬ Museum.exhibit.hasField Construction.classKey ∧
        Museum.model.class? "Fossil" = some Museum.fossil ∧
        Museum.fossil.isSubclassOf Museum.exhibit ∧
        Museum.model.Entrywise Museum.fossil Museum.labelEntries
          (Museum.model.construct "museum.Exhibit" (.map Museum.toothEntries))) := by
  have hexhibit : Museum.exhibit ∈ Museum.model.classes := by decide
  have hfaulty : Entries.Rising Museum.faultyEntries := by
    unfold Entries.Rising
    decide
  have htooth : Entries.Rising Museum.toothEntries := by
    unfold Entries.Rising
    decide
  have hnoKey : Construction.classKey ∉ Entries.names Museum.faultyEntries := by decide
  have hnoField : ¬ Museum.exhibit.hasField Construction.classKey := by decide
  have hfossil : Museum.model.class? "Fossil" = some Museum.fossil := by decide
  have hsub : Museum.fossil.isSubclassOf Museum.exhibit := by decide
  rcases construct_entrywise Museum.model_built hexhibit hfaulty with ⟨hplain, -⟩
  rcases construct_entrywise Museum.model_built hexhibit htooth with ⟨-, hnamed⟩
  refine ⟨Museum.model_built, hexhibit, ⟨hfaulty, hnoKey, ?_⟩, htooth, hnoField, hfossil, hsub, ?_⟩
  · -- the field that is unknown comes before the day that is none
    have hleast : ∀ other ∈ Museum.faultyEntries, ¬ other.1 < "age" := by decide
    refine ((hplain (Or.inl hnoKey)).fails_iff _).mpr ⟨("age", .null), ?_, rfl, ?_⟩
    · simp [Museum.faultyEntries]
    · exact fun other hother hlt => absurd hlt (hleast other hother)
  · exact hnamed "Fossil" Museum.fossil hnoField rfl hfossil hsub

end ClassModel
