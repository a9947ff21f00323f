import ClassModel.Proofs.Instance.Entrywise

/-!
# Classes that maps name

A map may name the class of the object that it stands for. Naming a class where an object of a
class above it is asked for is the same as asking for the class named: the objects are the same, and
so are the failures. A class that is no subclass is refused, and one that is unknown is reported as
unknown.

* `Construction.related_eq_mapM` — the items of a list become objects each by itself;
* `Model.constructAs` — what asking for a class comes to where an object of another is expected;
* `Model.construct_named` — maps that name a class come to just that, alone, for a reference and
  among the items of a collection.
-/

namespace ClassModel

namespace Entries

variable {α : Type}

theorem filter_of_notMem {name : String} {entries : Entries α} (h : name ∉ entries.names) :
    List.filter (fun entry => entry.1 ≠ name) entries = entries := by
  refine List.filter_eq_self.mpr fun entry hentry => ?_
  have hne : entry.1 ≠ name := fun heq => h (heq ▸ List.mem_map_of_mem hentry)
  simpa using hne

/-- What has been put under a new name may be taken out again. -/
theorem filter_put {name : String} {entries : Entries α} (h : name ∉ entries.names) (value : α) :
    List.filter (fun entry => entry.1 ≠ name) (entries.put name value) = entries := by
  induction entries with
  | nil => simp [put]
  | cons entry rest ih =>
    obtain ⟨key, old⟩ := entry
    have hkey : name ≠ key ∧ name ∉ names rest := by simpa [names] using h
    rw [put, if_neg hkey.1]
    split
    · -- the new entry stands first
      rw [List.filter_cons, if_neg (by simp), filter_of_notMem h]
    · rw [List.filter_cons, if_pos (by simpa using Ne.symm hkey.1), ih hkey.2]

end Entries

/-- A map with a further entry that names a class. -/
def Data.named (className : String) (entries : List (String × Data)) : Data :=
  .map (Entries.put Construction.classKey (.scalar (.text className)) entries)

namespace Construction

variable {m : Model} {owner asked cls : Class} {field : Field} {link : Link}

/-! ## The class named -/

/-- A class that the entries name is looked up, and taken if it is a subclass. -/
theorem chooseClass_of_text {entries : List (String × Data)} {className : String}
    (hfield : ¬ asked.hasField classKey)
    (hname : Entries.get? classKey entries = some (.scalar (.text className))) :
    chooseClass m asked entries = (do
      let actual ← target m className
      if actual.isSubclassOf asked then return (actual, true)
      else .error (.typeMismatch asked.name classKey s!"subclass of {asked.name}" className)) := by
  simp only [chooseClass, hfield, hname, nameOf?]
  rfl

/-! ## Items, one by one -/

/-- A single item of a list as an object of a class. -/
def item (m : Model) (owner : Class) (field : Field) (asked : Class) : Data → Construction Instance
  | .map entries => object m asked entries
  | .built built => accept m owner field asked built
  | data => mismatch owner field s!"object of class {asked.name}" data

/-- Items become objects each by itself. -/
theorem related_eq_mapM (m : Model) (owner : Class) (field : Field) (asked : Class)
    (items : List Data) :
    related m owner field asked items = items.mapM (item m owner field asked) := by
  induction items with
  | nil => rw [related, List.mapM_nil]
  | cons first rest ih =>
    rw [List.mapM_cons, ← ih]
    cases first with
    | map entries => exact related_map_cons
    | built built => rw [related, item]
    | null => rfl
    | scalar value => rfl
    | list items => rfl

theorem slot_list_collection (hkind : field.kind = .collection link)
    (hasked : m.class? link.target = some asked) (items : List Data) :
    slot m owner field (.list items) = .collection <$> items.mapM (item m owner field asked) := by
  rw [slot, hkind]
  simp only [target_eq_ok.mpr hasked, related_eq_mapM]
  rfl

end Construction

namespace Model

open Construction

variable {m : Model} {asked : Class} {entries : List (String × Data)}

/-- What asking for a class by name comes to where an object of another class is expected: what the
class named makes of the entries, if it is a subclass. -/
def constructAs (m : Model) (asked : Class) (className : String)
    (entries : List (String × Data)) : Construction Instance :=
  match m.class? className with
  | none => .error (.lookup (.unknownClass className))
  | some cls =>
    if cls.isSubclassOf asked then m.construct className (.map entries)
    else .error (.typeMismatch asked.name classKey s!"subclass of {asked.name}" className)

/-- An object of a class above is the object of the class named, and fails as that does. -/
theorem object_named (hfield : ¬ asked.hasField classKey)
    (hkey : classKey ∉ Entries.names entries) (className : String) :
    object m asked (Entries.put classKey (.scalar (.text className)) entries) =
      m.constructAs asked className entries := by
  have hname : Entries.get? classKey
      (Entries.put classKey (Data.scalar (.text className)) entries) =
        some (.scalar (.text className)) := by
    rw [Entries.get?_put, if_pos rfl]
  have hchoice := chooseClass_of_text (m := m) hfield hname
  unfold constructAs
  cases hclass : m.class? className with
  | none =>
    rw [object, hchoice, target, getClass, hclass]
    rfl
  | some cls =>
    dsimp only
    by_cases hsub : cls.isSubclassOf asked
    · rw [if_pos hsub, construct_map hclass, object_of_plain (Or.inl hkey),
        object_of_named hfield hname hclass hsub, Entries.filter_put hkey]
    · have hrefused : chooseClass m asked
          (Entries.put classKey (.scalar (.text className)) entries) =
            .error (.typeMismatch asked.name classKey s!"subclass of {asked.name}" className) := by
        rw [hchoice, target_eq_ok.mpr hclass]
        exact if_neg hsub
      rw [if_neg hsub, object, hrefused]
      rfl

/-- Where a class has no field under the key that names classes, a map that names a class comes to
what the class named makes of the other entries: when the class is asked for an object, when the map
is given for a reference to the class, and when it is an item of a collection of the class. -/
theorem construct_named (hm : m.Built) (hasked : asked ∈ m.classes)
    (hfield : ¬ asked.hasField classKey) (hkey : classKey ∉ Entries.names entries)
    (className : String) :
    m.construct asked.name (.named className entries) = m.constructAs asked className entries ∧
    (∀ owner field link, field.kind = .reference link → m.class? link.target = some asked →
      slot m owner field (.named className entries) =
        .reference <$> m.constructAs asked className entries) ∧
    ∀ owner field link before after, field.kind = .collection link →
      m.class? link.target = some asked →
      slot m owner field (.list (before ++ .named className entries :: after)) = (do
        let first ← related m owner field asked before
        let found ← m.constructAs asked className entries
        let others ← related m owner field asked after
        return .collection (first ++ found :: others)) := by
  have hobject := object_named (m := m) hfield hkey className
  refine ⟨?_, ?_, ?_⟩
  · rw [Data.named, construct_map (hm.sound.class?_name hasked), hobject]
  · intro owner field link hkind htarget
    rw [Data.named, slot_map_reference hkind, target_eq_ok.mpr htarget, ← hobject]
    rfl
  · intro owner field link before after hkind htarget
    have hitem : item m owner field asked (.named className entries) =
        m.constructAs asked className entries := hobject
    rw [slot_list_collection hkind htarget, List.mapM_append, List.mapM_cons, hitem]
    simp only [related_eq_mapM, map_eq_pure_bind, bind_assoc, pure_bind]

end Model

namespace Museum

/-- The fossil that a label makes together with its class. -/
def tooth : Instance :=
  ⟨"museum.Fossil", [("class", .unset), ("found", .unset),
    ("label", .attr (.string "tooth"))]⟩

/-- The exhibit that a label makes by itself. -/
def labelled : Instance :=
  ⟨"museum.Exhibit", [("found", .unset), ("label", .attr (.string "tooth"))]⟩

/-- An exhibit of which nothing is known. -/
def unlabelled : Instance := ⟨"museum.Exhibit", [("found", .unset), ("label", .unset)]⟩

end Museum

/-- A fossil that is named where an exhibit is asked for, alone, in the centre of a room and shown
behind another exhibit. -/
theorem Model.construct_named_museum :
    Museum.model.Built ∧ Museum.exhibit ∈ Museum.model.classes ∧
      ¬ Museum.exhibit.hasField Construction.classKey ∧
      Construction.classKey ∉ Entries.names Museum.labelEntries ∧
      Museum.model.construct "museum.Exhibit" (.named "Fossil" Museum.labelEntries) =
        .ok Museum.tooth ∧
      Construction.slot Museum.model Museum.room Museum.centre
        (.named "Fossil" Museum.labelEntries) = .ok (.reference Museum.tooth) ∧
      Construction.slot Museum.model Museum.room Museum.shown
        (.list [.map [], .named "Fossil" Museum.labelEntries]) =
          .ok (.collection [Museum.unlabelled, Museum.tooth]) := by
  have hexhibit : Museum.exhibit ∈ Museum.model.classes := by decide
  have hnoField : ¬ Museum.exhibit.hasField Construction.classKey := by decide
  have hnoKey : Construction.classKey ∉ Entries.names Museum.labelEntries := by decide
  have htooth : Museum.model.constructAs Museum.exhibit "Fossil" Museum.labelEntries =
      .ok Museum.tooth := rfl
  rcases construct_named Museum.model_built hexhibit hnoField hnoKey "Fossil"
      with ⟨halone, hreference, hcollection⟩
  refine ⟨Museum.model_built, hexhibit, hnoField, hnoKey, ?_, ?_, ?_⟩
  · exact halone.trans htooth
  · rw [hreference Museum.room Museum.centre ⟨"Exhibit", none⟩ rfl (by decide), htooth]
    rfl
  · have hbefore : Construction.related Museum.model Museum.room Museum.shown Museum.exhibit
        [.map []] = .ok [Museum.unlabelled] := rfl
    have hshown := hcollection Museum.room Museum.shown ⟨"museum.Exhibit", none⟩ [.map []] [] rfl
      (by decide)
    rw [hbefore, htooth] at hshown
    exact hshown.trans rfl

end ClassModel
