import ClassModel.Proofs.Instance.Construction
import ClassModel.Proofs.Model.Visible

/-!
# Typing of instances

An instance is well typed when it has the name of a class of the model, a slot for each field
visible on that class, and in each slot nothing or what the field asks for, at every depth.
Construction returns such instances only, given that the instances its data embeds are well typed;
and they are when they come from earlier constructions.

* `Instance.WellTyped` — well-typed instances;
* `Instance.Returned` — what is returned for a class: a well-typed instance of it or of a subclass;
* `Model.returned_of_construct` — one construction, from well-typed instances;
* `Model.construct_wellTyped` — any number of constructions, each from what earlier ones returned.
-/

namespace ClassModel

/-- Whether a value is finite. A scalar of an untyped attribute passes whatever it is. -/
def Value.isFinite : Value → Bool
  | .double value => value.isFinite
  | .float value => value.isFinite
  | .string _ | .short _ | .integer _ | .long _ | .boolean _ | .date _ | .any _ => true

/-- An instance is of a class when its class name is that of the class or of a subclass. -/
def Instance.IsA (m : Model) (i : Instance) (asked : Class) : Prop :=
  ∃ cls ∈ m.classes, i.className = cls.name ∧ cls.isSubclassOf asked

mutual

/-- An instance has the name of a class of the model, and for each visible field a slot that
fits. -/
inductive Instance.WellTyped (m : Model) : Instance → Prop
  | of (i : Instance) (cls : Class) (hcls : cls ∈ m.classes) (hname : i.className = cls.name)
      (hkeys : i.fields.map (·.1) = cls.fieldNames)
      (hdescribed : ∀ name ∈ cls.fieldNames, (m.field? cls name).isSome)
      (hfits : ∀ entry ∈ i.fields, ∀ field, m.field? cls entry.1 = some field →
        Slot.Fits m field entry.2) :
      Instance.WellTyped m i

/-- What a field of a given descriptor may hold. -/
inductive Slot.Fits (m : Model) : Field → Slot → Prop
  | unset (field : Field) : Slot.Fits m field .unset
  | attr (field : Field) (declaredType : String) (value : Value)
      (hkind : field.kind = .attr declaredType) (htype : value.type = .ofDeclared declaredType)
      (hfinite : value.isFinite) :
      Slot.Fits m field (.attr value)
  | reference (field : Field) (link : Link) (asked : Class) (target : Instance)
      (hkind : field.kind = .reference link) (hasked : m.class? link.target = some asked)
      (hclass : target.IsA m asked) (htyped : Instance.WellTyped m target) :
      Slot.Fits m field (.reference target)
  | collection (field : Field) (link : Link) (asked : Class) (items : List Instance)
      (hkind : field.kind = .collection link) (hasked : m.class? link.target = some asked)
      (hclass : ∀ item ∈ items, item.IsA m asked)
      (htyped : ∀ item ∈ items, Instance.WellTyped m item) :
      Slot.Fits m field (.collection items)

end

/-- What is given for fields of a class fits the fields. -/
def Slot.AllFit (m : Model) (cls : Class) (given : List (String × Slot)) : Prop :=
  ∀ entry ∈ given, ∀ field, m.field? cls entry.1 = some field → entry.2.Fits m field

/-- What a construction returns for a class: a well-typed instance of the class or of a subclass. -/
structure Instance.Returned (m : Model) (asked : Class) (i : Instance) : Prop where
  isA : i.IsA m asked
  wellTyped : i.WellTyped m

mutual

/-- The instances built before that data embeds, at any depth. -/
def Data.embedded : Data → List Instance
  | .null | .scalar _ => []
  | .map entries => Data.embeddedEntries entries
  | .list items => Data.embeddedItems items
  | .built target => [target]

/-- The instances that the entries of a map embed. -/
def Data.embeddedEntries : List (String × Data) → List Instance
  | [] => []
  | (_, value) :: rest => value.embedded ++ Data.embeddedEntries rest

/-- The instances that the items of a list embed. -/
def Data.embeddedItems : List Data → List Instance
  | [] => []
  | item :: rest => item.embedded ++ Data.embeddedItems rest

end

/-! ## Values -/

/-- A scalar becomes a value of the type asked for, and a finite one. -/
theorem Scalar.type_of_coerce? {type : ValueType} {scalar : Scalar} {value : Value}
    (h : scalar.coerce? type = some value) : value.type = type ∧ value.isFinite := by
  cases type
  case double =>
    rcases Option.map_eq_some_iff.mp h with ⟨x, hx, rfl⟩
    exact ⟨rfl, (Option.filter_eq_some_iff.mp hx).2⟩
  case float =>
    -- the check for a finite number comes after the number is made narrow
    rcases Option.map_eq_some_iff.mp h with ⟨x, hx, rfl⟩
    rcases Option.bind_eq_some_iff.mp hx with ⟨wide, -, hnarrow⟩
    rcases Option.ite_none_right_eq_some.mp hnarrow with ⟨hfinite, hx'⟩
    rcases Option.some.inj hx' with rfl
    exact ⟨rfl, hfinite.1⟩
  case string | any =>
    rcases Option.some.inj h with rfl
    exact ⟨rfl, rfl⟩
  case short | integer | long | boolean | date =>
    rcases Option.map_eq_some_iff.mp h with ⟨x, -, rfl⟩
    exact ⟨rfl, rfl⟩

/-! ## Instances built before -/

namespace Model.Sound

open Construction

variable {m : Model} {cls owner asked : Class} {field : Field} {i : Instance}

/-- A well-typed instance fits a class exactly when it is of it. -/
theorem fits_iff_isA (hm : m.Sound) (hi : i.WellTyped m) :
    fits m asked i = .ok true ↔ i.IsA m asked := by
  rw [fits_eq_ok_true]
  cases hi with
  | of _ cls hcls hname _ _ _ =>
    -- its class name is exact, so the look-up gives its own class
    rw [hname, hm.class?_name hcls]
    constructor
    · rintro ⟨actual, hactual, hsub⟩
      rcases Option.some.inj hactual with rfl
      exact ⟨cls, hcls, hname, hsub⟩
    · rintro ⟨actual, hactual, hname', hsub⟩
      rcases hm.eq_of_name_eq hcls hactual (hname.symm.trans hname') with rfl
      exact ⟨cls, rfl, hsub⟩

/-! ## Objects

Entries, values and items are built together, along the data. An instance built before ends the way
down: it is taken as it is, and what is known of it is that it is well typed. -/

/-- The instance of a class with fields given that fit is well typed. -/
theorem instanceOf_wellTyped (hm : m.Sound) (hcls : cls ∈ m.classes) {given : List (String × Slot)}
    (hgiven : Slot.AllFit m cls given) : (instanceOf cls given).WellTyped m := by
  refine .of _ cls hcls rfl ?keys ?described ?fits
  case keys => simp [instanceOf, Function.comp_def]
  case described =>
    intro name hname
    have hvisible : cls.hasField name := Entries.isSome_get?.2 hname
    rcases hm.exists_field?_of_hasField hcls hvisible with ⟨field, hfield⟩
    simp [hfield]
  case fits =>
    intro entry hentry field hfield
    rcases List.mem_map.mp hentry with ⟨name, -, rfl⟩
    cases hget : Entries.get? name given with
    | none => exact .unset field
    | some held =>
      have hmem := Entries.mem_of_get? hget
      exact hgiven (name, held) hmem field hfield

/-- An object of the class chosen for it is one of the class asked for. -/
theorem returned_of_object (hm : m.Sound) (hasked : asked ∈ m.classes)
    {entries : List (String × Data)}
    (hslots : ∀ cls named given, slots m cls named entries = .ok given → Slot.AllFit m cls given)
    (h : object m asked entries = .ok i) : i.Returned m asked := by
  rcases object_eq_ok.mp h with ⟨cls, named, given, hchoice, hgiven, rfl⟩
  have hcls : cls ∈ m.classes := mem_of_chooseClass hm hasked hchoice
  have hsub : cls.isSubclassOf asked := isSubclassOf_of_chooseClass hm hasked hchoice
  exact ⟨⟨cls, hcls, rfl, hsub⟩, hm.instanceOf_wellTyped hcls (hslots cls named given hgiven)⟩

mutual

/-- The fields that entries give fit. -/
theorem slots_fit (hm : m.Sound) {cls : Class} {named : Bool} :
    ∀ (entries : List (String × Data)) {given : List (String × Slot)},
      (∀ i ∈ Data.embeddedEntries entries, i.WellTyped m) →
        slots m cls named entries = .ok given → Slot.AllFit m cls given
  | [], given, _, h => by
    rw [slots, pure_eq_ok] at h
    subst h
    exact fun _ hentry => absurd hentry List.not_mem_nil
  | (key, value) :: rest, given, hembedded, h => by
    rw [Data.embeddedEntries, List.forall_mem_append] at hembedded
    rcases slots_cons_eq_ok.mp h with
      ⟨-, hrest⟩ | ⟨-, field, held, others, hfield, hheld, hothers, rfl⟩
    · -- the key that named the class gives no field
      exact slots_fit hm rest hembedded.2 hrest
    · intro entry hentry found hfound
      rcases List.mem_cons.mp hentry with rfl | hmem
      · rcases Option.some.inj (hfield.symm.trans hfound) with rfl
        exact slot_fits hm value hembedded.1 hheld
      · exact slots_fit hm rest hembedded.2 hothers entry hmem found hfound

/-- What a field gets from data fits the field. -/
theorem slot_fits (hm : m.Sound) {owner : Class} {field : Field} :
    ∀ (data : Data) {held : Slot}, (∀ i ∈ data.embedded, i.WellTyped m) →
      slot m owner field data = .ok held → held.Fits m field
  | .null, held, _, h => by
    rw [slot, pure_eq_ok] at h
    subst h
    exact .unset field
  | .scalar value, held, _, h => by
    rw [slot] at h
    rcases ofScalar_eq_ok.mp h with ⟨declaredType, taken, hkind, htaken, rfl⟩
    rcases Scalar.type_of_coerce? htaken with ⟨htype, hfinite⟩
    exact .attr field declaredType taken hkind htype hfinite
  | .map entries, held, hembedded, h => by
    rw [Data.embedded] at hembedded
    rcases slot_map_eq_ok.mp h with ⟨link, asked, i, hkind, hasked, hobject, rfl⟩
    have hi : i.Returned m asked := hm.returned_of_object (hm.mem_of_class? hasked)
      (fun cls named given => slots_fit hm entries hembedded) hobject
    exact .reference field link asked i hkind hasked hi.isA hi.wellTyped
  | .list items, held, hembedded, h => by
    rw [Data.embedded] at hembedded
    rcases slot_list_eq_ok.mp h with ⟨link, asked, found, hkind, hasked, hfound, rfl⟩
    have hitems : ∀ i ∈ found, i.Returned m asked :=
      related_fit hm items (hm.mem_of_class? hasked) hembedded hfound
    exact .collection field link asked found hkind hasked (fun i hi => (hitems i hi).isA)
      (fun i hi => (hitems i hi).wellTyped)
  | .built built, held, hembedded, h => by
    rcases slot_built_eq_ok.mp h with ⟨link, asked, hkind, hasked, hfits, rfl⟩
    have htyped : built.WellTyped m := hembedded built (by simp [Data.embedded])
    have hisA : built.IsA m asked := (hm.fits_iff_isA htyped).mp hfits
    exact .reference field link asked built hkind hasked hisA htyped

/-- The objects a collection gets from items are of its class. -/
theorem related_fit (hm : m.Sound) {owner : Class} {field : Field} {asked : Class} :
    ∀ (items : List Data) {found : List Instance}, asked ∈ m.classes →
      (∀ i ∈ Data.embeddedItems items, i.WellTyped m) →
        related m owner field asked items = .ok found → ∀ i ∈ found, i.Returned m asked
  | [], found, _, _, h => by
    rw [related, pure_eq_ok] at h
    subst h
    simp
  | .map entries :: rest, found, hasked, hembedded, h => by
    rw [Data.embeddedItems, List.forall_mem_append, Data.embedded] at hembedded
    rcases related_map_eq_ok.mp h with ⟨i, others, hobject, hothers, rfl⟩
    rw [List.forall_mem_cons]
    refine ⟨?_, related_fit hm rest hasked hembedded.2 hothers⟩
    exact hm.returned_of_object hasked
      (fun cls named given => slots_fit hm entries hembedded.1) hobject
  | .built built :: rest, found, hasked, hembedded, h => by
    rw [Data.embeddedItems, List.forall_mem_append] at hembedded
    rcases related_built_eq_ok.mp h with ⟨hfits, others, hothers, rfl⟩
    have htyped : built.WellTyped m := hembedded.1 built (by simp [Data.embedded])
    have hisA : built.IsA m asked := (hm.fits_iff_isA htyped).mp hfits
    rw [List.forall_mem_cons]
    exact ⟨⟨hisA, htyped⟩, related_fit hm rest hasked hembedded.2 hothers⟩
  | .null :: rest, found, _, _, h => by simp [related] at h
  | .scalar value :: rest, found, _, _, h => by simp [related] at h
  | .list items :: rest, found, _, _, h => by simp [related] at h

end

end Model.Sound

namespace Model

variable {m : Model}

/-- One construction: what it returns, if the instances that its data embeds are well typed. -/
theorem returned_of_construct (hm : m.Sound) {className : String} {data : Data} {i : Instance}
    (hembedded : ∀ i ∈ data.embedded, i.WellTyped m) (h : m.construct className data = .ok i) :
    ∃ asked, m.getClass className = .ok asked ∧ i.Returned m asked := by
  rcases construct_eq_ok.mp h with ⟨asked, hasked, ⟨entries, rfl, hobject⟩ | ⟨rfl, hfits⟩⟩
  · rw [Data.embedded] at hembedded
    refine ⟨asked, getClass_eq_ok.mpr hasked, ?_⟩
    exact hm.returned_of_object (hm.mem_of_class? hasked)
      (fun cls named given => hm.slots_fit entries hembedded) hobject
  · have htyped : i.WellTyped m := hembedded i (by simp [Data.embedded])
    have hisA : i.IsA m asked := (hm.fits_iff_isA htyped).mp hfits
    exact ⟨asked, getClass_eq_ok.mpr hasked, hisA, htyped⟩

/-! ## Constructions after one another -/

/-- What one construction is asked for. -/
structure Request where
  className : String
  data : Data

/-- The outcome of a request. -/
def answer (m : Model) (request : Request) : Construction Instance :=
  m.construct request.className request.data

/-- Requests after one another, each of which embeds only instances that earlier ones returned. -/
inductive Session (m : Model) : List Request → Prop
  | start : Session m []
  | ask (earlier : List Request) (request : Request) (hearlier : Session m earlier)
      (hembedded : ∀ i ∈ request.data.embedded, ∃ asked ∈ earlier, m.answer asked = .ok i) :
      Session m (earlier ++ [request])

/-- Every instance that a request of a session returns is well typed, and of the class asked for. -/
theorem construct_wellTyped (hm : m.Built) {requests : List Request} (hsession : m.Session requests)
    {request : Request} (hrequest : request ∈ requests) {i : Instance}
    (h : m.answer request = .ok i) :
    ∃ asked, m.getClass request.className = .ok asked ∧ i.IsA m asked ∧ i.WellTyped m := by
  induction hsession generalizing request i with
  | start => simp at hrequest
  | ask earlier last _ hembedded ih =>
    rcases List.mem_append.mp hrequest with hearlier | hlast
    · exact ih hearlier h
    · -- what the last request embeds was returned before, and so is well typed
      rcases List.mem_singleton.mp hlast with rfl
      have htyped : ∀ i ∈ request.data.embedded, i.WellTyped m := by
        intro part hpart
        rcases hembedded part hpart with ⟨asked, hasked, hanswer⟩
        rcases ih hasked hanswer with ⟨_, -, -, hpartTyped⟩
        exact hpartTyped
      rcases returned_of_construct hm.sound htyped h with ⟨asked, hasked, hreturned⟩
      exact ⟨asked, hasked, hreturned.isA, hreturned.wellTyped⟩

end Model

namespace Diamond

/-- An instance of the base. -/
def part : Instance := ⟨"Thing", [("label", .attr (.string "part"))]⟩

/-- The request for it. -/
def partRequest : Model.Request :=
  ⟨"Thing", .map [("label", .scalar (.text "part"))]⟩

/-- A request that embeds it beside an instance of another class, which the entries name. -/
def eventRequest : Model.Request :=
  ⟨"Event", .map [("parts", .list [.built part, .map [("class", .scalar (.text "Named"))]])]⟩

/-- What that request returns. -/
def eventInstance : Instance :=
  ⟨"Event", [("label", .unset), ("parts", .collection [part, ⟨"Named", [("label", .unset)]⟩])]⟩

end Diamond

/-- A session of two requests, the second of which embeds what the first returned. -/
theorem Model.construct_wellTyped_diamond :
    Diamond.model.Built ∧ Diamond.model.Session [Diamond.partRequest, Diamond.eventRequest] ∧
      Diamond.model.answer Diamond.eventRequest = .ok Diamond.eventInstance ∧
      Diamond.eventInstance.WellTyped Diamond.model := by
  have hpart : Diamond.model.answer Diamond.partRequest = .ok Diamond.part := by cbv
  have hevent : Diamond.model.answer Diamond.eventRequest = .ok Diamond.eventInstance := by cbv
  have hfirst : Diamond.model.Session [Diamond.partRequest] :=
    .ask [] Diamond.partRequest .start (by simp [Diamond.partRequest, Data.embedded,
      Data.embeddedEntries])
  have hsession : Diamond.model.Session [Diamond.partRequest, Diamond.eventRequest] := by
    refine .ask [Diamond.partRequest] Diamond.eventRequest hfirst ?_
    intro i hi
    obtain rfl : i = Diamond.part := by
      simpa [Diamond.eventRequest, Data.embedded, Data.embeddedEntries, Data.embeddedItems] using hi
    exact ⟨Diamond.partRequest, List.mem_singleton_self _, hpart⟩
  rcases Model.construct_wellTyped Diamond.model_built hsession (by simp) hevent
      with ⟨_, -, -, htyped⟩
  exact ⟨Diamond.model_built, hsession, hevent, htyped⟩

end ClassModel
