import ClassModel.Proofs.Guarded.Queries
import ClassModel.Proofs.Instance.Failures

/-!
# Construction, guarded

A construction asks the model for classes by name and for the fields of their visible names, all the
way down its data. Here it does so by guarded look-ups. In a built model none of them goes wrong,
whatever the class asked for and whatever the data.

* `Guarded.construct` — construction with guarded look-ups;
* `Guarded.slots_eq`, `Guarded.slot_eq`, `Guarded.related_eq` — entries, values and items come to
  what they come to without guards, along the data;
* `Model.inRange_of_declared` — from the schema to the instance, no look-up goes wrong.
-/

namespace ClassModel

namespace Guarded

open Construction (classKey nameOf? mismatch instanceOf)

/-- The class that a name refers to. -/
def target (m : Model) (name : String) : Guarded ConstructionError Class :=
  (getClass m name).mapError (Stop.map .lookup)

/-- The class to build when a map stands for an object of a class, and whether the key that names
a class has been used for that. -/
def chooseClass (m : Model) (asked : Class) (entries : List (String × Data)) :
    Guarded ConstructionError (Class × Bool) := do
  if asked.hasField classKey then return (asked, false)
  match Entries.get? classKey entries with
  | none => return (asked, false)
  | some value =>
    match nameOf? value with
    | none =>
      .error (.refused (.typeMismatch asked.name classKey "class name" value.describe))
    | some name =>
      let actual ← target m name
      if actual.isSubclassOf asked then return (actual, true)
      else
        .error (.refused
          (.typeMismatch asked.name classKey s!"subclass of {asked.name}" name))

/-- Whether an instance built before is of a class or of a subclass. -/
def fits (m : Model) (cls : Class) (built : Instance) : Guarded ConstructionError Bool := do
  return (← target m built.className).isSubclassOf cls

/-- An instance built before, as the value of a field. -/
def accept (m : Model) (owner : Class) (field : Field) (cls : Class) (built : Instance) :
    Guarded ConstructionError Instance := do
  if ← fits m cls built then return built
  else guarded (mismatch owner field s!"instance of {cls.name}" (.built built))

/-- A scalar as the value of a field. -/
def ofScalar (m : Model) (owner : Class) (field : Field) (value : Scalar) :
    Guarded ConstructionError Slot :=
  match field.kind with
  | .attr declaredType =>
    let type := ValueType.ofDeclared declaredType
    match value.coerce? type with
    | some value => .ok (.attr value)
    | none => guarded (mismatch owner field type.name (.scalar value))
  | .reference link => do
    let cls ← target m link.target
    guarded (mismatch owner field s!"object of class {cls.name}" (.scalar value))
  | .collection link => do
    let cls ← target m link.target
    guarded (mismatch owner field s!"list of {cls.name}" (.scalar value))

mutual

/-- The entries of a map as fields of an object, in order. -/
def slots (m : Model) (cls : Class) (named : Bool) :
    List (String × Data) → Guarded ConstructionError (List (String × Slot))
  | [] => return []
  | (key, value) :: rest => do
    if named && key = classKey then slots m cls named rest
    else
      match ← field? m cls key with
      | none => .error (.refused (.unknownField cls.name key))
      | some field =>
        let slot ← slot m cls field value
        let others ← slots m cls named rest
        return (key, slot) :: others

/-- Data as the value of a field. -/
def slot (m : Model) (owner : Class) (field : Field) : Data → Guarded ConstructionError Slot
  | .null => return .unset
  | .scalar value => ofScalar m owner field value
  | .map entries =>
    match field.kind with
    | .attr declaredType =>
      guarded (mismatch owner field (ValueType.ofDeclared declaredType).name (.map entries))
    | .reference link => do
      let asked ← target m link.target
      let (cls, named) ← chooseClass m asked entries
      return .reference (instanceOf cls (← slots m cls named entries))
    | .collection link => do
      let cls ← target m link.target
      guarded (mismatch owner field s!"list of {cls.name}" (.map entries))
  | .list items =>
    match field.kind with
    | .attr declaredType =>
      guarded (mismatch owner field (ValueType.ofDeclared declaredType).name (.list items))
    | .reference link => do
      let cls ← target m link.target
      guarded (mismatch owner field s!"object of class {cls.name}" (.list items))
    | .collection link => do
      let cls ← target m link.target
      return .collection (← related m owner field cls items)
  | .built built =>
    match field.kind with
    | .attr declaredType =>
      guarded (mismatch owner field (ValueType.ofDeclared declaredType).name (.built built))
    | .reference link => do
      let cls ← target m link.target
      return .reference (← accept m owner field cls built)
    | .collection link => do
      let cls ← target m link.target
      guarded (mismatch owner field s!"list of {cls.name}" (.built built))

/-- The items of a list as objects of a collection. -/
def related (m : Model) (owner : Class) (field : Field) (cls : Class) :
    List Data → Guarded ConstructionError (List Instance)
  | [] => return []
  | .map entries :: rest => do
    let (actual, named) ← chooseClass m cls entries
    let item := instanceOf actual (← slots m actual named entries)
    return item :: (← related m owner field cls rest)
  | .built item :: rest => do
    let item ← accept m owner field cls item
    return item :: (← related m owner field cls rest)
  | item :: _ => guarded (mismatch owner field s!"object of class {cls.name}" item)

end

/-- An object of a class, or of the subclass that the entries name. -/
def object (m : Model) (asked : Class) (entries : List (String × Data)) :
    Guarded ConstructionError Instance := do
  let (cls, named) ← chooseClass m asked entries
  return instanceOf cls (← slots m cls named entries)

/-- The instance of a class that data stands for. -/
def construct (m : Model) (className : String) (data : Data) :
    Guarded ConstructionError Instance := do
  let cls ← target m className
  match data with
  | .map entries => object m cls entries
  | .built built =>
    if ← fits m cls built then return built
    else
      .error (.refused (.typeMismatch cls.name classKey s!"instance of {cls.name}"
        (Data.built built).describe))
  | data => .error (.refused (.expectedObject cls.name data.describe))

/-! ## The steps -/

variable {m : Model} {owner asked cls : Class} {field : Field}

theorem target_eq (hm : m.Sound) (name : String) :
    target m name = guarded (Construction.target m name) := by
  rw [target, getClass_eq hm, guarded_mapError, Construction.target]

theorem chooseClass_eq (hm : m.Sound) (entries : List (String × Data)) :
    chooseClass m asked entries = guarded (Construction.chooseClass m asked entries) := by
  by_cases hfield : asked.hasField classKey
  · rw [Construction.chooseClass_of_hasField hfield, chooseClass, if_pos hfield]
    rfl
  · cases hget : Entries.get? classKey entries with
    | none =>
      rw [Construction.chooseClass_of_none hget]
      simp [chooseClass, hget, pure, Except.pure]
    | some value =>
      simp only [chooseClass, Construction.chooseClass, hfield, hget]
      cases nameOf? value with
      | none => rfl
      | some name =>
        refine guarded_bind_congr (target_eq hm name) fun actual _ => ?_
        split <;> rfl

theorem fits_eq (hm : m.Sound) (built : Instance) :
    fits m cls built = guarded (Construction.fits m cls built) :=
  guarded_bind_congr (target_eq hm _) fun _ _ => rfl

theorem accept_eq (hm : m.Sound) (built : Instance) :
    accept m owner field cls built = guarded (Construction.accept m owner field cls built) := by
  refine guarded_bind_congr (fits_eq hm built) fun fitting _ => ?_
  cases fitting <;> rfl

theorem ofScalar_eq (hm : m.Sound) (value : Scalar) :
    ofScalar m owner field value = guarded (Construction.ofScalar m owner field value) := by
  rw [ofScalar, Construction.ofScalar]
  cases field.kind with
  | attr declaredType =>
    cases htaken : value.coerce? (.ofDeclared declaredType) <;> simp [Scalar.coerce, htaken]
  | reference link => exact guarded_bind_congr (target_eq hm _) fun _ _ => rfl
  | collection link => exact guarded_bind_congr (target_eq hm _) fun _ _ => rfl

/-! ## Along the data -/

theorem object_eq (hm : m.Sound) (hasked : asked ∈ m.classes) {entries : List (String × Data)}
    (hslots : ∀ cls ∈ m.classes, ∀ named,
      slots m cls named entries = guarded (Construction.slots m cls named entries)) :
    object m asked entries = guarded (Construction.object m asked entries) := by
  refine guarded_bind_congr (chooseClass_eq hm entries) ?_
  rintro ⟨cls, named⟩ hchoice
  have hcls := Construction.mem_of_chooseClass hm hasked hchoice
  exact guarded_bind_congr (hslots cls hcls named) fun _ _ => rfl

theorem slot_map_reference {entries : List (String × Data)} {link : Link}
    (hkind : field.kind = .reference link) :
    slot m owner field (.map entries) = (do
      let asked ← target m link.target
      return .reference (← object m asked entries)) := by
  rw [slot, hkind]
  simp only [object, bind_assoc, pure_bind]

theorem related_map_cons {entries : List (String × Data)} {rest : List Data} :
    related m owner field asked (.map entries :: rest) = (do
      let item ← object m asked entries
      return item :: (← related m owner field asked rest)) := by
  rw [related]
  simp only [object, bind_assoc, pure_bind]

mutual

theorem slots_eq (hm : m.Sound) {cls : Class} (hcls : cls ∈ m.classes) (named : Bool) :
    ∀ entries : List (String × Data),
      slots m cls named entries = guarded (Construction.slots m cls named entries)
  | [] => by rw [slots, Construction.slots]; rfl
  | (key, value) :: rest => by
    rw [slots, Construction.slots]
    split
    · exact slots_eq hm hcls named rest
    · rw [field?_eq hm hcls, bind_ok]
      cases m.field? cls key with
      | none => rfl
      | some field =>
        refine guarded_bind_congr (slot_eq hm value) fun _ _ => ?_
        exact guarded_bind_congr (slots_eq hm hcls named rest) fun _ _ => rfl

theorem slot_eq (hm : m.Sound) {owner : Class} {field : Field} :
    ∀ data : Data, slot m owner field data = guarded (Construction.slot m owner field data)
  | .null => by rw [slot, Construction.slot]; rfl
  | .scalar value => by rw [slot, Construction.slot]; exact ofScalar_eq hm value
  | .map entries => by
    cases hkind : field.kind with
    | attr declaredType => rw [slot, Construction.slot, hkind]
    | reference link =>
      rw [slot_map_reference hkind, Construction.slot_map_reference hkind]
      refine guarded_bind_congr (target_eq hm _) fun asked hasked => ?_
      have hcls := Construction.mem_of_target hm hasked
      have hobject : object m asked entries = guarded (Construction.object m asked entries) :=
        object_eq hm hcls fun cls hcls named => slots_eq hm hcls named entries
      exact guarded_bind_congr hobject fun _ _ => rfl
    | collection link =>
      rw [slot, Construction.slot, hkind]
      exact guarded_bind_congr (target_eq hm _) fun _ _ => rfl
  | .list items => by
    rw [slot, Construction.slot]
    cases field.kind with
    | attr declaredType => rfl
    | reference link => exact guarded_bind_congr (target_eq hm _) fun _ _ => rfl
    | collection link =>
      refine guarded_bind_congr (target_eq hm _) fun asked hasked => ?_
      have hcls := Construction.mem_of_target hm hasked
      exact guarded_bind_congr (related_eq hm hcls items) fun _ _ => rfl
  | .built built => by
    rw [slot, Construction.slot]
    cases field.kind with
    | attr declaredType => rfl
    | reference link =>
      refine guarded_bind_congr (target_eq hm _) fun asked _ => ?_
      exact guarded_bind_congr (accept_eq hm built) fun _ _ => rfl
    | collection link => exact guarded_bind_congr (target_eq hm _) fun _ _ => rfl

theorem related_eq (hm : m.Sound) {owner asked : Class} {field : Field}
    (hasked : asked ∈ m.classes) :
    ∀ items : List Data,
      related m owner field asked items = guarded (Construction.related m owner field asked items)
  | [] => by rw [related, Construction.related]; rfl
  | .map entries :: rest => by
    rw [related_map_cons, Construction.related_map_cons]
    have hobject : object m asked entries = guarded (Construction.object m asked entries) :=
      object_eq hm hasked fun cls hcls named => slots_eq hm hcls named entries
    refine guarded_bind_congr hobject fun _ _ => ?_
    exact guarded_bind_congr (related_eq hm hasked rest) fun _ _ => rfl
  | .built built :: rest => by
    rw [related, Construction.related]
    refine guarded_bind_congr (accept_eq hm built) fun _ _ => ?_
    exact guarded_bind_congr (related_eq hm hasked rest) fun _ _ => rfl
  | .null :: rest => by unfold related Construction.related; rfl
  | .scalar _ :: rest => by unfold related Construction.related; rfl
  | .list _ :: rest => by unfold related Construction.related; rfl

end

/-- A construction of a built model looks up nothing that is not there. -/
theorem construct_eq (hm : m.Sound) (className : String) (data : Data) :
    construct m className data = guarded (m.construct className data) := by
  refine guarded_bind_congr (target_eq hm className) fun asked hasked => ?_
  cases data with
  | map entries =>
    exact object_eq hm (Construction.mem_of_target hm hasked) fun cls hcls named =>
      slots_eq hm hcls named entries
  | built built =>
    refine guarded_bind_congr (fits_eq hm built) fun fitting _ => ?_
    cases fitting <;> rfl
  | null => rfl
  | scalar value => rfl
  | list items => rfl

end Guarded

/-! ## From the schema to the instance -/

/-- Nothing is looked up that is not there. The build of a declared schema makes its look-ups
among classes that are there, and so does every question to the model that it makes: all ids and
places that the model has stored lead somewhere. -/
theorem Model.inRange_of_declared {schema : Schema} (h : schema.Declared) :
    Guarded.ofSchema schema = guarded (Model.ofSchema schema) ∧
      ∀ m, Model.ofSchema schema = .ok m →
        m.Addressed ∧
        (∀ name, Guarded.getClass m name = guarded (m.getClass name)) ∧
        (∀ cls ∈ m.classes,
          (Guarded.classesAt m cls.parents : Guarded Empty _) = .ok (m.classesAt cls.parents) ∧
          (Guarded.classesAt m cls.ancestors : Guarded Empty _) =
            .ok (m.classesAt cls.ancestors) ∧
          (∀ name, (Guarded.field? m cls name : Guarded Empty _) = .ok (m.field? cls name)) ∧
          (Guarded.fields m cls : Guarded Empty _) = .ok (m.fields cls) ∧
          ∀ field ∈ cls.ownFields, (Guarded.declaringClass m field : Guarded Empty _) = .ok cls ∧
            m.declaringClass? field = some cls) ∧
        ∀ (className : String) (data : Data),
          Guarded.construct m className data = guarded (m.construct className data) := by
  refine ⟨Guarded.ofSchema_eq h, fun m hbuild => ?_⟩
  have hm : m.Sound := Built.sound ⟨schema, h, hbuild⟩
  refine ⟨hm.addressed, Guarded.getClass_eq hm, fun cls hcls => ?_, Guarded.construct_eq hm⟩
  exact ⟨Guarded.parents_eq hm hcls, Guarded.ancestors_eq hm hcls, Guarded.field?_eq hm hcls,
    Guarded.fields_eq hm hcls, fun field => Guarded.declaringClass_eq hm hcls⟩

/-- The schema of the diamond. -/
def Diamond.schema : Schema :=
  ⟨"diamond", none, [thing, named, dated, event].map Class.toDeclaredClass⟩

theorem Model.inRange_of_declared_diamond :
    Diamond.schema.Declared ∧ Guarded.ofSchema Diamond.schema = .ok Diamond.model ∧
      Diamond.model.Addressed ∧
      (Guarded.field? Diamond.model Diamond.event "label" : Guarded Empty _) =
        .ok (some ⟨"label", 0, .attr "string"⟩) := by
  have hdeclared : Diamond.schema.Declared :=
    ⟨"diamond", none, [.applyAll Diamond.declarations], by decide⟩
  have hbuild : Model.ofSchema Diamond.schema = .ok Diamond.model := by cbv
  have hevent : Diamond.event ∈ Diamond.model.classes := by decide
  rcases Model.inRange_of_declared hdeclared with ⟨hguarded, hinRange⟩
  rcases hinRange Diamond.model hbuild with ⟨haddressed, -, hclasses, -⟩
  refine ⟨hdeclared, ?_, haddressed, (hclasses _ hevent).2.2.1 "label"⟩
  rw [hguarded, hbuild]
  rfl

end ClassModel
