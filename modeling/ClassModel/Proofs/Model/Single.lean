import ClassModel.Proofs.Model.Repeat
import ClassModel.Proofs.Schema.History
import ClassModel.Proofs.Schema.Openings

/-!
# One document alone

A single document is one pass. It is accepted if it lists each class once and no class has two
fields of one name, and then its classes are declared as they are listed.

* `Document.Distinct` — what a document must meet;
* `Document.schema` — what it then declares;
* `Draft.declare_new` — entries of classes that a draft does not have yet;
* `Schema.ofDocument_eq_ok` — which documents declare a schema, and which schema.
-/

namespace ClassModel

/-- A class as its entry declares it at a position. -/
def ClassEntry.declared (id : ClassId) (entry : ClassEntry) : DeclaredClass where
  id := id
  name := entry.name
  parentNames := entry.parents
  ownFields := entry.fields.map (·.ownedBy id)
  builtin := false

/-- The same with the marks of the pass that declares it. -/
def ClassEntry.drafted (pass : Nat) (id : ClassId) (entry : ClassEntry) : DraftClass where
  id := id
  name := entry.name
  parentNames := entry.parents
  fields := entry.fields.map fun f => ⟨f.ownedBy id, pass⟩
  openedIn := pass

/-- A document lists each class once, and for each class each field once. -/
structure Document.Distinct (document : Document) : Prop where
  classes : (document.classes.map ClassEntry.name).Nodup
  fields : ∀ entry ∈ document.classes, (entry.fields.map FieldDeclaration.name).Nodup

/-- The classes of a document as they are listed. -/
def Document.schema (document : Document) : Schema where
  name := document.name
  qualifier := document.qualifier.filter (· ≠ "")
  classes := document.classes.mapIdx ClassEntry.declared

theorem ClassEntry.declared_drafted (pass : Nat) (id : ClassId) (entry : ClassEntry) :
    (entry.drafted pass id).declared = entry.declared id := by
  simp [drafted, declared, DraftClass.declared, Function.comp_def]

theorem DraftClass.foldl_addField (cls : DraftClass) (pass : Nat) (fields : List FieldDeclaration) :
    fields.foldl (fun cls f => cls.addField pass f) cls =
      { cls with fields := cls.fields ++ fields.map fun f => ⟨f.ownedBy cls.id, pass⟩ } := by
  induction fields generalizing cls with
  | nil => simp
  | cons f rest ih =>
    rw [List.foldl_cons, ih]
    simp [addField, FieldDeclaration.ownedBy]

namespace Draft

variable {draft next : Draft}

/-! ## The fields of a new class -/

section Last

variable {others : List DraftClass} {cls : DraftClass}

theorem find?_last (hclasses : draft.classes = others ++ [cls])
    (hnew : cls.name ∉ others.map DraftClass.name) : draft.find? cls.name = some cls := by
  have hothers : others.find? (fun other => other.name = cls.name) = none := by
    rw [List.find?_eq_none]
    intro other hother hname
    exact hnew (of_decide_eq_true hname ▸ List.mem_map_of_mem hother)
  rw [find?, hclasses, List.find?_append, hothers, Option.none_or]
  simp

theorem update_last (hclasses : draft.classes = others ++ [cls])
    (hnew : cls.name ∉ others.map DraftClass.name) (change : DraftClass → DraftClass) :
    draft.update cls.name change = { draft with classes := others ++ [change cls] } := by
  have hothers : (others.map fun other => if other.name = cls.name then change other else other) =
      others := by
    refine (List.map_congr_left fun other hother => ?_).trans (List.map_id others)
    refine if_neg fun hname => hnew ?_
    exact hname ▸ List.mem_map_of_mem hother
  rw [update, hclasses, List.map_append, hothers]
  simp

/-- A field of a class whose fields are all of the present pass is refused if the class has its
name, and else added. -/
theorem declareField_new (hclasses : draft.classes = others ++ [cls])
    (hnew : cls.name ∉ others.map DraftClass.name) (hopened : draft.opened = some cls.name)
    (hpass : ∀ f ∈ cls.fields, f.pass = draft.pass) {f : FieldDeclaration} :
    draft.declareField f = .ok next ↔
      cls.field? f.name = none ∧
        next = { draft with classes := others ++ [cls.addField draft.pass f] } := by
  have hopen : draft.openClass? = some cls := by
    rw [openClass?, hopened, Option.bind_some]
    exact find?_last hclasses hnew
  rw [declareField_eq_ok, hopen]
  constructor
  · rintro ⟨_, ⟨⟩, ⟨hnone, rfl⟩ | ⟨known, hknown, hpast, -⟩⟩
    · exact ⟨hnone, update_last hclasses hnew _⟩
    · -- no earlier pass has declared a field of this class
      have hmem : known ∈ cls.fields := List.mem_of_find?_eq_some hknown
      exact absurd (hpass known hmem) hpast
  · rintro ⟨hnone, rfl⟩
    exact ⟨cls, rfl, Or.inl ⟨hnone, (update_last hclasses hnew (·.addField draft.pass f)).symm⟩⟩

/-- A class takes a field more and then others, if they are new and differ from it. -/
theorem fields_new_iff {pass : Nat} {f : FieldDeclaration} {rest : List FieldDeclaration} :
    (cls.field? f.name = none ∧ (∀ g ∈ rest, (cls.addField pass f).field? g.name = none) ∧
        (rest.map FieldDeclaration.name).Nodup) ↔
      (∀ g ∈ f :: rest, cls.field? g.name = none) ∧
        ((f :: rest).map FieldDeclaration.name).Nodup := by
  have hadded : ∀ g : FieldDeclaration, (cls.addField pass f).field? g.name = none ↔
      cls.field? g.name = none ∧ g.name ≠ f.name := by
    intro g
    rw [DraftClass.field?_addField, Option.or_eq_none_iff, ite_eq_right_iff]
    simp [eq_comm]
  simp only [hadded, List.forall_mem_cons, List.map_cons, List.nodup_cons, List.mem_map, not_exists,
    not_and]
  constructor
  · rintro ⟨hf, hrest, hdistinct⟩
    exact ⟨⟨hf, fun g hg => (hrest g hg).1⟩, fun g hg => (hrest g hg).2, hdistinct⟩
  · rintro ⟨⟨hf, hrest⟩, hother, hdistinct⟩
    exact ⟨hf, fun g hg => ⟨hrest g hg, hother g hg⟩, hdistinct⟩

/-- Fields of a class whose fields are all of the present pass are taken if their names are new to
the class and distinct. -/
theorem declare_fields_new {fields : List FieldDeclaration}
    (hclasses : draft.classes = others ++ [cls]) (hnew : cls.name ∉ others.map DraftClass.name)
    (hopened : draft.opened = some cls.name) (hpass : ∀ f ∈ cls.fields, f.pass = draft.pass) :
    draft.declare (fields.map .field) = .ok next ↔
      ((∀ f ∈ fields, cls.field? f.name = none) ∧ (fields.map FieldDeclaration.name).Nodup) ∧
        next = { draft with
          classes := others ++ [fields.foldl (fun cls f => cls.addField draft.pass f) cls] } := by
  induction fields generalizing draft cls with
  | nil => simp [declare_nil, eq_comm, ← hclasses]
  | cons f rest ih =>
    have hpass' : ∀ g ∈ (cls.addField draft.pass f).fields, g.pass = draft.pass := by
      intro g hg
      rcases List.mem_append.mp hg with hold | hlast
      · exact hpass g hold
      · rw [List.mem_singleton.mp hlast]
    have hrest := @ih { draft with classes := others ++ [cls.addField draft.pass f] }
      (cls.addField draft.pass f) rfl hnew hopened hpass'
    rw [List.map_cons, declare_cons, bind_eq_ok]
    simp only [Draft.apply, declareField_new hclasses hnew hopened hpass, and_assoc,
      exists_and_left, exists_eq_left]
    rw [hrest, ← and_assoc, fields_new_iff, List.foldl_cons]
    exact and_assoc

end Last

/-! ## Entries of new classes -/

/-- The entry of a class that a draft does not have is taken if it lists each field once. -/
theorem declare_entry_new {entry : ClassEntry} (hopened : draft.opened = none)
    (hnew : entry.name ∉ draft.classes.map DraftClass.name) :
    draft.declare entry.declarations = .ok next ↔
      (entry.fields.map FieldDeclaration.name).Nodup ∧
        next = { draft with
          classes := draft.classes ++ [entry.drafted draft.pass draft.classes.length] } := by
  let empty : DraftClass := ⟨draft.classes.length, entry.name, entry.parents, [], draft.pass⟩
  let begun : Draft := { draft with classes := draft.classes ++ [empty], opened := some entry.name }
  have hopen : ∀ opened,
      draft.openClass entry.name entry.parents = .ok opened ↔ opened = begun := by
    intro opened
    simp [openClass_eq_ok, hopened, find?_eq_none.mpr hnew, begun, empty]
  have hfields : ∀ filled, begun.declare (entry.fields.map .field) = .ok filled ↔
      (entry.fields.map FieldDeclaration.name).Nodup ∧
        filled = { begun with
          classes := draft.classes ++ [entry.drafted draft.pass draft.classes.length] } := by
    intro filled
    have hnone : ∀ f ∈ entry.fields, empty.field? f.name = none := fun f _ => rfl
    have hpass : ∀ f ∈ empty.fields, f.pass = begun.pass := fun f hf => nomatch hf
    rw [declare_fields_new rfl hnew rfl hpass, DraftClass.foldl_addField, and_iff_right hnone]
    rfl
  have hclose : ∀ filled, filled = { begun with
      classes := draft.classes ++ [entry.drafted draft.pass draft.classes.length] } →
      (filled.closeClass = .ok next ↔ next = { draft with
        classes := draft.classes ++ [entry.drafted draft.pass draft.classes.length] }) := by
    rintro _ rfl
    simp [closeClass_eq_ok, begun, hopened]
  rw [declare_entry_eq_ok]
  constructor
  · rintro ⟨opened, hbegun, filled, hfilled, hclosed⟩
    obtain rfl := (hopen opened).mp hbegun
    rcases (hfields filled).mp hfilled with ⟨hdistinct, hfull⟩
    exact ⟨hdistinct, (hclose filled hfull).mp hclosed⟩
  · rintro ⟨hdistinct, hnext⟩
    refine ⟨begun, (hopen begun).mpr rfl, _, (hfields _).mpr ⟨hdistinct, rfl⟩, ?_⟩
    exact (hclose _ rfl).mpr hnext

/-- Entries of distinct classes that a draft does not have are taken if each lists each field
once. -/
theorem declare_new {entries : List ClassEntry} (hopened : draft.opened = none)
    (hnew : (draft.classes.map DraftClass.name ++ entries.map ClassEntry.name).Nodup) :
    draft.declare (entries.flatMap ClassEntry.declarations) = .ok next ↔
      (∀ entry ∈ entries, (entry.fields.map FieldDeclaration.name).Nodup) ∧
        next = { draft with
          classes := draft.classes ++ entries.mapIdx fun i entry =>
            entry.drafted draft.pass (draft.classes.length + i) } := by
  induction entries generalizing draft with
  | nil => simp [declare_nil, eq_comm]
  | cons entry rest ih =>
    have hfirst : entry.name ∉ draft.classes.map DraftClass.name := by
      intro hold
      exact List.disjoint_of_nodup_append hnew hold (by simp)
    have hrest := @ih { draft with
      classes := draft.classes ++ [entry.drafted draft.pass draft.classes.length] } hopened
      (by simpa [ClassEntry.drafted] using hnew)
    rw [List.flatMap_cons, declare_append, bind_eq_ok]
    simp only [declare_entry_new hopened hfirst, and_assoc, exists_and_left, exists_eq_left, hrest,
      List.forall_mem_cons]
    simp [List.mapIdx_cons, Nat.add_assoc, Nat.add_comm 1]

theorem declare_first {name : String} {qualifier : Option String} {entries : List ClassEntry}
    (hdistinct : (entries.map ClassEntry.name).Nodup) :
    (start name qualifier).declare (entries.flatMap ClassEntry.declarations) = .ok next ↔
      (∀ entry ∈ entries, (entry.fields.map FieldDeclaration.name).Nodup) ∧
        next = { start name qualifier with classes := entries.mapIdx (ClassEntry.drafted 0) } := by
  have hnew : ((start name qualifier).classes.map DraftClass.name ++
      entries.map ClassEntry.name).Nodup := hdistinct
  rw [declare_new rfl hnew]
  simp [start]

end Draft

/-- A document alone declares a schema if it lists each class and each field once, and then the one
that lists its classes. -/
theorem Schema.ofDocument_eq_ok {document : Document} {schema : Schema} :
    Schema.ofDocuments document [] = .ok schema ↔
      document.Distinct ∧ schema = document.schema := by
  have hfinish : Draft.finish { Draft.start document.name document.qualifier with
      classes := document.classes.mapIdx (ClassEntry.drafted 0) } = .ok document.schema := by
    have hclasses : (document.classes.mapIdx (ClassEntry.drafted 0)).map DraftClass.declared =
        document.classes.mapIdx ClassEntry.declared := by
      apply List.ext_getElem?
      intro i
      simp [Function.comp_def, ClassEntry.declared_drafted]
    rw [Draft.finish_eq_ok]
    refine ⟨rfl, ?_⟩
    rw [hclasses]
    rfl
  rw [Schema.ofDocuments_eq, bind_eq_ok]
  constructor
  · rintro ⟨draft, hdraft, hlast⟩
    have hdistinct := (Draft.covers_declare_document (Draft.sound_start _ _) hdraft).1
    rcases (Draft.declare_first hdistinct).mp hdraft with ⟨hfields, rfl⟩
    exact ⟨⟨hdistinct, hfields⟩, Except.ok.inj (hlast.symm.trans hfinish)⟩
  · rintro ⟨hdistinct, rfl⟩
    exact ⟨_, (Draft.declare_first hdistinct.classes).mpr ⟨hdistinct.fields, rfl⟩, hfinish⟩

end ClassModel
