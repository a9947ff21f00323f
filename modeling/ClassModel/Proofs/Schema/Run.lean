import ClassModel.Schema.Draft
import Mathlib.Data.List.Nodup
import Mathlib.Data.List.Range

/-!
# Runs of a draft

Any sequence of calls may be made on a draft, and a refused call leaves it as it was. This file says
what each call can do and what every draft on the way has in common:

* `Draft.openClass_eq_ok`, `Draft.declareField_eq_ok` and their siblings — all that an accepted call
  can do, with the condition under which it does it;
* `Draft.Sound` — classes stand at the positions their ids name, class names are distinct, the own
  fields of a class are distinct and owned by it, and an open class was opened in this pass;
* `Draft.sound_run` — every draft that calls lead to is sound;
* `Schema.Declared.sound` — so is every schema that such a draft is finished to.
-/

namespace ClassModel

/-- A call on a draft. -/
inductive Call where
  | beginPass
  | apply (declaration : Declaration)
  | applyAll (declarations : List Declaration)
deriving DecidableEq, Repr

namespace Draft

/-- The draft after a call. A refused call leaves it as it was; of a list of declarations those
before the first refused one stay. -/
def after (draft : Draft) : Call → Draft
  | .beginPass =>
    match draft.beginPass with
    | .ok next => next
    | .error _ => draft
  | .apply declaration =>
    match draft.apply declaration with
    | .ok next => next
    | .error _ => draft
  | .applyAll declarations => (draft.applyAll declarations).1

/-- The draft after calls, one after another. -/
def run (draft : Draft) (calls : List Call) : Draft := calls.foldl after draft

end Draft

/-- A schema is declared when calls on a new draft lead to it. -/
def Schema.Declared (schema : Schema) : Prop :=
  ∃ name qualifier calls, ((Draft.start name qualifier).run calls).finish = .ok schema

/-! ## What an accepted call does -/

namespace Draft

variable {draft next : Draft}

theorem find?_eq_some {name : String} {cls : DraftClass} (h : draft.find? name = some cls) :
    cls ∈ draft.classes ∧ cls.name = name := by
  have hname := List.find?_some h
  exact ⟨List.mem_of_find?_eq_some h, by simpa using hname⟩

theorem find?_eq_none {name : String} :
    draft.find? name = none ↔ name ∉ draft.classes.map DraftClass.name := by
  simp [find?]

theorem mem_of_openClass?_eq_some {cls : DraftClass} (h : draft.openClass? = some cls) :
    cls ∈ draft.classes := by
  rcases Option.bind_eq_some_iff.mp h with ⟨name, -, hfind⟩
  exact (find?_eq_some hfind).1

theorem beginPass_eq_ok :
    draft.beginPass = .ok next ↔
      draft.opened = none ∧ next = { draft with pass := draft.pass + 1 } := by
  unfold beginPass
  cases draft.opened <;> simp [eq_comm]

/-- Opening a class either reopens one that was not yet opened in this pass, or adds a new one. -/
theorem openClass_eq_ok {name : String} {parents : List String} :
    draft.openClass name parents = .ok next ↔
      draft.opened = none ∧
        ((∃ cls, draft.find? name = some cls ∧ cls.openedIn ≠ draft.pass ∧
            next = { draft.update name (·.reopen draft.pass parents) with opened := some name }) ∨
          (draft.find? name = none ∧
            next = { draft with
              classes := draft.classes ++ [⟨draft.classes.length, name, parents, [], draft.pass⟩]
              opened := some name })) := by
  unfold openClass
  cases draft.opened with
  | some outer => simp
  | none =>
    cases draft.find? name with
    | none => simp [eq_comm]
    | some cls =>
      by_cases hpass : cls.openedIn = draft.pass
      · simp [hpass]
      · simp [hpass, eq_comm (b := next)]

/-- Declaring a field either adds it to the open class or skips one of an earlier pass. -/
theorem declareField_eq_ok {f : FieldDeclaration} :
    draft.declareField f = .ok next ↔
      ∃ cls, draft.openClass? = some cls ∧
        ((cls.field? f.name = none ∧ next = draft.update cls.name (·.addField draft.pass f)) ∨
          (∃ known, cls.field? f.name = some known ∧ known.pass ≠ draft.pass ∧ next = draft)) := by
  unfold declareField
  cases draft.openClass? with
  | none => simp
  | some cls =>
    cases hf : cls.field? f.name with
    | none => simp [hf, eq_comm]
    | some known =>
      by_cases hpass : known.pass = draft.pass
      · simp [hf, hpass]
      · simp [hf, hpass, eq_comm]

/-- Declaring a field is refused with no class open, and for a field of this pass. -/
theorem declareField_eq_error {f : FieldDeclaration} {e : SchemaError} :
    draft.declareField f = .error e ↔
      (draft.openClass? = none ∧ e = .fieldOutsideClass f.name) ∨
        ∃ cls known, draft.openClass? = some cls ∧ cls.field? f.name = some known ∧
          known.pass = draft.pass ∧ e = .duplicateField cls.name f.name := by
  unfold declareField
  cases draft.openClass? with
  | none => simp [eq_comm]
  | some cls =>
    cases hf : cls.field? f.name with
    | none => simp [hf]
    | some known =>
      by_cases hpass : known.pass = draft.pass
      · simp [hf, hpass, eq_comm (b := e)]
      · simp [hf, hpass]

theorem closeClass_eq_ok :
    draft.closeClass = .ok next ↔
      (∃ name, draft.opened = some name) ∧ next = { draft with opened := none } := by
  unfold closeClass
  cases draft.opened <;> simp [eq_comm]

/-- Declarations are all accepted when none stops the run over them. -/
theorem declare_eq_ok {declarations : List Declaration} :
    draft.declare declarations = .ok next ↔ draft.applyAll declarations = (next, none) := by
  unfold declare
  split
  · next hall => simp [hall]
  · next hall => simp [hall]

theorem declare_nil (draft : Draft) : draft.declare [] = .ok draft := rfl

theorem declare_cons (draft : Draft) (declaration : Declaration) (rest : List Declaration) :
    draft.declare (declaration :: rest) =
      draft.apply declaration >>= fun next => next.declare rest := by
  cases hnext : draft.apply declaration with
  | ok next => simp only [declare, applyAll, hnext, bind, Except.bind]
  | error e => simp only [declare, applyAll, hnext, bind, Except.bind]

theorem declare_append (draft : Draft) (declarations rest : List Declaration) :
    draft.declare (declarations ++ rest) =
      draft.declare declarations >>= fun next => next.declare rest := by
  induction declarations generalizing draft with
  | nil => rfl
  | cons declaration others ih =>
    rw [List.cons_append, declare_cons, declare_cons]
    cases draft.apply declaration with
    | ok next => exact ih next
    | error e => rfl

/-- Declarations that are all accepted lead to the draft that they make. -/
theorem after_applyAll {declarations : List Declaration}
    (h : draft.declare declarations = .ok next) : draft.after (.applyAll declarations) = next := by
  rw [after, declare_eq_ok.mp h]

theorem after_beginPass (h : draft.beginPass = .ok next) : draft.after .beginPass = next := by
  rw [after, h]

theorem run_nil (draft : Draft) : draft.run [] = draft := rfl

theorem run_cons (draft : Draft) (call : Call) (calls : List Call) :
    draft.run (call :: calls) = (draft.after call).run calls := rfl

end Draft

/-! ## What a change of one class leaves alone -/

namespace DraftClass

theorem foldl_addParent {α : Type} (view : DraftClass → α)
    (hview : ∀ cls parent, view (addParent cls parent) = view cls) (cls : DraftClass)
    (parents : List String) : view (parents.foldl addParent cls) = view cls := by
  induction parents generalizing cls with
  | nil => rfl
  | cons parent rest ih => rw [List.foldl_cons, ih, hview]

@[simp] theorem id_reopen (cls : DraftClass) (pass : Nat) (parents : List String) :
    (cls.reopen pass parents).id = cls.id :=
  foldl_addParent DraftClass.id (fun _ _ => by unfold addParent; split <;> rfl) _ parents

@[simp] theorem name_reopen (cls : DraftClass) (pass : Nat) (parents : List String) :
    (cls.reopen pass parents).name = cls.name :=
  foldl_addParent DraftClass.name (fun _ _ => by unfold addParent; split <;> rfl) _ parents

@[simp] theorem fields_reopen (cls : DraftClass) (pass : Nat) (parents : List String) :
    (cls.reopen pass parents).fields = cls.fields :=
  foldl_addParent DraftClass.fields (fun _ _ => by unfold addParent; split <;> rfl) _ parents

@[simp] theorem openedIn_reopen (cls : DraftClass) (pass : Nat) (parents : List String) :
    (cls.reopen pass parents).openedIn = pass :=
  foldl_addParent DraftClass.openedIn (fun _ _ => by unfold addParent; split <;> rfl) _ parents

@[simp] theorem id_addField (cls : DraftClass) (pass : Nat) (f : FieldDeclaration) :
    (cls.addField pass f).id = cls.id := rfl

@[simp] theorem name_addField (cls : DraftClass) (pass : Nat) (f : FieldDeclaration) :
    (cls.addField pass f).name = cls.name := rfl

end DraftClass

namespace Draft

variable {draft : Draft} {name : String} {change : DraftClass → DraftClass}

theorem map_update {α : Type} (view : DraftClass → α)
    (hview : ∀ cls, view (change cls) = view cls) :
    (draft.update name change).classes.map view = draft.classes.map view := by
  simp only [update, List.map_map]
  apply List.map_congr_left
  intro cls _
  simp only [Function.comp_apply]
  split
  · exact hview cls
  · rfl

@[simp] theorem length_update :
    (draft.update name change).classes.length = draft.classes.length := by
  simp [update]

theorem mem_update {cls : DraftClass} :
    cls ∈ (draft.update name change).classes ↔
      ∃ old ∈ draft.classes, (if old.name = name then change old else old) = cls := by
  simp [update]

end Draft

/-! ## The invariant -/

/-- What holds of a class under declaration: its fields are distinct and its own, and nothing in it
was made in a pass that is yet to come. -/
structure DraftClass.Sound (pass : Nat) (cls : DraftClass) : Prop where
  distinct : (cls.fields.map fun f => f.field.name).Nodup
  owned : ∀ f ∈ cls.fields, f.field.owner = cls.id
  past : ∀ f ∈ cls.fields, f.pass ≤ pass
  opened : cls.openedIn ≤ pass

/-- What holds of every draft. -/
structure Draft.Sound (draft : Draft) : Prop where
  ids : draft.classes.map DraftClass.id = List.range draft.classes.length
  distinct : (draft.classes.map DraftClass.name).Nodup
  classes : ∀ cls ∈ draft.classes, cls.Sound draft.pass
  opened : ∀ name, draft.opened = some name →
    ∃ cls ∈ draft.classes, cls.name = name ∧ cls.openedIn = draft.pass

namespace DraftClass.Sound

variable {cls : DraftClass} {pass : Nat}

theorem later (h : cls.Sound pass) : cls.Sound (pass + 1) where
  distinct := h.distinct
  owned := h.owned
  past := fun f hf => Nat.le_succ_of_le (h.past f hf)
  opened := Nat.le_succ_of_le h.opened

theorem reopen (h : cls.Sound pass) (parents : List String) :
    (cls.reopen pass parents).Sound pass where
  distinct := by simpa using h.distinct
  owned := by simpa using h.owned
  past := by simpa using h.past
  opened := by simp

theorem addField (h : cls.Sound pass) {f : FieldDeclaration} (hf : cls.field? f.name = none) :
    (cls.addField pass f).Sound pass := by
  have hnew : f.name ∉ cls.fields.map fun g => g.field.name := by
    simpa [DraftClass.field?] using hf
  constructor
  · simp only [DraftClass.addField, List.map_append, List.map_cons, List.map_nil]
    rw [← List.concat_eq_append]
    exact h.distinct.concat hnew
  · intro g hg
    rcases List.mem_append.mp hg with hold | hlast
    · exact h.owned g hold
    · rw [List.mem_singleton.mp hlast]
      rfl
  · intro g hg
    rcases List.mem_append.mp hg with hold | hlast
    · exact h.past g hold
    · rw [List.mem_singleton.mp hlast]
  · exact h.opened

end DraftClass.Sound

namespace Draft

open DraftClass

theorem sound_start (name : String) (qualifier : Option String) : (start name qualifier).Sound where
  ids := rfl
  distinct := List.nodup_nil
  classes := by simp [start]
  opened := by simp [start]

namespace Sound

variable {draft next : Draft}

theorem beginPass (h : draft.Sound) (hnext : draft.beginPass = .ok next) : next.Sound := by
  rcases beginPass_eq_ok.mp hnext with ⟨hclosed, rfl⟩
  refine ⟨h.ids, h.distinct, fun cls hcls => (h.classes cls hcls).later, ?_⟩
  intro name hname
  simp [hclosed] at hname

theorem openClass (h : draft.Sound) {name : String} {parents : List String}
    (hnext : draft.openClass name parents = .ok next) : next.Sound := by
  rcases openClass_eq_ok.mp hnext with ⟨-, ⟨cls, hfind, -, rfl⟩ | ⟨hfind, rfl⟩⟩
  · -- reopened: one class changes, and only in its parents and its mark
    rcases find?_eq_some hfind with ⟨hmem, hname⟩
    constructor
    · simp only [map_update DraftClass.id fun old => id_reopen old draft.pass parents,
        length_update]
      exact h.ids
    · simp only [map_update DraftClass.name fun old => name_reopen old draft.pass parents]
      exact h.distinct
    · intro other hother
      rcases mem_update.mp hother with ⟨old, hold, rfl⟩
      split
      · exact (h.classes old hold).reopen parents
      · exact h.classes old hold
    · intro other hother
      obtain rfl : name = other := by simpa using hother
      refine ⟨cls.reopen draft.pass parents, mem_update.mpr ⟨cls, hmem, by simp [hname]⟩, ?_, ?_⟩
      · simpa using hname
      · simp [update]
  · -- new: the class takes the next position
    have hnew := find?_eq_none.mp hfind
    constructor
    · simp [h.ids, List.range_succ]
    · simp only [List.map_append, List.map_cons, List.map_nil]
      rw [← List.concat_eq_append]
      exact h.distinct.concat hnew
    · intro cls hcls
      rcases List.mem_append.mp hcls with hold | hlast
      · exact h.classes cls hold
      · rw [List.mem_singleton.mp hlast]
        exact ⟨List.nodup_nil, by simp, by simp, Nat.le_refl _⟩
    · intro other hother
      obtain rfl : name = other := by simpa using hother
      exact ⟨_, List.mem_append_right _ (List.mem_singleton.mpr rfl), rfl, rfl⟩

theorem declareField (h : draft.Sound) {f : FieldDeclaration}
    (hnext : draft.declareField f = .ok next) : next.Sound := by
  rcases declareField_eq_ok.mp hnext with ⟨cls, hopen, ⟨hnone, rfl⟩ | ⟨-, -, -, rfl⟩⟩
  · have hmem := mem_of_openClass?_eq_some hopen
    constructor
    · rw [map_update DraftClass.id fun old => id_addField old draft.pass f, length_update]
      exact h.ids
    · rw [map_update DraftClass.name fun old => name_addField old draft.pass f]
      exact h.distinct
    · intro other hother
      rcases mem_update.mp hother with ⟨old, hold, rfl⟩
      split
      · next hname =>
        -- names are distinct, so the class that changes is the open one
        rcases List.inj_on_of_nodup_map h.distinct hold hmem hname with rfl
        exact (h.classes old hold).addField hnone
      · exact h.classes old hold
    · -- the open class is still there, changed or not
      intro name' hname'
      rcases h.opened name' hname' with ⟨old, hold, hname, hpass⟩
      refine ⟨_, mem_update.mpr ⟨old, hold, rfl⟩, ?_, ?_⟩
      · split
        · exact hname
        · exact hname
      · split
        · exact hpass
        · exact hpass
  · exact h

theorem closeClass (h : draft.Sound) (hnext : draft.closeClass = .ok next) : next.Sound := by
  rcases closeClass_eq_ok.mp hnext with ⟨-, rfl⟩
  exact ⟨h.ids, h.distinct, h.classes, by simp⟩

/-- An accepted declaration keeps a draft sound. -/
theorem apply (h : draft.Sound) {declaration : Declaration}
    (hnext : draft.apply declaration = .ok next) : next.Sound := by
  cases declaration with
  | openClass name parents => exact h.openClass hnext
  | field f => exact h.declareField hnext
  | closeClass => exact h.closeClass hnext

theorem applyAll (h : draft.Sound) (declarations : List Declaration) :
    (draft.applyAll declarations).1.Sound := by
  induction declarations generalizing draft with
  | nil => exact h
  | cons declaration rest ih =>
    simp only [Draft.applyAll]
    split
    · next hnext => exact ih (h.apply hnext)
    · exact h

theorem declare (h : draft.Sound) {declarations : List Declaration}
    (hnext : draft.declare declarations = .ok next) : next.Sound := by
  have hall := h.applyAll declarations
  rw [declare_eq_ok.mp hnext] at hall
  exact hall

/-- A call keeps a draft sound, whether it is accepted or refused. -/
theorem after (h : draft.Sound) (call : Call) : (draft.after call).Sound := by
  cases call with
  | beginPass =>
    simp only [Draft.after]
    split
    · next hnext => exact h.beginPass hnext
    · exact h
  | apply declaration =>
    simp only [Draft.after]
    split
    · next hnext => exact h.apply hnext
    · exact h
  | applyAll declarations => exact h.applyAll declarations

theorem run (h : draft.Sound) (calls : List Call) : (draft.run calls).Sound := by
  induction calls generalizing draft with
  | nil => exact h
  | cons call rest ih => exact ih (h.after call)

/-- The open class of a draft is one of its classes. -/
theorem openClass?_eq_some (h : draft.Sound) {name : String} (hopened : draft.opened = some name) :
    ∃ cls, draft.openClass? = some cls ∧ cls.name = name := by
  rcases h.opened name hopened with ⟨cls, hcls, hname, -⟩
  cases hfind : draft.find? name with
  | none => exact absurd (hname ▸ List.mem_map_of_mem hcls) (find?_eq_none.mp hfind)
  | some found =>
    refine ⟨found, ?_, (find?_eq_some hfind).2⟩
    rw [openClass?, hopened, Option.bind_some, hfind]

end Sound

/-- Every draft that calls on a new one lead to is sound. -/
theorem sound_run (name : String) (qualifier : Option String) (calls : List Call) :
    ((start name qualifier).run calls).Sound :=
  (sound_start name qualifier).run calls

end Draft

/-! ## Declared schemas -/

/-- What holds of every schema: each class stands at the position its id names and is not built in,
and its fields are distinct and its own. -/
structure Schema.Sound (schema : Schema) : Prop where
  ids : schema.classes.map DeclaredClass.id = List.range schema.classes.length
  distinct : (schema.classes.map DeclaredClass.name).Nodup
  declared : ∀ cls ∈ schema.classes, cls.builtin = false
  fields : ∀ cls ∈ schema.classes, (cls.ownFields.map Field.name).Nodup
  owned : ∀ cls ∈ schema.classes, ∀ field ∈ cls.ownFields, field.owner = cls.id

theorem Draft.Sound.finish {draft : Draft} (h : draft.Sound) {schema : Schema}
    (hfinish : draft.finish = .ok schema) : schema.Sound := by
  unfold Draft.finish at hfinish
  cases hopened : draft.opened with
  | some name => simp [hopened] at hfinish
  | none =>
    simp only [hopened, Except.ok.injEq] at hfinish
    subst hfinish
    constructor
    · simpa [DraftClass.declared, Function.comp_def] using h.ids
    · simpa [DraftClass.declared, Function.comp_def] using h.distinct
    · simp [DraftClass.declared]
    · intro cls hcls
      rcases List.mem_map.mp hcls with ⟨draftClass, hmem, rfl⟩
      simpa [DraftClass.declared, Function.comp_def] using (h.classes draftClass hmem).distinct
    · intro cls hcls field hfield
      rcases List.mem_map.mp hcls with ⟨draftClass, hmem, rfl⟩
      rcases List.mem_map.mp hfield with ⟨f, hf, rfl⟩
      exact (h.classes draftClass hmem).owned f hf

theorem Schema.Declared.sound {schema : Schema} (h : schema.Declared) : schema.Sound := by
  rcases h with ⟨name, qualifier, calls, hfinish⟩
  exact (Draft.sound_run name qualifier calls).finish hfinish

end ClassModel
