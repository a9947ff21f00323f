import ClassModel.Proofs.Except
import ClassModel.Proofs.Schema.Run

/-!
# How drafts grow

An accepted call only adds to a draft. A class that is there stays, under its name and with its id;
new parents and new fields come behind those it has, and it is never taken back to an earlier pass.

* `DraftClass.Within` and `Draft.Within` — what is kept;
* `Draft.Within.beginPass`, `Draft.Within.apply`, `Draft.Within.declare` — accepted calls keep it;
* `Draft.OpenedNow` — that the present pass has opened a class, which stays so within the pass.
-/

namespace ClassModel

/-- A class is kept in another one. -/
structure DraftClass.Within (cls next : DraftClass) : Prop where
  id : cls.id = next.id
  parentNames : cls.parentNames <+: next.parentNames
  fields : cls.fields <+: next.fields
  openedIn : cls.openedIn ≤ next.openedIn

/-- All classes of a draft are kept in another one, under their names. -/
def Draft.Within (draft next : Draft) : Prop :=
  ∀ name cls, draft.find? name = some cls → ∃ later, next.find? name = some later ∧ cls.Within later

/-! ## One class -/

namespace DraftClass

theorem Within.refl (cls : DraftClass) : cls.Within cls :=
  ⟨rfl, List.prefix_rfl, List.prefix_rfl, Nat.le_refl _⟩

theorem Within.trans {cls next later : DraftClass} (h : cls.Within next) (h' : next.Within later) :
    cls.Within later :=
  ⟨h.id.trans h'.id, h.parentNames.trans h'.parentNames, h.fields.trans h'.fields,
    Nat.le_trans h.openedIn h'.openedIn⟩

theorem prefix_addParent (cls : DraftClass) (parent : String) :
    cls.parentNames <+: (cls.addParent parent).parentNames := by
  unfold addParent
  split
  · exact List.prefix_rfl
  · exact List.prefix_append _ _

theorem prefix_foldl_addParent (cls : DraftClass) (parents : List String) :
    cls.parentNames <+: (parents.foldl addParent cls).parentNames := by
  induction parents generalizing cls with
  | nil => exact List.prefix_rfl
  | cons parent rest ih => exact (cls.prefix_addParent parent).trans (ih _)

theorem mem_foldl_addParent {cls : DraftClass} {parents : List String} {p : String}
    (hp : p ∈ parents) : p ∈ (parents.foldl addParent cls).parentNames := by
  induction parents generalizing cls with
  | nil => simp at hp
  | cons parent rest ih =>
    rcases List.mem_cons.mp hp with rfl | hrest
    · have hadded : p ∈ (cls.addParent p).parentNames := by
        unfold addParent
        split
        · assumption
        · simp
      exact (prefix_foldl_addParent _ rest).subset hadded
    · exact ih hrest

theorem within_reopen {cls : DraftClass} {pass : Nat} (h : cls.openedIn ≤ pass)
    (parents : List String) : cls.Within (cls.reopen pass parents) where
  id := (id_reopen cls pass parents).symm
  parentNames := prefix_foldl_addParent { cls with openedIn := pass } parents
  fields := (fields_reopen cls pass parents).symm ▸ List.prefix_rfl
  openedIn := (openedIn_reopen cls pass parents).symm ▸ h

theorem within_addField (cls : DraftClass) (pass : Nat) (f : FieldDeclaration) :
    cls.Within (cls.addField pass f) :=
  ⟨rfl, List.prefix_rfl, List.prefix_append _ _, Nat.le_refl _⟩

end DraftClass

/-! ## A draft -/

namespace Draft

variable {draft next later : Draft}

theorem find?_update {name : String} {change : DraftClass → DraftClass}
    (hname : ∀ cls, (change cls).name = cls.name) (other : String) :
    (draft.update name change).find? other =
      if other = name then (draft.find? other).map change else draft.find? other := by
  simp only [find?, update]
  induction draft.classes with
  | nil => simp
  | cons cls rest ih =>
    have hsame : (if cls.name = name then change cls else cls).name = cls.name := by
      split
      · exact hname cls
      · rfl
    rw [List.map_cons, List.find?_cons, List.find?_cons, hsame]
    by_cases hother : cls.name = other
    · subst hother
      simp only [decide_true, Option.map_some]
      split
      · rfl
      · rfl
    · simp only [hother, decide_false]
      exact ih

theorem find?_update_self {name : String} {change : DraftClass → DraftClass}
    (hname : ∀ cls, (change cls).name = cls.name) {cls : DraftClass}
    (hcls : draft.find? name = some cls) :
    (draft.update name change).find? name = some (change cls) := by
  rw [find?_update hname, if_pos rfl, hcls, Option.map_some]

namespace Within

theorem refl (draft : Draft) : draft.Within draft :=
  fun _ cls hcls => ⟨cls, hcls, .refl cls⟩

theorem trans (h : draft.Within next) (h' : next.Within later) : draft.Within later := by
  intro name cls hcls
  rcases h name cls hcls with ⟨cls', hcls', hwithin⟩
  rcases h' name cls' hcls' with ⟨cls'', hcls'', hwithin'⟩
  exact ⟨cls'', hcls'', hwithin.trans hwithin'⟩

/-- A change of one class keeps a draft if it keeps the class. -/
theorem update {name : String} {change : DraftClass → DraftClass}
    (hname : ∀ cls, (change cls).name = cls.name)
    (hchange : ∀ cls, draft.find? name = some cls → cls.Within (change cls)) :
    draft.Within (draft.update name change) := by
  intro other cls hcls
  rw [find?_update hname]
  by_cases hother : other = name
  · rw [if_pos hother, hcls]
    exact ⟨change cls, rfl, hchange cls (hother ▸ hcls)⟩
  · rw [if_neg hother]
    exact ⟨cls, hcls, .refl cls⟩

theorem beginPass (hnext : draft.beginPass = .ok next) : draft.Within next := by
  rcases beginPass_eq_ok.mp hnext with ⟨-, rfl⟩
  exact .refl draft

theorem openClass (h : draft.Sound) {name : String} {parents : List String}
    (hnext : draft.openClass name parents = .ok next) : draft.Within next := by
  rcases openClass_eq_ok.mp hnext with ⟨-, ⟨cls, hfind, -, rfl⟩ | ⟨hnew, rfl⟩⟩
  · refine Within.update (fun old => DraftClass.name_reopen old draft.pass parents) ?_
    intro old hold
    have hpast := (h.classes old (find?_eq_some hold).1).opened
    exact DraftClass.within_reopen hpast parents
  · -- a new class stands behind all others
    intro other cls hcls
    refine ⟨cls, ?_, .refl cls⟩
    simp only [Draft.find?, List.find?_append] at hcls ⊢
    rw [hcls, Option.some_or]

theorem declareField {f : FieldDeclaration} (hnext : draft.declareField f = .ok next) :
    draft.Within next := by
  rcases declareField_eq_ok.mp hnext with ⟨cls, -, ⟨-, rfl⟩ | ⟨-, -, -, rfl⟩⟩
  · exact .update (fun old => DraftClass.name_addField old draft.pass f)
      fun old _ => old.within_addField draft.pass f
  · exact .refl next

theorem closeClass (hnext : draft.closeClass = .ok next) : draft.Within next := by
  rcases closeClass_eq_ok.mp hnext with ⟨-, rfl⟩
  exact .refl draft

/-- An accepted declaration keeps all that a draft has. -/
theorem apply (h : draft.Sound) {declaration : Declaration}
    (hnext : draft.apply declaration = .ok next) : draft.Within next := by
  cases declaration with
  | openClass name parents => exact .openClass h hnext
  | field f => exact .declareField hnext
  | closeClass => exact .closeClass hnext

theorem declare (h : draft.Sound) {declarations : List Declaration}
    (hnext : draft.declare declarations = .ok next) : draft.Within next := by
  induction declarations generalizing draft with
  | nil =>
    rw [declare_nil, Except.ok.injEq] at hnext
    exact hnext ▸ .refl draft
  | cons declaration rest ih =>
    rw [declare_cons] at hnext
    rcases bind_eq_ok.mp hnext with ⟨mid, hmid, hrest⟩
    exact (Within.apply h hmid).trans (ih (h.apply hmid) hrest)

end Within

/-! ## One pass opens a class once -/

theorem pass_apply {declaration : Declaration} (hnext : draft.apply declaration = .ok next) :
    next.pass = draft.pass := by
  cases declaration with
  | openClass name parents =>
    rcases openClass_eq_ok.mp hnext with ⟨-, ⟨-, -, -, rfl⟩ | ⟨-, rfl⟩⟩
    · rfl
    · rfl
  | field f =>
    rcases declareField_eq_ok.mp hnext with ⟨-, -, ⟨-, rfl⟩ | ⟨-, -, -, rfl⟩⟩
    · rfl
    · rfl
  | closeClass =>
    rcases closeClass_eq_ok.mp hnext with ⟨-, rfl⟩
    rfl

theorem pass_declare {declarations : List Declaration}
    (hnext : draft.declare declarations = .ok next) : next.pass = draft.pass := by
  induction declarations generalizing draft with
  | nil =>
    rw [declare_nil, Except.ok.injEq] at hnext
    rw [hnext]
  | cons declaration rest ih =>
    rw [declare_cons] at hnext
    rcases bind_eq_ok.mp hnext with ⟨mid, hmid, hrest⟩
    rw [ih hrest, pass_apply hmid]

/-- The present pass has opened a class. -/
def OpenedNow (draft : Draft) (name : String) : Prop :=
  ∃ cls, draft.find? name = some cls ∧ cls.openedIn = draft.pass

namespace OpenedNow

variable {name : String}

/-- Within its pass a class remains one that was opened. -/
theorem mono (h : draft.OpenedNow name) (hwithin : draft.Within next) (hsound : next.Sound)
    (hpass : next.pass = draft.pass) : next.OpenedNow name := by
  rcases h with ⟨cls, hcls, hnow⟩
  rcases hwithin name cls hcls with ⟨later, hlater, hkept⟩
  have hopened := hkept.openedIn
  have hpast := (hsound.classes later (find?_eq_some hlater).1).opened
  exact ⟨later, hlater, by omega⟩

theorem apply (h : draft.OpenedNow name) (hsound : draft.Sound) {declaration : Declaration}
    (hnext : draft.apply declaration = .ok next) : next.OpenedNow name :=
  h.mono (.apply hsound hnext) (hsound.apply hnext) (pass_apply hnext)

theorem declare (h : draft.OpenedNow name) (hsound : draft.Sound)
    {declarations : List Declaration} (hnext : draft.declare declarations = .ok next) :
    next.OpenedNow name :=
  h.mono (.declare hsound hnext) (hsound.declare hnext) (pass_declare hnext)

end OpenedNow

/-- The class that a draft opens is then there, of the present pass and with the parents given. -/
theorem find?_openClass {name : String} {parents : List String}
    (hnext : draft.openClass name parents = .ok next) :
    ∃ cls, next.find? name = some cls ∧ cls.openedIn = next.pass ∧
      ∀ p ∈ parents, p ∈ cls.parentNames := by
  rcases openClass_eq_ok.mp hnext with ⟨-, ⟨cls, hfind, -, rfl⟩ | ⟨hnew, rfl⟩⟩
  · have hfound : (draft.update name (·.reopen draft.pass parents)).find? name = _ :=
      find?_update_self (fun old => DraftClass.name_reopen old draft.pass parents) hfind
    exact ⟨cls.reopen draft.pass parents, hfound, DraftClass.openedIn_reopen _ _ _,
      fun p hp => DraftClass.mem_foldl_addParent hp⟩
  · refine ⟨⟨draft.classes.length, name, parents, [], draft.pass⟩, ?_, rfl, fun p hp => hp⟩
    simp only [Draft.find?] at hnew
    simp [Draft.find?, List.find?_append, hnew]

theorem not_openedNow_of_openClass {name : String} {parents : List String}
    (hnext : draft.openClass name parents = .ok next) : ¬ draft.OpenedNow name := by
  rintro ⟨old, hold, hnow⟩
  rcases openClass_eq_ok.mp hnext with ⟨-, ⟨cls, hfind, hpast, -⟩ | ⟨hnew, -⟩⟩
  · obtain rfl := Option.some.inj (hfind.symm.trans hold)
    exact hpast hnow
  · simp [hnew] at hold

end Draft

end ClassModel
