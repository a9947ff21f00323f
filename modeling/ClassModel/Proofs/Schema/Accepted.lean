import ClassModel.Proofs.Schema.Growth

/-!
# Calls that are all accepted

Calls may be made on a draft on the condition that each of them is accepted. Such calls lead to the
draft that a run of them leads to, and what every accepted step keeps they keep as well.

* `Draft.takeAll` — the draft after calls that are all accepted;
* `Draft.takeAll_induct` — what passes and declarations keep one by one is kept along the calls;
* `Draft.Sound.takeAll`, `Draft.Within.takeAll` — so the draft stays sound, and only grows.
-/

namespace ClassModel

/-- The declarations that a call makes. -/
def Call.declarations : Call → List Declaration
  | .beginPass => []
  | .apply declaration => [declaration]
  | .applyAll declarations => declarations

namespace Draft

/-- The draft that an accepted call leads to. -/
def take (draft : Draft) : Call → Except SchemaError Draft
  | .beginPass => draft.beginPass
  | .apply declaration => draft.apply declaration
  | .applyAll declarations => draft.declare declarations

/-- The draft that calls lead to when all of them are accepted. -/
def takeAll (draft : Draft) (calls : List Call) : Except SchemaError Draft :=
  calls.foldlM take draft

variable {draft next last : Draft}

@[simp] theorem takeAll_nil (draft : Draft) : draft.takeAll [] = .ok draft := rfl

theorem takeAll_cons (draft : Draft) (call : Call) (calls : List Call) :
    draft.takeAll (call :: calls) = draft.take call >>= fun next => next.takeAll calls := by
  rw [takeAll, List.foldlM_cons]
  rfl

theorem takeAll_cons_eq_ok {call : Call} {calls : List Call} :
    draft.takeAll (call :: calls) = .ok last ↔
      ∃ next, draft.take call = .ok next ∧ next.takeAll calls = .ok last := by
  rw [takeAll_cons, bind_eq_ok]

theorem takeAll_append_eq_ok {calls later : List Call} :
    draft.takeAll (calls ++ later) = .ok last ↔
      ∃ next, draft.takeAll calls = .ok next ∧ next.takeAll later = .ok last := by
  rw [takeAll, List.foldlM_append, bind_eq_ok]
  rfl

theorem declare_singleton (draft : Draft) (declaration : Declaration) :
    draft.declare [declaration] = draft.apply declaration := by
  rw [declare_cons]
  cases draft.apply declaration <;> rfl

/-- A call begins a pass or makes its declarations. -/
theorem take_cases {call : Call} (h : draft.take call = .ok next) :
    call = .beginPass ∧ draft.beginPass = .ok next ∨
      draft.declare call.declarations = .ok next := by
  cases call with
  | beginPass => exact Or.inl ⟨rfl, h⟩
  | apply declaration => exact Or.inr ((draft.declare_singleton declaration).trans h)
  | applyAll declarations => exact Or.inr h

/-- An accepted call leads to the draft after it. -/
theorem after_of_take {call : Call} (h : draft.take call = .ok next) : draft.after call = next := by
  cases call with
  | beginPass => exact after_beginPass h
  | apply declaration =>
    have happly : draft.apply declaration = .ok next := h
    rw [after, happly]
  | applyAll declarations => exact after_applyAll h

theorem run_of_takeAll {calls : List Call} (h : draft.takeAll calls = .ok last) :
    draft.run calls = last := by
  induction calls generalizing draft with
  | nil => exact Except.ok.inj h
  | cons call rest ih =>
    rcases takeAll_cons_eq_ok.mp h with ⟨next, hnext, hrest⟩
    rw [run_cons, after_of_take hnext, ih hrest]

/-! ## What accepted steps keep -/

section Induct

variable {P : Draft → List Declaration → Prop}

theorem declare_induct (log : List Declaration)
    (happly : ∀ draft log declaration next, P draft log → draft.apply declaration = .ok next →
      P next (log ++ [declaration]))
    {declarations : List Declaration} (h : P draft log)
    (hlast : draft.declare declarations = .ok last) : P last (log ++ declarations) := by
  induction declarations generalizing draft log with
  | nil =>
    rw [declare_nil, Except.ok.injEq] at hlast
    rw [List.append_nil]
    exact hlast ▸ h
  | cons declaration rest ih =>
    rw [declare_cons] at hlast
    rcases bind_eq_ok.mp hlast with ⟨next, hnext, hrest⟩
    have hlater := ih (log ++ [declaration]) (happly draft log declaration next h hnext) hrest
    rwa [List.append_assoc, List.singleton_append] at hlater

/-- What holds of a draft and of the declarations it has taken, and goes on to hold with each new
pass and each further declaration, holds after any calls that are accepted. -/
theorem takeAll_induct (log : List Declaration)
    (hpass : ∀ draft log next, P draft log → draft.beginPass = .ok next → P next log)
    (happly : ∀ draft log declaration next, P draft log → draft.apply declaration = .ok next →
      P next (log ++ [declaration]))
    {calls : List Call} (h : P draft log) (hlast : draft.takeAll calls = .ok last) :
    P last (log ++ calls.flatMap Call.declarations) := by
  induction calls generalizing draft log with
  | nil =>
    rw [takeAll_nil, Except.ok.injEq] at hlast
    rw [List.flatMap_nil, List.append_nil]
    exact hlast ▸ h
  | cons call rest ih =>
    rcases takeAll_cons_eq_ok.mp hlast with ⟨next, hnext, hrest⟩
    rw [List.flatMap_cons, ← List.append_assoc]
    refine ih (log ++ call.declarations) ?_ hrest
    rcases take_cases hnext with ⟨rfl, hbegun⟩ | hdeclared
    · rw [Call.declarations, List.append_nil]
      exact hpass draft log next h hbegun
    · exact declare_induct log happly h hdeclared

end Induct

theorem Sound.takeAll (h : draft.Sound) {calls : List Call}
    (hlast : draft.takeAll calls = .ok last) :
    last.Sound := by
  rw [← run_of_takeAll hlast]
  exact h.run calls

/-- Calls that are accepted keep all that a draft has. -/
theorem Within.takeAll (h : draft.Sound) {calls : List Call}
    (hlast : draft.takeAll calls = .ok last) : draft.Within last := by
  have hkept := takeAll_induct (P := fun next _ => next.Sound ∧ draft.Within next) []
    (fun mid _ next hmid hnext => ⟨hmid.1.beginPass hnext, hmid.2.trans (.beginPass hnext)⟩)
    (fun mid _ _ next hmid hnext => ⟨hmid.1.apply hnext, hmid.2.trans (.apply hmid.1 hnext)⟩)
    ⟨h, .refl draft⟩ hlast
  exact hkept.2

/-- Names of schemas do not change. -/
theorem header_apply {declaration : Declaration} (hnext : draft.apply declaration = .ok next) :
    next.name = draft.name ∧ next.qualifier = draft.qualifier := by
  cases declaration with
  | openClass name parents =>
    rcases openClass_eq_ok.mp hnext with ⟨-, ⟨-, -, -, rfl⟩ | ⟨-, rfl⟩⟩
    · exact ⟨rfl, rfl⟩
    · exact ⟨rfl, rfl⟩
  | field f =>
    rcases declareField_eq_ok.mp hnext with ⟨-, -, ⟨-, rfl⟩ | ⟨-, -, -, rfl⟩⟩
    · exact ⟨rfl, rfl⟩
    · exact ⟨rfl, rfl⟩
  | closeClass =>
    rcases closeClass_eq_ok.mp hnext with ⟨-, rfl⟩
    exact ⟨rfl, rfl⟩

theorem header_takeAll {calls : List Call} (hlast : draft.takeAll calls = .ok last) :
    last.name = draft.name ∧ last.qualifier = draft.qualifier := by
  refine takeAll_induct
    (P := fun next _ => next.name = draft.name ∧ next.qualifier = draft.qualifier) [] ?_ ?_
    ⟨rfl, rfl⟩ hlast
  · intro mid _ next hmid hnext
    rcases beginPass_eq_ok.mp hnext with ⟨-, rfl⟩
    exact hmid
  · intro mid _ declaration next hmid hnext
    rw [(header_apply hnext).1, (header_apply hnext).2]
    exact hmid

/-- A draft is finished to its classes when no class is open. -/
theorem finish_eq_ok {schema : Schema} :
    draft.finish = .ok schema ↔
      draft.opened = none ∧
        schema = ⟨draft.name, draft.qualifier, draft.classes.map DraftClass.declared⟩ := by
  unfold finish
  cases draft.opened with
  | none => simp [eq_comm]
  | some name => simp

/-! ## Classes at their positions -/

namespace Sound

variable {cls : DraftClass}

theorem id_eq_of_getElem? (h : draft.Sound) {i : Nat} (hi : draft.classes[i]? = some cls) :
    cls.id = i := by
  have hat : (draft.classes.map DraftClass.id)[i]? = (List.range draft.classes.length)[i]? := by
    rw [h.ids]
  rcases List.getElem?_eq_some_iff.mp hi with ⟨hlt, rfl⟩
  simpa [hlt] using hat

theorem getElem?_id (h : draft.Sound) (hcls : cls ∈ draft.classes) :
    draft.classes[cls.id]? = some cls := by
  rcases List.mem_iff_getElem?.mp hcls with ⟨i, hi⟩
  rw [h.id_eq_of_getElem? hi]
  exact hi

/-- A class is found by its name, since names are distinct. -/
theorem find?_name (h : draft.Sound) (hcls : cls ∈ draft.classes) :
    draft.find? cls.name = some cls := by
  cases hfound : draft.find? cls.name with
  | none => exact absurd (List.mem_map_of_mem hcls) (find?_eq_none.mp hfound)
  | some found =>
    rcases find?_eq_some hfound with ⟨hmem, hname⟩
    rw [List.inj_on_of_nodup_map h.distinct hmem hcls hname]

/-- A class that a later draft keeps stands there at the same position and under the same name. -/
theorem exists_later (h : draft.Sound) (hlater : last.Sound) (hwithin : draft.Within last) {i : Nat}
    (hi : draft.classes[i]? = some cls) :
    ∃ later, last.classes[i]? = some later ∧ later.name = cls.name ∧ cls.Within later := by
  rcases hwithin cls.name cls (h.find?_name (List.mem_of_getElem? hi)) with ⟨later, hfound, hkept⟩
  rcases find?_eq_some hfound with ⟨hmem, hname⟩
  refine ⟨later, ?_, hname, hkept⟩
  rw [← h.id_eq_of_getElem? hi, hkept.id]
  exact hlater.getElem?_id hmem

end Sound

end Draft

end ClassModel
