import ClassModel.Proofs.Schema.Accepted

/-!
# Calls that are refused

A draft is kept in one place and changed there, bit by bit: the mark of the open class is set or
taken away, a class gets its pass and then its parents one by one. A call that is refused has to be
so before the first of these changes, or the draft is left half changed. This file has the calls as
such changes, and shows that a refused one leaves nothing behind.

* `Draft.InPlace.call` — a call as a sequence of small changes, each of which stays;
* `Draft.call_eq` — its outcome and the draft it leaves, refused or not;
* `Draft.steps` — what happens at each call of a run that goes on behind refusals;
* `Draft.refused_leave_nothing` — a run without its refused calls goes as before, and of a list of
  declarations those before the first refused one stay, and nothing else.
-/

namespace ClassModel

/-- A change of a draft in place. Where it is refused, the draft stays as it is by then. -/
abbrev Draft.Change := ExceptT SchemaError (StateM Draft)

namespace Draft

/-- The outcome of a change, and the draft that it leaves. -/
def Change.on (change : Change Unit) (draft : Draft) : Except SchemaError Unit × Draft :=
  (change.run.run draft).run

namespace InPlace

/-- Begins the next pass. -/
def beginPass : Change Unit := do
  match (← get).opened with
  | some name => throw (.unclosedClass name)
  | none => modify fun draft => { draft with pass := draft.pass + 1 }

/-- Marks a known class as opened in this pass and adds its parents one by one. -/
def reopen (name : String) (parents : List String) : Change Unit := do
  modify fun draft => draft.update name fun cls => { cls with openedIn := draft.pass }
  forM parents fun parent => modify fun draft => draft.update name (·.addParent parent)

/-- Adds a class at the end. -/
def addClass (name : String) (parents : List String) : Change Unit :=
  modify fun draft => { draft with
    classes := draft.classes ++ [⟨draft.classes.length, name, parents, [], draft.pass⟩] }

/-- Opens a class, and marks it as open when all else is done. -/
def openClass (name : String) (parents : List String) : Change Unit := do
  let draft ← get
  match draft.opened with
  | some outer => throw (.nestedClass name outer)
  | none =>
    match draft.find? name with
    | some cls =>
      if cls.openedIn = draft.pass then throw (.duplicateClass name)
      else reopen name parents
    | none => addClass name parents
    modify fun draft => { draft with opened := some name }

/-- Declares a field of the open class. -/
def declareField (f : FieldDeclaration) : Change Unit := do
  let draft ← get
  match draft.openClass? with
  | none => throw (.fieldOutsideClass f.name)
  | some cls =>
    match cls.field? f.name with
    | none => set (draft.update cls.name (·.addField draft.pass f))
    | some known =>
      if known.pass = draft.pass then throw (.duplicateField cls.name f.name)

/-- Closes the open class. The mark is taken away before it is looked at. -/
def closeClass : Change Unit := do
  let draft ← get
  set { draft with opened := none }
  match draft.opened with
  | none => throw .unmatchedClose
  | some _ => pure ()

/-- Takes one declaration. -/
def apply : Declaration → Change Unit
  | .openClass name parents => openClass name parents
  | .field f => declareField f
  | .closeClass => closeClass

/-- Makes a call. Declarations are taken in turn, up to the first that is refused. -/
def call : Call → Change Unit
  | .beginPass => beginPass
  | .apply declaration => apply declaration
  | .applyAll declarations => forM declarations apply

end InPlace

/-- The outcome of a call made in place, and the draft that it leaves. -/
def call (draft : Draft) (call : Call) : Except SchemaError Unit × Draft :=
  (InPlace.call call).on draft

/-- The draft that calls made in place leave, whether they are accepted or not. -/
def leaves (draft : Draft) (calls : List Call) : Draft :=
  calls.foldl (fun draft call => (draft.call call).2) draft

/-- A call as it was made. -/
structure Step where
  call : Call
  outcome : Except SchemaError Unit
  /-- The draft after the call. -/
  left : Draft

def Step.accepted (step : Step) : Bool := step.outcome.isOk

/-- What happens at each call of a run. After a refusal the run goes on with the draft that is
left. -/
def steps (draft : Draft) : List Call → List Step
  | [] => []
  | call :: calls =>
    ⟨call, (draft.call call).1, (draft.call call).2⟩ :: (draft.call call).2.steps calls

/-- The calls of a run that are accepted in it. -/
def acceptedCalls (draft : Draft) (calls : List Call) : List Call :=
  ((draft.steps calls).filter Step.accepted).map Step.call

/-! ## What a change leaves -/

namespace Change

variable {draft : Draft} {change : Draft → Draft}

@[simp] theorem on_pure : (pure () : Change Unit).on draft = (.ok (), draft) := rfl

@[simp] theorem on_throw {e : SchemaError} :
    (throw e : Change Unit).on draft = (.error e, draft) := rfl

@[simp] theorem on_modify : (modify change : Change Unit).on draft = (.ok (), change draft) := rfl

@[simp] theorem on_set {next : Draft} : (set next : Change Unit).on draft = (.ok (), next) := rfl

@[simp] theorem on_get {next : Draft → Change Unit} :
    (get >>= next).on draft = (next draft).on draft := rfl

/-- Changes are made one after another, until one of them is refused. -/
theorem on_bind (first : Change Unit) (second : Unit → Change Unit) :
    (first >>= second).on draft =
      match first.on draft with
      | (.ok (), next) => (second ()).on next
      | (.error e, next) => (.error e, next) := by
  unfold on
  simp only [ExceptT.run_bind, StateT.run_bind, Id.run_bind]
  rcases (first.run.run draft).run with ⟨_ | _, next⟩ <;> rfl

end Change

/-- The outcome of a change that is refused before it begins, or else leads to the next draft. -/
def settle (draft : Draft) : Except SchemaError Draft → Except SchemaError Unit × Draft
  | .ok next => (.ok (), next)
  | .error e => (.error e, draft)

variable {draft : Draft}

theorem name_addParent (cls : DraftClass) (parent : String) :
    (cls.addParent parent).name = cls.name := by
  unfold DraftClass.addParent
  split <;> rfl

/-- Two changes of a class, the first of which keeps its name, are one. -/
theorem update_update {name : String} {first second : DraftClass → DraftClass}
    (hname : ∀ cls, (first cls).name = cls.name) :
    (draft.update name first).update name second = draft.update name (second ∘ first) := by
  simp only [update, List.map_map, mk.injEq, true_and, and_true]
  apply List.map_congr_left
  intro cls _
  by_cases hcls : cls.name = name
  · simp [hcls, hname]
  · simp [hcls]

namespace InPlace

theorem on_beginPass : beginPass.on draft = draft.settle draft.beginPass := by
  rw [beginPass, Change.on_get, Draft.beginPass]
  -- a class is open or not, and the rest of the draft does not matter
  rcases draft with ⟨_, _, _, _, _ | _⟩ <;> rfl

/-- Parents added one by one are added as they are when the class is opened again. -/
theorem on_addParents (name : String) (parents : List String) :
    (forM parents fun parent => modify fun draft => draft.update name (·.addParent parent) :
      Change Unit).on draft =
      (.ok (), draft.update name (parents.foldl DraftClass.addParent)) := by
  induction parents generalizing draft with
  | nil => simp [update]
  | cons parent rest ih =>
    -- the class is found again for the next parent, since its name has stayed
    rw [List.forM_cons, Change.on_bind, Change.on_modify]
    simp only [ih, update_update (name_addParent · parent)]
    rfl

theorem on_reopen (name : String) (parents : List String) :
    (reopen name parents).on draft =
      (.ok (), draft.update name (·.reopen draft.pass parents)) := by
  rw [reopen, Change.on_bind, Change.on_modify]
  simp only [on_addParents]
  rw [update_update (by simp)]
  rfl

theorem on_openClass (name : String) (parents : List String) :
    (openClass name parents).on draft = draft.settle (draft.openClass name parents) := by
  rw [openClass, Change.on_get, Draft.openClass]
  cases hopened : draft.opened with
  | some outer => rfl
  | none =>
    cases draft.find? name with
    | none => simp [settle, addClass, Change.on_bind]
    | some cls =>
      -- the pass is compared before it is written
      by_cases hpass : cls.openedIn = draft.pass
      · simp [hpass, settle]
      · simp [hpass, settle, Change.on_bind, on_reopen]

theorem on_declareField (f : FieldDeclaration) :
    (declareField f).on draft = draft.settle (draft.declareField f) := by
  rw [declareField, Change.on_get, Draft.declareField]
  cases draft.openClass? with
  | none => rfl
  | some cls =>
    cases hknown : cls.field? f.name with
    | none => simp [hknown, settle]
    | some known => by_cases hpass : known.pass = draft.pass <;> simp [hknown, hpass, settle]

/-- The mark that a refused call takes away was not there. -/
theorem on_closeClass : closeClass.on draft = draft.settle draft.closeClass := by
  rw [closeClass, Change.on_get, Draft.closeClass]
  rcases draft with ⟨_, _, _, _, _ | _⟩ <;> rfl

/-- A declaration is refused before it changes anything. -/
theorem on_apply (declaration : Declaration) :
    (apply declaration).on draft = draft.settle (draft.apply declaration) := by
  cases declaration with
  | openClass name parents => exact on_openClass name parents
  | field f => exact on_declareField f
  | closeClass => exact on_closeClass

/-- Of declarations in turn, those before the first that is refused stay. -/
theorem on_applyAll (declarations : List Declaration) :
    (forM declarations apply : Change Unit).on draft =
      ((draft.declare declarations).map fun _ => (), (draft.applyAll declarations).1) := by
  induction declarations generalizing draft with
  | nil => rfl
  | cons declaration rest ih =>
    rw [List.forM_cons, Change.on_bind, on_apply, declare_cons, Draft.applyAll]
    cases draft.apply declaration with
    | error e => rfl
    | ok next => exact ih

end InPlace

/-- A call made in place is accepted or refused as one that leads to another draft, and leaves the
draft after it. -/
theorem call_eq (call : Call) :
    draft.call call = ((draft.take call).map fun _ => (), draft.after call) := by
  cases call with
  | beginPass =>
    rw [Draft.call, InPlace.call, InPlace.on_beginPass, take, after]
    cases draft.beginPass <;> rfl
  | apply declaration =>
    rw [Draft.call, InPlace.call, InPlace.on_apply, take, after]
    cases draft.apply declaration <;> rfl
  | applyAll declarations => exact InPlace.on_applyAll declarations

/-- The draft that calls in place leave is the one that a run of them leads to. -/
theorem leaves_eq_run (calls : List Call) : draft.leaves calls = draft.run calls := by
  simp only [leaves, run, call_eq]

end Draft

/-! ## Runs without what is refused -/

/-- A call that makes at most one declaration. -/
def Call.isSingle : Call → Bool
  | .applyAll _ => false
  | _ => true

namespace Draft

variable {draft : Draft} {call : Call} {calls : List Call}

theorem after_of_refused (hsingle : call.isSingle) {e : SchemaError}
    (h : draft.take call = .error e) : draft.after call = draft := by
  cases call with
  | beginPass =>
    have hbegin : draft.beginPass = .error e := h
    rw [after, hbegin]
  | apply declaration =>
    have happly : draft.apply declaration = .error e := h
    rw [after, happly]
  | applyAll declarations => simp [Call.isSingle] at hsingle

theorem steps_cons (call : Call) (calls : List Call) :
    draft.steps (call :: calls) =
      ⟨call, (draft.take call).map fun _ => (), draft.after call⟩ ::
        (draft.after call).steps calls := by
  rw [steps, call_eq]

theorem leaves_cons (call : Call) (calls : List Call) :
    draft.leaves (call :: calls) = (draft.after call).leaves calls := by
  rw [leaves_eq_run, leaves_eq_run, run_cons]

theorem acceptedCalls_of_taken {next : Draft} (h : draft.take call = .ok next) :
    draft.acceptedCalls (call :: calls) = call :: next.acceptedCalls calls := by
  rw [acceptedCalls, steps_cons, after_of_take h, h]
  rfl

theorem acceptedCalls_of_refused (hsingle : call.isSingle) {e : SchemaError}
    (h : draft.take call = .error e) :
    draft.acceptedCalls (call :: calls) = draft.acceptedCalls calls := by
  rw [acceptedCalls, steps_cons, after_of_refused hsingle h, h]
  rfl

/-- A run without its refused calls goes as before: what is left after an accepted call, with the
refused ones or without, is the same draft. -/
theorem steps_acceptedCalls (draft : Draft) (hsingle : ∀ call ∈ calls, call.isSingle) :
    draft.steps (draft.acceptedCalls calls) = (draft.steps calls).filter Step.accepted ∧
      draft.leaves (draft.acceptedCalls calls) = draft.leaves calls := by
  induction calls generalizing draft with
  | nil => exact ⟨rfl, rfl⟩
  | cons call rest ih =>
    rw [List.forall_mem_cons] at hsingle
    -- without a refused call, those behind it begin with the draft that it was given
    cases htake : draft.take call with
    | ok next =>
      rcases ih next hsingle.2 with ⟨hsteps, hleaves⟩
      rw [acceptedCalls_of_taken htake, steps_cons, steps_cons, leaves_cons, leaves_cons,
        after_of_take htake, htake, List.filter_cons_of_pos rfl, hsteps, hleaves]
      exact ⟨rfl, rfl⟩
    | error e =>
      rcases ih draft hsingle.2 with ⟨hsteps, hleaves⟩
      have hrefused : ¬ Step.accepted ⟨call, (draft.take call).map fun _ => (), draft⟩ := by
        simp [htake, Step.accepted, Except.map, Except.isOk, Except.toBool]
      rw [acceptedCalls_of_refused hsingle.1 htake, steps_cons, leaves_cons,
        after_of_refused hsingle.1 htake, List.filter_cons_of_neg hrefused]
      exact ⟨hsteps, hleaves⟩

/-- Declarations that are accepted one by one lead to the draft that they leave. -/
theorem declare_of_steps {declarations : List Declaration}
    (h : ∀ step ∈ draft.steps (declarations.map .apply), step.outcome = .ok ()) :
    draft.declare declarations = .ok (draft.leaves (declarations.map .apply)) := by
  induction declarations generalizing draft with
  | nil => rfl
  | cons declaration rest ih =>
    rw [List.map_cons, steps_cons, List.forall_mem_cons] at h
    rw [List.map_cons, leaves_cons, declare_cons]
    cases htake : draft.apply declaration with
    | ok next =>
      have hafter : draft.after (.apply declaration) = next := after_of_take htake
      rw [hafter] at h ⊢
      exact ih h.2
    | error e =>
      have hfirst := h.1
      simp [take, htake, Except.map] at hfirst

theorem applyAll_of_refused {before : List Declaration} {declaration : Declaration}
    {next : Draft} {e : SchemaError} (h : draft.declare before = .ok next)
    (hrefused : next.apply declaration = .error e) (after : List Declaration) :
    draft.applyAll (before ++ declaration :: after) = (next, some e) := by
  induction before generalizing draft with
  | nil =>
    obtain rfl : draft = next := Except.ok.inj h
    simp only [List.nil_append, applyAll, hrefused]
  | cons first rest ih =>
    rw [declare_cons] at h
    rcases bind_eq_ok.mp h with ⟨mid, hmid, hrest⟩
    simp only [List.cons_append, applyAll, hmid]
    exact ih hrest

/-- A call that is refused leaves no trace. A run of passes begun and declarations made one by one,
without the calls that it refuses, is a run in which every call is accepted and leaves the draft
that it left before, in the same pass; in the end the same schema is finished, or finishing fails
alike. Declarations made together stop at the first that is refused, and leave the draft that those
before it leave. -/
theorem refused_leave_nothing (draft : Draft) :
    (∀ calls : List Call, (∀ call ∈ calls, call.isSingle) →
      draft.steps (draft.acceptedCalls calls) = (draft.steps calls).filter Step.accepted ∧
        (∀ step ∈ draft.steps (draft.acceptedCalls calls), step.outcome = .ok ()) ∧
        draft.leaves (draft.acceptedCalls calls) = draft.leaves calls ∧
        (draft.leaves (draft.acceptedCalls calls)).finish = (draft.leaves calls).finish) ∧
      ∀ (before : List Declaration) (declaration : Declaration) (after : List Declaration)
        (e : SchemaError),
        (∀ step ∈ draft.steps (before.map .apply), step.outcome = .ok ()) →
        ((draft.leaves (before.map .apply)).call (.apply declaration)).1 = .error e →
        draft.call (.applyAll (before ++ declaration :: after)) =
          (.error e, draft.leaves (before.map .apply)) := by
  constructor
  · intro calls hsingle
    rcases steps_acceptedCalls draft hsingle with ⟨hsteps, hleaves⟩
    refine ⟨hsteps, ?_, hleaves, by rw [hleaves]⟩
    intro step hstep
    rw [hsteps, List.mem_filter] at hstep
    cases houtcome : step.outcome with
    | ok _ => rfl
    | error e => simp [Step.accepted, houtcome, Except.isOk, Except.toBool] at hstep
  · intro before declaration after e hbefore hrefused
    have hdeclare := declare_of_steps hbefore
    rw [call_eq] at hrefused
    cases happly : (draft.leaves (before.map .apply)).apply declaration with
    | ok next => simp [take, happly, Except.map] at hrefused
    | error e' =>
      obtain rfl : e' = e := by simpa [take, happly, Except.map] using hrefused
      have hall := applyAll_of_refused hdeclare happly after
      rw [call_eq, take, Draft.after, declare, hall]
      rfl

/-- A box declared with a class closed too early, a class opened in it, a field twice and a pass
begun too early. -/
def boxCalls : List Call :=
  [.apply .closeClass, .apply (.openClass "Box" []), .apply (.openClass "Lid" []), .beginPass,
    .apply (.field ⟨"width", .attr "int"⟩), .apply (.field ⟨"width", .attr "String"⟩),
    .apply .closeClass, .beginPass]

/-- Of eight calls four are refused; with the other four the box is the same. -/
theorem refused_leave_nothing_box :
    (start "boxes" none).acceptedCalls boxCalls =
        [.apply (.openClass "Box" []), .apply (.field ⟨"width", .attr "int"⟩), .apply .closeClass,
          .beginPass] ∧
      ((start "boxes" none).leaves ((start "boxes" none).acceptedCalls boxCalls)).finish =
        .ok ⟨"boxes", none, [⟨0, "Box", [], [⟨"width", 0, .attr "int"⟩], false⟩]⟩ ∧
      (start "boxes" none).call
          (.applyAll [.openClass "Box" [], .openClass "Lid" [], .closeClass]) =
        (.error (.nestedClass "Lid" "Box"),
          (start "boxes" none).leaves [.apply (.openClass "Box" [])]) := by
  rcases refused_leave_nothing (start "boxes" none) with ⟨hruns, hlists⟩
  have hfinish := (hruns boxCalls (by decide)).2.2.2
  refine ⟨rfl, hfinish.trans rfl, ?_⟩
  exact hlists [.openClass "Box" []] (.openClass "Lid" []) [.closeClass] _ (by decide) rfl

end Draft

end ClassModel
