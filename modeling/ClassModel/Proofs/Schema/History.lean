import ClassModel.Proofs.Schema.Run

/-!
# What a draft has received

Along a run a draft receives field declarations, each in some pass and for the class that is open.
Here they are all kept, those that were added to the class, those that were skipped and those that
were refused. The draft remembers of each name only the declaration that came first, with its pass,
and from this alone it decides about the next declaration of the name.

* `Draft.received` — the field declarations received along a run, in order;
* `Draft.Remembers` — the fields of a draft are the first declarations of their names;
* `Draft.remembers_run` — so it is after every run;
* `Draft.redeclared_field_refused_iff` — when a field that was declared in this pass is refused.
-/

namespace ClassModel

/-- A field declaration that a draft has received, with the pass and the class that was open. -/
structure Receipt where
  pass : Nat
  cls : String
  field : FieldDeclaration
deriving DecidableEq, Repr

namespace Receipt

/-- Whether a declaration was received for a class and under a name. -/
def isOf (cls name : String) (r : Receipt) : Bool := r.cls = cls && r.field.name = name

/-- The field that the declaration makes of a class with a given id. -/
def drafted (id : ClassId) (r : Receipt) : DraftField := ⟨⟨r.field.name, id, r.field.kind⟩, r.pass⟩

@[simp] theorem isOf_iff {cls name : String} {r : Receipt} :
    r.isOf cls name ↔ r.cls = cls ∧ r.field.name = name := by
  simp [isOf]

end Receipt

/-- A class has after a field is added what it had, and else the field. -/
theorem DraftClass.field?_addField (cls : DraftClass) (pass : Nat) (f : FieldDeclaration)
    (name : String) :
    (cls.addField pass f).field? name =
      (cls.field? name).or
        (if f.name = name then some ⟨⟨f.name, cls.id, f.kind⟩, pass⟩ else none) := by
  simp only [field?, addField, List.find?_append, List.find?_singleton]
  simp

namespace Draft

/-- What a draft receives with a declaration: a field, if a class is open for it. -/
def receipt (draft : Draft) : Declaration → List Receipt
  | .field f =>
    match draft.opened with
    | some cls => [⟨draft.pass, cls, f⟩]
    | none => []
  | .openClass _ _ | .closeClass => []

/-- What a draft receives with declarations up to the first that is refused. -/
def receipts (draft : Draft) : List Declaration → List Receipt
  | [] => []
  | declaration :: rest =>
    draft.receipt declaration ++
      match draft.apply declaration with
      | .ok next => next.receipts rest
      | .error _ => []

/-- What a draft receives with a call. -/
def receiptsOf (draft : Draft) : Call → List Receipt
  | .beginPass => []
  | .apply declaration => draft.receipt declaration
  | .applyAll declarations => draft.receipts declarations

/-- What a draft receives along calls. -/
def received (draft : Draft) : List Call → List Receipt
  | [] => []
  | call :: calls => draft.receiptsOf call ++ (draft.after call).received calls

theorem receipt_field {draft : Draft} {cls : DraftClass} (hopen : draft.openClass? = some cls)
    (f : FieldDeclaration) : draft.receipt (.field f) = [⟨draft.pass, cls.name, f⟩] := by
  rcases Option.bind_eq_some_iff.mp hopen with ⟨name, hname, hfind⟩
  rw [receipt, hname, (find?_eq_some hfind).2]

theorem receipt_outside {draft : Draft} (h : draft.Sound) (hopen : draft.openClass? = none)
    (f : FieldDeclaration) : draft.receipt (.field f) = [] := by
  cases hopened : draft.opened with
  | none => rw [receipt, hopened]
  | some name =>
    rcases h.openClass?_eq_some hopened with ⟨cls, hcls, -⟩
    simp [hopen] at hcls

/-! ## What a draft remembers -/

/-- The fields of a draft are the first declarations of their names in a log, which goes through the
passes up to the present one. -/
structure Remembers (draft : Draft) (log : List Receipt) : Prop where
  ordered : log.Pairwise fun earlier later => earlier.pass ≤ later.pass
  past : ∀ r ∈ log, r.pass ≤ draft.pass
  classes : ∀ r ∈ log, r.cls ∈ draft.classes.map DraftClass.name
  fields : ∀ cls ∈ draft.classes, ∀ name,
    cls.field? name = (log.find? (·.isOf cls.name name)).map (·.drafted cls.id)

theorem remembers_start (name : String) (qualifier : Option String) :
    (start name qualifier).Remembers [] where
  ordered := .nil
  past := by simp
  classes := by simp
  fields := by simp [start]

namespace Remembers

variable {draft next : Draft} {log : List Receipt}

theorem beginPass (h : draft.Remembers log) (hnext : draft.beginPass = .ok next) :
    next.Remembers log := by
  rcases beginPass_eq_ok.mp hnext with ⟨-, rfl⟩
  exact ⟨h.ordered, fun r hr => Nat.le_succ_of_le (h.past r hr), h.classes, h.fields⟩

theorem openClass (h : draft.Remembers log) {name : String} {parents : List String}
    (hnext : draft.openClass name parents = .ok next) : next.Remembers log := by
  rcases openClass_eq_ok.mp hnext with ⟨-, ⟨_, -, -, rfl⟩ | ⟨hnew, rfl⟩⟩
  · -- reopened: no field changes
    refine ⟨h.ordered, h.past, ?_, ?_⟩
    · simp only [map_update DraftClass.name fun old =>
        DraftClass.name_reopen old draft.pass parents]
      exact h.classes
    · intro cls hcls other
      rcases mem_update.mp hcls with ⟨old, hold, rfl⟩
      have hfield := h.fields old hold other
      split
      · simpa [DraftClass.field?] using hfield
      · exact hfield
  · -- new: nothing was received for a class that was not there
    rw [find?_eq_none] at hnew
    refine ⟨h.ordered, h.past, ?_, ?_⟩
    · intro r hr
      rw [List.map_append]
      exact List.mem_append_left _ (h.classes r hr)
    · intro cls hcls other
      rcases List.mem_append.mp hcls with hold | hlast
      · exact h.fields cls hold other
      · rw [List.mem_singleton.mp hlast]
        have hnone : log.find? (·.isOf name other) = none := by
          rw [List.find?_eq_none]
          intro r hr hof
          rw [Receipt.isOf_iff] at hof
          exact hnew (hof.1 ▸ h.classes r hr)
        simp [DraftClass.field?, hnone]

theorem closeClass (h : draft.Remembers log) (hnext : draft.closeClass = .ok next) :
    next.Remembers log := by
  rcases closeClass_eq_ok.mp hnext with ⟨-, rfl⟩
  exact ⟨h.ordered, h.past, h.classes, h.fields⟩

/-- The log goes on with the pass that the draft is in. -/
theorem ordered_append (h : draft.Remembers log) (cls : String) (f : FieldDeclaration) :
    (log ++ [Receipt.mk draft.pass cls f]).Pairwise fun earlier later =>
      earlier.pass ≤ later.pass := by
  rw [List.pairwise_append]
  refine ⟨h.ordered, List.pairwise_singleton _ _, ?_⟩
  intro r hr last hlast
  rw [List.mem_singleton.mp hlast]
  exact h.past r hr

theorem past_append (h : draft.Remembers log) (cls : String) (f : FieldDeclaration) :
    ∀ r ∈ log ++ [Receipt.mk draft.pass cls f], r.pass ≤ draft.pass := by
  intro r hr
  rcases List.mem_append.mp hr with hold | hlast
  · exact h.past r hold
  · rw [List.mem_singleton.mp hlast]

theorem classes_append (h : draft.Remembers log) {cls : DraftClass} (hcls : cls ∈ draft.classes)
    (f : FieldDeclaration) :
    ∀ r ∈ log ++ [Receipt.mk draft.pass cls.name f],
      r.cls ∈ draft.classes.map DraftClass.name := by
  intro r hr
  rcases List.mem_append.mp hr with hold | hlast
  · exact h.classes r hold
  · rw [List.mem_singleton.mp hlast]
    exact List.mem_map_of_mem hcls

/-- What is received of a name that the class has already is not remembered. -/
theorem known (h : draft.Remembers log) {cls : DraftClass} (hcls : cls ∈ draft.classes)
    {f : FieldDeclaration} (hknown : cls.field? f.name ≠ none) :
    draft.Remembers (log ++ [⟨draft.pass, cls.name, f⟩]) := by
  refine ⟨h.ordered_append cls.name f, h.past_append cls.name f, h.classes_append hcls f, ?_⟩
  intro other hother name
  rw [List.find?_append, h.fields other hother]
  cases hfound : log.find? (·.isOf other.name name) with
  | some first => rfl
  | none =>
    -- a name without a declaration so far is not the one that came last
    have hlast : ¬ (Receipt.mk draft.pass cls.name f).isOf other.name name := by
      intro hof
      rcases Receipt.isOf_iff.mp hof with ⟨hname, rfl⟩
      have hnone := h.fields cls hcls f.name
      rw [show cls.name = other.name from hname, hfound] at hnone
      exact hknown hnone
    simp [hlast]

/-- What is received of a name that the class does not have yet is remembered. -/
theorem added (h : draft.Remembers log) (hsound : draft.Sound) {cls : DraftClass}
    (hcls : cls ∈ draft.classes) {f : FieldDeclaration} (hnew : cls.field? f.name = none) :
    (draft.update cls.name (·.addField draft.pass f)).Remembers
      (log ++ [⟨draft.pass, cls.name, f⟩]) := by
  refine ⟨h.ordered_append cls.name f, h.past_append cls.name f, ?_, ?_⟩
  · simp only [map_update DraftClass.name fun old => DraftClass.name_addField old draft.pass f]
    exact h.classes_append hcls f
  · intro changed hchanged name
    rcases mem_update.mp hchanged with ⟨old, hold, rfl⟩
    have hfield := h.fields old hold name
    split
    · next hname =>
      rcases List.inj_on_of_nodup_map hsound.distinct hold hcls hname with rfl
      have hlast :
          (Receipt.mk draft.pass old.name f).isOf old.name name = (f.name = name : Bool) := by
        simp [Receipt.isOf]
      simp only [DraftClass.field?_addField, DraftClass.name_addField, DraftClass.id_addField,
        List.find?_append, hfield, Option.map_or]
      congr 1
      by_cases hf : f.name = name
      · simp [hlast, hf, Receipt.drafted]
      · simp [hlast, hf]
    · next hname =>
      have hlast : ¬ (Receipt.mk draft.pass cls.name f).isOf old.name name := by
        intro hof
        exact hname (Receipt.isOf_iff.mp hof).1.symm
      simp [List.find?_append, hfield, hlast]

/-- A declaration of a field is remembered if it is the first, whether the draft takes it or not. -/
theorem afterField (h : draft.Remembers log) (hsound : draft.Sound) (f : FieldDeclaration) :
    (draft.after (.apply (.field f))).Remembers (log ++ draft.receipt (.field f)) := by
  cases hresult : draft.declareField f with
  | ok next =>
    have hafter : draft.after (.apply (.field f)) = next := by
      simp [Draft.after, Draft.apply, hresult]
    rw [hafter]
    rcases declareField_eq_ok.mp hresult with
      ⟨cls, hopen, ⟨hnew, rfl⟩ | ⟨known, hknown, -, rfl⟩⟩
    · rw [receipt_field hopen]
      exact h.added hsound (mem_of_openClass?_eq_some hopen) hnew
    · rw [receipt_field hopen]
      exact h.known (mem_of_openClass?_eq_some hopen) (by simp [hknown])
  | error e =>
    have hafter : draft.after (.apply (.field f)) = draft := by
      simp [Draft.after, Draft.apply, hresult]
    rw [hafter]
    rcases declareField_eq_error.mp hresult with
      ⟨hopen, -⟩ | ⟨cls, known, hopen, hknown, -, -⟩
    · rw [receipt_outside hsound hopen, List.append_nil]
      exact h
    · rw [receipt_field hopen]
      exact h.known (mem_of_openClass?_eq_some hopen) (by simp [hknown])

theorem afterDeclaration (h : draft.Remembers log) (hsound : draft.Sound)
    (declaration : Declaration) :
    (draft.after (.apply declaration)).Remembers (log ++ draft.receipt declaration) := by
  cases declaration with
  | openClass name parents =>
    simp only [receipt, List.append_nil, Draft.after]
    split
    · next hnext => exact h.openClass hnext
    · exact h
  | field f => exact h.afterField hsound f
  | closeClass =>
    simp only [receipt, List.append_nil, Draft.after]
    split
    · next hnext => exact h.closeClass hnext
    · exact h

theorem applyAll (h : draft.Remembers log) (hsound : draft.Sound)
    (declarations : List Declaration) :
    (draft.applyAll declarations).1.Remembers (log ++ draft.receipts declarations) := by
  induction declarations generalizing draft log with
  | nil => simpa [Draft.applyAll, receipts] using h
  | cons declaration rest ih =>
    have hstep := h.afterDeclaration hsound declaration
    simp only [Draft.after] at hstep
    simp only [Draft.applyAll, receipts]
    cases hnext : draft.apply declaration with
    | ok next =>
      rw [hnext] at hstep
      rw [← List.append_assoc]
      exact ih hstep (hsound.apply hnext)
    | error e =>
      rw [hnext] at hstep
      rw [List.append_nil]
      exact hstep

/-- A call adds to what was received, whether it is accepted or refused. -/
theorem after (h : draft.Remembers log) (hsound : draft.Sound) (call : Call) :
    (draft.after call).Remembers (log ++ draft.receiptsOf call) := by
  cases call with
  | beginPass =>
    simp only [receiptsOf, List.append_nil, Draft.after]
    split
    · next hnext => exact h.beginPass hnext
    · exact h
  | apply declaration => exact h.afterDeclaration hsound declaration
  | applyAll declarations => exact h.applyAll hsound declarations

theorem run (h : draft.Remembers log) (hsound : draft.Sound) (calls : List Call) :
    (draft.run calls).Remembers (log ++ draft.received calls) := by
  induction calls generalizing draft log with
  | nil => simpa [received, run_nil] using h
  | cons call rest ih =>
    rw [received, run_cons, ← List.append_assoc]
    exact ih (h.after hsound call) (hsound.after call)

/-- No declaration of a name came in an earlier pass than the first one. -/
theorem le_of_find? (h : draft.Remembers log) {p : Receipt → Bool} {first r : Receipt}
    (hfirst : log.find? p = some first) (hr : r ∈ log) (hp : p r) : first.pass ≤ r.pass := by
  rcases List.find?_eq_some_iff_append.mp hfirst with ⟨-, before, later, rfl, hbefore⟩
  rcases List.mem_append.mp hr with hearlier | hlater
  · have hnot := hbefore r hearlier
    simp [hp] at hnot
  · rcases List.mem_cons.mp hlater with rfl | hlater
    · exact Nat.le_refl _
    · have hordered := (List.pairwise_append.mp h.ordered).2.1
      exact List.rel_of_pairwise_cons hordered hlater

/-- With a declaration of the present pass received, the first declaration of a name decides about
the next one. -/
theorem apply_field (h : draft.Remembers log) (hsound : draft.Sound) {cls : String}
    (hopen : draft.opened = some cls) {f : FieldDeclaration} {first : Receipt}
    (hfirst : log.find? (·.isOf cls f.name) = some first) :
    draft.apply (.field f) =
      if first.pass = draft.pass then .error (.duplicateField cls f.name) else .ok draft := by
  rcases hsound.openClass?_eq_some hopen with ⟨found, hfound, rfl⟩
  have hfield := h.fields found (mem_of_openClass?_eq_some hfound) f.name
  rw [hfirst, Option.map_some] at hfield
  simp only [Draft.apply, declareField, hfound, hfield]
  rfl

end Remembers

/-- Along every run a draft remembers what it has received. -/
theorem remembers_run (name : String) (qualifier : Option String) (calls : List Call) :
    ((start name qualifier).run calls).Remembers ((start name qualifier).received calls) :=
  (remembers_start name qualifier).run (sound_start name qualifier) calls

/-! ## A name declared again in its pass -/

/-- Let a declaration of a name have been received in the present pass for the open class. The next
one is refused, with class and name, if no earlier pass has declared the name; if one has, it is
skipped, since the draft has kept the earlier pass and not the present one. -/
theorem redeclared_field_refused_iff (name : String) (qualifier : Option String)
    (calls : List Call) {draft : Draft} (hdraft : draft = (start name qualifier).run calls)
    {log : List Receipt} (hlog : log = (start name qualifier).received calls) {cls : String}
    (hopen : draft.opened = some cls) (f : FieldDeclaration)
    (hreceived : ∃ r ∈ log, r.isOf cls f.name ∧ r.pass = draft.pass) :
    (draft.apply (.field f) = .error (.duplicateField cls f.name) ↔
        ∀ r ∈ log, r.isOf cls f.name → r.pass = draft.pass) ∧
      (draft.apply (.field f) = .ok draft ↔
        ∃ r ∈ log, r.isOf cls f.name ∧ r.pass < draft.pass) := by
  have hsound : draft.Sound := hdraft ▸ sound_run name qualifier calls
  have hremembers : draft.Remembers log := hdraft ▸ hlog ▸ remembers_run name qualifier calls
  rcases hreceived with ⟨again, hagain, hof, -⟩
  rcases Option.isSome_iff_exists.mp (List.find?_isSome.mpr ⟨again, hagain, hof⟩) with
    ⟨first, hfirst⟩
  have hmem := List.mem_of_find?_eq_some hfirst
  have hfirstOf := List.find?_some hfirst
  rw [hremembers.apply_field hsound hopen hfirst]
  by_cases hpass : first.pass = draft.pass
  · -- the first declaration is of this pass, and so are all
    have hall : ∀ r ∈ log, r.isOf cls f.name → r.pass = draft.pass := by
      intro r hr hrof
      have hle := hremembers.le_of_find? hfirst hr hrof
      have hpast := hremembers.past r hr
      omega
    have hnone : ¬ ∃ r ∈ log, r.isOf cls f.name ∧ r.pass < draft.pass := by
      rintro ⟨r, hr, hrof, hlt⟩
      have heq := hall r hr hrof
      omega
    rw [if_pos hpass]
    exact ⟨iff_of_true rfl hall, iff_of_false (by simp) hnone⟩
  · -- the first declaration is of an earlier pass
    have hlt : first.pass < draft.pass := by
      have hpast := hremembers.past first hmem
      omega
    have hnot : ¬ ∀ r ∈ log, r.isOf cls f.name → r.pass = draft.pass := by
      intro hall
      exact hpass (hall first hmem hfirstOf)
    rw [if_neg hpass]
    exact ⟨iff_of_false (by simp) hnot, iff_of_true rfl ⟨first, hmem, hfirstOf, hlt⟩⟩

/-- A class that two passes open and that each of them gives a field `x`. -/
def layered : List Call :=
  [.applyAll [.openClass "A" [], .field ⟨"x", .attr "String"⟩, .closeClass],
    .beginPass,
    .applyAll [.openClass "A" [], .field ⟨"x", .attr "String"⟩,
      .field ⟨"y", .attr "int"⟩]]

theorem redeclared_field_refused_iff_layered :
    (((start "m" none).run layered).apply (.field ⟨"y", .attr "boolean"⟩) =
          .error (.duplicateField "A" "y") ↔
        ∀ r ∈ (start "m" none).received layered, r.isOf "A" "y" → r.pass = 1) ∧
      (((start "m" none).run layered).apply (.field ⟨"y", .attr "boolean"⟩) =
          .ok ((start "m" none).run layered) ↔
        ∃ r ∈ (start "m" none).received layered, r.isOf "A" "y" ∧ r.pass < 1) :=
  redeclared_field_refused_iff "m" none layered rfl rfl (by decide) ⟨"y", .attr "boolean"⟩
    (by decide)

/-- A second declaration in one pass is not always refused: not for a name of an earlier pass. -/
theorem redeclared_field_accepted :
    ¬ ∀ (name : String) (qualifier : Option String) (calls : List Call) (cls : String)
      (f : FieldDeclaration),
      ((start name qualifier).run calls).opened = some cls →
      (∃ r ∈ (start name qualifier).received calls,
        r.isOf cls f.name ∧ r.pass = ((start name qualifier).run calls).pass) →
      ((start name qualifier).run calls).apply (.field f) =
        .error (.duplicateField cls f.name) := by
  intro hrefused
  have hx := hrefused "m" none layered "A" ⟨"x", .attr "boolean"⟩ (by decide) (by decide)
  exact absurd hx (by decide)

end Draft

end ClassModel
