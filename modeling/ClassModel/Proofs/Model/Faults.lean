import ClassModel.Proofs.Model.Acceptance
import ClassModel.Proofs.Model.Single

/-!
# What documents are refused for

The declarations of a document open and close its classes in turn, so none of them can come at a
wrong time. What a document can be refused for is a class that it lists twice, or a field that it
lists twice for one class. Other documents do not matter: what an earlier pass has opened or
declared is of an earlier pass.

* `Document.Faults` — the refusals that a document gives cause for;
* `Draft.Timely` — a field is not declared later than its class was opened, so a class that the
  present pass has not opened has no field of the present pass;
* `Draft.faults_of_declare` — a document that is refused gives cause for the refusal;
* `Model.ofDocuments_faults` — and so does one of the documents that make no model for a refusal.
-/

namespace ClassModel

/-- The refusals that a document gives cause for: it lists a class twice, or a field twice for one
class. -/
inductive Document.Faults (document : Document) : SchemaError → Prop
  | duplicateClass {name : String}
      (h : (document.classes.map ClassEntry.name).Duplicate name) :
      document.Faults (.duplicateClass name)
  | duplicateField {entry : ClassEntry} {field : String} (hentry : entry ∈ document.classes)
      (h : (entry.fields.map FieldDeclaration.name).Duplicate field) :
      document.Faults (.duplicateField entry.name field)

theorem Document.Distinct.not_faults {document : Document} (h : document.Distinct)
    {e : SchemaError} : ¬ document.Faults e := by
  intro hfault
  cases hfault with
  | duplicateClass hclass => exact hclass.not_nodup h.classes
  | duplicateField hentry hfield => exact hfield.not_nodup (h.fields _ hentry)

theorem duplicate_append {α : Type} {x : α} {xs ys : List α} (hx : x ∈ xs) (hy : x ∈ ys) :
    (xs ++ ys).Duplicate x := by
  rw [List.duplicate_iff_sublist]
  exact (List.singleton_sublist.mpr hx).append (List.singleton_sublist.mpr hy)

namespace Draft

variable {draft next : Draft}

/-! ## Marks of fields and marks of classes -/

/-- No field was declared later than its class was last opened. -/
def Timely (draft : Draft) : Prop := ∀ cls ∈ draft.classes, ∀ f ∈ cls.fields, f.pass ≤ cls.openedIn

theorem timely_start (name : String) (qualifier : Option String) :
    (start name qualifier).Timely := by
  simp [Timely, start]

/-- The class that is open was opened in the present pass. -/
theorem Sound.openedIn_of_openClass? (h : draft.Sound) {cls : DraftClass}
    (hopen : draft.openClass? = some cls) : cls.openedIn = draft.pass := by
  rcases Option.bind_eq_some_iff.mp hopen with ⟨name, hopened, hfind⟩
  rcases find?_eq_some hfind with ⟨hmem, hname⟩
  rcases h.opened name hopened with ⟨other, hother, hother', hnow⟩
  rwa [List.inj_on_of_nodup_map h.distinct hmem hother (hname.trans hother'.symm)]

namespace Timely

theorem beginPass (h : draft.Timely) (hnext : draft.beginPass = .ok next) : next.Timely := by
  rcases beginPass_eq_ok.mp hnext with ⟨-, rfl⟩
  exact h

theorem openClass (h : draft.Timely) (hsound : draft.Sound) {name : String}
    {parents : List String} (hnext : draft.openClass name parents = .ok next) : next.Timely := by
  rcases openClass_eq_ok.mp hnext with ⟨-, ⟨_, -, -, rfl⟩ | ⟨-, rfl⟩⟩
  · intro cls hcls f hf
    rcases mem_update.mp hcls with ⟨old, hold, rfl⟩
    split at hf
    · next hname =>
      rw [if_pos hname, DraftClass.openedIn_reopen]
      rw [DraftClass.fields_reopen] at hf
      exact (hsound.classes old hold).past f hf
    · next hname =>
      rw [if_neg hname]
      exact h old hold f hf
  · intro cls hcls f hf
    rcases List.mem_append.mp hcls with hold | hlast
    · exact h cls hold f hf
    · rw [List.mem_singleton.mp hlast] at hf
      simp at hf

theorem declareField (h : draft.Timely) (hsound : draft.Sound) {f : FieldDeclaration}
    (hnext : draft.declareField f = .ok next) : next.Timely := by
  rcases declareField_eq_ok.mp hnext with ⟨cls, hopen, ⟨-, rfl⟩ | ⟨-, -, -, rfl⟩⟩
  · intro changed hchanged g hg
    rcases mem_update.mp hchanged with ⟨old, hold, rfl⟩
    split at hg
    · next hname =>
      rw [if_pos hname]
      rcases List.mem_append.mp hg with hbefore | hlast
      · exact h old hold g hbefore
      · have hmem := mem_of_openClass?_eq_some hopen
        rcases List.inj_on_of_nodup_map hsound.distinct hold hmem hname with rfl
        rw [List.mem_singleton.mp hlast]
        exact Nat.le_of_eq (hsound.openedIn_of_openClass? hopen).symm
    · next hname =>
      rw [if_neg hname]
      exact h old hold g hg
  · exact h

theorem closeClass (h : draft.Timely) (hnext : draft.closeClass = .ok next) : next.Timely := by
  rcases closeClass_eq_ok.mp hnext with ⟨-, rfl⟩
  exact h

theorem apply (h : draft.Timely) (hsound : draft.Sound) {declaration : Declaration}
    (hnext : draft.apply declaration = .ok next) : next.Timely := by
  cases declaration with
  | openClass name parents => exact h.openClass hsound hnext
  | field f => exact h.declareField hsound hnext
  | closeClass => exact h.closeClass hnext

theorem declare (h : draft.Timely) (hsound : draft.Sound) {declarations : List Declaration}
    (hnext : draft.declare declarations = .ok next) : next.Timely := by
  induction declarations generalizing draft with
  | nil =>
    rw [declare_nil, Except.ok.injEq] at hnext
    exact hnext ▸ h
  | cons declaration rest ih =>
    rw [declare_cons] at hnext
    rcases bind_eq_ok.mp hnext with ⟨mid, hmid, hrest⟩
    exact ih (h.apply hsound hmid) (hsound.apply hmid) hrest

/-- A class that the draft opens has no field of the present pass. -/
theorem past_of_openClass (h : draft.Timely) (hsound : draft.Sound) {name : String}
    {parents : List String} (hnext : draft.openClass name parents = .ok next) :
    ∃ cls, next.find? name = some cls ∧ ∀ f ∈ cls.fields, f.pass ≠ next.pass := by
  rcases openClass_eq_ok.mp hnext with ⟨-, ⟨cls, hfind, hpast, rfl⟩ | ⟨hnew, rfl⟩⟩
  · have hfound : (draft.update name (·.reopen draft.pass parents)).find? name = _ :=
      find?_update_self (fun old => DraftClass.name_reopen old draft.pass parents) hfind
    refine ⟨_, hfound, ?_⟩
    intro f hf
    rw [DraftClass.fields_reopen] at hf
    have hmem := (find?_eq_some hfind).1
    have hfield := h cls hmem f hf
    have hopened := (hsound.classes cls hmem).opened
    -- the class was last opened in an earlier pass, and the field is not later than that
    show f.pass ≠ draft.pass
    omega
  · refine ⟨⟨draft.classes.length, name, parents, [], draft.pass⟩, ?_, by simp⟩
    simp only [Draft.find?] at hnew
    simp [Draft.find?, List.find?_append, hnew]

end Timely

/-! ## What an entry is refused for -/

theorem openClass_eq_error {name : String} {parents : List String} {e : SchemaError}
    (hopened : draft.opened = none) (h : draft.openClass name parents = .error e) :
    e = .duplicateClass name ∧ draft.OpenedNow name := by
  unfold openClass at h
  rw [hopened] at h
  cases hfind : draft.find? name with
  | none => simp [hfind] at h
  | some cls =>
    by_cases hnow : cls.openedIn = draft.pass
    · simp only [hfind, hnow, if_true, Except.error.injEq] at h
      exact ⟨h.symm, cls, hfind, hnow⟩
    · simp [hfind, hnow] at h

/-- A field that is taken leaves its class open, with no other field of the present pass than it
had. -/
theorem declareField_leaves {name : String} {cls : DraftClass} (hopened : draft.opened = some name)
    (hcls : draft.find? name = some cls) {f : FieldDeclaration}
    (hnext : draft.declareField f = .ok next) :
    next.opened = some name ∧ next.pass = draft.pass ∧ ∃ later, next.find? name = some later ∧
      ∀ g ∈ later.fields, g ∈ cls.fields ∨ g.field.name = f.name := by
  rcases declareField_eq_ok.mp hnext with ⟨found, hopen, hcase⟩
  rw [openClass?, hopened, Option.bind_some, hcls, Option.some.injEq] at hopen
  subst hopen
  rcases hcase with ⟨-, rfl⟩ | ⟨-, -, -, rfl⟩
  · rcases find?_eq_some hcls with ⟨-, rfl⟩
    refine ⟨hopened, rfl, cls.addField draft.pass f, ?_, ?_⟩
    · exact find?_update_self (fun old => DraftClass.name_addField old draft.pass f) hcls
    · intro g hg
      rcases List.mem_append.mp hg with hold | hlast
      · exact Or.inl hold
      · rw [List.mem_singleton.mp hlast]
        exact Or.inr rfl
  · exact ⟨hopened, rfl, cls, hcls, fun g hg => Or.inl hg⟩

/-- Fields of the open class are refused for a name that is declared twice, counting what the
present pass has declared before. -/
theorem declare_fields_eq_error {name : String} {cls : DraftClass}
    (hopened : draft.opened = some name) (hcls : draft.find? name = some cls)
    {fields : List FieldDeclaration} {before : List String}
    (hbefore : ∀ g ∈ cls.fields, g.pass = draft.pass → g.field.name ∈ before) {e : SchemaError}
    (h : draft.declare (fields.map .field) = .error e) :
    ∃ field, e = .duplicateField name field ∧
      (before ++ fields.map FieldDeclaration.name).Duplicate field := by
  -- On the fields still to come; the one just declared goes to those before.
  induction fields generalizing draft cls before with
  | nil => simp [declare_nil] at h
  | cons f rest ih =>
    rw [List.map_cons, declare_cons] at h
    rcases bind_eq_error.mp h with hfirst | ⟨mid, hmid, hrest⟩
    · rcases declareField_eq_error.mp hfirst with
        ⟨hnone, -⟩ | ⟨found, known, hopen, hknown, hnow, rfl⟩
      · simp [openClass?, hopened, hcls] at hnone
      · rw [openClass?, hopened, Option.bind_some, hcls, Option.some.injEq] at hopen
        subst hopen
        have hname : known.field.name = f.name := by simpa using List.find?_some hknown
        have hmem := hbefore known (List.mem_of_find?_eq_some hknown) hnow
        refine ⟨f.name, ?_, ?_⟩
        · rw [(find?_eq_some hcls).2]
        · exact duplicate_append (hname ▸ hmem) List.mem_cons_self
    · rcases declareField_leaves hopened hcls hmid with ⟨hopened', hpass, later, hlater, hfields⟩
      have hbefore' : ∀ g ∈ later.fields, g.pass = mid.pass →
          g.field.name ∈ before ++ [f.name] := by
        intro g hg hnow
        rcases hfields g hg with hold | hname
        · exact List.mem_append_left _ (hbefore g hold (hnow.trans hpass))
        · simp [hname]
      rcases ih hopened' hlater hbefore' hrest with ⟨field, rfl, hduplicate⟩
      exact ⟨field, rfl, by simpa using hduplicate⟩

theorem opened_of_declare_fields {name : String} {cls : DraftClass}
    (hopened : draft.opened = some name) (hcls : draft.find? name = some cls)
    {fields : List FieldDeclaration} (h : draft.declare (fields.map .field) = .ok next) :
    next.opened = some name := by
  induction fields generalizing draft cls with
  | nil =>
    rw [List.map_nil, declare_nil, Except.ok.injEq] at h
    exact h ▸ hopened
  | cons f rest ih =>
    rw [List.map_cons, declare_cons] at h
    rcases bind_eq_ok.mp h with ⟨mid, hmid, hrest⟩
    rcases declareField_leaves hopened hcls hmid with ⟨hopened', -, later, hlater, -⟩
    exact ih hopened' hlater hrest

/-- An entry is refused if its class is open in this pass already, or if it has two fields of one
name. -/
theorem declare_entry_eq_error (hsound : draft.Sound) (htimely : draft.Timely)
    (hopened : draft.opened = none) {entry : ClassEntry} {e : SchemaError}
    (h : draft.declare entry.declarations = .error e) :
    (e = .duplicateClass entry.name ∧ draft.OpenedNow entry.name) ∨
      ∃ field, e = .duplicateField entry.name field ∧
        (entry.fields.map FieldDeclaration.name).Duplicate field := by
  rw [ClassEntry.declarations, List.cons_append, declare_cons] at h
  rcases bind_eq_error.mp h with hopen | ⟨opened, hopen, hrest⟩
  · exact Or.inl (openClass_eq_error hopened hopen)
  · rcases htimely.past_of_openClass hsound hopen with ⟨cls, hcls, hpast⟩
    have hname : opened.opened = some entry.name := by
      rcases openClass_eq_ok.mp hopen with ⟨-, ⟨-, -, -, rfl⟩ | ⟨-, rfl⟩⟩
      · rfl
      · rfl
    rw [declare_append] at hrest
    rcases bind_eq_error.mp hrest with hfields | ⟨filled, hfilled, hclose⟩
    · right
      exact @declare_fields_eq_error _ _ _ hname hcls _ []
        (fun g hg hnow => absurd hnow (hpast g hg)) _ hfields
    · -- the class is still open, so closing it is not refused
      have hstill := opened_of_declare_fields hname hcls hfilled
      simp [declare_cons, Draft.apply, closeClass, hstill, declare_nil, bind, Except.bind] at hclose

/-! ## What a document is refused for -/

/-- Only opening a class makes it one that was opened in the present pass. -/
theorem openedNow_of_apply {declaration : Declaration} (hnext : draft.apply declaration = .ok next)
    {name : String} (h : next.OpenedNow name) :
    draft.OpenedNow name ∨ ∃ parents, declaration = .openClass name parents := by
  rcases h with ⟨cls, hcls, hnow⟩
  cases declaration with
  | openClass other parents =>
    by_cases hname : name = other
    · exact Or.inr ⟨parents, hname ▸ rfl⟩
    · left
      rcases openClass_eq_ok.mp hnext with ⟨-, ⟨_, -, -, rfl⟩ | ⟨-, rfl⟩⟩
      · have hsame : (draft.update other (·.reopen draft.pass parents)).find? name =
            draft.find? name := by
          rw [find?_update fun old => DraftClass.name_reopen old draft.pass parents, if_neg hname]
        exact ⟨cls, hsame.symm.trans hcls, hnow⟩
      · have hother : other ≠ name := Ne.symm hname
        simp only [Draft.find?, List.find?_append] at hcls
        simp only [List.find?_singleton, hother, decide_false, Bool.false_eq_true, if_false,
          Option.or_none] at hcls
        exact ⟨cls, hcls, hnow⟩
  | field f =>
    left
    rcases declareField_eq_ok.mp hnext with ⟨found, -, ⟨-, rfl⟩ | ⟨-, -, -, rfl⟩⟩
    · rw [find?_update fun old => DraftClass.name_addField old draft.pass f] at hcls
      split at hcls
      · rcases Option.map_eq_some_iff.mp hcls with ⟨old, hold, rfl⟩
        exact ⟨old, hold, hnow⟩
      · exact ⟨cls, hcls, hnow⟩
    · exact ⟨cls, hcls, hnow⟩
  | closeClass =>
    rcases closeClass_eq_ok.mp hnext with ⟨-, rfl⟩
    exact Or.inl ⟨cls, hcls, hnow⟩

theorem openedNow_of_declare {declarations : List Declaration}
    (hnext : draft.declare declarations = .ok next) {name : String} (h : next.OpenedNow name) :
    draft.OpenedNow name ∨ ∃ parents, .openClass name parents ∈ declarations := by
  induction declarations generalizing draft with
  | nil =>
    rw [declare_nil, Except.ok.injEq] at hnext
    exact Or.inl (hnext ▸ h)
  | cons declaration rest ih =>
    rw [declare_cons] at hnext
    rcases bind_eq_ok.mp hnext with ⟨mid, hmid, hrest⟩
    rcases ih hrest with hbefore | ⟨parents, hmem⟩
    · rcases openedNow_of_apply hmid hbefore with hfirst | ⟨parents, rfl⟩
      · exact Or.inl hfirst
      · exact Or.inr ⟨parents, List.mem_cons_self⟩
    · exact Or.inr ⟨parents, List.mem_cons_of_mem _ hmem⟩

/-- Entries are refused for a class that comes twice, counting what the present pass has opened
before, or for a field that comes twice in one of them. -/
theorem declare_entries_eq_error (hsound : draft.Sound) (htimely : draft.Timely)
    (hopened : draft.opened = none) {entries : List ClassEntry} {before : List String}
    (hbefore : ∀ name, draft.OpenedNow name → name ∈ before) {e : SchemaError}
    (h : draft.declare (entries.flatMap ClassEntry.declarations) = .error e) :
    (∃ name, e = .duplicateClass name ∧ (before ++ entries.map ClassEntry.name).Duplicate name) ∨
      ∃ entry ∈ entries, ∃ field, e = .duplicateField entry.name field ∧
        (entry.fields.map FieldDeclaration.name).Duplicate field := by
  -- On the entries still to come; the class just opened goes to those before.
  induction entries generalizing draft before with
  | nil => simp [declare_nil] at h
  | cons entry rest ih =>
    rw [List.flatMap_cons, declare_append] at h
    rcases bind_eq_error.mp h with hfirst | ⟨mid, hmid, hrest⟩
    · rcases declare_entry_eq_error hsound htimely hopened hfirst with
        ⟨rfl, hnow⟩ | ⟨field, rfl, hfield⟩
      · exact Or.inl ⟨entry.name, rfl, duplicate_append (hbefore _ hnow) List.mem_cons_self⟩
      · exact Or.inr ⟨entry, List.mem_cons_self, field, rfl, hfield⟩
    · have hclosed : mid.opened = none := by
        rcases declare_entry_eq_ok.mp hmid with ⟨_, -, _, -, hclose⟩
        rcases closeClass_eq_ok.mp hclose with ⟨-, rfl⟩
        rfl
      have hbefore' : ∀ name, mid.OpenedNow name → name ∈ before ++ [entry.name] := by
        intro name hnow
        rcases openedNow_of_declare hmid hnow with hearlier | ⟨parents, hmem⟩
        · exact List.mem_append_left _ (hbefore name hearlier)
        · simp [ClassEntry.declarations] at hmem
          simp [hmem.1]
      rcases ih (hsound.declare hmid) (htimely.declare hsound hmid) hclosed hbefore' hrest with
        ⟨name, rfl, hname⟩ | ⟨other, hother, hfield⟩
      · exact Or.inl ⟨name, rfl, by simpa using hname⟩
      · exact Or.inr ⟨other, List.mem_cons_of_mem _ hother, hfield⟩

/-- A document that is refused, with no class open and none yet opened in the present pass, gives
cause for the refusal. -/
theorem faults_of_declare (hsound : draft.Sound) (htimely : draft.Timely)
    (hopened : draft.opened = none) (hfresh : ∀ name, ¬ draft.OpenedNow name)
    {document : Document} {e : SchemaError} (h : draft.declare document.declarations = .error e) :
    document.Faults e := by
  have hbefore : ∀ name, draft.OpenedNow name → name ∈ [] :=
    fun name hnow => absurd hnow (hfresh name)
  rcases declare_entries_eq_error hsound htimely hopened hbefore h with
    ⟨name, rfl, hname⟩ | ⟨entry, hentry, field, rfl, hfield⟩
  · exact .duplicateClass hname
  · exact .duplicateField hentry hfield

theorem Sound.not_openedNow_of_beginPass (h : draft.Sound) (hnext : draft.beginPass = .ok next)
    (name : String) : ¬ next.OpenedNow name := by
  rintro ⟨cls, hcls, hnow⟩
  exact (h.unmarked hnext cls (find?_eq_some hcls).1).1 hnow

theorem faults_of_addDocument (hsound : draft.Sound) (htimely : draft.Timely)
    (hopened : draft.opened = none) {document : Document} {e : SchemaError}
    (h : draft.addDocument document = .error e) : document.Faults e := by
  have hpassed : draft.beginPass = .ok { draft with pass := draft.pass + 1 } :=
    beginPass_eq_ok.mpr ⟨hopened, rfl⟩
  rw [addDocument, hpassed] at h
  exact faults_of_declare (hsound.beginPass hpassed) (htimely.beginPass hpassed) hopened
    (hsound.not_openedNow_of_beginPass hpassed) h

/-- Further documents that make no schema are refused for what one of them gives cause for: no
class is left open at the end. -/
theorem faults_of_addDocuments (hsound : draft.Sound) (htimely : draft.Timely)
    (hopened : draft.opened = none) {documents : List Document} {e : SchemaError}
    (h : documents.foldlM Draft.addDocument draft >>= Draft.finish = .error e) :
    ∃ document ∈ documents, document.Faults e := by
  induction documents generalizing draft with
  | nil => simp [finish, hopened] at h
  | cons document rest ih =>
    rw [List.foldlM_cons, bind_assoc] at h
    rcases bind_eq_error.mp h with hfirst | ⟨mid, hmid, hrest⟩
    · exact ⟨document, List.mem_cons_self, faults_of_addDocument hsound htimely hopened hfirst⟩
    · rcases addDocument_eq_ok.mp hmid with ⟨passed, hpassed, hdeclared⟩
      rcases ih (hsound.addDocument hmid)
        ((htimely.beginPass hpassed).declare (hsound.beginPass hpassed) hdeclared)
        (hsound.registered hmid).opened hrest with ⟨other, hother, hfault⟩
      exact ⟨other, List.mem_cons_of_mem _ hother, hfault⟩

end Draft

/-! ## Documents that make no schema, or no model -/

theorem Schema.faults_of_ofDocuments {first : Document} {rest : List Document} {e : SchemaError}
    (h : ofDocuments first rest = .error e) : ∃ document ∈ first :: rest, document.Faults e := by
  have hsound := Draft.sound_start first.name first.qualifier
  have htimely := Draft.timely_start first.name first.qualifier
  rw [ofDocuments_eq] at h
  rcases bind_eq_error.mp h with hfirst | ⟨draft, hdraft, hrest⟩
  · refine ⟨first, List.mem_cons_self, Draft.faults_of_declare hsound htimely rfl ?_ hfirst⟩
    rintro name ⟨cls, hcls, -⟩
    simp [Draft.find?, Draft.start] at hcls
  · have hregistered := Draft.registered_of_declare hsound rfl hdraft
    rcases Draft.faults_of_addDocuments hregistered.sound (htimely.declare hsound hdraft)
      hregistered.opened hrest with ⟨document, hmem, hfault⟩
    exact ⟨document, List.mem_cons_of_mem _ hmem, hfault⟩

/-- Why documents make no model: there are none, they declare no schema, or their schema makes
none. -/
theorem Model.ofDocuments_eq_error {documents : List Document} {error : SourceError}
    (h : ofDocuments documents = .error error) :
    (documents = [] ∧ error = .noDocuments) ∨
      (∃ e, error = .build (.schema e) ∧ ∃ document ∈ documents, document.Faults e) ∨
      ∃ (schema : Schema) (e : BuildError), error = .build e ∧ schema.Blames e := by
  unfold ofDocuments at h
  split at h
  · exact Or.inl ⟨rfl, (Except.error.inj h).symm⟩
  · next first rest =>
    right
    split at h
    · next e hschema =>
      exact Or.inl ⟨e, (Except.error.inj h).symm, Schema.faults_of_ofDocuments hschema⟩
    · next schema hschema =>
      right
      cases hbuild : ofSchema schema with
      | ok m => simp [hbuild, Except.mapError] at h
      | error e =>
        have hdistinct := (declared_of_ofDocuments hschema).sound.distinct
        simp only [hbuild, Except.mapError, Except.error.injEq] at h
        exact ⟨schema, e, h.symm, Build.blames_of_ofSchema hdistinct hbuild⟩

/-- What documents fail for. A refusal of their declarations is one that some document gives cause
for, by listing a class twice or a field of a class twice, and never one of a class or field that
comes at a wrong time. Without such a document the declarations are not refused, however the
documents overlap, and only the rules for schemas are left to break. -/
theorem Model.ofDocuments_faults (documents : List Document) :
    (∀ e, ofDocuments documents = .error (.build (.schema e)) →
      (∃ document ∈ documents, document.Faults e) ∧ (∀ field, e ≠ .fieldOutsideClass field) ∧
        (∀ name outer, e ≠ .nestedClass name outer) ∧ e ≠ .unmatchedClose ∧
        ∀ name, e ≠ .unclosedClass name) ∧
    (documents ≠ [] →
      (∀ document ∈ documents, document.Distinct) →
      ∀ error, ofDocuments documents = .error error →
        (∃ name, error = .build (.reservedClassName name)) ∨
        (∃ cls parent, error = .build (.unresolvedParent cls parent)) ∨
        (∃ cls circle, error = .build (.cyclicInheritance cls circle)) ∨
        ∃ cls field target, error = .build (.unresolvedReference cls field target)) := by
  refine ⟨?refused, ?built⟩
  case refused =>
    intro e h
    rcases ofDocuments_eq_error h with
      ⟨-, herror⟩ | ⟨e', herror, hfault⟩ | ⟨schema, e', herror, hblames⟩
    · simp at herror
    · rcases BuildError.schema.inj (SourceError.build.inj herror) with rfl
      refine ⟨hfault, ?_⟩
      rcases hfault with ⟨_, -, hfault⟩
      cases hfault <;> simp
    · rcases SourceError.build.inj herror with rfl
      cases hblames
  case built =>
    intro hsome hdistinct error h
    rcases ofDocuments_eq_error h with
      ⟨hnone, -⟩ | ⟨e, -, document, hmem, hfault⟩ | ⟨schema, e, rfl, hblames⟩
    · exact absurd hnone hsome
    · exact absurd hfault (hdistinct document hmem).not_faults
    · cases hblames with
      | reserved cls _ => exact Or.inl ⟨_, rfl⟩
      | parent cls parent _ _ _ => exact Or.inr (Or.inl ⟨_, _, rfl⟩)
      | circle cls circle _ _ _ => exact Or.inr (Or.inr (Or.inl ⟨_, _, rfl⟩))
      | target cls field link _ _ _ _ _ _ => exact Or.inr (Or.inr (Or.inr ⟨_, _, _, rfl⟩))

namespace Racks

/-- A class with a field. -/
def first : Document := ⟨"racks", none, [⟨"Rack", [], [⟨"width", .attr "int"⟩]⟩]⟩

/-- The class and its field again, and a parent that is no class. -/
def again : Document := ⟨"more", none, [⟨"Rack", ["Frame"], [⟨"width", .attr "String"⟩]⟩]⟩

/-- The field twice. -/
def twice : Document :=
  ⟨"twice", none, [⟨"Rack", [], [⟨"width", .attr "int"⟩, ⟨"width", .attr "int"⟩]⟩]⟩

end Racks

/-- Documents that declare one field of one class in turn fail for the parent, which is no class; a
document that declares it twice is refused for that. -/
theorem Model.ofDocuments_faults_racks :
    (∀ document ∈ [Racks.first, Racks.again], document.Distinct) ∧
      ofDocuments [Racks.first, Racks.again] = .error (.build (.unresolvedParent "Rack" "Frame")) ∧
      (∀ e, ofDocuments [Racks.first, Racks.again] ≠ .error (.build (.schema e))) ∧
      ofDocuments [Racks.twice] = .error (.build (.schema (.duplicateField "Rack" "width"))) ∧
      ∃ document ∈ [Racks.twice], document.Faults (.duplicateField "Rack" "width") := by
  have hdistinct : ∀ document ∈ [Racks.first, Racks.again], document.Distinct := by
    rw [List.forall_mem_cons, List.forall_mem_singleton]
    exact ⟨⟨by decide, by decide⟩, ⟨by decide, by decide⟩⟩
  have hparent : ofDocuments [Racks.first, Racks.again] =
      .error (.build (.unresolvedParent "Rack" "Frame")) := by cbv
  have htwice : ofDocuments [Racks.twice] =
      .error (.build (.schema (.duplicateField "Rack" "width"))) := by cbv
  refine ⟨hdistinct, hparent, fun e herror => ?_, htwice, ?_⟩
  · rcases ofDocuments_faults [Racks.first, Racks.again] with ⟨-, hrules⟩
    have hcases := hrules (by decide) hdistinct _ herror
    simp at hcases
  · rcases ofDocuments_faults [Racks.twice] with ⟨hrefused, -⟩
    exact (hrefused _ htwice).1

end ClassModel
