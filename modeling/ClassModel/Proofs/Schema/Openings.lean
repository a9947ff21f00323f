import ClassModel.Proofs.Firsts
import ClassModel.Proofs.Schema.Accepted
import ClassModel.Proofs.Schema.Passes
import ClassModel.Schema.Document

/-!
# What comes first is what is declared

Declarations open classes again and again, in this pass and that. Where all of them are accepted,
the classes declared can be read off the openings alone: a class stands where it was first opened,
its parents are those of its first opening with what later openings add, and of each field name the
first declaration counts.

* `openings` — the openings in a list of declarations, each with the fields declared in it;
* `declaredBy` — the classes that openings declare;
* `Draft.Records` — the classes of a draft are those its openings declare, and the last opening goes
  on while a class is open;
* `Draft.finish_declaredBy` — so it is at the end of all accepted calls.
-/

namespace ClassModel

/-! ## Openings -/

/-- The fields at the head of declarations. -/
def leadingFields : List Declaration → List FieldDeclaration
  | .field f :: rest => f :: leadingFields rest
  | _ => []

/-- The openings of classes, in order, each with its parents and with the fields declared before
anything else is. -/
def openings : List Declaration → List ClassEntry
  | [] => []
  | .openClass name parents :: rest => ⟨name, parents, leadingFields rest⟩ :: openings rest
  | .field _ :: rest => openings rest
  | .closeClass :: rest => openings rest

theorem leadingFields_map_field (fields : List FieldDeclaration) :
    leadingFields (fields.map .field) = fields := by
  induction fields with
  | nil => rfl
  | cons f rest ih => rw [List.map_cons, leadingFields, ih]

theorem openings_map_field (fields : List FieldDeclaration) :
    openings (fields.map .field) = [] := by
  induction fields with
  | nil => rfl
  | cons f rest ih => rw [List.map_cons, openings, ih]

/-- A declaration that is no field ends the fields before it. -/
theorem leadingFields_append {declaration : Declaration} (h : ∀ f, declaration ≠ .field f)
    (log rest : List Declaration) :
    leadingFields (log ++ declaration :: rest) = leadingFields log := by
  induction log with
  | nil =>
    cases declaration with
    | field f => exact absurd rfl (h f)
    | openClass name parents => rfl
    | closeClass => rfl
  | cons first others ih =>
    cases first with
    | field f => rw [List.cons_append, leadingFields, leadingFields, ih]
    | openClass name parents => rfl
    | closeClass => rfl

/-- So the openings before it are complete. -/
theorem openings_append {declaration : Declaration} (h : ∀ f, declaration ≠ .field f)
    (log rest : List Declaration) :
    openings (log ++ declaration :: rest) = openings log ++ openings (declaration :: rest) := by
  induction log with
  | nil => rfl
  | cons first others ih =>
    cases first with
    | field f => exact ih
    | closeClass => exact ih
    | openClass name parents =>
      simp only [List.cons_append, openings, leadingFields_append h, ih]

/-- The last opening has the fields declared since. -/
theorem openings_openClass (log : List Declaration) (name : String) (parents : List String)
    (fields : List FieldDeclaration) :
    openings (log ++ .openClass name parents :: fields.map .field) =
      openings log ++ [⟨name, parents, fields⟩] := by
  have hopen : ∀ f, Declaration.openClass name parents ≠ .field f := fun f => nofun
  rw [openings_append hopen, openings, leadingFields_map_field, openings_map_field]

theorem openings_field (log : List Declaration) (name : String) (parents : List String)
    (fields : List FieldDeclaration) (f : FieldDeclaration) :
    openings (log ++ .openClass name parents :: fields.map .field ++ [.field f]) =
      openings log ++ [⟨name, parents, fields ++ [f]⟩] := by
  have hlonger : log ++ .openClass name parents :: fields.map .field ++ [.field f] =
      log ++ .openClass name parents :: (fields ++ [f]).map .field := by simp
  rw [hlonger, openings_openClass]

theorem openings_closeClass (log : List Declaration) :
    openings (log ++ [.closeClass]) = openings log := by
  have hclose : ∀ f, Declaration.closeClass ≠ .field f := fun f => nofun
  rw [openings_append hclose, openings, openings, List.append_nil]

/-! ## What openings declare -/

variable {log : List ClassEntry} {entry : ClassEntry}

/-- The names of classes, in the order of first opening. -/
def openedNames (log : List ClassEntry) : List String := firsts (log.map ClassEntry.name)

/-- The openings of one class. -/
def openingsOf (name : String) (log : List ClassEntry) : List ClassEntry :=
  log.filter fun entry => entry.name = name

/-- The parents of a class: those of its first opening as they are, and of its later openings those
that are new. -/
def openedParents (name : String) (log : List ClassEntry) : List String :=
  match openingsOf name log with
  | [] => []
  | first :: later => extendWith first.parents (later.flatMap ClassEntry.parents)

/-- The fields of a class: of each name the first declaration, in whichever opening. -/
def openedFields (name : String) (log : List ClassEntry) : List FieldDeclaration :=
  firstsBy FieldDeclaration.name ((openingsOf name log).flatMap ClassEntry.fields)

/-- A field as a class owns it. -/
def FieldDeclaration.ownedBy (id : ClassId) (f : FieldDeclaration) : Field := ⟨f.name, id, f.kind⟩

/-- A class that openings declare. -/
def openedClass (log : List ClassEntry) (id : ClassId) (name : String) : DeclaredClass where
  id := id
  name := name
  parentNames := openedParents name log
  ownFields := (openedFields name log).map (·.ownedBy id)
  builtin := false

/-- The classes that openings declare. -/
def declaredBy (log : List ClassEntry) : List DeclaredClass :=
  (openedNames log).mapIdx (openedClass log)

theorem mem_openedNames {name : String} :
    name ∈ openedNames log ↔ name ∈ log.map ClassEntry.name := by
  have hmem := mem_map_firstsBy id (log.map ClassEntry.name) (k := name)
  simpa [openedNames] using hmem

theorem openedNames_concat (log : List ClassEntry) (entry : ClassEntry) :
    openedNames (log ++ [entry]) =
      if entry.name ∈ openedNames log then openedNames log
      else openedNames log ++ [entry.name] := by
  rw [openedNames, List.map_append, List.map_singleton, firsts, firstsBy_concat]
  simp only [id_eq, List.map_id_fun, ← mem_openedNames]
  rfl

theorem openingsOf_concat (log : List ClassEntry) (entry : ClassEntry) :
    openingsOf entry.name (log ++ [entry]) = openingsOf entry.name log ++ [entry] := by
  simp [openingsOf]

theorem openingsOf_other {name : String} (h : entry.name ≠ name) (log : List ClassEntry) :
    openingsOf name (log ++ [entry]) = openingsOf name log := by
  simp [openingsOf, h]

theorem openingsOf_eq_nil_iff {name : String} :
    openingsOf name log = [] ↔ name ∉ openedNames log := by
  simp [openingsOf, mem_openedNames, List.filter_eq_nil_iff]

/-- What one class declares does not depend on the openings of others. -/
theorem openedClass_other {name : String} (h : entry.name ≠ name) (log : List ClassEntry)
    (id : ClassId) : openedClass (log ++ [entry]) id name = openedClass log id name := by
  simp only [openedClass, openedParents, openedFields, openingsOf_other h]

/-- The first opening of a class gives it all its parents. -/
theorem openedClass_first {name : String} (h : name ∉ openedNames log) (id : ClassId)
    (parents : List String) :
    openedClass (log ++ [⟨name, parents, []⟩]) id name = ⟨id, name, parents, [], false⟩ := by
  have hof := openingsOf_concat log ⟨name, parents, []⟩
  rw [openingsOf_eq_nil_iff.mpr h, List.nil_append] at hof
  simp [openedClass, openedParents, openedFields, hof]

/-- A later opening of a class adds the parents that it does not have. -/
theorem openedClass_again {name : String} (h : name ∈ openedNames log) (id : ClassId)
    (parents : List String) :
    openedClass (log ++ [⟨name, parents, []⟩]) id name =
      { openedClass log id name with
        parentNames := extendWith (openedParents name log) parents } := by
  have hof := openingsOf_concat log ⟨name, parents, []⟩
  have hbefore : openingsOf name log ≠ [] := fun hnil => openingsOf_eq_nil_iff.mp hnil h
  simp only [openedClass, openedParents, openedFields, hof]
  cases hlog : openingsOf name log with
  | nil => exact absurd hlog hbefore
  | cons first later => simp [extendWith_append]

section LastOpening

variable {name : String} {parents : List String} {fields : List FieldDeclaration}
  {f : FieldDeclaration}

theorem openedParents_field :
    openedParents name (log ++ [⟨name, parents, fields ++ [f]⟩]) =
      openedParents name (log ++ [⟨name, parents, fields⟩]) := by
  have hof := openingsOf_concat log ⟨name, parents, fields⟩
  have hof' := openingsOf_concat log ⟨name, parents, fields ++ [f]⟩
  simp only [openedParents, hof, hof']
  cases openingsOf name log with
  | nil => rfl
  | cons first later => simp

theorem openedFields_field :
    openedFields name (log ++ [⟨name, parents, fields ++ [f]⟩]) =
      let known := openedFields name (log ++ [⟨name, parents, fields⟩])
      if f.name ∈ known.map FieldDeclaration.name then known else known ++ [f] := by
  have hof := openingsOf_concat log ⟨name, parents, fields⟩
  have hof' := openingsOf_concat log ⟨name, parents, fields ++ [f]⟩
  simp only [openedFields, hof, hof', List.flatMap_append, List.flatMap_singleton,
    ← List.append_assoc, firstsBy_concat, mem_map_firstsBy]

theorem map_name_ownFields (log : List ClassEntry) (id : ClassId) (name : String) :
    (openedClass log id name).ownFields.map Field.name =
      (openedFields name log).map FieldDeclaration.name := by
  simp [openedClass, FieldDeclaration.ownedBy, Function.comp_def]

/-- One more field in the last opening of a class does not count if the class has its name. -/
theorem openedClass_field_known {id : ClassId}
    (h : f.name ∈
      (openedClass (log ++ [⟨name, parents, fields⟩]) id name).ownFields.map Field.name) :
    openedClass (log ++ [⟨name, parents, fields ++ [f]⟩]) id name =
      openedClass (log ++ [⟨name, parents, fields⟩]) id name := by
  rw [map_name_ownFields] at h
  simp only [openedClass, openedParents_field, openedFields_field, if_pos h]

/-- Else it comes behind the others. -/
theorem openedClass_field_new {id : ClassId}
    (h : f.name ∉
      (openedClass (log ++ [⟨name, parents, fields⟩]) id name).ownFields.map Field.name) :
    openedClass (log ++ [⟨name, parents, fields ++ [f]⟩]) id name =
      { openedClass (log ++ [⟨name, parents, fields⟩]) id name with
        ownFields := (openedClass (log ++ [⟨name, parents, fields⟩]) id name).ownFields ++
          [f.ownedBy id] } := by
  rw [map_name_ownFields] at h
  simp only [openedClass, openedParents_field, openedFields_field, if_neg h, List.map_append,
    List.map_singleton]

end LastOpening

/-! ## One class -/

namespace DraftClass

theorem parentNames_reopen (cls : DraftClass) (pass : Nat) (parents : List String) :
    (cls.reopen pass parents).parentNames = extendWith cls.parentNames parents := by
  have hadded : ∀ old : DraftClass,
      (parents.foldl addParent old).parentNames = extendWith old.parentNames parents := by
    induction parents with
    | nil => simp
    | cons parent rest ih =>
      intro old
      rw [List.foldl_cons, ih, parentNames_addParent, ← extendWith_singleton, ← extendWith_append,
        List.singleton_append]
  exact hadded { cls with openedIn := pass }

theorem declared_reopen (cls : DraftClass) (pass : Nat) (parents : List String) :
    (cls.reopen pass parents).declared =
      { cls.declared with parentNames := extendWith cls.parentNames parents } := by
  simp [declared, parentNames_reopen]

/-- Opened again, a class takes the parents of the opening. -/
theorem declared_again {cls : DraftClass}
    (h : cls.declared = openedClass log cls.id cls.name) (hknown : cls.name ∈ openedNames log)
    (pass : Nat) (parents : List String) :
    (cls.reopen pass parents).declared =
      openedClass (log ++ [⟨cls.name, parents, []⟩]) cls.id cls.name := by
  have hparents : cls.parentNames = openedParents cls.name log :=
    congrArg DeclaredClass.parentNames h
  rw [declared_reopen, openedClass_again hknown, h, hparents]

theorem declared_addField (cls : DraftClass) (pass : Nat) (f : FieldDeclaration) :
    (cls.addField pass f).declared =
      { cls.declared with ownFields := cls.declared.ownFields ++ [f.ownedBy cls.id] } := by
  simp [declared, addField, FieldDeclaration.ownedBy]

theorem field?_eq_none_iff {cls : DraftClass} {name : String} :
    cls.field? name = none ↔ name ∉ cls.declared.ownFields.map Field.name := by
  simp [field?, declared]

section LastOpening

variable {cls : DraftClass} {parents : List String} {fields : List FieldDeclaration}
  {f : FieldDeclaration}
  (h : cls.declared = openedClass (log ++ [⟨cls.name, parents, fields⟩]) cls.id cls.name)

include h

/-- A new field is added to a class as to its last opening. -/
theorem declared_field_new (pass : Nat) (hnew : cls.field? f.name = none) :
    (cls.addField pass f).declared =
      openedClass (log ++ [⟨cls.name, parents, fields ++ [f]⟩]) cls.id cls.name := by
  rw [field?_eq_none_iff, h] at hnew
  rw [declared_addField, openedClass_field_new hnew, h]

/-- A known field changes neither the class nor what its openings declare. -/
theorem declared_field_known (hknown : cls.field? f.name ≠ none) :
    cls.declared = openedClass (log ++ [⟨cls.name, parents, fields ++ [f]⟩]) cls.id cls.name := by
  rw [ne_eq, field?_eq_none_iff, not_not, h] at hknown
  rw [openedClass_field_known hknown, h]

end LastOpening

end DraftClass

namespace Draft

/-! ## The invariant -/

/-- The classes of a draft are those that the openings in its declarations declare. While a class is
open, all that came after its opening are fields. -/
structure Records (draft : Draft) (log : List Declaration) : Prop where
  names : draft.classes.map DraftClass.name = openedNames (openings log)
  classes : ∀ cls ∈ draft.classes, cls.declared = openedClass (openings log) cls.id cls.name
  opened : ∀ name, draft.opened = some name →
    ∃ earlier parents, ∃ fields : List FieldDeclaration,
      log = earlier ++ .openClass name parents :: fields.map .field

theorem records_start (name : String) (qualifier : Option String) :
    (start name qualifier).Records [] where
  names := rfl
  classes := by simp [start]
  opened := by simp [start]

namespace Records

variable {draft next : Draft} {log : List Declaration}

theorem beginPass (h : draft.Records log) (hnext : draft.beginPass = .ok next) :
    next.Records log := by
  rcases beginPass_eq_ok.mp hnext with ⟨-, rfl⟩
  exact ⟨h.names, h.classes, h.opened⟩

theorem closeClass (h : draft.Records log) (hnext : draft.closeClass = .ok next) :
    next.Records (log ++ [.closeClass]) := by
  rcases closeClass_eq_ok.mp hnext with ⟨-, rfl⟩
  refine ⟨?_, ?_, by simp⟩
  · rw [openings_closeClass]
    exact h.names
  · rw [openings_closeClass]
    exact h.classes

theorem openClass (h : draft.Records log) {name : String} {parents : List String}
    (hnext : draft.openClass name parents = .ok next) :
    next.Records (log ++ [.openClass name parents]) := by
  have hlog : openings (log ++ [.openClass name parents]) =
      openings log ++ [⟨name, parents, []⟩] := openings_openClass log name parents []
  have hopened : ∀ other, some name = some other → ∃ earlier ps,
      ∃ fields : List FieldDeclaration, log ++ [.openClass name parents] =
        earlier ++ .openClass other ps :: fields.map .field := by
    rintro other ⟨⟩
    exact ⟨log, parents, [], rfl⟩
  rcases openClass_eq_ok.mp hnext with ⟨-, ⟨cls, hfind, -, rfl⟩ | ⟨hnew, rfl⟩⟩
  · -- reopened: of the openings of this class one more
    rcases find?_eq_some hfind with ⟨hmem, hname⟩
    have hknown : name ∈ openedNames (openings log) := by
      rw [← h.names, ← hname]
      exact List.mem_map_of_mem hmem
    refine ⟨?_, ?_, hopened⟩
    · have hname : ∀ old : DraftClass, (old.reopen draft.pass parents).name = old.name :=
        fun old => DraftClass.name_reopen old draft.pass parents
      simp only [map_update DraftClass.name hname]
      rw [h.names, hlog, openedNames_concat, if_pos hknown]
    · intro other hother
      rcases mem_update.mp hother with ⟨old, hold, rfl⟩
      have hdeclared := h.classes old hold
      split
      · next hsame =>
        subst hsame
        rw [hlog, DraftClass.id_reopen, DraftClass.name_reopen]
        exact DraftClass.declared_again hdeclared hknown draft.pass parents
      · next hother =>
        rw [hlog, openedClass_other fun heq => hother heq.symm, hdeclared]
  · -- new: the first opening of this class
    have hunknown : name ∉ openedNames (openings log) := by
      rw [← h.names]
      exact find?_eq_none.mp hnew
    refine ⟨?_, ?_, hopened⟩
    · rw [List.map_append, h.names, hlog, openedNames_concat, if_neg hunknown]
      rfl
    · intro other hother
      rw [hlog]
      rcases List.mem_append.mp hother with hold | hlast
      · have hne : name ≠ other.name := by
          intro heq
          rw [heq, ← h.names] at hunknown
          exact hunknown (List.mem_map_of_mem hold)
        rw [openedClass_other hne, h.classes other hold]
      · rw [List.mem_singleton.mp hlast, openedClass_first hunknown]
        rfl

theorem distinct (h : draft.Records log) : (draft.classes.map DraftClass.name).Nodup := by
  have hnodup := nodup_firstsBy id ((openings log).map ClassEntry.name)
  rw [List.map_id_fun, id_eq] at hnodup
  rw [h.names]
  exact hnodup

theorem declareField (h : draft.Records log) {f : FieldDeclaration}
    (hnext : draft.declareField f = .ok next) : next.Records (log ++ [.field f]) := by
  rcases declareField_eq_ok.mp hnext with ⟨cls, hopen, hstep⟩
  rcases Option.bind_eq_some_iff.mp hopen with ⟨name, hname, hfind⟩
  rcases find?_eq_some hfind with ⟨hmem, rfl⟩
  -- the field goes into the last opening, which is that of the open class
  rcases h.opened cls.name hname with ⟨earlier, parents, fields, rfl⟩
  have hlog := openings_openClass earlier cls.name parents fields
  have hlog' := openings_field earlier cls.name parents fields f
  have hopened : ∀ other, draft.opened = some other →
      ∃ earlier' ps, ∃ fields' : List FieldDeclaration,
        earlier ++ .openClass cls.name parents :: fields.map .field ++ [.field f] =
          earlier' ++ .openClass other ps :: fields'.map .field := by
    intro other hother
    obtain rfl := Option.some.inj (hname.symm.trans hother)
    exact ⟨earlier, parents, fields ++ [f], by simp⟩
  have hnames : draft.classes.map DraftClass.name =
      openedNames (openings earlier ++ [⟨cls.name, parents, fields ++ [f]⟩]) := by
    rw [h.names, hlog, openedNames_concat, openedNames_concat]
  have hcls := h.classes cls hmem
  rw [hlog] at hcls
  have hothers : ∀ old ∈ draft.classes, old.name ≠ cls.name → old.declared =
      openedClass (openings earlier ++ [⟨cls.name, parents, fields ++ [f]⟩]) old.id old.name := by
    intro old hold hne
    rw [h.classes old hold, hlog, openedClass_other hne.symm, openedClass_other hne.symm]
  rcases hstep with ⟨hnone, rfl⟩ | ⟨known, hknown, -, rfl⟩
  · refine ⟨?_, ?_, hopened⟩
    · rw [map_update DraftClass.name fun old => DraftClass.name_addField old draft.pass f, hlog']
      exact hnames
    · intro other hother
      rw [hlog']
      rcases mem_update.mp hother with ⟨old, hold, rfl⟩
      split
      · next hsame =>
        rcases List.inj_on_of_nodup_map h.distinct hold hmem hsame with rfl
        exact DraftClass.declared_field_new hcls draft.pass hnone
      · next hne => exact hothers old hold hne
  · refine ⟨?_, ?_, hopened⟩
    · rw [hlog']
      exact hnames
    · intro old hold
      rw [hlog']
      by_cases hsame : old.name = cls.name
      · rcases List.inj_on_of_nodup_map h.distinct hold hmem hsame with rfl
        exact DraftClass.declared_field_known hcls (by simp [hknown])
      · exact hothers old hold hsame

/-- An accepted declaration is recorded. -/
theorem apply (h : draft.Records log) {declaration : Declaration}
    (hnext : draft.apply declaration = .ok next) : next.Records (log ++ [declaration]) := by
  cases declaration with
  | openClass name parents => exact h.openClass hnext
  | field f => exact h.declareField hnext
  | closeClass => exact h.closeClass hnext

/-- What accepted calls declare is recorded. -/
theorem takeAll (h : draft.Records log) {calls : List Call} {last : Draft}
    (hlast : draft.takeAll calls = .ok last) :
    last.Records (log ++ calls.flatMap Call.declarations) :=
  takeAll_induct log (fun _ _ _ hold hnext => hold.beginPass hnext)
    (fun _ _ _ _ hold hnext => hold.apply hnext) h hlast

/-- At their positions the classes of a draft are those that its openings declare. -/
theorem declared (h : draft.Records log) (hsound : draft.Sound) :
    draft.classes.map DraftClass.declared = declaredBy (openings log) := by
  rw [declaredBy, ← h.names]
  apply List.ext_getElem?
  intro i
  rw [List.getElem?_map, List.getElem?_mapIdx, List.getElem?_map]
  cases hi : draft.classes[i]? with
  | none => rfl
  | some cls =>
    have hdeclared := h.classes cls (List.mem_of_getElem? hi)
    rw [hsound.id_eq_of_getElem? hi] at hdeclared
    simp only [Option.map_some, hdeclared]

end Records

/-! ## What accepted calls declare -/

/-- Let calls on a new draft all be accepted and leave no class open. Then the schema consists of
the classes that their openings declare, each at the position its id names and with distinct fields
of its own; and what the calls had declared at any point before stands there, with parents and
fields only added behind. -/
theorem finish_declaredBy (name : String) (qualifier : Option String) {calls : List Call}
    {draft : Draft} (h : (start name qualifier).takeAll calls = .ok draft)
    (hclosed : draft.opened = none) :
    ∃ schema, draft.finish = .ok schema ∧
      schema = ⟨name, qualifier.filter (· ≠ ""),
        declaredBy (openings (calls.flatMap Call.declarations))⟩ ∧
      schema.Sound ∧
      ∀ earlier later, calls = earlier ++ later →
        ∃ before, (start name qualifier).takeAll earlier = .ok before ∧
          ∀ (i : Nat) (cls : DraftClass), before.classes[i]? = some cls →
            ∃ kept : DeclaredClass, schema.classes[i]? = some kept ∧ kept.name = cls.name ∧
              cls.parentNames <+: kept.parentNames ∧
              cls.declared.ownFields <+: kept.ownFields := by
  have hsound : draft.Sound := (sound_start name qualifier).takeAll h
  have hrecords : draft.Records (calls.flatMap Call.declarations) :=
    (records_start name qualifier).takeAll h
  have hfinish := finish_eq_ok.mpr ⟨hclosed, rfl⟩
  refine ⟨_, hfinish, ?_, hsound.finish hfinish, ?_⟩
  · rw [hrecords.declared hsound, (header_takeAll h).1, (header_takeAll h).2]
    rfl
  · rintro earlier later rfl
    rcases takeAll_append_eq_ok.mp h with ⟨before, hbefore, hlater⟩
    have hsound' : before.Sound := (sound_start name qualifier).takeAll hbefore
    refine ⟨before, hbefore, fun i cls hcls => ?_⟩
    rcases hsound'.exists_later hsound (.takeAll hsound' hlater) hcls with
      ⟨kept, hkept, hname, hwithin⟩
    refine ⟨kept.declared, ?_, hname, hwithin.parentNames, hwithin.fields.map DraftField.field⟩
    rw [List.getElem?_map, hkept, Option.map_some]

/-- Three passes: the second opens `Crate` again, for a parent more and for the one it has, for a
field of the first pass and for a new one; so does the third. -/
def crateCalls : List Call :=
  [.applyAll [.openClass "Thing" [], .closeClass, .openClass "Crate" ["Thing", "Thing"],
      .field ⟨"label", .attr "String"⟩, .closeClass],
    .beginPass,
    .apply (.openClass "Crate" ["Box", "Thing"]), .apply (.field ⟨"label", .attr "int"⟩),
    .apply (.field ⟨"parts", .collection ⟨"Thing", none⟩⟩), .apply .closeClass,
    .beginPass,
    .applyAll [.openClass "Box" [], .closeClass, .openClass "Crate" ["Part", "Box", "Part"],
      .field ⟨"parts", .attr "int"⟩, .closeClass]]

/-- What is declared by them. -/
def crateClasses : List DeclaredClass :=
  [⟨0, "Thing", [], [], false⟩,
    ⟨1, "Crate", ["Thing", "Thing", "Box", "Part"],
      [⟨"label", 1, .attr "String"⟩, ⟨"parts", 1, .collection ⟨"Thing", none⟩⟩], false⟩,
    ⟨2, "Box", [], [], false⟩]

theorem finish_declaredBy_crates :
    ∃ draft, (start "crates" none).takeAll crateCalls = .ok draft ∧
      draft.finish = .ok ⟨"crates", none, crateClasses⟩ := by
  have hcrates : ∃ draft, (start "crates" none).takeAll crateCalls = .ok draft ∧
      draft.opened = none := ⟨_, rfl, rfl⟩
  rcases hcrates with ⟨draft, hdraft, hclosed⟩
  rcases finish_declaredBy "crates" none hdraft hclosed with ⟨schema, hfinish, hschema, -, -⟩
  have hclasses : declaredBy (openings (crateCalls.flatMap Call.declarations)) = crateClasses := by
    decide
  refine ⟨draft, hdraft, ?_⟩
  rw [hfinish, hschema, hclasses]
  rfl

end Draft

end ClassModel
