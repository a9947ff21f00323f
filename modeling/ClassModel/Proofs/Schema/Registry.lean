import ClassModel.Entries
import ClassModel.Proofs.Guarded.Basic
import ClassModel.Proofs.Schema.Refusals
import Mathlib

/-!
# Drafts kept by position

A draft can be kept in a registry that searches nothing. Classes stand in a list and are addressed
by position: an index maps their names to these positions, the open class is marked by its position,
and each class keeps the passes of its fields apart from the fields. Passes are numbers of 32 bits.
The parts have to fit together, through every call that is made and every refusal, or a look-up by
position goes wrong or finds another class.

* `Registry.call` — a call on a registry: its outcome, and the registry it leaves;
* `Registry.view` — the draft that a registry keeps;
* `Registry.Linked` — the index, the marker and the passes of fields fit the classes;
* `Registry.follows` — a call on a linked registry goes as on the draft that it keeps, and leaves a
  linked registry;
* `Registry.sound_leaves` — so the parts fit together in whatever registry calls lead to.
-/

namespace ClassModel

/-- Adds a parent unless it is one already. -/
def DeclaredClass.addParent (cls : DeclaredClass) (parent : String) : DeclaredClass :=
  if parent ∈ cls.parentNames then cls
  else { cls with parentNames := cls.parentNames ++ [parent] }

/-- A class as a registry keeps it. -/
structure Shell where
  cls : DeclaredClass
  /-- The pass in which the class was last opened. -/
  openedIn : UInt32
  /-- The pass that declared each own field, by the name of the field. -/
  fieldPasses : Entries UInt32
deriving DecidableEq, Repr

namespace Shell

/-- Opens the class again in a later pass. -/
def reopen (shell : Shell) (pass : UInt32) (parents : List String) : Shell :=
  { shell with openedIn := pass, cls := parents.foldl DeclaredClass.addParent shell.cls }

/-- Adds a field at the end, and keeps its pass. -/
def addField (shell : Shell) (pass : UInt32) (f : FieldDeclaration) : Shell :=
  { shell with
    fieldPasses := shell.fieldPasses.put f.name pass
    cls := { shell.cls with
      ownFields := shell.cls.ownFields ++ [⟨f.name, shell.cls.id, f.kind⟩] } }

/-- The pass that declared a field of a given name. -/
def passOf (shell : Shell) (field : String) : Nat :=
  ((shell.fieldPasses.get? field).map UInt32.toNat).getD 0

/-- The class as it stands in a draft. -/
def view (shell : Shell) : DraftClass where
  id := shell.cls.id
  name := shell.cls.name
  parentNames := shell.cls.parentNames
  fields := shell.cls.ownFields.map fun field => ⟨field, shell.passOf field.name⟩
  openedIn := shell.openedIn.toNat

end Shell

/-- A schema under declaration, kept by position. -/
structure Registry where
  name : String
  qualifier : Option String
  /-- The current pass. -/
  pass : UInt32
  shells : List Shell
  /-- The positions of the classes, by name. -/
  byName : Entries Nat
  /-- The position of the class that is open. -/
  opened : Option Nat
deriving DecidableEq, Repr

namespace Registry

/-- What a call comes to, and the registry that it leaves, whether it is accepted or not. -/
abbrev Outcome := Except (Stop SchemaError) Unit × Registry

/-- An empty registry. An empty namespace is none. -/
def start (name : String) (qualifier : Option String) : Registry where
  name := name
  qualifier := qualifier.filter (· ≠ "")
  pass := 0
  shells := []
  byName := []
  opened := none

/-- Goes on with the class at a position. -/
def withShell (r : Registry) (index : Nat) (next : Shell → Outcome) : Outcome :=
  match r.shells[index]? with
  | some shell => next shell
  | none => (.error (.outOfRange index), r)

/-- Refuses a call, and leaves the registry as it is. -/
def refuse (r : Registry) (error : SchemaError) : Outcome := (.error (.refused error), r)

/-- Puts a class in place of the one at a position. -/
def setShell (r : Registry) (index : Nat) (shell : Shell) : Registry :=
  { r with shells := r.shells.set index shell }

/-- Adds a class at the end. -/
def push (r : Registry) (shell : Shell) : Registry :=
  { r with
    shells := r.shells ++ [shell]
    byName := r.byName.put shell.cls.name r.shells.length }

/-- Begins the next pass. -/
def beginPass (r : Registry) : Outcome :=
  match r.opened with
  | some index => r.withShell index fun shell => r.refuse (.unclosedClass shell.cls.name)
  | none => (.ok (), { r with pass := r.pass + 1 })

/-- Opens a class, new or known from an earlier pass. -/
def openClass (r : Registry) (name : String) (parents : List String) : Outcome :=
  match r.opened with
  | some index => r.withShell index fun shell => r.refuse (.nestedClass name shell.cls.name)
  | none =>
    match r.byName.get? name with
    | some index =>
      r.withShell index fun shell =>
        if shell.openedIn = r.pass then r.refuse (.duplicateClass name)
        else
          (.ok (), { r.setShell index (shell.reopen r.pass parents) with opened := some index })
    | none =>
      let index := r.shells.length
      let shell : Shell := ⟨⟨index, name, parents, [], false⟩, r.pass, []⟩
      (.ok (), { r.push shell with opened := some index })

/-- Declares a field of the open class. -/
def declareField (r : Registry) (f : FieldDeclaration) : Outcome :=
  match r.opened with
  | none => r.refuse (.fieldOutsideClass f.name)
  | some index =>
    r.withShell index fun shell =>
      match shell.fieldPasses.get? f.name with
      | some declaredIn =>
        if declaredIn = r.pass then r.refuse (.duplicateField shell.cls.name f.name)
        else (.ok (), r)
      | none => (.ok (), r.setShell index (shell.addField r.pass f))

/-- Closes the open class. The marker is taken away before it is looked at. -/
def closeClass (r : Registry) : Outcome :=
  let left := { r with opened := none }
  match r.opened with
  | some _ => (.ok (), left)
  | none => left.refuse .unmatchedClose

/-- Takes one declaration. -/
def apply (r : Registry) : Declaration → Outcome
  | .openClass name parents => r.openClass name parents
  | .field f => r.declareField f
  | .closeClass => r.closeClass

/-- Takes declarations in turn, up to the first that is not accepted. -/
def applyAll (r : Registry) : List Declaration → Outcome
  | [] => (.ok (), r)
  | declaration :: rest =>
    match r.apply declaration with
    | (.ok (), next) => next.applyAll rest
    | (.error stop, left) => (.error stop, left)

/-- Makes a call. -/
def call (r : Registry) : Call → Outcome
  | .beginPass => r.beginPass
  | .apply declaration => r.apply declaration
  | .applyAll declarations => r.applyAll declarations

/-- The registry that calls leave, whether they are accepted or not. -/
def leaves (r : Registry) (calls : List Call) : Registry :=
  calls.foldl (fun r call => (r.call call).2) r

/-- The draft that a registry keeps. -/
def view (r : Registry) : Draft where
  name := r.name
  qualifier := r.qualifier
  pass := r.pass.toNat
  classes := r.shells.map Shell.view
  opened := r.opened.bind fun index => r.shells[index]?.map fun shell => shell.cls.name

end Registry

/-! ## Classes -/

/-- The passes of fields are kept for the own fields, and for no others. -/
def Shell.Linked (shell : Shell) : Prop :=
  ∀ name, (shell.fieldPasses.get? name).isSome ↔ name ∈ shell.cls.ownFields.map Field.name

namespace Shell

variable {shell : Shell} {name : String}

theorem passOf_eq {pass : UInt32} (h : shell.fieldPasses.get? name = some pass) :
    shell.passOf name = pass.toNat := by
  rw [passOf, h]
  rfl

/-- A field whose pass is kept is found in the draft, with that pass. -/
theorem Linked.exists_field?_view (h : shell.Linked) {pass : UInt32}
    (hpass : shell.fieldPasses.get? name = some pass) :
    ∃ known, shell.view.field? name = some known ∧ known.pass = pass.toNat := by
  have hname : name ∈ shell.cls.ownFields.map Field.name := (h name).mp (by simp [hpass])
  have hsome : (shell.view.field? name).isSome := by
    simpa [DraftClass.field?, view, List.find?_isSome] using hname
  rcases Option.isSome_iff_exists.mp hsome with ⟨known, hknown⟩
  refine ⟨known, hknown, ?_⟩
  rcases List.mem_map.mp (List.mem_of_find?_eq_some hknown) with ⟨field, -, rfl⟩
  have hfield : field.name = name := by simpa using List.find?_some hknown
  rw [← passOf_eq hpass, ← hfield]

/-- A field whose pass is not kept is not found there. -/
theorem Linked.field?_view_eq_none (h : shell.Linked) (hpass : shell.fieldPasses.get? name = none) :
    shell.view.field? name = none := by
  have hname : name ∉ shell.cls.ownFields.map Field.name := by
    rw [← h name, hpass]
    simp
  simpa [DraftClass.field?, view] using hname

theorem view_addParent (shell : Shell) (parent : String) :
    { shell with cls := shell.cls.addParent parent }.view = shell.view.addParent parent := by
  by_cases hparent : parent ∈ shell.cls.parentNames
  · simp [view, passOf, DeclaredClass.addParent, DraftClass.addParent, hparent]
  · simp [view, passOf, DeclaredClass.addParent, DraftClass.addParent, hparent]

theorem view_reopen (shell : Shell) (pass : UInt32) (parents : List String) :
    (shell.reopen pass parents).view = shell.view.reopen pass.toNat parents := by
  have hparents : ∀ old : Shell,
      { old with cls := parents.foldl DeclaredClass.addParent old.cls }.view =
        parents.foldl DraftClass.addParent old.view := by
    induction parents with
    | nil => exact fun _ => rfl
    | cons parent rest ih =>
      intro old
      rw [List.foldl_cons, List.foldl_cons, ← view_addParent]
      exact ih { old with cls := old.cls.addParent parent }
  exact hparents { shell with openedIn := pass }

/-- A new field gets the present pass, and the fields before it keep theirs. -/
theorem Linked.view_addField (h : shell.Linked) {f : FieldDeclaration}
    (hnew : shell.fieldPasses.get? f.name = none) (pass : UInt32) :
    (shell.addField pass f).view = shell.view.addField pass.toNat f := by
  have hold : ∀ field ∈ shell.cls.ownFields,
      (shell.addField pass f).passOf field.name = shell.passOf field.name := by
    intro field hfield
    have hne : f.name ≠ field.name := by
      intro heq
      have hkept := (h field.name).mpr (List.mem_map_of_mem hfield)
      simp [← heq, hnew] at hkept
    simp [passOf, addField, Entries.get?_put, hne]
  have hlast : (shell.addField pass f).passOf f.name = pass.toNat :=
    passOf_eq (by simp [addField, Entries.get?_put])
  have hfields : (shell.addField pass f).view.fields =
      shell.view.fields ++ [⟨⟨f.name, shell.view.id, f.kind⟩, pass.toNat⟩] := by
    have hown : (shell.addField pass f).cls.ownFields =
        shell.cls.ownFields ++ [⟨f.name, shell.cls.id, f.kind⟩] := rfl
    simp only [view, hown, List.map_append, List.map_singleton, hlast]
    congr 1
    apply List.map_congr_left
    intro field hfield
    rw [hold field hfield]
  rw [DraftClass.addField, ← hfields]
  rfl

theorem linked_start (id : ClassId) (parents : List String) (pass : UInt32) :
    Shell.Linked ⟨⟨id, name, parents, [], false⟩, pass, []⟩ := by
  intro other
  simp [Entries.get?]

theorem map_field_view (shell : Shell) :
    shell.view.fields.map DraftField.field = shell.cls.ownFields := by
  simp [view, Function.comp_def]

theorem Linked.reopen (h : shell.Linked) (pass : UInt32) (parents : List String) :
    (shell.reopen pass parents).Linked := by
  have hown : (shell.reopen pass parents).cls.ownFields = shell.cls.ownFields := by
    rw [← map_field_view, view_reopen, DraftClass.fields_reopen, map_field_view]
  intro other
  rw [hown]
  exact h other

theorem Linked.addField (h : shell.Linked) (pass : UInt32) (f : FieldDeclaration) :
    (shell.addField pass f).Linked := by
  intro other
  have hown : (shell.addField pass f).cls.ownFields =
      shell.cls.ownFields ++ [⟨f.name, shell.cls.id, f.kind⟩] := rfl
  have hkept : (shell.addField pass f).fieldPasses = shell.fieldPasses.put f.name pass := rfl
  rw [hown, hkept, Entries.get?_put, List.map_append, List.mem_append, ← h other]
  by_cases hname : f.name = other
  · simp [hname]
  · simp [hname, eq_comm (a := other)]

theorem name_reopen (shell : Shell) (pass : UInt32) (parents : List String) :
    (shell.reopen pass parents).cls.name = shell.cls.name := by
  have hname : (shell.reopen pass parents).view.name = shell.view.name := by
    rw [view_reopen, DraftClass.name_reopen]
  exact hname

end Shell

namespace Registry

/-! ## Registries whose parts fit -/

/-- The index leads to the classes of its names and knows them all, the marker leads to a class, and
the passes of fields are those of the own fields. -/
structure Linked (r : Registry) : Prop where
  index : ∀ name i, r.byName.get? name = some i ↔
    ∃ shell, r.shells[i]? = some shell ∧ shell.cls.name = name
  opened : ∀ i, r.opened = some i → ∃ shell, r.shells[i]? = some shell
  shells : ∀ shell ∈ r.shells, shell.Linked

theorem linked_new (name : String) (qualifier : Option String) : (start name qualifier).Linked where
  index := by simp [start, Entries.get?]
  opened := by simp [start]
  shells := by simp [start]

namespace Linked

variable {r : Registry} {shell : Shell} {i : Nat}

/-- No two classes have one name. -/
theorem eq_of_name_eq (h : r.Linked) {j : Nat} {other : Shell} (hi : r.shells[i]? = some shell)
    (hj : r.shells[j]? = some other) (hname : shell.cls.name = other.cls.name) : i = j := by
  have hfirst := (h.index other.cls.name i).mpr ⟨shell, hi, hname⟩
  have hsecond := (h.index other.cls.name j).mpr ⟨other, hj, rfl⟩
  exact Option.some.inj (hfirst.symm.trans hsecond)

/-- The class at a position is the one that a search finds for its name. -/
theorem find?_view (h : r.Linked) (hi : r.shells[i]? = some shell) :
    r.view.find? shell.cls.name = some shell.view := by
  have hmem := List.mem_of_getElem? hi
  have hsome : (r.shells.find? fun other => other.cls.name = shell.cls.name).isSome := by
    rw [List.find?_isSome]
    exact ⟨shell, hmem, by simp⟩
  rcases Option.isSome_iff_exists.mp hsome with ⟨found, hfound⟩
  have hname : found.cls.name = shell.cls.name := by simpa using List.find?_some hfound
  rcases List.mem_iff_getElem?.mp (List.mem_of_find?_eq_some hfound) with ⟨j, hj⟩
  obtain rfl := h.eq_of_name_eq hj hi hname
  obtain rfl := Option.some.inj (hj.symm.trans hi)
  rw [Draft.find?, Registry.view, List.find?_map]
  exact congrArg (Option.map Shell.view) hfound

/-- A name that the index does not know is not found by a search. -/
theorem find?_view_eq_none (h : r.Linked) {name : String} (hname : r.byName.get? name = none) :
    r.view.find? name = none := by
  rw [Draft.find?, Registry.view, List.find?_map, Option.map_eq_none_iff, List.find?_eq_none]
  intro shell hshell heq
  rcases List.mem_iff_getElem?.mp hshell with ⟨i, hi⟩
  have hfound : shell.view.name = name := by simpa using heq
  have hindex := (h.index name i).mpr ⟨shell, hi, hfound⟩
  simp [hname] at hindex

theorem opened_view (hopen : r.opened = some i) (hi : r.shells[i]? = some shell) :
    r.view.opened = some shell.cls.name := by
  simp [Registry.view, hopen, hi]

theorem opened_view_eq_none (hopen : r.opened = none) : r.view.opened = none := by
  simp [Registry.view, hopen]

theorem openClass?_view (h : r.Linked) (hopen : r.opened = some i)
    (hi : r.shells[i]? = some shell) : r.view.openClass? = some shell.view := by
  rw [Draft.openClass?, opened_view hopen hi, Option.bind_some, h.find?_view hi]

/-- A class that is changed at its position is changed under its name. -/
theorem view_setShell (h : r.Linked) (hi : r.shells[i]? = some shell) {changed : Shell}
    (change : DraftClass → DraftClass) (hchanged : changed.view = change shell.view)
    (hname : changed.cls.name = shell.cls.name) :
    (r.setShell i changed).view = r.view.update shell.cls.name change := by
  have hlt := (List.getElem?_eq_some_iff.mp hi).1
  have hclasses : (r.shells.set i changed).map Shell.view =
      (r.view.update shell.cls.name change).classes := by
    simp only [Draft.update, Registry.view, List.map_map]
    apply List.ext_getElem?
    intro j
    rw [List.getElem?_map, List.getElem?_map, List.getElem?_set]
    by_cases hij : i = j
    · subst hij
      have hsame : shell.view.name = shell.cls.name := rfl
      rw [if_pos rfl, if_pos hlt, hi]
      simp [hchanged, hsame]
    · -- any other class has another name, so the change by name passes it over
      rw [if_neg hij]
      cases hj : r.shells[j]? with
      | none => rfl
      | some other =>
        have hother : other.view.name ≠ shell.cls.name := by
          intro heq
          exact hij (h.eq_of_name_eq hi hj heq.symm)
        simp [hother]
  have hnames : ∀ j : Nat, (r.shells.set i changed)[j]?.map (fun other : Shell => other.cls.name) =
      r.shells[j]?.map (fun other : Shell => other.cls.name) := by
    intro j
    rw [List.getElem?_set]
    by_cases hij : i = j
    · subst hij
      rw [if_pos rfl, if_pos hlt, hi, Option.map_some, Option.map_some, hname]
    · rw [if_neg hij]
  rw [Registry.view, Registry.setShell]
  simp only [hclasses, hnames]
  rfl

/-- A class may be changed at its position if it keeps its name. -/
theorem setShell (h : r.Linked) (hi : r.shells[i]? = some shell) {changed : Shell}
    (hname : changed.cls.name = shell.cls.name) (hlinked : changed.Linked) :
    (r.setShell i changed).Linked := by
  have hlt := (List.getElem?_eq_some_iff.mp hi).1
  have hat : ∀ j other, (r.shells.set i changed)[j]? = some other ↔
      i = j ∧ changed = other ∨ i ≠ j ∧ r.shells[j]? = some other := by
    intro j other
    rw [List.getElem?_set]
    by_cases hij : i = j
    · subst hij
      simp [hlt]
    · simp [hij]
  constructor
  · intro name j
    rw [Registry.setShell, h.index name j]
    simp only [hat]
    by_cases hij : i = j
    · subst hij
      simp [hi, hname]
    · simp [hij]
  · intro j hj
    rcases h.opened j hj with ⟨other, hother⟩
    simp only [Registry.setShell, hat]
    by_cases hij : i = j
    · exact ⟨changed, Or.inl ⟨hij, rfl⟩⟩
    · exact ⟨other, Or.inr ⟨hij, hother⟩⟩
  · intro other hother
    rcases List.mem_or_eq_of_mem_set hother with hold | rfl
    · exact h.shells other hold
    · exact hlinked

/-- The marker may be set to any class. -/
theorem mark (h : r.Linked) (hi : r.shells[i]? = some shell) :
    { r with opened := some i }.Linked where
  index := h.index
  opened := by
    rintro j ⟨⟩
    exact ⟨shell, hi⟩
  shells := h.shells

theorem view_mark (hi : r.shells[i]? = some shell) :
    { r with opened := some i }.view = { r.view with opened := some shell.cls.name } := by
  simp [Registry.view, hi]

/-- A class of a new name may be added at the end. -/
theorem push (h : r.Linked) (hlinked : shell.Linked)
    (hnew : r.byName.get? shell.cls.name = none) : (r.push shell).Linked := by
  have hat : ∀ j other, (r.shells ++ [shell])[j]? = some other ↔
      r.shells[j]? = some other ∨ r.shells.length = j ∧ shell = other := by
    intro j other
    rcases Nat.lt_trichotomy j r.shells.length with hlt | rfl | hlt
    · simp [List.getElem?_append_left hlt, hlt.ne']
    · simp
    · have hold : r.shells[j]? = none := List.getElem?_eq_none hlt.le
      have hall : (r.shells ++ [shell])[j]? = none := by
        rw [List.getElem?_eq_none_iff, List.length_append, List.length_singleton]
        exact hlt
      rw [hold, hall]
      simp [hlt.ne]
  constructor
  · intro name i
    simp only [Registry.push, Entries.get?_put, hat]
    by_cases hname : shell.cls.name = name
    · subst hname
      have hnone : ∀ other, r.shells[i]? = some other → other.cls.name ≠ shell.cls.name := by
        intro other hother hsame
        have hknown := (h.index shell.cls.name i).mpr ⟨other, hother, hsame⟩
        simp [hnew] at hknown
      rw [if_pos rfl, Option.some.injEq]
      constructor
      · rintro rfl
        exact ⟨shell, Or.inr ⟨rfl, rfl⟩, rfl⟩
      · rintro ⟨other, hold | ⟨hlast, -⟩, hsame⟩
        · exact absurd hsame (hnone other hold)
        · exact hlast
    · rw [if_neg hname, h.index]
      constructor
      · rintro ⟨other, hother, hsame⟩
        exact ⟨other, Or.inl hother, hsame⟩
      · rintro ⟨other, hold | ⟨-, rfl⟩, hsame⟩
        · exact ⟨other, hold, hsame⟩
        · exact absurd hsame hname
  · intro i hi
    rcases h.opened i hi with ⟨other, hother⟩
    exact ⟨other, (hat i other).mpr (Or.inl hother)⟩
  · intro other hother
    rcases List.mem_append.mp hother with hold | hlast
    · exact h.shells other hold
    · exact List.mem_singleton.mp hlast ▸ hlinked

end Linked

/-! ## Calls -/

/-- A call on a registry goes as on the draft that the registry keeps. -/
structure Follows (r : Registry) (call : Call) : Prop where
  outcome : (r.call call).1 = guarded ((r.view.take call).map fun _ => ())
  view : (r.call call).2.view = r.view.after call
  linked : (r.call call).2.Linked

section Calls

variable {r : Registry} {call : Call}

theorem follows_of_accepted (next : Registry) (hcall : r.call call = (.ok (), next))
    (htake : r.view.take call = .ok next.view) (hnext : next.Linked) : r.Follows call where
  outcome := by rw [hcall, htake]; rfl
  view := by rw [hcall, Draft.after_of_take htake]
  linked := by rw [hcall]; exact hnext

theorem follows_of_refused (hsingle : call.isSingle) {e : SchemaError}
    (hcall : r.call call = r.refuse e) (htake : r.view.take call = .error e) (h : r.Linked) :
    r.Follows call where
  outcome := by rw [hcall, htake]; rfl
  view := by rw [hcall, Draft.after_of_refused hsingle htake]; rfl
  linked := by rw [hcall]; exact h

theorem Follows.of_accepted (h : r.Follows call) {next : Draft}
    (htake : r.view.take call = .ok next) :
    ∃ left, r.call call = (.ok (), left) ∧ left.view = next ∧ left.Linked := by
  have houtcome := h.outcome
  rw [htake] at houtcome
  refine ⟨(r.call call).2, Prod.ext houtcome rfl, ?_, h.linked⟩
  rw [h.view, Draft.after_of_take htake]

theorem Follows.of_refused (h : r.Follows call) {e : SchemaError}
    (htake : r.view.take call = .error e) :
    ∃ left, r.call call = (.error (.refused e), left) ∧ left.view = r.view.after call ∧
      left.Linked := by
  have houtcome := h.outcome
  rw [htake] at houtcome
  exact ⟨(r.call call).2, Prod.ext houtcome rfl, h.view, h.linked⟩

theorem follows_beginPass (h : r.Linked) (hroom : r.opened = none → r.pass.toNat + 1 < 2 ^ 32) :
    r.Follows .beginPass := by
  cases hopen : r.opened with
  | some i =>
    rcases h.opened i hopen with ⟨shell, hi⟩
    refine follows_of_refused (e := .unclosedClass shell.cls.name) rfl ?_ ?_ h
    · simp [Registry.call, Registry.beginPass, hopen, withShell, hi]
    · simp [Draft.take, Draft.beginPass, Linked.opened_view hopen hi]
  | none =>
    have hnext : ({ r with pass := r.pass + 1 } : Registry).view =
        { r.view with pass := r.view.pass + 1 } := by
      have hpass : (r.pass + 1).toNat = r.pass.toNat + 1 := by
        rw [UInt32.toNat_add]
        exact Nat.mod_eq_of_lt (hroom hopen)
      simp [Registry.view, hpass]
    refine follows_of_accepted { r with pass := r.pass + 1 } ?_ ?_ ?_
    · simp [Registry.call, Registry.beginPass, hopen]
    · rw [hnext]
      exact Draft.beginPass_eq_ok.mpr ⟨Linked.opened_view_eq_none hopen, rfl⟩
    · exact ⟨h.index, h.opened, h.shells⟩

theorem follows_closeClass (h : r.Linked) : r.Follows (.apply .closeClass) := by
  cases hopen : r.opened with
  | none =>
    have hleft : ({ r with opened := none } : Registry) = r := by rw [← hopen]
    refine follows_of_refused (e := .unmatchedClose) rfl ?_ ?_ h
    · simp [Registry.call, Registry.apply, Registry.closeClass, hopen, hleft]
    · simp [Draft.take, Draft.apply, Draft.closeClass, Linked.opened_view_eq_none hopen]
  | some i =>
    rcases h.opened i hopen with ⟨shell, hi⟩
    refine follows_of_accepted { r with opened := none } ?_ ?_ ?_
    · simp [Registry.call, Registry.apply, Registry.closeClass, hopen]
    · exact Draft.closeClass_eq_ok.mpr ⟨⟨_, Linked.opened_view hopen hi⟩, rfl⟩
    · exact ⟨h.index, by simp, h.shells⟩

theorem follows_openClass (h : r.Linked) (name : String) (parents : List String) :
    r.Follows (.apply (.openClass name parents)) := by
  cases hopen : r.opened with
  | some i =>
    rcases h.opened i hopen with ⟨shell, hi⟩
    refine follows_of_refused (e := .nestedClass name shell.cls.name) rfl ?_ ?_ h
    · simp [Registry.call, Registry.apply, Registry.openClass, hopen, withShell, hi]
    · simp [Draft.take, Draft.apply, Draft.openClass, Linked.opened_view hopen hi]
  | none =>
    have hclosed := Linked.opened_view_eq_none hopen
    cases hindex : r.byName.get? name with
    | some i =>
      rcases (h.index name i).mp hindex with ⟨shell, hi, rfl⟩
      have hfound := h.find?_view hi
      by_cases hnow : shell.openedIn = r.pass
      · refine follows_of_refused (e := .duplicateClass shell.cls.name) rfl ?_ ?_ h
        · simp [Registry.call, Registry.apply, Registry.openClass, hopen, hindex, withShell, hi,
            hnow]
        · have hsame : shell.view.openedIn = r.view.pass := congrArg UInt32.toNat hnow
          simp [Draft.take, Draft.apply, Draft.openClass, hclosed, hfound, hsame]
      · have hreopened : (r.setShell i (shell.reopen r.pass parents)).view =
            r.view.update shell.cls.name (·.reopen r.view.pass parents) :=
          h.view_setShell hi _ (shell.view_reopen r.pass parents)
            (shell.name_reopen r.pass parents)
        have hat : (r.setShell i (shell.reopen r.pass parents)).shells[i]? =
            some (shell.reopen r.pass parents) :=
          List.getElem?_set_self (List.getElem?_eq_some_iff.mp hi).1
        have hkept : (r.setShell i (shell.reopen r.pass parents)).Linked :=
          h.setShell hi (shell.name_reopen r.pass parents)
            ((h.shells shell (List.mem_of_getElem? hi)).reopen r.pass parents)
        refine follows_of_accepted
          { r.setShell i (shell.reopen r.pass parents) with opened := some i } ?_ ?_
          (hkept.mark hat)
        · simp [Registry.call, Registry.apply, Registry.openClass, hopen, hindex, withShell, hi,
            hnow]
        · refine Draft.openClass_eq_ok.mpr ⟨hclosed, Or.inl ⟨shell.view, hfound, ?_, ?_⟩⟩
          · exact fun heq => hnow (UInt32.toNat_inj.mp heq)
          · rw [Linked.view_mark hat, hreopened, shell.name_reopen]
    | none =>
      have hunknown := h.find?_view_eq_none hindex
      let shell : Shell := ⟨⟨r.shells.length, name, parents, [], false⟩, r.pass, []⟩
      have hstart : shell.Linked := Shell.linked_start r.shells.length parents r.pass
      have hat : (r.push shell).shells[r.shells.length]? = some shell :=
        List.getElem?_concat_length
      refine follows_of_accepted { r.push shell with opened := some r.shells.length } ?_ ?_
        ((h.push hstart hindex).mark hat)
      · simp [Registry.call, Registry.apply, Registry.openClass, hopen, hindex, shell]
      · refine Draft.openClass_eq_ok.mpr ⟨hclosed, Or.inr ⟨hunknown, ?_⟩⟩
        rw [Linked.view_mark hat]
        simp [Registry.view, Registry.push, Shell.view, shell]

theorem follows_declareField (h : r.Linked) (f : FieldDeclaration) :
    r.Follows (.apply (.field f)) := by
  cases hopen : r.opened with
  | none =>
    refine follows_of_refused (e := .fieldOutsideClass f.name) rfl ?_ ?_ h
    · simp [Registry.call, Registry.apply, Registry.declareField, hopen]
    · have hnone : r.view.openClass? = none := by
        rw [Draft.openClass?, Linked.opened_view_eq_none hopen, Option.bind_none]
      simp [Draft.take, Draft.apply, Draft.declareField, hnone]
  | some i =>
    rcases h.opened i hopen with ⟨shell, hi⟩
    have hshell := h.shells shell (List.mem_of_getElem? hi)
    have hview := h.openClass?_view hopen hi
    cases hpass : shell.fieldPasses.get? f.name with
    | none =>
      have hnone := hshell.field?_view_eq_none hpass
      refine follows_of_accepted (r.setShell i (shell.addField r.pass f)) ?_ ?_ ?_
      · simp [Registry.call, Registry.apply, Registry.declareField, hopen, withShell, hi, hpass]
      · have hadded := hshell.view_addField hpass r.pass
        exact Draft.declareField_eq_ok.mpr ⟨shell.view, hview, Or.inl ⟨hnone,
          h.view_setShell hi (·.addField r.pass.toNat f) hadded rfl⟩⟩
      · exact h.setShell hi rfl (hshell.addField r.pass f)
    | some declaredIn =>
      rcases hshell.exists_field?_view hpass with ⟨known, hknown, hin⟩
      by_cases hnow : declaredIn = r.pass
      · refine follows_of_refused (e := .duplicateField shell.cls.name f.name) rfl ?_ ?_ h
        · simp [Registry.call, Registry.apply, Registry.declareField, hopen, withShell, hi, hpass,
            hnow]
        · exact Draft.declareField_eq_error.mpr
            (Or.inr ⟨shell.view, known, hview, hknown, by rw [hin, hnow]; rfl, rfl⟩)
      · refine follows_of_accepted r ?_ ?_ h
        · simp [Registry.call, Registry.apply, Registry.declareField, hopen, withShell, hi, hpass,
            hnow]
        · refine Draft.declareField_eq_ok.mpr
            ⟨shell.view, hview, Or.inr ⟨known, hknown, ?_, rfl⟩⟩
          rw [hin]
          exact fun heq => hnow (UInt32.toNat_inj.mp heq)

theorem follows_apply (h : r.Linked) (declaration : Declaration) :
    r.Follows (.apply declaration) := by
  cases declaration with
  | openClass name parents => exact follows_openClass h name parents
  | field f => exact follows_declareField h f
  | closeClass => exact follows_closeClass h

/-- Declarations taken in turn go as on the draft, up to the first that is refused. -/
theorem follows_applyAll (h : r.Linked) (declarations : List Declaration) :
    r.Follows (.applyAll declarations) := by
  induction declarations generalizing r with
  | nil => exact follows_of_accepted r rfl rfl h
  | cons declaration rest ih =>
    have hfirst := follows_apply h declaration
    cases htake : r.view.take (.apply declaration) with
    | ok next =>
      rcases hfirst.of_accepted htake with ⟨left, hcall, rfl, hleft⟩
      have hstep : r.call (.applyAll (declaration :: rest)) = left.call (.applyAll rest) := by
        have happly : r.apply declaration = (.ok (), left) := hcall
        simp only [Registry.call, Registry.applyAll, happly]
      have htakes : r.view.take (.applyAll (declaration :: rest)) =
          left.view.take (.applyAll rest) := by
        have happly : r.view.apply declaration = .ok left.view := htake
        rw [Draft.take, Draft.declare_cons, happly]
        rfl
      have hafter : r.view.after (.applyAll (declaration :: rest)) =
          left.view.after (.applyAll rest) := by
        have happly : r.view.apply declaration = .ok left.view := htake
        simp only [Draft.after, Draft.applyAll, happly]
      have hrest := ih hleft
      constructor
      · rw [hstep, htakes]
        exact hrest.outcome
      · rw [hstep, hafter]
        exact hrest.view
      · rw [hstep]
        exact hrest.linked
    | error e =>
      rcases hfirst.of_refused htake with ⟨left, hcall, hview, hleft⟩
      have happly : r.apply declaration = (.error (.refused e), left) := hcall
      have hrefused : r.view.apply declaration = .error e := htake
      constructor
      · rw [Draft.take, Draft.declare_cons, hrefused]
        simp only [Registry.call, Registry.applyAll, happly]
        rfl
      · have hsame : left.view = r.view := by rw [hview, Draft.after_of_refused rfl htake]
        simp only [Registry.call, Registry.applyAll, happly, Draft.after, Draft.applyAll, hrefused,
          hsame]
      · simp only [Registry.call, Registry.applyAll, happly]
        exact hleft

/-- So goes every call, as long as passes can be counted. -/
theorem follows (h : r.Linked) (hroom : (r.view.after call).pass < 2 ^ 32) : r.Follows call := by
  cases call with
  | beginPass =>
    refine follows_beginPass h ?_
    intro hopen
    have hnext := Draft.after_beginPass
      (Draft.beginPass_eq_ok.mpr ⟨Linked.opened_view_eq_none hopen, rfl⟩)
    rw [hnext] at hroom
    exact hroom
  | apply declaration => exact follows_apply h declaration
  | applyAll declarations => exact follows_applyAll h declarations

end Calls

/-! ## Runs -/

end Registry

namespace Draft

/-- Passes are only ever begun. -/
theorem pass_le_after (draft : Draft) (call : Call) : draft.pass ≤ (draft.after call).pass := by
  cases call with
  | beginPass =>
    cases hbegun : draft.beginPass with
    | ok next =>
      rw [after_beginPass hbegun, (beginPass_eq_ok.mp hbegun).2]
      exact Nat.le_succ draft.pass
    | error e =>
      have htake : draft.take .beginPass = .error e := hbegun
      rw [after_of_refused rfl htake]
  | apply declaration =>
    cases htake : draft.take (.apply declaration) with
    | ok next => rw [after_of_take htake, pass_apply htake]
    | error e => rw [after_of_refused rfl htake]
  | applyAll declarations =>
    suffices (draft.applyAll declarations).1.pass = draft.pass from this.ge
    induction declarations generalizing draft with
    | nil => rfl
    | cons declaration rest ih =>
      cases happly : draft.apply declaration with
      | ok next => rw [applyAll, happly, ih, pass_apply happly]
      | error e => rw [applyAll, happly]

theorem pass_le_run (draft : Draft) (calls : List Call) : draft.pass ≤ (draft.run calls).pass := by
  induction calls generalizing draft with
  | nil => exact Nat.le_refl _
  | cons call rest ih => exact (draft.pass_le_after call).trans (ih (draft.after call))

end Draft

namespace Registry

variable {r : Registry}

/-- Calls on a registry lead where they lead from the draft that it keeps. -/
theorem view_leaves (h : r.Linked) (calls : List Call)
    (hroom : (r.view.run calls).pass < 2 ^ 32) :
    (r.leaves calls).view = r.view.run calls ∧ (r.leaves calls).Linked := by
  induction calls generalizing r with
  | nil => exact ⟨rfl, h⟩
  | cons call rest ih =>
    rw [Draft.run_cons] at hroom ⊢
    have hcall : r.Follows call :=
      follows h (((r.view.after call).pass_le_run rest).trans_lt hroom)
    rw [← hcall.view] at hroom ⊢
    exact ih hcall.linked hroom

end Registry

/-! ## What holds of every registry -/

/-- What holds of the class at a position, by the end of a pass. -/
structure Shell.Sound (i : Nat) (pass : UInt32) (shell : Shell) : Prop where
  id : shell.cls.id = i
  kept : shell.Linked
  distinct : (shell.cls.ownFields.map Field.name).Nodup
  owned : ∀ field ∈ shell.cls.ownFields, field.owner = i
  past : ∀ name declaredIn, shell.fieldPasses.get? name = some declaredIn → declaredIn ≤ pass
  opened : shell.openedIn ≤ pass

/-- How the parts of a registry fit together. -/
structure Registry.Sound (r : Registry) : Prop where
  index : ∀ name i, r.byName.get? name = some i ↔
    ∃ shell, r.shells[i]? = some shell ∧ shell.cls.name = name
  distinct : (r.shells.map fun shell => shell.cls.name).Nodup
  shells : ∀ i (shell : Shell), r.shells[i]? = some shell → shell.Sound i r.pass
  opened : ∀ i, r.opened = some i → ∃ shell, r.shells[i]? = some shell ∧ shell.openedIn = r.pass

namespace Registry

/-- Where the parts fit the classes and the draft is sound, the parts fit together. -/
theorem Linked.sound {r : Registry} (h : r.Linked) (hview : r.view.Sound) : r.Sound where
  index := h.index
  distinct := by
    have hnames : r.view.classes.map DraftClass.name =
        r.shells.map fun shell => shell.cls.name := by
      simp [Registry.view, Function.comp_def, Shell.view]
    exact hnames ▸ hview.distinct
  shells := by
    intro i shell hi
    have hat : r.view.classes[i]? = some shell.view := by simp [Registry.view, hi]
    have hshell := h.shells shell (List.mem_of_getElem? hi)
    have hsound := hview.classes shell.view (List.mem_of_getElem? hat)
    have hid : shell.cls.id = i := hview.id_eq_of_getElem? hat
    constructor
    · exact hid
    · exact hshell
    · rw [← shell.map_field_view, List.map_map]
      exact hsound.distinct
    · intro field hfield
      rw [← shell.map_field_view] at hfield
      rcases List.mem_map.mp hfield with ⟨known, hknown, rfl⟩
      exact (hsound.owned known hknown).trans hid
    · intro name declaredIn hpass
      rcases hshell.exists_field?_view hpass with ⟨known, hknown, hin⟩
      have hpast := hsound.past known (List.mem_of_find?_eq_some hknown)
      rw [hin] at hpast
      exact UInt32.le_iff_toNat_le.mpr hpast
    · exact UInt32.le_iff_toNat_le.mpr hsound.opened
  opened := by
    intro i hopen
    rcases h.opened i hopen with ⟨shell, hi⟩
    rcases hview.opened _ (opened_view hopen hi) with ⟨cls, hcls, hname, hnow⟩
    have hfound := hview.find?_name hcls
    rw [hname, h.find?_view hi] at hfound
    obtain rfl := Option.some.inj hfound
    exact ⟨shell, hi, UInt32.toNat_inj.mp hnow⟩

/-- Whatever calls are made on a new registry, refused ones included, the parts of the registry fit
together in the end, as long as passes can be counted. The registry then keeps the draft that the
calls lead to, and each of them has come to what it comes to on the draft; so no look-up has gone
astray. -/
theorem sound_leaves (name : String) (qualifier : Option String) (calls : List Call)
    (hroom : ((Draft.start name qualifier).run calls).pass < 2 ^ 32) :
    ((start name qualifier).leaves calls).Sound ∧
      ((start name qualifier).leaves calls).view = (Draft.start name qualifier).run calls ∧
      ∀ earlier call later, calls = earlier ++ call :: later →
        (((start name qualifier).leaves earlier).call call).1 =
          guarded ((((Draft.start name qualifier).run earlier).take call).map fun _ => ()) := by
  have hnew := linked_new name qualifier
  have hstart : (start name qualifier).view = Draft.start name qualifier := rfl
  rcases view_leaves hnew calls hroom with ⟨hview, hlinked⟩
  refine ⟨hlinked.sound ?_, hview, ?_⟩
  · rw [hview]
    exact Draft.sound_run name qualifier calls
  · rintro earlier call later rfl
    have hrun : (Draft.start name qualifier).run (earlier ++ call :: later) =
        (((Draft.start name qualifier).run earlier).after call).run later := by
      rw [Draft.run, List.foldl_append]
      rfl
    rw [hrun] at hroom
    -- passes are only ever begun, so there was room for them at each call before the last
    have hcall := (Draft.pass_le_run _ later).trans_lt hroom
    have hbefore := (Draft.pass_le_after _ call).trans_lt hcall
    rcases view_leaves hnew earlier hbefore with ⟨hmid, hlinkedmid⟩
    have hfollows : ((start name qualifier).leaves earlier).Follows call := by
      refine follows hlinkedmid ?_
      rw [hmid]
      exact hcall
    rw [hfollows.outcome, hmid, hstart]

/-- Of eight calls four are refused; the box is found under its name and at its position, and a lid
cannot be opened in it. -/
theorem sound_leaves_box :
    ((Draft.start "boxes" none).run Draft.boxCalls).pass < 2 ^ 32 ∧
      ((start "boxes" none).leaves Draft.boxCalls).Sound ∧
      ((start "boxes" none).leaves Draft.boxCalls).byName.get? "Box" = some 0 ∧
      (((start "boxes" none).leaves (Draft.boxCalls.take 2)).call
        (.apply (.openClass "Lid" []))).1 = .error (.refused (.nestedClass "Lid" "Box")) := by
  have hroom : ((Draft.start "boxes" none).run Draft.boxCalls).pass < 2 ^ 32 := by decide
  rcases sound_leaves "boxes" none Draft.boxCalls hroom with ⟨hsound, -, houtcome⟩
  refine ⟨hroom, hsound, rfl, ?_⟩
  exact houtcome (Draft.boxCalls.take 2) _ (Draft.boxCalls.drop 3) rfl

end Registry

end ClassModel
