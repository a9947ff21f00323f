import ClassModel.Proofs.Except
import ClassModel.Proofs.Schema.Run

/-!
# What passes are for

A draft numbers its passes and marks classes and fields with these numbers. It only ever looks at
whether a mark is that of the present pass, and then refuses. So of two drafts with the same classes
one accepts what the other accepts, if it has no more marks of its present pass.

* `Draft.Relaxes` — the same classes, and no more marks of the present pass;
* `Draft.Relaxes.apply` — a draft that relaxes another accepts what the other accepts, and refuses
  something only as the other does;
* `Draft.Alike` — the same classes, whatever the marks;
* `Draft.Alike.pass` — drafts that are alike take the declarations of a whole pass alike, since no
  mark of the past is of the pass that begins.
-/

namespace ClassModel

/-- A field is that of another class, and of the present pass only if the other is of its own. -/
def DraftField.Relaxes (pass other : Nat) (f g : DraftField) : Prop :=
  f.field = g.field ∧ (f.pass = pass → g.pass = other)

/-- A class is as another one, with no more marks of the present pass. -/
structure DraftClass.Relaxes (pass other : Nat) (cls old : DraftClass) : Prop where
  id : cls.id = old.id
  name : cls.name = old.name
  parentNames : cls.parentNames = old.parentNames
  opened : cls.openedIn = pass → old.openedIn = other
  fields : List.Forall₂ (DraftField.Relaxes pass other) cls.fields old.fields

/-- A draft is as another one, with no more marks of the present pass. -/
structure Draft.Relaxes (draft old : Draft) : Prop where
  name : draft.name = old.name
  qualifier : draft.qualifier = old.qualifier
  opened : draft.opened = old.opened
  classes : List.Forall₂ (DraftClass.Relaxes draft.pass old.pass) draft.classes old.classes

/-! ## One class -/

namespace DraftClass

theorem parentNames_addParent (cls : DraftClass) (parent : String) :
    (cls.addParent parent).parentNames =
      if parent ∈ cls.parentNames then cls.parentNames else cls.parentNames ++ [parent] := by
  unfold addParent
  split
  · rfl
  · rfl

theorem parentNames_foldl_addParent {cls old : DraftClass}
    (h : cls.parentNames = old.parentNames) (parents : List String) :
    (parents.foldl addParent cls).parentNames = (parents.foldl addParent old).parentNames := by
  induction parents generalizing cls old with
  | nil => exact h
  | cons parent rest ih =>
    apply ih
    rw [parentNames_addParent, parentNames_addParent, h]

namespace Relaxes

variable {pass other : Nat} {cls old : DraftClass}

theorem field? (h : cls.Relaxes pass other old) (name : String) :
    Option.Rel (DraftField.Relaxes pass other) (cls.field? name) (old.field? name) :=
  rel_find? (fun f g hfg => by rw [hfg.1]) h.fields

theorem reopen (h : cls.Relaxes pass other old) (parents : List String) :
    (cls.reopen pass parents).Relaxes pass other (old.reopen other parents) where
  id := by simpa using h.id
  name := by simpa using h.name
  parentNames :=
    @parentNames_foldl_addParent { cls with openedIn := pass } { old with openedIn := other }
      h.parentNames parents
  opened := by simp
  fields := by simpa using h.fields

theorem addField (h : cls.Relaxes pass other old) (f : FieldDeclaration) :
    (cls.addField pass f).Relaxes pass other (old.addField other f) where
  id := h.id
  name := h.name
  parentNames := h.parentNames
  opened := h.opened
  fields := by
    refine List.rel_append h.fields (.cons ⟨?_, fun _ => rfl⟩ .nil)
    rw [h.id]

end Relaxes

end DraftClass

namespace Draft

/-- The outcome of a call, and that of the same call on a draft with more marks of its present pass:
the call may be spared a refusal. -/
inductive Eased : Except SchemaError Draft → Except SchemaError Draft → Prop
  | accepted {draft old : Draft} (h : draft.Relaxes old) : Eased (.ok draft) (.ok old)
  | refused (e : SchemaError) : Eased (.error e) (.error e)
  | spared (draft : Draft) (e : SchemaError) : Eased (.ok draft) (.error e)

namespace Relaxes

variable {draft old : Draft}

theorem find? (h : draft.Relaxes old) (name : String) :
    Option.Rel (DraftClass.Relaxes draft.pass old.pass) (draft.find? name) (old.find? name) :=
  rel_find? (fun cls cls' hcls => by rw [hcls.name]) h.classes

theorem openClass? (h : draft.Relaxes old) :
    Option.Rel (DraftClass.Relaxes draft.pass old.pass) draft.openClass? old.openClass? := by
  unfold Draft.openClass?
  rw [h.opened]
  cases old.opened with
  | none => exact .none
  | some name => exact h.find? name

theorem update (h : draft.Relaxes old) (name : String) {change change' : DraftClass → DraftClass}
    (hchange : ∀ cls cls', cls.Relaxes draft.pass old.pass cls' →
      (change cls).Relaxes draft.pass old.pass (change' cls')) :
    (draft.update name change).Relaxes (old.update name change') where
  name := h.name
  qualifier := h.qualifier
  opened := h.opened
  classes := by
    refine List.rel_map (fun cls cls' hcls => ?_) h.classes
    rw [hcls.name]
    split
    · exact hchange cls cls' hcls
    · exact hcls

theorem openClass (h : draft.Relaxes old) (name : String) (parents : List String) :
    Eased (draft.openClass name parents) (old.openClass name parents) := by
  unfold Draft.openClass
  rw [h.opened]
  cases old.opened with
  | some outer => exact .refused _
  | none =>
    -- both drafts find the class, or neither does
    have hfound := h.find? name
    generalize draft.find? name = found at hfound ⊢
    generalize old.find? name = found' at hfound ⊢
    cases hfound with
    | none =>
      refine .accepted ⟨h.name, h.qualifier, rfl, ?_⟩
      refine List.rel_append h.classes (.cons ?_ .nil)
      exact ⟨h.classes.length_eq, rfl, rfl, fun _ => rfl, .nil⟩
    | @some cls cls' hcls =>
      by_cases hnow : cls.openedIn = draft.pass
      · simp only [hnow, hcls.opened hnow, ↓reduceIte]
        exact .refused _
      · have hnext := h.update name fun cls cls' hcls => hcls.reopen parents
        simp only [hnow, ↓reduceIte]
        split
        · exact .spared _ _
        · exact .accepted ⟨hnext.name, hnext.qualifier, rfl, hnext.classes⟩

theorem declareField (h : draft.Relaxes old) (f : FieldDeclaration) :
    Eased (draft.declareField f) (old.declareField f) := by
  unfold Draft.declareField
  have hopen := h.openClass?
  generalize draft.openClass? = found at hopen ⊢
  generalize old.openClass? = found' at hopen ⊢
  cases hopen with
  | none => exact .refused _
  | @some cls cls' hcls =>
    -- both classes have the field, or neither has
    have hfield := hcls.field? f.name
    simp only [hcls.name]
    generalize cls.field? f.name = known at hfield ⊢
    generalize cls'.field? f.name = known' at hfield ⊢
    cases hfield with
    | none => exact .accepted (h.update cls'.name fun cls cls' hcls => hcls.addField f)
    | @some known known' hknown =>
      by_cases hnow : known.pass = draft.pass
      · simp only [hnow, hknown.2 hnow, ↓reduceIte]
        exact .refused _
      · simp only [hnow, ↓reduceIte]
        split
        · exact .spared _ _
        · exact .accepted h

theorem closeClass (h : draft.Relaxes old) : Eased draft.closeClass old.closeClass := by
  unfold Draft.closeClass
  rw [h.opened]
  cases old.opened with
  | none => exact .refused _
  | some name => exact .accepted ⟨h.name, h.qualifier, rfl, h.classes⟩

/-- A draft that relaxes another accepts what the other accepts. -/
theorem apply (h : draft.Relaxes old) (declaration : Declaration) :
    Eased (draft.apply declaration) (old.apply declaration) := by
  cases declaration with
  | openClass name parents => exact h.openClass name parents
  | field f => exact h.declareField f
  | closeClass => exact h.closeClass

end Relaxes

/-! ## Drafts with one set of marks -/

/-- Two drafts are the same but for the numbers of their passes. -/
def Peer (draft other : Draft) : Prop := draft.Relaxes other ∧ other.Relaxes draft

theorem Eased.agree {x y : Except SchemaError Draft} (h : Eased x y) (h' : Eased y x) :
    Agree Peer x y := by
  cases h with
  | accepted hxy =>
    cases h' with
    | accepted hyx => exact .ok ⟨hxy, hyx⟩
  | refused e => exact .error e
  | spared draft e => cases h'

theorem Peer.apply {draft other : Draft} (h : draft.Peer other) (declaration : Declaration) :
    Agree Peer (draft.apply declaration) (other.apply declaration) :=
  (h.1.apply declaration).agree (h.2.apply declaration)

theorem Peer.declare {draft other : Draft} (h : draft.Peer other)
    (declarations : List Declaration) :
    Agree Peer (draft.declare declarations) (other.declare declarations) := by
  induction declarations generalizing draft other with
  | nil => exact .ok h
  | cons declaration rest ih =>
    rw [declare_cons, declare_cons]
    exact (h.apply declaration).bind fun _ _ => ih

/-! ## Drafts with the same classes -/

/-- Two drafts have declared the same, in whatever passes. -/
structure Alike (draft other : Draft) : Prop where
  name : draft.name = other.name
  qualifier : draft.qualifier = other.qualifier
  opened : draft.opened = other.opened
  classes : draft.classes.map DraftClass.declared = other.classes.map DraftClass.declared

/-- No class or field is of the present pass. -/
def Unmarked (draft : Draft) : Prop :=
  ∀ cls ∈ draft.classes, cls.openedIn ≠ draft.pass ∧ ∀ f ∈ cls.fields, f.pass ≠ draft.pass

theorem Sound.unmarked {draft next : Draft} (h : draft.Sound) (hnext : draft.beginPass = .ok next) :
    next.Unmarked := by
  rcases beginPass_eq_ok.mp hnext with ⟨-, rfl⟩
  intro cls hcls
  have hpast := h.classes cls hcls
  refine ⟨?_, fun f hf => ?_⟩
  · have hopened := hpast.opened
    simp only
    omega
  · have hfield := hpast.past f hf
    simp only
    omega

end Draft

/-! ## One class, whatever the marks -/

theorem DraftClass.relaxes_of_declared {cls old : DraftClass} {pass other : Nat}
    (h : cls.declared = old.declared) (hopened : cls.openedIn ≠ pass)
    (hfields : ∀ f ∈ cls.fields, f.pass ≠ pass) : cls.Relaxes pass other old := by
  simp only [declared, DeclaredClass.mk.injEq] at h
  obtain ⟨hid, hname, hparents, hown, -⟩ := h
  refine ⟨hid, hname, hparents, fun hnow => absurd hnow hopened, ?_⟩
  have hsame := map_eq_map_iff_forall₂.mp hown
  refine ((List.forall₂_and_left cls.fields old.fields).mpr ⟨hfields, hsame⟩).imp ?_
  rintro f g ⟨hpast, hfield⟩
  exact ⟨hfield, fun hnow => absurd hnow hpast⟩

theorem DraftClass.Relaxes.declared {cls old : DraftClass} {pass other : Nat}
    (h : cls.Relaxes pass other old) : cls.declared = old.declared := by
  have hown : cls.fields.map DraftField.field = old.fields.map DraftField.field :=
    map_eq_map_iff_forall₂.mpr (h.fields.imp fun f g hfg => hfg.1)
  simp only [DraftClass.declared, h.id, h.name, h.parentNames, hown]

namespace Draft

variable {draft other : Draft}

theorem Relaxes.alike (h : draft.Relaxes other) : draft.Alike other where
  name := h.name
  qualifier := h.qualifier
  opened := h.opened
  classes := map_eq_map_iff_forall₂.mpr (h.classes.imp fun _ _ hcls => hcls.declared)

namespace Alike

theorem symm (h : draft.Alike other) : other.Alike draft :=
  ⟨h.name.symm, h.qualifier.symm, h.opened.symm, h.classes.symm⟩

theorem trans {third : Draft} (h : draft.Alike other) (h' : other.Alike third) :
    draft.Alike third :=
  ⟨h.name.trans h'.name, h.qualifier.trans h'.qualifier, h.opened.trans h'.opened,
    h.classes.trans h'.classes⟩

theorem relaxes (h : draft.Alike other) (hunmarked : draft.Unmarked) : draft.Relaxes other := by
  refine ⟨h.name, h.qualifier, h.opened, ?_⟩
  have hclasses := map_eq_map_iff_forall₂.mp h.classes
  refine ((List.forall₂_and_left draft.classes other.classes).mpr ⟨hunmarked, hclasses⟩).imp ?_
  rintro cls old ⟨⟨hopened, hfields⟩, hsame⟩
  exact DraftClass.relaxes_of_declared hsame hopened hfields

/-- With the next pass all marks become marks of the past. -/
theorem beginPass (h : draft.Alike other) (hsound : draft.Sound) (hother : other.Sound) :
    Agree Peer draft.beginPass other.beginPass := by
  cases hopened : draft.opened with
  | some name =>
    simp only [Draft.beginPass, hopened, ← h.opened]
    exact .error _
  | none =>
    have hnext : draft.beginPass = .ok { draft with pass := draft.pass + 1 } :=
      beginPass_eq_ok.mpr ⟨hopened, rfl⟩
    have hnext' : other.beginPass = .ok { other with pass := other.pass + 1 } :=
      beginPass_eq_ok.mpr ⟨h.opened ▸ hopened, rfl⟩
    have hsame : ({ draft with pass := draft.pass + 1 } : Draft).Alike
        { other with pass := other.pass + 1 } := ⟨h.name, h.qualifier, h.opened, h.classes⟩
    rw [hnext, hnext']
    exact .ok ⟨hsame.relaxes (hsound.unmarked hnext), hsame.symm.relaxes (hother.unmarked hnext')⟩

/-- Drafts that are alike take the declarations of the next pass alike. -/
theorem pass (h : draft.Alike other) (hsound : draft.Sound) (hother : other.Sound)
    (declarations : List Declaration) :
    Agree Peer (draft.beginPass >>= fun next => next.declare declarations)
      (other.beginPass >>= fun next => next.declare declarations) :=
  (h.beginPass hsound hother).bind fun _ _ hnext => hnext.declare declarations

theorem finish (h : draft.Alike other) : draft.finish = other.finish := by
  unfold Draft.finish
  rw [h.name, h.qualifier, h.opened, h.classes]

end Alike

end Draft

end ClassModel
