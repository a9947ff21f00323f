import ClassModel.Proofs.Model.Built
import ClassModel.Report.Description

/-!
# The subclass order

Whether a class is a subclass of another is read off its chain. Here that is compared with the way
up over parents: a class extends another directly when that is one of its resolved parents, and the
subclass relation is the reflexive and transitive closure of this.

* `Model.Sound.isSubclassOf_iff` — a subclass is a class from which the other can be reached;
* `Model.Sound.isSubclassOf_antisymm` — no two classes are subclasses of each other;
* `Model.subclassOrder` — all of it together, with the questions asked downwards and the lists that
  a description gives.
-/

namespace ClassModel

namespace Model

/-- A class extends another directly when that is one of its resolved parents. -/
def Extends (m : Model) (cls parent : Class) : Prop := parent ∈ m.classesAt cls.parents

namespace Sound

variable {m : Model} {cls other parent : Class}

/-! ## Direct parents -/

theorem above_parents (hm : m.Sound) (hcls : cls ∈ m.classes) :
    Ancestry.above m.parents cls.id = cls.parents := by
  have hat : m.classes[cls.id]? = some cls := hm.classAt?_eq_some.mpr ⟨hcls, rfl⟩
  simp [Ancestry.above, Model.parents, hat]

/-- The parents of a class are what its parent names resolve to. -/
theorem extends_iff_class? (hm : m.Sound) (hcls : cls ∈ m.classes) :
    m.Extends cls parent ↔ ∃ name ∈ cls.parentNames, m.class? name = some parent := by
  have hresolved := hm.parents cls hcls
  rw [Extends, hm.mem_classesAt]
  constructor
  · rintro ⟨hparent, hid⟩
    rcases exists_left_of_forall₂ hresolved hid with ⟨name, hname, hresolve⟩
    rcases hm.class?_of_resolve? hresolve with ⟨found, hfound, hfoundId, hclass⟩
    rcases hm.eq_of_id_eq hfound hparent hfoundId with rfl
    exact ⟨name, hname, hclass⟩
  · rintro ⟨name, hname, hclass⟩
    rcases exists_right_of_forall₂ hresolved hname with ⟨id, hid, hresolve⟩
    rcases hm.class?_of_resolve? hresolve with ⟨found, hfound, rfl, hclass'⟩
    rcases Option.some.inj (hclass.symm.trans hclass') with rfl
    exact ⟨hfound, hid⟩

theorem exists_parent (hm : m.Sound) (hcls : cls ∈ m.classes) {id : ClassId}
    (h : id ∈ cls.parents) : ∃ parent ∈ m.classes, parent.id = id := by
  rcases exists_left_of_forall₂ (hm.parents cls hcls) h with ⟨name, -, hresolve⟩
  rcases hm.class?_of_resolve? hresolve with ⟨parent, hparent, hid, -⟩
  exact ⟨parent, hparent, hid⟩

theorem extends_iff_id (hm : m.Sound) (hcls : cls ∈ m.classes) (hparent : parent ∈ m.classes) :
    m.Extends cls parent ↔ Ancestry.Extends m.parents cls.id parent.id := by
  rw [Extends, hm.mem_classesAt, Ancestry.Extends, hm.above_parents hcls]
  exact and_iff_right hparent

/-! ## The way up -/

/-- A way up between positions is one between classes, also when only some classes may be left
upwards. -/
theorem way_of_id (hm : m.Sound) {keep : Class → Prop} {keepAt : ClassId → Prop}
    (hkeep : ∀ cls ∈ m.classes, keepAt cls.id → keep cls) (hcls : cls ∈ m.classes)
    (hother : other ∈ m.classes)
    (h : Relation.ReflTransGen (fun id parent => Ancestry.Extends m.parents id parent ∧ keepAt id)
      cls.id other.id) :
    Relation.ReflTransGen (fun cls parent => m.Extends cls parent ∧ keep cls) cls other := by
  generalize hid : cls.id = id at h
  induction h using Relation.ReflTransGen.head_induction_on generalizing cls with
  | refl =>
    rcases hm.eq_of_id_eq hcls hother hid with rfl
    exact .refl
  | head hstep _ ih =>
    subst hid
    rcases hstep with ⟨habove, hkept⟩
    -- a parent's position is that of a class, since it comes from a name that resolves
    rw [Ancestry.Extends, hm.above_parents hcls] at habove
    rcases hm.exists_parent hcls habove with ⟨parent, hparent, rfl⟩
    have hextends : m.Extends cls parent := hm.mem_classesAt.mpr ⟨hparent, habove⟩
    exact .head ⟨hextends, hkeep cls hcls hkept⟩ (ih hparent rfl)

/-- The way up between classes is the way up between their positions. -/
theorem reflTransGen_iff_id (hm : m.Sound) (hcls : cls ∈ m.classes) (hother : other ∈ m.classes) :
    Relation.ReflTransGen m.Extends cls other ↔
      Relation.ReflTransGen (Ancestry.Extends m.parents) cls.id other.id := by
  constructor
  · intro h
    induction h using Relation.ReflTransGen.head_induction_on with
    | refl => exact .refl
    | head hstep _ ih =>
      have hparent := (hm.mem_classesAt.mp hstep).1
      exact .head ((hm.extends_iff_id hcls hparent).1 hstep) (ih hparent)
  · intro h
    have hway : Relation.ReflTransGen
        (fun id parent => Ancestry.Extends m.parents id parent ∧ True) cls.id other.id := by
      simpa only [and_true] using h
    simpa only [and_true] using hm.way_of_id (fun _ _ _ => trivial) hcls hother hway

theorem mem_ancestors_iff (hm : m.Sound) (hcls : cls ∈ m.classes) {id : ClassId} :
    id ∈ cls.ancestors ↔ Relation.ReflTransGen (Ancestry.Extends m.parents) cls.id id :=
  (hm.ancestors cls hcls).mem_iff

/-- A class is a subclass of another exactly when that can be reached from it over parents. -/
theorem isSubclassOf_iff (hm : m.Sound) (hcls : cls ∈ m.classes) (hother : other ∈ m.classes) :
    cls.isSubclassOf other ↔ Relation.ReflTransGen m.Extends cls other := by
  rw [hm.reflTransGen_iff_id hcls hother, ← hm.mem_ancestors_iff hcls]
  simp [Class.isSubclassOf]

theorem isSubclassOf_iff_mem (hm : m.Sound) (hother : other ∈ m.classes) :
    cls.isSubclassOf other ↔ other ∈ m.classesAt cls.ancestors := by
  rw [hm.mem_classesAt]
  simp [Class.isSubclassOf, hother]

theorem isSubclassOf_refl (hm : m.Sound) (hcls : cls ∈ m.classes) : cls.isSubclassOf cls :=
  (hm.isSubclassOf_iff hcls hcls).2 .refl

theorem isSubclassOf_trans (hm : m.Sound) {third : Class} (hcls : cls ∈ m.classes)
    (hother : other ∈ m.classes) (hthird : third ∈ m.classes) (h : cls.isSubclassOf other)
    (h' : other.isSubclassOf third) : cls.isSubclassOf third := by
  rw [hm.isSubclassOf_iff hcls hother] at h
  rw [hm.isSubclassOf_iff hother hthird] at h'
  exact (hm.isSubclassOf_iff hcls hthird).2 (h.trans h')

/-- Two classes that are subclasses of each other are one class: otherwise they would be on a
circle. -/
theorem isSubclassOf_antisymm (hm : m.Sound) (hcls : cls ∈ m.classes) (hother : other ∈ m.classes)
    (h : cls.isSubclassOf other) (h' : other.isSubclassOf cls) : cls = other := by
  rw [hm.isSubclassOf_iff hcls hother, hm.reflTransGen_iff_id hcls hother] at h
  rw [hm.isSubclassOf_iff hother hcls, hm.reflTransGen_iff_id hother hcls] at h'
  apply hm.eq_of_id_eq hcls hother
  rcases Relation.reflTransGen_iff_eq_or_transGen.mp h with heq | hup
  · exact heq.symm
  · -- there and back again is a circle, which no class with a chain is on
    have hcircle := hup.trans_left h'
    exact absurd hcircle (hm.ancestors cls hcls).not_transGen

/-! ## Questions asked downwards -/

/-- The subclasses of a class, asked for by name. -/
theorem subclassesOf_name (hm : m.Sound) (hcls : cls ∈ m.classes) :
    m.subclassesOf cls.name = .ok (m.classes.filter (·.isSubclassOf cls)) := by
  simp [subclassesOf, hm.getClass_name hcls, bind, Except.bind, pure, Except.pure]

/-- Classes taken from a model in order rise by their ids. -/
theorem rising_ids (hm : m.Sound) (keep : Class → Bool) :
    ((m.classes.filter keep).map fun cls => cls.id).Pairwise (· < ·) := by
  have hsub : ((m.classes.filter keep).map fun cls => cls.id).Sublist
      (m.classes.map fun cls => cls.id) := List.filter_sublist.map _
  rw [hm.ids] at hsub
  exact List.pairwise_lt_range.sublist hsub

/-- A description of a class lists the chain of the class and the other classes below it. -/
theorem describe_of_class? (hm : m.Sound) {name : String} (h : m.class? name = some cls) :
    ∃ d, m.describe name = .ok d ∧
      d.ancestors = (m.classesAt cls.ancestors).map (fun cls => cls.name) ∧
      d.subclasses = ((m.classes.filter (·.isSubclassOf cls)).filter
        fun other => other.id ≠ cls.id).map (fun cls => cls.name) := by
  have hcls : cls ∈ m.classes := hm.mem_of_class? h
  unfold describe
  rw [getClass_eq_ok.mpr h]
  simp only [bind, Except.bind, hm.subclassesOf_name hcls]
  exact ⟨_, rfl, rfl, rfl⟩

theorem name_mem_ancestors_iff (hm : m.Sound) (hother : other ∈ m.classes) :
    other.name ∈ (m.classesAt cls.ancestors).map (fun cls => cls.name) ↔
      cls.isSubclassOf other := by
  rw [hm.isSubclassOf_iff_mem hother, List.mem_map]
  constructor
  · rintro ⟨found, hfound, hname⟩
    rcases hm.eq_of_name_eq (hm.mem_classesAt.mp hfound).1 hother hname with rfl
    exact hfound
  · intro h
    exact ⟨other, h, rfl⟩

theorem name_mem_subclasses_iff (hm : m.Sound) (hcls : cls ∈ m.classes)
    (hother : other ∈ m.classes) :
    other.name ∈ ((m.classes.filter (·.isSubclassOf cls)).filter
      fun other => other.id ≠ cls.id).map (fun cls => cls.name) ↔
        other.isSubclassOf cls ∧ cls ≠ other := by
  simp only [List.mem_map, List.mem_filter, decide_eq_true_eq]
  constructor
  · rintro ⟨found, ⟨⟨hfound, hsub⟩, hne⟩, hname⟩
    rcases hm.eq_of_name_eq hfound hother hname with rfl
    refine ⟨hsub, ?_⟩
    intro heq
    exact hne (heq ▸ rfl)
  · rintro ⟨hsub, hne⟩
    have hid : other.id ≠ cls.id := by
      intro hid
      exact hne (hm.eq_of_id_eq hcls hother hid.symm)
    exact ⟨other, ⟨⟨hother, hsub⟩, hid⟩, rfl⟩

end Sound

/-- Subclassing is the reflexive and transitive closure of the resolved parent links, and a partial
order on the classes of a built model. The subclasses of a class are those with the class in their
chains, in the order of their ids. A description lists the chain of its class and the other classes
below it, so that descriptions tell the same upwards and downwards. -/
theorem subclassOrder {m : Model} (hm : m.Built) :
    (∀ a ∈ m.classes, ∀ p, m.Extends a p ↔ ∃ name ∈ a.parentNames, m.class? name = some p) ∧
    (∀ a ∈ m.classes, ∀ b ∈ m.classes,
      a.isSubclassOf b ↔ Relation.ReflTransGen m.Extends a b) ∧
    (∀ a ∈ m.classes, a.isSubclassOf a) ∧
    (∀ a ∈ m.classes, ∀ b ∈ m.classes, ∀ c ∈ m.classes,
      a.isSubclassOf b → b.isSubclassOf c → a.isSubclassOf c) ∧
    (∀ a ∈ m.classes, ∀ b ∈ m.classes, a.isSubclassOf b → b.isSubclassOf a → a = b) ∧
    (∀ b ∈ m.classes, ∃ below, m.subclassesOf b.name = .ok below ∧
      (∀ c, c ∈ below ↔ c ∈ m.classes ∧ b ∈ m.classesAt c.ancestors) ∧
      (below.map fun cls => cls.id).Pairwise (· < ·)) ∧
    (∀ a name, m.class? name = some a → ∃ described, m.describe name = .ok described ∧
      described.ancestors = (m.classesAt a.ancestors).map (fun cls => cls.name) ∧
      described.subclasses = ((m.classes.filter (·.isSubclassOf a)).filter
        fun other => other.id ≠ a.id).map (fun cls => cls.name)) ∧
    (∀ a b nameA nameB, m.class? nameA = some a → m.class? nameB = some b →
      ∃ describedA describedB,
        m.describe nameA = .ok describedA ∧ m.describe nameB = .ok describedB ∧
        (b.name ∈ describedA.subclasses ↔ a.name ∈ describedB.ancestors ∧ a ≠ b)) := by
  have hs := hm.sound
  refine ⟨?_, ?_, ?_, ?_, ?_, ?_, ?_, ?_⟩
  · intro a ha p
    exact hs.extends_iff_class? ha
  · intro a ha b hb
    exact hs.isSubclassOf_iff ha hb
  · intro a ha
    exact hs.isSubclassOf_refl ha
  · intro a ha b hb c hc
    exact hs.isSubclassOf_trans ha hb hc
  · intro a ha b hb
    exact hs.isSubclassOf_antisymm ha hb
  · -- downwards by name: the classes kept are those with `b` in their chains
    intro b hb
    refine ⟨_, hs.subclassesOf_name hb, ?_, hs.rising_ids _⟩
    intro c
    rw [List.mem_filter, hs.isSubclassOf_iff_mem hb]
  · intro a name hname
    exact hs.describe_of_class? hname
  · -- both descriptions come down to the same question, since names are distinct
    intro a b nameA nameB hnameA hnameB
    have ha : a ∈ m.classes := hs.mem_of_class? hnameA
    have hb : b ∈ m.classes := hs.mem_of_class? hnameB
    rcases hs.describe_of_class? hnameA with ⟨describedA, hdescribeA, -, hbelow⟩
    rcases hs.describe_of_class? hnameB with ⟨describedB, hdescribeB, habove, -⟩
    refine ⟨describedA, describedB, hdescribeA, hdescribeB, ?_⟩
    rw [hbelow, habove, hs.name_mem_subclasses_iff ha hb, hs.name_mem_ancestors_iff ha]

/-- In the diamond the base is above the class in two ways, and listed once; its own description
lists each class below it once. -/
theorem subclassOrder_diamond :
    Diamond.model.Built ∧ Diamond.event ∈ Diamond.model.classes ∧
      Diamond.thing ∈ Diamond.model.classes ∧
      Relation.ReflTransGen Diamond.model.Extends Diamond.event Diamond.thing ∧
      (∃ below, Diamond.model.subclassesOf "Thing" = .ok below ∧ Diamond.event ∈ below) ∧
      ∃ described, Diamond.model.describe "Thing" = .ok described ∧
        described.ancestors = ["Thing"] ∧ described.subclasses = ["Named", "Dated", "Event"] := by
  have hevent : Diamond.event ∈ Diamond.model.classes := by decide
  have hthing : Diamond.thing ∈ Diamond.model.classes := by decide
  have hname : Diamond.model.class? "Thing" = some Diamond.thing := by decide
  rcases subclassOrder Diamond.model_built with ⟨-, hreach, -, -, -, hbelow, hdescribe, -⟩
  rcases hbelow Diamond.thing hthing with ⟨below, hbelow, hmem, -⟩
  rcases hdescribe Diamond.thing "Thing" hname with ⟨described, hdescribed, habove, hothers⟩
  refine ⟨Diamond.model_built, hevent, hthing, ?_, ⟨below, hbelow, ?_⟩, described, hdescribed,
    habove.trans ?_, hothers.trans ?_⟩
  · exact (hreach Diamond.event hevent Diamond.thing hthing).1 (by decide)
  · exact (hmem Diamond.event).2 ⟨hevent, by decide⟩
  · decide
  · decide

end Model

end ClassModel
