import ClassModel.Proofs.Model.Subclass
import ClassModel.Report.Lineage

/-!
# The way from a class to an ancestor

The way up is walked turn by turn: from each class to the first of its parents that still leads to
the ancestor. Nothing counts the turns; the walk ends because no class is above itself. This file
gives the walk without a bound on its turns, compares it with the bounded one, and says which of all
ways up it takes.

* `Model.Walks` — the walk as it is made, with the two ways in which it can end;
* `Model.Sound.exists_walks` — from a subclass the walk ends at the ancestor;
* `Model.climb_of_walks` — the bound on the turns of a climb does not matter;
* `Model.IsWay` and `Model.turns` — ways up, and the turns they take;
* `Model.lineage_walks` — what a lineage tells.
-/

namespace ClassModel

namespace Model

/-! ## The walk -/

/-- How a walk ends: at the ancestor, or at a class without a parent that leads there. -/
inductive Ending where
  | arrived
  | stuck

/-- The walk from a class up to an ancestor, with the classes it passes and its end. It takes as
many turns as it needs. -/
inductive Walks (m : Model) (ancestor : Class) : Class → List Class → Ending → Prop
  | arrived (cls : Class) (h : cls.id = ancestor.id) : Walks m ancestor cls [cls] .arrived
  | stuck (cls : Class) (h : cls.id ≠ ancestor.id)
      (hnone : m.parentToward? ancestor cls = none) : Walks m ancestor cls [cls] .stuck
  | turn (cls parent : Class) (way : List Class) (ending : Ending) (h : cls.id ≠ ancestor.id)
      (hparent : m.parentToward? ancestor cls = some parent)
      (hway : Walks m ancestor parent way ending) : Walks m ancestor cls (cls :: way) ending

/-- A walk can go one way only. -/
theorem Walks.unique {m : Model} {ancestor cls : Class} {way way' : List Class}
    {ending ending' : Ending} (h : m.Walks ancestor cls way ending)
    (h' : m.Walks ancestor cls way' ending') : way' = way ∧ ending' = ending := by
  induction h generalizing way' with
  | arrived cls heq =>
    cases h' with
    | arrived => exact ⟨rfl, rfl⟩
    | stuck _ hne _ => exact absurd heq hne
    | turn _ _ _ _ hne _ _ => exact absurd heq hne
  | stuck cls hne hnone =>
    cases h' with
    | arrived _ heq => exact absurd heq hne
    | stuck => exact ⟨rfl, rfl⟩
    | turn _ _ _ _ _ hparent _ => simp [hnone] at hparent
  | turn cls parent way ending hne hparent _ ih =>
    cases h' with
    | arrived _ heq => exact absurd heq hne
    | stuck _ _ hnone => simp [hnone] at hparent
    | turn _ parent' _ _ _ hparent' hway' =>
      obtain rfl : parent = parent' := Option.some.inj (hparent.symm.trans hparent')
      rcases ih hway' with ⟨rfl, rfl⟩
      exact ⟨rfl, rfl⟩

/-- A climb with enough steps goes the way of the walk. -/
theorem climb_of_walks {m : Model} {ancestor cls : Class} {way : List Class} {ending : Ending}
    (h : m.Walks ancestor cls way ending) {steps : Nat} (hsteps : way.length ≤ steps + 1) :
    m.climb ancestor steps cls = way := by
  induction h generalizing steps with
  | arrived cls heq =>
    cases steps with
    | zero => rfl
    | succ steps => rw [climb, if_pos heq]
  | stuck cls hne hnone =>
    cases steps with
    | zero => rfl
    | succ steps => simp only [climb, if_neg hne, hnone]
  | turn cls parent way ending hne hparent hway ih =>
    -- the rest of the way has a class at least, so the bound leaves a step for the turn
    have hrest : way ≠ [] := by
      cases hway <;> exact List.cons_ne_nil _ _
    have hlength := List.length_pos_iff.mpr hrest
    rw [List.length_cons] at hsteps
    cases steps with
    | zero => omega
    | succ steps =>
      have hclimb := ih (show way.length ≤ steps + 1 by omega)
      simp only [climb, if_neg hne, hparent, hclimb]

/-! ## Ways up -/

/-- A way up from a class to another, from each class to one of its parents. -/
structure IsWay (m : Model) (cls ancestor : Class) (way : List Class) : Prop where
  starts : way.head? = some cls
  ends : way.getLast? = some ancestor
  climbs : way.IsChain m.Extends

/-- The turns of a way up: of each class but the last, the place among its parents at which the way
goes on. -/
def turns : List Class → List Nat
  | cls :: next :: rest => cls.parents.idxOf next.id :: turns (next :: rest)
  | _ => []

namespace IsWay

variable {m : Model} {cls ancestor : Class} {way : List Class}

theorem eq_cons (h : m.IsWay cls ancestor way) : ∃ rest, way = cls :: rest := by
  cases way with
  | nil => simpa using h.starts
  | cons first rest =>
    have hfirst : first = cls := by simpa using h.starts
    exact ⟨rest, by rw [hfirst]⟩

/-- A way up goes no further than its first class, or goes on from a parent. -/
theorem cases_cons (h : m.IsWay cls ancestor way) :
    way = [cls] ∧ cls = ancestor ∨
      ∃ parent rest, way = cls :: rest ∧ m.Extends cls parent ∧ m.IsWay parent ancestor rest := by
  rcases h.eq_cons with ⟨rest, rfl⟩
  have hends := h.ends
  have hclimbs := h.climbs
  cases rest with
  | nil => exact Or.inl ⟨rfl, by simpa using hends⟩
  | cons parent rest =>
    rw [List.isChain_cons_cons] at hclimbs
    rw [List.getLast?_cons_cons] at hends
    exact Or.inr ⟨parent, parent :: rest, rfl, hclimbs.1, rfl, hends, hclimbs.2⟩

theorem single (cls : Class) : m.IsWay cls cls [cls] := ⟨rfl, rfl, List.isChain_singleton cls⟩

theorem cons {parent : Class} (hextends : m.Extends cls parent) (h : m.IsWay parent ancestor way) :
    m.IsWay cls ancestor (cls :: way) := by
  rcases h.eq_cons with ⟨rest, rfl⟩
  refine ⟨rfl, ?_, List.isChain_cons_cons.mpr ⟨hextends, h.climbs⟩⟩
  rw [List.getLast?_cons_cons]
  exact h.ends

theorem turns_cons (h : m.IsWay cls ancestor way) (below : Class) :
    turns (below :: way) = below.parents.idxOf cls.id :: turns way := by
  rcases h.eq_cons with ⟨rest, rfl⟩
  rfl

/-- A way up leads over parents. -/
theorem reaches (h : m.IsWay cls ancestor way) : Relation.ReflTransGen m.Extends cls ancestor := by
  induction way generalizing cls with
  | nil => simpa using h.starts
  | cons first rest ih =>
    rcases h.cases_cons with ⟨-, rfl⟩ | ⟨parent, rest', heq, hextends, hrest⟩
    · exact .refl
    · obtain rfl : rest = rest' := (List.cons.inj heq).2
      exact .head hextends (ih hrest)

end IsWay

namespace Sound

variable {m : Model} {cls other parent ancestor : Class} {way : List Class}

theorem mem_of_extends (hm : m.Sound) (h : m.Extends cls parent) : parent ∈ m.classes :=
  hm.mem_of_mem_classesAt h

/-- No class is above itself. -/
theorem not_transGen_extends (hm : m.Sound) (hcls : cls ∈ m.classes) :
    ¬ Relation.TransGen m.Extends cls cls := by
  intro hcircle
  rcases Relation.TransGen.head'_iff.mp hcircle with ⟨parent, hextends, hback⟩
  have hparent := hm.mem_of_extends hextends
  -- the parent would be a subclass too, and so the class its own parent
  have hsame : cls = parent := by
    apply hm.isSubclassOf_antisymm hcls hparent
    · exact (hm.isSubclassOf_iff hcls hparent).mpr (.single hextends)
    · exact (hm.isSubclassOf_iff hparent hcls).mpr hback
  subst hsame
  exact (hm.ancestors cls hcls).not_transGen (.single ((hm.extends_iff_id hcls hcls).mp hextends))

/-- A way up stays within the model. -/
theorem mem_of_isWay (hm : m.Sound) (hcls : cls ∈ m.classes) (h : m.IsWay cls ancestor way) :
    ∀ met ∈ way, met ∈ m.classes := by
  induction way generalizing cls with
  | nil => simp
  | cons first rest ih =>
    rcases h.cases_cons with ⟨heq, -⟩ | ⟨parent, rest', heq, hextends, hrest⟩
    · rw [heq]
      simpa using hcls
    · rcases List.cons.inj heq with ⟨rfl, rfl⟩
      rw [List.forall_mem_cons]
      exact ⟨hcls, ih (hm.mem_of_extends hextends) hrest⟩

/-- A way up passes no class twice. -/
theorem nodup_of_isWay (hm : m.Sound) (hcls : cls ∈ m.classes) (h : m.IsWay cls ancestor way) :
    way.Nodup := by
  have hup : way.IsChain (Relation.TransGen m.Extends) := h.climbs.imp fun _ _ => .single
  refine hup.pairwise.imp_of_mem ?_
  intro first second hfirst _ hreach heq
  rw [heq] at hreach
  exact hm.not_transGen_extends (heq ▸ hm.mem_of_isWay hcls h first hfirst) hreach

/-! ## The first parent that leads to an ancestor -/

/-- Parents have the ids that the class names. -/
theorem map_id_parents (hm : m.Sound) (hcls : cls ∈ m.classes) :
    (m.classesAt cls.parents).map (fun parent => parent.id) = cls.parents := by
  have hread : cls.parents.filterMap (fun id => (m.classAt? id).map fun parent => parent.id) =
      cls.parents.filterMap some := by
    apply List.filterMap_congr
    intro id hid
    rcases hm.exists_parent hcls hid with ⟨parent, hparent, rfl⟩
    rw [hm.classAt?_eq_some.mpr ⟨hparent, rfl⟩, Option.map_some]
  rw [classesAt, List.map_filterMap, hread, List.filterMap_some]

theorem of_parentToward? (h : m.parentToward? ancestor cls = some parent) :
    m.Extends cls parent ∧ parent.isSubclassOf ancestor := by
  unfold parentToward? at h
  have hleads := List.find?_some h
  exact ⟨List.mem_of_find?_eq_some h, hleads⟩

/-- A subclass other than the ancestor has a parent that leads there. -/
theorem exists_parentToward? (hm : m.Sound) (hcls : cls ∈ m.classes)
    (hancestor : ancestor ∈ m.classes) (hne : cls.id ≠ ancestor.id)
    (h : cls.isSubclassOf ancestor) :
    ∃ parent, m.parentToward? ancestor cls = some parent := by
  rw [hm.isSubclassOf_iff hcls hancestor] at h
  rcases Relation.ReflTransGen.cases_head h with rfl | ⟨parent, hextends, hreach⟩
  · exact absurd rfl hne
  · have hparent := hm.mem_of_extends hextends
    have hsub : parent.isSubclassOf ancestor := (hm.isSubclassOf_iff hparent hancestor).mpr hreach
    exact Option.isSome_iff_exists.mp (List.find?_isSome.mpr ⟨parent, hextends, hsub⟩)

/-- Of all parents that lead to the ancestor, the walk goes on from the one that is named first. -/
theorem parentToward?_first (hm : m.Sound) (hcls : cls ∈ m.classes)
    (h : m.parentToward? ancestor cls = some parent) (hextends : m.Extends cls other)
    (hsub : other.isSubclassOf ancestor) :
    other = parent ∨ cls.parents.idxOf parent.id < cls.parents.idxOf other.id := by
  have hother := hm.mem_of_extends hextends
  have hparent := hm.mem_of_extends (of_parentToward? h).1
  rcases List.find?_eq_some_iff_append.mp h with ⟨hleads, before, after, hparents, hbefore⟩
  -- none of the parents named before has the id of one that leads to the ancestor
  have hskip : ∀ reaching ∈ m.classes, reaching.isSubclassOf ancestor →
      reaching.id ∉ before.map fun parent => parent.id := by
    intro reaching hreaching hreach hmem
    rcases List.mem_map.mp hmem with ⟨earlier, hearlier, hid⟩
    have hmemEarlier : earlier ∈ m.classes :=
      hm.mem_of_extends (show m.Extends cls earlier by simp [Extends, hparents, hearlier])
    -- it would be that class, and `parentToward?` would not have passed it
    obtain rfl := hm.eq_of_id_eq hmemEarlier hreaching hid
    simpa [hreach] using hbefore earlier hearlier
  have hids : cls.parents =
      before.map (fun parent => parent.id) ++ parent.id :: after.map fun parent => parent.id := by
    rw [← hm.map_id_parents hcls, hparents, List.map_append, List.map_cons]
  by_cases hsame : parent.id = other.id
  · left
    exact (hm.eq_of_id_eq hparent hother hsame).symm
  · right
    rw [hids, List.idxOf_append_of_notMem (hskip parent hparent hleads),
      List.idxOf_append_of_notMem (hskip other hother hsub), List.idxOf_cons_self,
      List.idxOf_cons_ne _ hsame]
    omega

/-! ## Where the walk leads -/

/-- The walk from a subclass comes to its end at the ancestor. -/
theorem exists_walks (hm : m.Sound) (hcls : cls ∈ m.classes) (hancestor : ancestor ∈ m.classes)
    (h : cls.isSubclassOf ancestor) : ∃ way, m.Walks ancestor cls way .arrived := by
  -- each turn goes one step up, and no way up goes on without end
  have hacc := (hm.ancestors cls hcls).acc
  generalize hid : cls.id = id at hacc
  induction hacc generalizing cls with
  | intro id _ ih =>
    subst hid
    by_cases heq : cls.id = ancestor.id
    · exact ⟨[cls], .arrived cls heq⟩
    · rcases hm.exists_parentToward? hcls hancestor heq h with ⟨parent, hparent⟩
      rcases of_parentToward? hparent with ⟨hextends, hsub⟩
      have hmem := hm.mem_of_extends hextends
      have habove := (hm.extends_iff_id hcls hmem).mp hextends
      rcases ih parent.id habove hmem hsub rfl with ⟨way, hway⟩
      exact ⟨cls :: way, .turn cls parent way .arrived heq hparent hway⟩

/-- A walk that arrives has taken a way up. -/
theorem isWay_of_walks (hm : m.Sound) (hcls : cls ∈ m.classes) (hancestor : ancestor ∈ m.classes)
    (h : m.Walks ancestor cls way .arrived) : m.IsWay cls ancestor way := by
  generalize hending : Ending.arrived = ending at h
  induction h with
  | arrived cls heq =>
    obtain rfl := hm.eq_of_id_eq hcls hancestor heq
    exact .single cls
  | stuck => simp at hending
  | turn cls parent way ending hne hparent _ ih =>
    have hextends := (of_parentToward? hparent).1
    exact (ih (hm.mem_of_extends hextends) hending).cons hextends

/-- A walk that arrives has taken the first of all ways up: any other takes a later parent where the
two part. -/
theorem first_of_walks (hm : m.Sound) (hcls : cls ∈ m.classes) (hancestor : ancestor ∈ m.classes)
    (h : m.Walks ancestor cls way .arrived) {way' : List Class} (h' : m.IsWay cls ancestor way') :
    way' = way ∨ turns way < turns way' := by
  generalize hending : Ending.arrived = ending at h
  induction h generalizing way' with
  | arrived cls heq =>
    rcases h'.cases_cons with ⟨hway', -⟩ | ⟨parent, rest, -, hextends, hrest⟩
    · exact Or.inl hway'
    · -- a way on from the ancestor would lead back to it
      obtain rfl := hm.eq_of_id_eq hcls hancestor heq
      exact absurd (Relation.TransGen.head' hextends hrest.reaches) (hm.not_transGen_extends hcls)
  | stuck => simp at hending
  | turn cls parent way ending hne hparent hway ih =>
    rcases of_parentToward? hparent with ⟨hextends, hsub⟩
    have hmem := hm.mem_of_extends hextends
    have htaken : m.IsWay parent ancestor way := by
      subst hending
      exact hm.isWay_of_walks hmem hancestor hway
    rcases h'.cases_cons with ⟨-, rfl⟩ | ⟨next, rest, rfl, hnext, hrest⟩
    · exact absurd rfl hne
    · have hreach : next.isSubclassOf ancestor :=
        (hm.isSubclassOf_iff (hm.mem_of_extends hnext) hancestor).mpr hrest.reaches
      rw [htaken.turns_cons, hrest.turns_cons, List.cons_lt_cons_iff]
      rcases hm.parentToward?_first hcls hparent hnext hreach with rfl | hlater
      · rcases ih hmem hrest hending with rfl | hlater
        · exact Or.inl rfl
        · exact Or.inr (Or.inr ⟨rfl, hlater⟩)
      · exact Or.inr (Or.inl hlater)

/-- The way up that a lineage shows is that of the walk: a walk passes each class once at most, so
it has no more turns than the model has classes. -/
theorem pathUp_of_walks (hm : m.Sound) (hcls : cls ∈ m.classes) (hancestor : ancestor ∈ m.classes)
    (h : m.Walks ancestor cls way .arrived) : m.pathUp cls ancestor = way := by
  have hway := hm.isWay_of_walks hcls hancestor h
  have hlength : way.length ≤ m.classes.length := by
    have hsub : way ⊆ m.classes := fun met hmet => hm.mem_of_isWay hcls hway met hmet
    exact (List.subperm_of_subset (hm.nodup_of_isWay hcls hway) hsub).length_le
  exact climb_of_walks h (Nat.le_succ_of_le hlength)

end Sound

/-- A lineage of two classes tells whether one is a subclass of the other. If it is not there is no
path. If it is, the walk up comes to its end at the ancestor and nowhere else, and the path is the
walk's: from parent to parent, no class twice, and the first of all ways up in the order in which
parents are named. -/
theorem lineage_walks {m : Model} (hm : m.Built) {nameA nameB : String} {a b : Class}
    (ha : m.class? nameA = some a) (hb : m.class? nameB = some b) :
    ∃ l, m.lineage nameA nameB = .ok l ∧ l.cls = a.name ∧ l.ancestor = b.name ∧
      l.isSubclass = a.isSubclassOf b ∧
      (¬ a.isSubclassOf b → l.path = []) ∧
      (a.isSubclassOf b → ∃ way : List Class, l.path = way.map (fun cls => cls.name) ∧
        l.path.head? = some a.name ∧ l.path.getLast? = some b.name ∧
        l.path.Nodup ∧ (l.path.length = 1 ↔ a = b) ∧
        m.Walks b a way .arrived ∧
        (∀ way' ending, m.Walks b a way' ending → way' = way ∧ ending = .arrived) ∧
        m.IsWay a b way ∧
        ∀ way', m.IsWay a b way' → way' = way ∨ turns way < turns way') := by
  have hs := hm.sound
  have hamem := hs.mem_of_class? ha
  have hbmem := hs.mem_of_class? hb
  have hlineage : m.lineage nameA nameB = .ok ⟨a.name, b.name, a.isSubclassOf b,
      (if a.isSubclassOf b then m.pathUp a b else []).map fun cls => cls.name⟩ := by
    simp only [lineage, getClass_eq_ok.mpr ha, getClass_eq_ok.mpr hb, bind, Except.bind, pure,
      Except.pure]
  refine ⟨_, hlineage, rfl, rfl, rfl, ?_, ?_⟩
  · intro hnot
    simp [hnot]
  · intro hsub
    rcases hs.exists_walks hamem hbmem hsub with ⟨way, hwalks⟩
    have hway := hs.isWay_of_walks hamem hbmem hwalks
    have hpath := hs.pathUp_of_walks hamem hbmem hwalks
    have hnodup := hs.nodup_of_isWay hamem hway
    have hmem := hs.mem_of_isWay hamem hway
    simp only [hsub, if_true, hpath]
    refine ⟨way, rfl, ?_, ?_, ?_, ?_, hwalks, ?_, hway, ?_⟩
    · rw [List.head?_map, hway.starts, Option.map_some]
    · rw [List.getLast?_map, hway.ends, Option.map_some]
    · apply hnodup.map_on
      intro first hfirst second hsecond
      exact hs.eq_of_name_eq (hmem first hfirst) (hmem second hsecond)
    · rw [List.length_map]
      rcases hway.cases_cons with ⟨rfl, heq⟩ | ⟨parent, rest, rfl, hextends, hrest⟩
      · simp [heq]
      · -- a way that goes on does not come back to where it started
        rcases hrest.eq_cons with ⟨above, rfl⟩
        simp only [List.length_cons, Nat.add_eq_right, Nat.add_eq_zero_iff, one_ne_zero, and_false,
          false_iff]
        rintro rfl
        exact hs.not_transGen_extends hamem (.head' hextends hrest.reaches)
    · intro way' ending hwalks'
      exact hwalks.unique hwalks'
    · intro way' hway'
      exact hs.first_of_walks hamem hbmem hwalks hway'

/-- In the diamond the way up goes over the first parent, and the other way comes later. -/
theorem lineage_walks_diamond :
    Diamond.model.Built ∧ Diamond.model.class? "Event" = some Diamond.event ∧
      Diamond.model.class? "Thing" = some Diamond.thing ∧
      Diamond.event.isSubclassOf Diamond.thing ∧ ¬ Diamond.named.isSubclassOf Diamond.dated ∧
      (∃ l, Diamond.model.lineage "Event" "Thing" = .ok l ∧
        l.path = ["Event", "Named", "Thing"] ∧
        Diamond.model.Walks Diamond.thing Diamond.event
          [Diamond.event, Diamond.named, Diamond.thing] .arrived ∧
        turns [Diamond.event, Diamond.named, Diamond.thing] <
          turns [Diamond.event, Diamond.dated, Diamond.thing]) ∧
      ∃ l, Diamond.model.lineage "Named" "Dated" = .ok l ∧ l.path = [] := by
  have hbuilt := Diamond.model_built
  have hevent : Diamond.model.class? "Event" = some Diamond.event := by decide
  have hthing : Diamond.model.class? "Thing" = some Diamond.thing := by decide
  have hsub : Diamond.event.isSubclassOf Diamond.thing := by decide
  have hunrelated : ¬ Diamond.named.isSubclassOf Diamond.dated := by decide
  have hnamed : Diamond.model.class? "Named" = some Diamond.named := by decide
  have hdated : Diamond.model.class? "Dated" = some Diamond.dated := by decide
  refine ⟨hbuilt, hevent, hthing, hsub, hunrelated, ?_, ?_⟩
  · rcases lineage_walks hbuilt hevent hthing with ⟨l, hlineage, -, -, -, -, hpath⟩
    rcases hpath hsub with ⟨way, hnames, -, -, -, -, hwalks, -, -, hfirst⟩
    have hway : way = [Diamond.event, Diamond.named, Diamond.thing] := by
      have hpathUp := Diamond.model_built.sound.pathUp_of_walks (by decide) (by decide) hwalks
      rw [← hpathUp]
      decide
    subst hway
    have hother : Diamond.model.IsWay Diamond.event Diamond.thing
        [Diamond.event, Diamond.dated, Diamond.thing] := by
      refine ⟨rfl, rfl, ?_⟩
      simp only [List.isChain_cons_cons, List.isChain_singleton, and_true, Extends]
      decide
    have hlater := (hfirst _ hother).resolve_left (by decide)
    exact ⟨l, hlineage, hnames, hwalks, hlater⟩
  · rcases lineage_walks hbuilt hnamed hdated with ⟨l, hlineage, -, -, -, hnone, -⟩
    exact ⟨l, hlineage, hnone hunrelated⟩

end Model

end ClassModel
