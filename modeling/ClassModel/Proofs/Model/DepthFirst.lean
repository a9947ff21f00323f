import ClassModel.Proofs.Firsts
import ClassModel.Proofs.Model.Circle
import ClassModel.Proofs.Model.Visible

/-!
# Chains as depth-first walks

The chain of a class is put together from the whole chains of its parents, each of which is computed
once and kept. A plain walk does neither: it goes up depth first, keeps nothing but the classes that
it has seen, and passes over a class seen before together with all that is above it. Both list the
same classes in the same order. What a plain walk passes over it has seen to the end, since over
parents without a circle nothing that is still being visited can be met again.

* `Ancestry.preorder` — the classes of a plain walk, in the order in which it first meets them;
* `Ancestry.Finished` — what a walk has seen above a class, it has seen to the end;
* `Ancestry.HasChain.preorder_eq` — a walk from a class adds the chain of the class to what it has
  seen;
* `Ancestry.chains_eq_ok` — chains computed one after another do not depend on those before;
* `Model.ancestors_depthFirst` — what the ancestors of a class are, in all these ways.
-/

namespace ClassModel

namespace Ancestry

variable {parents : Parents} {seen found : List ClassId} {id : ClassId}

/-! ## The plain walk -/

theorem above_of_le (h : parents.length ≤ id) : above parents id = [] := by
  simp [above, h]

theorem unvisited_append_le (parents : Parents) (seen : List ClassId) (id : ClassId) :
    unvisited parents (seen ++ [id]) ≤ unvisited parents seen := by
  unfold unvisited
  apply List.Sublist.length_le
  apply List.monotone_filter_right
  intro other hother
  have hboth : other ∉ seen ∧ other ≠ id := by simpa using hother
  simpa using hboth.1

/-- The classes that a depth-first walk has seen at its end, in the order in which it first meets
them. The walk visits some classes in turn; it passes over those seen before, and goes on to the
parents of any other before it turns to the next. -/
def preorder (parents : Parents) (seen : List ClassId) : List ClassId → List ClassId
  | [] => seen
  | id :: rest =>
    if id ∈ seen then preorder parents seen rest
    else preorder parents (seen ++ [id]) (above parents id ++ rest)
termination_by ids => (unvisited parents seen, ids.length)
decreasing_by
  · exact Prod.Lex.right _ (Nat.lt_succ_self _)
  · by_cases hid : id < parents.length
    · exact Prod.Lex.left _ _ (unvisited_append_lt hid ‹id ∉ seen›)
    · -- beyond the classes nothing is added, but one class less is left to visit
      rw [above_of_le (Nat.le_of_not_lt hid), List.nil_append]
      exact Prod.Lex.right' _ (unvisited_append_le parents seen id) (Nat.lt_succ_self _)

/-- Classes are visited one after another, each with what has been seen before it. -/
theorem preorder_append (parents : Parents) (seen ids rest : List ClassId) :
    preorder parents seen (ids ++ rest) =
      preorder parents (preorder parents seen ids) rest := by
  fun_induction preorder parents seen ids with
  | case1 seen => rfl
  | case2 seen id ids hid ih => rw [List.cons_append, preorder, if_pos hid, ih]
  | case3 seen id ids hid ih =>
    rw [List.cons_append, preorder, if_neg hid, ← List.append_assoc, ih]

theorem preorder_of_mem (h : id ∈ seen) : preorder parents seen [id] = seen := by
  rw [preorder, if_pos h, preorder]

theorem preorder_of_not_mem (h : id ∉ seen) :
    preorder parents seen [id] = preorder parents (seen ++ [id]) (above parents id) := by
  rw [preorder, if_neg h, List.append_nil]

/-! ## Joining to what has been seen -/

theorem join_of_subset {other : List ClassId} (h : ∀ id ∈ other, id ∈ found) :
    join found other = found := by
  have hnone : other.filter (· ∉ found) = [] := by simpa using h
  rw [join, hnone, List.append_nil]

theorem join_assoc (first second third : List ClassId) :
    join (join first second) third = join first (join second third) := by
  have hthird : third.filter (· ∉ join first second) =
      (third.filter (· ∉ second)).filter (· ∉ first) := by
    rw [List.filter_filter]
    apply List.filter_congr
    intro id _
    simp only [mem_join, not_or, Bool.decide_and]
  rw [join, hthird]
  simp only [join, List.filter_append, List.append_assoc]

theorem join_joinAll (chainOf : ClassId → List ClassId) (seen found ids : List ClassId) :
    join seen (joinAll chainOf found ids) = joinAll chainOf (join seen found) ids := by
  induction ids generalizing found with
  | nil => rfl
  | cons id rest ih => rw [joinAll_cons, joinAll_cons, ih, join_assoc]

/-! ## What has been seen to the end -/

/-- Of what is above a class, a walk has seen to the end what it has seen at all. -/
def Finished (parents : Parents) (seen : List ClassId) (id : ClassId) : Prop :=
  ∀ met ∈ seen, Relation.ReflTransGen (Extends parents) id met →
    ∀ last, Relation.ReflTransGen (Extends parents) met last → last ∈ seen

namespace Finished

theorem nil (id : ClassId) : Finished parents [] id := by
  intro met hmet
  simp at hmet

/-- Entering a class leaves its parents as they were: the class is not above any of them. -/
theorem enter (h : Finished parents seen id) (hfound : HasChain parents id found)
    {parent : ClassId} (hparent : Extends parents id parent) :
    Finished parents (seen ++ [id]) parent := by
  intro met hmet hway last hlast
  rcases List.mem_append.mp hmet with hbefore | hentered
  · have hseen : last ∈ seen := h met hbefore (.head hparent hway) last hlast
    exact List.mem_append_left _ hseen
  · -- a way from the parent back to the class would close a circle
    rcases List.mem_singleton.mp hentered with rfl
    have hcircle : Relation.TransGen (Extends parents) met met := .head' hparent hway
    exact absurd hcircle hfound.not_transGen

/-- A whole chain that is added is seen to the end, so nothing changes for other classes. -/
theorem leave (h : Finished parents seen id) {other : ClassId}
    (hfound : HasChain parents other found) : Finished parents (join seen found) id := by
  intro met hmet hway last hlast
  rw [mem_join] at hmet ⊢
  rcases hmet with hbefore | hadded
  · exact Or.inl (h met hbefore hway last hlast)
  · have hreach : Relation.ReflTransGen (Extends parents) other met := hfound.mem_iff.mp hadded
    exact Or.inr (hfound.mem_iff.mpr (hreach.trans hlast))

end Finished

/-- A walk over classes joins their chains, if a walk from each of them does. -/
theorem preorder_eq_joinAll {chainOf : ClassId → List ClassId} {ids : List ClassId}
    (hchains : ∀ id ∈ ids, HasChain parents id (chainOf id))
    (hwalk : ∀ id ∈ ids, ∀ seen, Finished parents seen id →
      preorder parents seen [id] = join seen (chainOf id))
    (hseen : ∀ id ∈ ids, Finished parents seen id) :
    preorder parents seen ids = joinAll chainOf seen ids := by
  induction ids generalizing seen with
  | nil => rw [preorder, joinAll_nil]
  | cons id rest ih =>
    rw [List.forall_mem_cons] at hchains hwalk hseen
    have hfirst : preorder parents seen [id] = join seen (chainOf id) :=
      hwalk.1 seen hseen.1
    -- the first class is left before the others are visited
    have hrest : ∀ other ∈ rest, Finished parents (join seen (chainOf id)) other :=
      fun other hother => (hseen.2 other hother).leave hchains.1
    calc preorder parents seen (id :: rest)
        = preorder parents (preorder parents seen [id]) rest :=
          preorder_append parents seen [id] rest
      _ = preorder parents (join seen (chainOf id)) rest := by rw [hfirst]
      _ = joinAll chainOf (join seen (chainOf id)) rest := ih hchains.2 hwalk.2 hrest
      _ = joinAll chainOf seen (id :: rest) := (joinAll_cons chainOf seen rest id).symm

/-- A walk from a class adds the chain of the class to what it has seen. -/
theorem HasChain.preorder_eq (h : HasChain parents id found)
    (hseen : Finished parents seen id) : preorder parents seen [id] = join seen found := by
  induction h generalizing seen with
  | of id chainOf habove ih =>
    have hchain : HasChain parents id (joinAll chainOf [id] (above parents id)) :=
      .of id chainOf habove
    by_cases hid : id ∈ seen
    · -- all of the chain has been seen together with the class
      have hall : ∀ last ∈ joinAll chainOf [id] (above parents id), last ∈ seen :=
        fun last hlast => hseen id hid .refl last (hchain.mem_iff.mp hlast)
      rw [preorder_of_mem hid, join_of_subset hall]
    · have hentered : ∀ parent ∈ above parents id, Finished parents (seen ++ [id]) parent :=
        fun parent hparent => hseen.enter hchain hparent
      have hself : join seen [id] = seen ++ [id] := by simp [join, hid]
      rw [preorder_of_not_mem hid, join_joinAll, hself]
      exact preorder_eq_joinAll habove (fun parent hparent _ => ih parent hparent) hentered

/-! ## Repeats dropped -/

theorem join_eq_extendWith {other : List ClassId} (h : other.Nodup) :
    join found other = extendWith found other := by
  have hfirsts : firsts (other.filter (· ∉ found)) = other.filter (· ∉ found) :=
    firsts_of_nodup (h.filter _)
  rw [join, extendWith, hfirsts]

/-- Chains joined are the chains one after another, with every repeat after the first dropped. -/
theorem joinAll_eq_extendWith {chainOf : ClassId → List ClassId} {ids : List ClassId}
    (h : ∀ id ∈ ids, (chainOf id).Nodup) :
    joinAll chainOf found ids = extendWith found (ids.flatMap chainOf) := by
  induction ids generalizing found with
  | nil => rw [joinAll_nil, List.flatMap_nil, extendWith_nil]
  | cons id rest ih =>
    rw [List.forall_mem_cons] at h
    rw [joinAll_cons, ih h.2, join_eq_extendWith h.1, List.flatMap_cons, extendWith_append]

/-! ## Any order -/

/-- Without circles the chains of classes are found one after another in any order, whatever is
rightly known before. -/
theorem chains_eq_ok (hacyclic : ∀ id, ¬ Relation.TransGen (Extends parents) id id)
    {known : Known} (hright : Right parents known) {ids : List ClassId}
    {chainOf : ClassId → List ClassId} (h : ∀ id ∈ ids, HasChain parents id (chainOf id)) :
    chains parents known ids = .ok (ids.map chainOf) := by
  cases hwalk : chains parents known ids with
  | error circle =>
    rcases (circle_of_chains hwalk).transGen with ⟨id, hcircle⟩
    exact absurd hcircle (hacyclic id)
  | ok found =>
    have hfound : List.Forall₂ (HasChain parents) ids found := hasChain_of_chains hright hwalk
    congr 1
    clear hwalk
    -- a class has one chain only
    induction hfound with
    | nil => rfl
    | cons hchain _ ih =>
      rw [List.forall_mem_cons] at h
      rw [List.map_cons, hchain.unique h.1, ih h.2]

end Ancestry

namespace Model

namespace Sound

variable {m : Model} {cls : Class}

/-- No class of a model is above itself. -/
theorem not_transGen (hm : m.Sound) (id : ClassId) :
    ¬ Relation.TransGen (Ancestry.Extends m.parents) id id := by
  intro hcircle
  have hlt : id < m.classes.length := by
    -- a class that extends another has parents, and so is one of the model
    rcases Relation.TransGen.head'_iff.mp hcircle with ⟨parent, hparent, -⟩
    by_contra hbeyond
    have hnone : Ancestry.above m.parents id = [] :=
      Ancestry.above_of_le (by simpa [Model.parents] using hbeyond)
    rw [Ancestry.Extends, hnone] at hparent
    exact absurd hparent List.not_mem_nil
  rcases hm.exists_of_lt hlt with ⟨cls, hcls, rfl⟩
  exact (hm.ancestors cls hcls).not_transGen hcircle

theorem ancestors_eq_preorder (hm : m.Sound) (hcls : cls ∈ m.classes) :
    cls.ancestors = Ancestry.preorder m.parents [] [cls.id] := by
  have hchain := hm.ancestors cls hcls
  have hnothing : Ancestry.join [] cls.ancestors = cls.ancestors := by simp [Ancestry.join]
  rw [hchain.preorder_eq (.nil cls.id), hnothing]

/-- Chains at positions are the ancestors of the classes there. -/
theorem flatMap_classesAt (hm : m.Sound) {chainOf : ClassId → List ClassId} {ids : List ClassId}
    (h : ∀ id ∈ ids, ∃ parent ∈ m.classes, parent.id = id ∧ chainOf id = parent.ancestors) :
    ids.flatMap chainOf = (m.classesAt ids).flatMap Class.ancestors := by
  induction ids with
  | nil => rfl
  | cons id rest ih =>
    rw [List.forall_mem_cons] at h
    rcases h.1 with ⟨parent, hparent, rfl, hchain⟩
    have hat : m.classAt? parent.id = some parent := hm.classAt?_eq_some.mpr ⟨hparent, rfl⟩
    have hfirst : m.classesAt (parent.id :: rest) = parent :: m.classesAt rest :=
      List.filterMap_cons_some hat
    rw [hfirst, List.flatMap_cons, List.flatMap_cons, hchain, ih h.2]

theorem ancestors_eq_firsts (hm : m.Sound) (hcls : cls ∈ m.classes) :
    cls.ancestors = firsts (cls.id :: (m.classesAt cls.parents).flatMap Class.ancestors) := by
  rcases hm.ancestors_eq_joinAll hcls with ⟨chainOf, hchainOf, hjoined⟩
  have hparents : ∀ id ∈ cls.parents, ∃ parent ∈ m.classes, parent.id = id ∧
      chainOf id = parent.ancestors := by
    intro id hid
    rcases hm.exists_parent hcls hid with ⟨parent, hparent, rfl⟩
    exact ⟨parent, hparent, rfl, hchainOf parent hparent hid⟩
  have hdistinct : ∀ id ∈ cls.parents, (chainOf id).Nodup := by
    intro id hid
    rcases hparents id hid with ⟨parent, hparent, -, hchain⟩
    rw [hchain]
    exact (hm.ancestors parent hparent).nodup
  rw [hjoined, Ancestry.joinAll_eq_extendWith hdistinct, hm.flatMap_classesAt hparents,
    extendWith_eq_firsts]

/-- Chains of classes are found one after another in any order. -/
theorem chains_eq_ok (hm : m.Sound) {classes : List Class}
    (hclasses : ∀ cls ∈ classes, cls ∈ m.classes) :
    Ancestry.chains m.parents [] (classes.map fun cls => cls.id) =
      .ok (classes.map Class.ancestors) := by
  have hright : Ancestry.Right m.parents [] := by simp [Ancestry.Right]
  have hat : ∀ cls ∈ classes, m.classAt? cls.id = some cls :=
    fun cls hcls => hm.classAt?_eq_some.mpr ⟨hclasses cls hcls, rfl⟩
  have hchains : ∀ id ∈ classes.map (fun cls => cls.id), Ancestry.HasChain m.parents id
      (((m.classAt? id).map Class.ancestors).getD []) := by
    intro id hid
    rcases List.mem_map.mp hid with ⟨cls, hcls, rfl⟩
    rw [hat cls hcls]
    exact hm.ancestors cls (hclasses cls hcls)
  rw [Ancestry.chains_eq_ok hm.not_transGen hright hchains, List.map_map]
  congr 1
  apply List.map_congr_left
  intro cls hcls
  simp [hat cls hcls]

end Sound

/-- The ancestors of a class of a built model begin with the class and are distinct. They are the
classes that a plain depth-first walk from the class meets, in the order in which it meets them, and
they are the class and then the ancestors of its parents, with repeats dropped. Which classes had
their chains computed before does not matter. -/
theorem ancestors_depthFirst {m : Model} (hm : m.Built) {cls : Class} (hcls : cls ∈ m.classes) :
    cls.ancestors.head? = some cls.id ∧ cls.ancestors.Nodup ∧
      cls.ancestors = Ancestry.preorder m.parents [] [cls.id] ∧
      cls.ancestors = firsts (cls.id :: (m.classesAt cls.parents).flatMap Class.ancestors) ∧
      ∀ earlier : List Class, (∀ other ∈ earlier, other ∈ m.classes) →
        Ancestry.chains m.parents [] (earlier.map (fun other => other.id) ++ [cls.id]) =
          .ok (earlier.map Class.ancestors ++ [cls.ancestors]) := by
  have hs := hm.sound
  have hchain := hs.ancestors cls hcls
  refine ⟨?_, hchain.nodup, hs.ancestors_eq_preorder hcls, hs.ancestors_eq_firsts hcls, ?_⟩
  · rcases hchain.head with ⟨rest, hrest⟩
    rw [← hrest]
    rfl
  · intro earlier hearlier
    have hall : ∀ other ∈ earlier ++ [cls], other ∈ m.classes := by
      intro other hother
      rcases List.mem_append.mp hother with hbefore | hlast
      · exact hearlier other hbefore
      · exact List.mem_singleton.mp hlast ▸ hcls
    have hchains := hs.chains_eq_ok hall
    rwa [List.map_append, List.map_append] at hchains

/-- In the diamond the second way up is joined to the first without the base, which a plain walk has
seen by then. -/
theorem ancestors_depthFirst_diamond :
    Diamond.model.Built ∧ Diamond.event ∈ Diamond.model.classes ∧
      Ancestry.preorder Diamond.model.parents [] [3] = [3, 1, 0, 2] ∧
      firsts (3 :: ([1, 0] ++ [2, 0])) = [3, 1, 0, 2] ∧
      (∀ other ∈ [Diamond.dated, Diamond.thing], other ∈ Diamond.model.classes) ∧
      Ancestry.chains Diamond.model.parents [] [2, 0, 3] = .ok [[2, 0], [0], [3, 1, 0, 2]] := by
  have hevent : Diamond.event ∈ Diamond.model.classes := by decide
  have hearlier : ∀ other ∈ [Diamond.dated, Diamond.thing], other ∈ Diamond.model.classes := by
    decide
  rcases ancestors_depthFirst Diamond.model_built hevent with ⟨-, -, hwalk, hfirsts, hany⟩
  exact ⟨Diamond.model_built, hevent, hwalk.symm, hfirsts.symm, hearlier, hany _ hearlier⟩

end Model

end ClassModel
