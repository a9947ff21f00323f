import ClassModel.Proofs.Except
import ClassModel.Proofs.Model.Ancestry
import Mathlib.Data.List.Chain

/-!
# Circles of parents

The walk over the parents fails when it meets a class that is on its path already. The path is a way
up, so what it reports is a circle: each class on it extends the next, and the last is the first.
Together with what a successful walk finds this decides the question: the walk succeeds exactly when
no class can be reached from itself.

* `Circle` — a way up that comes back to where it began, over distinct classes;
* `circle_of_walk` — a walk that is on a way up fails on a circle only;
* `exists_allChains_iff` — the walk over all classes succeeds exactly when there is no circle.
-/

namespace ClassModel.Ancestry

variable {parents : Parents}

/-- A circle: distinct classes, each extending the next, and the first one again at the end. -/
structure Circle (parents : Parents) (ids : List ClassId) : Prop where
  closed : ∃ id rest, ids = id :: rest ++ [id]
  distinct : ids.dropLast.Nodup
  up : ids.IsChain (Extends parents)

/-- The first class of a circle can be reached from itself. -/
theorem Circle.transGen {ids : List ClassId} (h : Circle parents ids) :
    ∃ id, Relation.TransGen (Extends parents) id id := by
  rcases h.closed with ⟨id, rest, rfl⟩
  refine ⟨id, ?_⟩
  have hup := h.up
  cases rest with
  | nil => exact .single (by simpa using hup)
  | cons next rest =>
    -- one step to the second class, and from there on to the last
    rw [List.cons_append, List.cons_append, List.isChain_cons_cons] at hup
    refine .head' hup.1 ?_
    exact List.relationReflTransGen_of_exists_isChain_cons (rest ++ [id]) hup.2 (by simp)

/-- A path that a walk is on: distinct classes, each extending the next, the last one extending the
class that the walk goes on to. -/
structure OnPath (parents : Parents) (path : List ClassId) (id : ClassId) : Prop where
  distinct : path.Nodup
  up : (path ++ [id]).IsChain (Extends parents)

namespace OnPath

variable {path : List ClassId} {id : ClassId}

theorem nil (id : ClassId) : OnPath parents [] id := ⟨List.nodup_nil, by simp⟩

theorem step (h : OnPath parents path id) (hid : id ∉ path) {parent : ClassId}
    (hparent : Extends parents id parent) : OnPath parents (path ++ [id]) parent where
  distinct := by
    rw [← List.concat_eq_append]
    exact h.distinct.concat hid
  up := by
    refine h.up.append (by simp) ?_
    intro last hlast next hnext
    obtain rfl : id = last := by simpa using hlast
    obtain rfl : parent = next := by simpa using hnext
    exact hparent

/-- Meeting a class on the path closes a circle. -/
theorem circle (h : OnPath parents path id) (hid : id ∈ path) :
    Circle parents (circle path id) := by
  rcases List.append_of_mem hid with ⟨before, after, hpath⟩
  -- the walk stops at the first class it meets again, so that is not among those before
  have hbefore : ∀ other ∈ before, other ≠ id := by
    intro other hother heq
    subst heq
    have hdistinct := h.distinct
    rw [hpath, List.nodup_append] at hdistinct
    exact hdistinct.2.2 other hother other List.mem_cons_self rfl
  have hcircle : Ancestry.circle path id = id :: after ++ [id] := by
    rw [Ancestry.circle, hpath, List.dropWhile_append_of_pos (by simpa using hbefore)]
    simp
  have hup := h.up
  have hdistinct := h.distinct
  rw [hpath, List.append_assoc] at hup
  rw [hpath] at hdistinct
  rw [hcircle]
  refine ⟨⟨id, after, rfl⟩, ?_, hup.right_of_append⟩
  rw [List.dropLast_concat]
  exact hdistinct.of_append_right

end OnPath

/-! ## Failing walks -/

/-- All that a walk can do when it fails: meet a class on the path, or fail further up. -/
theorem chain_eq_error {path : List ClassId} {known : Known} {id : ClassId} {ids : List ClassId}
    (h : chain parents path known id = .error ids) :
    known.lookup id = none ∧
      (id ∈ path ∧ ids = circle path id ∨
        id ∉ path ∧
          joined parents (path ++ [id]) known [id] (above parents id) = .error ids) := by
  unfold chain at h
  split at h
  · simp at h
  · next hnew =>
    refine ⟨hnew, ?_⟩
    split at h
    · next hpath => exact Or.inl ⟨hpath, (Except.error.inj h).symm⟩
    · next hpath =>
      refine Or.inr ⟨hpath, ?_⟩
      split at h
      · simp at h
      · next ids' hids =>
        split at h
        · simp at h
        · next ids'' hjoined =>
          rcases Except.error.inj h with rfl
          simpa [above, hids] using hjoined

/-- A walk from a class that fails does so on a circle, if it is on a path. -/
def FailsOnCircle (parents : Parents) (path : List ClassId) (known : Known) (id : ClassId) : Prop :=
  OnPath parents path id → ∀ ids, chain parents path known id = .error ids → Circle parents ids

/-- A walk from several classes that fails does so on a circle, if it is on a path to each. -/
def JoinFailsOnCircle (parents : Parents) (path : List ClassId) (known : Known)
    (start ids : List ClassId) : Prop :=
  (∀ id ∈ ids, OnPath parents path id) →
    ∀ circle, joined parents path known start ids = .error circle → Circle parents circle

theorem failsOnCircle_of_joined {path : List ClassId} {known : Known} {id : ClassId}
    (h : known.lookup id = none → id ∉ path →
      JoinFailsOnCircle parents (path ++ [id]) known [id] (above parents id)) :
    FailsOnCircle parents path known id := by
  intro hpath ids hchain
  rcases chain_eq_error hchain with ⟨hnew, ⟨hmet, rfl⟩ | ⟨hfresh, hjoined⟩⟩
  · exact hpath.circle hmet
  · exact h hnew hfresh (fun parent hparent => hpath.step hfresh hparent) ids hjoined

theorem joinFailsOnCircle_nil (path : List ClassId) (known : Known) (start : List ClassId) :
    JoinFailsOnCircle parents path known start [] := by
  intro _ circle h
  simp [joined] at h

theorem joinFailsOnCircle_cons {path : List ClassId} {known : Known} {start rest : List ClassId}
    {id : ClassId} (hid : FailsOnCircle parents path known id)
    (hrest : ∀ other known', chain parents path known id = .ok (other, known') →
      JoinFailsOnCircle parents path known' (join start other) rest) :
    JoinFailsOnCircle parents path known start (id :: rest) := by
  intro hpath circle h
  rw [List.forall_mem_cons] at hpath
  rw [joined] at h
  split at h
  · next other known' hchain => exact hrest other known' hchain hpath.2 circle h
  · next circle' hchain =>
    rcases Except.error.inj h with rfl
    exact hid hpath.1 circle' hchain

/-- Every walk on a way up that fails does so on a circle, whatever it knows. -/
theorem circle_of_walk (parents : Parents) :
    (∀ path known id, FailsOnCircle parents path known id) ∧
      ∀ path known start ids, JoinFailsOnCircle parents path known start ids :=
  walk_induct parents (fun _ _ _ => failsOnCircle_of_joined) joinFailsOnCircle_nil
    (fun _ _ _ _ _ => joinFailsOnCircle_cons)

/-- The walk over classes in order fails on a circle only. -/
theorem circle_of_chains {known : Known} {ids circle : List ClassId}
    (h : chains parents known ids = .error circle) : Circle parents circle := by
  induction ids generalizing known with
  | nil => simp [chains] at h
  | cons id rest ih =>
    rw [chains] at h
    split at h
    · next first known' hchain =>
      cases hothers : chains parents known' rest with
      | ok others => simp [hothers, Functor.map, Except.map] at h
      | error circle' =>
        simp only [hothers, Functor.map, Except.map, Except.error.injEq] at h
        subst h
        exact ih hothers
    · next circle' hchain =>
      rcases Except.error.inj h with rfl
      exact (circle_of_walk parents).1 [] known id (.nil id) circle' hchain

/-- The walk over all classes fails on a circle only. -/
theorem circle_of_allChains {circle : List ClassId} (h : allChains parents = .error circle) :
    Circle parents circle :=
  circle_of_chains h

/-- The walk over all classes succeeds exactly when no class can be reached from itself. -/
theorem exists_allChains_iff :
    (∃ found, allChains parents = .ok found) ↔
      ∀ id, ¬ Relation.TransGen (Extends parents) id id := by
  constructor
  · rintro ⟨found, hfound⟩ id hcircle
    -- a class on a circle has a parent, so it is one of those walked over
    have hlt : id < parents.length := by
      rcases Relation.TransGen.head'_iff.mp hcircle with ⟨parent, hparent, -⟩
      by_contra hbeyond
      simp [Extends, above, hbeyond] at hparent
    rcases exists_right_of_forall₂ (hasChain_of_allChains hfound) (List.mem_range.mpr hlt)
        with ⟨chain, -, hchain⟩
    exact hchain.not_transGen hcircle
  · intro hacyclic
    cases hwalk : allChains parents with
    | ok found => exact ⟨found, rfl⟩
    | error circle =>
      rcases (circle_of_allChains hwalk).transGen with ⟨id, hcircle⟩
      exact absurd hcircle (hacyclic id)

end ClassModel.Ancestry
