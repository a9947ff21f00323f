import ClassModel.Model.Ancestry
import Mathlib.Data.List.Basic
import Mathlib.Data.List.Nodup
import Mathlib.Logic.Relation
import Mathlib.Order.WellFounded

/-!
# What an ancestor chain is

The walk over the parents keeps the chains it has computed, stops at circles and hands its table
from class to class. `HasChain` says what a chain is without any of that: the class itself, with the
chains of its parents joined to it in order. It is defined inductively, so a class from which a
circle can be reached has none.

* `hasChain_of_allChains` — if the walk over all classes succeeds, what it finds are their chains;
* `HasChain.unique` — a class has one chain at most, so the order of the walk does not matter;
* `HasChain.mem_iff` — a chain lists the class and all that can be reached from it over parents;
* `HasChain.nodup` — it lists nothing twice;
* `HasChain.exists_way_of_findSome?` — what is found first in it is found on a way up;
* `HasChain.not_transGen` — a class with a chain cannot be reached from itself.
-/

namespace ClassModel.Ancestry

variable {parents : Parents}

/-! ## Joining chains -/

/-- The parents of a class. A position beyond the classes has none. -/
def above (parents : Parents) (id : ClassId) : List ClassId := (parents[id]?).getD []

/-- The chains of classes joined to a chain, in order. -/
def joinAll (chainOf : ClassId → List ClassId) (found ids : List ClassId) : List ClassId :=
  ids.foldl (fun found id => join found (chainOf id)) found

@[simp] theorem joinAll_nil (chainOf : ClassId → List ClassId) (found : List ClassId) :
    joinAll chainOf found [] = found := rfl

@[simp] theorem joinAll_cons (chainOf : ClassId → List ClassId) (found rest : List ClassId)
    (id : ClassId) :
    joinAll chainOf found (id :: rest) = joinAll chainOf (join found (chainOf id)) rest := rfl

theorem joinAll_congr {f g : ClassId → List ClassId} (found : List ClassId) {ids : List ClassId}
    (h : ∀ id ∈ ids, f id = g id) : joinAll f found ids = joinAll g found ids := by
  apply List.foldl_ext
  intro found id hid
  rw [h id hid]

theorem mem_join {found other : List ClassId} {id : ClassId} :
    id ∈ join found other ↔ id ∈ found ∨ id ∈ other := by
  simp only [join, List.mem_append, List.mem_filter, decide_eq_true_eq]
  tauto

theorem nodup_join {found other : List ClassId} (hfound : found.Nodup) (hother : other.Nodup) :
    (join found other).Nodup := by
  apply hfound.append (hother.filter _)
  intro id hid hid'
  rw [List.mem_filter] at hid'
  simp [hid] at hid'

theorem mem_joinAll {chainOf : ClassId → List ClassId} {found ids : List ClassId} {id : ClassId} :
    id ∈ joinAll chainOf found ids ↔ id ∈ found ∨ ∃ other ∈ ids, id ∈ chainOf other := by
  induction ids generalizing found with
  | nil => simp
  | cons other rest ih =>
    rw [joinAll_cons, ih, mem_join, or_assoc]
    simp

theorem nodup_joinAll {chainOf : ClassId → List ClassId} {found ids : List ClassId}
    (hfound : found.Nodup) (hids : ∀ id ∈ ids, (chainOf id).Nodup) :
    (joinAll chainOf found ids).Nodup := by
  induction ids generalizing found with
  | nil => exact hfound
  | cons id rest ih =>
    have hid : (chainOf id).Nodup := hids id List.mem_cons_self
    exact ih (nodup_join hfound hid) fun other h => hids other (List.mem_cons_of_mem _ h)

theorem prefix_joinAll (chainOf : ClassId → List ClassId) (found ids : List ClassId) :
    found <+: joinAll chainOf found ids := by
  induction ids generalizing found with
  | nil => exact List.prefix_rfl
  | cons id rest ih => exact (List.prefix_append found _).trans (ih _)

/-- What a search finds first in joined chains, it finds first in the first of them where it finds
anything: dropping repeats never changes which entry comes first. -/
theorem findSome?_join {α : Type} (search : ClassId → Option α) (found other : List ClassId) :
    (join found other).findSome? search = (found.findSome? search).or (other.findSome? search) := by
  rw [join, List.findSome?_append]
  cases hfound : found.findSome? search with
  | some value => simp
  | none =>
    -- nothing that was dropped is found by the search, since it stands in the first chain
    rw [Option.none_or, Option.none_or]
    rw [List.findSome?_eq_none_iff] at hfound
    induction other with
    | nil => rfl
    | cons id rest ih =>
      by_cases hid : id ∈ found
      · rw [List.filter_cons_of_neg (by simpa using hid), ih, List.findSome?_cons, hfound id hid]
      · rw [List.filter_cons_of_pos (by simpa using hid), List.findSome?_cons, List.findSome?_cons,
          ih]

theorem findSome?_joinAll {α : Type} (search : ClassId → Option α)
    (chainOf : ClassId → List ClassId) (found ids : List ClassId) :
    (joinAll chainOf found ids).findSome? search =
      (found.findSome? search).or (ids.findSome? fun id => (chainOf id).findSome? search) := by
  induction ids generalizing found with
  | nil => simp
  | cons id rest ih =>
    rw [joinAll_cons, ih, findSome?_join, Option.or_assoc, List.findSome?_cons]
    cases (chainOf id).findSome? search <;> simp

/-! ## Chains -/

/-- One class extends another directly. -/
def Extends (parents : Parents) (id parent : ClassId) : Prop := parent ∈ above parents id

/-- The chain of a class: the class itself, with the chains of its parents joined in order. -/
inductive HasChain (parents : Parents) : ClassId → List ClassId → Prop
  | of (id : ClassId) (chainOf : ClassId → List ClassId)
      (habove : ∀ parent ∈ above parents id, HasChain parents parent (chainOf parent)) :
      HasChain parents id (joinAll chainOf [id] (above parents id))

namespace HasChain

variable {id : ClassId} {found : List ClassId}

theorem unique (h : HasChain parents id found) {other : List ClassId}
    (hother : HasChain parents id other) : found = other := by
  -- both chains are joined from those of the parents, which agree one by one
  induction h generalizing other with
  | of id chainOf _ ih =>
    cases hother with
    | of _ chainOf' habove' =>
      apply joinAll_congr
      intro parent hparent
      exact ih parent hparent (habove' parent hparent)

theorem head (h : HasChain parents id found) : [id] <+: found := by
  cases h with
  | of _ chainOf _ => exact prefix_joinAll chainOf [id] _

theorem nodup (h : HasChain parents id found) : found.Nodup := by
  induction h with
  | of id chainOf _ ih => exact nodup_joinAll (List.nodup_singleton id) ih

/-- A chain lists exactly what can be reached over parents. -/
theorem mem_iff (h : HasChain parents id found) {other : ClassId} :
    other ∈ found ↔ Relation.ReflTransGen (Extends parents) id other := by
  induction h with
  | of id chainOf _ ih =>
    rw [mem_joinAll, List.mem_singleton, Relation.ReflTransGen.cases_head_iff]
    constructor
    · rintro (rfl | ⟨parent, hparent, hmem⟩)
      · exact Or.inl rfl
      · exact Or.inr ⟨parent, hparent, (ih parent hparent).1 hmem⟩
    · rintro (rfl | ⟨parent, hparent, hreach⟩)
      · exact Or.inl rfl
      · exact Or.inr ⟨parent, hparent, (ih parent hparent).2 hreach⟩

/-- What a search finds first in a chain stands at the end of a way up on which it finds nothing
before. -/
theorem exists_way_of_findSome? {α : Type} {search : ClassId → Option α} {value : α}
    (h : HasChain parents id found) (hvalue : found.findSome? search = some value) :
    ∃ last, search last = some value ∧
      Relation.ReflTransGen (fun cls parent => Extends parents cls parent ∧ search cls = none)
        id last := by
  induction h with
  | of id chainOf _ ih =>
    rw [findSome?_joinAll, List.findSome?_cons, List.findSome?_nil] at hvalue
    -- either the class itself is found, or the way goes on from the parent whose chain is searched
    cases hself : search id with
    | some own =>
      obtain rfl : own = value := by simpa [hself] using hvalue
      exact ⟨id, hself, .refl⟩
    | none =>
      rw [hself, Option.none_or] at hvalue
      rcases List.exists_of_findSome?_eq_some hvalue with ⟨parent, hparent, hchain⟩
      rcases ih parent hparent hchain with ⟨last, hlast, hway⟩
      exact ⟨last, hlast, .head ⟨hparent, hself⟩ hway⟩

/-- The way up from a class with a chain comes to an end. -/
theorem acc (h : HasChain parents id found) :
    Acc (fun parent cls => Extends parents cls parent) id := by
  induction h with
  | of id _ _ ih => exact ⟨id, fun parent hparent => ih parent hparent⟩

/-- A class with a chain is not on a circle. -/
theorem not_transGen (h : HasChain parents id found) :
    ¬ Relation.TransGen (Extends parents) id id := by
  -- a circle would be a way up without end
  have hacc := h.acc.transGen
  clear h
  induction hacc with
  | intro id _ ih =>
    intro hcircle
    exact ih id (Relation.transGen_swap.2 hcircle) hcircle

end HasChain

/-! ## The walk -/

/-- What a walk has kept is right: the chains are those of their classes. -/
def Right (parents : Parents) (known : Known) : Prop :=
  ∀ id found, known.lookup id = some found → HasChain parents id found

theorem Right.cons {known : Known} (h : Right parents known) {id : ClassId}
    {found : List ClassId} (hfound : HasChain parents id found) :
    Right parents ((id, found) :: known) := by
  intro other found' hlookup
  rw [List.lookup_cons] at hlookup
  split at hlookup
  · next heq =>
    rcases eq_of_beq heq with rfl
    rcases Option.some.inj hlookup with rfl
    exact hfound
  · exact h other found' hlookup

/-- All that a walk can do when it succeeds: take a chain that is kept, or join the chains of the
parents and keep the outcome. -/
theorem chain_eq_ok {path : List ClassId} {known known' : Known} {id : ClassId}
    {found : List ClassId} (h : chain parents path known id = .ok (found, known')) :
    (known.lookup id = some found ∧ known' = known) ∨
      (known.lookup id = none ∧ id ∉ path ∧
        ∃ last, joined parents (path ++ [id]) known [id] (above parents id) = .ok (found, last) ∧
          known' = (id, found) :: last) := by
  unfold chain at h
  split at h
  · next kept hkept =>
    rcases Prod.mk.inj (Except.ok.inj h) with ⟨rfl, rfl⟩
    exact Or.inl ⟨hkept, rfl⟩
  · next hnew =>
    split at h
    · simp at h
    · next hpath =>
      refine Or.inr ⟨hnew, hpath, ?_⟩
      split at h
      · next hbeyond =>
        rcases Prod.mk.inj (Except.ok.inj h) with ⟨rfl, rfl⟩
        exact ⟨known, by simp [above, hbeyond, joined], rfl⟩
      · next ids hids =>
        split at h
        · next found' last hjoined =>
          rcases Prod.mk.inj (Except.ok.inj h) with ⟨rfl, rfl⟩
          exact ⟨last, by simpa [above, hids] using hjoined, rfl⟩
        · simp at h

/-- A walk from a class that succeeds finds the chain of the class. -/
def FindsChain (parents : Parents) (path : List ClassId) (known : Known) (id : ClassId) : Prop :=
  ∀ found known', Right parents known → chain parents path known id = .ok (found, known') →
    HasChain parents id found ∧ Right parents known'

/-- A walk from several classes that succeeds joins their chains. -/
def FindsJoined (parents : Parents) (path : List ClassId) (known : Known)
    (start ids : List ClassId) : Prop :=
  ∀ found known', Right parents known → joined parents path known start ids = .ok (found, known') →
    (∃ chainOf, (∀ id ∈ ids, HasChain parents id (chainOf id)) ∧
      found = joinAll chainOf start ids) ∧ Right parents known'

theorem findsJoined_nil (path : List ClassId) (known : Known) (start : List ClassId) :
    FindsJoined parents path known start [] := by
  intro found known' hright h
  rw [joined] at h
  rcases Prod.mk.inj (Except.ok.inj h) with ⟨rfl, rfl⟩
  exact ⟨⟨fun _ => [], by simp, rfl⟩, hright⟩

theorem findsJoined_cons {path : List ClassId} {known : Known} {start rest : List ClassId}
    {id : ClassId} (hid : FindsChain parents path known id)
    (hrest : ∀ other known', chain parents path known id = .ok (other, known') →
      FindsJoined parents path known' (join start other) rest) :
    FindsJoined parents path known start (id :: rest) := by
  intro found known' hright h
  rw [joined] at h
  split at h
  · next other middle hchain =>
    rcases hid other middle hright hchain with ⟨hother, hmiddle⟩
    rcases hrest other middle hchain found known' hmiddle h with ⟨⟨chainOf, hchainOf, rfl⟩, hknown'⟩
    refine ⟨⟨fun cls => if cls = id then other else chainOf cls, ?_, ?_⟩, hknown'⟩
    · intro cls hcls
      rcases List.mem_cons.mp hcls with rfl | hmem
      · simpa using hother
      · by_cases heq : cls = id
        · simpa [heq] using hother
        · simpa [heq] using hchainOf cls hmem
    · rw [joinAll_cons, if_pos rfl]
      apply joinAll_congr
      intro cls hcls
      -- the class may come again, and then it has the chain found for it the first time
      by_cases heq : cls = id
      · subst heq
        simpa using (hchainOf cls hcls).unique hother
      · simp [heq]
  · simp at h

theorem findsChain_of_joined {path : List ClassId} {known : Known} {id : ClassId}
    (h : known.lookup id = none → id ∉ path →
      FindsJoined parents (path ++ [id]) known [id] (above parents id)) :
    FindsChain parents path known id := by
  intro found known' hright hchain
  rcases chain_eq_ok hchain with ⟨hkept, rfl⟩ | ⟨hnew, hpath, last, hjoined, rfl⟩
  · exact ⟨hright id found hkept, hright⟩
  · rcases h hnew hpath found last hright hjoined with ⟨⟨chainOf, hchainOf, rfl⟩, hlast⟩
    have hfound := HasChain.of id chainOf hchainOf
    exact ⟨hfound, hlast.cons hfound⟩

/-- What holds of walks is shown along the walk: of a walk from a class that is neither known nor on
the path by the walk from its parents, and of a walk from several classes one class after another,
each with what is known after those before it. -/
theorem walk_induct (parents : Parents) {ofChain : List ClassId → Known → ClassId → Prop}
    {ofJoined : List ClassId → Known → List ClassId → List ClassId → Prop}
    (hchain : ∀ path known id,
      (known.lookup id = none → id ∉ path →
        ofJoined (path ++ [id]) known [id] (above parents id)) → ofChain path known id)
    (hnil : ∀ path known start, ofJoined path known start [])
    (hcons : ∀ path known start id rest, ofChain path known id →
      (∀ other known', chain parents path known id = .ok (other, known') →
        ofJoined path known' (join start other) rest) →
      ofJoined path known start (id :: rest)) :
    (∀ path known id, ofChain path known id) ∧
      ∀ path known start ids, ofJoined path known start ids := by
  refine chain.mutual_induct parents ofChain ofJoined
    ?kept ?circle ?beyond ?found ?failed ?done ?next ?stopped
  case kept =>
    intro path known id found hkept
    exact hchain path known id fun hnew => by simp [hkept] at hnew
  case circle =>
    intro path known id _ hpath
    exact hchain path known id fun _ hfresh => absurd hpath hfresh
  case beyond =>
    intro path known id _ _ hbeyond
    apply hchain
    intro _ _
    simpa [above, hbeyond] using hnil (path ++ [id]) known [id]
  case found =>
    intro path known id _ _ ids hids _ _ _ ih
    exact hchain path known id fun _ _ => by simpa [above, hids] using ih
  case failed =>
    intro path known id _ _ ids hids _ _ ih
    exact hchain path known id fun _ _ => by simpa [above, hids] using ih
  case done => exact hnil
  case next =>
    intro path known start id rest other known' hwalk ihid ihrest
    apply hcons path known start id rest ihid
    intro other' known'' hwalk'
    rcases Prod.mk.inj (Except.ok.inj (hwalk.symm.trans hwalk')) with ⟨rfl, rfl⟩
    exact ihrest
  case stopped =>
    intro path known start id rest circle hwalk ihid
    apply hcons path known start id rest ihid
    intro other known' hwalk'
    simp [hwalk] at hwalk'

/-- Every walk that succeeds finds chains, whatever path it is on and whatever it rightly knows. -/
theorem walk_finds (parents : Parents) :
    (∀ path known id, FindsChain parents path known id) ∧
      ∀ path known start ids, FindsJoined parents path known start ids :=
  walk_induct parents (fun _ _ _ => findsChain_of_joined) findsJoined_nil
    (fun _ _ _ _ _ => findsJoined_cons)

/-- The walk over classes in order finds their chains. -/
theorem hasChain_of_chains {known : Known} (hright : Right parents known) {ids : List ClassId}
    {found : List (List ClassId)} (h : chains parents known ids = .ok found) :
    List.Forall₂ (HasChain parents) ids found := by
  induction ids generalizing known found with
  | nil =>
    rw [chains] at h
    rcases Except.ok.inj h with rfl
    exact .nil
  | cons id rest ih =>
    rw [chains] at h
    split at h
    · -- what is known after the first class is right for the others
      next first known' hchain =>
      rcases (walk_finds parents).1 [] known id first known' hright hchain with ⟨hfirst, hknown'⟩
      cases hothers : chains parents known' rest with
      | error circle => simp [hothers, Functor.map, Except.map] at h
      | ok others =>
        simp only [hothers, Functor.map, Except.map, Except.ok.injEq] at h
        subst h
        exact .cons hfirst (ih hknown' hothers)
    · simp at h

/-- If the walk over all classes succeeds, every class has the chain found at its position. -/
theorem hasChain_of_allChains {found : List (List ClassId)} (h : allChains parents = .ok found) :
    List.Forall₂ (HasChain parents) (List.range parents.length) found :=
  hasChain_of_chains (by simp [Right]) h

end ClassModel.Ancestry
