import Mathlib
import ClassModel.Model.Build
import ClassModel.Proofs.Guarded.Basic
import ClassModel.Proofs.Model.Circle

/-!
# The walk over the parents, guarded

The walk can be made in place: it has a table with the chain of each class once that is known, the
set of classes being visited, and the path to where it is. Here it looks up positions that may not
be there, cuts a circle out of its path by position, relies on its path having no class twice, and
may nest its calls only so deep. Over parents that are all there it does none of this wrongly, and
comes to what `Ancestry.allChains` comes to.

* `Walk.chain` — the walk from a class, in place and with its guards;
* `Walk.Matches` — the table is the chains known, and the classes visited are those on the path;
* `Walk.allChains_eq` — with calls nested no deeper than there are classes, and one more, the walk
  ends as the plain one does;
* `allChains_ends` — so it always ends, and what it reports as a circle is one.
-/

namespace ClassModel.Ancestry

/-- The parents of all classes are classes. -/
def Linked (parents : Parents) : Prop := ∀ ids ∈ parents, ∀ id ∈ ids, id < parents.length

instance (parents : Parents) : Decidable (Linked parents) :=
  inferInstanceAs (Decidable (∀ ids ∈ parents, ∀ id ∈ ids, id < parents.length))

/-- The state of a walk. -/
structure Walk where
  /-- The chain of each class, once it is known. -/
  chains : List (Option (List ClassId))
  /-- The classes being visited. -/
  visiting : Finset ClassId
  /-- The classes on the way to where the walk is. -/
  path : List ClassId

namespace Walk

/-- A walk before its first step. -/
def start (parents : Parents) : Walk := ⟨List.replicate parents.length none, ∅, []⟩

/-- Goes on to a class. -/
def enter (walk : Walk) (id : ClassId) : Walk :=
  { walk with visiting := insert id walk.visiting, path := walk.path ++ [id] }

/-- Goes back from a class. -/
def leave (walk : Walk) (id : ClassId) : Walk :=
  { walk with visiting := walk.visiting.erase id, path := walk.path.dropLast }

/-- Keeps the chain of a class. -/
def keep (walk : Walk) (id : ClassId) (found : List ClassId) : Guarded (List ClassId) Walk := do
  let _ ← Guarded.nth walk.chains id
  return { walk with chains := walk.chains.set id (some found) }

/-- The circle closed by meeting a class, cut out of the path from where the class stands in it. -/
def circle (walk : Walk) (id : ClassId) : List ClassId :=
  walk.path.drop ((walk.path.idxOf? id).getD 0) ++ [id]

/-- Joins to a chain that of one more class. -/
def joinNext (chainOf : Walk → ClassId → Guarded (List ClassId) (List ClassId × Walk)) :
    List ClassId × Walk → ClassId → Guarded (List ClassId) (List ClassId × Walk)
  | (found, walk), id => do
    let (other, walk) ← chainOf walk id
    return (join found other, walk)

/-- The chain of a class and the walk after it, with calls nested no deeper than given. -/
def chain (parents : Parents) :
    Nat → Walk → ClassId → Guarded (List ClassId) (List ClassId × Walk)
  | 0, _, _ => .error .tooDeep
  | depth + 1, walk, id => do
    match ← Guarded.nth walk.chains id with
    | some found => return (found, walk)
    | none =>
      if id ∈ walk.visiting then .error (.refused (walk.circle id))
      else
        let walk := walk.enter id
        Guarded.expect walk.path.Nodup
        let ids ← Guarded.nth parents id
        let (found, walk) ← ids.foldlM (joinNext (chain parents depth)) ([id], walk)
        let walk ← (walk.leave id).keep id found
        return (found, walk)

/-- The walk from one class after another. -/
def overAll (parents : Parents) (depth : Nat) (walk : Walk) (ids : List ClassId) :
    Guarded (List ClassId) Walk :=
  ids.foldlM (fun walk id => do return (← chain parents depth walk id).2) walk

/-- The chain of every class, by position, as the walk leaves them in its table. -/
def allChains (parents : Parents) (depth : Nat) :
    Guarded (List ClassId) (List (List ClassId)) := do
  let walk ← overAll parents depth (start parents) (List.range parents.length)
  return walk.chains.map fun found => found.getD []

end Walk

variable {parents : Parents} {path : List ClassId} {known : Known} {id : ClassId}

/-! ## The plain walk, case by case -/

theorem chain_of_known {found : List ClassId} (h : known.lookup id = some found) :
    chain parents path known id = .ok (found, known) := by
  unfold chain
  rw [h]

theorem chain_of_met (hnew : known.lookup id = none) (hpath : id ∈ path) :
    chain parents path known id = .error (circle path id) := by
  unfold chain
  rw [hnew]
  simp [hpath]

theorem chain_of_fresh (hnew : known.lookup id = none) (hpath : id ∉ path) {ids : List ClassId}
    (hids : parents[id]? = some ids) :
    chain parents path known id = (do
      let (found, last) ← joined parents (path ++ [id]) known [id] ids
      return (found, (id, found) :: last)) := by
  rw [chain, hnew]
  simp only [hpath, dite_false]
  split
  · next hbeyond => simp [hids] at hbeyond
  · next ids' hids' =>
    obtain rfl : ids = ids' := Option.some.inj (hids.symm.trans hids')
    cases joined parents (path ++ [id]) known [id] ids <;> rfl

theorem joined_cons (start rest : List ClassId) :
    joined parents path known start (id :: rest) = (do
      let (other, known) ← chain parents path known id
      joined parents path known (join start other) rest) := by
  rw [joined]
  cases chain parents path known id <;> rfl

theorem chains_cons (rest : List ClassId) :
    chains parents known (id :: rest) = (do
      let (found, known) ← chain parents [] known id
      let others ← chains parents known rest
      return found :: others) := by
  rw [chains]
  cases chain parents [] known id <;> rfl

theorem above_of_getElem? {ids : List ClassId} (h : parents[id]? = some ids) :
    above parents id = ids := by
  rw [above, h]
  rfl

/-- Where an element stands is where what comes before it ends. -/
theorem drop_idxOf? (h : id ∈ path) :
    path.drop ((path.idxOf? id).getD 0) = path.dropWhile (· ≠ id) := by
  induction path with
  | nil => simp at h
  | cons first rest ih =>
    by_cases hfirst : first = id
    · simp [hfirst, List.idxOf?_cons]
    · have hrest : id ∈ rest := List.mem_of_ne_of_mem (Ne.symm hfirst) h
      rw [List.dropWhile_cons_of_pos (by simpa using hfirst), ← ih hrest]
      cases hplace : rest.idxOf? id with
      | none => exact absurd hrest (List.idxOf?_eq_none_iff.mp hplace)
      | some place => simp [List.idxOf?_cons, hfirst, hplace]

/-! ## Both walks step by step -/

/-- A guarded walk is where the plain one is: the chains in its table are those known, and the
classes that it is visiting are those on its path, each once. -/
structure Walk.Matches (parents : Parents) (path : List ClassId) (known : Known) (walk : Walk) :
    Prop where
  chains : walk.chains = (List.range parents.length).map fun id => known.lookup id
  visiting : ∀ id, id ∈ walk.visiting ↔ id ∈ path
  distinct : path.Nodup
  path : walk.path = path

/-- Two walks have come back with one chain, each to where it was. -/
def SameChain (parents : Parents) (path : List ClassId) (guarded : List ClassId × Walk)
    (plain : List ClassId × Known) : Prop :=
  guarded.1 = plain.1 ∧ guarded.2.Matches parents path plain.2

namespace Walk.Matches

variable {walk : Walk}

theorem start (parents : Parents) : (Walk.start parents).Matches parents [] [] where
  chains := by simp [Walk.start, List.map_const']
  visiting := by simp [Walk.start]
  distinct := List.nodup_nil
  path := rfl

theorem nth_chains (h : walk.Matches parents path known) (hid : id < parents.length) :
    (Guarded.nth walk.chains id : Guarded (List ClassId) _) = .ok (known.lookup id) := by
  rw [Guarded.nth_eq_ok, h.chains]
  simp [hid]

theorem enter (h : walk.Matches parents path known) (hpath : id ∉ path) :
    (walk.enter id).Matches parents (path ++ [id]) known where
  chains := h.chains
  visiting other := by
    rw [Walk.enter, Finset.mem_insert, h.visiting, List.mem_append, List.mem_singleton, or_comm]
  distinct := by
    rw [← List.concat_eq_append]
    exact h.distinct.concat hpath
  path := by rw [Walk.enter, h.path]

theorem leave (h : walk.Matches parents (path ++ [id]) known) :
    (walk.leave id).Matches parents path known where
  chains := h.chains
  visiting other := by
    -- the class that is left was on the path once, at its end
    have hdistinct := h.distinct
    rw [List.nodup_append] at hdistinct
    rw [Walk.leave, Finset.mem_erase, h.visiting, List.mem_append, List.mem_singleton]
    constructor
    · rintro ⟨hne, hpath | rfl⟩
      · exact hpath
      · exact absurd rfl hne
    · intro hpath
      exact ⟨hdistinct.2.2 other hpath id (List.mem_singleton_self id), Or.inl hpath⟩
  distinct := h.distinct.of_append_left
  path := by rw [Walk.leave, h.path, List.dropLast_concat]

theorem keep (h : walk.Matches parents path known) (hid : id < parents.length)
    (found : List ClassId) :
    ∃ next, walk.keep id found = .ok next ∧ next.Matches parents path ((id, found) :: known) := by
  refine ⟨{ walk with chains := walk.chains.set id (some found) }, ?_, ?_, h.visiting,
    h.distinct, h.path⟩
  · rw [Walk.keep, h.nth_chains hid]
    rfl
  · apply List.ext_getElem
    · simp [h.chains]
    · intro other _ _
      by_cases hother : other = id
      · simp [hother]
      · have hne : (other == id) = false := by simpa using hother
        simp [h.chains, Ne.symm hother, List.lookup_cons, hne]

/-- The class met stands in the path, so the circle is cut out from there. -/
theorem circle (h : walk.Matches parents path known) (hmet : id ∈ path) :
    walk.circle id = Ancestry.circle path id := by
  rw [Walk.circle, h.path, Ancestry.circle, drop_idxOf? hmet]

/-! A walk from a class, case by case as the plain one. -/

theorem chain_of_known (h : walk.Matches parents path known) (hid : id < parents.length)
    {found : List ClassId} (hkept : known.lookup id = some found) (depth : Nat) :
    Walk.chain parents (depth + 1) walk id = .ok (found, walk) := by
  rw [Walk.chain, h.nth_chains hid, hkept]
  rfl

theorem chain_of_met (h : walk.Matches parents path known) (hid : id < parents.length)
    (hnew : known.lookup id = none) (hpath : id ∈ path) (depth : Nat) :
    Walk.chain parents (depth + 1) walk id = .error (.refused (Ancestry.circle path id)) := by
  have hmet : id ∈ walk.visiting := (h.visiting id).mpr hpath
  rw [Walk.chain, h.nth_chains hid, hnew, ← h.circle hpath]
  simp only [bind_ok, hmet, if_true]

/-- A class that is new is looked up where its parents are, and no class is on the path twice. -/
theorem chain_of_fresh (h : walk.Matches parents path known) (hnew : known.lookup id = none)
    (hpath : id ∉ path) {ids : List ClassId} (hids : parents[id]? = some ids) (depth : Nat) :
    Walk.chain parents (depth + 1) walk id = (do
      let (found, walk) ← ids.foldlM (Walk.joinNext (Walk.chain parents depth))
        ([id], walk.enter id)
      let walk ← (walk.leave id).keep id found
      return (found, walk)) := by
  have hid := (List.getElem?_eq_some_iff.mp hids).1
  have hfresh : id ∉ walk.visiting := fun hmet => hpath ((h.visiting id).mp hmet)
  have hthere : (Guarded.nth parents id : Guarded (List ClassId) _) = .ok ids :=
    Guarded.nth_eq_ok.mpr hids
  have hdistinct : (walk.enter id).path.Nodup := by
    have hentered := h.enter hpath
    rw [hentered.path]
    exact hentered.distinct
  rw [Walk.chain, h.nth_chains hid, hnew]
  simp only [bind_ok, hfresh, if_false, Guarded.expect_of hdistinct, hthere]

end Walk.Matches

/-- A walk from a class goes as the plain one, if its calls may be nested as deep as there are
classes that are not on the path. -/
def ChainMatches (parents : Parents) (path : List ClassId) (known : Known) (id : ClassId) : Prop :=
  ∀ (depth : Nat) (walk : Walk), walk.Matches parents path known →
    unvisited parents path < depth → id < parents.length →
    Agree (SameChain parents path) (Walk.chain parents depth walk id)
      (guarded (chain parents path known id))

/-- A walk from several classes goes as the plain one, under the same conditions. -/
def JoinMatches (parents : Parents) (path : List ClassId) (known : Known)
    (start ids : List ClassId) : Prop :=
  ∀ (depth : Nat) (walk : Walk), walk.Matches parents path known →
    unvisited parents path < depth → (∀ id ∈ ids, id < parents.length) →
    Agree (SameChain parents path)
      (ids.foldlM (Walk.joinNext (Walk.chain parents depth)) (start, walk))
      (guarded (joined parents path known start ids))

theorem chainMatches_of_joined (hlinked : Linked parents)
    (h : known.lookup id = none → id ∉ path →
      JoinMatches parents (path ++ [id]) known [id] (above parents id)) :
    ChainMatches parents path known id := by
  intro depth walk hwalk hdepth hid
  cases depth with
  | zero => simp at hdepth
  | succ depth =>
    cases hkept : known.lookup id with
    | some found =>
      rw [hwalk.chain_of_known hid hkept, chain_of_known hkept]
      exact .ok ⟨rfl, hwalk⟩
    | none =>
      by_cases hpath : id ∈ path
      · rw [hwalk.chain_of_met hid hkept hpath, chain_of_met hkept hpath]
        exact .error _
      · -- one class more is on the path, so one less is needed of the depth
        have hbelow : unvisited parents (path ++ [id]) < depth :=
          Nat.lt_of_lt_of_le (unvisited_append_lt hid hpath) (Nat.le_of_lt_succ hdepth)
        have hids := List.getElem?_eq_getElem hid
        have hjoined := h hkept hpath depth (walk.enter id) (hwalk.enter hpath) hbelow
        rw [above_of_getElem? hids] at hjoined
        rw [hwalk.chain_of_fresh hkept hpath hids, chain_of_fresh hkept hpath hids, guarded_bind]
        refine (hjoined (hlinked _ (List.getElem_mem hid))).bind ?_
        rintro ⟨found, last⟩ ⟨_, later⟩ ⟨rfl, hlast⟩
        rcases hlast.leave.keep hid found with ⟨kept, hkeep, hmatches⟩
        simp only [hkeep, bind_ok]
        exact .ok ⟨rfl, hmatches⟩

theorem joinMatches_nil (path : List ClassId) (known : Known) (start : List ClassId) :
    JoinMatches parents path known start [] := by
  intro depth walk hwalk _ _
  rw [joined]
  exact .ok ⟨rfl, hwalk⟩

theorem joinMatches_cons {start rest : List ClassId} (hid : ChainMatches parents path known id)
    (hrest : ∀ other known', chain parents path known id = .ok (other, known') →
      JoinMatches parents path known' (join start other) rest) :
    JoinMatches parents path known start (id :: rest) := by
  intro depth walk hwalk hdepth hids
  rw [List.forall_mem_cons] at hids
  rw [joined_cons, guarded_bind, List.foldlM_cons, Walk.joinNext, bind_assoc]
  refine (hid depth walk hwalk hdepth hids.1).and_eq_ok.bind ?_
  rintro ⟨other, last⟩ ⟨_, known'⟩ ⟨⟨rfl, hlast⟩, hchain⟩
  exact hrest other known' hchain depth last hlast hdepth hids.2

/-- Every walk goes as the plain one, on whatever path it is and whatever is known by then. -/
theorem walk_matches (hlinked : Linked parents) :
    (∀ path known id, ChainMatches parents path known id) ∧
      ∀ path known start ids, JoinMatches parents path known start ids :=
  walk_induct parents (fun _ _ _ => chainMatches_of_joined hlinked) joinMatches_nil
    (fun _ _ _ _ _ => joinMatches_cons)

/-! ## What a walk keeps -/

/-- Chains known before are known after, unchanged. -/
def Keeps (known later : Known) : Prop :=
  ∀ id found, known.lookup id = some found → later.lookup id = some found

theorem Keeps.refl (known : Known) : Keeps known known := fun _ _ h => h

theorem Keeps.trans {known later last : Known} (h : Keeps known later) (hlater : Keeps later last) :
    Keeps known last :=
  fun id found hfound => hlater id found (h id found hfound)

theorem Keeps.cons {known later : Known} (h : Keeps known later) (hnew : known.lookup id = none)
    (found : List ClassId) : Keeps known ((id, found) :: later) := by
  intro other kept hkept
  have hne : (other == id) = false := by
    rw [beq_eq_false_iff_ne]
    rintro rfl
    simp [hnew] at hkept
  rw [List.lookup_cons, hne]
  exact h other kept hkept

/-- A walk from a class keeps the chains that are known, and the chain that it finds. -/
def ChainKeeps (parents : Parents) (path : List ClassId) (known : Known) (id : ClassId) : Prop :=
  ∀ found later, chain parents path known id = .ok (found, later) →
    Keeps known later ∧ later.lookup id = some found

/-- A walk from several classes keeps the chains that are known. -/
def JoinKeeps (parents : Parents) (path : List ClassId) (known : Known)
    (start ids : List ClassId) : Prop :=
  ∀ found later, joined parents path known start ids = .ok (found, later) → Keeps known later

theorem chainKeeps_of_joined (h : known.lookup id = none → id ∉ path →
      JoinKeeps parents (path ++ [id]) known [id] (above parents id)) :
    ChainKeeps parents path known id := by
  intro found later hchain
  rcases chain_eq_ok hchain with ⟨hkept, rfl⟩ | ⟨hnew, hpath, last, hjoined, rfl⟩
  · exact ⟨.refl _, hkept⟩
  · exact ⟨(h hnew hpath found last hjoined).cons hnew found, List.lookup_cons_self⟩

theorem joinKeeps_nil (path : List ClassId) (known : Known) (start : List ClassId) :
    JoinKeeps parents path known start [] := by
  intro found later h
  rw [joined] at h
  rcases Prod.mk.inj (Except.ok.inj h) with ⟨rfl, rfl⟩
  exact .refl _

theorem joinKeeps_cons {start rest : List ClassId} (hid : ChainKeeps parents path known id)
    (hrest : ∀ other known', chain parents path known id = .ok (other, known') →
      JoinKeeps parents path known' (join start other) rest) :
    JoinKeeps parents path known start (id :: rest) := by
  intro found later h
  rw [joined_cons] at h
  rcases bind_eq_ok.mp h with ⟨⟨other, mid⟩, hother, hlater⟩
  exact (hid other mid hother).1.trans (hrest other mid hother found later hlater)

/-- Every walk that succeeds keeps what is known. -/
theorem walk_keeps (parents : Parents) :
    (∀ path known id, ChainKeeps parents path known id) ∧
      ∀ path known start ids, JoinKeeps parents path known start ids :=
  walk_induct parents (fun _ _ _ => chainKeeps_of_joined) joinKeeps_nil
    (fun _ _ _ _ _ => joinKeeps_cons)

/-! ## The whole walk -/

theorem unvisited_le (parents : Parents) (path : List ClassId) :
    unvisited parents path ≤ parents.length := by
  have hle := List.length_filter_le (fun id => decide (id ∉ path)) (List.range parents.length)
  rwa [List.length_range] at hle

/-- A guarded walk from one class after another knows in the end what the plain one has found. -/
structure Walk.Finds (parents : Parents) (known : Known) (ids : List ClassId) (walk : Walk)
    (found : List (List ClassId)) (later : Known) : Prop where
  goes : walk.Matches parents [] later
  keeps : Keeps known later
  found : List.Forall₂ (fun id chain => later.lookup id = some chain) ids found

theorem overAll_matches (hlinked : Linked parents) {depth : Nat} {walk : Walk}
    (hwalk : walk.Matches parents [] known) (hdepth : parents.length < depth) {ids : List ClassId}
    (hids : ∀ id ∈ ids, id < parents.length) :
    Agree (fun walk found => ∃ later, walk.Finds parents known ids found later)
      (walk.overAll parents depth ids) (guarded (chains parents known ids)) := by
  induction ids generalizing walk known with
  | nil =>
    rw [chains]
    exact .ok ⟨known, hwalk, .refl known, .nil⟩
  | cons id rest ih =>
    rw [List.forall_mem_cons] at hids
    have hunvisited := Nat.lt_of_le_of_lt (unvisited_le parents []) hdepth
    have hfirst := (walk_matches hlinked).1 [] known id depth walk hwalk hunvisited hids.1
    rw [chains_cons, guarded_bind, Walk.overAll, List.foldlM_cons, bind_assoc]
    refine hfirst.and_eq_ok.bind ?_
    rintro ⟨first, next⟩ ⟨_, mid⟩ ⟨⟨rfl, hnext⟩, hchain⟩
    rcases (walk_keeps parents).1 [] known id first mid hchain with ⟨hmid, hlookup⟩
    rw [pure_bind, guarded_bind, ← bind_pure (List.foldlM _ next rest)]
    refine (ih hnext hids.2).bind ?_
    rintro last others ⟨later, hlast, hkeeps, hothers⟩
    exact .ok ⟨later, hlast, hmid.trans hkeeps, .cons (hkeeps id first hlookup) hothers⟩

/-- The walk over all classes that are linked ends as the plain one, with calls nested no deeper
than there are classes, and one more. -/
theorem Walk.allChains_eq (hlinked : Linked parents) :
    Walk.allChains parents (parents.length + 1) = guarded (Ancestry.allChains parents) := by
  have hids : ∀ id ∈ List.range parents.length, id < parents.length := fun _ => List.mem_range.mp
  have hall := overAll_matches hlinked (.start parents) (Nat.lt_succ_self _) hids
  rw [Walk.allChains, Ancestry.allChains, ← bind_pure (guarded _)]
  refine hall.bind_eq ?_
  rintro walk found ⟨later, hwalk, -, hfound⟩
  have htable : walk.chains.map (fun found => found.getD []) = found := by
    rw [hwalk.chains, List.map_map]
    rw [← List.forall₂_eq_eq_eq, List.forall₂_map_left_iff]
    exact hfound.imp fun id chain hchain => by simp [hchain]
  rw [htable]

/-! ## Circles by name -/

/-- What stands behind the first of a row of classes is a parent of what stands before it. -/
theorem exists_extends_of_isChain {ids : List ClassId} (h : (id :: ids).IsChain (Extends parents))
    {parent : ClassId} (hparent : parent ∈ ids) : ∃ cls, Extends parents cls parent := by
  induction ids generalizing id with
  | nil => simp at hparent
  | cons next rest ih =>
    rw [List.isChain_cons_cons] at h
    rcases List.mem_cons.mp hparent with rfl | hrest
    · exact ⟨id, h.1⟩
    · exact ih h.2 hrest

theorem Linked.lt_of_extends (hlinked : Linked parents) {parent : ClassId}
    (h : Extends parents id parent) : parent < parents.length := by
  cases hids : parents[id]? with
  | none => simp [Extends, above, hids] at h
  | some ids =>
    rw [Extends, above_of_getElem? hids] at h
    exact hlinked ids (List.mem_of_getElem? hids) parent h

/-- The chain of a class goes over linked classes that are there. -/
theorem HasChain.lt (hlinked : Linked parents) (hid : id < parents.length) {found : List ClassId}
    (h : HasChain parents id found) : ∀ other ∈ found, other < parents.length := by
  intro other hother
  -- an ancestor is the class itself, or the parent of some class
  rcases Relation.ReflTransGen.cases_tail (h.mem_iff.mp hother) with rfl | ⟨child, -, hextends⟩
  · exact hid
  · exact hlinked.lt_of_extends hextends

/-- A circle of linked classes goes over classes that are there. -/
theorem Circle.lt (hlinked : Linked parents) {ids : List ClassId} (h : Circle parents ids) :
    ∀ id ∈ ids, id < parents.length := by
  rcases h.closed with ⟨first, rest, rfl⟩
  have hrest : ∀ id ∈ rest ++ [first], id < parents.length := by
    intro id hid
    rcases exists_extends_of_isChain h.up hid with ⟨cls, hcls⟩
    exact hlinked.lt_of_extends hcls
  intro id hid
  rcases List.mem_cons.mp hid with rfl | hmem
  · exact hrest id (by simp)
  · exact hrest id hmem

/-- What is said of a circle of linked classes is the name of its first class, and the names of all
in order. -/
theorem Circle.exists_texts (hlinked : Linked parents) {names : Names}
    (hnames : names.names.length = parents.length) {ids : List ClassId} (h : Circle parents ids) :
    ∃ cls rest, Build.circleError names ids = .cyclicInheritance cls (cls :: rest ++ [cls]) ∧
      List.Forall₂ (fun id text => names.names[id]? = some text) ids (cls :: rest ++ [cls]) ∧
      (names.names.Nodup → (cls :: rest).Nodup) := by
  have hlt := h.lt hlinked
  rw [← hnames] at hlt
  have hlookups := (mapM_eq_ok.mp (Guarded.mapM_nth (ε := Unit) hlt)).imp fun _ _ =>
    Guarded.nth_eq_ok.mp
  have hdistinct := h.distinct
  rcases h.closed with ⟨first, others, rfl⟩
  obtain ⟨cls, hfirst⟩ : ∃ cls, names.names[first]? = some cls :=
    ⟨_, List.getElem?_eq_getElem (hlt first List.mem_cons_self)⟩
  have hstart : (first :: others).filterMap (fun id => names.names[id]?) =
      cls :: others.filterMap fun id => names.names[id]? := List.filterMap_cons_some hfirst
  have htexts : (first :: others ++ [first]).filterMap (fun id => names.names[id]?) =
      cls :: others.filterMap (fun id => names.names[id]?) ++ [cls] := by
    rw [List.filterMap_append, hstart, List.filterMap_cons_some hfirst, List.filterMap_nil]
  refine ⟨cls, others.filterMap fun id => names.names[id]?, ?_, ?_, ?_⟩
  · rw [Build.circleError, htexts]
    rfl
  · rwa [htexts] at hlookups
  · intro hnodup
    rw [List.dropLast_concat] at hdistinct
    rw [← hstart]
    -- at two positions stand two names
    refine hdistinct.filterMap ?_
    intro i j text hi hj
    rcases List.getElem?_eq_some_iff.mp hi with ⟨hlt, rfl⟩
    exact hnodup.getElem_inj_iff.mp ((List.getElem?_eq_some_iff.mp hj).2).symm

/-- The walk over the parents always ends, be there circles or not. Its calls are nested no deeper
than there are classes, and one more; the classes on its path are distinct, and it looks up none
that is not there. What it reports as a circle goes over distinct classes, each having the next
among its parents, back to the first; it is told by their names, as one of the first class. -/
theorem allChains_ends (hlinked : Linked parents) {names : Names}
    (hnames : names.names.length = parents.length) :
    Walk.allChains parents (parents.length + 1) = guarded (allChains parents) ∧
      ∀ circle, allChains parents = .error circle →
        Circle parents circle ∧
          ∃ cls rest, Build.circleError names circle =
              .cyclicInheritance cls (cls :: rest ++ [cls]) ∧
            List.Forall₂ (fun id text => names.names[id]? = some text) circle
              (cls :: rest ++ [cls]) ∧
            (names.names.Nodup → (cls :: rest).Nodup) := by
  refine ⟨Walk.allChains_eq hlinked, fun circle h => ?_⟩
  have hcircle := circle_of_allChains h
  exact ⟨hcircle, hcircle.exists_texts hlinked hnames⟩

/-- Four classes, the last of which leads to a circle of the others. -/
theorem allChains_ends_ring :
    Linked [[1], [2], [0], [0]] ∧
      Walk.allChains [[1], [2], [0], [0]] 5 = .error (.refused [0, 1, 2, 0]) ∧
      ∃ cls rest, Build.circleError ⟨none, ["A", "B", "C", "D"]⟩ [0, 1, 2, 0] =
          .cyclicInheritance cls (cls :: rest ++ [cls]) ∧
        (cls :: rest).Nodup := by
  have hlinked : Linked [[1], [2], [0], [0]] := by decide
  have hwalk : allChains [[1], [2], [0], [0]] = .error [0, 1, 2, 0] := by cbv
  have hnames : (⟨none, ["A", "B", "C", "D"]⟩ : Names).names.length =
      ([[1], [2], [0], [0]] : Parents).length := rfl
  rcases allChains_ends hlinked hnames with ⟨hends, hcircles⟩
  rcases hcircles _ hwalk with ⟨-, cls, rest, herror, -, hdistinct⟩
  refine ⟨hlinked, ?_, cls, rest, herror, hdistinct (by decide)⟩
  rw [hwalk] at hends
  exact hends

end ClassModel.Ancestry
