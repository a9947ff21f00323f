import ClassModel.Proofs.Model.Acceptance
import ClassModel.Proofs.Model.Single
import ClassModel.Proofs.Model.Visible

/-!
# Classes at other positions

Positions of classes are only a way to address them. If the classes of a schema stand at other
positions, each with its id and the owners of its fields changed to match, the schema is accepted as
before, and each class has the chain and the visible fields that it had, at other positions.

* `Class.moved` and its siblings — the same at another position;
* `Schema.Moved` — two schemas differ in positions alone, as those of a document in two orders do;
* `Names.Moved.resolve?` — names refer to the same classes;
* `Schema.Moved.wellFormed` — the rules on schemas do not look at positions;
* `Ancestry.HasChain.moved`, `Build.visibleOn_moved` — nor do chains and visible fields.
-/

namespace ClassModel

/-- Where the class of each position goes. -/
abbrev Move := Equiv.Perm ClassId

/-- A field with its owner at another position. -/
def Field.moved (move : Move) (field : Field) : Field := { field with owner := move field.owner }

/-- A class as declared, at another position. -/
def DeclaredClass.moved (move : Move) (cls : DeclaredClass) : DeclaredClass :=
  { cls with id := move cls.id, ownFields := cls.ownFields.map (Field.moved move) }

/-- The place of a field of a class at another position. -/
def FieldRef.moved (move : Move) (ref : FieldRef) : FieldRef := ⟨move ref.owner, ref.index⟩

/-- Entries with other values. -/
def Entries.mapValues {α β : Type} (f : α → β) (entries : Entries α) : Entries β :=
  entries.map fun entry => (entry.1, f entry.2)

/-- A class of a model, with all classes at other positions. -/
def Class.moved (move : Move) (cls : Class) : Class where
  toDeclaredClass := cls.toDeclaredClass.moved move
  parents := cls.parents.map move
  ancestors := cls.ancestors.map move
  visible := cls.visible.mapValues (FieldRef.moved move)

/-- The classes of a schema are those of another one, at other positions. -/
structure Schema.Moved (move : Move) (schema other : Schema) : Prop where
  qualifier : other.qualifier = schema.qualifier
  length : other.classes.length = schema.classes.length
  classes : ∀ i, other.classes[move i]? = (schema.classes[i]?).map (DeclaredClass.moved move)
  /-- Positions where no class stands stay as they are. -/
  beyond : ∀ i, schema.classes.length ≤ i → move i = i

/-! ## Lists in another order -/

/-- A move of all positions but the first. -/
def Move.later (move : Move) : Move where
  toFun
    | 0 => 0
    | i + 1 => move i + 1
  invFun
    | 0 => 0
    | i + 1 => move.symm i + 1
  left_inv i := by cases i <;> simp
  right_inv i := by cases i <;> simp

@[simp] theorem Move.later_succ (move : Move) (i : Nat) : move.later (i + 1) = move i + 1 := rfl

/-- A list in another order has its elements at other positions. -/
theorem exists_move_of_perm {α : Type} {xs ys : List α} (h : xs.Perm ys) :
    ∃ move : Move, (∀ i, ys[move i]? = xs[i]?) ∧ ∀ i, xs.length ≤ i → move i = i := by
  induction h with
  | nil => exact ⟨Equiv.refl _, fun _ => rfl, fun _ _ => rfl⟩
  | cons x _ ih =>
    rcases ih with ⟨move, hmove, hbeyond⟩
    refine ⟨Move.later move, ?_, ?_⟩
    · intro i
      cases i with
      | zero => rfl
      | succ i => simpa using hmove i
    · intro i hi
      cases i with
      | zero => rfl
      | succ i =>
        rw [Move.later_succ, hbeyond i (Nat.le_of_succ_le_succ hi)]
  | swap x y rest =>
    -- the first two change places
    have hbeyond : ∀ i : Nat, 2 ≤ i → Equiv.swap 0 1 i = i := by
      intro i hi
      have hzero : i ≠ 0 := by omega
      have hone : i ≠ 1 := by omega
      exact Equiv.swap_apply_of_ne_of_ne hzero hone
    refine ⟨Equiv.swap 0 1, ?_, ?_⟩
    · intro i
      match i with
      | 0 => simp
      | 1 => simp
      | i + 2 =>
        rw [hbeyond (i + 2) (Nat.le_add_left 2 i)]
        rfl
    · intro i hi
      exact hbeyond i (Nat.le_trans (Nat.le_add_left 2 _) hi)
  | trans hxy _ ih ih' =>
    rcases ih with ⟨move, hmove, hbeyond⟩
    rcases ih' with ⟨move', hmove', hbeyond'⟩
    refine ⟨move.trans move', ?_, ?_⟩
    · intro i
      rw [Equiv.trans_apply, hmove', hmove]
    · intro i hi
      rw [Equiv.trans_apply, hbeyond i hi, hbeyond' i (hxy.length_eq ▸ hi)]

/-! ## Names -/

/-- Distinct names are those of others, at other positions. -/
structure Names.Moved (move : Move) (names other : Names) : Prop where
  qualifier : other.qualifier = names.qualifier
  distinct : names.names.Nodup
  positions : ∀ i, other.names[move i]? = names.names[i]?

namespace Names

variable {names other : Names} {name : String}

theorem position?_eq_some_iff (hdistinct : names.names.Nodup) {i : ClassId} :
    names.position? name = some i ↔ names.names[i]? = some name := by
  rw [position?, List.idxOf?_eq_some_iff, List.getElem?_eq_some_iff]
  constructor
  · rintro ⟨hlt, hname, -⟩
    exact ⟨hlt, hname⟩
  · rintro ⟨hlt, hname⟩
    refine ⟨hlt, hname, fun j hj hsame => ?_⟩
    have heq := hdistinct.getElem_inj_iff.mp (hsame.trans hname.symm)
    omega

namespace Moved

variable {move : Move}

theorem positions_symm (h : names.Moved move other) (i : ClassId) :
    other.names[i]? = names.names[move.symm i]? := by
  rw [← h.positions, Equiv.apply_symm_apply]

theorem distinct_right (h : names.Moved move other) : other.names.Nodup := by
  rw [List.nodup_iff_getElem?_ne_getElem?]
  intro i j hlt hj hsame
  have hname := List.getElem?_eq_getElem hj
  have hi := (position?_eq_some_iff h.distinct).mpr
    ((h.positions_symm i).symm.trans (hsame.trans hname))
  have hj := (position?_eq_some_iff h.distinct).mpr ((h.positions_symm j).symm.trans hname)
  have heq : i = j := move.symm.injective (Option.some.inj (hi.symm.trans hj))
  omega

theorem position? (h : names.Moved move other) (name : String) :
    other.position? name = (names.position? name).map move := by
  apply Option.ext
  intro i
  rw [position?_eq_some_iff h.distinct_right, h.positions_symm, ← position?_eq_some_iff h.distinct,
    Option.map_eq_some_iff]
  constructor
  · intro hfound
    exact ⟨_, hfound, move.apply_symm_apply i⟩
  · rintro ⟨j, hfound, rfl⟩
    rw [Equiv.symm_apply_apply]
    exact hfound

theorem resolve? (h : names.Moved move other) (name : String) :
    other.resolve? name = (names.resolve? name).map move := by
  have hposition := h.position?
  unfold Names.resolve?
  rw [h.qualifier, hposition]
  cases names.position? name with
  | some id => rfl
  | none =>
    cases names.qualifier with
    | none => rfl
    | some q =>
      simp only [Option.map_none, hposition]
      cases names.position? (qualified q name) with
      | some id => rfl
      | none => cases stripped? q name <;> simp

end Moved

end Names

/-! ## Schemas -/

open Build

/-- Documents that list the same classes in another order declare the same schema but for
positions. -/
theorem Document.exists_moved_schema (document other : Document)
    (hqualifier : other.qualifier = document.qualifier)
    (hclasses : document.classes.Perm other.classes) :
    ∃ move, document.schema.Moved move other.schema := by
  rcases exists_move_of_perm hclasses with ⟨move, hmove, hbeyond⟩
  have hlength : ∀ d : Document, d.schema.classes.length = d.classes.length :=
    fun d => List.length_mapIdx
  refine ⟨move, ?_, ?_, ?_, ?_⟩
  · rw [schema, schema, hqualifier]
  · rw [hlength, hlength, hclasses.length_eq]
  · intro i
    simp only [schema, List.getElem?_mapIdx, hmove, Option.map_map]
    -- an entry declares at another position what it declares, moved there
    congr 1
    funext entry
    simp [ClassEntry.declared, DeclaredClass.moved, FieldDeclaration.ownedBy, Field.moved]
  · intro i hi
    exact hbeyond i (hlength document ▸ hi)

namespace Schema.Moved

variable {move : Move} {schema other : Schema}

theorem mem (h : schema.Moved move other) {cls : DeclaredClass} (hcls : cls ∈ other.classes) :
    ∃ old ∈ schema.classes, old.moved move = cls := by
  rcases List.mem_iff_getElem?.mp hcls with ⟨i, hi⟩
  rw [← move.apply_symm_apply i, h.classes, Option.map_eq_some_iff] at hi
  rcases hi with ⟨old, hold, hmoved⟩
  exact ⟨old, List.mem_of_getElem? hold, hmoved⟩

/-- The built-in classes stay behind all others. -/
theorem withBuiltins (h : schema.Moved move other) (i : ClassId) :
    (withBuiltins other.classes)[move i]? =
      ((withBuiltins schema.classes)[i]?).map (DeclaredClass.moved move) := by
  rw [withBuiltins_eq, withBuiltins_eq, h.length]
  by_cases hi : i < schema.classes.length
  · have hsome : (other.classes[move i]?).isSome := by
      rw [h.classes, List.getElem?_eq_getElem hi]
      rfl
    have hlt : move i < other.classes.length := by
      rcases Option.isSome_iff_exists.mp hsome with ⟨cls, hcls⟩
      exact (List.getElem?_eq_some_iff.mp hcls).1
    rw [List.getElem?_append_left hlt, List.getElem?_append_left hi]
    exact h.classes i
  · have hle : schema.classes.length ≤ i := Nat.le_of_not_lt hi
    have hstays : ∀ k, move (schema.classes.length + k) = schema.classes.length + k :=
      fun k => h.beyond _ (Nat.le_add_right _ k)
    rw [h.beyond i hle, List.getElem?_append_right hle,
      List.getElem?_append_right (h.length ▸ hle), h.length]
    match i - schema.classes.length with
    | 0 => simpa [DeclaredClass.moved, DeclaredClass.builtinOf] using (hstays 0).symm
    | 1 => simpa [DeclaredClass.moved, DeclaredClass.builtinOf] using (hstays 1).symm
    | k + 2 => rfl

theorem names (h : schema.Moved move other) (hfree : schema.NamesFree)
    (hdistinct : (schema.classes.map DeclaredClass.name).Nodup) :
    (namesOf schema).Moved move (namesOf other) where
  qualifier := h.qualifier
  distinct := distinct_withBuiltins hdistinct hfree
  positions := by
    intro i
    simp only [namesOf, List.getElem?_map, h.withBuiltins, Option.map_map]
    rfl

section

variable (h : schema.Moved move other) (hfree : schema.NamesFree)
  (hdistinct : (schema.classes.map DeclaredClass.name).Nodup)

include h hfree hdistinct

theorem knows {name : String} : other.Knows name ↔ schema.Knows name := by
  rw [← Schema.isSome_resolve?_iff, ← Schema.isSome_resolve?_iff,
    (h.names hfree hdistinct).resolve?, Option.isSome_map]

theorem links {i j : ClassId} (hlinks : other.Links i j) :
    schema.Links (move.symm i) (move.symm j) := by
  rcases hlinks with ⟨cls, hcls, parent, hparent, hresolve⟩
  rw [← move.apply_symm_apply i, h.withBuiltins, Option.map_eq_some_iff] at hcls
  rcases hcls with ⟨old, hold, rfl⟩
  rw [(h.names hfree hdistinct).resolve?, Option.map_eq_some_iff] at hresolve
  rcases hresolve with ⟨k, hk, rfl⟩
  rw [Equiv.symm_apply_apply]
  exact ⟨old, hold, parent, hparent, hk⟩

end

/-- The rules on schemas do not look at positions. -/
theorem wellFormed (h : schema.Moved move other)
    (hdistinct : (schema.classes.map DeclaredClass.name).Nodup) (hwell : schema.WellFormed) :
    other.WellFormed := by
  have hknows : ∀ name, other.Knows name ↔ schema.Knows name :=
    fun name => h.knows hwell.namesFree hdistinct
  constructor
  case namesFree =>
    intro cls hcls
    rcases h.mem hcls with ⟨old, hold, rfl⟩
    exact hwell.namesFree old hold
  case parentsKnown =>
    intro cls hcls parent hparent
    rcases h.mem hcls with ⟨old, hold, rfl⟩
    exact (hknows parent).mpr (hwell.parentsKnown old hold parent hparent)
  case acyclic =>
    intro i hcircle
    have hback := hcircle.lift move.symm fun i j => h.links hwell.namesFree hdistinct
    exact hwell.acyclic (move.symm i) hback
  case targetsKnown =>
    intro cls hcls field hfield hdangling
    rcases h.mem hcls with ⟨old, hold, rfl⟩
    rcases List.mem_map.mp hfield with ⟨field', hfield', rfl⟩
    rcases hdangling with ⟨link, hlink, hunknown⟩
    exact hwell.targetsKnown old hold field' hfield'
      ⟨link, hlink, fun hknown => hunknown ((hknows _).mpr hknown)⟩

end Schema.Moved

/-! ## Chains -/

namespace Ancestry

variable {move : Move} {parents parents' : Parents}

theorem map_join (move : Move) (found other : List ClassId) :
    (join found other).map move = join (found.map move) (other.map move) := by
  rw [join, join, List.map_append, List.filter_map]
  congr 2
  apply List.filter_congr
  intro id _
  have hmem : move id ∈ found.map move ↔ id ∈ found := List.mem_map_of_injective move.injective
  simp only [Function.comp_apply, hmem]

theorem map_joinAll {chainOf chainOf' : ClassId → List ClassId}
    (h : ∀ id, chainOf' (move id) = (chainOf id).map move) (found ids : List ClassId) :
    (joinAll chainOf found ids).map move = joinAll chainOf' (found.map move) (ids.map move) := by
  induction ids generalizing found with
  | nil => rfl
  | cons id rest ih => rw [joinAll_cons, ih, List.map_cons, joinAll_cons, map_join, h]

/-- Where parents are at other positions, so are chains. -/
theorem HasChain.moved (habove : ∀ id, above parents' (move id) = (above parents id).map move)
    {id : ClassId} {found : List ClassId} (h : HasChain parents id found) :
    HasChain parents' (move id) (found.map move) := by
  induction h with
  | of id chainOf _ ih =>
    let chainOf' : ClassId → List ClassId := fun other => (chainOf (move.symm other)).map move
    have hchain : ∀ other, chainOf' (move other) = (chainOf other).map move := by
      intro other
      simp only [chainOf', Equiv.symm_apply_apply]
    have hparents : ∀ parent ∈ above parents' (move id),
        HasChain parents' parent (chainOf' parent) := by
      intro parent hparent
      rw [habove] at hparent
      rcases List.mem_map.mp hparent with ⟨old, hold, rfl⟩
      rw [hchain]
      exact ih old hold
    have hjoined := HasChain.of (move id) chainOf' hparents
    rw [habove] at hjoined
    rwa [map_joinAll hchain]

end Ancestry

/-! ## Visible fields -/

namespace Entries

variable {α β : Type} {f : α → β} {entries : Entries α}

theorem get?_mapValues (name : String) :
    (entries.mapValues f).get? name = (entries.get? name).map f := by
  induction entries with
  | nil => rfl
  | cons entry rest ih =>
    have hcons : mapValues f (entry :: rest) = (entry.1, f entry.2) :: mapValues f rest := rfl
    rw [hcons, get?, get?, ih]
    split
    · rfl
    · rfl

theorem put_mapValues (name : String) (value : α) :
    (entries.mapValues f).put name (f value) = (entries.put name value).mapValues f := by
  induction entries with
  | nil => rfl
  | cons entry rest ih =>
    have hcons : ∀ (first : String × α) (others : Entries α),
        mapValues f (first :: others) = (first.1, f first.2) :: mapValues f others :=
      fun _ _ => rfl
    rw [hcons, put, put, ih]
    split
    · rfl
    · split
      · rfl
      · rfl

theorem putNew_mapValues (name : String) (value : α) :
    (entries.mapValues f).putNew name (f value) = (entries.putNew name value).mapValues f := by
  unfold putNew
  rw [get?_mapValues, Option.isSome_map, put_mapValues]
  split
  · rfl
  · rfl

theorem names_mapValues : (entries.mapValues f).names = entries.names := by
  simp [mapValues, names, Function.comp_def]

end Entries

namespace Build

variable {move : Move}

theorem addFields_moved (owner : ClassId) (fields : List Field) (visible : Entries FieldRef) :
    addFields (move owner) (fields.map (Field.moved move))
        (visible.mapValues (FieldRef.moved move)) =
      (addFields owner fields visible).mapValues (FieldRef.moved move) := by
  unfold addFields
  rw [List.zipIdx_map, List.foldl_map]
  refine List.foldl_hom (Entries.mapValues (FieldRef.moved move)) ?_
  rintro visible ⟨field, index⟩
  exact Entries.putNew_mapValues (f := FieldRef.moved move) field.name ⟨owner, index⟩

theorem visibleOn_moved {classes others : List DeclaredClass}
    (h : ∀ i, others[move i]? = (classes[i]?).map (DeclaredClass.moved move))
    (chain : List ClassId) :
    visibleOn others (chain.map move) =
      (visibleOn classes chain).mapValues (FieldRef.moved move) := by
  unfold visibleOn
  rw [List.foldl_map]
  refine @List.foldl_hom _ _ _ (Entries.mapValues (FieldRef.moved move)) _ _ chain [] ?_
  intro visible id
  rw [h]
  cases classes[id]? with
  | none => rfl
  | some cls => exact addFields_moved id cls.ownFields visible

end Build

end ClassModel
