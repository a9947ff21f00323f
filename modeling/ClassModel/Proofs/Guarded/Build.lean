import ClassModel.Proofs.Guarded.Walk
import ClassModel.Proofs.Model.Built

/-!
# The build, guarded

The build of a model hands positions from step to step: names lead to the ids stored with classes,
and these are looked up among the classes, in the walk over the parents, for the names on a circle,
and for the own fields of each class of a chain. Here each look-up is guarded, and names lead to the
ids that are stored, whatever they are. A declared schema has each class at the position that its id
names, so no look-up goes wrong.

* `Guarded.ofSchema` — the build with guarded look-ups;
* `Guarded.resolve?_eq` — stored ids are positions, where each class stands at its own;
* `Guarded.ofSchema_eq` — of a declared schema it makes what `Model.ofSchema` makes.
-/

namespace ClassModel

open Ancestry

/-- The three ways in which a name leads to a class, in order. -/
theorem Names.resolve?_eq_or (names : Names) (name : String) :
    names.resolve? name = (names.position? name).or (names.qualifier.bind fun q =>
      (names.position? (qualified q name)).or ((stripped? q name).bind names.position?)) := by
  rw [resolve?]
  cases names.position? name with
  | some id => rfl
  | none =>
    cases names.qualifier with
    | none => rfl
    | some q => cases hqualified : names.position? (qualified q name) <;> simp [hqualified]

namespace Guarded

/-! ## The build -/

/-- The id stored with the class of exactly this name. -/
def idOf? (classes : List DeclaredClass) (name : String) : Option ClassId :=
  (classes.find? fun cls => cls.name = name).map DeclaredClass.id

/-- The id stored with the class that a name refers to: as given, with the namespace before it, or
with the namespace taken off. -/
def resolve? (qualifier : Option String) (classes : List DeclaredClass) (name : String) :
    Option ClassId :=
  (idOf? classes name).or <| qualifier.bind fun q =>
    (idOf? classes (Names.qualified q name)).or ((Names.stripped? q name).bind (idOf? classes))

/-- The ids that the parent names of a class lead to. -/
def parentsOf (resolve : String → Option ClassId) (cls : DeclaredClass) :
    Guarded BuildError (List ClassId) :=
  cls.parentNames.mapM fun parent =>
    match resolve parent with
    | some id => .ok id
    | none => .error (.refused (.unresolvedParent cls.name parent))

/-- The refusal of a circle, told by the names of its classes. -/
def circleError {α : Type} (classes : List DeclaredClass) (circle : List ClassId) :
    Guarded BuildError α := do
  let found ← circle.mapM (nth classes)
  let texts := found.map DeclaredClass.name
  .error (.refused (.cyclicInheritance (texts.headD "") texts))

/-- The chain of each class, by the walk in place. -/
def chainsOf (classes : List DeclaredClass) (parents : Parents) :
    Guarded BuildError (List (List ClassId)) :=
  match Walk.allChains parents (parents.length + 1) with
  | .ok chains => .ok chains
  | .error (.refused circle) => circleError classes circle
  | .error (.outOfRange index) => .error (.outOfRange index)
  | .error .tooDeep => .error .tooDeep
  | .error .unexpected => .error .unexpected

/-- The fields visible on a class with a given chain. -/
def visibleOn (classes : List DeclaredClass) (chain : List ClassId) :
    Guarded BuildError (Entries FieldRef) :=
  chain.foldlM (fun visible id => do
    return Build.addFields id (← nth classes id).ownFields visible) []

/-- Checks the target of a field. -/
def checkField (resolve : String → Option ClassId) (cls : String) (field : Field) :
    Guarded BuildError Unit :=
  match field.kind.link? with
  | none => .ok ()
  | some link =>
    if (resolve link.target).isSome then .ok ()
    else .error (.refused (.unresolvedReference cls field.name link.target))

/-- Checks the targets of all own fields. -/
def checkTargets (resolve : String → Option ClassId) (classes : List DeclaredClass) :
    Guarded BuildError Unit :=
  classes.forM fun cls => cls.ownFields.forM (checkField resolve cls.name)

/-- The model of a schema. -/
def ofSchema (schema : Schema) : Guarded BuildError Model := do
  guarded (Build.checkNames [] schema.classes)
  let classes := Build.withBuiltins schema.classes
  let resolve := resolve? schema.qualifier classes
  let parents ← classes.mapM (parentsOf resolve)
  let chains ← chainsOf classes parents
  let visible ← chains.mapM (visibleOn classes)
  checkTargets resolve classes
  let linked := (classes.zip (parents.zip (chains.zip visible))).map
    fun (cls, ids, chain, visible) =>
      { cls with parents := ids, ancestors := chain, visible := visible : Class }
  return ⟨schema.name, schema.qualifier, linked⟩

/-! ## Names -/

variable {classes : List DeclaredClass}

theorem idOf?_of_range' (name : String) (start : Nat)
    (hids : classes.map DeclaredClass.id = List.range' start classes.length) :
    idOf? classes name =
      ((classes.map DeclaredClass.name).idxOf? name).map fun index => index + start := by
  induction classes generalizing start with
  | nil => rfl
  | cons cls rest ih =>
    rw [List.length_cons, List.range'_succ, List.map_cons, List.cons.injEq] at hids
    rw [idOf?, List.find?_cons, List.map_cons, List.idxOf?_cons]
    by_cases hname : cls.name = name
    · simp [hname, hids.1]
    · have hrest := ih (start + 1) hids.2
      rw [idOf?] at hrest
      simp only [hname, decide_false, beq_iff_eq, if_false, hrest, Option.map_map]
      congr 1
      funext index
      simp only [Function.comp_apply]
      omega

/-- Names lead to stored ids as they lead to positions, where each class stands at its own. -/
theorem resolve?_eq (hids : classes.map DeclaredClass.id = List.range classes.length)
    (qualifier : Option String) :
    resolve? qualifier classes =
      Names.resolve? ⟨qualifier, classes.map DeclaredClass.name⟩ := by
  have hid : idOf? classes = Names.position? ⟨qualifier, classes.map DeclaredClass.name⟩ := by
    funext name
    rw [idOf?_of_range' name 0 (by rw [hids, List.range_eq_range'])]
    simp [Names.position?]
  funext name
  rw [resolve?, hid, Names.resolve?_eq_or]

/-! ## The steps -/

theorem parentsOf_eq (names : Names) :
    parentsOf names.resolve? = fun cls => guarded (Build.parentsOf names cls) := by
  funext cls
  rw [parentsOf, Build.parentsOf, guarded_mapM]
  congr 1
  funext parent
  cases names.resolve? parent <;> rfl

theorem checkTargets_eq (names : Names) (classes : List DeclaredClass) :
    checkTargets names.resolve? classes = guarded (Build.checkTargets names classes) := by
  have hfield : ∀ cls, checkField names.resolve? cls =
      fun field => guarded (Build.checkField names cls field) := by
    intro cls
    funext field
    rw [checkField, Build.checkField]
    cases field.kind.link? with
    | none => rfl
    | some link => by_cases h : (names.resolve? link.target).isSome <;> simp [h]
  simp only [checkTargets, Build.checkTargets, guarded_forM, hfield]

/-- The fields of a chain are those of classes that are there. -/
theorem visibleOn_eq {chain : List ClassId} (h : ∀ id ∈ chain, id < classes.length) :
    visibleOn classes chain = .ok (Build.visibleOn classes chain) := by
  rw [visibleOn, Build.visibleOn]
  generalize ([] : Entries FieldRef) = visible
  induction chain generalizing visible with
  | nil => rfl
  | cons id rest ih =>
    rw [List.forall_mem_cons] at h
    have hthere := List.getElem?_eq_getElem h.1
    rw [List.foldlM_cons, List.foldl_cons, nth_eq_ok.mpr hthere, hthere]
    exact ih h.2 _

/-- The names on a circle are those of classes that are there. -/
theorem circleError_eq {α : Type} {qualifier : Option String} {circle : List ClassId}
    (h : ∀ id ∈ circle, id < classes.length) :
    (circleError classes circle : Guarded BuildError α) =
      .error (.refused (Build.circleError ⟨qualifier, classes.map DeclaredClass.name⟩ circle)) := by
  rw [circleError, mapM_nth h, bind_ok, Build.circleError]
  simp [List.map_filterMap]

/-! ## The whole build -/

/-- Parents that names have led to are classes. -/
theorem linked_of_parentsOf {names : Names} (hnames : names.names.length = classes.length)
    {parents : Parents}
    (h : List.Forall₂ (fun cls ids => Build.parentsOf names cls = .ok ids) classes parents) :
    Linked parents := by
  intro ids hids id hid
  rcases exists_left_of_forall₂ h hids with ⟨cls, -, hcls⟩
  rcases exists_left_of_forall₂ (Build.parentsOf_eq_ok.mp hcls) hid with ⟨parent, -, hparent⟩
  rw [← h.length_eq, ← hnames]
  exact Names.resolve?_lt hparent

/-- The chains of linked classes go over classes that are there. -/
theorem lt_of_mem_chain {parents : Parents} (hlinked : Linked parents)
    {chains : List (List ClassId)} (h : allChains parents = .ok chains) :
    ∀ chain ∈ chains, ∀ id ∈ chain, id < parents.length := by
  intro chain hchain
  rcases exists_left_of_forall₂ (hasChain_of_allChains h) hchain with ⟨cls, hcls, hfound⟩
  exact hfound.lt hlinked (List.mem_range.mp hcls)

theorem chainsOf_eq {qualifier : Option String} {parents : Parents} (hlinked : Linked parents)
    (hparents : parents.length = classes.length) :
    chainsOf classes parents = guarded ((allChains parents).mapError
      (Build.circleError ⟨qualifier, classes.map DeclaredClass.name⟩)) := by
  rw [chainsOf, Walk.allChains_eq hlinked]
  cases hwalk : allChains parents with
  | ok chains => rfl
  | error circle =>
    have hthere := (circle_of_allChains hwalk).lt hlinked
    rw [hparents] at hthere
    exact circleError_eq hthere

end Guarded

/-- The build of a model as one step after another. -/
theorem Build.ofSchema_eq_bind (schema : Schema) :
    Model.ofSchema schema = (do
      Build.checkNames [] schema.classes
      let parents ← (withBuiltins schema.classes).mapM (Build.parentsOf (namesOf schema))
      let chains ← (allChains parents).mapError (Build.circleError (namesOf schema))
      Build.checkTargets (namesOf schema) (withBuiltins schema.classes)
      return ⟨schema.name, schema.qualifier,
        linked (withBuiltins schema.classes) parents chains⟩) := by
  refine bind_congr fun _ => ?_
  refine bind_congr fun parents => ?_
  cases allChains parents <;> rfl

namespace Guarded

theorem map_zip_visible {parents chains : List (List ClassId)} :
    ((classes.zip (parents.zip (chains.zip (chains.map (Build.visibleOn classes))))).map
      fun (cls, ids, chain, visible) =>
        { cls with parents := ids, ancestors := chain, visible := visible : Class }) =
      Build.linked classes parents chains := by
  have hself : chains.zip (chains.map (Build.visibleOn classes)) =
      chains.map fun chain => (chain, Build.visibleOn classes chain) := by
    simp [List.zip_eq_zipWith, List.zipWith_map_right]
  rw [hself, List.zip_map_right, List.zip_map_right, List.map_map]
  rfl

/-- The build of a declared schema looks up no class that is not there. -/
theorem ofSchema_eq {schema : Schema} (h : schema.Declared) :
    ofSchema schema = guarded (Model.ofSchema schema) := by
  have hresolve : resolve? schema.qualifier (Build.withBuiltins schema.classes) =
      (Build.namesOf schema).resolve? :=
    resolve?_eq (Build.ids_withBuiltins h.sound.ids) schema.qualifier
  rw [Build.ofSchema_eq_bind]
  refine guarded_bind_congr rfl fun _ _ => ?_
  simp only [hresolve, parentsOf_eq, ← guarded_mapM]
  refine guarded_bind_congr rfl fun parents hparents => ?_
  have hfound := mapM_eq_ok.mp hparents
  have hlinked := linked_of_parentsOf (by simp [Build.namesOf]) hfound
  have hlength := hfound.length_eq.symm
  refine guarded_bind_congr (chainsOf_eq hlinked hlength) fun chains hchains => ?_
  have hvisible : chains.mapM (visibleOn (Build.withBuiltins schema.classes)) =
      .ok (chains.map (Build.visibleOn (Build.withBuiltins schema.classes))) := by
    have hthere := lt_of_mem_chain hlinked (mapError_eq_ok.mp hchains)
    rw [mapM_eq_ok, List.forall₂_map_right_iff, List.forall₂_same]
    exact fun chain hchain => visibleOn_eq (hlength ▸ hthere chain hchain)
  rw [hvisible, bind_ok, checkTargets_eq]
  refine guarded_bind_congr rfl fun _ _ => ?_
  rw [map_zip_visible]
  rfl

/-- It goes wrong where a class does not stand at the position that its id names. -/
example : ofSchema ⟨"boxes", none, [⟨7, "Box", [], [], false⟩, ⟨1, "Lid", ["Box"], [], false⟩]⟩ =
    .error (.outOfRange 7) := by cbv

end Guarded

end ClassModel
