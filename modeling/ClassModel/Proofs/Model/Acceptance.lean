import ClassModel.Proofs.Model.Built
import ClassModel.Proofs.Model.Circle

/-!
# Which schemas make models

A schema makes a model when its class names are free, its parent names refer to classes, no class
extends itself over others, and the targets of its references and collections are classes. These
four rules are stated on the schema alone, without the steps of the build. A build that fails does
so for the first rule that is broken, and blames the first place where it is.

* `Schema.WellFormed` — the four rules;
* `Schema.Blames` — the error that a broken schema is refused with;
* `Build.ends_ofSchema` — how a build ends, step by step;
* `Model.ofSchema_decides_wellFormed` — well-formed schemas make models, others are refused with the
  error that is theirs.
-/

namespace ClassModel

open Build

/-! ## Well-formed schemas -/

namespace Schema

variable (schema : Schema)

/-- The names of the classes of a schema and of the built-in classes. -/
def classNames : List String := schema.classes.map DeclaredClass.name ++ builtinNames

/-- A name refers to some class: as it is, with the namespace before it, or with the namespace taken
off. -/
def Knows (name : String) : Prop :=
  name ∈ schema.classNames ∨
    ∃ q, schema.qualifier = some q ∧
      (Names.qualified q name ∈ schema.classNames ∨
        ∃ short ∈ schema.classNames, name = Names.qualified q short)

/-- The class at one position has a parent name that refers to the class at another. -/
def Links (i j : ClassId) : Prop :=
  ∃ cls, (withBuiltins schema.classes)[i]? = some cls ∧
    ∃ parent ∈ cls.parentNames, (namesOf schema).resolve? parent = some j

/-- The target of a reference or collection refers to no class. -/
def Dangling (field : Field) : Prop :=
  ∃ link, field.kind.link? = some link ∧ ¬ schema.Knows link.target

/-- No class takes the name of a built-in class. -/
def NamesFree : Prop := ∀ cls ∈ schema.classes, cls.name ∉ builtinNames

/-- Every parent name refers to a class. -/
def ParentsKnown : Prop := ∀ cls ∈ schema.classes, ∀ parent ∈ cls.parentNames, schema.Knows parent

/-- No class can be reached from itself over parents. -/
def Acyclic : Prop := ∀ i, ¬ Relation.TransGen schema.Links i i

/-- Every reference and every collection has a class for a target. -/
def TargetsKnown : Prop := ∀ cls ∈ schema.classes, ∀ field ∈ cls.ownFields, ¬ schema.Dangling field

/-- What a schema must be like to make a model. -/
structure WellFormed : Prop where
  namesFree : schema.NamesFree
  parentsKnown : schema.ParentsKnown
  acyclic : schema.Acyclic
  targetsKnown : schema.TargetsKnown

/-- The error that a schema is refused with: that of the first rule that is broken, at the first
class that breaks it, and there at the first parent name or field. -/
inductive Blames : BuildError → Prop
  | reserved (cls : DeclaredClass)
      (hcls : IsFirst (fun cls => cls.name ∈ builtinNames) schema.classes cls) :
      Blames (.reservedClassName cls.name)
  | parent (cls : DeclaredClass) (parent : String) (hfree : schema.NamesFree)
      (hcls : IsFirst (fun cls => ∃ parent ∈ cls.parentNames, ¬ schema.Knows parent)
        schema.classes cls)
      (hparent : IsFirst (fun parent => ¬ schema.Knows parent) cls.parentNames parent) :
      Blames (.unresolvedParent cls.name parent)
  | circle (cls : String) (circle : List String) (hfree : schema.NamesFree)
      (hparents : schema.ParentsKnown) (hcircle : ¬ schema.Acyclic) :
      Blames (.cyclicInheritance cls circle)
  | target (cls : DeclaredClass) (field : Field) (link : Link) (hfree : schema.NamesFree)
      (hparents : schema.ParentsKnown) (hacyclic : schema.Acyclic)
      (hcls : IsFirst (fun cls => ∃ field ∈ cls.ownFields, schema.Dangling field)
        schema.classes cls)
      (hfield : IsFirst schema.Dangling cls.ownFields field)
      (hlink : field.kind.link? = some link) :
      Blames (.unresolvedReference cls.name field.name link.target)

variable {schema}

/-- A schema that is blamed breaks a rule. -/
theorem Blames.not_wellFormed {error : BuildError} (h : schema.Blames error) :
    ¬ schema.WellFormed := by
  intro hwell
  cases h with
  | reserved cls hcls => exact hwell.namesFree cls hcls.mem hcls.holds
  | parent cls parent _ hcls hparent =>
    exact hparent.holds (hwell.parentsKnown cls hcls.mem parent hparent.mem)
  | circle _ _ _ _ hcircle => exact hcircle hwell.acyclic
  | target cls field _ _ _ _ hcls hfield _ =>
    exact hwell.targetsKnown cls hcls.mem field hfield.mem hfield.holds

end Schema

/-! ## Names -/

namespace Names

variable {names : Names} {name : String}

theorem isSome_position?_iff : (names.position? name).isSome ↔ name ∈ names.names := by
  rw [position?, List.isSome_idxOf?]

theorem stripped?_eq_some_iff {q short : String} :
    stripped? q name = some short ↔ name = qualified q short := by
  have htext : name = qualified q short ↔ q.toList ++ ['.'] ++ short.toList = name.toList := by
    rw [← String.toList_inj, qualified, String.toList_append, String.toList_append, eq_comm]
    rfl
  rw [htext, stripped?, Option.map_eq_some_iff]
  simp only [List.isPrefixOf?_eq_some_iff_append_eq]
  constructor
  · rintro ⟨rest, hrest, rfl⟩
    rw [String.toList_ofList]
    exact hrest
  · intro h
    exact ⟨short.toList, h, String.ofList_toList⟩

/-- The three ways in which a name can refer to a class. -/
theorem isSome_resolve?_iff :
    (names.resolve? name).isSome ↔ name ∈ names.names ∨
      ∃ q, names.qualifier = some q ∧ (qualified q name ∈ names.names ∨
        ∃ short ∈ names.names, name = qualified q short) := by
  rw [resolve?]
  simp only [← isSome_position?_iff, ← stripped?_eq_some_iff]
  cases hexact : names.position? name with
  | some id => simp
  | none =>
    cases hqualifier : names.qualifier with
    | none => simp
    | some q =>
      cases hlong : names.position? (qualified q name) with
      | some id => simp [hlong]
      | none => cases hshort : stripped? q name <;> simp [hlong, hshort]

end Names

theorem Schema.isSome_resolve?_iff {schema : Schema} {name : String} :
    ((namesOf schema).resolve? name).isSome ↔ schema.Knows name := by
  have hnames : (namesOf schema).names = schema.classNames := by
    simp [namesOf, withBuiltins_eq, Schema.classNames, builtinNames, DeclaredClass.builtinOf]
  rw [Names.isSome_resolve?_iff, hnames]
  rfl

/-! ## The steps of a build -/

namespace Build

variable {schema : Schema}

/-- How a build ends: as the first step that fails, or with a model. -/
inductive Ends (schema : Schema) : Except BuildError Model → Prop
  | names (error : BuildError) (h : checkNames [] schema.classes = .error error) :
      Ends schema (.error error)
  | parents (error : BuildError) (hnames : checkNames [] schema.classes = .ok ())
      (h : (withBuiltins schema.classes).mapM (parentsOf (namesOf schema)) = .error error) :
      Ends schema (.error error)
  | circle (parents : Parents) (circle : List ClassId)
      (hnames : checkNames [] schema.classes = .ok ())
      (hparents : (withBuiltins schema.classes).mapM (parentsOf (namesOf schema)) = .ok parents)
      (h : Ancestry.allChains parents = .error circle) :
      Ends schema (.error (circleError (namesOf schema) circle))
  | targets (parents : Parents) (chains : List (List ClassId)) (error : BuildError)
      (hnames : checkNames [] schema.classes = .ok ())
      (hparents : (withBuiltins schema.classes).mapM (parentsOf (namesOf schema)) = .ok parents)
      (hchains : Ancestry.allChains parents = .ok chains)
      (h : checkTargets (namesOf schema) (withBuiltins schema.classes) = .error error) :
      Ends schema (.error error)
  | built (parents : Parents) (chains : List (List ClassId))
      (hnames : checkNames [] schema.classes = .ok ())
      (hparents : (withBuiltins schema.classes).mapM (parentsOf (namesOf schema)) = .ok parents)
      (hchains : Ancestry.allChains parents = .ok chains)
      (htargets : checkTargets (namesOf schema) (withBuiltins schema.classes) = .ok ()) :
      Ends schema (.ok ⟨schema.name, schema.qualifier,
        linked (withBuiltins schema.classes) parents chains⟩)

theorem ends_ofSchema (schema : Schema) : Ends schema (Model.ofSchema schema) := by
  have hnamesOf : namesOf schema =
      ⟨schema.qualifier, (withBuiltins schema.classes).map DeclaredClass.name⟩ := rfl
  simp only [Model.ofSchema, ← hnamesOf]
  cases hnames : checkNames [] schema.classes with
  | error error => exact .names error hnames
  | ok =>
    cases hparents : (withBuiltins schema.classes).mapM (parentsOf (namesOf schema)) with
    | error error => exact .parents error hnames hparents
    | ok parents =>
      cases hchains : Ancestry.allChains parents with
      | error circle =>
        simp only [bind, Except.bind, hchains]
        exact .circle parents circle hnames hparents hchains
      | ok chains =>
        cases htargets : checkTargets (namesOf schema) (withBuiltins schema.classes) with
        | error error =>
          simp only [bind, Except.bind, hchains]
          exact .targets parents chains error hnames hparents hchains htargets
        | ok =>
          simp only [bind, Except.bind, hchains]
          exact .built parents chains hnames hparents hchains htargets

/-! ## What each step blames -/

/-- Class names that are distinct are refused for the first that is reserved, and for nothing
else. -/
theorem checkNames_eq_error {before : List String} {classes : List DeclaredClass}
    {error : BuildError} (hdistinct : (classes.map DeclaredClass.name).Nodup)
    (hbefore : ∀ cls ∈ classes, cls.name ∉ before)
    (h : checkNames before classes = .error error) :
    ∃ cls, IsFirst (fun cls => cls.name ∈ builtinNames) classes cls ∧
      error = .reservedClassName cls.name := by
  induction classes generalizing before with
  | nil => simp [checkNames] at h
  | cons cls rest ih =>
    rw [List.map_cons, List.nodup_cons] at hdistinct
    rw [List.forall_mem_cons] at hbefore
    simp only [checkNames, if_neg hbefore.1] at h
    split at h
    · next hreserved =>
      exact ⟨cls, isFirst_cons.mpr (Or.inl ⟨hreserved, rfl⟩), (Except.error.inj h).symm⟩
    · next hfree =>
      -- no later class has the name of this one either
      have hrest : ∀ other ∈ rest, other.name ∉ cls.name :: before := by
        intro other hother
        rw [List.mem_cons, not_or]
        refine ⟨?_, hbefore.2 other hother⟩
        intro heq
        exact hdistinct.1 (heq ▸ List.mem_map_of_mem hother)
      rcases ih hdistinct.2 hrest h with ⟨found, hfound, herror⟩
      exact ⟨found, isFirst_cons.mpr (Or.inr ⟨hfree, hfound⟩), herror⟩

/-- A parent name that refers to no class is refused, and one that refers to a class is not. -/
theorem resolveParent_fails_iff {cls parent : String} :
    (∀ id, (match (namesOf schema).resolve? parent with
      | some id => Except.ok id
      | none => Except.error (BuildError.unresolvedParent cls parent)) ≠ .ok id) ↔
      ¬ schema.Knows parent := by
  rw [← Schema.isSome_resolve?_iff]
  cases (namesOf schema).resolve? parent <;> simp

theorem parentsOf_eq_error {cls : DeclaredClass} {error : BuildError}
    (h : parentsOf (namesOf schema) cls = .error error) :
    ∃ parent, IsFirst (fun parent => ¬ schema.Knows parent) cls.parentNames parent ∧
      error = .unresolvedParent cls.name parent := by
  rw [parentsOf, mapM_eq_error] at h
  rcases h with ⟨parent, hfirst, herror⟩
  refine ⟨parent, hfirst.congr fun _ _ => resolveParent_fails_iff, ?_⟩
  split at herror
  · simp at herror
  · exact (Except.error.inj herror).symm

theorem parentsOf_fails_iff {cls : DeclaredClass} :
    (∀ ids, parentsOf (namesOf schema) cls ≠ .ok ids) ↔
      ∃ parent ∈ cls.parentNames, ¬ schema.Knows parent := by
  constructor
  · intro h
    cases hparents : parentsOf (namesOf schema) cls with
    | ok ids => exact absurd hparents (h ids)
    | error error =>
      rcases parentsOf_eq_error hparents with ⟨parent, hfirst, -⟩
      exact ⟨parent, hfirst.mem, hfirst.holds⟩
  · rintro ⟨parent, hparent, hunknown⟩ ids hids
    rcases exists_right_of_forall₂ (parentsOf_eq_ok.mp hids) hparent with ⟨id, -, hid⟩
    exact hunknown (Schema.isSome_resolve?_iff.mp (by simp [hid]))

theorem checkField_eq_error {cls : String} {field : Field} {error : BuildError} :
    checkField (namesOf schema) cls field = .error error ↔
      ∃ link, field.kind.link? = some link ∧ ¬ schema.Knows link.target ∧
        error = .unresolvedReference cls field.name link.target := by
  simp only [← Schema.isSome_resolve?_iff]
  unfold checkField
  cases field.kind.link? with
  | none => simp
  | some link =>
    by_cases h : ((namesOf schema).resolve? link.target).isSome
    · simp [h, Option.isSome_iff_ne_none.mp h]
    · simp only [h, if_false, Except.error.injEq, Option.some.injEq, exists_eq_left',
        not_false_eq_true, true_and, Bool.false_eq_true]
      exact eq_comm

theorem checkField_fails_iff {cls : String} {field : Field} :
    (∀ u, checkField (namesOf schema) cls field ≠ .ok u) ↔ schema.Dangling field := by
  constructor
  · intro h
    cases hfield : checkField (namesOf schema) cls field with
    | ok u => exact absurd hfield (h u)
    | error error =>
      rcases checkField_eq_error.mp hfield with ⟨link, hlink, hunknown, -⟩
      exact ⟨link, hlink, hunknown⟩
  · rintro ⟨link, hlink, hunknown⟩ u hok
    have herror : checkField (namesOf schema) cls field =
        .error (.unresolvedReference cls field.name link.target) :=
      checkField_eq_error.mpr ⟨link, hlink, hunknown, rfl⟩
    rw [hok] at herror
    simp at herror

/-- The fields of a class are refused for the first with a target that is no class. -/
theorem checkFields_eq_error {cls : DeclaredClass} {error : BuildError}
    (h : cls.ownFields.forM (checkField (namesOf schema) cls.name) = .error error) :
    ∃ field link, IsFirst schema.Dangling cls.ownFields field ∧ field.kind.link? = some link ∧
      error = .unresolvedReference cls.name field.name link.target := by
  rcases forM_eq_error.mp h with ⟨field, hfirst, hfield⟩
  rcases checkField_eq_error.mp hfield with ⟨link, hlink, -, rfl⟩
  exact ⟨field, link, hfirst.congr fun _ _ => checkField_fails_iff, hlink, rfl⟩

theorem checkFields_fails_iff {cls : DeclaredClass} :
    (∀ u, cls.ownFields.forM (checkField (namesOf schema) cls.name) ≠ .ok u) ↔
      ∃ field ∈ cls.ownFields, schema.Dangling field := by
  constructor
  · intro h
    cases hfields : cls.ownFields.forM (checkField (namesOf schema) cls.name) with
    | ok u => exact absurd hfields (h u)
    | error error =>
      rcases checkFields_eq_error hfields with ⟨field, -, hfirst, -⟩
      exact ⟨field, hfirst.mem, hfirst.holds⟩
  · rintro ⟨field, hfield, hdangling⟩ ⟨⟩ hok
    exact checkField_fails_iff.mpr hdangling () (forM_eq_ok.mp hok field hfield)

/-! ## Rules and steps -/

theorem mem_withBuiltins_of_mem {classes : List DeclaredClass} {cls : DeclaredClass}
    (h : cls ∈ classes) : cls ∈ withBuiltins classes := by
  rw [withBuiltins_eq]
  exact List.mem_append_left _ h

/-- The built-in classes break no rule on parents or fields, so what is first among all classes is
first among the declared ones. -/
theorem isFirst_of_withBuiltins {p : DeclaredClass → Prop} {classes : List DeclaredClass}
    {cls : DeclaredClass} (hbuiltin : ∀ id name, ¬ p (.builtinOf id name))
    (h : IsFirst p (withBuiltins classes) cls) : IsFirst p classes cls := by
  rw [withBuiltins_eq] at h
  refine h.of_append ?_
  intro other hother
  rcases List.mem_cons.mp hother with rfl | hlast
  · exact hbuiltin _ _
  · rw [List.mem_singleton.mp hlast]
    exact hbuiltin _ _

theorem namesFree_of_checkNames (h : checkNames [] schema.classes = .ok ()) : schema.NamesFree :=
  (checkNames_eq_ok.mp h).1

section Parents

variable {parents : Parents}

theorem parentsKnown_of_parentsOf
    (h : (withBuiltins schema.classes).mapM (parentsOf (namesOf schema)) = .ok parents) :
    schema.ParentsKnown := by
  intro cls hcls parent hparent
  rcases exists_right_of_forall₂ (mapM_eq_ok.mp h) (mem_withBuiltins_of_mem hcls)
      with ⟨ids, -, hids⟩
  by_contra hunknown
  exact parentsOf_fails_iff.mpr ⟨parent, hparent, hunknown⟩ ids hids

/-- The links between positions are those that parent names make. -/
theorem extends_iff_links
    (h : (withBuiltins schema.classes).mapM (parentsOf (namesOf schema)) = .ok parents)
    {i j : ClassId} : Ancestry.Extends parents i j ↔ schema.Links i j := by
  have hresolved := mapM_eq_ok.mp h
  rw [Ancestry.Extends, Ancestry.above]
  constructor
  · intro hj
    cases hids : parents[i]? with
    | none => simp [hids] at hj
    | some ids =>
      simp only [hids, Option.getD_some] at hj
      have hlt : i < (withBuiltins schema.classes).length := by
        rw [hresolved.length_eq]
        exact (List.getElem?_eq_some_iff.mp hids).1
      have hcls := List.getElem?_eq_getElem hlt
      have hparents := parentsOf_eq_ok.mp (rel_of_getElem? hresolved hcls hids)
      rcases exists_left_of_forall₂ hparents hj with ⟨parent, hparent, hresolve⟩
      exact ⟨_, hcls, parent, hparent, hresolve⟩
  · rintro ⟨cls, hcls, parent, hparent, hresolve⟩
    have hlt : i < parents.length := by
      rw [← hresolved.length_eq]
      exact (List.getElem?_eq_some_iff.mp hcls).1
    have hids := List.getElem?_eq_getElem hlt
    have hparents := parentsOf_eq_ok.mp (rel_of_getElem? hresolved hcls hids)
    rcases exists_right_of_forall₂ hparents hparent with ⟨id, hid, hresolve'⟩
    obtain rfl : j = id := Option.some.inj (hresolve.symm.trans hresolve')
    simpa [hids] using hid

theorem acyclic_iff_exists_allChains
    (h : (withBuiltins schema.classes).mapM (parentsOf (namesOf schema)) = .ok parents) :
    schema.Acyclic ↔ ∃ chains, Ancestry.allChains parents = .ok chains := by
  have hlinks : schema.Links = Ancestry.Extends parents := by
    funext i j
    exact propext (extends_iff_links h).symm
  rw [Ancestry.exists_allChains_iff, Schema.Acyclic, hlinks]

end Parents

theorem targetsKnown_of_checkTargets
    (h : checkTargets (namesOf schema) (withBuiltins schema.classes) = .ok ()) :
    schema.TargetsKnown := by
  intro cls hcls field hfield hdangling
  have hfields := forM_eq_ok.mp h cls (mem_withBuiltins_of_mem hcls)
  exact checkFields_fails_iff.mpr ⟨field, hfield, hdangling⟩ () hfields

/-! ## The outcome of a build -/

/-- A build that fails blames the schema for what it has broken first. -/
theorem blames_of_ofSchema (hdistinct : (schema.classes.map DeclaredClass.name).Nodup)
    {error : BuildError} (h : Model.ofSchema schema = .error error) : schema.Blames error := by
  have hends := ends_ofSchema schema
  rw [h] at hends
  cases hends with
  | names _ hnames =>
    rcases checkNames_eq_error hdistinct (by simp) hnames with ⟨cls, hcls, rfl⟩
    exact .reserved cls hcls
  | parents _ hnames hparents =>
    rcases mapM_eq_error.mp hparents with ⟨cls, hfirst, hcls⟩
    rcases parentsOf_eq_error hcls with ⟨parent, hparent, rfl⟩
    have hoffender := hfirst.congr fun _ _ => parentsOf_fails_iff
    refine .parent cls parent (namesFree_of_checkNames hnames) ?_ hparent
    exact isFirst_of_withBuiltins (by simp [DeclaredClass.builtinOf]) hoffender
  | circle parents circle hnames hparents hchains =>
    refine .circle _ _ (namesFree_of_checkNames hnames) (parentsKnown_of_parentsOf hparents) ?_
    rw [acyclic_iff_exists_allChains hparents, hchains]
    simp
  | targets parents chains _ hnames hparents hchains htargets =>
    rcases forM_eq_error.mp htargets with ⟨cls, hfirst, hcls⟩
    rcases checkFields_eq_error hcls with ⟨field, link, hfield, hlink, rfl⟩
    have hoffender := hfirst.congr fun _ _ => checkFields_fails_iff
    refine .target cls field link (namesFree_of_checkNames hnames)
      (parentsKnown_of_parentsOf hparents)
      ((acyclic_iff_exists_allChains hparents).mpr ⟨chains, hchains⟩) ?_ hfield hlink
    exact isFirst_of_withBuiltins (by simp [DeclaredClass.builtinOf]) hoffender

/-- A schema that makes a model is well formed. -/
theorem wellFormed_of_ofSchema {m : Model} (h : Model.ofSchema schema = .ok m) :
    schema.WellFormed := by
  have hends := ends_ofSchema schema
  rw [h] at hends
  cases hends with
  | built parents chains hnames hparents hchains htargets =>
    exact ⟨namesFree_of_checkNames hnames, parentsKnown_of_parentsOf hparents,
      (acyclic_iff_exists_allChains hparents).mpr ⟨chains, hchains⟩,
      targetsKnown_of_checkTargets htargets⟩

end Build

/-- A schema that declarations make gives a model exactly when it is well formed. Otherwise it is
refused with the error of the first rule that it breaks, for the first place that breaks it; and
never because a class is declared twice, since the declarations were checked for that. -/
theorem Model.ofSchema_decides_wellFormed {schema : Schema} (h : schema.Declared) :
    ((∃ m, Model.ofSchema schema = .ok m) ↔ schema.WellFormed) ∧
    (∀ error, Model.ofSchema schema = .error error → schema.Blames error) ∧
    ∀ name, Model.ofSchema schema ≠ .error (.schema (.duplicateClass name)) := by
  have hdistinct := h.sound.distinct
  refine ⟨⟨?sound, ?complete⟩, ?blames, ?duplicate⟩
  case sound =>
    rintro ⟨m, hm⟩
    exact wellFormed_of_ofSchema hm
  case complete =>
    intro hwell
    cases hbuild : Model.ofSchema schema with
    | ok m => exact ⟨m, rfl⟩
    | error error => exact absurd hwell (blames_of_ofSchema hdistinct hbuild).not_wellFormed
  case blames =>
    intro error herror
    exact blames_of_ofSchema hdistinct herror
  case duplicate =>
    intro name herror
    cases blames_of_ofSchema hdistinct herror

namespace Crates

/-- Declarations with a field whose target is no class, and behind it a class with a parent that is
none. -/
def declarations : List Declaration :=
  [.openClass "org.Box" [], .field ⟨"lid", .reference ⟨"Lid", none⟩⟩, .closeClass,
    .openClass "Crate" ["Box", "Case", "Shelf"], .closeClass]

/-- The schema of these declarations. -/
def schema : Schema :=
  ⟨"crates", some "org", [⟨0, "org.Box", [], [⟨"lid", 0, .reference ⟨"Lid", none⟩⟩], false⟩,
    ⟨1, "Crate", ["Box", "Case", "Shelf"], [], false⟩]⟩

end Crates

/-- The parent is blamed and not the target before it: parents come first. The name of the other
parent is known within the namespace. -/
theorem Model.ofSchema_decides_wellFormed_crates :
    Crates.schema.Declared ∧ ¬ Crates.schema.WellFormed ∧
      Model.ofSchema Crates.schema = .error (.unresolvedParent "Crate" "Case") ∧
      Crates.schema.Blames (.unresolvedParent "Crate" "Case") := by
  have hdeclared : Crates.schema.Declared :=
    ⟨"crates", some "org", [.applyAll Crates.declarations], by decide⟩
  have herror : Model.ofSchema Crates.schema = .error (.unresolvedParent "Crate" "Case") := by cbv
  rcases Model.ofSchema_decides_wellFormed hdeclared with ⟨hdecides, hblames, -⟩
  refine ⟨hdeclared, ?_, herror, hblames _ herror⟩
  intro hwell
  rcases hdecides.mpr hwell with ⟨m, hm⟩
  rw [herror] at hm
  simp at hm

end ClassModel
