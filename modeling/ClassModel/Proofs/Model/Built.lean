import Mathlib
import ClassModel.Model.Build
import ClassModel.Proofs.Except
import ClassModel.Proofs.Model.Ancestry
import ClassModel.Proofs.Schema.Run

/-!
# Built models

A model is built when a declared schema makes it. Each step of the build is read as the rule that it
decides, and from these rules comes all that later files use of a built model:

* `Build.ofSchema_eq_ok` — a schema makes a model exactly when its names are free and distinct, its
  parents resolve, the walk over them succeeds and its targets resolve;
* `Model.Sound` — classes stand at the positions their ids name and have distinct names, parents are
  what parent names resolve to, ancestors are chains, and the visible fields are those of the chain;
* `Model.Built.sound` — every built model is sound;
* `Model.Sound.class?_name` — in a sound model a class is found by its name.
-/

namespace ClassModel

namespace Draft

/-- Taking documents one after another is a run of calls. -/
theorem exists_run_of_addDocuments {draft next : Draft} {documents : List Document}
    (h : documents.foldlM Draft.addDocument draft = .ok next) :
    ∃ calls, draft.run calls = next := by
  induction documents generalizing draft with
  | nil =>
    rcases Except.ok.inj h with rfl
    exact ⟨[], rfl⟩
  | cons document rest ih =>
    rw [List.foldlM_cons] at h
    rcases bind_eq_ok.mp h with ⟨middle, hmiddle, hrest⟩
    rcases bind_eq_ok.mp hmiddle with ⟨passed, hpassed, hdeclared⟩
    rcases ih hrest with ⟨calls, hcalls⟩
    refine ⟨.beginPass :: .applyAll document.declarations :: calls, ?_⟩
    rw [run_cons, after_beginPass hpassed, run_cons, after_applyAll hdeclared, hcalls]

end Draft

namespace Build

/-! ## What each step decides -/

theorem checkNames_eq_ok {before : List String} {classes : List DeclaredClass} :
    checkNames before classes = .ok () ↔
      (∀ cls ∈ classes, cls.name ∉ builtinNames) ∧ (classes.map DeclaredClass.name).Nodup ∧
        ∀ cls ∈ classes, cls.name ∉ before := by
  induction classes generalizing before with
  | nil => simp [checkNames]
  | cons cls rest ih =>
    simp only [checkNames, List.map_cons, List.nodup_cons, List.forall_mem_cons]
    by_cases hreserved : cls.name ∈ builtinNames
    · simp [hreserved]
    · by_cases hbefore : cls.name ∈ before
      · simp [hreserved, hbefore]
      · simp only [hreserved, hbefore, if_false, not_false_eq_true, true_and, ih, List.mem_cons,
          not_or]
        constructor
        · rintro ⟨hfree, hdistinct, hrest⟩
          refine ⟨hfree, ⟨?_, hdistinct⟩, fun other hother => (hrest other hother).2⟩
          intro hmem
          rcases List.mem_map.mp hmem with ⟨other, hother, heq⟩
          exact (hrest other hother).1 heq
        · rintro ⟨hfree, ⟨hnew, hdistinct⟩, hrest⟩
          refine ⟨hfree, hdistinct, fun other hother => ⟨?_, hrest other hother⟩⟩
          intro heq
          exact hnew (heq ▸ List.mem_map_of_mem hother)

/-- Parents resolve one by one, in the order in which they are named. -/
theorem parentsOf_eq_ok {names : Names} {cls : DeclaredClass} {ids : List ClassId} :
    parentsOf names cls = .ok ids ↔
      List.Forall₂ (fun parent id => names.resolve? parent = some id) cls.parentNames ids := by
  rw [parentsOf, mapM_eq_ok]
  constructor
  · refine List.Forall₂.imp fun parent id h => ?_
    cases hresolve : names.resolve? parent with
    | none => simp [hresolve] at h
    | some found => simpa [hresolve] using h
  · refine List.Forall₂.imp fun parent id h => ?_
    simp [h]

theorem checkField_eq_ok {names : Names} {cls : String} {field : Field} :
    checkField names cls field = .ok () ↔
      ∀ link, field.kind.link? = some link → (names.resolve? link.target).isSome := by
  unfold checkField
  cases field.kind.link? with
  | none => simp
  | some link => by_cases h : (names.resolve? link.target).isSome <;> simp [h]

theorem checkTargets_eq_ok {names : Names} {classes : List DeclaredClass} :
    checkTargets names classes = .ok () ↔
      ∀ cls ∈ classes, ∀ field ∈ cls.ownFields, ∀ link, field.kind.link? = some link →
        (names.resolve? link.target).isSome := by
  simp only [checkTargets, forM_eq_ok, checkField_eq_ok]

/-- The classes of a model from what is declared, their parents and their chains. -/
def linked (classes : List DeclaredClass) (parents chains : List (List ClassId)) : List Class :=
  (classes.zip (parents.zip chains)).map fun (cls, ids, chain) =>
    { cls with parents := ids, ancestors := chain, visible := visibleOn classes chain : Class }

/-- The names that the parents and targets of a schema are resolved against. -/
def namesOf (schema : Schema) : Names :=
  ⟨schema.qualifier, (withBuiltins schema.classes).map DeclaredClass.name⟩

theorem ofSchema_eq_ok {schema : Schema} {m : Model} :
    Model.ofSchema schema = .ok m ↔
      checkNames [] schema.classes = .ok () ∧
      ∃ parents chains,
        List.Forall₂ (fun cls ids => parentsOf (namesOf schema) cls = .ok ids)
          (withBuiltins schema.classes) parents ∧
        Ancestry.allChains parents = .ok chains ∧
        checkTargets (namesOf schema) (withBuiltins schema.classes) = .ok () ∧
        m = ⟨schema.name, schema.qualifier,
          linked (withBuiltins schema.classes) parents chains⟩ := by
  simp only [Model.ofSchema, bind_eq_ok, mapM_eq_ok]
  constructor
  · rintro ⟨⟨⟩, hnames, parents, hparents, h⟩
    refine ⟨hnames, parents, ?_⟩
    split at h
    · next chains hchains =>
      rcases bind_eq_ok.mp h with ⟨_, hok, h⟩
      rcases Except.ok.inj hok with rfl
      rcases bind_eq_ok.mp h with ⟨⟨⟩, htargets, h⟩
      exact ⟨chains, hparents, hchains, htargets, (pure_eq_ok.mp h).symm⟩
    · rcases bind_eq_ok.mp h with ⟨_, hok, _⟩
      simp at hok
  · rintro ⟨hnames, parents, chains, hparents, hchains, htargets, rfl⟩
    refine ⟨(), hnames, parents, hparents, ?_⟩
    simp only [hchains]
    exact bind_eq_ok.mpr ⟨chains, rfl, bind_eq_ok.mpr ⟨(), htargets, rfl⟩⟩

/-! ## What is linked -/

section Linked

variable {classes : List DeclaredClass} {parents chains : List (List ClassId)}

theorem getElem?_linked {i : Nat} {cls : Class}
    (h : (linked classes parents chains)[i]? = some cls) :
    classes[i]? = some cls.toDeclaredClass ∧ parents[i]? = some cls.parents ∧
      chains[i]? = some cls.ancestors ∧ cls.visible = visibleOn classes cls.ancestors := by
  simp only [linked, List.getElem?_map, Option.map_eq_some_iff, List.getElem?_zip_eq_some] at h
  rcases h with ⟨⟨declared, ids, chain⟩, ⟨hdeclared, hids, hchain⟩, rfl⟩
  exact ⟨hdeclared, hids, hchain, rfl⟩

theorem map_toDeclaredClass_linked (hparents : parents.length = classes.length)
    (hchains : chains.length = classes.length) :
    (linked classes parents chains).map Class.toDeclaredClass = classes := by
  rw [linked, List.map_map]
  exact List.map_fst_zip (by simp [hparents, hchains])

theorem map_parents_linked (hparents : parents.length = classes.length)
    (hchains : chains.length = classes.length) :
    (linked classes parents chains).map Class.parents = parents := by
  have hsnd : ((classes.zip (parents.zip chains)).map Prod.snd).map Prod.fst = parents := by
    rw [List.map_snd_zip (by simp [hparents, hchains]),
      List.map_fst_zip (by simp [hparents, hchains])]
  rw [List.map_map] at hsnd
  rw [linked, List.map_map]
  exact hsnd

end Linked

/-! ## The built-in classes -/

theorem withBuiltins_eq (classes : List DeclaredClass) :
    withBuiltins classes = classes ++
      [.builtinOf classes.length "Integer", .builtinOf (classes.length + 1) "Long"] := rfl

theorem mem_withBuiltins {classes : List DeclaredClass} {cls : DeclaredClass}
    (h : cls ∈ withBuiltins classes) : cls ∈ classes ∨ cls.ownFields = [] := by
  rw [withBuiltins_eq, List.mem_append] at h
  rcases h with hdeclared | hbuiltin
  · exact Or.inl hdeclared
  · right
    rcases List.mem_cons.mp hbuiltin with rfl | hlast
    · rfl
    · rw [List.mem_singleton.mp hlast]
      rfl

theorem ids_withBuiltins {classes : List DeclaredClass}
    (h : classes.map DeclaredClass.id = List.range classes.length) :
    (withBuiltins classes).map DeclaredClass.id = List.range (withBuiltins classes).length := by
  simp [withBuiltins_eq, h, DeclaredClass.builtinOf, List.range_succ]

theorem distinct_withBuiltins {classes : List DeclaredClass}
    (hdistinct : (classes.map DeclaredClass.name).Nodup)
    (hfree : ∀ cls ∈ classes, cls.name ∉ builtinNames) :
    ((withBuiltins classes).map DeclaredClass.name).Nodup := by
  have hnames : (withBuiltins classes).map DeclaredClass.name =
      classes.map DeclaredClass.name ++ builtinNames := by
    simp [withBuiltins_eq, DeclaredClass.builtinOf, builtinNames]
  rw [hnames]
  apply hdistinct.append (by decide)
  -- a declared class of a built-in name was refused
  intro name hname hbuiltin
  rcases List.mem_map.mp hname with ⟨cls, hcls, rfl⟩
  exact hfree cls hcls hbuiltin

end Build

/-! ## Names -/

/-- A name refers to one of the classes named. -/
theorem Names.resolve?_lt {names : Names} {name : String} {id : ClassId}
    (h : names.resolve? name = some id) : id < names.names.length := by
  have hposition : ∀ {other : String}, names.position? other = some id →
      id < names.names.length := by
    intro other hother
    rcases List.idxOf?_eq_some_iff.mp hother with ⟨hlt, -⟩
    exact hlt
  unfold Names.resolve? at h
  split at h
  · next hfound =>
    rcases Option.some.inj h with rfl
    exact hposition hfound
  · simp at h
  · split at h
    · next hfound =>
      rcases Option.some.inj h with rfl
      exact hposition hfound
    · rcases Option.bind_eq_some_iff.mp h with ⟨stripped, -, hfound⟩
      exact hposition hfound

/-- A name that some class has refers to the first such class. -/
theorem Names.resolve?_of_position? {names : Names} {name : String} {id : ClassId}
    (h : names.position? name = some id) : names.resolve? name = some id := by
  simp [Names.resolve?, h]

/-! ## Sound models -/

namespace Model

/-- A model is built when a declared schema makes it. -/
def Built (m : Model) : Prop := ∃ schema : Schema, schema.Declared ∧ Model.ofSchema schema = .ok m

/-- The parents of the classes, by position. -/
def parents (m : Model) : Parents := m.classes.map Class.parents

/-- What holds of every built model. -/
structure Sound (m : Model) : Prop where
  /-- Each class stands at the position that its id names. -/
  ids : m.classes.map (fun cls => cls.id) = List.range m.classes.length
  distinct : (m.classes.map fun cls => cls.name).Nodup
  fields : ∀ cls ∈ m.classes, (cls.ownFields.map Field.name).Nodup
  owned : ∀ cls ∈ m.classes, ∀ field ∈ cls.ownFields, field.owner = cls.id
  /-- The parents are what the parent names resolve to, one by one. -/
  parents : ∀ cls ∈ m.classes,
    List.Forall₂ (fun name id => m.names.resolve? name = some id) cls.parentNames cls.parents
  ancestors : ∀ cls ∈ m.classes, Ancestry.HasChain m.parents cls.id cls.ancestors
  visible : ∀ cls ∈ m.classes,
    cls.visible = Build.visibleOn (m.classes.map Class.toDeclaredClass) cls.ancestors
  targets : ∀ cls ∈ m.classes, ∀ field ∈ cls.ownFields, ∀ link, field.kind.link? = some link →
    (m.names.resolve? link.target).isSome

/-- The classes of a built model: those declared and the built-in ones, each with the parents and
the chain found for its position. -/
theorem ofSchema_classes {schema : Schema} {m : Model} (h : Model.ofSchema schema = .ok m) :
    m.classes.map Class.toDeclaredClass = Build.withBuiltins schema.classes ∧
    m.names = Build.namesOf schema ∧
    ∀ cls ∈ m.classes,
      List.Forall₂ (fun name id => m.names.resolve? name = some id) cls.parentNames cls.parents ∧
      (∃ i, m.classes[i]? = some cls ∧ Ancestry.HasChain m.parents i cls.ancestors) ∧
      cls.visible = Build.visibleOn (Build.withBuiltins schema.classes) cls.ancestors := by
  rcases Build.ofSchema_eq_ok.mp h with ⟨-, parents, chains, hparents, hchains, -, hm⟩
  have hfound := Ancestry.hasChain_of_allChains hchains
  have hlenParents : parents.length = (Build.withBuiltins schema.classes).length :=
    hparents.length_eq.symm
  have hlenChains : chains.length = (Build.withBuiltins schema.classes).length := by
    simpa [hlenParents] using hfound.length_eq.symm
  have hclasses : m.classes = Build.linked (Build.withBuiltins schema.classes) parents chains := by
    rw [hm]
  have hdeclared : m.classes.map Class.toDeclaredClass = Build.withBuiltins schema.classes := by
    rw [hclasses, Build.map_toDeclaredClass_linked hlenParents hlenChains]
  have hmParents : m.parents = parents := by
    rw [Model.parents, hclasses, Build.map_parents_linked hlenParents hlenChains]
  have hnames : m.names = Build.namesOf schema := by
    have hmap : m.classes.map (fun cls => cls.name) =
        (m.classes.map Class.toDeclaredClass).map DeclaredClass.name := by
      rw [List.map_map]
      rfl
    rw [Model.names, Build.namesOf, hmap, hdeclared, hm]
  refine ⟨hdeclared, hnames, fun cls hcls => ?_⟩
  rcases List.mem_iff_getElem?.mp hcls with ⟨i, hi⟩
  rcases Build.getElem?_linked (hclasses ▸ hi) with ⟨hcls', hids, hchain, hvisible⟩
  refine ⟨?_, ⟨i, hi, ?_⟩, hvisible⟩
  · rw [hnames]
    exact Build.parentsOf_eq_ok.mp (rel_of_getElem? hparents hcls' hids)
  · rw [hmParents]
    have hlt : i < parents.length := (List.getElem?_eq_some_iff.mp hids).1
    exact rel_of_getElem? hfound (List.getElem?_range hlt) hchain

theorem id_eq_of_getElem? {classes : List Class}
    (hids : classes.map (fun cls => cls.id) = List.range classes.length) {i : Nat} {cls : Class}
    (hi : classes[i]? = some cls) : cls.id = i := by
  have hat : (classes.map fun cls => cls.id)[i]? = (List.range classes.length)[i]? := by rw [hids]
  rcases List.getElem?_eq_some_iff.mp hi with ⟨hlt, rfl⟩
  simpa [hlt] using hat

theorem Built.sound {m : Model} (h : m.Built) : m.Sound := by
  rcases h with ⟨schema, hdeclared, hbuild⟩
  have hschema := hdeclared.sound
  rcases ofSchema_classes hbuild with ⟨hclasses, hnames, hlinks⟩
  rcases Build.ofSchema_eq_ok.mp hbuild with ⟨hchecked, _, _, -, -, htargets, -⟩
  rcases Build.checkNames_eq_ok.mp hchecked with ⟨hfree, hdistinct, -⟩
  -- linking adds to the classes, and changes nothing that is declared
  have hview : ∀ {α : Type} (view : DeclaredClass → α),
      m.classes.map (fun cls => view cls.toDeclaredClass) =
        (Build.withBuiltins schema.classes).map view := by
    intro α view
    rw [← hclasses, List.map_map]
    rfl
  have hmem : ∀ cls ∈ m.classes, cls.toDeclaredClass ∈ Build.withBuiltins schema.classes :=
    fun cls hcls => hclasses ▸ List.mem_map_of_mem hcls
  have hids : m.classes.map (fun cls => cls.id) = List.range m.classes.length := by
    rw [hview DeclaredClass.id, Build.ids_withBuiltins hschema.ids, ← hclasses, List.length_map]
  constructor
  case ids => exact hids
  case distinct =>
    rw [hview DeclaredClass.name]
    exact Build.distinct_withBuiltins hdistinct hfree
  -- what the schema gives holds of the declared classes, and the built-in ones have no fields
  case fields =>
    intro cls hcls
    rcases Build.mem_withBuiltins (hmem cls hcls) with hdecl | hnone
    · exact hschema.fields _ hdecl
    · simp [hnone]
  case owned =>
    intro cls hcls field hfield
    rcases Build.mem_withBuiltins (hmem cls hcls) with hdecl | hnone
    · exact hschema.owned _ hdecl field hfield
    · simp [hnone] at hfield
  case parents => exact fun cls hcls => (hlinks cls hcls).1
  case ancestors =>
    intro cls hcls
    rcases (hlinks cls hcls).2.1 with ⟨i, hi, hchain⟩
    rw [id_eq_of_getElem? hids hi]
    exact hchain
  case visible =>
    intro cls hcls
    rw [hclasses]
    exact (hlinks cls hcls).2.2
  case targets =>
    intro cls hcls
    rw [hnames]
    exact Build.checkTargets_eq_ok.mp htargets _ (hmem cls hcls)

/-! ## Ways to build a model -/

/-- A model of one pass of declarations is built. -/
theorem built_of_ofDeclarations {name : String} {qualifier : Option String}
    {declarations : List Declaration} {m : Model}
    (h : Model.ofDeclarations name qualifier declarations = .ok m) : m.Built := by
  rcases bind_eq_ok.mp h with ⟨schema, hschema, hbuild⟩
  rcases bind_eq_ok.mp (mapError_eq_ok.mp hschema) with ⟨draft, hdraft, hfinish⟩
  refine ⟨schema, ⟨name, qualifier, [.applyAll declarations], ?_⟩, hbuild⟩
  rw [Draft.run_cons, Draft.after_applyAll hdraft, Draft.run_nil]
  exact hfinish

/-- The schema of documents is declared by their declarations. -/
theorem declared_of_ofDocuments {first : Document} {rest : List Document} {schema : Schema}
    (h : Schema.ofDocuments first rest = .ok schema) : schema.Declared := by
  rcases bind_eq_ok.mp h with ⟨draft, hdraft, hrest⟩
  rcases bind_eq_ok.mp hrest with ⟨last, hlast, hfinish⟩
  rcases Draft.exists_run_of_addDocuments hlast with ⟨calls, hcalls⟩
  refine ⟨first.name, first.qualifier, .applyAll first.declarations :: calls, ?_⟩
  rw [Draft.run_cons, Draft.after_applyAll hdraft, hcalls]
  exact hfinish

/-- A model of documents is built. -/
theorem built_of_ofDocuments {documents : List Document} {m : Model}
    (h : Model.ofDocuments documents = .ok m) : m.Built := by
  unfold Model.ofDocuments at h
  split at h
  · simp at h
  · next first rest =>
    split at h
    · simp at h
    · next schema hschema =>
      exact ⟨schema, declared_of_ofDocuments hschema, mapError_eq_ok.mp h⟩

/-! ## Finding classes -/

theorem getClass_eq_ok {m : Model} {name : String} {cls : Class} :
    m.getClass name = .ok cls ↔ m.class? name = some cls := by
  unfold getClass
  cases m.class? name <;> simp

namespace Sound

variable {m : Model} {cls other : Class}

theorem classAt?_eq_some (hm : m.Sound) {id : ClassId} :
    m.classAt? id = some cls ↔ cls ∈ m.classes ∧ cls.id = id := by
  constructor
  · intro h
    exact ⟨List.mem_of_getElem? h, id_eq_of_getElem? hm.ids h⟩
  · rintro ⟨hcls, rfl⟩
    rcases List.mem_iff_getElem?.mp hcls with ⟨i, hi⟩
    rw [id_eq_of_getElem? hm.ids hi]
    exact hi

theorem eq_of_id_eq (hm : m.Sound) (hcls : cls ∈ m.classes) (hother : other ∈ m.classes)
    (h : cls.id = other.id) : cls = other := by
  have hfound := hm.classAt?_eq_some.mpr ⟨hcls, h⟩
  exact Option.some.inj (hfound.symm.trans (hm.classAt?_eq_some.mpr ⟨hother, rfl⟩))

theorem eq_of_name_eq (hm : m.Sound) (hcls : cls ∈ m.classes) (hother : other ∈ m.classes)
    (h : cls.name = other.name) : cls = other :=
  List.inj_on_of_nodup_map hm.distinct hcls hother h

theorem exists_of_lt (hm : m.Sound) {id : ClassId} (h : id < m.classes.length) :
    ∃ cls ∈ m.classes, cls.id = id := by
  have hat : m.classAt? id = some m.classes[id] := List.getElem?_eq_getElem h
  exact ⟨_, hm.classAt?_eq_some.mp hat⟩

theorem mem_classesAt (hm : m.Sound) {ids : List ClassId} :
    cls ∈ m.classesAt ids ↔ cls ∈ m.classes ∧ cls.id ∈ ids := by
  simp only [classesAt, List.mem_filterMap, hm.classAt?_eq_some]
  constructor
  · rintro ⟨_, hid, hcls, rfl⟩
    exact ⟨hcls, hid⟩
  · rintro ⟨hcls, hid⟩
    exact ⟨cls.id, hid, hcls, rfl⟩

theorem mem_of_mem_classesAt (hm : m.Sound) {ids : List ClassId} (h : cls ∈ m.classesAt ids) :
    cls ∈ m.classes := (hm.mem_classesAt.mp h).1

theorem mem_of_class? (hm : m.Sound) {name : String} (h : m.class? name = some cls) :
    cls ∈ m.classes := by
  rcases Option.bind_eq_some_iff.mp h with ⟨id, -, hat⟩
  exact (hm.classAt?_eq_some.mp hat).1

theorem position?_name (hm : m.Sound) (hcls : cls ∈ m.classes) :
    m.names.position? cls.name = some cls.id := by
  have hat : m.classes[cls.id]? = some cls := hm.classAt?_eq_some.mpr ⟨hcls, rfl⟩
  rcases List.getElem?_eq_some_iff.mp hat with ⟨hlt, hget⟩
  refine List.idxOf?_eq_some_iff.mpr ⟨by simpa [Model.names] using hlt, ?_, ?_⟩
  · simp [Model.names, hget]
  · -- an earlier class of the name would be the same class at another position
    intro j hj hname
    simp only [Model.names, List.getElem_map] at hname
    have heq := hm.eq_of_name_eq (List.getElem_mem _) hcls hname
    have hid := id_eq_of_getElem? hm.ids (List.getElem?_eq_getElem (Nat.lt_trans hj hlt))
    rw [heq] at hid
    exact absurd hid (Nat.ne_of_gt hj)

/-- A class is found by its own name, whatever the namespace. -/
theorem class?_name (hm : m.Sound) (hcls : cls ∈ m.classes) : m.class? cls.name = some cls := by
  rw [Model.class?, Names.resolve?_of_position? (hm.position?_name hcls)]
  exact hm.classAt?_eq_some.mpr ⟨hcls, rfl⟩

theorem getClass_name (hm : m.Sound) (hcls : cls ∈ m.classes) : m.getClass cls.name = .ok cls :=
  getClass_eq_ok.mpr (hm.class?_name hcls)

/-- What a name resolves to is the position of a class, and that class is found by the name. -/
theorem class?_of_resolve? (hm : m.Sound) {name : String} {id : ClassId}
    (h : m.names.resolve? name = some id) :
    ∃ cls ∈ m.classes, cls.id = id ∧ m.class? name = some cls := by
  have hlt : id < m.classes.length := by simpa [Model.names] using Names.resolve?_lt h
  rcases hm.exists_of_lt hlt with ⟨cls, hcls, hid⟩
  refine ⟨cls, hcls, hid, ?_⟩
  rw [Model.class?, h]
  exact hm.classAt?_eq_some.mpr ⟨hcls, hid⟩

end Sound

end Model

/-! ## A diamond

A class reached in two ways, where one of the two declares a field of the common base anew. -/

namespace Diamond

/-- The declarations of the diamond. -/
def declarations : List Declaration :=
  [.openClass "Thing" [], .field ⟨"label", .attr "string"⟩, .closeClass,
    .openClass "Named" ["Thing"], .closeClass,
    .openClass "Dated" ["Thing"], .field ⟨"label", .attr "date"⟩, .closeClass,
    .openClass "Event" ["Named", "Dated"], .field ⟨"parts", .collection ⟨"Thing", none⟩⟩,
    .closeClass]

/-- The base. -/
def thing : Class :=
  ⟨⟨0, "Thing", [], [⟨"label", 0, .attr "string"⟩], false⟩, [], [0], [("label", ⟨0, 0⟩)]⟩

/-- The way that leaves the base as it is. -/
def named : Class := ⟨⟨1, "Named", ["Thing"], [], false⟩, [0], [1, 0], [("label", ⟨0, 0⟩)]⟩

/-- The way that declares the field anew. -/
def dated : Class :=
  ⟨⟨2, "Dated", ["Thing"], [⟨"label", 2, .attr "date"⟩], false⟩, [0], [2, 0], [("label", ⟨2, 0⟩)]⟩

/-- The class that goes both ways. -/
def event : Class :=
  ⟨⟨3, "Event", ["Named", "Dated"], [⟨"parts", 3, .collection ⟨"Thing", none⟩⟩], false⟩, [1, 2],
    [3, 1, 0, 2], [("label", ⟨0, 0⟩), ("parts", ⟨3, 0⟩)]⟩

/-- The model of the diamond. -/
def model : Model :=
  ⟨"diamond", none, [thing, named, dated, event,
    ⟨.builtinOf 4 "Integer", [], [4], []⟩, ⟨.builtinOf 5 "Long", [], [5], []⟩]⟩

theorem model_built : model.Built := by
  have h : Model.ofDeclarations "diamond" none declarations = .ok model := by cbv
  exact Model.built_of_ofDeclarations h

end Diamond

end ClassModel
