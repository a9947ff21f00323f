import ClassModel.Proofs.Model.Acceptance

/-!
# The names that find a class

A class is asked for under its own name, under that name without the namespace, or under that name
with the namespace before it. Class names are arbitrary texts: they may carry the namespace
themselves, once or more often, so the three ways can lead to different classes, and the earlier way
counts.

* `Model.Sound.class?_eq_some_iff` — the class that a name finds, way by way;
* `Model.getClass_roundTrip` — under which names a class is found again, and what the name of the
  class found can be.
-/

namespace ClassModel

namespace Names

/-- A name in a namespace is longer than the name alone. -/
theorem length_lt_qualified (q name : String) : name.length < (qualified q name).length := by
  have hdot : ".".length = 1 := by decide
  simp only [qualified, String.length_append]
  omega

theorem ne_qualified (q name : String) : name ≠ qualified q name := by
  intro h
  have hlength := length_lt_qualified q name
  rw [← h] at hlength
  omega

theorem ne_qualified_qualified (q name : String) : name ≠ qualified q (qualified q name) := by
  intro h
  have hinner := length_lt_qualified q name
  have houter := length_lt_qualified q (qualified q name)
  rw [← h] at houter
  omega

/-- A name for display is the name, unless it is one in the namespace. -/
theorem displayName_cases (qualifier : Option String) (name : String) :
    displayName qualifier name = name ∨
      ∃ q, qualifier = some q ∧ name = qualified q (displayName qualifier name) := by
  cases qualifier with
  | none => exact Or.inl rfl
  | some q =>
    cases hshort : stripped? q name with
    | none =>
      left
      simp [displayName, hshort]
    | some short =>
      right
      refine ⟨q, rfl, ?_⟩
      have hdisplay : displayName (some q) name = short := by simp [displayName, hshort]
      rw [hdisplay]
      exact stripped?_eq_some_iff.mp hshort

end Names

/-! ## Classes whose names differ by the namespace -/

namespace Namesakes

/-- A class in the namespace twice, and one that is called like a built-in class within it. -/
def declarations : List Declaration :=
  [.openClass "Manager" [], .closeClass,
    .openClass "org.org.Manager" [], .closeClass,
    .openClass "org.Long" [], .closeClass]

/-- The class without the namespace. -/
def manager : Class := ⟨⟨0, "Manager", [], [], false⟩, [], [0], []⟩

/-- The class with the namespace twice. -/
def nested : Class := ⟨⟨1, "org.org.Manager", [], [], false⟩, [], [1], []⟩

/-- The class called like a built-in one. -/
def long : Class := ⟨⟨2, "org.Long", [], [], false⟩, [], [2], []⟩

/-- The model of these classes. -/
def model : Model :=
  ⟨"firm", some "org", [manager, nested, long,
    ⟨.builtinOf 3 "Integer", [], [3], []⟩, ⟨.builtinOf 4 "Long", [], [4], []⟩]⟩

theorem namesakes_built : model.Built := by
  have h : Model.ofDeclarations "firm" (some "org") declarations = .ok model := by cbv
  exact Model.built_of_ofDeclarations h

end Namesakes

namespace Model

open Names (qualified stripped?_eq_some_iff)

/-- Some class has exactly this name. -/
def Named (m : Model) (name : String) : Prop := ∃ cls ∈ m.classes, cls.name = name

namespace Sound

variable {m : Model} {cls : Class} {name : String}

theorem position?_eq_some_iff (hm : m.Sound) (hcls : cls ∈ m.classes) :
    m.names.position? name = some cls.id ↔ cls.name = name := by
  constructor
  · intro h
    rcases List.idxOf?_eq_some_iff.mp h with ⟨hlt, hname, -⟩
    have hat : m.classes[cls.id]? = some cls := hm.classAt?_eq_some.mpr ⟨hcls, rfl⟩
    rcases List.getElem?_eq_some_iff.mp hat with ⟨hlt', hget⟩
    simpa [Model.names, hget] using hname
  · rintro rfl
    exact hm.position?_name hcls

theorem position?_eq_none_iff : m.names.position? name = none ↔ ¬ m.Named name := by
  rw [← Option.not_isSome_iff_eq_none, Names.isSome_position?_iff]
  simp [Model.names, Named]

/-- The class that a name finds: the class of that name; if there is none, the class of that name in
the namespace; and if there is none either, the class of that name without the namespace. -/
theorem class?_eq_some_iff (hm : m.Sound) (hcls : cls ∈ m.classes) :
    m.class? name = some cls ↔
      cls.name = name ∨ ¬ m.Named name ∧ ∃ q, m.qualifier = some q ∧
        (cls.name = qualified q name ∨
          ¬ m.Named (qualified q name) ∧ name = qualified q cls.name) := by
  have hclass : m.class? name = some cls ↔ m.names.resolve? name = some cls.id := by
    constructor
    · intro h
      rcases Option.bind_eq_some_iff.mp h with ⟨id, hid, hat⟩
      rw [hid, (hm.classAt?_eq_some.mp hat).2]
    · intro h
      rw [Model.class?, h]
      exact hm.classAt?_eq_some.mpr ⟨hcls, rfl⟩
  have hqualifier : m.names.qualifier = m.qualifier := rfl
  -- both sides are read off the places of the names, so the cases are those of the search
  rw [hclass, ← hm.position?_eq_some_iff hcls, ← position?_eq_none_iff, Names.resolve?, hqualifier]
  cases hexact : m.names.position? name with
  | some id => simp
  | none =>
    cases m.qualifier with
    | none => simp
    | some q =>
      simp only [reduceCtorEq, false_or, true_and, Option.some.injEq, exists_eq_left',
        ← hm.position?_eq_some_iff hcls, ← position?_eq_none_iff]
      cases m.names.position? (qualified q name) with
      | some id => simp
      | none =>
        simp only [reduceCtorEq, false_or, true_and, Option.bind_eq_some_iff,
          stripped?_eq_some_iff, hm.position?_eq_some_iff hcls]
        constructor
        · rintro ⟨short, rfl, rfl⟩
          rfl
        · intro h
          exact ⟨cls.name, h, rfl⟩

/-- A class is found under its name for display unless another class has just that name. -/
theorem getClass_displayName_iff (hm : m.Sound) (hcls : cls ∈ m.classes) :
    m.getClass (m.displayName cls.name) = .ok cls ↔
      ∀ other ∈ m.classes, other.name = m.displayName cls.name → other = cls := by
  rw [getClass_eq_ok]
  rcases Names.displayName_cases m.qualifier cls.name with hsame | ⟨q, hq, hname⟩
  · -- nothing is taken off, and no other class has the name
    rw [displayName, hsame]
    constructor
    · intro _ other hother
      exact hm.eq_of_name_eq hother hcls
    · intro _
      exact hm.class?_name hcls
  · rw [← displayName] at hname
    have hne : cls.name ≠ m.displayName cls.name := by
      intro heq
      exact Names.ne_qualified q _ (heq.symm.trans hname)
    have hfree : m.class? (m.displayName cls.name) = some cls ↔
        ¬ m.Named (m.displayName cls.name) := by
      rw [hm.class?_eq_some_iff hcls, or_iff_right hne, and_iff_left_iff_imp]
      intro _
      exact ⟨q, hq, Or.inl hname⟩
    rw [hfree]
    constructor
    · intro hnone other hother hsame
      exact absurd ⟨other, hother, hsame⟩ hnone
    · rintro honly ⟨other, hother, hsame⟩
      rcases honly other hother hsame with rfl
      exact hne hsame

/-- A class is found under its name with the namespace before it unless a class has just that name,
or that name with the namespace before it once more. -/
theorem getClass_qualified_iff (hm : m.Sound) {q : String} (hq : m.qualifier = some q)
    (hcls : cls ∈ m.classes) :
    m.getClass (qualified q cls.name) = .ok cls ↔
      ¬ m.Named (qualified q cls.name) ∧ ¬ m.Named (qualified q (qualified q cls.name)) := by
  have hne := Names.ne_qualified q cls.name
  have hne' := Names.ne_qualified_qualified q cls.name
  rw [getClass_eq_ok, hm.class?_eq_some_iff hcls, or_iff_right hne]
  apply and_congr_right
  intro _
  constructor
  · rintro ⟨q', hq', hname⟩
    rcases Option.some.inj (hq.symm.trans hq') with rfl
    exact ((or_iff_right hne').mp hname).1
  · intro hlong
    exact ⟨q, hq, Or.inr ⟨hlong, rfl⟩⟩

end Sound

/-- Every class of a built model is found again under its name and under its id. It is found under
its name for display, and under its name with the namespace before it, unless an earlier way leads
elsewhere. And a name that finds a class is the name of the class, up to one namespace put before it
or taken off. -/
theorem getClass_roundTrip {m : Model} (hm : m.Built) :
    (∀ c ∈ m.classes, m.getClass c.name = .ok c ∧ m.classAt? c.id = some c) ∧
    (∀ c ∈ m.classes, m.getClass (m.displayName c.name) = .ok c ↔
      ∀ d ∈ m.classes, d.name = m.displayName c.name → d = c) ∧
    (∀ ns, m.qualifier = some ns → ∀ c ∈ m.classes,
      (m.getClass (qualified ns c.name) = .ok c ↔
        ∀ d ∈ m.classes, d.name ≠ qualified ns c.name ∧
          d.name ≠ qualified ns (qualified ns c.name))) ∧
    (∀ s c, m.getClass s = .ok c → c ∈ m.classes ∧
      (c.name = s ∨ ∃ ns, m.qualifier = some ns ∧
        (c.name = qualified ns s ∨ s = qualified ns c.name))) := by
  have hs := hm.sound
  refine ⟨?_, ?_, ?_, ?_⟩
  · intro c hc
    exact ⟨hs.getClass_name hc, hs.classAt?_eq_some.mpr ⟨hc, rfl⟩⟩
  · intro c hc
    exact hs.getClass_displayName_iff hc
  · intro ns hns c hc
    rw [hs.getClass_qualified_iff hns hc]
    simp only [Named, not_exists, not_and, forall_and]
  · intro s c hget
    have hclass := getClass_eq_ok.mp hget
    have hc := hs.mem_of_class? hclass
    refine ⟨hc, ?_⟩
    rcases (hs.class?_eq_some_iff hc).mp hclass with hname | ⟨-, ns, hns, hlong | ⟨-, hshort⟩⟩
    · exact Or.inl hname
    · exact Or.inr ⟨ns, hns, Or.inl hlong⟩
    · exact Or.inr ⟨ns, hns, Or.inr hshort⟩

/-- The class with the namespace twice is found under both of its shorter names, the second of which
is also that of another class with the namespace before it; the class called like a built-in one is
not found under its name for display. -/
theorem getClass_roundTrip_namesakes :
    Namesakes.model.Built ∧ Namesakes.model.qualifier = some "org" ∧
      Namesakes.nested ∈ Namesakes.model.classes ∧ Namesakes.long ∈ Namesakes.model.classes ∧
      Namesakes.model.getClass (Namesakes.model.displayName "org.org.Manager") =
        .ok Namesakes.nested ∧
      Namesakes.model.getClass (qualified "org" "Manager") ≠ .ok Namesakes.manager ∧
      Namesakes.model.getClass (Namesakes.model.displayName "org.Long") ≠ .ok Namesakes.long ∧
      Namesakes.model.getClass (qualified "org" "org.Long") = .ok Namesakes.long ∧
      "org.org.Manager" = qualified "org" "org.Manager" := by
  have hbuilt := Namesakes.namesakes_built
  have hmanager : Namesakes.manager ∈ Namesakes.model.classes := by decide
  have hnested : Namesakes.nested ∈ Namesakes.model.classes := by decide
  have hlong : Namesakes.long ∈ Namesakes.model.classes := by decide
  rcases getClass_roundTrip hbuilt with ⟨-, hdisplay, hqualified, hback⟩
  have hfound := (hdisplay Namesakes.nested hnested).mpr (by decide)
  refine ⟨hbuilt, rfl, hnested, hlong, hfound, ?_, ?_, ?_, ?_⟩
  · intro h
    have hfree := (hqualified "org" rfl Namesakes.manager hmanager).mp h
    exact (hfree Namesakes.nested hnested).2 (by decide)
  · intro h
    have honly := (hdisplay Namesakes.long hlong).mp h
    exact absurd (honly ⟨.builtinOf 4 "Long", [], [4], []⟩ (by decide) (by decide)) (by decide)
  · exact (hqualified "org" rfl Namesakes.long hlong).mpr (by decide)
  · -- the name asked for is another, so one of the two has the namespace before it
    rcases (hback _ _ hfound).2 with hname | ⟨ns, hns, hway⟩
    · exact absurd hname (by decide)
    · obtain rfl : "org" = ns := Option.some.inj hns
      rcases hway with hlonger | hshorter
      · exact hlonger
      · exact absurd hshorter (by decide)

end Model

end ClassModel
