import ClassModel.Proofs.Model.Built
import ClassModel.Report.ReverseLink

/-!
# Complete answers about reverse links

Who holds the reference behind a reverse field is found by two searches, one for the class and one
among the fields of the class found. Both look for references only, whatever collections of the same
reverse field are declared before them, so the second search succeeds when the first one does; and
the target of what is found is known to the model, since the build has checked it.

* `Field.RefersBack`, `DeclaredClass.RefersBack` — what is looked for;
* `Model.declaredClasses_of_ofSchema` — the classes searched are those of the schema, in its order;
* `Model.reverseLink_complete` — the answer has all its parts, or none.
-/

namespace ClassModel

/-- A field is a reference whose reverse field has a given name. -/
def Field.RefersBack (name : String) (field : Field) : Prop :=
  ∃ target, field.kind = .reference ⟨target, some name⟩

/-- A class has an own reference whose reverse field has a given name. -/
def DeclaredClass.RefersBack (name : String) (cls : DeclaredClass) : Prop :=
  ∃ field ∈ cls.ownFields, field.RefersBack name

theorem Field.isReverseOf_iff {field : Field} {name : String} :
    field.isReverseOf name ↔ field.RefersBack name := by
  unfold isReverseOf RefersBack
  cases field.kind with
  | attr declaredType => simp [FieldKind.sort]
  | collection link => simp [FieldKind.sort]
  | reference link =>
    obtain ⟨target, reverse⟩ := link
    simp only [FieldKind.sort, FieldKind.reverse?, FieldKind.link?, Option.bind_some, decide_true,
      Bool.true_and, FieldKind.reference.injEq, Link.mk.injEq, exists_eq_left']
    exact decide_eq_true_iff

theorem DeclaredClass.any_isReverseOf_iff {cls : DeclaredClass} {name : String} :
    cls.ownFields.any (·.isReverseOf name) ↔ cls.RefersBack name := by
  simp only [List.any_eq_true, Field.isReverseOf_iff, RefersBack]

/-- A search finds the first element that passes its test. -/
theorem find?_eq_some_iff_isFirst {α : Type} {test : α → Bool} {p : α → Prop}
    (htest : ∀ x, test x ↔ p x) {xs : List α} {x : α} :
    xs.find? test = some x ↔ IsFirst p xs x := by
  rw [List.find?_eq_some_iff_append, htest]
  constructor
  · rintro ⟨hx, before, after, hlist, hbefore⟩
    refine ⟨before, after, hlist, fun y hy => ?_, hx⟩
    rw [← htest]
    simpa using hbefore y hy
  · rintro ⟨before, after, hlist, hbefore, hx⟩
    refine ⟨hx, before, after, hlist, fun y hy => ?_⟩
    have hy' := hbefore y hy
    rw [← htest] at hy'
    simpa using hy'

namespace Model

variable {schema : Schema} {m : Model}

/-- The declared classes of a model are the classes of its schema, in the order of the schema. -/
theorem declaredClasses_of_ofSchema (hschema : schema.Declared) (hbuild : ofSchema schema = .ok m) :
    m.declaredClasses.map Class.toDeclaredClass = schema.classes := by
  have hdeclared : schema.classes.filter (fun cls => !cls.builtin) = schema.classes := by
    rw [List.filter_eq_self]
    intro cls hcls
    simp [hschema.sound.declared cls hcls]
  calc m.declaredClasses.map Class.toDeclaredClass
      = (m.classes.map Class.toDeclaredClass).filter fun cls => !cls.builtin := by
        rw [List.filter_map]
        rfl
    _ = (Build.withBuiltins schema.classes).filter fun cls => !cls.builtin := by
        rw [(ofSchema_classes hbuild).1]
    _ = schema.classes := by
        rw [Build.withBuiltins_eq, List.filter_append, hdeclared]
        simp [DeclaredClass.builtinOf]

/-- The class found is, as declared, the first one of the schema with such a reference. -/
theorem map_reverseOwner? (hschema : schema.Declared) (hbuild : ofSchema schema = .ok m)
    (name : String) :
    (m.reverseOwner? name).map Class.toDeclaredClass =
      schema.classes.find? fun cls => cls.ownFields.any (·.isReverseOf name) := by
  rw [← declaredClasses_of_ofSchema hschema hbuild, List.find?_map]
  rfl

/-- Without a reference that names the reverse field no part of the answer is given, whatever
collections name it. With one, all parts are: the first declared class that has such a reference,
the first such reference of that class, and the target as the reference names it, under which the
model finds a class. -/
theorem reverseLink_complete (hschema : schema.Declared) (hbuild : ofSchema schema = .ok m)
    (name : String) :
    ((¬ ∃ cls ∈ schema.classes, cls.RefersBack name) →
      m.reverseLink name = ⟨name, none, none, none⟩) ∧
    ((∃ cls ∈ schema.classes, cls.RefersBack name) →
      ∃ cls field target found,
        IsFirst (DeclaredClass.RefersBack name) schema.classes cls ∧
        IsFirst (Field.RefersBack name) cls.ownFields field ∧
        field.kind = .reference ⟨target, some name⟩ ∧
        m.reverseLink name = ⟨name, some cls.name, some field.name, some target⟩ ∧
        m.getClass target = .ok found) := by
  have howner := map_reverseOwner? hschema hbuild name
  constructor
  · intro hnone
    have hsearch : schema.classes.find? (fun cls => cls.ownFields.any (·.isReverseOf name)) =
        none := by
      rw [List.find?_eq_none]
      intro cls hcls hany
      exact hnone ⟨cls, hcls, DeclaredClass.any_isReverseOf_iff.mp hany⟩
    rw [hsearch, Option.map_eq_none_iff] at howner
    simp [reverseLink, howner]
  · rintro ⟨other, hother, hrefers⟩
    cases hfound : m.reverseOwner? name with
    | none =>
      rw [hfound, Option.map_none, eq_comm, List.find?_eq_none] at howner
      exact absurd (DeclaredClass.any_isReverseOf_iff.mpr hrefers) (howner other hother)
    | some cls =>
      rw [hfound, Option.map_some, eq_comm,
        find?_eq_some_iff_isFirst fun _ => DeclaredClass.any_isReverseOf_iff] at howner
      -- the class was found for some field of its own, so the search among them finds one
      cases hfield : cls.ownFields.find? (·.isReverseOf name) with
      | none =>
        rcases howner.holds with ⟨field, hmem, hback⟩
        exact absurd (Field.isReverseOf_iff.mpr hback) (List.find?_eq_none.mp hfield field hmem)
      | some field =>
        have hfirst := (find?_eq_some_iff_isFirst fun _ => Field.isReverseOf_iff).mp hfield
        rcases hfirst.holds with ⟨target, hkind⟩
        have hs := Built.sound ⟨schema, hschema, hbuild⟩
        have hcls : cls ∈ m.classes :=
          (List.mem_filter.mp (List.mem_of_find?_eq_some hfound)).1
        have hknown := hs.targets cls hcls field hfirst.mem ⟨target, some name⟩ (by rw [hkind]; rfl)
        rcases Option.isSome_iff_exists.mp hknown with ⟨id, hid⟩
        rcases hs.class?_of_resolve? hid with ⟨found, -, -, hclass⟩
        refine ⟨cls.toDeclaredClass, field, target, found, howner, hfirst, hkind, ?_,
          getClass_eq_ok.mpr hclass⟩
        simp [reverseLink, hfound, hfield, hkind, FieldKind.link?]

end Model

/-! ## A workshop -/

namespace Workshop

/-- The last of three classes, with a reference of the same reverse field as the class before. -/
def vice : DeclaredClass :=
  ⟨2, "Vice", [], [⟨"bench", 2, .reference ⟨"Bench", some "holder"⟩⟩], false⟩

/-- Two collections with the reverse field `holder`, one in a class before and one in a field before
the first of two references with that reverse field. -/
def schema : Schema :=
  ⟨"workshop", some "org", [
    ⟨0, "Bench", [], [⟨"tools", 0, .collection ⟨"Tool", some "holder"⟩⟩], false⟩,
    ⟨1, "Tool", [], [⟨"parts", 1, .collection ⟨"Tool", some "holder"⟩⟩,
      ⟨"box", 1, .reference ⟨"org.Bench", some "holder"⟩⟩,
      ⟨"bench", 1, .reference ⟨"Bench", some "holder"⟩⟩], false⟩,
    vice]⟩

/-- The declarations that make it. -/
def declarations : List Declaration :=
  [.openClass "Bench" [], .field ⟨"tools", .collection ⟨"Tool", some "holder"⟩⟩, .closeClass,
    .openClass "Tool" [], .field ⟨"parts", .collection ⟨"Tool", some "holder"⟩⟩,
    .field ⟨"box", .reference ⟨"org.Bench", some "holder"⟩⟩,
    .field ⟨"bench", .reference ⟨"Bench", some "holder"⟩⟩, .closeClass,
    .openClass "Vice" [], .field ⟨"bench", .reference ⟨"Bench", some "holder"⟩⟩, .closeClass]

theorem schema_declared : schema.Declared :=
  ⟨"workshop", some "org", [.applyAll declarations], rfl⟩

end Workshop

/-- A search that collections do not lead astray, and one that finds nothing. -/
theorem Model.reverseLink_complete_workshop :
    ∃ m, Model.ofSchema Workshop.schema = .ok m ∧
      m.reverseLink "holder" = ⟨"holder", some "Tool", some "box", some "org.Bench"⟩ ∧
      (∃ found, m.getClass "org.Bench" = .ok found) ∧
      m.reverseLink "owner" = ⟨"owner", none, none, none⟩ := by
  have hbuild : ∃ m, Model.ofSchema Workshop.schema = .ok m ∧
      m.reverseLink "holder" = ⟨"holder", some "Tool", some "box", some "org.Bench"⟩ :=
    ⟨_, by cbv, by cbv⟩
  rcases hbuild with ⟨m, hbuild, hlink⟩
  rcases Model.reverseLink_complete Workshop.schema_declared hbuild "holder" with ⟨-, hall⟩
  rcases Model.reverseLink_complete Workshop.schema_declared hbuild "owner" with ⟨hnone, -⟩
  have hrefers : ∃ cls ∈ Workshop.schema.classes, cls.RefersBack "holder" :=
    ⟨Workshop.vice, by decide, _, List.mem_singleton_self _, "Bench", rfl⟩
  have hother : ¬ ∃ cls ∈ Workshop.schema.classes, cls.RefersBack "owner" := by
    rintro ⟨cls, hcls, hback⟩
    have hno : ∀ cls ∈ Workshop.schema.classes, ¬ cls.ownFields.any (·.isReverseOf "owner") := by
      decide
    exact hno cls hcls (DeclaredClass.any_isReverseOf_iff.mpr hback)
  rcases hall hrefers with ⟨cls, field, target, found, -, -, -, hanswer, hfound⟩
  rw [hlink] at hanswer
  simp only [ReverseLink.mk.injEq, Option.some.injEq, true_and] at hanswer
  exact ⟨m, hbuild, hlink, ⟨found, hanswer.2.2 ▸ hfound⟩, hnone hother⟩

end ClassModel
