import ClassModel.Model.Ancestry
import ClassModel.Model.Basic
import ClassModel.Schema.Document

/-!
# Building models

A model is built from a schema in five steps: names are checked and the built-in classes added,
parent names are resolved, ancestor chains are computed, the fields of each chain are merged, and
the targets of references and collections are checked. The first step that fails says why there is
no model.
-/

namespace ClassModel

/-- Why there is no model. -/
inductive BuildError where
  | schema (error : SchemaError)
  | unresolvedParent (cls parent : String)
  /-- A circle of parents, from a class back to that class. -/
  | cyclicInheritance (cls : String) (circle : List String)
  | unresolvedReference (cls field target : String)
  | reservedClassName (name : String)
deriving DecidableEq, Repr

/-- A circle of parents on one line. -/
def circleText (circle : List String) : String := String.intercalate " -> " circle

/-- The wording of a failed build. -/
def BuildError.message : BuildError → String
  | schema error => error.message
  | unresolvedParent cls parent => s!"Class '{cls}' extends unknown class '{parent}'"
  | cyclicInheritance cls circle =>
    let path := circleText circle
    s!"Cyclic inheritance involving class '{cls}': {path}"
  | unresolvedReference cls field target =>
    s!"Field '{cls}.{field}' refers to unknown class '{target}'"
  | reservedClassName name => s!"Class name '{name}' is reserved for a built-in class"

/-- The classes that every model has, whatever the schema declares. -/
def builtinNames : List String := ["Integer", "Long"]

/-- A built-in class has no parents and no fields. -/
def DeclaredClass.builtinOf (id : ClassId) (name : String) : DeclaredClass :=
  ⟨id, name, [], [], true⟩

namespace Build

/-- Checks that no class takes the name of a built-in class or of a class before it. -/
def checkNames (before : List String) : List DeclaredClass → Except BuildError Unit
  | [] => .ok ()
  | cls :: rest =>
    if cls.name ∈ builtinNames then .error (.reservedClassName cls.name)
    else if cls.name ∈ before then .error (.schema (.duplicateClass cls.name))
    else checkNames (cls.name :: before) rest

/-- Adds the built-in classes after the declared ones. -/
def withBuiltins (classes : List DeclaredClass) : List DeclaredClass :=
  classes ++ builtinNames.mapIdx fun index name => .builtinOf (classes.length + index) name

/-- Resolves the parent names of a class. -/
def parentsOf (names : Names) (cls : DeclaredClass) : Except BuildError (List ClassId) :=
  cls.parentNames.mapM fun parent =>
    match names.resolve? parent with
    | some id => .ok id
    | none => .error (.unresolvedParent cls.name parent)

/-- The names of the classes on a circle. -/
def circleError (names : Names) (circle : List ClassId) : BuildError :=
  let names := circle.filterMap fun id => names.names[id]?
  .cyclicInheritance (names.headD "") names

/-- Adds the own fields of a class to what is visible, where no field of that name is yet. -/
def addFields (owner : ClassId) (fields : List Field) (visible : Entries FieldRef) :
    Entries FieldRef :=
  fields.zipIdx.foldl (fun visible (field, index) => visible.putNew field.name ⟨owner, index⟩)
    visible

/-- The fields visible on a class with a given chain. -/
def visibleOn (classes : List DeclaredClass) (chain : List ClassId) : Entries FieldRef :=
  chain.foldl (fun visible id =>
    match classes[id]? with
    | some cls => addFields id cls.ownFields visible
    | none => visible) []

/-- Checks the target of a field. -/
def checkField (names : Names) (cls : String) (field : Field) : Except BuildError Unit :=
  match field.kind.link? with
  | none => .ok ()
  | some link =>
    if (names.resolve? link.target).isSome then .ok ()
    else .error (.unresolvedReference cls field.name link.target)

/-- Checks the targets of all own fields. -/
def checkTargets (names : Names) (classes : List DeclaredClass) : Except BuildError Unit :=
  classes.forM fun cls => cls.ownFields.forM (checkField names cls.name)

end Build

open Build

/-- The model of a schema. -/
def Model.ofSchema (schema : Schema) : Except BuildError Model := do
  checkNames [] schema.classes
  let classes := withBuiltins schema.classes
  let names : Names := ⟨schema.qualifier, classes.map DeclaredClass.name⟩
  let parents ← classes.mapM (parentsOf names)
  let chains ←
    match Ancestry.allChains parents with
    | .ok chains => .ok chains
    | .error circle => .error (circleError names circle)
  checkTargets names classes
  let linked := (classes.zip (parents.zip chains)).map fun (cls, ids, chain) =>
    { cls with parents := ids, ancestors := chain, visible := visibleOn classes chain : Class }
  return ⟨schema.name, schema.qualifier, linked⟩

/-- The model of one pass of declarations. -/
def Model.ofDeclarations (name : String) (qualifier : Option String)
    (declarations : List Declaration) : Except BuildError Model := do
  let schema ← ((do (← (Draft.start name qualifier).declare declarations).finish :
    Except SchemaError Schema)).mapError .schema
  ofSchema schema

/-! ## Documents -/

/-- Why documents make no model. -/
inductive SourceError where
  | noDocuments
  | build (error : BuildError)
deriving DecidableEq, Repr

/-- The wording of a failure to make a model of documents. -/
def SourceError.message : SourceError → String
  | noDocuments => "No schema documents given"
  | build error => error.message

/-- Takes one more document, as a pass of its own. -/
def Draft.addDocument (draft : Draft) (document : Document) : Except SchemaError Draft := do
  (← draft.beginPass).declare document.declarations

/-- The schema that documents declare together, one pass each. The first names it. -/
def Schema.ofDocuments (first : Document) (rest : List Document) : Except SchemaError Schema := do
  let draft ← (Draft.start first.name first.qualifier).declare first.declarations
  let draft ← rest.foldlM Draft.addDocument draft
  draft.finish

/-- The model of documents. -/
def Model.ofDocuments (documents : List Document) : Except SourceError Model :=
  match documents with
  | [] => .error .noDocuments
  | first :: rest =>
    match Schema.ofDocuments first rest with
    | .error error => .error (.build (.schema error))
    | .ok schema => (ofSchema schema).mapError .build

end ClassModel
