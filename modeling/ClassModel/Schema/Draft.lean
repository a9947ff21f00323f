import ClassModel.Schema.Declaration

/-!
# Schemas under declaration

A draft takes declarations one by one. They come in passes, one for each source: within a pass a
class is opened once and a field declared once, while a later pass may open a class again to add
parents and fields to it. A field that an earlier pass has declared keeps its first declaration.

Classes are known by their names, which are distinct, and stand in the order of first opening.
-/

namespace ClassModel

/-- A class as declared, before its names are resolved. -/
structure DeclaredClass where
  id : ClassId
  name : String
  parentNames : List String
  ownFields : List Field
  builtin : Bool
deriving DecidableEq, Repr

/-- A complete sequence of declarations, put in order. Each class stands at the position that its
id names. -/
structure Schema where
  name : String
  /-- The namespace of the class names. -/
  qualifier : Option String
  classes : List DeclaredClass
deriving DecidableEq, Repr

/-- A field with the pass that declared it. -/
structure DraftField where
  field : Field
  pass : Nat
deriving DecidableEq, Repr

/-- A class under declaration. -/
structure DraftClass where
  id : ClassId
  name : String
  parentNames : List String
  fields : List DraftField
  /-- The pass in which the class was last opened. -/
  openedIn : Nat
deriving DecidableEq, Repr

namespace DraftClass

/-- The field of a given name. -/
def field? (cls : DraftClass) (name : String) : Option DraftField :=
  cls.fields.find? fun f => f.field.name = name

/-- Adds a parent unless it is one already. -/
def addParent (cls : DraftClass) (parent : String) : DraftClass :=
  if parent ∈ cls.parentNames then cls
  else { cls with parentNames := cls.parentNames ++ [parent] }

/-- Opens the class again in a later pass. -/
def reopen (cls : DraftClass) (pass : Nat) (parents : List String) : DraftClass :=
  parents.foldl addParent { cls with openedIn := pass }

/-- Adds a field at the end. -/
def addField (cls : DraftClass) (pass : Nat) (f : FieldDeclaration) : DraftClass :=
  { cls with fields := cls.fields ++ [⟨⟨f.name, cls.id, f.kind⟩, pass⟩] }

/-- The class without the marks of its passes. -/
def declared (cls : DraftClass) : DeclaredClass where
  id := cls.id
  name := cls.name
  parentNames := cls.parentNames
  ownFields := cls.fields.map DraftField.field
  builtin := false

end DraftClass

/-- A schema under declaration. -/
structure Draft where
  name : String
  qualifier : Option String
  /-- The current pass, counted from zero. -/
  pass : Nat
  classes : List DraftClass
  /-- The name of the class that is open. -/
  opened : Option String
deriving DecidableEq, Repr

namespace Draft

/-- An empty draft. An empty namespace is none. -/
def start (name : String) (qualifier : Option String) : Draft where
  name := name
  qualifier := qualifier.filter (· ≠ "")
  pass := 0
  classes := []
  opened := none

/-- The class of a given name. -/
def find? (draft : Draft) (name : String) : Option DraftClass :=
  draft.classes.find? fun cls => cls.name = name

/-- The class that is open. -/
def openClass? (draft : Draft) : Option DraftClass := draft.opened.bind draft.find?

/-- Changes the class of a given name. -/
def update (draft : Draft) (name : String) (change : DraftClass → DraftClass) : Draft :=
  { draft with classes := draft.classes.map fun cls => if cls.name = name then change cls else cls }

/-- Begins the next pass. No class may be open. -/
def beginPass (draft : Draft) : Except SchemaError Draft :=
  match draft.opened with
  | some name => .error (.unclosedClass name)
  | none => .ok { draft with pass := draft.pass + 1 }

/-- Opens a class, new or known from an earlier pass. -/
def openClass (draft : Draft) (name : String) (parents : List String) :
    Except SchemaError Draft :=
  match draft.opened with
  | some outer => .error (.nestedClass name outer)
  | none =>
    match draft.find? name with
    | some cls =>
      if cls.openedIn = draft.pass then .error (.duplicateClass name)
      else .ok { draft.update name (·.reopen draft.pass parents) with opened := some name }
    | none =>
      let cls : DraftClass := ⟨draft.classes.length, name, parents, [], draft.pass⟩
      .ok { draft with classes := draft.classes ++ [cls], opened := some name }

/-- Declares a field of the open class. One that an earlier pass has declared stays as it is. -/
def declareField (draft : Draft) (f : FieldDeclaration) : Except SchemaError Draft :=
  match draft.openClass? with
  | none => .error (.fieldOutsideClass f.name)
  | some cls =>
    match cls.field? f.name with
    | none => .ok (draft.update cls.name (·.addField draft.pass f))
    | some known =>
      if known.pass = draft.pass then .error (.duplicateField cls.name f.name) else .ok draft

/-- Closes the open class. -/
def closeClass (draft : Draft) : Except SchemaError Draft :=
  match draft.opened with
  | none => .error .unmatchedClose
  | some _ => .ok { draft with opened := none }

/-- Takes one declaration. -/
def apply (draft : Draft) : Declaration → Except SchemaError Draft
  | .openClass name parents => draft.openClass name parents
  | .field f => draft.declareField f
  | .closeClass => draft.closeClass

/-- Takes declarations up to the first that is refused: the draft so far, and the refusal. -/
def applyAll (draft : Draft) : List Declaration → Draft × Option SchemaError
  | [] => (draft, none)
  | declaration :: rest =>
    match draft.apply declaration with
    | .ok next => next.applyAll rest
    | .error e => (draft, some e)

/-- Takes declarations, all of them or none. -/
def declare (draft : Draft) (declarations : List Declaration) : Except SchemaError Draft :=
  match draft.applyAll declarations with
  | (next, none) => .ok next
  | (_, some e) => .error e

/-- The schema declared. No class may be open. -/
def finish (draft : Draft) : Except SchemaError Schema :=
  match draft.opened with
  | some name => .error (.unclosedClass name)
  | none => .ok ⟨draft.name, draft.qualifier, draft.classes.map DraftClass.declared⟩

end Draft

end ClassModel
