import ClassModel.Json.Reader
import ClassModel.Json.Writer
import ClassModel.Schema.Declaration

/-!
# Schema documents

A document lists classes with their parents and fields. Its declarations are made in document
order, one pass for each document.

A document is read from JSON as records: unknown keys are skipped, and all but the names may be
missing. A field is tagged by its kind; since the kind may come last, the other members of a field
are read whatever they are and looked at when the kind is known.
-/

namespace ClassModel

/-- A class entry of a document. -/
structure ClassEntry where
  name : String
  parents : List String
  fields : List FieldDeclaration
deriving DecidableEq, Repr

/-- A schema document. -/
structure Document where
  name : String
  qualifier : Option String
  classes : List ClassEntry
deriving DecidableEq, Repr

/-- The declarations of a class entry. -/
def ClassEntry.declarations (entry : ClassEntry) : List Declaration :=
  .openClass entry.name entry.parents :: entry.fields.map .field ++ [.closeClass]

namespace Document

/-- The declarations of a document, in document order. -/
def declarations (document : Document) : List Declaration :=
  document.classes.flatMap ClassEntry.declarations

end Document

open Json (Tree Read Column)

/-! ## Writing -/

/-- A field entry. -/
def FieldDeclaration.json (f : FieldDeclaration) : Json :=
  let linked (link : Link) : List (String × Json) :=
    [("referenced_type", .text link.target), ("reverse_reference", .ofText? link.reverse)]
  let typed : List (String × Json) :=
    match f.kind with
    | .attr declaredType => [("type", .text declaredType)]
    | .reference link | .collection link => linked link
  .object ([("kind", .text f.kind.sort.name), ("name", .text f.name)] ++ typed)

/-- A class entry. -/
def ClassEntry.json (entry : ClassEntry) : Json :=
  .object [("name", .text entry.name), ("extends", .texts entry.parents),
    ("fields", .list (entry.fields.map FieldDeclaration.json))]

/-- A document. -/
def Document.json (document : Document) : Json :=
  .object [("name", .text document.name), ("namespace", .ofText? document.qualifier),
    ("classes", .list (document.classes.map ClassEntry.json))]

/-! ## Reading field entries -/

namespace FieldDeclaration

/-- The key of the kind of a field. -/
def kindKey : String := "kind"

/-- The keys of a field entry besides the kind, in order. -/
def keys : FieldSort → List String
  | .attr => ["name", "type"]
  | .reference | .collection => ["name", "referenced_type", "reverse_reference"]

/-- The value of a key that may occur once at most. -/
def once? (key : String) (members : List (String × Json)) : Read (Option Json) :=
  match members.filter fun member => member.1 = key with
  | [] => .ok none
  | [member] => .ok (some member.2)
  | _ => .error .misshapen

/-- A string that must be there. -/
def required : Option Json → Read String
  | some (.text value) => .ok value
  | _ => .error .misshapen

/-- A string that may be null or missing. -/
def optional : Option Json → Read (Option String)
  | none | some .null => .ok none
  | some (.text value) => .ok (some value)
  | _ => .error .misshapen

/-- A field of a known sort from its other members. -/
def ofMembers (sort : FieldSort) (members : List (String × Json)) : Read FieldDeclaration := do
  let name ← required (← once? "name" members)
  match sort with
  | .attr =>
    let typeName ← required (← once? "type" members)
    return ⟨name, .of sort typeName none⟩
  | .reference | .collection =>
    let typeName ← required (← once? "referenced_type" members)
    let reverse ← optional (← once? "reverse_reference" members)
    return ⟨name, .of sort typeName reverse⟩

/-- Reads the kind of a field. -/
def readSort (tree : Tree) : Read FieldSort := do
  match FieldSort.ofName? (← tree.readText) with
  | some sort => return sort
  | none => .error .misshapen

/-- Reads the members of a field entry: the kind, once it has come, and the others. -/
def readMembers (room : Nat) : Option FieldSort → List (Json.Quoted × Tree) →
    Read (Option FieldSort × List (String × Json))
  | sort, [] => .ok (sort, [])
  | sort, (key, value) :: rest => do
    let key ← key.read
    if key = kindKey then
      if sort.isSome then .error .misshapen
      else
        let sort ← readSort value
        readMembers room (some sort) rest
    else
      let value ← value.read room
      let (sort, members) ← readMembers room sort rest
      return (sort, (key, value) :: members)

/-- Reads a field entry, written as an object or as a list that starts with the kind. -/
def read (room : Nat) : Tree → Read FieldDeclaration
  | .object members cut => do
    let room ← Json.enter room
    let (sort, members) ← readMembers room none members
    Json.passEnd cut
    match sort with
    | none => .error .misshapen
    | some sort => ofMembers sort members
  | .list [] cut => do
    let _ ← Json.enter room
    Json.passEnd cut
    .error .misshapen
  | .list (first :: rest) cut => do
    let room ← Json.enter room
    let sort ← readSort first
    let values ← Tree.readItems room rest
    Json.passEnd cut
    if (keys sort).length < values.length then .error .misshapen
    else ofMembers sort ((keys sort).zip values)
  | tree => .error tree.refusal

end FieldDeclaration

/-! ## Reading classes and documents -/

/-- A value found in a class entry. -/
inductive ClassEntry.Part where
  | name (value : String)
  | parents (value : List String)
  | fields (value : List FieldDeclaration)

/-- The keys of a class entry. -/
def ClassEntry.columns : List (Column ClassEntry.Part) :=
  [("name", fun _ tree => .name <$> tree.readText),
    ("extends", fun room tree => .parents <$> tree.readTexts room),
    ("fields", fun room tree => .fields <$> tree.readList FieldDeclaration.read room)]

/-- Reads a class entry. -/
def ClassEntry.read (room : Nat) (tree : Tree) : Read ClassEntry := do
  let found ← tree.readRecord columns room
  let parents := match found.get? "extends" with
    | some (.parents value) => value
    | _ => []
  let fields := match found.get? "fields" with
    | some (.fields value) => value
    | _ => []
  match found.get? "name" with
  | some (.name name) => return ⟨name, parents, fields⟩
  | _ => .error .misshapen

/-- A value found in a document. -/
inductive Document.Part where
  | name (value : String)
  | qualifier (value : Option String)
  | classes (value : List ClassEntry)

/-- The keys of a document. -/
def Document.columns : List (Column Document.Part) :=
  [("name", fun _ tree => .name <$> tree.readText),
    ("namespace", fun _ tree => .qualifier <$> tree.readText?),
    ("classes", fun room tree => .classes <$> tree.readList ClassEntry.read room)]

/-- Reads a document. -/
def Document.read (room : Nat) (tree : Tree) : Read Document := do
  let found ← tree.readRecord columns room
  let qualifier := match found.get? "namespace" with
    | some (.qualifier value) => value
    | _ => none
  let classes := match found.get? "classes" with
    | some (.classes value) => value
    | _ => []
  match found.get? "name" with
  | some (.name name) => return ⟨name, qualifier, classes⟩
  | _ => .error .misshapen

/-- Reads a document from a text. -/
def Document.ofText (text : String) : Read Document := Json.readWhole Document.read text

end ClassModel
