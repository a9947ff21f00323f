import ClassModel.Model.Basic
import ClassModel.Report.Format

/-!
# Describing a class

A class with the classes it extends and inherits from, those that inherit from it, and all its
visible fields. In the table the fields stand in columns: a column is as wide as its longest entry
is in UTF-8, which is never less than its number of characters.
-/

namespace ClassModel

/-- A visible field of a described class. -/
structure FieldSummary where
  name : String
  kind : String
  typeName : String
  declaredIn : String
  reverse : Option String
deriving DecidableEq, Repr

/-- A class described. -/
structure Description where
  name : String
  /-- The namespace of the model. -/
  qualifier : Option String
  parents : List String
  ancestors : List String
  /-- The classes that inherit from the class, itself not among them. -/
  subclasses : List String
  fields : List FieldSummary
deriving DecidableEq, Repr

/-- A field as it is described. -/
def FieldSummary.of (m : Model) (field : Field) : FieldSummary where
  name := field.name
  kind := field.kind.sort.name
  typeName := field.kind.typeLabel
  declaredIn := ((m.declaringClass? field).map fun cls => cls.name).getD ""
  reverse := field.kind.reverse?

/-- Describes the class that a name refers to. -/
def Model.describe (m : Model) (name : String) : Except LookupError Description := do
  let cls ← m.getClass name
  let subclasses ← m.subclassesOf cls.name
  let names (classes : List Class) : List String := classes.map fun cls => cls.name
  return {
    name := cls.name
    qualifier := m.qualifier
    parents := names (m.classesAt cls.parents)
    ancestors := names (m.classesAt cls.ancestors)
    subclasses := names (subclasses.filter fun other => other.id ≠ cls.id)
    fields := (m.fields cls).map (FieldSummary.of m) }

namespace Report

/-- A described field as JSON. -/
def fieldJson (field : FieldSummary) : Json :=
  .object ([("name", .text field.name), ("kind", .text field.kind), ("type", .text field.typeName),
    ("declared_in", .text field.declaredIn)] ++ Json.member? "reverse" field.reverse)

/-- The width of a column: the length of its longest entry in UTF-8. -/
def columnWidth (entries : List String) : Nat :=
  entries.foldl (fun width entry => max width entry.utf8ByteSize) 0

/-- A text with spaces after it up to a number of characters. -/
def padded (width : Nat) (text : String) : String :=
  text ++ String.ofList (List.replicate (width - text.length) ' ')

/-- A described field on a line, in columns of given widths. A field declared by the class described
does not name it. -/
def fieldLine (nameWidth kindWidth : Nat) (described : String) (field : FieldSummary) : String :=
  let back :=
    match field.reverse with
    | none => ""
    | some reverse => s!" <-> {reverse}"
  let origin := if field.declaredIn = described then "" else s!"  [from {field.declaredIn}]"
  "  " ++ padded nameWidth field.name ++ "  " ++ padded kindWidth field.kind ++ "  " ++
    field.typeName ++ back ++ origin

/-- The lines of the fields. -/
def fieldLines (d : Description) : List String :=
  let nameWidth := columnWidth (d.fields.map FieldSummary.name)
  let kindWidth := columnWidth (d.fields.map FieldSummary.kind)
  d.fields.map (fieldLine nameWidth kindWidth d.name)

/-- A description as a report. -/
def ofDescription (d : Description) : Report :=
  let head :=
    match d.qualifier with
    | none => s!"Class: {d.name}"
    | some qualifier => s!"Class: {d.name} ({qualifier})"
  let fields := count d.fields.length
  { lines :=
      [head, "", "Parents:    " ++ joinOrDash d.parents, "Ancestors:  " ++ joinOrDash d.ancestors,
        "Subclasses: " ++ joinOrDash d.subclasses, ""] ++
      if d.fields = [] then ["No fields."] else s!"Fields ({fields}):" :: fieldLines d
    content :=
      .object ([("name", .text d.name)] ++ Json.member? "namespace" d.qualifier ++
        [("parents", .texts d.parents), ("ancestors", .texts d.ancestors),
          ("subclasses", .texts d.subclasses), ("fields", .list (d.fields.map fieldJson))]) }

end Report

end ClassModel
