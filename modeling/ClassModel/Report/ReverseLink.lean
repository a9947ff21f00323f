import ClassModel.Model.Basic
import ClassModel.Report.Format

/-!
# Finding a reverse link

The reference whose reverse field has a given name, with the class that declares it and the class it
leads to.
-/

namespace ClassModel

/-- The answer where a reverse field is declared. -/
structure ReverseLink where
  reverseField : String
  cls : Option String
  reference : Option String
  target : Option String
deriving DecidableEq, Repr

/-- Finds the first reference whose reverse field has a given name. -/
def Model.reverseLink (m : Model) (name : String) : ReverseLink :=
  let cls := m.reverseOwner? name
  let reference := cls.bind fun cls => cls.ownFields.find? (·.isReverseOf name)
  { reverseField := name
    cls := cls.map fun cls => cls.name
    reference := reference.map Field.name
    target := reference.bind fun field => field.kind.link?.map Link.target }

namespace Report

/-- The answer as a report. -/
def ofReverseLink (link : ReverseLink) : Report where
  lines :=
    let head := s!"Reverse reference: {link.reverseField}"
    match link.cls, link.reference, link.target with
    | none, _, _ => [head, "", "No reference declares this reverse field."]
    | some cls, some reference, some target =>
      [head, "", s!"Declared on: {cls}", s!"  {cls}.{reference} -> {target}"]
    | some cls, _, _ => [head, "", s!"Declared on: {cls}"]
  content :=
    .object [("reverse_field", .text link.reverseField), ("class", .ofText? link.cls),
      ("reference", .ofText? link.reference), ("referenced_class", .ofText? link.target)]

end Report

end ClassModel
