import ClassModel.Model.Basic
import ClassModel.Report.Format

/-!
# Listing classes

The declared classes of a model, or those that declare a field of a given name themselves.
-/

namespace ClassModel

/-- A class in a listing. -/
structure ClassSummary where
  name : String
  parents : List String
  fieldCount : Nat
deriving DecidableEq, Repr

/-- A listing of classes. -/
structure Listing where
  model : String
  /-- The field that all classes of the listing declare. -/
  declaring : Option String
  classes : List ClassSummary
deriving DecidableEq, Repr

/-- A class as it is listed. -/
def ClassSummary.of (cls : Class) : ClassSummary := ⟨cls.name, cls.parentNames, cls.fieldCount⟩

/-- Lists the classes of a model. -/
def Model.listing (m : Model) (declaring : Option String) : Listing where
  model := m.name
  declaring := declaring
  classes :=
    (match declaring with
      | none => m.declaredClasses
      | some field => m.declaring field).map ClassSummary.of

namespace Report

/-- A listed class as JSON. -/
def summaryJson (cls : ClassSummary) : Json :=
  .object [("name", .text cls.name), ("parents", .texts cls.parents),
    ("field_count", .int cls.fieldCount)]

/-- A listed class on a line. -/
def summaryLine (cls : ClassSummary) : String :=
  let parents :=
    if cls.parents = [] then "" else " extends " ++ String.intercalate ", " cls.parents
  let fields := count cls.fieldCount
  s!"  {cls.name}{parents} ({fields} fields)"

/-- A listing as a report. -/
def ofListing (listing : Listing) : Report :=
  let head :=
    match listing.declaring with
    | none => s!"Classes in {listing.model}"
    | some field => s!"Classes declaring '{field}' in {listing.model}"
  let found := count listing.classes.length
  { lines :=
      if listing.classes = [] then [head, "", "No classes found."]
      else [head, "", s!"Found {found} class(es):"] ++ listing.classes.map summaryLine
    content :=
      .object ([("model", .text listing.model)] ++ Json.member? "declaring" listing.declaring ++
        [("classes", .list (listing.classes.map summaryJson))]) }

end Report

end ClassModel
