import ClassModel.Json.Writer
import ClassModel.Toon

/-!
# Output formats

A result is shown as a table made for it, as pretty JSON or as toon.
-/

namespace ClassModel

/-- How results are shown. -/
inductive OutputFormat where
  | table
  | json
  | toon
deriving DecidableEq, Repr

namespace OutputFormat

/-- The word for a format. -/
def name : OutputFormat → String
  | table => "table"
  | json => "json"
  | toon => "toon"

/-- The format with a given name. -/
def ofName? (text : String) : Option OutputFormat :=
  [table, json, toon].find? fun format => format.name = text

end OutputFormat

/-- A result ready to be shown: the lines of its table, and its content. -/
structure Report where
  lines : List String
  content : Json
deriving Repr

namespace Report

/-- The table of a result. -/
def table (report : Report) : String := String.intercalate "\n" report.lines

/-- A result in a format. -/
def render (report : Report) : OutputFormat → String
  | .table => report.table
  | .json => Json.prettyText report.content
  | .toon => Toon.encode report.content

/-- Names on one line, or a dash if there are none. -/
def joinOrDash (names : List String) : String :=
  if names = [] then "-" else String.intercalate ", " names

/-- A number in decimal digits. -/
def count (n : Nat) : String := String.ofList (Text.natText n)

end Report

end ClassModel
