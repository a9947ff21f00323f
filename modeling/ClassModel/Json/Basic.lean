import ClassModel.Floating.Format

/-!
# JSON values

Members of an object stand in the order they are written in. Integers and floating-point numbers
are kept apart, and so are the two precisions, since they are written differently.
-/

namespace ClassModel

/-- A JSON value. -/
inductive Json where
  | null
  | bool (value : Bool)
  | int (value : Int)
  | double (value : Double)
  | single (value : Single)
  | text (value : String)
  | list (items : List Json)
  | object (members : List (String × Json))
deriving Repr

namespace Json

/-- A text or null. -/
def ofText? : Option String → Json
  | none => .null
  | some value => .text value

/-- A list of texts. -/
def texts (values : List String) : Json := .list (values.map .text)

/-- A member if there is a value for it. -/
def member? (name : String) (value : Option String) : List (String × Json) :=
  match value with
  | none => []
  | some value => [(name, .text value)]

end Json

end ClassModel
