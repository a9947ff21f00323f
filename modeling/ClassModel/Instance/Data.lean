import ClassModel.Instance.Basic
import ClassModel.Json.Reader

/-!
# Data

The untyped input that instances are built from: a tree of scalars, maps and lists, which may hold
instances built before.
-/

namespace ClassModel

/-- Untyped data. The entries of a map stand in the order of their keys. -/
inductive Data where
  | null
  | scalar (value : Scalar)
  | map (entries : List (String × Data))
  | list (items : List Data)
  /-- An instance built before. -/
  | built (target : Instance)

namespace Data

/-- The map of pairs: the last value given for a key counts. -/
def ofPairs (pairs : List (String × Data)) : Data := .map (Entries.ofPairs pairs)

/-- The word for the type of data. -/
def typeName : Data → String
  | null => "null"
  | scalar value => value.typeName
  | map _ => "object"
  | list _ => "list"
  | built _ => "instance"

/-- Data as it stands in a message. -/
def describe : Data → String
  | null => "null"
  | scalar value => value.describe
  | map entries =>
    let count := String.ofList (Text.natText entries.length)
    s!"object with {count} field(s)"
  | list items =>
    let count := String.ofList (Text.natText items.length)
    s!"list of {count} item(s)"
  | built target => s!"instance of {target.className}"

mutual

/-- The data of a JSON value. Integers beyond 64 bits become floating-point numbers. -/
def ofJson : Json → Data
  | .null => .null
  | .bool value => .scalar (.bool value)
  | .int value =>
    match Scalar.int64? value with
    | some n => .scalar (.int n)
    | none => .scalar (.float (.ofInt value))
  | .double value => .scalar (.float value)
  | .single value => .scalar (.float value.convert)
  | .text value => .scalar (.text value)
  | .list items => .list (ofJsonItems items)
  | .object members => ofPairs (ofJsonMembers members)

/-- The data of JSON items. -/
def ofJsonItems : List Json → List Data
  | [] => []
  | item :: rest => ofJson item :: ofJsonItems rest

/-- The data of JSON members. -/
def ofJsonMembers : List (String × Json) → List (String × Data)
  | [] => []
  | (key, value) :: rest => (key, ofJson value) :: ofJsonMembers rest

end

/-- Reads data from a JSON text. -/
def ofText (text : String) : Json.Read Data := ofJson <$> Json.ofText text

end Data

end ClassModel
