import ClassModel.Schema.Field

/-!
# Class names

The classes of a model are found by name: as given, then with the model's namespace put before it,
then with the namespace taken off. The first name that some class has wins.
-/

namespace ClassModel

/-- The names of the classes of a model, each at the position of its class. -/
structure Names where
  /-- The namespace. -/
  qualifier : Option String
  names : List String
deriving DecidableEq, Repr

namespace Names

/-- A name within a namespace. -/
def qualified (qualifier name : String) : String := qualifier ++ "." ++ name

/-- A name with the namespace and the dot after it taken off. -/
def stripped? (qualifier name : String) : Option String :=
  (List.isPrefixOf? (qualifier.toList ++ ['.']) name.toList).map String.ofList

/-- A name with the namespace taken off if it is there. -/
def displayName (qualifier : Option String) (name : String) : String :=
  ((qualifier.bind fun q => stripped? q name)).getD name

/-- The class of exactly this name. -/
def position? (names : Names) (name : String) : Option ClassId := names.names.idxOf? name

/-- The class that a name refers to. -/
def resolve? (names : Names) (name : String) : Option ClassId :=
  match names.position? name, names.qualifier with
  | some id, _ => some id
  | none, none => none
  | none, some q =>
    match names.position? (qualified q name) with
    | some id => some id
    | none => (stripped? q name).bind names.position?

end Names

end ClassModel
