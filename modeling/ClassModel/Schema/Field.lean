/-!
# Fields

A field is one named member of a class: an attribute with a scalar value, a reference to one
object, or an ordered collection of objects. An attribute's declared type decides its value type.
-/

namespace ClassModel

/-- The scalar type of an attribute. -/
inductive ValueType where
  | string
  | short
  | integer
  | long
  | double
  | float
  | boolean
  | date
  | any
deriving DecidableEq, Repr

namespace ValueType

/-- All value types. -/
def all : List ValueType := [string, short, integer, long, double, float, boolean, date, any]

/-- The name used in messages and output. -/
def name : ValueType → String
  | string => "string"
  | short => "short"
  | integer => "integer"
  | long => "long"
  | double => "double"
  | float => "float"
  | boolean => "boolean"
  | date => "date"
  | any => "any"

/-- The value type with a given name. -/
def ofName? (text : String) : Option ValueType := all.find? fun type => type.name = text

/-- Whether values of the type are numbers. -/
def isNumeric : ValueType → Bool
  | short | integer | long | double | float => true
  | string | boolean | date | any => false

/-- The part of a text after its last dot. -/
def lastSegment (text : List Char) : List Char :=
  (text.reverse.takeWhile (· ≠ '.')).reverse

/-- The value type that a declared type name stands for: the part after the last dot decides, in
whatever ASCII case, and an unknown name stands for any scalar. -/
def ofDeclared (declared : String) : ValueType :=
  match String.ofList ((lastSegment declared.toList).map Char.toLower) with
  | "string" | "str" | "text" => string
  | "short" | "i16" => short
  | "integer" | "int" | "i32" => integer
  | "long" | "i64" => long
  | "double" | "f64" => double
  | "float" | "f32" => float
  | "boolean" | "bool" => boolean
  | "date" => date
  | _ => any

end ValueType

/-- Position of a class in its model. -/
abbrev ClassId := Nat

/-- The target of a reference or collection, by name, and the field that points back. -/
structure Link where
  target : String
  reverse : Option String
deriving DecidableEq, Repr

/-- What a field holds. -/
inductive FieldKind where
  | attr (declaredType : String)
  | reference (link : Link)
  | collection (link : Link)
deriving DecidableEq, Repr

/-- The three sorts of field. -/
inductive FieldSort where
  | attr
  | reference
  | collection
deriving DecidableEq, Repr

/-- The word for a sort of field. -/
def FieldSort.name : FieldSort → String
  | attr => "attribute"
  | reference => "reference"
  | collection => "collection"

/-- The sort of field with a given name. -/
def FieldSort.ofName? (text : String) : Option FieldSort :=
  [attr, reference, collection].find? fun sort => sort.name = text

namespace FieldKind

/-- The kind that a sort, a type or target name and a reverse field make. Attributes have no
reverse field. -/
def of (sort : FieldSort) (typeName : String) (reverse : Option String) : FieldKind :=
  match sort with
  | .attr => attr typeName
  | .reference => reference ⟨typeName, reverse⟩
  | .collection => collection ⟨typeName, reverse⟩

/-- The sort of a kind. -/
def sort : FieldKind → FieldSort
  | attr _ => .attr
  | reference _ => .reference
  | collection _ => .collection

/-- The value type of an attribute. -/
def valueType? : FieldKind → Option ValueType
  | attr declaredType => some (.ofDeclared declaredType)
  | reference _ | collection _ => none

/-- The link of a reference or collection. -/
def link? : FieldKind → Option Link
  | attr _ => none
  | reference link | collection link => some link

/-- The declared type of an attribute, the target of a reference or collection. -/
def typeLabel : FieldKind → String
  | attr declaredType => declaredType
  | reference link | collection link => link.target

/-- The field that points back at a reference or collection. -/
def reverse? (kind : FieldKind) : Option String := kind.link?.bind Link.reverse

end FieldKind

/-- One declared field. -/
structure Field where
  name : String
  /-- The class that declares it. -/
  owner : ClassId
  kind : FieldKind
deriving DecidableEq, Repr

/-- Whether a field is a reference whose reverse field has a given name. -/
def Field.isReverseOf (field : Field) (name : String) : Bool :=
  field.kind.sort = .reference && field.kind.reverse? = some name

end ClassModel
