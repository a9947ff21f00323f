import ClassModel.Floating.Layout
import ClassModel.Json.Basic

/-!
# Scalars

A scalar as it comes in data, before any attribute gives it a type.
-/

namespace ClassModel

/-- An untyped scalar. -/
inductive Scalar where
  | bool (value : Bool)
  | int (value : Int64)
  | float (value : Double)
  | text (value : String)
deriving DecidableEq, Repr

namespace Scalar

/-- The word for the type of a scalar. -/
def typeName : Scalar → String
  | bool _ => "bool"
  | int _ => "int"
  | float _ => "float"
  | text _ => "string"

/-- A scalar as plain text. -/
def display : Scalar → String
  | bool true => "true"
  | bool false => "false"
  | int value => String.ofList (Text.intText value.toInt)
  | float value => String.ofList (Floating.Layout.plain.text value)
  | text value => value

/-- A scalar as it stands in a message: text is put in quotes. -/
def describe : Scalar → String
  | text value => "\"" ++ value ++ "\""
  | scalar => scalar.display

/-- A scalar as JSON. -/
def json : Scalar → Json
  | bool value => .bool value
  | int value => .int value.toInt
  | float value => .double value
  | text value => .text value

/-- Equality with numbers compared as numbers of their own type. -/
def numEq : Scalar → Scalar → Bool
  | float x, float y => x.numEq y
  | x, y => x = y

end Scalar

end ClassModel
