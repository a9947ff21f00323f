import ClassModel.Calendar
import ClassModel.Floating.Numeral
import ClassModel.Instance.Scalar
import ClassModel.Schema.Field

/-!
# Attribute values

A scalar becomes the value of an attribute by the attribute's value type. Integers are taken from
integers and from their text, if they are in range; floating-point numbers also from other numbers;
truth values and dates from their text. An untyped attribute takes any scalar as it is, and a text
attribute takes its text.
-/

namespace ClassModel

/-- The value of an attribute. -/
inductive Value where
  | string (value : String)
  | short (value : Int16)
  | integer (value : Int32)
  | long (value : Int64)
  | double (value : Double)
  | float (value : Single)
  | boolean (value : Bool)
  | date (value : Date)
  | any (value : Scalar)
deriving DecidableEq, Repr

namespace Value

/-- The type of a value. -/
def type : Value → ValueType
  | string _ => .string
  | short _ => .short
  | integer _ => .integer
  | long _ => .long
  | double _ => .double
  | float _ => .float
  | boolean _ => .boolean
  | date _ => .date
  | any _ => .any

/-! ## Views of a value -/

/-- The text of a value that is one. -/
def text? : Value → Option String
  | string value | any (.text value) => some value
  | _ => none

/-- The integer of a value that is one. -/
def int? : Value → Option Int64
  | short value => some value.toInt64
  | integer value => some value.toInt64
  | long value | any (.int value) => some value
  | _ => none

/-- The number of a value that is one, in double precision. -/
def number? : Value → Option Double
  | double value | any (.float value) => some value
  | float value => some value.convert
  | value => value.int?.map fun n => .ofInt n.toInt

/-- The truth value of a value that is one. -/
def bool? : Value → Option Bool
  | boolean value | any (.bool value) => some value
  | _ => none

/-- The date of a value that is one. -/
def date? : Value → Option Date
  | date value => some value
  | _ => none

/-- A value as JSON. -/
def json : Value → Json
  | string value => .text value
  | short value => .int value.toInt
  | integer value => .int value.toInt
  | long value => .int value.toInt
  | double value => .double value
  | float value => .single value
  | boolean value => .bool value
  | date value => .text (String.ofList value.text)
  | any value => value.json

/-- Equality of values with numbers compared as numbers of their own type. -/
def numEq : Value → Value → Bool
  | double x, double y => x.numEq y
  | float x, float y => x.numEq y
  | any x, any y => x.numEq y
  | x, y => x = y

end Value

/-! ## Coercion -/

namespace Scalar

open Text (trim intOf?)

/-- An integer of 64 bits, if it is in range. -/
def int64? (n : Int) : Option Int64 :=
  if Int64.minValue.toInt ≤ n ∧ n ≤ Int64.maxValue.toInt then some (.ofInt n) else none

/-- The integer a scalar stands for: one itself, or the text of one. -/
def toInt? : Scalar → Option Int64
  | int value => some value
  | text value => (intOf? (trim value.toList)).bind int64?
  | bool _ | float _ => none

/-- The same integer in 16 bits, if it is in range. -/
def toShort? (scalar : Scalar) : Option Int16 :=
  scalar.toInt?.bind fun n =>
    if Int16.minValue.toInt ≤ n.toInt ∧ n.toInt ≤ Int16.maxValue.toInt then some n.toInt16
    else none

/-- The same integer in 32 bits, if it is in range. -/
def toInteger? (scalar : Scalar) : Option Int32 :=
  scalar.toInt?.bind fun n =>
    if Int32.minValue.toInt ≤ n.toInt ∧ n.toInt ≤ Int32.maxValue.toInt then some n.toInt32
    else none

/-- The finite number a scalar stands for: one itself, an integer, or the text of a numeral. -/
def toDouble? (scalar : Scalar) : Option Double :=
  let number : Option Double :=
    match scalar with
    | int value => some (.ofInt value.toInt)
    | float value => some value
    | text value =>
      (Floating.Numeral.ofText? (trim value.toList)).map fun numeral => numeral.toFloating .double
    | bool _ => none
  number.filter Floating.isFinite

/-- The finite number a scalar stands for in single precision. A number that is not zero must not
round to zero. -/
def toSingle? (scalar : Scalar) : Option Single :=
  scalar.toDouble?.bind fun x =>
    let narrow : Single := x.convert
    if narrow.isFinite ∧ (narrow.isZero → x.isZero) then some narrow else none

/-- The truth value a scalar stands for: one itself, or its word in whatever ASCII case. -/
def toBool? : Scalar → Option Bool
  | bool value => some value
  | text value =>
    match String.ofList ((trim value.toList).map Char.toLower) with
    | "true" => some true
    | "false" => some false
    | _ => none
  | int _ | float _ => none

/-- The date a scalar stands for: the text of one. -/
def toDate? : Scalar → Option Date
  | text value => Date.ofText? (trim value.toList)
  | bool _ | int _ | float _ => none

/-- The value of an attribute of a type that a scalar stands for. -/
def coerce? (type : ValueType) (scalar : Scalar) : Option Value :=
  match type with
  | .string => some (.string scalar.display)
  | .short => scalar.toShort?.map .short
  | .integer => scalar.toInteger?.map .integer
  | .long => scalar.toInt?.map .long
  | .double => scalar.toDouble?.map .double
  | .float => scalar.toSingle?.map .float
  | .boolean => scalar.toBool?.map .boolean
  | .date => scalar.toDate?.map .date
  | .any => some (.any scalar)

/-- The same, or the scalar that is refused. -/
def coerce (type : ValueType) (scalar : Scalar) : Except Scalar Value :=
  match scalar.coerce? type with
  | some value => .ok value
  | none => .error scalar

end Scalar

end ClassModel
