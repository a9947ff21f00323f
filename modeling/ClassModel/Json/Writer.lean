import ClassModel.Floating.Layout
import ClassModel.Json.Basic

/-!
# Writing JSON

Two forms: compact, with no space at all, and pretty, with one member or item to a line and two
spaces of indentation.
-/

namespace ClassModel.Json

open ClassModel.Text

/-- Numbers are positional with a fraction for a range of exponents, of two nearest decimals the
even one is taken, and what is not finite is null. -/
def numberLayout (least greatest : Int) : Floating.Layout where
  tie := .even
  positional := some (least, greatest)
  wholeEnd := ['.', '0']
  nan := "null".toList
  infinity := fun _ => "null".toList

/-- Numbers of double precision are positional for exponents from -5 to 15. -/
def doubleText (x : Double) : List Char := (numberLayout (-5) 15).text x

/-- Numbers of single precision are positional for exponents from -6 to 12. -/
def singleText (x : Single) : List Char := (numberLayout (-6) 12).text x

/-- A hexadecimal digit, in lower case. -/
def hexDigit (n : Nat) : Char := Nat.digitChar (n % 16)

/-- A character inside a written string: quote, backslash and controls are escaped. -/
def escape (c : Char) : List Char :=
  match c with
  | '"' => ['\\', '"']
  | '\\' => ['\\', '\\']
  | '\x08' => ['\\', 'b']
  | '\x0c' => ['\\', 'f']
  | '\n' => ['\\', 'n']
  | '\r' => ['\\', 'r']
  | '\t' => ['\\', 't']
  | c =>
    if c.toNat < 0x20 then ['\\', 'u', '0', '0', hexDigit (c.toNat / 16), hexDigit c.toNat]
    else [c]

/-- A string in quotes. -/
def quote (s : String) : List Char := '"' :: s.toList.flatMap escape ++ ['"']

/-! ## Compact form -/

mutual

/-- A value with no space in it. -/
def compact : Json → List Char
  | .null => "null".toList
  | .bool true => "true".toList
  | .bool false => "false".toList
  | .int n => intText n
  | .double x => doubleText x
  | .single x => singleText x
  | .text s => quote s
  | .list items => '[' :: compactItems items ++ [']']
  | .object members => '{' :: compactMembers members ++ ['}']

/-- Items with commas between. -/
def compactItems : List Json → List Char
  | [] => []
  | [item] => compact item
  | item :: rest => compact item ++ ',' :: compactItems rest

/-- Members with commas between. -/
def compactMembers : List (String × Json) → List Char
  | [] => []
  | [(name, value)] => quote name ++ ':' :: compact value
  | (name, value) :: rest => quote name ++ ':' :: compact value ++ ',' :: compactMembers rest

end

/-! ## Pretty form -/

/-- A new line indented to a depth. -/
def newLine (depth : Nat) : List Char := '\n' :: List.replicate (2 * depth) ' '

mutual

/-- A value over several lines, its own lines indented to a depth. -/
def pretty (depth : Nat) : Json → List Char
  | .list (item :: rest) =>
    '[' :: prettyItems (depth + 1) (item :: rest) ++ newLine depth ++ [']']
  | .object (member :: rest) =>
    '{' :: prettyMembers (depth + 1) (member :: rest) ++ newLine depth ++ ['}']
  | value => compact value

/-- Items on lines of their own. -/
def prettyItems (depth : Nat) : List Json → List Char
  | [] => []
  | [item] => newLine depth ++ pretty depth item
  | item :: rest => newLine depth ++ pretty depth item ++ ',' :: prettyItems depth rest

/-- Members on lines of their own. -/
def prettyMembers (depth : Nat) : List (String × Json) → List Char
  | [] => []
  | [(name, value)] => newLine depth ++ quote name ++ ':' :: ' ' :: pretty depth value
  | (name, value) :: rest =>
    newLine depth ++ quote name ++ ':' :: ' ' :: pretty depth value ++ ',' ::
      prettyMembers depth rest

end

/-- The compact text of a value. -/
def compactText (value : Json) : String := String.ofList (compact value)

/-- The pretty text of a value. -/
def prettyText (value : Json) : String := String.ofList (pretty 0 value)

end ClassModel.Json
