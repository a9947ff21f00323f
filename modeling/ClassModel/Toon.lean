import ClassModel.Entries
import ClassModel.Floating.Layout
import ClassModel.Floating.Rounding
import ClassModel.Json.Basic
import ClassModel.Text.Blank
import ClassModel.Text.Word

/-!
# Toon

A terse line format for JSON values. Members of objects stand in the order of their keys, one to a
line, and nesting is shown by indentation. Lists of scalars stand on one line, lists of objects with
the same keys and scalar values as rows under a common head, and other lists with one item after
each dash. Strings are quoted only where they could be taken for something else.
-/

namespace ClassModel.Toon

open ClassModel.Text

/-- The members of all objects in the order of their keys. The last of equal keys counts. -/
def ordered : Json → Json
  | .list items => .list (orderedItems items)
  | .object members => .object (Entries.ofPairs (orderedMembers members))
  | value => value
where
  /-- Items with their objects in order. -/
  orderedItems : List Json → List Json
    | [] => []
    | item :: rest => ordered item :: orderedItems rest
  /-- Members with the objects in their values in order. -/
  orderedMembers : List (String × Json) → List (String × Json)
    | [] => []
    | (key, value) :: rest => (key, ordered value) :: orderedMembers rest

/-! ## Scalars -/

/-- Whether a text is an optional sign and digits of whatever script, with an optional fraction and
an optional exponent. -/
def isNumeral (cs : List Char) : Bool :=
  let afterSign := if cs.head? = some '-' then cs.drop 1 else cs
  let whole := afterSign.takeWhile isDecimal
  match afterSign.dropWhile isDecimal with
  | '.' :: rest => !whole.isEmpty && (rest.head?.any isDecimal) && isTail (rest.dropWhile isDecimal)
  | rest => !whole.isEmpty && isTail rest
where
  /-- Whether a text is empty or an exponent. -/
  isTail : List Char → Bool
    | [] => true
    | 'e' :: rest =>
      let digits := if rest.head? = some '+' ∨ rest.head? = some '-' then rest.drop 1 else rest
      !digits.isEmpty && digits.all isDecimal
    | _ => false

/-- The characters that a bare string may not hold. -/
def reserved : List Char :=
  [':', '"', '\\', '[', ']', '\x7b', '\x7d', ',', '\n', '\r', '\t']

/-- Whether a string can stand without quotes. -/
def isBare (cs : List Char) : Bool :=
  !cs.isEmpty && !cs.head?.any isBlank && !cs.getLast?.any isBlank
    && cs ∉ ["true".toList, "false".toList, "null".toList]
    && !isNumeral cs && !cs.any (· ∈ reserved) && !(['-', ' '].isPrefixOf cs)

/-- A character inside quotes. -/
def escape (c : Char) : List Char :=
  match c with
  | '\\' => ['\\', '\\']
  | '"' => ['\\', '"']
  | '\n' => ['\\', 'n']
  | '\r' => ['\\', 'r']
  | '\t' => ['\\', 't']
  | c => [c]

/-- A text in quotes. -/
def quote (cs : List Char) : List Char := '"' :: cs.flatMap escape ++ ['"']

/-- A string. -/
def text (s : String) : List Char := if isBare s.toList then s.toList else quote s.toList

/-- A key. -/
def key (s : String) : List Char :=
  match s.toList with
  | first :: rest =>
    if (first.isAlpha || first = '_') && rest.all (fun c => isWord c || c = '.') then first :: rest
    else quote (first :: rest)
  | [] => quote []

/-- A number, always in double precision. Minus zero is zero, and what is not finite is null. -/
def number (x : Double) : List Char :=
  if !x.isFinite then "null".toList
  else if x.isZero then ['0']
  else Floating.Layout.plain.text x

/-- A scalar; nothing for lists and objects. -/
def scalar? : Json → Option (List Char)
  | .null => some "null".toList
  | .bool true => some "true".toList
  | .bool false => some "false".toList
  | .int n => some (number (.ofInt n))
  | .double x => some (number x)
  | .single x => some (number x.convert)
  | .text s => some (text s)
  | .list _ | .object _ => none

/-! ## Lines -/

/-- A line and the depth it is indented to. -/
structure Line where
  depth : Nat
  text : List Char
deriving DecidableEq, Repr

/-- Texts with commas between. -/
def commas (texts : List (List Char)) : List Char := [','].intercalate texts

/-- The scalars of a list of scalars. -/
def scalars? (items : List Json) : Option (List (List Char)) := items.mapM scalar?

/-- The keys and the scalar values of an object that has no other values. -/
def row? : Json → Option (List String × List (List Char))
  | .object members => do
    let values ← scalars? (members.map (·.2))
    return (members.map (·.1), values)
  | _ => none

/-- The common keys and the rows of a list of objects that share keys and have scalar values. -/
def rows? (items : List Json) : Option (List String × List (List (List Char))) := do
  let rows ← items.mapM row?
  let (keys, _) ← rows.head?
  if keys ≠ [] ∧ rows.all (fun row => row.1 = keys) then some (keys, rows.map (·.2)) else none

/-- The head of a list: its length in brackets. -/
def head (label : List Char) (count : Nat) : List Char := label ++ '[' :: natText count ++ [']']

/-- Puts a dash before the first line, which stands one level less deep. -/
def dashed (depth : Nat) : List Line → List Line
  | [] => [⟨depth, ['-']⟩]
  | first :: rest => ⟨depth, '-' :: ' ' :: first.text⟩ :: rest

mutual

/-- A value under a label. -/
def labelled (depth : Nat) (label : List Char) : Json → List Line
  | .object members => ⟨depth, label ++ [':']⟩ :: memberLines (depth + 1) members
  | .list items =>
    match scalars? items, rows? items with
    | some [], _ => [⟨depth, head label 0 ++ [':']⟩]
    | some texts, _ => [⟨depth, head label items.length ++ ':' :: ' ' :: commas texts⟩]
    | none, some (keys, rows) =>
      ⟨depth, head label items.length ++ '\x7b' :: commas (keys.map key) ++ ['\x7d', ':']⟩ ::
        rows.map fun row => ⟨depth + 1, commas row⟩
    | none, none => ⟨depth, head label items.length ++ [':']⟩ :: itemLines (depth + 1) items
  | value => [⟨depth, label ++ ':' :: ' ' :: (scalar? value).getD []⟩]

/-- The members of an object. -/
def memberLines (depth : Nat) : List (String × Json) → List Line
  | [] => []
  | (name, value) :: rest => labelled depth (key name) value ++ memberLines depth rest

/-- The items of a list, each after a dash. -/
def itemLines (depth : Nat) : List Json → List Line
  | [] => []
  | .object members :: rest =>
    dashed depth (memberLines (depth + 1) members) ++ itemLines depth rest
  | .list items :: rest =>
    dashed depth (labelled (depth + 1) [] (.list items)) ++ itemLines depth rest
  | item :: rest => ⟨depth, '-' :: ' ' :: (scalar? item).getD []⟩ :: itemLines depth rest

end

/-- The lines of a value. -/
def lines (value : Json) : List Line :=
  match ordered value with
  | .object members => memberLines 0 members
  | .list items => labelled 0 [] (.list items)
  | value => [⟨0, (scalar? value).getD []⟩]

/-- A line with its indentation, two spaces for each level. -/
def Line.indented (line : Line) : List Char := List.replicate (2 * line.depth) ' ' ++ line.text

/-- The text of a value. -/
def encode (value : Json) : String :=
  String.ofList (['\n'].intercalate ((lines value).map Line.indented))

end ClassModel.Toon
