import ClassModel.Entries
import ClassModel.Json.Basic
import ClassModel.Json.Tree

/-!
# Reading JSON

A reader takes a tree to a value and meets its faults from left to right. What it reads is held to
more than what it skips: numbers must be within the double-precision range, halves of surrogate
pairs must come in pairs, and containers may nest 127 deep. The parameter `room` counts the levels
that are left.

A record is an object with known keys, each at most once, whose other members are skipped. It may
also be written as a list of the values of its keys in order, from which the last ones may be
missing.
-/

namespace ClassModel.Json

/-- The result of reading. -/
abbrev Read (α : Type) := Except Fault α

/-! ## Scalars -/

/-- A number: an integer if it is written as one and fits 64 bits. Minus zero, having no integer,
is a double, and so is every number with a point or an exponent. -/
def Literal.read (literal : Literal) : Read Json :=
  let numeral := literal.numeral
  let integer := Text.signedInt numeral.negative numeral.coefficient
  if literal.whole ∧ Int64.minValue.toInt ≤ integer ∧ integer ≤ Int64.maxValue.toInt
      ∧ ¬(numeral.negative ∧ numeral.coefficient = 0) then
    .ok (.int integer)
  else
    let value := numeral.toFloating .double
    if value.isFinite then .ok (.double value) else .error .malformed

/-- The characters that pieces stand for, halves of surrogate pairs put together. -/
def Quoted.chars? : List Piece → Option (List Char)
  | [] => some []
  | .char c :: rest => (c :: ·) <$> chars? rest
  | .half high :: .half low :: rest =>
    if high < 0xDC00 ∧ 0xDC00 ≤ low then
      (Char.ofNat (0x10000 + 0x400 * (high - 0xD800) + (low - 0xDC00)) :: ·) <$> chars? rest
    else none
  | .half _ :: _ => none

/-- A string. In one that is cut a last half may still have been going to be paired. -/
def Quoted.read (quoted : Quoted) : Read String :=
  match quoted.cut with
  | none =>
    match chars? quoted.pieces with
    | some chars => .ok (String.ofList chars)
    | none => .error .malformed
  | some fault =>
    let pieces :=
      match quoted.pieces.getLast? with
      | some (.half unit) => if unit < 0xDC00 then quoted.pieces.dropLast else quoted.pieces
      | _ => quoted.pieces
    .error (if (chars? pieces).isSome then fault else .malformed)

/-- Goes on past the end of a container, unless a fault stands there. -/
def passEnd : Option Fault → Read Unit
  | none => .ok ()
  | some fault => .error fault

/-- The levels left inside a container. -/
def enter : Nat → Read Nat
  | 0 | 1 => .error .malformed
  | room + 2 => .ok (room + 1)

/-! ## Whole values -/

mutual

/-- Reads a value of any shape. -/
def Tree.read (room : Nat) : Tree → Read Json
  | .null => .ok .null
  | .bool value => .ok (.bool value)
  | .number literal => literal.read
  | .cutNumber => .error .unfinished
  | .text quoted => .text <$> quoted.read
  | .list items cut => do
    let room ← enter room
    let items ← readItems room items
    passEnd cut
    return .list items
  | .object members cut => do
    let room ← enter room
    let members ← readMembers room members
    passEnd cut
    return .object members
  | .broken fault => .error fault

/-- Reads items of any shape. -/
def Tree.readItems (room : Nat) : List Tree → Read (List Json)
  | [] => .ok []
  | item :: rest => do
    let item ← item.read room
    return item :: (← readItems room rest)

/-- Reads members with values of any shape. -/
def Tree.readMembers (room : Nat) : List (Quoted × Tree) → Read (List (String × Json))
  | [] => .ok []
  | (key, value) :: rest => do
    let key ← key.read
    let value ← value.read room
    return (key, value) :: (← readMembers room rest)

end

mutual

/-- Goes past a value that nobody wants. -/
def Tree.skip : Tree → Read Unit
  | .null | .bool _ | .number _ => .ok ()
  | .cutNumber => .error .malformed
  | .text quoted => passEnd quoted.cut
  | .list items cut => do
    skipItems items
    passEnd cut
  | .object members cut => do
    skipMembers members
    passEnd cut
  | .broken fault => .error fault

/-- Goes past items. -/
def Tree.skipItems : List Tree → Read Unit
  | [] => .ok ()
  | item :: rest => do
    item.skip
    skipItems rest

/-- Goes past members. -/
def Tree.skipMembers : List (Quoted × Tree) → Read Unit
  | [] => .ok ()
  | (key, value) :: rest => do
    passEnd key.cut
    value.skip
    skipMembers rest

end

/-! ## Values of a known shape -/

/-- Why a value of another shape is refused: a scalar is read before it is found to be wrong. -/
def Tree.refusal : Tree → Fault
  | .number literal =>
    match literal.read with
    | .ok _ => .misshapen
    | .error fault => fault
  | .cutNumber => .unfinished
  | .text quoted =>
    match quoted.read with
    | .ok _ => .misshapen
    | .error fault => fault
  | .broken fault => fault
  | .null | .bool _ | .list _ _ | .object _ _ => .misshapen

/-- Reads a string. -/
def Tree.readText : Tree → Read String
  | .text quoted => quoted.read
  | tree => .error tree.refusal

/-- Reads a string or null. -/
def Tree.readText? : Tree → Read (Option String)
  | .null => .ok none
  | tree => some <$> tree.readText

/-- Reads a list whose items have a shape. -/
def Tree.readList {α : Type} (item : Nat → Tree → Read α) (room : Nat) : Tree → Read (List α)
  | .list items cut => do
    let room ← enter room
    let items ← items.mapM (item room)
    passEnd cut
    return items
  | tree => .error tree.refusal

/-- Reads a list of strings. -/
def Tree.readTexts (room : Nat) (tree : Tree) : Read (List String) :=
  tree.readList (fun _ => Tree.readText) room

/-! ## Records -/

/-- A key of a record and the reader of its value. -/
abbrev Column (α : Type) := String × (Nat → Tree → Read α)

/-- Reads the members of a record, given the keys already met. -/
def readColumns {α : Type} (columns : List (Column α)) (room : Nat) :
    Entries α → List (Quoted × Tree) → Read (Entries α)
  | found, [] => .ok found
  | found, (key, value) :: rest => do
    let key ← key.read
    match Entries.get? key columns with
    | none =>
      value.skip
      readColumns columns room found rest
    | some read =>
      if (Entries.get? key found).isSome then .error .misshapen
      else
        let value ← read room value
        readColumns columns room (found.put key value) rest

/-- Reads the items of a record that is written as a list. -/
def readRow {α : Type} (room : Nat) : List (Column α) → List Tree → Read (Entries α)
  | [], [] => .ok []
  | [], _ :: _ => .error .malformed
  | _ :: _, [] => .ok []
  | (key, read) :: columns, item :: rest => do
    let value ← read room item
    return (← readRow room columns rest).put key value

/-- Reads a record: the values found, by key. -/
def Tree.readRecord {α : Type} (columns : List (Column α)) (room : Nat) : Tree → Read (Entries α)
  | .list items cut => do
    let room ← enter room
    let found ← readRow room columns items
    passEnd cut
    return found
  | .object members cut => do
    let room ← enter room
    let found ← readColumns columns room [] members
    passEnd cut
    return found
  | tree => .error tree.refusal

/-! ## Whole texts -/

/-- The nesting that a text may have, and one level for the text itself. -/
def levels : Nat := 128

/-- Reads a whole text with a reader of its value. -/
def readWhole {α : Type} (read : Nat → Tree → Read α) (text : String) : Read α := do
  let (tree, more) := treeOf text.toList
  let value ← read levels tree
  if more then .error .malformed else return value

/-- Reads a text as a value of any shape. -/
def ofText (text : String) : Read Json := readWhole Tree.read text

end ClassModel.Json
