import ClassModel.Floating.Numeral

/-!
# Tokens of a JSON text

The scanner goes through a text once, one character at a time, and stops at the first character
that cannot stand where it does. What it had to leave is in the tokens: a string or a number that
the text ends in the middle of, a word that does not go on as it should.

Strings keep the halves of surrogate pairs as they are escaped, since a string that nobody looks at
may hold a half without its partner.
-/

namespace ClassModel.Json

open ClassModel.Text

/-- Why a text is no JSON text of the wanted shape. -/
inductive Fault where
  /-- The text ends too early. -/
  | unfinished
  /-- Some character cannot stand where it does. -/
  | malformed
  /-- A value is not of the wanted shape. -/
  | misshapen
deriving DecidableEq, Repr

/-- What one character or escape in a string stands for. -/
inductive Piece where
  | char (c : Char)
  /-- Half of a surrogate pair. -/
  | half (unit : Nat)
deriving DecidableEq, Repr

/-- A string as it is written, up to where it ends or cannot go on. -/
structure Quoted where
  pieces : List Piece
  cut : Option Fault
deriving DecidableEq, Repr

/-- A number as it is written. -/
structure Literal where
  numeral : Floating.Numeral
  /-- Whether it has neither a point nor an exponent. -/
  whole : Bool
deriving DecidableEq, Repr

/-- The parts a JSON text is made of. -/
inductive Token where
  | openList
  | closeList
  | openObject
  | closeObject
  | comma
  | colon
  | null
  | bool (value : Bool)
  | number (literal : Literal)
  /-- A number the text ends in the middle of. -/
  | cutNumber
  | text (quoted : Quoted)
  /-- The place where reading cannot go on. -/
  | broken (fault : Fault)
deriving DecidableEq, Repr

/-! ## Numbers -/

/-- How far a number has been read. -/
inductive NumberStage where
  | minus
  | zero
  | whole
  | point
  | fraction
  | mark
  | markSign
  | exponent
deriving DecidableEq, Repr

/-- The part of a number read so far. -/
structure NumberScan where
  stage : NumberStage
  negative : Bool
  coefficient : Nat := 0
  places : Nat := 0
  exponentNegative : Bool := false
  exponent : Nat := 0
deriving DecidableEq, Repr

namespace NumberScan

/-- The value of a decimal digit. -/
def digit (c : Char) : Nat := c.toNat - '0'.toNat

/-- The number read, if it may end here. -/
def finish? (n : NumberScan) : Option Literal :=
  let numeral : Floating.Numeral :=
    ⟨n.negative, n.coefficient, signedInt n.exponentNegative n.exponent - n.places⟩
  match n.stage with
  | .zero | .whole => some ⟨numeral, true⟩
  | .fraction | .exponent => some ⟨numeral, false⟩
  | .minus | .point | .mark | .markSign => none

/-- The number with one more character, if that belongs to it. -/
def next? (n : NumberScan) (c : Char) : Option NumberScan :=
  let more : Nat := 10 * n.coefficient + digit c
  match n.stage with
  | .minus =>
    if c = '0' then some { n with stage := .zero }
    else if c.isDigit then some { n with stage := .whole, coefficient := digit c }
    else none
  | .zero =>
    if c = '.' then some { n with stage := .point }
    else if c = 'e' ∨ c = 'E' then some { n with stage := .mark }
    else none
  | .whole =>
    if c.isDigit then some { n with coefficient := more }
    else if c = '.' then some { n with stage := .point }
    else if c = 'e' ∨ c = 'E' then some { n with stage := .mark }
    else none
  | .point =>
    if c.isDigit then some { n with stage := .fraction, coefficient := more, places := 1 } else none
  | .fraction =>
    if c.isDigit then some { n with coefficient := more, places := n.places + 1 }
    else if c = 'e' ∨ c = 'E' then some { n with stage := .mark }
    else none
  | .mark =>
    if c = '+' ∨ c = '-' then some { n with stage := .markSign, exponentNegative := c = '-' }
    else if c.isDigit then some { n with stage := .exponent, exponent := digit c }
    else none
  | .markSign =>
    if c.isDigit then some { n with stage := .exponent, exponent := digit c } else none
  | .exponent =>
    if c.isDigit then some { n with exponent := 10 * n.exponent + digit c } else none

end NumberScan

/-! ## Strings -/

/-- The value of a hexadecimal digit. -/
def hexValue? (c : Char) : Option Nat :=
  if c.isDigit then some (c.toNat - '0'.toNat)
  else if 'a' ≤ c ∧ c ≤ 'f' then some (c.toNat - 'a'.toNat + 10)
  else if 'A' ≤ c ∧ c ≤ 'F' then some (c.toNat - 'A'.toNat + 10)
  else none

/-- What an escaped 16-bit unit stands for. -/
def Piece.ofUnit (unit : Nat) : Piece :=
  if 0xD800 ≤ unit ∧ unit ≤ 0xDFFF then .half unit else .char (Char.ofNat unit)

/-- The character that a backslash and a letter stand for. -/
def escaped? (c : Char) : Option Char :=
  match c with
  | '"' => some '"'
  | '\\' => some '\\'
  | '/' => some '/'
  | 'b' => some '\x08'
  | 'f' => some '\x0c'
  | 'n' => some '\n'
  | 'r' => some '\r'
  | 't' => some '\t'
  | _ => none

/-! ## The scanner -/

/-- Where the scanner stands. Pieces read so far are held last first. -/
inductive Scan where
  | between
  /-- Inside a word: the characters that must follow, and the token it makes. -/
  | word (next : Char) (rest : List Char) (token : Token)
  | number (scan : NumberScan)
  | text (pieces : List Piece)
  /-- After a backslash. -/
  | escape (pieces : List Piece)
  /-- After a backslash and the letter u: the unit so far, or nothing once a character was no
  hexadecimal digit, and the number of bytes it is written in. Four bytes are always taken. -/
  | unit (pieces : List Piece) (value : Option Nat) (bytes : Nat)
deriving DecidableEq, Repr

/-- The tokens a character completes, and where the scanner then stands; nowhere after a fault. -/
abbrev Step := List Token × Option Scan

/-- Whether a character may stand between tokens. -/
def isSpace (c : Char) : Bool := c = ' ' || c = '\t' || c = '\n' || c = '\r'

/-- The step at a character that begins a token. -/
def begin (c : Char) : Step :=
  if isSpace c then ([], some .between)
  else if c.isDigit then
    let stage := if c = '0' then .zero else .whole
    ([], some (.number { stage, negative := false, coefficient := NumberScan.digit c }))
  else
    match c with
    | '[' => ([.openList], some .between)
    | ']' => ([.closeList], some .between)
    | '{' => ([.openObject], some .between)
    | '}' => ([.closeObject], some .between)
    | ',' => ([.comma], some .between)
    | ':' => ([.colon], some .between)
    | '"' => ([], some (.text []))
    | '-' => ([], some (.number { stage := .minus, negative := true }))
    | 'n' => ([], some (.word 'u' ['l', 'l'] .null))
    | 't' => ([], some (.word 'r' ['u', 'e'] (.bool true)))
    | 'f' => ([], some (.word 'a' ['l', 's', 'e'] (.bool false)))
    | _ => ([.broken .malformed], none)

/-- A string that cannot go on. -/
def cutText (pieces : List Piece) (fault : Fault) : Token := .text ⟨pieces.reverse, some fault⟩

namespace Scan

/-- The step at the next character. -/
def step (scan : Scan) (c : Char) : Step :=
  match scan with
  | .between => begin c
  | .word next rest token =>
    if c ≠ next then ([.broken .malformed], none)
    else match rest with
      | [] => ([token], some .between)
      | next :: rest => ([], some (.word next rest token))
  | .number n =>
    match n.next? c, n.finish? with
    | some n, _ => ([], some (.number n))
    | none, none => ([.broken .malformed], none)
    | none, some literal =>
      if n.stage = .zero ∧ c.isDigit then ([.broken .malformed], none)
      else
        let (tokens, scan) := begin c
        (.number literal :: tokens, scan)
  | .text pieces =>
    if c = '"' then ([.text ⟨pieces.reverse, none⟩], some .between)
    else if c = '\\' then ([], some (.escape pieces))
    else if c.toNat < 0x20 then ([cutText pieces .malformed], none)
    else ([], some (.text (.char c :: pieces)))
  | .escape pieces =>
    if c = 'u' then ([], some (.unit pieces (some 0) 0))
    else match escaped? c with
      | some c => ([], some (.text (.char c :: pieces)))
      | none => ([cutText pieces .malformed], none)
  | .unit pieces value bytes =>
    let value := do return 16 * (← value) + (← hexValue? c)
    let bytes := bytes + c.utf8Size
    if bytes < 4 then ([], some (.unit pieces value bytes))
    else match value with
      | some value => ([], some (.text (.ofUnit value :: pieces)))
      | none => ([cutText pieces .malformed], none)

/-- The tokens at the end of the text. -/
def atEnd : Scan → List Token
  | .between => []
  | .word _ _ _ => [.broken .unfinished]
  | .number n =>
    match n.finish? with
    | some literal => [.number literal]
    | none => [.cutNumber]
  | .text pieces => [cutText pieces .unfinished]
  | .escape pieces => [cutText pieces .unfinished]
  | .unit pieces _ _ => [cutText pieces .unfinished]

/-- The tokens of a text, from where the scanner stands. -/
def run (scan : Scan) : List Char → List Token
  | [] => scan.atEnd
  | c :: rest =>
    match scan.step c with
    | (tokens, some next) => tokens ++ next.run rest
    | (tokens, none) => tokens

end Scan

/-- The tokens of a text, up to where reading cannot go on. -/
def tokens (cs : List Char) : List Token := Scan.between.run cs

end ClassModel.Json
