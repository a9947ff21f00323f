import ClassModel.Json.Token

/-!
# Trees of a JSON text

The tree of a text is what can be made of its tokens, faults included. A reader that wants values of
certain shapes goes through the tree from left to right, and the first thing it cannot take, be it a
fault of the text or a wrong shape, is what the text fails for.
-/

namespace ClassModel.Json

/-- A JSON text up to the place where reading cannot go on. -/
inductive Tree where
  | null
  | bool (value : Bool)
  | number (literal : Literal)
  /-- A number the text ends in the middle of. -/
  | cutNumber
  | text (quoted : Quoted)
  /-- A list, with the fault that stands in place of its end. -/
  | list (items : List Tree) (cut : Option Fault)
  /-- An object, with the fault that stands in place of its end. -/
  | object (members : List (Quoted × Tree)) (cut : Option Fault)
  /-- The place where a value should stand. -/
  | broken (fault : Fault)
deriving Repr

/-- A container that waits for a value. What it holds so far comes last first. -/
inductive Frame where
  | item (before : List Tree)
  | member (before : List (Quoted × Tree)) (key : Quoted)
deriving Repr

/-- What may come next, with the containers that are open around it, innermost first. -/
inductive Assembly where
  | atValue (frames : List Frame)
  | atFirstItem (frames : List Frame)
  | afterItem (before : List Tree) (frames : List Frame)
  | atFirstKey (frames : List Frame)
  | atKey (before : List (Quoted × Tree)) (frames : List Frame)
  | atColon (before : List (Quoted × Tree)) (key : Quoted) (frames : List Frame)
  | afterMember (before : List (Quoted × Tree)) (frames : List Frame)
  | done (tree : Tree)
deriving Repr

namespace Assembly

/-- Hands a complete value to the container that waits for it. -/
def deliver (tree : Tree) : List Frame → Assembly
  | [] => .done tree
  | .item before :: frames => .afterItem (tree :: before) frames
  | .member before key :: frames => .afterMember ((key, tree) :: before) frames

/-- The whole tree when reading stops inside a value. -/
def abandon (fault : Fault) (tree : Tree) : List Frame → Tree
  | [] => tree
  | .item before :: frames => abandon fault (.list (tree :: before).reverse (some fault)) frames
  | .member before key :: frames =>
    abandon fault (.object ((key, tree) :: before).reverse (some fault)) frames

/-- Where a token leads to: on, or to the tree of a text that stops there. -/
abbrev Outcome := Assembly ⊕ Tree

/-- A token where a value should stand. -/
def onValue (frames : List Frame) (token : Token) : Outcome :=
  match token with
  | .openList => .inl (.atFirstItem frames)
  | .openObject => .inl (.atFirstKey frames)
  | .null => .inl (deliver .null frames)
  | .bool value => .inl (deliver (.bool value) frames)
  | .number literal => .inl (deliver (.number literal) frames)
  | .cutNumber => .inr (abandon .unfinished .cutNumber frames)
  | .text quoted =>
    match quoted.cut with
    | none => .inl (deliver (.text quoted) frames)
    | some fault => .inr (abandon fault (.text quoted) frames)
  | .broken fault => .inr (abandon fault (.broken fault) frames)
  | .closeList | .closeObject | .comma | .colon =>
    .inr (abandon .malformed (.broken .malformed) frames)

/-- A list that cannot go on. -/
def cutList (fault : Fault) (before : List Tree) (frames : List Frame) : Tree :=
  abandon fault (.list before.reverse (some fault)) frames

/-- An object that cannot go on. -/
def cutObject (fault : Fault) (before : List (Quoted × Tree)) (frames : List Frame) : Tree :=
  abandon fault (.object before.reverse (some fault)) frames

/-- A token where a key should stand. -/
def onKey (before : List (Quoted × Tree)) (frames : List Frame) (token : Token) : Outcome :=
  match token with
  | .text quoted =>
    match quoted.cut with
    | none => .inl (.atColon before quoted frames)
    | some fault => .inr (cutObject fault ((quoted, .broken fault) :: before) frames)
  | _ => .inr (cutObject .malformed before frames)

/-- The next token. -/
def step (assembly : Assembly) (token : Token) : Outcome :=
  match assembly with
  | .atValue frames => onValue frames token
  | .atFirstItem frames =>
    if token = .closeList then .inl (deliver (.list [] none) frames)
    else onValue (.item [] :: frames) token
  | .afterItem before frames =>
    match token with
    | .comma => .inl (.atValue (.item before :: frames))
    | .closeList => .inl (deliver (.list before.reverse none) frames)
    | _ => .inr (cutList .malformed before frames)
  | .atFirstKey frames =>
    if token = .closeObject then .inl (deliver (.object [] none) frames)
    else onKey [] frames token
  | .atKey before frames => onKey before frames token
  | .atColon before key frames =>
    if token = .colon then .inl (.atValue (.member before key :: frames))
    else .inr (cutObject .malformed ((key, .broken .malformed) :: before) frames)
  | .afterMember before frames =>
    match token with
    | .comma => .inl (.atKey before frames)
    | .closeObject => .inl (deliver (.object before.reverse none) frames)
    | _ => .inr (cutObject .malformed before frames)
  | .done tree => .inr tree

/-- The tree when the text ends here. -/
def atEnd : Assembly → Tree
  | .atValue frames => abandon .unfinished (.broken .unfinished) frames
  | .atFirstItem frames => cutList .unfinished [] frames
  | .afterItem before frames => cutList .unfinished before frames
  | .atFirstKey frames => cutObject .unfinished [] frames
  | .atKey before frames => cutObject .unfinished before frames
  | .atColon before key frames =>
    cutObject .unfinished ((key, .broken .unfinished) :: before) frames
  | .afterMember before frames => cutObject .unfinished before frames
  | .done tree => tree

/-- The tree that the tokens make, and whether some of them come after it. -/
def run (assembly : Assembly) : List Token → Tree × Bool
  | [] => (assembly.atEnd, false)
  | token :: rest =>
    match assembly with
    | .done tree => (tree, true)
    | assembly =>
      match assembly.step token with
      | .inl next => next.run rest
      | .inr tree => (tree, false)

end Assembly

/-- The tree of a text, and whether anything but space comes after it. -/
def treeOf (cs : List Char) : Tree × Bool := (Assembly.atValue []).run (tokens cs)

end ClassModel.Json
