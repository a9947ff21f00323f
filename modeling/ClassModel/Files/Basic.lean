import ClassModel.Text.Digits

/-!
# Files

What the program asks of files: whether a path leads to something, and the text it leads to. The
access is given in a monad, so the same program runs on a machine and on a directory tree held in
memory.
-/

namespace ClassModel

/-- Why there is no text at a path. -/
inductive ReadFailure where
  | notFound
  | notDirectory
  | isDirectory
  | notUtf8
  /-- Another failure, in the words of the system. -/
  | other (text : String)
deriving DecidableEq, Repr

/-- The wording of a failure to read. -/
def ReadFailure.message : ReadFailure → String
  | notFound => "No such file or directory (os error 2)"
  | notDirectory => "Not a directory (os error 20)"
  | isDirectory => "Is a directory (os error 21)"
  | notUtf8 => "stream did not contain valid UTF-8"
  | other text => text

/-- Access to files. -/
structure FileAccess (m : Type → Type) where
  /-- Whether a path leads to a file or a directory. -/
  found : String → m Bool
  /-- The text of the file at a path. -/
  read : String → m (Except ReadFailure String)

namespace Path

/-- Whether a path starts at the root. -/
def isAbsolute (path : String) : Bool := path.toList.head? = some '/'

/-- The parts of a path between slashes. -/
def segments (path : String) : List (List Char) := path.toList.splitOn '/'

/-- Whether a segment leads nowhere. -/
def isStay (segment : List Char) : Bool := segment = [] || segment = ['.']

/-- The directory of a file: the path without its last segment and the segments before it that lead
nowhere. Empty for a bare file name. -/
def parent (path : String) : String :=
  match (segments path).dropLast with
  | [] => ""
  | first :: rest =>
    match (rest.reverse.dropWhile isStay).reverse with
    | [] => if first = [] then "/" else String.ofList first
    | rest => String.ofList (['/'].intercalate (first :: rest))

/-- A path taken from a directory. -/
def join (directory path : String) : String :=
  if isAbsolute path || directory = "" then path
  else if directory.toList.getLast? = some '/' then directory ++ path
  else directory ++ "/" ++ path

end Path

end ClassModel
