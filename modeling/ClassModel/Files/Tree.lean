import ClassModel.Files.Basic

/-!
# Directory trees

A working directory held in memory. What lies above it is not known: the directories there exist,
and nothing in them is found.
-/

namespace ClassModel

/-- A working directory: the directories below it and the files, by their segments. A file that is
no UTF-8 has no text. -/
structure FileTree where
  directories : List (List (List Char))
  files : List (List (List Char) × Option String)
deriving Repr

namespace FileTree

/-- An empty working directory. -/
def empty : FileTree := ⟨[], []⟩

/-- Makes the directories that lead to some segments. -/
def makeDirectories (tree : FileTree) (segments : List (List Char)) : FileTree :=
  { tree with
    directories := tree.directories ++ (List.range (segments.length + 1)).map segments.take }

/-- Makes a directory and those that lead to it. -/
def addDirectory (tree : FileTree) (path : String) : FileTree :=
  tree.makeDirectories ((Path.segments path).filter (!Path.isStay ·))

/-- Makes a file and the directories that lead to it. -/
def addFile (tree : FileTree) (path : String) (text : Option String) : FileTree :=
  let segments := (Path.segments path).filter (!Path.isStay ·)
  let tree := tree.makeDirectories segments.dropLast
  { tree with files := tree.files ++ [(segments, text)] }

/-- What a path leads to. -/
inductive Node where
  /-- A directory above the working directory. -/
  | above
  | directory (segments : List (List Char))
  | file (text : Option String)
  | failure (failure : ReadFailure)
deriving DecidableEq, Repr

/-- What one more segment leads to. -/
def enter (tree : FileTree) (node : Node) (segment : List Char) : Node :=
  match node with
  | .failure failure => .failure failure
  | .file _ => .failure .notDirectory
  | .above =>
    if Path.isStay segment || segment = ['.', '.'] then .above else .failure .notFound
  | .directory here =>
    if Path.isStay segment then .directory here
    else if segment = ['.', '.'] then
      if here = [] then .above else .directory here.dropLast
    else
      let there := here ++ [segment]
      match tree.files.lookup there with
      | some text => .file text
      | none =>
        if there ∈ tree.directories then .directory there else .failure .notFound

/-- What a path leads to. -/
def node (tree : FileTree) (path : String) : Node :=
  if path = "" then .failure .notFound
  else
    let start := if Path.isAbsolute path then .above else .directory []
    (Path.segments path).foldl tree.enter start

/-- The text at a path. -/
def read (tree : FileTree) (path : String) : Except ReadFailure String :=
  match tree.node path with
  | .above | .directory _ => .error .isDirectory
  | .file (some text) => .ok text
  | .file none => .error .notUtf8
  | .failure failure => .error failure

/-- Whether a path leads to anything. -/
def found (tree : FileTree) (path : String) : Bool :=
  match tree.node path with
  | .failure _ => false
  | _ => true

/-- Access to the files of the tree. -/
def access (tree : FileTree) : FileAccess Id := ⟨tree.found, tree.read⟩

end FileTree

end ClassModel
