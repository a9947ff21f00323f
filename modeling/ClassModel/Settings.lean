import ClassModel.Command
import ClassModel.Json.Writer

/-!
# Settings

The settings file lists the schema files to load when none are given. Files are named relative to
the directory of the settings file.
-/

namespace ClassModel

/-- The settings. -/
structure Settings where
  /-- The schema files, one pass each. -/
  files : List String
deriving DecidableEq, Repr

/-- Why there are no settings. -/
inductive SettingsError where
  | notFound (path : String)
  | unreadable (path : String) (failure : ReadFailure)
  | malformed (path : String) (fault : Json.Fault)
  | noFiles (path : String)
deriving DecidableEq, Repr

namespace Settings

/-- Where settings are looked for. -/
def fileName : String := ".schema_model.json"

/-- An example of settings. -/
def exampleText : String :=
  "\x7b\n  \"schema\": \x7b\n    \"files\": [\"base.json\", \"additions.json\"]\n  \x7d\n\x7d\n"

/-- The settings as JSON. -/
def json (settings : Settings) : Json :=
  .object [("schema", .object [("files", .texts settings.files)])]

/-- Reads the list of schema files, which may be missing. -/
def readFiles (room : Nat) (tree : Json.Tree) : Json.Read (List String) := do
  let found ← tree.readRecord [("files", fun room tree => tree.readTexts room)] room
  return (found.get? "files").getD []

/-- Reads settings. -/
def read (room : Nat) (tree : Json.Tree) : Json.Read Settings := do
  let found ← tree.readRecord [("schema", readFiles)] room
  match found.get? "schema" with
  | some files => return ⟨files⟩
  | none => .error .misshapen

end Settings

namespace SettingsError

/-- The wording of a failure to get settings, without what is wrong with a JSON text. -/
def headline : SettingsError → String
  | notFound path =>
    s!"Configuration file not found: {path}\n\nPass --schema <FILE> or create a " ++
      Settings.fileName ++ " file in the current directory.\n\nExample:\n" ++ Settings.exampleText
  | unreadable path failure => s!"Failed to read {path}: {failure.message}"
  | malformed path _ => s!"Invalid JSON in {path}"
  | noFiles path => s!"No schema files listed in {path}"

/-- The wording of a failure to get settings. -/
def message (error : SettingsError) : String :=
  match error with
  | malformed _ fault => s!"{error.headline}: {fault.message}"
  | error => error.headline

end SettingsError

namespace Settings

/-- The settings in a text that was found at a path. -/
def ofText (path text : String) : Except SettingsError Settings :=
  match Json.readWhole read text with
  | .error fault => .error (.malformed path fault)
  | .ok settings =>
    if settings.files = [] then .error (.noFiles path)
    else .ok ⟨settings.files.map (Path.join (Path.parent path))⟩

/-- Loads the settings at a path. -/
def load {m : Type → Type} [Monad m] (access : FileAccess m) (path : String) :
    m (Except SettingsError Settings) := do
  if ← access.found path then
    match ← access.read path with
    | .error failure => return .error (.unreadable path failure)
    | .ok text => return ofText path text
  else return .error (.notFound path)

end Settings

end ClassModel
