import ClassModel.CommandLine.Request
import ClassModel.Settings

/-!
# The program

A run reads its command line, loads the schema files named there or in the settings, builds the
model and answers the command.
-/

namespace ClassModel

/-- Why schema files make no model. -/
inductive LoadError where
  | unreadable (path : String) (failure : ReadFailure)
  | malformed (path : String) (fault : Json.Fault)
  | source (error : SourceError)
deriving DecidableEq, Repr

namespace LoadError

/-- The wording of a failure to load, without what is wrong with a JSON text. -/
def headline : LoadError → String
  | unreadable path failure => s!"Failed to read schema file '{path}': {failure.message}"
  | malformed path _ => s!"Failed to parse schema JSON in '{path}': "
  | source error => error.message

/-- The cause of a failure to load. -/
def cause : LoadError → Cause
  | unreadable path failure =>
    .record "FileReadFailed" [("path", path), ("message", failure.message)]
  | malformed path fault =>
    .record "JsonParseFailed" [("path", path), ("message", fault.message)]
  | source error => error.cause

end LoadError

/-- Why a run has no answer. -/
inductive RunError where
  | usage (error : CommandLine.UsageError)
  | settings (error : SettingsError)
  | load (error : LoadError)
  | command (error : CommandError)
deriving DecidableEq, Repr

/-- The cause of a failed run; a wrong command line has none. -/
def RunError.cause? : RunError → Option Cause
  | usage _ => none
  | settings error => some (.text error.message)
  | load error => some error.cause
  | command error => some error.cause

namespace Program

variable {m : Type → Type} [Monad m]

/-- Reads documents, up to the first that cannot be read. -/
def documents (access : FileAccess m) : List String → m (Except LoadError (List Document))
  | [] => return .ok []
  | path :: rest => do
    match ← access.read path with
    | .error failure => return .error (.unreadable path failure)
    | .ok text =>
      match Document.ofText text with
      | .error fault => return .error (.malformed path fault)
      | .ok document => return (← documents access rest).map (document :: ·)

/-- The model of schema files. -/
def loadFiles (access : FileAccess m) (paths : List String) : m (Except LoadError Model) := do
  match ← documents access paths with
  | .error error => return .error error
  | .ok documents => return (Model.ofDocuments documents).mapError .source

/-- The schema files to load: those given, or else those of the settings. -/
def schemaFiles (access : FileAccess m) (given : List String) :
    m (Except SettingsError (List String)) := do
  if given ≠ [] then return .ok given
  else return (← Settings.load access Settings.fileName).map Settings.files

/-- The model of the files given, or else of those of the settings. -/
def loadModel (access : FileAccess m) (given : List String) : m (Except RunError Model) := do
  match ← schemaFiles access given with
  | .error error => return .error (.settings error)
  | .ok paths => return (← loadFiles access paths).mapError .load

/-- The answer to a command, in a format. -/
def answer (access : FileAccess m) (model : Model) (request : Request) :
    m (Except CommandError String) := do
  return (← request.command.report access model).map fun report => report.render request.format

/-- The answer to a command line. -/
def run (access : FileAccess m) (words : List String) : m (Except RunError String) := do
  match CommandLine.read words with
  | .error error => return .error (.usage error)
  | .ok request =>
    match ← loadModel access request.schema with
    | .error error => return .error error
    | .ok model => return (← answer access model request).mapError .command

/-! ## Runs as a process -/

/-- What is left of a run: the exit code, what it printed, and the line that reports a failure. -/
structure Outcome where
  exit : Nat
  output : String
  report : Option String
deriving DecidableEq, Repr

/-- The name and version of the program. -/
def versionLine : String := "schema_model 0.1.0"

/-- A summary of the command line. -/
def usageText : String :=
  "Usage: schema_model [-s FILE]... [-o table|json|toon] COMMAND\n\n" ++
  "Commands:\n" ++
  "  classes [-d FIELD]                           List classes\n" ++
  "  describe CLASS                               Show a class with all its fields\n" ++
  "  subclass CLASS ANCESTOR                      Check whether a class inherits from another\n" ++
  "  reverse FIELD                                Find the reference with a reverse field\n" ++
  "  construct CLASS (--data FILE | --json TEXT)  Build an instance from JSON data\n"

/-- The line that reports a failed run. -/
def reportLine (cause : Cause) : String := "Error: " ++ cause.render

/-- What a result leaves. A command line that is no request ends with code 2 unless it asks for help
or the version, and every other failure with code 1. -/
def Outcome.of : Except RunError String → Outcome
  | .ok text => ⟨0, text ++ "\n", none⟩
  | .error (.usage .version) => ⟨0, versionLine ++ "\n", none⟩
  | .error (.usage .help) => ⟨0, usageText, none⟩
  | .error error =>
    match error.cause? with
    | none => ⟨2, "", none⟩
    | some cause => ⟨1, "", some (reportLine cause)⟩

/-- What a run with some words leaves. -/
def outcome (access : FileAccess m) (words : List String) : m Outcome :=
  return .of (← run access words)

end Program

end ClassModel
