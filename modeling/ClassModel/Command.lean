import ClassModel.Failure
import ClassModel.Files.Basic
import ClassModel.Report.Description
import ClassModel.Report.Lineage
import ClassModel.Report.Listing
import ClassModel.Report.Outcome
import ClassModel.Report.ReverseLink

/-!
# Commands

The questions that can be put to a model, and their answers as reports. Only construction looks at
files, for the data it is given.
-/

namespace ClassModel

/-- A question to a model. -/
inductive Command where
  | classes (declaring : Option String)
  | describe (cls : String)
  | subclass (cls ancestor : String)
  | reverse (field : String)
  /-- An instance from the data in a file or from JSON text; the file comes first. -/
  | construct (cls : String) (data json : Option String)
deriving DecidableEq, Repr

/-- Why a command has no answer. -/
inductive CommandError where
  | lookup (error : LookupError)
  | construction (error : ConstructionError)
  | dataUnreadable (path : String) (failure : ReadFailure)
  | dataMalformed (fault : Json.Fault)
  | noData
deriving DecidableEq, Repr

/-- What is wrong with a JSON text. -/
def Json.Fault.message : Json.Fault → String
  | unfinished => "the text ends too early"
  | malformed => "a character cannot stand where it does"
  | misshapen => "a value is not of the wanted shape"

namespace CommandError

/-- The wording of a failed command, without what is wrong with a JSON text. -/
def headline : CommandError → String
  | lookup error => error.message
  | construction error => error.message
  | dataUnreadable path failure => s!"Failed to read data file '{path}': {failure.message}"
  | dataMalformed _ => "Failed to parse data JSON: "
  | noData => "No input data given, pass --data or --json"

/-- The cause of a failed command. -/
def cause : CommandError → Cause
  | lookup error => error.cause
  | construction error => error.cause
  | dataUnreadable path failure =>
    .record "FileReadFailed" [("path", path), ("message", failure.message)]
  | dataMalformed fault => .record "JsonParseFailed" [("message", fault.message)]
  | noData => .record "MissingInput" []

end CommandError

namespace Command

/-- The text that construction takes its data from. -/
def inputText {m : Type → Type} [Monad m] (access : FileAccess m) (data json : Option String) :
    m (Except CommandError String) := do
  match data, json with
  | some path, _ =>
    match ← access.read path with
    | .ok text => return .ok text
    | .error failure => return .error (.dataUnreadable path failure)
  | none, some text => return .ok text
  | none, none => return .error .noData

/-- The instance that a text makes. -/
def build (model : Model) (cls text : String) : Except CommandError Built :=
  match Data.ofText text with
  | .error fault => .error (.dataMalformed fault)
  | .ok data =>
    match model.construct cls data with
    | .error error => .error (.construction error)
    | .ok built => .ok ⟨cls, built⟩

/-- The answer to a command. -/
def report {m : Type → Type} [Monad m] (access : FileAccess m) (model : Model) :
    Command → m (Except CommandError Report)
  | classes declaring => return .ok (.ofListing (model.listing declaring))
  | describe cls => return ((model.describe cls).map .ofDescription).mapError .lookup
  | subclass cls ancestor =>
    return ((model.lineage cls ancestor).map .ofLineage).mapError .lookup
  | reverse field => return .ok (.ofReverseLink (model.reverseLink field))
  | construct cls data json => do
    match ← inputText access data json with
    | .error error => return .error error
    | .ok text => return (build model cls text).map .ofBuilt

end Command

end ClassModel
