import ClassModel.Command
import ClassModel.CommandLine.Scan

/-!
# Requests

The request that a command line makes: the schema files, the output format and the command. Values
of the shared options that come after the name of the command take the place of those before it.
-/

namespace ClassModel

/-- What a command line asks for. -/
structure Request where
  /-- The schema files. -/
  schema : List String
  format : OutputFormat
  command : Command
deriving DecidableEq, Repr

namespace CommandLine

/-- The command that its level has taken. -/
def Taken.command (taken : Taken) : CommandName → Except UsageError Command
  | .classes => .ok (.classes (taken.valuesOf .declaring).head?)
  | .describe =>
    match taken.words with
    | [cls] => .ok (.describe cls)
    | _ => .error .missingArgument
  | .subclass =>
    match taken.words with
    | [cls, ancestor] => .ok (.subclass cls ancestor)
    | _ => .error .missingArgument
  | .reverse =>
    match taken.words with
    | [field] => .ok (.reverse field)
    | _ => .error .missingArgument
  | .construct =>
    let data := (taken.valuesOf .data).head?
    let json := (taken.valuesOf .json).head?
    if data.isSome && json.isSome then .error .conflict
    else
      match taken.words with
      | [cls] =>
        if data.isSome || json.isSome then .ok (.construct cls data json)
        else .error .missingArgument
      | _ => .error .missingArgument

/-- The values of a shared option: those of the inner level if there are any. -/
def sharedValues (outer inner : Taken) (setting : Setting) : List String :=
  match inner.valuesOf setting with
  | [] => outer.valuesOf setting
  | values => values

/-- The format among the values of the option for it. -/
def formatOf (values : List String) : OutputFormat :=
  (values.head?.bind OutputFormat.ofName?).getD .table

/-- Reads the level after the name of a command. -/
def readCommand (name : CommandName) (words : List String) :
    Except UsageError (Taken × Command) := do
  let (taken, _) ← scan name.level .nothing words
  let taken ← taken.settle
  return (taken, ← taken.command name)

/-- Reads a command line without the name of the program. What is wrong after the name of a command
comes before what is wrong with the value of the last option before it. -/
def read (words : List String) : Except UsageError Request := do
  let (outer, rest) ← scan topLevel .nothing words
  match rest with
  | none =>
    let outer ← outer.settle
    .error (if outer.values = [] then .nothingGiven else .missingCommand)
  | some (name, words) =>
    let (inner, command) ← readCommand name words
    let outer ← outer.settle
    return {
      schema := sharedValues outer inner .schema
      format := formatOf (sharedValues outer inner .format)
      command := command }

end CommandLine

end ClassModel
