import ClassModel.Program

/-!
# Command line

Runs the program on the files of the machine.
-/

open ClassModel

/-- A failure to read, from the error of the system. -/
def readFailure : IO.Error → ReadFailure
  | .noFileOrDirectory .. => .notFound
  | .inappropriateType _ code _ => if code = 20 then .notDirectory else .isDirectory
  | error => .other (toString error)

/-- Whether a path leads to something, whatever else is wrong with it. -/
def machineFound (path : String) : IO Bool := do
  try
    let _ ← IO.FS.Handle.mk path .read
    return true
  catch error =>
    match readFailure error with
    | .notFound | .notDirectory => return false
    | _ => return true

/-- The files of the machine. -/
def machineFiles : FileAccess IO where
  found := machineFound
  read path := do
    try
      let bytes ← IO.FS.readBinFile path
      match String.fromUTF8? bytes with
      | some text => return .ok text
      | none => return .error .notUtf8
    catch error => return .error (readFailure error)

/-- Prints what a run leaves and ends with its code. -/
def main (words : List String) : IO UInt32 := do
  let outcome ← Program.outcome machineFiles words
  IO.print outcome.output
  if let some report := outcome.report then IO.eprintln report
  if outcome.exit = 2 then IO.eprint Program.usageText
  return outcome.exit.toUInt32
