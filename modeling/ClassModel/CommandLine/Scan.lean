import ClassModel.Report.Format

/-!
# Words of a command line

A command line has two levels, the words before the name of a command and those after it. A level
knows some options and takes a number of plain words. An option has its value in the same word or in
the next one; a value in a word of its own is looked at only when the following option or plain word
comes, or the level ends.

After two dashes all words are plain.
-/

namespace ClassModel.CommandLine

/-- Why a command line is no request. -/
inductive UsageError where
  /-- Nothing is asked for, and help would be shown. -/
  | nothingGiven
  | missingCommand
  | help
  | version
  | unknownCommand
  | unknownArgument
  | invalidValue
  /-- An option takes a value but is given one that it cannot have. -/
  | surplusValue
  | conflict
  | missingArgument
deriving DecidableEq, Repr

/-- The names of the commands. -/
inductive CommandName where
  | classes
  | describe
  | subclass
  | reverse
  | construct
deriving DecidableEq, Repr

/-- The word for a command. -/
def CommandName.word : CommandName → String
  | classes => "classes"
  | describe => "describe"
  | subclass => "subclass"
  | reverse => "reverse"
  | construct => "construct"

/-- The command with a given name. -/
def CommandName.ofWord? (word : String) : Option CommandName :=
  [classes, describe, subclass, reverse, construct].find? fun name => name.word = word

/-- The options that take a value. -/
inductive Setting where
  | schema
  | format
  | declaring
  | data
  | json
deriving DecidableEq, Repr

namespace Setting

/-- The long form of an option. -/
def long : Setting → String
  | schema => "schema"
  | format => "format"
  | declaring => "declaring"
  | data => "data"
  | json => "json"

/-- The short form of an option. -/
def short? : Setting → Option Char
  | schema => some 's'
  | format => some 'o'
  | declaring => some 'd'
  | data | json => none

/-- Whether an option may be given more than once. -/
def isRepeatable (setting : Setting) : Bool := setting = schema

/-- Whether an option can have a value. -/
def admits (setting : Setting) (value : String) : Bool :=
  match setting with
  | schema | data => value ≠ ""
  | format => (OutputFormat.ofName? value).isSome
  | declaring | json => true

end Setting

/-- What a level of a command line takes. -/
structure Level where
  settings : List Setting
  /-- The number of plain words. -/
  places : Nat
  /-- Whether the level has the name of a command in it. -/
  isTop : Bool
deriving DecidableEq, Repr

/-- The options of every level. -/
def sharedSettings : List Setting := [.schema, .format]

/-- The level before the name of a command. -/
def topLevel : Level := ⟨sharedSettings, 0, true⟩

/-- The level after the name of a command. -/
def CommandName.level : CommandName → Level
  | classes => ⟨.declaring :: sharedSettings, 0, false⟩
  | describe => ⟨sharedSettings, 1, false⟩
  | subclass => ⟨sharedSettings, 2, false⟩
  | reverse => ⟨sharedSettings, 1, false⟩
  | construct => ⟨.data :: .json :: sharedSettings, 1, false⟩

/-- What a level has taken. -/
structure Taken where
  /-- The values of options, in order. -/
  values : List (Setting × String)
  /-- The plain words, in order. -/
  words : List String
  /-- The last option, when its value stands in a word of its own and has not been looked at; no
  value yet means that it comes next. -/
  pending : Option (Setting × Option String)
  /-- Whether two dashes have come. -/
  plainOnly : Bool
deriving DecidableEq, Repr

namespace Taken

/-- Nothing. -/
def nothing : Taken := ⟨[], [], none, false⟩

/-- The values of an option, in order. -/
def valuesOf (taken : Taken) (setting : Setting) : List String :=
  taken.values.filterMap fun (other, value) => if other = setting then some value else none

/-- Takes a value of an option. -/
def accept (taken : Taken) (setting : Setting) (value : String) : Except UsageError Taken :=
  if !setting.isRepeatable && taken.valuesOf setting ≠ [] then .error .conflict
  else if setting.admits value then
    .ok { taken with values := taken.values ++ [(setting, value)] }
  else .error .invalidValue

/-- Looks at the value of the last option. -/
def settle (taken : Taken) : Except UsageError Taken :=
  let settled := { taken with pending := none }
  match taken.pending with
  | none => .ok settled
  | some (_, none) => .error .invalidValue
  | some (setting, some value) => settled.accept setting value

/-- Whether the next word may be the value of the last option. -/
def awaitsValue (taken : Taken) : Bool :=
  match taken.pending with
  | some (_, none) => true
  | _ => false

/-- Takes an option, with its value or before it. -/
def option (taken : Taken) (setting : Setting) (value : Option (List Char)) :
    Except UsageError Taken := do
  let taken ← taken.settle
  match value with
  | some value => taken.accept setting (String.ofList value)
  | none => return { taken with pending := some (setting, none) }

/-- Ends with help or the version, once the last option is looked at. -/
def stop (taken : Taken) (reason : UsageError) : Except UsageError Taken := do
  let _ ← taken.settle
  .error reason

/-- Takes an option by its long form. -/
def longOption (taken : Taken) (level : Level) (name : List Char) (value : Option (List Char)) :
    Except UsageError Taken :=
  match level.settings.find? fun setting => setting.long.toList = name with
  | some setting => taken.option setting value
  | none =>
    let special : Option UsageError :=
      if name = "help".toList then some .help
      else if level.isTop && name = "version".toList then some .version
      else none
    match special, value with
    | none, _ => .error .unknownArgument
    | some _, some _ => .error .surplusValue
    | some reason, none => taken.stop reason

/-- Takes an option by its short form, which its value may follow, with or without an equals
sign. -/
def shortOption (taken : Taken) (level : Level) (letter : Char) (rest : List Char) :
    Except UsageError Taken :=
  match level.settings.find? fun setting => setting.short? = some letter with
  | some setting =>
    match rest with
    | [] => taken.option setting none
    | '=' :: value => taken.option setting (some value)
    | value => taken.option setting (some value)
  | none =>
    if letter = 'h' then taken.stop .help
    else if level.isTop && letter = 'V' then taken.stop .version
    else .error .unknownArgument

/-- Takes a plain word. -/
def plainWord (taken : Taken) (level : Level) (word : String) : Except UsageError Taken :=
  if taken.words.length < level.places then do
    let taken ← taken.settle
    return { taken with words := taken.words ++ [word] }
  else if level.isTop && !taken.plainOnly then .error .unknownCommand
  else .error .unknownArgument

/-- Splits a text at the first equals sign. -/
def splitValue (cs : List Char) : List Char × Option (List Char) :=
  match cs.dropWhile (· ≠ '=') with
  | [] => (cs, none)
  | _ :: value => (cs.takeWhile (· ≠ '='), some value)

/-- Takes a word that is not the name of a command. -/
def word (taken : Taken) (level : Level) (word : String) : Except UsageError Taken :=
  if taken.plainOnly then taken.plainWord level word
  else
    match word.toList with
    | ['-', '-'] => .ok { taken with plainOnly := true }
    | '-' :: '-' :: option =>
      let (name, value) := splitValue option
      taken.longOption level name value
    | '-' :: letter :: rest => taken.shortOption level letter rest
    | _ =>
      match taken.pending with
      | some (setting, none) => .ok { taken with pending := some (setting, some word) }
      | _ => taken.plainWord level word

end Taken

/-- The word that asks for help. -/
def helpWord : String := "help"

/-- What a request for help on some words comes to. -/
def helpOn : List String → UsageError
  | [] => .help
  | [word] =>
    if word = helpWord ∨ (CommandName.ofWord? word).isSome then .help else .unknownCommand
  | _ => .unknownCommand

/-- What comes after a level: nothing, or a command and the words of its level. -/
abbrev Rest := Option (CommandName × List String)

/-- Goes through the words of a level. -/
def scan (level : Level) (taken : Taken) : List String → Except UsageError (Taken × Rest)
  | [] => .ok (taken, none)
  | word :: rest =>
    let mayCommand := level.isTop && !taken.plainOnly && !taken.awaitsValue
    if mayCommand && word = helpWord then .error (helpOn rest)
    else
      match if mayCommand then CommandName.ofWord? word else none with
      | some name => .ok (taken, some (name, rest))
      | none =>
        match taken.word level word with
        | .ok taken => scan level taken rest
        | .error reason => .error reason

end ClassModel.CommandLine
