import ClassModel.Instance.Data
import ClassModel.Model.Basic

/-!
# Construction of instances

Data becomes an instance of a class: every entry of a map must name a field visible on the class and
fit that field, and fields without an entry stay unset. Maps stand for objects to be built, lists
for collections, and instances built before are taken if their class fits.

An entry under the key `class` names the class to build when that is a subclass of the one asked
for, unless the class asked for has a field of that name.
-/

namespace ClassModel

/-- Why data makes no instance. -/
inductive ConstructionError where
  | lookup (error : LookupError)
  | unknownField (cls field : String)
  | typeMismatch (cls field expected value : String)
  | expectedObject (cls found : String)
deriving DecidableEq, Repr

/-- The wording of a failed construction. -/
def ConstructionError.message : ConstructionError → String
  | lookup error => error.message
  | unknownField cls field => s!"Class '{cls}' has no field '{field}'"
  | typeMismatch cls field expected value =>
    s!"Field '{cls}.{field}' expects {expected}, got {value}"
  | expectedObject cls found => s!"Class '{cls}' must be built from an object, got {found}"

/-- The result of a construction. -/
abbrev Construction (α : Type) := Except ConstructionError α

namespace Construction

/-- The key that names the class of an object. -/
def classKey : String := "class"

/-- The class that a name refers to. -/
def target (m : Model) (name : String) : Construction Class :=
  (m.getClass name).mapError .lookup

/-- The refusal of a value by a field. -/
def mismatch {α : Type} (owner : Class) (field : Field) (expected : String) (value : Data) :
    Construction α :=
  .error (.typeMismatch owner.name field.name expected value.describe)

/-- The name that a string holds, and nothing else does. -/
def nameOf? : Data → Option String
  | .scalar (.text name) => some name
  | _ => none

/-- The class to build when a map stands for an object of a class, and whether the key that names
a class has been used for that. -/
def chooseClass (m : Model) (asked : Class) (entries : List (String × Data)) :
    Construction (Class × Bool) := do
  if asked.hasField classKey then return (asked, false)
  match Entries.get? classKey entries with
  | none => return (asked, false)
  | some value =>
    match nameOf? value with
    | none => .error (.typeMismatch asked.name classKey "class name" value.describe)
    | some name =>
      let actual ← target m name
      if actual.isSubclassOf asked then return (actual, true)
      else .error (.typeMismatch asked.name classKey s!"subclass of {asked.name}" name)

/-- Whether an instance built before is of a class or of a subclass. -/
def fits (m : Model) (cls : Class) (built : Instance) : Construction Bool := do
  return (← target m built.className).isSubclassOf cls

/-- An instance built before, as the value of a field. -/
def accept (m : Model) (owner : Class) (field : Field) (cls : Class) (built : Instance) :
    Construction Instance := do
  if ← fits m cls built then return built
  else mismatch owner field s!"instance of {cls.name}" (.built built)

/-- A scalar as the value of a field. -/
def ofScalar (m : Model) (owner : Class) (field : Field) (value : Scalar) : Construction Slot :=
  match field.kind with
  | .attr declaredType =>
    let type := ValueType.ofDeclared declaredType
    match value.coerce type with
    | .ok value => .ok (.attr value)
    | .error refused => mismatch owner field type.name (.scalar refused)
  | .reference link => do
    mismatch owner field s!"object of class {(← target m link.target).name}" (.scalar value)
  | .collection link => do
    mismatch owner field s!"list of {(← target m link.target).name}" (.scalar value)

/-- The instance of a class with the fields given; the other visible fields are unset. -/
def instanceOf (cls : Class) (given : List (String × Slot)) : Instance where
  className := cls.name
  fields := cls.fieldNames.map fun name => (name, (Entries.get? name given).getD .unset)

mutual

/-- The entries of a map as fields of an object, in order. The key that named the class is passed
over. -/
def slots (m : Model) (cls : Class) (named : Bool) :
    List (String × Data) → Construction (List (String × Slot))
  | [] => return []
  | (key, value) :: rest => do
    if named && key = classKey then slots m cls named rest
    else
      match m.field? cls key with
      | none => .error (.unknownField cls.name key)
      | some field =>
        let slot ← slot m cls field value
        let others ← slots m cls named rest
        return (key, slot) :: others

/-- Data as the value of a field. -/
def slot (m : Model) (owner : Class) (field : Field) : Data → Construction Slot
  | .null => return .unset
  | .scalar value => ofScalar m owner field value
  | .map entries =>
    match field.kind with
    | .attr declaredType =>
      mismatch owner field (ValueType.ofDeclared declaredType).name (.map entries)
    | .reference link => do
      let asked ← target m link.target
      let (cls, named) ← chooseClass m asked entries
      return .reference (instanceOf cls (← slots m cls named entries))
    | .collection link => do
      let cls ← target m link.target
      mismatch owner field s!"list of {cls.name}" (.map entries)
  | .list items =>
    match field.kind with
    | .attr declaredType =>
      mismatch owner field (ValueType.ofDeclared declaredType).name (.list items)
    | .reference link => do
      let cls ← target m link.target
      mismatch owner field s!"object of class {cls.name}" (.list items)
    | .collection link => do
      let cls ← target m link.target
      return .collection (← related m owner field cls items)
  | .built built =>
    match field.kind with
    | .attr declaredType =>
      mismatch owner field (ValueType.ofDeclared declaredType).name (.built built)
    | .reference link => do
      let cls ← target m link.target
      return .reference (← accept m owner field cls built)
    | .collection link => do
      let cls ← target m link.target
      mismatch owner field s!"list of {cls.name}" (.built built)

/-- The items of a list as objects of a collection. -/
def related (m : Model) (owner : Class) (field : Field) (cls : Class) :
    List Data → Construction (List Instance)
  | [] => return []
  | .map entries :: rest => do
    let (actual, named) ← chooseClass m cls entries
    let item := instanceOf actual (← slots m actual named entries)
    return item :: (← related m owner field cls rest)
  | .built item :: rest => do
    let item ← accept m owner field cls item
    return item :: (← related m owner field cls rest)
  | item :: _ => mismatch owner field s!"object of class {cls.name}" item

end

/-- An object of a class, or of the subclass that the entries name. -/
def object (m : Model) (asked : Class) (entries : List (String × Data)) :
    Construction Instance := do
  let (cls, named) ← chooseClass m asked entries
  return instanceOf cls (← slots m cls named entries)

end Construction

open Construction in
/-- The instance of a class that data stands for. -/
def Model.construct (m : Model) (className : String) (data : Data) : Construction Instance := do
  let cls ← target m className
  match data with
  | .map entries => object m cls entries
  | .built built =>
    if ← fits m cls built then return built
    else
      .error (.typeMismatch cls.name classKey s!"instance of {cls.name}"
        (Data.built built).describe)
  | data => .error (.expectedObject cls.name data.describe)

end ClassModel
