import ClassModel.Instance.Construction
import ClassModel.Model.Build
import ClassModel.Text.Quoted

/-!
# Failures as causes

A failure in one line for the eye of a developer: the name of its cause with the values that belong
to it, inside the names of the stages that passed it on.
-/

namespace ClassModel

/-- A cause of failure, ready to be shown. -/
inductive Cause where
  | text (message : String)
  | record (name : String) (values : List (String × String))
  | within (stage : String) (cause : Cause)
deriving Repr

namespace Cause

/-- The name of the cause itself. -/
def name : Cause → String
  | text _ => ""
  | record name _ => name
  | within _ cause => cause.name

/-- A cause on one line. -/
def render : Cause → String
  | text message => Text.quoted message
  | record name [] => name
  | record name values =>
    let shown := values.map fun (label, value) => label ++ ": " ++ Text.quoted value
    name ++ " \x7b " ++ String.intercalate ", " shown ++ " \x7d"
  | within stage cause => stage ++ "(" ++ cause.render ++ ")"

end Cause

/-- A class by its position and its name. -/
def Class.label (cls : Class) : String :=
  let id := String.ofList (Text.natText cls.id)
  s!"ClassRef \x7b id: ClassId({id}), name: {Text.quoted cls.name} \x7d"

/-- The cause of a refused declaration. -/
def SchemaError.cause : SchemaError → Cause
  | fieldOutsideClass field => .record "FieldOutsideClass" [("field", field)]
  | duplicateClass name => .record "DuplicateClass" [("name", name)]
  | duplicateField cls field => .record "DuplicateField" [("class", cls), ("field", field)]
  | nestedClass name outer => .record "NestedClass" [("name", name), ("open", outer)]
  | unmatchedClose => .record "UnmatchedClose" []
  | unclosedClass name => .record "UnclosedClass" [("name", name)]

/-- The cause of a failed build. -/
def BuildError.cause : BuildError → Cause
  | schema error => .within "Schema" error.cause
  | unresolvedParent cls parent => .record "UnresolvedParent" [("class", cls), ("parent", parent)]
  | cyclicInheritance cls circle =>
    .record "CyclicInheritance" [("class", cls), ("cycle", circleText circle)]
  | unresolvedReference cls field target =>
    .record "UnresolvedReference" [("class", cls), ("field", field), ("referenced", target)]
  | reservedClassName name => .record "ReservedClassName" [("name", name)]

/-- The cause of a failure to make a model of documents. -/
def SourceError.cause : SourceError → Cause
  | noDocuments => .record "NoSchemaFiles" []
  | build error => .within "Build" error.cause

/-- The cause of a failed look-up. -/
def LookupError.cause : LookupError → Cause
  | unknownClass name => .record "UnknownClass" [("name", name)]

/-- The cause of a failed construction. -/
def ConstructionError.cause : ConstructionError → Cause
  | lookup error => .within "Lookup" error.cause
  | unknownField cls field => .record "UnknownField" [("class", cls), ("field", field)]
  | typeMismatch cls field expected value =>
    .record "TypeMismatch"
      [("class", cls), ("field", field), ("expected", expected), ("value", value)]
  | expectedObject cls found => .record "ExpectedObject" [("class", cls), ("found", found)]

end ClassModel
