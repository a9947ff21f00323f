import ClassModel.Schema.Field

/-!
# Declarations

A schema is declared by a flat sequence of events: a class opens, its fields follow, the class
closes.
-/

namespace ClassModel

/-- A field as it is declared. -/
structure FieldDeclaration where
  name : String
  kind : FieldKind
deriving DecidableEq, Repr

/-- One event of a declaration sequence. -/
inductive Declaration where
  | openClass (name : String) (parents : List String)
  | field (field : FieldDeclaration)
  | closeClass
deriving DecidableEq, Repr

/-- Why a declaration sequence is refused. -/
inductive SchemaError where
  | fieldOutsideClass (field : String)
  | duplicateClass (name : String)
  | duplicateField (cls field : String)
  | nestedClass (name outer : String)
  | unmatchedClose
  | unclosedClass (name : String)
deriving DecidableEq, Repr

/-- The wording of a refusal. -/
def SchemaError.message : SchemaError → String
  | fieldOutsideClass field => s!"Field '{field}' declared outside of any class"
  | duplicateClass name => s!"Class '{name}' is declared more than once"
  | duplicateField cls field => s!"Field '{field}' is declared more than once in class '{cls}'"
  | nestedClass name outer => s!"Class '{name}' opened while class '{outer}' is still open"
  | unmatchedClose => "Class close without a matching class open"
  | unclosedClass name => s!"Class '{name}' was never closed"

end ClassModel
