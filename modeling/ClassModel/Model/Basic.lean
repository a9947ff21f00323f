import ClassModel.Entries
import ClassModel.Model.Names
import ClassModel.Schema.Draft

/-!
# Models

A model is a list of classes whose names are resolved: each class knows its parents, its ancestor
chain and the fields visible on it. Classes are addressed by position.

A field is visible on a class when some class of its chain declares it; the first class of the chain
that declares a field of that name decides which one it is.
-/

namespace ClassModel

/-- The place of a field: a class and a position among its own fields. -/
structure FieldRef where
  owner : ClassId
  index : Nat
deriving DecidableEq, Repr

/-- A class of a model. -/
structure Class extends DeclaredClass where
  /-- The classes it extends, in declared order. -/
  parents : List ClassId
  /-- The class itself and then all it inherits from, nearest first. -/
  ancestors : List ClassId
  /-- The fields visible on the class, by name. -/
  visible : Entries FieldRef
deriving DecidableEq, Repr

/-- A linked set of classes. -/
structure Model where
  name : String
  /-- The namespace. -/
  qualifier : Option String
  classes : List Class
deriving DecidableEq, Repr

/-- A class that the model does not know. -/
inductive LookupError where
  | unknownClass (name : String)
deriving DecidableEq, Repr

/-- The wording of a failed look-up. -/
def LookupError.message : LookupError → String
  | unknownClass name => s!"Unknown class '{name}'"

namespace Class

/-- The own field of a given name. -/
def ownField? (cls : Class) (name : String) : Option Field :=
  cls.ownFields.find? fun field => field.name = name

/-- Whether a field is visible on the class. -/
def hasField (cls : Class) (name : String) : Bool := (cls.visible.get? name).isSome

/-- The names of the visible fields, in order. -/
def fieldNames (cls : Class) : List String := cls.visible.names

/-- The number of visible fields. -/
def fieldCount (cls : Class) : Nat := cls.visible.length

/-- Whether a class is another one or inherits from it. -/
def isSubclassOf (cls other : Class) : Bool := other.id ∈ cls.ancestors

end Class

namespace Model

/-- The names of the classes. -/
def names (m : Model) : Names := ⟨m.qualifier, m.classes.map fun cls => cls.name⟩

/-- The class at a position. -/
def classAt? (m : Model) (id : ClassId) : Option Class := m.classes[id]?

/-- The classes at some positions. -/
def classesAt (m : Model) (ids : List ClassId) : List Class := ids.filterMap m.classAt?

/-- The class that a name refers to. -/
def class? (m : Model) (name : String) : Option Class :=
  (m.names.resolve? name).bind m.classAt?

/-- The class that a name refers to, or the failure to find it. -/
def getClass (m : Model) (name : String) : Except LookupError Class :=
  match m.class? name with
  | some cls => .ok cls
  | none => .error (.unknownClass name)

/-- Whether a name refers to a class. -/
def hasClass (m : Model) (name : String) : Bool := (m.class? name).isSome

/-- A name with the model's namespace taken off. -/
def displayName (m : Model) (name : String) : String := Names.displayName m.qualifier name

/-! ## Fields -/

/-- The field at a place. -/
def fieldAt? (m : Model) (ref : FieldRef) : Option Field :=
  (m.classAt? ref.owner).bind fun cls => cls.ownFields[ref.index]?

/-- The field of a given name visible on a class. -/
def field? (m : Model) (cls : Class) (name : String) : Option Field :=
  (cls.visible.get? name).bind m.fieldAt?

/-- The own fields of a class that are visible on another. -/
def survivingFields (m : Model) (cls : Class) (owner : ClassId) : List Field :=
  match m.classAt? owner with
  | none => []
  | some ancestor =>
    (ancestor.ownFields.zipIdx.filter fun (field, index) =>
      cls.visible.get? field.name = some ⟨owner, index⟩).map (·.1)

/-- The fields visible on a class: its own first, then those of each ancestor in chain order. -/
def fields (m : Model) (cls : Class) : List Field := cls.ancestors.flatMap (m.survivingFields cls)

/-- The visible fields of one sort. -/
def fieldsOfSort (m : Model) (cls : Class) (sort : FieldSort) : List Field :=
  (m.fields cls).filter fun field => field.kind.sort = sort

/-- The class that declares a field. -/
def declaringClass? (m : Model) (field : Field) : Option Class := m.classAt? field.owner

/-! ## Questions about all classes -/

/-- The classes the schema declares. -/
def declaredClasses (m : Model) : List Class := m.classes.filter fun cls => !cls.builtin

/-- The number of classes the schema declares. -/
def classCount (m : Model) : Nat := m.declaredClasses.length

/-- The declared classes with an own field of a given name. -/
def declaring (m : Model) (name : String) : List Class :=
  m.declaredClasses.filter fun cls => (cls.ownField? name).isSome

/-- The first declared class with an own reference whose reverse field has a given name. -/
def reverseOwner? (m : Model) (name : String) : Option Class :=
  m.declaredClasses.find? fun cls => cls.ownFields.any (·.isReverseOf name)

/-- Whether one class is another or inherits from it, by name. -/
def isSubclassOf (m : Model) (name ancestor : String) : Except LookupError Bool := do
  let cls ← m.getClass name
  let other ← m.getClass ancestor
  return cls.isSubclassOf other

/-- The class of a given name and all that inherit from it. -/
def subclassesOf (m : Model) (name : String) : Except LookupError (List Class) := do
  let ancestor ← m.getClass name
  return m.classes.filter (·.isSubclassOf ancestor)

end Model

end ClassModel
