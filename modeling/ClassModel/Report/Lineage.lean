import ClassModel.Model.Basic
import ClassModel.Report.Format

/-!
# The line from a class to an ancestor

Whether one class inherits from another, and the way up that shows it: from each class to the first
of its parents that still leads to the ancestor. Each step leaves a class behind, so a model with so
many classes bounds the number of steps.
-/

namespace ClassModel

/-- The answer whether a class inherits from another. -/
structure Lineage where
  cls : String
  ancestor : String
  isSubclass : Bool
  /-- The classes on the way up, or none if there is no way. -/
  path : List String
deriving DecidableEq, Repr

namespace Model

/-- The first parent of a class that is the ancestor or inherits from it. -/
def parentToward? (m : Model) (ancestor cls : Class) : Option Class :=
  (m.classesAt cls.parents).find? (·.isSubclassOf ancestor)

/-- The way from a class up to an ancestor, of a number of steps at most. -/
def climb (m : Model) (ancestor : Class) : Nat → Class → List Class
  | 0, cls => [cls]
  | steps + 1, cls =>
    if cls.id = ancestor.id then [cls]
    else
      match m.parentToward? ancestor cls with
      | none => [cls]
      | some parent => cls :: m.climb ancestor steps parent

/-- The way from a class up to an ancestor. -/
def pathUp (m : Model) (cls ancestor : Class) : List Class :=
  m.climb ancestor m.classes.length cls

/-- Whether one class inherits from another, with the way that shows it. -/
def lineage (m : Model) (name ancestorName : String) : Except LookupError Lineage := do
  let cls ← m.getClass name
  let ancestor ← m.getClass ancestorName
  let isSubclass := cls.isSubclassOf ancestor
  let path := if isSubclass then m.pathUp cls ancestor else []
  return ⟨cls.name, ancestor.name, isSubclass, path.map fun cls => cls.name⟩

end Model

namespace Report

/-- The answer as a report. -/
def ofLineage (l : Lineage) : Report where
  lines :=
    if l.isSubclass then
      s!"{l.cls} is a subclass of {l.ancestor}" ::
        if 1 < l.path.length then ["  " ++ String.intercalate " -> " l.path] else []
    else [s!"{l.cls} is not a subclass of {l.ancestor}"]
  content :=
    .object ([("class", .text l.cls), ("ancestor", .text l.ancestor),
      ("is_subclass", .bool l.isSubclass)] ++
      if l.path = [] then [] else [("path", .texts l.path)])

end Report

end ClassModel
