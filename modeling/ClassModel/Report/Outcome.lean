import ClassModel.Instance.Construction
import ClassModel.Report.Format

/-!
# Showing an instance

The instance that data made, as a tree: values stand after the name of their field, related objects
below it and further in.
-/

namespace ClassModel

/-- An instance and the class it was asked for. -/
structure Built where
  requested : String
  built : Instance

namespace Report

/-- A value after the name of its field. -/
def valueText : Value → String
  | .string value => "\"" ++ value ++ "\""
  | .date value => String.ofList value.text
  | value => Json.compactText value.json

/-- The indentation of a depth. -/
def indent (depth : Nat) : String := String.ofList (List.replicate (2 * depth) ' ')

mutual

/-- The lines of the fields of an instance, indented to a depth. -/
def instanceLines (depth : Nat) : Instance → List String
  | ⟨_, fields⟩ => slotsLines depth fields

/-- The lines of fields. -/
def slotsLines (depth : Nat) : List (String × Slot) → List String
  | [] => []
  | (name, slot) :: rest => slotLines depth name slot ++ slotsLines depth rest

/-- The lines of a field: its own, and those of the related objects. -/
def slotLines (depth : Nat) (name : String) : Slot → List String
  | .unset => [s!"{indent depth}{name}: -"]
  | .attr value => [s!"{indent depth}{name}: {valueText value}"]
  | .reference target =>
    s!"{indent depth}{name}: {target.className}" :: instanceLines (depth + 1) target
  | .collection items =>
    s!"{indent depth}{name}: [{count items.length}]" :: itemsLines depth 0 items

/-- The lines of the objects of a collection, counted from an index. -/
def itemsLines (depth index : Nat) : List Instance → List String
  | [] => []
  | item :: rest =>
    s!"{indent depth}  [{count index}] {item.className}" ::
      (instanceLines (depth + 2) item ++ itemsLines depth (index + 1) rest)

end

/-- An instance as a report. It names the class it was asked for where that is another name. -/
def ofBuilt (b : Built) : Report where
  lines :=
    let name := b.built.className
    let head :=
      if name = b.requested then s!"Instance of {name}"
      else s!"Instance of {name} (requested {b.requested})"
    head :: "" :: instanceLines 1 b.built
  content := .object [("requested", .text b.requested), ("instance", b.built.json)]

end Report

end ClassModel
