import ClassModel.Entries
import ClassModel.Instance.Value

/-!
# Instances

An instance is an object of a class of a model: the name of the class and a slot for every field
visible on it. Related objects are part of the instance that refers to them, so an instance is a
finite tree.
-/

namespace ClassModel

mutual

/-- An object of a class. The fields stand in the order of their names. -/
structure Instance where
  className : String
  fields : List (String × Slot)

/-- What a field of an object holds. -/
inductive Slot where
  | unset
  | attr (value : Value)
  | reference (target : Instance)
  | collection (items : List Instance)

end

namespace Slot

/-- Whether a field holds anything. -/
def isSet : Slot → Bool
  | unset => false
  | attr _ | reference _ | collection _ => true

end Slot

namespace Instance

/-- What a field holds, if the class has the field. -/
def slot? (i : Instance) (field : String) : Option Slot := Entries.get? field i.fields

/-- Whether a field holds anything. -/
def isSet (i : Instance) (field : String) : Bool := ((i.slot? field).map Slot.isSet).getD false

/-- The value of an attribute. -/
def value? (i : Instance) (field : String) : Option Value :=
  match i.slot? field with
  | some (.attr value) => some value
  | _ => none

/-- The object a reference holds. -/
def reference? (i : Instance) (field : String) : Option Instance :=
  match i.slot? field with
  | some (.reference target) => some target
  | _ => none

/-- The objects of a collection. -/
def collection? (i : Instance) (field : String) : Option (List Instance) :=
  match i.slot? field with
  | some (.collection items) => some items
  | _ => none

/-- The text of an attribute. -/
def text? (i : Instance) (field : String) : Option String := (i.value? field).bind Value.text?

end Instance

/-! ## Instances as JSON -/

mutual

/-- An instance as JSON: its class and its fields. -/
def Instance.json : Instance → Json
  | ⟨className, fields⟩ =>
    .object [("class", .text className), ("fields", .object (Instance.jsonFields fields))]

/-- Fields as members. -/
def Instance.jsonFields : List (String × Slot) → List (String × Json)
  | [] => []
  | (name, slot) :: rest => (name, slot.json) :: Instance.jsonFields rest

/-- What a field holds as JSON. -/
def Slot.json : Slot → Json
  | .unset => .null
  | .attr value => value.json
  | .reference target => target.json
  | .collection items => .list (Instance.jsonItems items)

/-- The objects of a collection as JSON. -/
def Instance.jsonItems : List Instance → List Json
  | [] => []
  | item :: rest => item.json :: Instance.jsonItems rest

end

/-! ## Equality -/

mutual

/-- Equality of instances with numbers compared as numbers: a NaN equals nothing, and the two zeros
are equal. -/
def Instance.numEq : Instance → Instance → Bool
  | ⟨className, fields⟩, ⟨className', fields'⟩ =>
    className = className' && Instance.numEqFields fields fields'

/-- Equality of fields, one by one. -/
def Instance.numEqFields : List (String × Slot) → List (String × Slot) → Bool
  | [], [] => true
  | (name, slot) :: rest, (name', slot') :: rest' =>
    name = name' && slot.numEq slot' && Instance.numEqFields rest rest'
  | _, _ => false

/-- Equality of what fields hold. -/
def Slot.numEq : Slot → Slot → Bool
  | .unset, .unset => true
  | .attr x, .attr y => x.numEq y
  | .reference x, .reference y => x.numEq y
  | .collection xs, .collection ys => Instance.numEqItems xs ys
  | _, _ => false

/-- Equality of collections, item by item. -/
def Instance.numEqItems : List Instance → List Instance → Bool
  | [], [] => true
  | x :: xs, y :: ys => x.numEq y && Instance.numEqItems xs ys
  | _, _ => false

end

end ClassModel
