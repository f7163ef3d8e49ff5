/-!
# Registries

A registry keeps items that have a board number and a name, in order of registration. Two indices,
one by number and one by name, point to an item's slot. No number and no name is registered twice.
-/
namespace Playfield

/-- Items with a board number and a name. -/
class Listed (α : Type) where
  number : α → Nat
  name : α → String

/-- Why an item was not registered. -/
inductive Clash where
  /-- Its number is taken. -/
  | number (number : Nat)
  /-- Its number is free but its name is taken. -/
  | name (name : String)
  deriving DecidableEq, Repr, Inhabited

/-- The text shown for a refused registration. -/
def Clash.message : Clash → String
  | .number n => "number " ++ toString n ++ " is already registered"
  | .name s => "name '" ++ s ++ "' is already registered"

/-- Items in order of registration, with an index by number and one by name. -/
structure Registry (α : Type) where
  items : List α := []
  /-- Slot of each number. -/
  byNumber : List (Nat × Nat) := []
  /-- Slot of each name. -/
  byName : List (String × Nat) := []
  deriving DecidableEq, Repr, Inhabited

namespace Registry
variable {α : Type}

/-- A registry without items. -/
def empty : Registry α := {}

/-- How many items are registered. -/
def size (r : Registry α) : Nat := r.items.length

/-- The slot registered for a number. -/
def slotOfNumber? (r : Registry α) (number : Nat) : Option Nat := r.byNumber.lookup number

/-- The slot registered for a name. -/
def slotOfName? (r : Registry α) (name : String) : Option Nat := r.byName.lookup name

/-- The item with a number. -/
def get? (r : Registry α) (number : Nat) : Option α :=
  (r.slotOfNumber? number).bind fun slot => r.items[slot]?

/-- The item with a name. -/
def find? (r : Registry α) (name : String) : Option α :=
  (r.slotOfName? name).bind fun slot => r.items[slot]?

/-- Register an item at the end. The number is looked at before the name. -/
def insert [Listed α] (r : Registry α) (item : α) : Except Clash (Registry α) :=
  if (r.slotOfNumber? (Listed.number item)).isSome then
    .error (.number (Listed.number item))
  else if (r.slotOfName? (Listed.name item)).isSome then
    .error (.name (Listed.name item))
  else
    .ok {
      items := r.items ++ [item]
      byNumber := (Listed.number item, r.size) :: r.byNumber
      byName := (Listed.name item, r.size) :: r.byName }

/-- Change the item in a slot. The change must keep its number and name. -/
def modify (r : Registry α) (slot : Nat) (f : α → α) : Registry α :=
  { r with items := r.items.modify slot f }

/-- Change the item with a number, if there is one. -/
def modifyNumber (r : Registry α) (number : Nat) (f : α → α) : Registry α :=
  match r.slotOfNumber? number with
  | some slot => r.modify slot f
  | none => r

/-- Change the item with a name, if there is one. -/
def modifyName (r : Registry α) (name : String) (f : α → α) : Registry α :=
  match r.slotOfName? name with
  | some slot => r.modify slot f
  | none => r

/-- Change every item. The change must keep numbers and names. -/
def modifyAll (r : Registry α) (f : α → α) : Registry α := { r with items := r.items.map f }

end Registry

end Playfield
