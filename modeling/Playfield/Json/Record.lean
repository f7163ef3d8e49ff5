import Playfield.Json

/-!
# Records and variants in JSON

How typed data is read from JSON values.

A record is an object with its fields as members, or an array of its fields in order. In an object
the members may stand in any order, a field may not be repeated, and members that are no fields
are passed over. In an array trailing fields may be left out if they have a default. A variant is
its name, or an object with its name as the only member and what it carries as the value.
-/
namespace Playfield.Json

/-- A natural number below a bound. -/
def natBelow? (bound : Nat) : Json → Option Nat
  | .number n => if 0 ≤ n ∧ n < bound then some n.toNat else none
  | _ => none

/-- A number of 8 bits. -/
def byte? : Json → Option Nat := natBelow? UInt8.size

/-- A number of 16 bits. -/
def half? : Json → Option Nat := natBelow? UInt16.size

/-- A number of 32 bits. -/
def word? : Json → Option Nat := natBelow? UInt32.size

/-- A number of 64 bits. -/
def long? : Json → Option Nat := natBelow? UInt64.size

/-- A byte. -/
def uint8? (j : Json) : Option UInt8 := j.byte?.map UInt8.ofNat

/-- A word of 16 bits. -/
def uint16? (j : Json) : Option UInt16 := j.half?.map UInt16.ofNat

/-- Any whole number. -/
def int? : Json → Option Int
  | .number n => some n
  | _ => none

def bool? : Json → Option Bool
  | .bool b => some b
  | _ => none

/-- A string that has a text. -/
def str? : Json → Option String
  | .text s => s
  | _ => none

/-- An array of items of one kind. -/
def list? {α : Type} (item? : Json → Option α) : Json → Option (List α)
  | .array items => items.mapM item?
  | _ => none

/-- One of several named constants. -/
def choice? {α : Type} (names : List (String × α)) : Json → Option α
  | .text (some s) => names.lookup s
  | .object [(some s, .null)] => names.lookup s
  | _ => none

/-- The name of a variant and what it carries. -/
def variant? : Json → Option (String × Json)
  | .object [(some s, v)] => some (s, v)
  | _ => none

/-- The fields found for a record. -/
structure Record where
  /-- The record is written as an array. -/
  positional : Bool
  fields : List (String × Json)
  deriving Repr, Inhabited

/-- The members that are fields. With `closed` any other member is refused. -/
def fieldsOf? (names : List String) (closed : Bool) :
    List (Option String × Json) → Option (List (String × Json))
  | [] => some []
  | (none, _) :: _ => none
  | (some name, v) :: rest =>
    if name ∈ names then
      match fieldsOf? names closed rest with
      | some fields => if (fields.lookup name).isSome then none else some ((name, v) :: fields)
      | none => none
    else if closed then none
    else fieldsOf? names closed rest

/-- The fields of a record with the given names. -/
def record? (names : List String) (closed : Bool) : Json → Option Record
  | .object members => (fieldsOf? names closed members).map (Record.mk false)
  | .array items => if items.length ≤ names.length then some ⟨true, names.zip items⟩ else none
  | _ => none

namespace Record
variable {α : Type}

/-- A field that must be there. -/
def required? (r : Record) (name : String) (decode : Json → Option α) : Option α :=
  (r.fields.lookup name).bind decode

/-- A field with a default. -/
def getD? (r : Record) (name : String) (decode : Json → Option α) (default : α) : Option α :=
  match r.fields.lookup name with
  | some v => decode v
  | none => some default

/-- A value or null. -/
def nullable? (decode : Json → Option α) : Json → Option (Option α)
  | .null => some none
  | v => (decode v).map some

/-- A field that may be null, and may be left out of an object but not of an array. -/
def optional? (r : Record) (name : String) (decode : Json → Option α) : Option (Option α) :=
  match r.fields.lookup name with
  | some v => nullable? decode v
  | none => if r.positional then none else some none

end Record

end Playfield.Json
