/-!
# JSON data

The values a JSON text can hold. Members of an object stand in the order of the text, repeated names
included. A plain integer is a number; any other number is kept as written. A string whose escapes
leave a surrogate unpaired has no text: it can be skipped but not read.
-/
namespace Playfield

/-- A JSON value. -/
inductive Json where
  | null
  | bool (value : Bool)
  /-- A number written with digits alone, and a minus sign if it is below zero. -/
  | number (value : Int)
  /-- Any other number, as written. -/
  | decimal (literal : String)
  /-- A string; `none` if its escapes do not form a text. -/
  | text (value : Option String)
  | array (items : List Json)
  | object (members : List (Option String × Json))
  deriving Repr, Inhabited

namespace Json

/-- A string value. -/
def str (s : String) : Json := .text (some s)

/-- A natural number. -/
def nat (n : Nat) : Json := .number (Int.ofNat n)

/-- An object with the given members. -/
def obj (members : List (String × Json)) : Json := .object (members.map fun m => (some m.1, m.2))

/-- A value that may be absent, written as null. -/
def ofOption {α : Type} (f : α → Json) : Option α → Json
  | none => .null
  | some a => f a

/-- A list of strings. -/
def strs (l : List String) : Json := .array (l.map str)

end Json

end Playfield
