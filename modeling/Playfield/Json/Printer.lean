import Playfield.Json

/-!
# Writing JSON

The printer writes a value without blanks. In strings the quote, the backslash and control
characters are escaped and everything else stands as it is.
-/
namespace Playfield.Json

/-- A hexadecimal digit. -/
def hexChar (n : Nat) : Char :=
  if n < 10 then Char.ofNat ('0'.toNat + n) else Char.ofNat ('a'.toNat + (n - 10))

/-- A character as it stands in a string. -/
def escapeChar (c : Char) : List Char :=
  if c = '"' then ['\\', '"']
  else if c = '\\' then ['\\', '\\']
  else if c = '\x08' then ['\\', 'b']
  else if c = '\x0c' then ['\\', 'f']
  else if c = '\n' then ['\\', 'n']
  else if c = '\r' then ['\\', 'r']
  else if c = '\t' then ['\\', 't']
  else if c.toNat < 0x20 then
    ['\\', 'u', '0', '0', hexChar (c.toNat / 16), hexChar (c.toNat % 16)]
  else [c]

/-- A string in quotes. A string without a text is written as a lone surrogate escape. -/
def quote : Option String → List Char
  | some s => '"' :: s.toList.flatMap escapeChar ++ ['"']
  | none => ['"', '\\', 'u', 'd', '8', '0', '0', '"']

mutual

/-- The characters of a value, in front of what follows. -/
def chars : Json → List Char → List Char
  | .null, rest => "null".toList ++ rest
  | .bool true, rest => "true".toList ++ rest
  | .bool false, rest => "false".toList ++ rest
  | .number n, rest => (toString n).toList ++ rest
  | .decimal s, rest => s.toList ++ rest
  | .text s, rest => quote s ++ rest
  | .array items, rest => '[' :: itemChars items (']' :: rest)
  | .object members, rest => '\x7b' :: memberChars members ('\x7d' :: rest)

/-- The items of an array, separated by commas. -/
def itemChars : List Json → List Char → List Char
  | [], rest => rest
  | [v], rest => chars v rest
  | v :: w :: more, rest => chars v (',' :: itemChars (w :: more) rest)

/-- The members of an object, separated by commas. -/
def memberChars : List (Option String × Json) → List Char → List Char
  | [], rest => rest
  | [(name, v)], rest => quote name ++ ':' :: chars v rest
  | (name, v) :: m :: more, rest =>
    quote name ++ ':' :: chars v (',' :: memberChars (m :: more) rest)

end

/-- The text of a value. -/
def print (v : Json) : String := String.ofList (chars v [])

end Playfield.Json
