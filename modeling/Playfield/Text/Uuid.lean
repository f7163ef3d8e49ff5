import Playfield.Json.Token

/-!
# Universal identifiers

An identifier of 128 bits is written with 32 hexadecimal digits, in five groups with hyphens between
them. It may also be written without hyphens, or with hyphens in braces or after `urn:uuid:` in
letters of either case. The canonical text has lower-case digits and hyphens.
-/
namespace Playfield.Text

/-- An identifier by its value. -/
structure Uuid where
  value : Nat
  deriving DecidableEq, Repr, Inhabited

namespace Uuid

/-- The value of a string of hexadecimal digits. -/
def hexValue? (cs : List Char) : Option Nat :=
  cs.foldlM (fun n c => (Json.hexDigit? c).map fun d => n * 16 + d) 0

/-- The sizes of the groups. -/
def groups : List Nat := [8, 4, 4, 4, 12]

/-- Take the hyphens between groups out; every group must have its size. -/
def ungroup? : List Nat → List Char → Option (List Char)
  | [], [] => some []
  | [size], cs => if cs.length = size then some cs else none
  | size :: more, cs =>
    match cs.drop size with
    | '-' :: rest => (ungroup? more rest).map (cs.take size ++ ·)
    | _ => none
  | [], _ => none

/-- The digits of a text in one of the accepted forms. -/
def digits? (s : String) : Option (List Char) :=
  let cs := s.toList
  if cs.length = 32 then some cs
  else if cs.length = 36 then ungroup? groups cs
  else if cs.length = 38 ∧ cs.head? = some '\x7b' ∧ cs.getLast? = some '\x7d' then
    ungroup? groups (cs.drop 1).dropLast
  else if cs.length = 45 ∧ (cs.take 9).map Char.toLower = "urn:uuid:".toList then
    ungroup? groups (cs.drop 9)
  else none

/-- The identifier a text stands for. -/
def parse? (s : String) : Option Uuid := ((digits? s).bind hexValue?).map Uuid.mk

/-- A number with the given count of hexadecimal digits. -/
def hexDigits : Nat → Nat → List Char
  | 0, _ => []
  | count + 1, n => hexDigits count (n / 16) ++ [Nat.digitChar (n % 16)]

/-- Put hyphens between the groups of digits. -/
def regroup : List Nat → List Char → List Char
  | [], _ => []
  | [size], cs => cs.take size
  | size :: more, cs => cs.take size ++ '-' :: regroup more (cs.drop size)

/-- The canonical text. -/
def text (u : Uuid) : String := String.ofList (regroup groups (hexDigits 32 u.value))

end Uuid

end Playfield.Text
