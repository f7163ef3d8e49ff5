import Playfield.Json

/-!
# JSON tokens

The lexer is an automaton that takes one character at a time, so that it needs no look-ahead and
no bound on the length of a token. `Lexer.next` adds a character to the token under way, or
finishes that token and starts another one.

Blanks are the space, tab, line feed and carriage return. A number has no leading zeros and no
plus sign, and digits on both sides of its point. Control characters stand in strings only as
escapes.
-/
namespace Playfield.Json

/-- The units a JSON text is made of. -/
inductive Token where
  | openArray
  | closeArray
  | openObject
  | closeObject
  | comma
  | colon
  | null
  | bool (value : Bool)
  | number (value : Int)
  | decimal (literal : String)
  | text (value : Option String)
  deriving DecidableEq, Repr, Inhabited

/-- One unit of a string: a character, or the code of a four-digit escape. -/
inductive Piece where
  | char (c : Char)
  | code (n : Nat)
  deriving DecidableEq, Repr, Inhabited

/-- Put the units of a string together. Two codes from the surrogate halves, high before low, make
one character; a half that stands alone makes no text. -/
def Piece.assemble : List Piece → Option (List Char)
  | [] => some []
  | .char c :: rest => (assemble rest).map (c :: ·)
  | .code n :: rest =>
    if 0xD800 ≤ n ∧ n < 0xDC00 then
      match rest with
      | .code m :: rest =>
        if 0xDC00 ≤ m ∧ m < 0xE000 then
          (assemble rest).map (Char.ofNat (0x10000 + (n - 0xD800) * 0x400 + (m - 0xDC00)) :: ·)
        else none
      | _ => none
    else if 0xDC00 ≤ n ∧ n < 0xE000 then none
    else (assemble rest).map (Char.ofNat n :: ·)

/-- How far a number has been read. -/
inductive Digits where
  /-- After the minus sign: a digit must follow. -/
  | sign
  /-- After a leading zero: no further digit may follow. -/
  | zero
  /-- Among the digits before the point. -/
  | whole
  /-- After the point: a digit must follow. -/
  | point
  /-- Among the digits after the point. -/
  | fraction
  /-- After the exponent letter: a sign or a digit must follow. -/
  | exponent
  /-- After the exponent's sign: a digit must follow. -/
  | exponentSign
  /-- Among the digits of the exponent. -/
  | power
  deriving DecidableEq, Repr, Inhabited

/-- The next stage of a number, if the character continues it. -/
def Digits.next (d : Digits) (c : Char) : Option Digits :=
  match d with
  | .sign => if c = '0' then some .zero else if c.isDigit then some .whole else none
  | .zero => if c = '.' then some .point else if c = 'e' ∨ c = 'E' then some .exponent else none
  | .whole =>
    if c.isDigit then some .whole else if c = '.' then some .point
    else if c = 'e' ∨ c = 'E' then some .exponent else none
  | .point => if c.isDigit then some .fraction else none
  | .fraction =>
    if c.isDigit then some .fraction else if c = 'e' ∨ c = 'E' then some .exponent else none
  | .exponent =>
    if c.isDigit then some .power else if c = '+' ∨ c = '-' then some .exponentSign else none
  | .exponentSign => if c.isDigit then some .power else none
  | .power => if c.isDigit then some .power else none

/-- The value of a string of digits. -/
def magnitude (digits : List Char) : Nat :=
  digits.foldl (fun n c => n * 10 + (c.toNat - '0'.toNat)) 0

/-- The token of a number that ends here, if it may end here. A negative zero is not an integer. -/
def Digits.token (d : Digits) (literal : List Char) : Option Token :=
  match d with
  | .zero | .whole =>
    match literal with
    | '-' :: digits =>
      if magnitude digits = 0 then some (.decimal (String.ofList literal))
      else some (.number (-Int.ofNat (magnitude digits)))
    | digits => some (.number (Int.ofNat (magnitude digits)))
  | .fraction | .power => some (.decimal (String.ofList literal))
  | .sign | .point | .exponent | .exponentSign => none

/-- The token under way. Characters read so far are kept in reverse. -/
inductive Lexer where
  /-- Between tokens. -/
  | idle
  /-- In a word: the letters still to come. -/
  | word (rest : List Char) (token : Token)
  | number (stage : Digits) (read : List Char)
  | text (read : List Piece)
  /-- In a string, after a backslash. -/
  | escape (read : List Piece)
  /-- In a string, in a four-digit escape: digits still to come and the code so far. -/
  | code (left : Nat) (sum : Nat) (read : List Piece)
  deriving Repr, Inhabited

/-- The value of a hexadecimal digit. -/
def hexDigit? (c : Char) : Option Nat :=
  if c.isDigit then some (c.toNat - '0'.toNat)
  else if 'a' ≤ c ∧ c ≤ 'f' then some (c.toNat - 'a'.toNat + 10)
  else if 'A' ≤ c ∧ c ≤ 'F' then some (c.toNat - 'A'.toNat + 10)
  else none

/-- The character an escape letter stands for. -/
def escaped? (c : Char) : Option Char :=
  if c = '"' ∨ c = '\\' ∨ c = '/' then some c
  else if c = 'b' then some '\x08'
  else if c = 'f' then some '\x0c'
  else if c = 'n' then some '\n'
  else if c = 'r' then some '\r'
  else if c = 't' then some '\t'
  else none

/-- What a character outside any token does: the token it completes, if any, and the one it
starts. -/
def Lexer.start (c : Char) : Option (Option Token × Lexer) :=
  if c = ' ' ∨ c = '\t' ∨ c = '\n' ∨ c = '\r' then some (none, .idle)
  else if c = '[' then some (some .openArray, .idle)
  else if c = ']' then some (some .closeArray, .idle)
  else if c = '\x7b' then some (some .openObject, .idle)
  else if c = '\x7d' then some (some .closeObject, .idle)
  else if c = ',' then some (some .comma, .idle)
  else if c = ':' then some (some .colon, .idle)
  else if c = '"' then some (none, .text [])
  else if c = 'n' then some (none, .word ['u', 'l', 'l'] .null)
  else if c = 't' then some (none, .word ['r', 'u', 'e'] (.bool true))
  else if c = 'f' then some (none, .word ['a', 'l', 's', 'e'] (.bool false))
  else if c = '-' then some (none, .number .sign ['-'])
  else (Digits.sign.next c).map fun stage => (none, .number stage [c])

/-- Take one character: the tokens it completes, and the token under way after it. -/
def Lexer.next (l : Lexer) (c : Char) : Option (List Token × Lexer) :=
  match l with
  | .idle => (start c).map fun (t, l) => (t.toList, l)
  | .word [] _ => none
  | .word [d] token => if c = d then some ([token], .idle) else none
  | .word (d :: rest) token => if c = d then some ([], .word rest token) else none
  | .number stage read =>
    match stage.next c with
    | some stage => some ([], .number stage (c :: read))
    | none => do
      let token ← stage.token read.reverse
      let (t, l) ← start c
      some (token :: t.toList, l)
  | .text read =>
    if c = '"' then
      some ([.text ((Piece.assemble read.reverse).map String.ofList)], .idle)
    else if c = '\\' then some ([], .escape read)
    else if c.toNat < 0x20 then none
    else some ([], .text (.char c :: read))
  | .escape read =>
    if c = 'u' then some ([], .code 4 0 read)
    else (escaped? c).map fun d => ([], .text (.char d :: read))
  | .code left sum read => do
    let digit ← hexDigit? c
    let sum := sum * 16 + digit
    if left ≤ 1 then some ([], .text (.code sum :: read)) else some ([], .code (left - 1) sum read)

/-- The tokens completed by the end of the text. -/
def Lexer.finish (l : Lexer) : Option (List Token) :=
  match l with
  | .idle => some []
  | .number stage read => (stage.token read.reverse).map fun t => [t]
  | _ => none

end Playfield.Json
