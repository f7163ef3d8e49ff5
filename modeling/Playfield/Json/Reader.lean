import Playfield.Json.Token

/-!
# Reading JSON

The reader takes tokens one at a time and keeps the arrays and objects it is inside of on a list,
innermost first, so nesting may be of any depth. `Json.parse` runs a text through the lexer and the
tokens through the reader. Trailing text and trailing commas are refused.
-/
namespace Playfield.Json

/-- An array or object that is not closed yet. What it holds so far is kept in reverse. -/
inductive Open where
  | array (items : List Json)
  | object (members : List (Option String × Json))
  /-- An object whose next value has this name. -/
  | member (name : Option String) (members : List (Option String × Json))
  deriving Repr, Inhabited

/-- What may come next. -/
inductive Reader where
  /-- A value. `fresh` just after an opening bracket: the array may also close. -/
  | value (fresh : Bool) (outer : List Open)
  /-- A member's name. `fresh` just after an opening brace: the object may also close. -/
  | name (fresh : Bool) (outer : List Open)
  /-- The colon after a member's name. -/
  | colon (outer : List Open)
  /-- A comma or a closing bracket. -/
  | separator (outer : List Open)
  /-- Nothing: the text's value is complete. -/
  | done (value : Json)
  deriving Repr, Inhabited

namespace Reader

/-- Put a complete value where it belongs. -/
def place (v : Json) : List Open → Option Reader
  | [] => some (.done v)
  | .array items :: outer => some (.separator (.array (v :: items) :: outer))
  | .member key members :: outer => some (.separator (.object ((key, v) :: members) :: outer))
  | .object _ :: _ => none

/-- Close the innermost array. -/
def closeArray : List Open → Option Reader
  | .array items :: outer => place (.array items.reverse) outer
  | _ => none

/-- Close the innermost object. -/
def closeObject : List Open → Option Reader
  | .object members :: outer => place (.object members.reverse) outer
  | _ => none

/-- Take one token. -/
def next (r : Reader) (t : Token) : Option Reader :=
  match r with
  | .value fresh outer =>
    match t with
    | .null => place .null outer
    | .bool b => place (.bool b) outer
    | .number n => place (.number n) outer
    | .decimal s => place (.decimal s) outer
    | .text s => place (.text s) outer
    | .openArray => some (.value true (.array [] :: outer))
    | .openObject => some (.name true (.object [] :: outer))
    | .closeArray => if fresh then closeArray outer else none
    | _ => none
  | .name fresh outer =>
    match t, outer with
    | .text s, .object members :: outer => some (.colon (.member s members :: outer))
    | .closeObject, outer => if fresh then closeObject outer else none
    | _, _ => none
  | .colon outer =>
    match t with
    | .colon => some (.value false outer)
    | _ => none
  | .separator outer =>
    match t, outer with
    | .comma, .array items :: outer => some (.value false (.array items :: outer))
    | .comma, .object members :: outer => some (.name false (.object members :: outer))
    | .closeArray, outer => closeArray outer
    | .closeObject, outer => closeObject outer
    | _, _ => none
  | .done _ => none

end Reader

/-- The lexer and the reader side by side. -/
structure Scanner where
  lexer : Lexer := .idle
  reader : Reader := .value false []
  deriving Repr, Inhabited

namespace Scanner

/-- Take one character. -/
def next (s : Scanner) (c : Char) : Option Scanner := do
  let (tokens, lexer) ← s.lexer.next c
  let reader ← tokens.foldlM Reader.next s.reader
  some ⟨lexer, reader⟩

/-- The value of the whole text, if the text ends here. -/
def finish (s : Scanner) : Option Json := do
  match ← (← s.lexer.finish).foldlM Reader.next s.reader with
  | .done v => some v
  | _ => none

end Scanner

/-- The value a text holds, if it is one well-formed JSON value with blanks around it. -/
def parse (text : String) : Option Json :=
  (text.toList.foldlM Scanner.next {}).bind Scanner.finish

end Playfield.Json
