import Playfield.Proofs.Json.Scanning

/-!
# Reading what was written: values

The text of a value leads the reader to where the value is placed, wherever it stands (`Reads`). So
a value is read back from its text (`Json.parse_print`), unless a number in it is kept as written:
what stands there need not be a number.
-/
namespace Playfield.Json

/-- Every number in the value is a plain integer. -/
inductive Plain : Json → Prop where
  | null : Plain .null
  | bool (b : Bool) : Plain (.bool b)
  | number (n : Int) : Plain (.number n)
  | text (s : Option String) : Plain (.text s)
  | array {items : List Json} (plain : ∀ v ∈ items, Plain v) : Plain (.array items)
  | object {members : List (Option String × Json)} (plain : ∀ m ∈ members, Plain m.2) :
    Plain (.object members)

/-- Wherever a value may stand, its characters are read as the value. -/
def Reads (v : Json) : Prop :=
  ∀ (fresh : Bool) {outer : List Open} {r : Reader} {rest : List Char},
    Reader.place v outer = some r → Ends rest →
    Scanner.read ⟨.idle, .value fresh outer⟩ (chars v rest) = Scanner.read ⟨.idle, r⟩ rest

/-- A word is read letter by letter. -/
theorem read_word (ds : List Char) {d : Char} {t : Token} {reader reader' : Reader}
    (taken : reader.next t = some reader') (rest : List Char) :
    Scanner.read ⟨.word (ds ++ [d]) t, reader⟩ (ds ++ d :: rest) =
      Scanner.read ⟨.idle, reader'⟩ rest := by
  induction ds with
  | nil => exact read_token (by simp [Lexer.next]) taken rest
  | cons c more ih =>
    have hletter :
        Lexer.next (.word (c :: more ++ [d]) t) c = some ([], .word (more ++ [d]) t) := by
      cases more <;> simp [Lexer.next]
    exact (read_quiet hletter _).trans ih

theorem reads_null : Reads .null := by
  intro fresh outer r rest placed _
  have taken : Reader.next (.value fresh outer) .null = some r := placed
  calc Scanner.read ⟨.idle, .value fresh outer⟩ ('n' :: 'u' :: 'l' :: 'l' :: rest)
    _ = Scanner.read ⟨.word ['u', 'l', 'l'] .null, .value fresh outer⟩
          ('u' :: 'l' :: 'l' :: rest) := read_quiet rfl _
    _ = Scanner.read ⟨.idle, r⟩ rest := read_word ['u', 'l'] taken rest

theorem reads_bool (b : Bool) : Reads (.bool b) := by
  intro fresh outer r rest placed _
  have taken : Reader.next (.value fresh outer) (.bool b) = some r := placed
  cases b with
  | true =>
    calc Scanner.read ⟨.idle, .value fresh outer⟩ ('t' :: 'r' :: 'u' :: 'e' :: rest)
      _ = Scanner.read ⟨.word ['r', 'u', 'e'] (.bool true), .value fresh outer⟩
            ('r' :: 'u' :: 'e' :: rest) := read_quiet rfl _
      _ = Scanner.read ⟨.idle, r⟩ rest := read_word ['r', 'u'] taken rest
  | false =>
    calc Scanner.read ⟨.idle, .value fresh outer⟩ ('f' :: 'a' :: 'l' :: 's' :: 'e' :: rest)
      _ = Scanner.read ⟨.word ['a', 'l', 's', 'e'] (.bool false), .value fresh outer⟩
            ('a' :: 'l' :: 's' :: 'e' :: rest) := read_quiet rfl _
      _ = Scanner.read ⟨.idle, r⟩ rest := read_word ['a', 'l', 's'] taken rest

theorem reads_number (n : Int) : Reads (.number n) := by
  intro fresh outer r rest placed ends
  have taken : Reader.next (.value fresh outer) (.number n) = some r := placed
  exact read_number taken ends

theorem reads_text (s : Option String) : Reads (.text s) := by
  intro fresh outer r rest placed _
  have taken : Reader.next (.value fresh outer) (.text s) = some r := placed
  exact read_quote taken rest

/-! ### Arrays and objects -/

section Outer
variable {outer : List Open} {r : Reader} {rest : List Char}

/-- The items to come of an array some of whose items have been read. -/
theorem read_items {v : Json} {more : List Json} (each : ∀ w ∈ v :: more, Reads w) (fresh : Bool)
    {before : List Json}
    (placed : Reader.place (.array (before.reverse ++ v :: more)) outer = some r) :
    Scanner.read ⟨.idle, .value fresh (.array before :: outer)⟩
        (itemChars (v :: more) (']' :: rest)) =
      Scanner.read ⟨.idle, r⟩ rest := by
  induction more generalizing v before fresh with
  | nil =>
    have hplaced : Reader.next (.separator (.array (v :: before) :: outer)) .closeArray =
        some r := by
      rw [← placed, ← List.reverse_cons]
      rfl
    refine (each v List.mem_cons_self fresh rfl (ends_cons (by decide) rest)).trans ?_
    exact read_token rfl hplaced rest
  | cons w more ih =>
    obtain ⟨hv, hmore⟩ := List.forall_mem_cons.mp each
    refine (hv fresh rfl (ends_cons (by decide) _)).trans ?_
    refine (read_token (t := .comma) rfl rfl _).trans ?_
    refine ih hmore false ?_
    rw [List.reverse_cons, List.append_assoc]
    exact placed

/-- The members to come of an object some of whose members have been read. -/
theorem read_members {m : Option String × Json} {more : List (Option String × Json)}
    (each : ∀ p ∈ m :: more, Reads p.2) (fresh : Bool) {before : List (Option String × Json)}
    (placed : Reader.place (.object (before.reverse ++ m :: more)) outer = some r) :
    Scanner.read ⟨.idle, .name fresh (.object before :: outer)⟩
        (memberChars (m :: more) ('\x7d' :: rest)) =
      Scanner.read ⟨.idle, r⟩ rest := by
  induction more generalizing m before fresh with
  | nil =>
    have hplaced : Reader.next (.separator (.object (m :: before) :: outer)) .closeObject =
        some r := by
      rw [← placed, ← List.reverse_cons]
      rfl
    obtain ⟨name, v⟩ := m
    have hv : Reads v := each (name, v) List.mem_cons_self
    refine (read_quote rfl _).trans ?_
    refine (read_token (t := .colon) rfl rfl _).trans ?_
    refine (hv false rfl (ends_cons (by decide) rest)).trans ?_
    exact read_token rfl hplaced rest
  | cons next more ih =>
    obtain ⟨hv, hmore⟩ := List.forall_mem_cons.mp each
    obtain ⟨name, v⟩ := m
    refine (read_quote rfl _).trans ?_
    refine (read_token (t := .colon) rfl rfl _).trans ?_
    refine (hv false rfl (ends_cons (by decide) _)).trans ?_
    refine (read_token (t := .comma) rfl rfl _).trans ?_
    refine ih hmore false ?_
    rw [List.reverse_cons, List.append_assoc]
    exact placed

end Outer

theorem reads_array {items : List Json} (each : ∀ v ∈ items, Reads v) : Reads (.array items) := by
  intro fresh outer r rest placed _
  calc Scanner.read ⟨.idle, .value fresh outer⟩ ('[' :: itemChars items (']' :: rest))
    _ = Scanner.read ⟨.idle, .value true (.array [] :: outer)⟩ (itemChars items (']' :: rest)) :=
      read_token rfl rfl _
    _ = Scanner.read ⟨.idle, r⟩ rest := by
      cases items with
      | nil =>
        have closes : Reader.next (.value true (.array [] :: outer)) .closeArray = some r := placed
        exact read_token rfl closes rest
      | cons v more => exact read_items each true placed

theorem reads_object {members : List (Option String × Json)}
    (each : ∀ m ∈ members, Reads m.2) : Reads (.object members) := by
  intro fresh outer r rest placed _
  calc Scanner.read ⟨.idle, .value fresh outer⟩ ('\x7b' :: memberChars members ('\x7d' :: rest))
    _ = Scanner.read ⟨.idle, .name true (.object [] :: outer)⟩
          (memberChars members ('\x7d' :: rest)) := read_token rfl rfl _
    _ = Scanner.read ⟨.idle, r⟩ rest := by
      cases members with
      | nil =>
        have closes : Reader.next (.name true (.object [] :: outer)) .closeObject = some r := placed
        exact read_token rfl closes rest
      | cons m more => exact read_members each true placed

/-- The characters of a plain value are read as the value. -/
theorem Plain.reads {v : Json} (h : v.Plain) : Reads v := by
  induction h with
  | null => exact reads_null
  | bool b => exact reads_bool b
  | number n => exact reads_number n
  | text s => exact reads_text s
  | array _ each => exact reads_array each
  | object _ each => exact reads_object each

/-- A plain value is read back from its text. -/
theorem parse_print {v : Json} (h : v.Plain) : parse v.print = some v := by
  have placed : Reader.place v [] = some (.done v) := rfl
  have hread := h.reads false placed (.inl rfl)
  rw [print, parse, String.toList_ofList]
  exact hread

end Playfield.Json
