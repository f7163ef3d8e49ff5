import Mathlib.Tactic.IntervalCases
import Playfield.Json.Printer
import Playfield.Json.Reader

/-!
# Reading what was written: strings and numbers

What the scanner makes of the characters of a string or a number. The characters of a string lead to
its token wherever they stand. A number goes on as long as there are digits, so its token is
complete only at the end of the text or at the comma or bracket that follows (`Ends`).
-/
namespace Playfield.Json

/-- What becomes of the characters to come. -/
def Scanner.read (s : Scanner) (cs : List Char) : Option Json :=
  (cs.foldlM Scanner.next s).bind Scanner.finish

section Steps
variable {l l' : Lexer} {reader reader' : Reader} {c : Char} {t : Token}

/-- A character that completes no token. -/
theorem read_quiet (h : l.next c = some ([], l')) (cs : List Char) :
    Scanner.read ⟨l, reader⟩ (c :: cs) = Scanner.read ⟨l', reader⟩ cs := by
  simp [Scanner.read, Scanner.next, h]

/-- A character that completes a token. -/
theorem read_token (h : l.next c = some ([t], l')) (taken : reader.next t = some reader')
    (cs : List Char) :
    Scanner.read ⟨l, reader⟩ (c :: cs) = Scanner.read ⟨l', reader'⟩ cs := by
  simp [Scanner.read, Scanner.next, h, taken]

end Steps

/-! ### Strings -/

theorem hexDigit?_hexChar : ∀ n < 16, hexDigit? (hexChar n) = some n := by decide

/-- The characters that are escaped by a letter or by themselves. -/
def shortEscaped : List Char := ['"', '\\', '\x08', '\x0c', '\n', '\r', '\t']

/-- What a written character is read as. -/
def pieceOf (c : Char) : Piece :=
  if c ∉ shortEscaped ∧ c.toNat < 0x20 then .code c.toNat else .char c

/-- A code below the surrogates stands for its character. -/
theorem assemble_code {n : Nat} (h : n < 0xD800) (rest : List Piece) :
    Piece.assemble (.code n :: rest) = (Piece.assemble rest).map (Char.ofNat n :: ·) := by
  have hhigh : ¬ (0xD800 ≤ n ∧ n < 0xDC00) := by omega
  have hlow : ¬ (0xDC00 ≤ n ∧ n < 0xE000) := by omega
  rw [Piece.assemble.eq_def]
  simp only [hhigh, hlow, if_false]

theorem assemble_pieces (cs : List Char) : Piece.assemble (cs.map pieceOf) = some cs := by
  induction cs with
  | nil => rfl
  | cons c rest ih =>
    rw [List.map_cons, pieceOf]
    split
    · rw [assemble_code (by omega), ih, Char.ofNat_toNat]
      rfl
    · rw [Piece.assemble, ih]
      rfl

section Strings
variable {reader reader' : Reader}

/-- In a string a written character is read as its piece. -/
theorem read_escapeChar (c : Char) (pieces : List Piece) (rest : List Char) :
    Scanner.read ⟨.text pieces, reader⟩ (escapeChar c ++ rest) =
      Scanner.read ⟨.text (pieceOf c :: pieces), reader⟩ rest := by
  by_cases hshort : c ∈ shortEscaped
  · have short (d : Char)
        (escaped : Lexer.next (.escape pieces) d = some ([], .text (pieceOf c :: pieces))) :
        Scanner.read ⟨.text pieces, reader⟩ ('\\' :: d :: rest) =
          Scanner.read ⟨.text (pieceOf c :: pieces), reader⟩ rest :=
      calc Scanner.read ⟨.text pieces, reader⟩ ('\\' :: d :: rest)
        _ = Scanner.read ⟨.escape pieces, reader⟩ (d :: rest) := read_quiet rfl _
        _ = Scanner.read ⟨.text (pieceOf c :: pieces), reader⟩ rest := read_quiet escaped _
    simp only [shortEscaped, List.mem_cons, List.not_mem_nil, or_false] at hshort
    rcases hshort with rfl | rfl | rfl | rfl | rfl | rfl | rfl <;> exact short _ rfl
  · have hne := hshort
    simp only [shortEscaped, List.mem_cons, List.not_mem_nil, or_false, not_or] at hne
    simp only [escapeChar, hne, if_false]
    split
    · rename_i hlow
      have hfirst := hexDigit?_hexChar (c.toNat / 16) (by omega)
      have hsecond := hexDigit?_hexChar (c.toNat % 16) (by omega)
      have hsum : c.toNat / 16 * 16 + c.toNat % 16 = c.toNat := by omega
      have hpiece : pieceOf c = .code c.toNat := if_pos ⟨hshort, hlow⟩
      calc Scanner.read ⟨.text pieces, reader⟩ _
        _ = Scanner.read ⟨.code 2 0 pieces, reader⟩
              (hexChar (c.toNat / 16) :: hexChar (c.toNat % 16) :: rest) := by rfl
        _ = Scanner.read ⟨.code 1 (c.toNat / 16) pieces, reader⟩
              (hexChar (c.toNat % 16) :: rest) := by
          refine read_quiet ?_ _
          simp [Lexer.next, hfirst]
        _ = Scanner.read ⟨.text (pieceOf c :: pieces), reader⟩ rest := by
          refine read_quiet ?_ _
          simp [Lexer.next, hsecond, hsum, hpiece]
    · rename_i hhigh
      have hpiece : pieceOf c = .char c := if_neg fun h => hhigh h.2
      refine read_quiet ?_ _
      simp only [Lexer.next, hne, hhigh, hpiece, if_false]

theorem read_escaped (cs : List Char) (pieces : List Piece) (rest : List Char) :
    Scanner.read ⟨.text pieces, reader⟩ (cs.flatMap escapeChar ++ rest) =
      Scanner.read ⟨.text ((cs.map pieceOf).reverse ++ pieces), reader⟩ rest := by
  induction cs generalizing pieces with
  | nil => rfl
  | cons c more ih =>
    rw [List.flatMap_cons, List.append_assoc, read_escapeChar, ih, List.map_cons,
      List.reverse_cons, List.append_assoc]
    rfl

/-- A written string is read as its token. -/
theorem read_quote {name : Option String} (taken : reader.next (.text name) = some reader')
    (rest : List Char) :
    Scanner.read ⟨.idle, reader⟩ (quote name ++ rest) = Scanner.read ⟨.idle, reader'⟩ rest := by
  cases name with
  | none =>
    calc Scanner.read ⟨.idle, reader⟩ (quote none ++ rest)
      _ = Scanner.read ⟨.text [.code 0xD800], reader⟩ ('"' :: rest) := by rfl
      _ = Scanner.read ⟨.idle, reader'⟩ rest := read_token rfl taken rest
  | some s =>
    calc Scanner.read ⟨.idle, reader⟩ (quote (some s) ++ rest)
      _ = Scanner.read ⟨.text [], reader⟩ (s.toList.flatMap escapeChar ++ '"' :: rest) := by
        simp only [quote, List.cons_append, List.append_assoc, List.nil_append]
        exact read_quiet rfl _
      _ = Scanner.read ⟨.text (s.toList.map pieceOf).reverse, reader⟩ ('"' :: rest) := by
        rw [read_escaped, List.append_nil]
      _ = Scanner.read ⟨.idle, reader'⟩ rest := by
        refine read_token ?_ taken rest
        simp only [Lexer.next, if_true, List.reverse_reverse, assemble_pieces, Option.map_some,
          String.ofList_toList]

end Strings

/-! ### Numbers -/

/-- A value may end here: nothing follows, or a comma or closing bracket does. -/
def Ends (rest : List Char) : Prop :=
  rest = [] ∨ ∃ c cs, rest = c :: cs ∧ c ∈ [',', ']', '\x7d']

theorem ends_cons {c : Char} (h : c ∈ [',', ']', '\x7d']) (cs : List Char) : Ends (c :: cs) :=
  .inr ⟨c, cs, rfl, h⟩

theorem magnitude_toDigits (n : Nat) : magnitude (Nat.toDigits 10 n) = n := by
  have hfold : magnitude (Nat.toDigits 10 n) = Nat.ofDigitChars 10 (Nat.toDigits 10 n) 0 := by
    simp only [magnitude, Nat.ofDigitChars_eq_foldl, Nat.mul_comm 10]
  rw [hfold, Nat.ofDigitChars_ten_toDigits]

/-- A number above zero is written with a first digit above zero. -/
theorem exists_toDigits {n : Nat} (h : 0 < n) : ∃ k ds, 0 < k ∧ k < 10 ∧
    Nat.toDigits 10 n = k.digitChar :: ds ∧ ∀ c ∈ ds, c.isDigit = true := by
  have hhead : ∃ k ds, 0 < k ∧ k < 10 ∧ Nat.toDigits 10 n = k.digitChar :: ds := by
    induction n using Nat.strongRecOn with
    | ind n ih =>
      rw [Nat.toDigits_eq_if (by decide)]
      split
      · exact ⟨n, [], h, by omega, rfl⟩
      · obtain ⟨k, ds, hpos, hlt, hds⟩ := ih (n / 10) (by omega) (by omega)
        exact ⟨k, ds ++ [(n % 10).digitChar], hpos, hlt, by rw [hds, List.cons_append]⟩
  obtain ⟨k, ds, hpos, hlt, hds⟩ := hhead
  refine ⟨k, ds, hpos, hlt, hds, fun c hc => ?_⟩
  refine Nat.isDigit_of_mem_toDigits (b := 10) (n := n) (by decide) (by decide) ?_
  rw [hds]
  exact List.mem_cons_of_mem _ hc

section Numbers
variable {reader reader' : Reader}

theorem read_digits {ds : List Char} (digits : ∀ c ∈ ds, c.isDigit = true) (read : List Char)
    (rest : List Char) :
    Scanner.read ⟨.number .whole read, reader⟩ (ds ++ rest) =
      Scanner.read ⟨.number .whole (ds.reverse ++ read), reader⟩ rest := by
  induction ds generalizing read with
  | nil => rfl
  | cons c more ih =>
    obtain ⟨hc, hmore⟩ := List.forall_mem_cons.mp digits
    have hdigit : Lexer.next (.number .whole read) c = some ([], .number .whole (c :: read)) := by
      simp only [Lexer.next, Digits.next, hc, if_true]
    rw [List.cons_append, read_quiet hdigit, ih hmore, List.reverse_cons, List.append_assoc]
    rfl

/-- Where a value may end a number is complete. -/
theorem read_ended {stage : Digits} (whole : stage = .zero ∨ stage = .whole) {read : List Char}
    {t : Token} (token : stage.token read.reverse = some t) (taken : reader.next t = some reader')
    {rest : List Char} (ends : Ends rest) :
    Scanner.read ⟨.number stage read, reader⟩ rest = Scanner.read ⟨.idle, reader'⟩ rest := by
  rcases ends with rfl | ⟨c, cs, rfl, hc⟩
  · simp [Scanner.read, Scanner.finish, Lexer.finish, token, taken]
  · have hover : stage.next c = none := by
      simp only [List.mem_cons, List.not_mem_nil, or_false] at hc
      rcases whole with rfl | rfl <;> rcases hc with rfl | rfl | rfl <;> rfl
    obtain ⟨mark, hmark⟩ : ∃ mark, Lexer.start c = some (some mark, .idle) := by
      simp only [List.mem_cons, List.not_mem_nil, or_false] at hc
      rcases hc with rfl | rfl | rfl <;> exact ⟨_, rfl⟩
    simp [Scanner.read, Scanner.next, Lexer.next, hover, token, hmark, taken]

/-- The digits of a number, read from a state on in which the first of them is due. -/
theorem read_positive {n : Nat} (h : 0 < n) {l : Lexer} (sign : List Char)
    (first : ∀ k, 0 < k → k < 10 →
      l.next k.digitChar = some ([], .number .whole (k.digitChar :: sign)))
    {t : Token} (token : Digits.whole.token (sign.reverse ++ Nat.toDigits 10 n) = some t)
    (taken : reader.next t = some reader') {rest : List Char} (ends : Ends rest) :
    Scanner.read ⟨l, reader⟩ (Nat.toDigits 10 n ++ rest) = Scanner.read ⟨.idle, reader'⟩ rest := by
  obtain ⟨k, ds, hpos, hlt, hdigits, hall⟩ := exists_toDigits h
  rw [hdigits] at token ⊢
  rw [List.cons_append, read_quiet (first k hpos hlt), read_digits hall]
  refine read_ended (.inr rfl) ?_ taken ends
  rw [List.reverse_append, List.reverse_cons, List.reverse_reverse, List.append_assoc]
  exact token

/-- The digits of a number without a sign are its token. -/
theorem token_toDigits {n : Nat} (h : 0 < n) :
    Digits.whole.token (Nat.toDigits 10 n) = some (.number (Int.ofNat n)) := by
  have hvalue := magnitude_toDigits n
  obtain ⟨k, ds, hpos, hlt, hdigits, -⟩ := exists_toDigits h
  have hsign : k.digitChar ≠ '-' := by
    interval_cases k <;> decide
  rw [hdigits] at hvalue ⊢
  simp only [Digits.token]
  split
  · rename_i heq
    exact absurd (List.cons.inj heq).1 hsign
  · rw [hvalue]

/-- A written number is read as its token. -/
theorem read_number {n : Int} (taken : reader.next (.number n) = some reader')
    {rest : List Char} (ends : Ends rest) :
    Scanner.read ⟨.idle, reader⟩ ((toString n).toList ++ rest) =
      Scanner.read ⟨.idle, reader'⟩ rest := by
  rw [Int.toString_eq_repr, Int.repr_eq_if]
  rcases Int.lt_trichotomy n 0 with hneg | rfl | hpos
  · have hvalue : -Int.ofNat (-n).toNat = n := by
      rw [Int.ofNat_eq_natCast, Int.toNat_of_nonneg (by omega), Int.neg_neg]
    have hpos : 0 < (-n).toNat := by omega
    have hnonzero : (-n).toNat ≠ 0 := Nat.ne_of_gt hpos
    rw [if_neg (by omega), String.toList_append, Nat.toList_repr, List.append_assoc]
    calc Scanner.read ⟨.idle, reader⟩ ('-' :: (Nat.toDigits 10 (-n).toNat ++ rest))
      _ = Scanner.read ⟨.number .sign ['-'], reader⟩ (Nat.toDigits 10 (-n).toNat ++ rest) :=
        read_quiet rfl _
      _ = Scanner.read ⟨.idle, reader'⟩ rest := by
        refine read_positive hpos ['-'] (fun k hk hlt => ?_) ?_ taken ends
        · interval_cases k <;> rfl
        · simp only [List.reverse_singleton, List.singleton_append, Digits.token,
            magnitude_toDigits, hnonzero, if_false, hvalue]
  · calc Scanner.read ⟨.idle, reader⟩ ('0' :: rest)
      _ = Scanner.read ⟨.number .zero ['0'], reader⟩ rest := read_quiet rfl rest
      _ = Scanner.read ⟨.idle, reader'⟩ rest := read_ended (.inl rfl) rfl taken ends
  · have hvalue : Int.ofNat n.toNat = n := Int.toNat_of_nonneg (by omega)
    have hpos : 0 < n.toNat := by omega
    rw [if_pos (by omega), Nat.toList_repr]
    refine read_positive hpos [] (fun k hk hlt => ?_) ?_ taken ends
    · interval_cases k <;> rfl
    · rw [List.reverse_nil, List.nil_append, token_toDigits hpos, hvalue]

end Numbers

end Playfield.Json
