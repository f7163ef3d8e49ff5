import Playfield.Mode

/-!
# The bindings of a mode

What the history of a binding table says about its contents: a row holds the bindings of one switch,
numbers are given once, no hold is of no time, and every binding has a handler.
-/
namespace Playfield

namespace BindingRows

/-- The row of a switch, empty if there is none. -/
def row (rows : BindingRows) (switch : String) : List Binding := (rows.lookup switch).getD []

/-- All bindings, row by row. -/
def all (rows : BindingRows) : List Binding := rows.flatMap Prod.snd

theorem row_cons (name switch : String) (bs : List Binding) (rest : BindingRows) :
    row ((name, bs) :: rest) switch = if switch = name then bs else rest.row switch := by
  by_cases h : switch = name
  · simp [row, h]
  · have hne : (switch == name) = false := beq_false_of_ne h
    simp [row, List.lookup_cons, hne, h]

/-- A binding is added at the end of the row of its switch; the other rows stay. -/
theorem row_insert (b : Binding) (rows : BindingRows) (switch : String) :
    (insert b rows).row switch =
      if switch = b.switch then rows.row switch ++ [b] else rows.row switch := by
  induction rows with
  | nil => rw [insert, row_cons]; rfl
  | cons r rest ih =>
    obtain ⟨name, bs⟩ := r
    by_cases hb : name = b.switch
    · by_cases h : switch = b.switch <;> simp [insert, row_cons, hb, h]
    · by_cases hs : switch = name
      · simp [insert, row_cons, hb, hs]
      · simpa [insert, row_cons, hb, hs] using ih

theorem all_insert_perm (b : Binding) (rows : BindingRows) :
    (insert b rows).all.Perm (b :: rows.all) := by
  induction rows with
  | nil => exact .refl _
  | cons r rest ih =>
    obtain ⟨name, bs⟩ := r
    by_cases hb : name = b.switch
    · simp only [all, insert, hb, if_true, List.flatMap_cons, List.append_assoc,
        List.singleton_append]
      exact List.perm_middle
    · simp only [all, insert, hb, if_false, List.flatMap_cons]
      exact (ih.append_left bs).trans List.perm_middle

theorem mem_all_insert {b c : Binding} {rows : BindingRows} :
    c ∈ (insert b rows).all ↔ c = b ∨ c ∈ rows.all := by
  rw [(all_insert_perm b rows).mem_iff, List.mem_cons]

namespace Grown
variable {rows : BindingRows} {n : Nat}

theorem number_lt (grown : Grown rows n) {b : Binding} (hb : b ∈ rows.all) : b.number < n := by
  induction grown with
  | empty => simp [all] at hb
  | insert _ _ ih =>
    obtain rfl | hb := mem_all_insert.mp hb
    · exact Nat.lt_succ_self _
    · exact Nat.lt_succ_of_lt (ih hb)

theorem hold_ne_zero (grown : Grown rows n) {b : Binding} (hb : b ∈ rows.all) :
    b.hold ≠ some .zero := by
  induction grown with
  | empty => simp [all] at hb
  | insert _ h ih =>
    obtain rfl | hb := mem_all_insert.mp hb
    · exact h
    · exact ih hb

/-- A row holds the bindings of its switch and no others. -/
theorem mem_row (grown : Grown rows n) {b : Binding} {switch : String} :
    b ∈ rows.row switch ↔ b ∈ rows.all ∧ b.switch = switch := by
  induction grown with
  | empty => simp [row, all]
  | @insert rows c _ _ ih =>
    rw [row_insert, mem_all_insert]
    split
    · rename_i h
      rw [List.mem_append, List.mem_singleton, ih, h]
      constructor
      · rintro (⟨hb, hs⟩ | rfl)
        · exact ⟨.inr hb, hs⟩
        · exact ⟨.inl rfl, rfl⟩
      · rintro ⟨rfl | hb, hs⟩
        · exact .inr rfl
        · exact .inl ⟨hb, hs⟩
    · rename_i h
      rw [ih]
      constructor
      · exact fun ⟨hb, hs⟩ => ⟨.inr hb, hs⟩
      · rintro ⟨rfl | hb, hs⟩
        · exact absurd hs.symm h
        · exact ⟨hb, hs⟩

/-- No number is given twice. -/
theorem number_inj (grown : Grown rows n) {b c : Binding} (hb : b ∈ rows.all) (hc : c ∈ rows.all)
    (h : b.number = c.number) : b = c := by
  induction grown with
  | empty => simp [all] at hb
  | insert grown _ ih =>
    rcases mem_all_insert.mp hb with hb' | hb' <;> rcases mem_all_insert.mp hc with hc' | hc'
    · rw [hb', hc']
    · have := grown.number_lt hc'
      rw [hb'] at h
      omega
    · have := grown.number_lt hb'
      rw [hc'] at h
      omega
    · exact ih hb' hc'

/-- A row lists its bindings in order of registration. -/
theorem row_pairwise (grown : Grown rows n) (switch : String) :
    (rows.row switch).Pairwise fun b c => b.number < c.number := by
  induction grown with
  | empty => simp [row]
  | @insert rows c grown _ ih =>
    rw [row_insert]
    split
    · refine List.pairwise_append.mpr ⟨ih, List.pairwise_singleton _ _, ?_⟩
      intro b hb c' hc'
      rw [List.mem_singleton.mp hc']
      exact grown.number_lt (grown.mem_row.mp hb).1
    · exact ih

end Grown

end BindingRows

namespace Mode
variable {σ κ : Type} {m : Mode σ κ} {b c : Binding}

theorem mem_allBindings : b ∈ m.allBindings ↔ b ∈ m.table.rows.all := List.mem_mergeSort

/-- The bindings of a switch are those of all bindings that name it. -/
theorem mem_bindings {switch : String} :
    b ∈ m.bindings switch ↔ b ∈ m.allBindings ∧ b.switch = switch := by
  rw [mem_allBindings]
  exact m.table.grown.mem_row

theorem hold_ne_zero (h : b ∈ m.allBindings) : b.hold ≠ some .zero :=
  m.table.grown.hold_ne_zero (mem_allBindings.mp h)

theorem eq_of_number_eq (hb : b ∈ m.allBindings) (hc : c ∈ m.allBindings)
    (h : b.number = c.number) : b = c :=
  m.table.grown.number_inj (mem_allBindings.mp hb) (mem_allBindings.mp hc) h

theorem bindings_pairwise (m : Mode σ κ) (switch : String) :
    (m.bindings switch).Pairwise fun b c => b.number < c.number :=
  m.table.grown.row_pairwise switch

/-- Every binding has a handler. -/
theorem exists_handler (h : b ∈ m.allBindings) :
    ∃ handler, m.handlers[b.number]? = some handler := by
  have hlt := m.table.grown.number_lt (mem_allBindings.mp h)
  rw [← m.handled] at hlt
  exact ⟨_, List.getElem?_eq_getElem hlt⟩

end Mode

end Playfield
