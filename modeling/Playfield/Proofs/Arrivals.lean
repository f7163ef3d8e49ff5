import Playfield.Proofs.Lives
import Playfield.Proofs.Resetting

/-!
# The order of arrivals

The stack keeps its modes in dispatch order by putting each one in its place as it comes. A roll of
the live modes that knows nothing of priorities is kept beside it: who comes is written at the end
under the next number, and who leaves is struck out. Whatever is done with a stack, its line-up is
the roll sorted by priority, where modes of one priority stay in the order of the roll, and no
number is given twice (`ModeStack.dispatch_order_stable`).
-/
namespace Playfield

namespace ModeStack
variable {σ κ : Type}

/-- One thing done with a stack. -/
inductive Change (σ κ : Type) where
  | add (m : Mode σ κ)
  | remove (id : ModeId)
  | clear
  | dispatch (switch : Switch)
  | tick

/-- The stack after one thing is done with it in a scene, however that ends. -/
def Change.on (s : ModeStack σ κ) (scene : Scene κ) : Change σ κ → ModeStack σ κ
  | .add m => (ModeStack.add m (s, scene)).2.1
  | .remove id => (ModeStack.remove id (s, scene)).2.1
  | .clear => (ModeStack.clear (s, scene)).2.1
  | .dispatch switch => (ModeStack.dispatch (ε := Fault) switch (s, scene)).2.1
  | .tick => (ModeStack.tick (ε := Fault) (s, scene)).2.1

/-- The stack after things are done with it in turn, each in a scene of its own. -/
def changed (s : ModeStack σ κ) (changes : List (Change σ κ × Scene κ)) : ModeStack σ κ :=
  changes.foldl (fun s change => change.1.on s change.2) s

/-- The live modes with their numbers, in the order in which they came. -/
structure Roll (σ κ : Type) where
  live : List (Nat × ModeParts σ κ) := []
  /-- The number of the next one. -/
  next : Nat := 0

namespace Roll

/-- Keep the roll. A mode that is there already does not come again. -/
def note (r : Roll σ κ) : Change σ κ → Roll σ κ
  | .add m =>
    if ∃ entry ∈ r.live, entry.2.id = m.id then r
    else ⟨r.live ++ [(r.next, m.fixed)], r.next + 1⟩
  | .remove id => { r with live := r.live.filter fun entry => entry.2.id ≠ id }
  | .clear => { r with live := [] }
  | .dispatch _ => r
  | .tick => r

/-- The roll at the end of a history that begins with nobody there. -/
def of (changes : List (Change σ κ × Scene κ)) : Roll σ κ :=
  changes.foldl (fun r change => r.note change.1) {}

/-- The roll in order of priority, and in its own order where priorities are equal. -/
def sorted (r : Roll σ κ) : List (Nat × ModeParts σ κ) :=
  r.live.mergeSort fun a b => b.2.priority ≤ a.2.priority

end Roll

/-! ### Line-ups -/

theorem idsOf_eq_map (slots : List (Slot σ κ)) :
    idsOf slots = (lineup slots).map fun entry => entry.2.id := by
  rw [idsOf, lineup, List.map_map]
  rfl

theorem mem_idsOf_iff {slots : List (Slot σ κ)} {id : ModeId} :
    id ∈ idsOf slots ↔ ∃ entry ∈ lineup slots, entry.2.id = id := by
  rw [idsOf_eq_map, List.mem_map]

/-- Among distinct identities, taking out the first one of an identity takes out all of them. -/
theorem erase_eq_filter {slots : List (Slot σ κ)} (distinct : (idsOf slots).Nodup) (id : ModeId) :
    erase id slots = slots.filter fun slot => slot.mode.id ≠ id := by
  induction slots with
  | nil => rfl
  | cons slot rest ih =>
    rw [idsOf_cons] at distinct
    obtain ⟨hnot, hrest⟩ := List.nodup_cons.mp distinct
    by_cases hid : slot.mode.id = id
    · have hall : ∀ other ∈ rest, decide (other.mode.id ≠ id) = true := by
        intro other hother
        refine decide_eq_true fun hsame => hnot ?_
        rw [hid, ← hsame]
        exact mem_idsOf hother
      rw [erase, if_pos hid, List.filter_cons_of_neg (by simpa using hid),
        List.filter_eq_self.mpr hall]
    · rw [erase, if_neg hid, List.filter_cons_of_pos (by simpa using hid), ih hrest]

/-! ### Numbers are given once -/

/-- What is on a stack later under a number given earlier was there earlier under that number. -/
structure GivesAnew (s t : ModeStack σ κ) : Prop where
  nextSeq : s.nextSeq ≤ t.nextSeq
  held : ∀ entry ∈ lineup t.slots, entry.1 < s.nextSeq → entry ∈ lineup s.slots

theorem GivesAnew.refl (s : ModeStack σ κ) : GivesAnew s s :=
  ⟨Nat.le_refl _, fun _ hentry _ => hentry⟩

theorem GivesAnew.trans {s t u : ModeStack σ κ} (h : GivesAnew s t) (h' : GivesAnew t u) :
    GivesAnew s u where
  nextSeq := Nat.le_trans h.nextSeq h'.nextSeq
  held entry hentry hgiven :=
    h.held entry (h'.held entry hentry (Nat.lt_of_lt_of_le hgiven h.nextSeq)) hgiven

instance : Composes fun s t : ModeStack σ κ × Scene κ => GivesAnew s.1 t.1 where
  refl s := .refl s.1
  trans h h' := h.trans h'

theorem Shift.givesAnew {s t : ModeStack σ κ} {sites : List CallbackSite} (h : s.Shift t sites) :
    GivesAnew s t := by
  cases h with
  | stay line seq _ => exact ⟨Nat.le_of_eq seq.symm, fun entry hentry _ => line ▸ hentry⟩
  | join mode _ slots seq =>
    refine ⟨seq ▸ Nat.le_succ _, fun entry hentry hgiven => ?_⟩
    rw [lineup, slots, ((insertSlot_perm _ _).map _).mem_iff, List.map_cons] at hentry
    rcases List.mem_cons.mp hentry with rfl | hentry
    · exact absurd hgiven (Nat.lt_irrefl _)
    · exact hentry
  | leave slot _ slots seq =>
    refine ⟨Nat.le_of_eq seq.symm, fun entry hentry _ => ?_⟩
    rw [lineup, slots] at hentry
    exact ((erase_sublist _ _).map _).mem hentry

theorem givesAnew_on (change : Change σ κ) (s : ModeStack σ κ) (scene : Scene κ) :
    GivesAnew s (change.on s scene) := by
  cases change with
  | add m =>
    obtain ⟨_, hshift, -⟩ := shift_add m s scene
    exact hshift.givesAnew
  | remove id =>
    obtain ⟨_, hshift, -⟩ := shift_remove id s scene
    exact hshift.givesAnew
  | clear =>
    refine clear_within (R := fun s t => GivesAnew s.1 t.1) (fun id state => ?_) (s, scene)
    obtain ⟨_, hshift, -⟩ := shift_remove id state.1 state.2
    exact hshift.givesAnew
  | dispatch switch =>
    obtain ⟨_, hshift, -⟩ := shift_dispatch switch s scene
    exact hshift.givesAnew
  | tick =>
    obtain ⟨_, -, hshift, -⟩ := shift_tick s scene
    exact hshift.givesAnew

theorem givesAnew_changed (s : ModeStack σ κ) (changes : List (Change σ κ × Scene κ)) :
    GivesAnew s (s.changed changes) := by
  induction changes generalizing s with
  | nil => exact .refl s
  | cons change rest ih => exact (givesAnew_on change.1 s change.2).trans (ih _)

/-! ### The stack and the roll -/

theorem nextSeq_remove (id : ModeId) :
    (remove (σ := σ) (κ := κ) id).Within fun s t => t.1.nextSeq = s.1.nextSeq := by
  intro state
  by_cases hid : id ∈ idsOf state.1.slots
  · exact (remove_present hid state.2).2.2.1
  · rw [remove_absent hid state.2]

/-- The roll lists the modes of a stack in the order of their numbers. -/
structure Listed (s : ModeStack σ κ) (r : Roll σ κ) : Prop where
  orderly : s.Orderly
  same : (lineup s.slots).Perm r.live
  ascending : r.live.Pairwise fun a b => a.1 < b.1
  next : s.nextSeq = r.next

namespace Listed
variable {s t : ModeStack σ κ} {r : Roll σ κ}

theorem live_lt (h : s.Listed r) : ∀ entry ∈ r.live, entry.1 < r.next := by
  intro entry hentry
  obtain ⟨slot, hslot, rfl⟩ := List.mem_map.mp (h.same.mem_iff.mpr hentry)
  exact h.next ▸ h.orderly.arrived slot hslot

theorem live_iff (h : s.Listed r) {id : ModeId} :
    id ∈ idsOf s.slots ↔ ∃ entry ∈ r.live, entry.2.id = id := by
  simp only [mem_idsOf_iff, h.same.mem_iff]

theorem stay (h : s.Listed r) {sites : List CallbackSite} (shift : s.Shift t sites)
    (line : lineup t.slots = lineup s.slots) (seq : t.nextSeq = s.nextSeq) : t.Listed r where
  orderly := h.orderly.shift shift
  same := line ▸ h.same
  ascending := h.ascending
  next := seq.trans h.next

/-- Who comes is written at the end. -/
theorem add (h : s.Listed r) (m : Mode σ κ) (scene : Scene κ) :
    (ModeStack.add m (s, scene)).2.1.Listed (r.note (.add m)) := by
  by_cases hm : m.id ∈ idsOf s.slots
  · rw [(add_there hm scene).1, Roll.note, if_pos (h.live_iff.mp hm)]
    exact h
  · obtain ⟨m', hfix, hslots, -, hseq, -⟩ := add_new hm scene
    obtain ⟨_, hshift, -⟩ := shift_add m s scene
    rw [Roll.note, if_neg fun hlive => hm (h.live_iff.mpr hlive)]
    refine ⟨h.orderly.shift hshift, ?_, ?_, by rw [hseq, h.next]⟩
    · have hjoin : (lineup (ModeStack.add m (s, scene)).2.1.slots).Perm
          ((r.next, m.fixed) :: lineup s.slots) := by
        rw [hslots, ← h.next, ← hfix]
        exact (insertSlot_perm _ _).map Slot.fixed
      exact (hjoin.trans (h.same.cons _)).trans (List.perm_append_singleton _ _).symm
    · refine List.pairwise_append.mpr ⟨h.ascending, List.pairwise_singleton _ _, ?_⟩
      intro entry hentry new hnew
      rw [List.mem_singleton.mp hnew]
      exact h.live_lt entry hentry

/-- Who leaves is struck out. -/
theorem remove (h : s.Listed r) (id : ModeId) (scene : Scene κ) :
    (ModeStack.remove id (s, scene)).2.1.Listed (r.note (.remove id)) := by
  obtain ⟨_, hshift, -⟩ := shift_remove id s scene
  have hline : lineup (ModeStack.remove id (s, scene)).2.1.slots =
      (lineup s.slots).filter fun entry => entry.2.id ≠ id := by
    have hfilter : (lineup s.slots).filter (fun entry => entry.2.id ≠ id) =
        lineup (erase id s.slots) := by
      rw [erase_eq_filter h.orderly.ids, lineup, lineup, List.filter_map]
      rfl
    by_cases hid : id ∈ idsOf s.slots
    · rw [(remove_present hid scene).1, hfilter]
    · rw [remove_absent hid scene, eq_comm, List.filter_eq_self]
      intro entry hentry
      exact decide_eq_true fun hsame => hid (mem_idsOf_iff.mpr ⟨entry, hentry, hsame⟩)
  have hseq : (ModeStack.remove id (s, scene)).2.1.nextSeq = s.nextSeq :=
    nextSeq_remove id (s, scene)
  refine ⟨h.orderly.shift hshift, ?_, h.ascending.filter _, hseq.trans h.next⟩
  rw [hline]
  exact h.same.filter _

/-- A cleared stack still knows which number is next. -/
theorem clear (h : s.Listed r) (scene : Scene κ) :
    (ModeStack.clear (s, scene)).2.1.Listed (r.note .clear) := by
  have hslots := slots_clear s scene
  have hseq : (ModeStack.clear (s, scene)).2.1.nextSeq = s.nextSeq :=
    clear_within nextSeq_remove (s, scene)
  exact ⟨.of_none hslots, by rw [hslots]; exact .refl _, .nil, hseq.trans h.next⟩

theorem on (h : s.Listed r) (change : Change σ κ) (scene : Scene κ) :
    (change.on s scene).Listed (r.note change) := by
  cases change with
  | add m => exact h.add m scene
  | remove id => exact h.remove id scene
  | clear => exact h.clear scene
  | dispatch switch =>
    obtain ⟨_, hshift, -⟩ := shift_dispatch switch s scene
    have hseq : (ModeStack.dispatch (ε := Fault) switch (s, scene)).2.1.nextSeq = s.nextSeq := by
      rw [dispatch_eq]
    exact h.stay hshift (lineup_dispatch switch s scene) hseq
  | tick =>
    obtain ⟨_, -, hshift, -⟩ := shift_tick s scene
    obtain ⟨t, after, hline, hseq, hcase⟩ := tick_cases (ε := Fault) s scene
    obtain rfl : (ModeStack.tick (ε := Fault) (s, scene)).2.1 = t := by
      rcases hcase with ⟨htick, -, -⟩ | ⟨⟨report, htick⟩, -, -⟩ <;> rw [htick]
    exact h.stay hshift hline hseq

/-- A line-up of distinct numbers in dispatch order is the roll sorted by priority. -/
theorem lineup_eq (h : s.Listed r) : lineup s.slots = r.sorted := by
  let le (a b : Nat × ModeParts σ κ) : Bool := b.2.priority ≤ a.2.priority
  let before (a b : Nat × ModeParts σ κ) : Prop :=
    b.2.priority < a.2.priority ∨ b.2.priority = a.2.priority ∧ a.1 < b.1
  have trans : ∀ a b c, le a b = true → le b c = true → le a c = true := by
    simp only [le, decide_eq_true_eq]
    omega
  have total : ∀ a b, (le a b || le b a) = true := by
    simp only [le, Bool.or_eq_true, decide_eq_true_eq]
    omega
  have hline : (lineup s.slots).Pairwise before := List.pairwise_map.mpr h.orderly.order
  have hsorted : r.sorted.Pairwise before := by
    rw [List.pairwise_iff_forall_sublist]
    intro a b hab
    have hle : b.2.priority ≤ a.2.priority := by
      have := List.pairwise_iff_forall_sublist.mp (List.pairwise_mergeSort trans total r.live) hab
      simpa only [le, decide_eq_true_eq] using this
    rcases Int.lt_or_eq_of_le hle with hlt | heq
    · exact .inl hlt
    · -- Among those of one priority the sort leaves the roll as it is.
      let p (entry : Nat × ModeParts σ κ) : Bool := entry.2.priority = a.2.priority
      have hstable : r.sorted.filter p = r.live.filter p :=
        filter_mergeSort trans total (by simp only [p, le, decide_eq_true_eq]; omega) r.live
      have hpair : ([a, b].filter p).Sublist r.live :=
        (hstable ▸ hab.filter p).trans List.filter_sublist
      have hkeep : [a, b].filter p = [a, b] := by simp [p, heq]
      exact .inr ⟨heq, List.pairwise_iff_forall_sublist.mp h.ascending (hkeep ▸ hpair)⟩
  refine (h.same.trans (List.mergeSort_perm _ _).symm).eq_of_pairwise ?_ hline hsorted
  intro a b _ _ hab hba
  simp only [before] at hab hba
  omega

end Listed

theorem listed_changed {s : ModeStack σ κ} {r : Roll σ κ} (h : s.Listed r)
    (changes : List (Change σ κ × Scene κ)) :
    (s.changed changes).Listed (changes.foldl (fun r change => r.note change.1) r) := by
  induction changes generalizing s r with
  | nil => exact h
  | cons change rest ih => exact ih (h.on change.1 change.2)

/-- Whatever is done with a stack, its modes stand in the order of a stable sort by priority of
those that are live, as they came. Their numbers are distinct and rise in that order, and a number
given to a mode is never given to another one: what has it later on had it all the time. -/
theorem dispatch_order_stable (tolerance : Span) (changes : List (Change σ κ × Scene κ)) :
    let s := (ModeStack.empty tolerance).changed changes
    let roll := Roll.of changes
    lineup s.slots = roll.sorted ∧ s.ids = roll.sorted.map (fun entry => entry.2.id) ∧
      s.ids.Nodup ∧ (s.slots.map Slot.seq).Nodup ∧ roll.live.Pairwise (fun a b => a.1 < b.1) ∧
      s.nextSeq = roll.next ∧
      ∀ before after, changes = before ++ after → ∀ entry ∈ lineup s.slots,
        entry.1 < ((ModeStack.empty tolerance).changed before).nextSeq →
          entry ∈ lineup ((ModeStack.empty tolerance).changed before).slots := by
  intro s roll
  have start : (ModeStack.empty (σ := σ) (κ := κ) tolerance).Listed {} :=
    ⟨.of_none rfl, .refl _, .nil, rfl⟩
  have h : s.Listed roll := listed_changed start changes
  refine ⟨h.lineup_eq, h.lineup_eq ▸ idsOf_eq_map s.slots, h.orderly.ids, h.orderly.numbers,
    h.ascending, h.next, ?_⟩
  intro before after hsplit
  have hlater : s = ((ModeStack.empty tolerance).changed before).changed after := by
    rw [changed, changed, ← List.foldl_append, ← hsplit]
    rfl
  rw [hlater]
  exact (givesAnew_changed _ after).held

end ModeStack

end Playfield
