import Mathlib.Data.List.Chain
import Playfield.Clock

/-!
# What the hand-set clock shows

All handles of a clock move one counter, so what is done through them is one sequence of moves.
Setting the clock never takes it back. Advancing it does just if the sum does not fit the counter:
then the clock starts again from zero. A time that does not fit the counter is not reached by
setting the clock to it. As long as the time fits, the clock shows what a counter without an end
would show.
-/
namespace Playfield

namespace Clock

/-- One move of the clock. -/
inductive Move where
  | advance (step : Span)
  | set (target : Span)
  deriving DecidableEq, Repr

namespace Move

/-- The clock after a move. -/
def make (c : Clock) : Move → Clock
  | .advance step => c.advance step
  | .set target => c.set target

/-- Where a move takes a counter of microseconds that has no end. -/
def plain (micros : Nat) : Move → Nat
  | .advance step => micros + step.micros
  | .set target => max micros target.micros

end Move

/-- The clock after some moves. -/
def after (c : Clock) (moves : List Move) : Clock := moves.foldl Move.make c

/-- Where some moves take a counter of microseconds that has no end. -/
def plainAfter (micros : Nat) (moves : List Move) : Nat := moves.foldl Move.plain micros

/-- What the clock shows before, between and after some moves. -/
def readings (c : Clock) : List Move → List Span
  | [] => [c.now]
  | m :: rest => c.now :: (m.make c).readings rest

/-! ### One move -/

theorem toNat_word (s : Span) : (word s).toNat = s.micros % UInt64.size := UInt64.toNat_ofNat'

theorem now_le_now {c d : Clock} : c.now ≤ d.now ↔ c.micros.toNat ≤ d.micros.toNat := by
  change c.micros.toNat * 1000 ≤ d.micros.toNat * 1000 ↔ _
  omega

/-- Advancing adds the step, and takes the size of the counter off if the sum does not fit it. -/
theorem toNat_advance (c : Clock) (step : Span) :
    (c.advance step).micros.toNat =
      if c.micros.toNat + step.micros % UInt64.size < UInt64.size then
        c.micros.toNat + step.micros % UInt64.size
      else c.micros.toNat + step.micros % UInt64.size - UInt64.size := by
  have hsum : (c.advance step).micros.toNat =
      (c.micros.toNat + step.micros % UInt64.size) % UInt64.size := by
    rw [advance, UInt64.toNat_add, toNat_word]
  have hword : c.micros.toNat < UInt64.size := c.micros.toNat_lt
  have hstep : step.micros % UInt64.size < UInt64.size := Nat.mod_lt _ (by decide)
  rw [hsum]
  split
  · rename_i hfits
    exact Nat.mod_eq_of_lt hfits
  · rename_i hpast
    rw [Nat.mod_eq_sub_mod (Nat.le_of_not_lt hpast), Nat.mod_eq_of_lt (by omega)]

theorem toNat_set (c : Clock) (target : Span) :
    (c.set target).micros.toNat = max c.micros.toNat (target.micros % UInt64.size) := by
  rw [← toNat_word, set]
  split
  · rename_i hlater
    exact (Nat.max_eq_right (Nat.le_of_lt hlater)).symm
  · rename_i hnot
    exact (Nat.max_eq_left (Nat.le_of_not_lt hnot)).symm

/-- Advancing does not take the clock back just if the sum fits the counter. -/
theorem now_le_advance (c : Clock) (step : Span) :
    c.now ≤ (c.advance step).now ↔
      c.micros.toNat + step.micros % UInt64.size < UInt64.size := by
  have hstep : step.micros % UInt64.size < UInt64.size := Nat.mod_lt _ (by decide)
  rw [now_le_now, toNat_advance]
  split <;> omega

theorem now_le_set (c : Clock) (target : Span) : c.now ≤ (c.set target).now := by
  rw [now_le_now, toNat_set]
  exact Nat.le_max_left _ _

/-- Setting the clock reaches the time it is set to just if that fits the counter. -/
theorem target_le_set (c : Clock) (target : Span) :
    .ofMicros target.micros ≤ (c.set target).now ↔ target.micros < UInt64.size := by
  have hword : (c.set target).micros.toNat < UInt64.size := (c.set target).micros.toNat_lt
  change target.micros * 1000 ≤ (c.set target).micros.toNat * 1000 ↔ _
  constructor
  · intro hreached
    omega
  · intro hfits
    rw [toNat_set, Nat.mod_eq_of_lt hfits]
    omega

/-! ### Runs of moves -/

/-- No advance takes the counter past its end; a step counts modulo the size of the counter. -/
def StaysInside (c : Clock) (moves : List Move) : Prop :=
  ∀ earlier step later, moves = earlier ++ .advance step :: later →
    (c.after earlier).micros.toNat + step.micros % UInt64.size < UInt64.size

theorem staysInside_cons (c : Clock) (m : Move) (rest : List Move) :
    c.StaysInside (m :: rest) ↔ c.now ≤ (m.make c).now ∧ (m.make c).StaysInside rest := by
  constructor
  · intro inside
    constructor
    · cases m with
      | advance step => exact (now_le_advance c step).mpr (inside [] step rest rfl)
      | set target => exact now_le_set c target
    · rintro earlier step later rfl
      exact inside (m :: earlier) step later rfl
  · rintro ⟨hfirst, inside⟩ earlier step later hsplit
    cases earlier with
    | nil =>
      cases hsplit
      exact (now_le_advance c step).mp hfirst
    | cons first earlier =>
      cases hsplit
      exact inside earlier step later rfl

theorem readings_pairwise_iff (c : Clock) (moves : List Move) :
    (c.readings moves).Pairwise (· ≤ ·) ↔ c.StaysInside moves := by
  have : IsTrans Span (· ≤ ·) := ⟨fun _ _ _ => Nat.le_trans⟩
  rw [← List.isChain_iff_pairwise]
  induction moves generalizing c with
  | nil =>
    have inside : c.StaysInside [] := fun _ _ _ hsplit =>
      absurd hsplit.symm (List.append_ne_nil_of_right_ne_nil _ (List.cons_ne_nil _ _))
    exact iff_of_true (List.isChain_singleton _) inside
  | cons m rest ih =>
    refine Iff.trans ?_ ((and_congr_right fun _ => ih (m.make c)).trans
      (staysInside_cons c m rest).symm)
    cases rest <;> exact List.isChain_cons_cons

theorem le_plainAfter (micros : Nat) (moves : List Move) : micros ≤ plainAfter micros moves := by
  induction moves generalizing micros with
  | nil => exact Nat.le_refl _
  | cons m rest ih =>
    refine Nat.le_trans ?_ (ih _)
    cases m with
    | advance step => exact Nat.le_add_right _ _
    | set target => exact Nat.le_max_left _ _

/-- A move to a time that fits the counter does what it says. -/
theorem toNat_make {c : Clock} {m : Move} (fits : m.plain c.micros.toNat < UInt64.size) :
    (m.make c).micros.toNat = m.plain c.micros.toNat := by
  cases m with
  | advance step =>
    have hsum : c.micros.toNat + step.micros < UInt64.size := fits
    have hstep : step.micros % UInt64.size = step.micros := Nat.mod_eq_of_lt (by omega)
    rw [Move.make, toNat_advance, hstep, if_pos hsum, Move.plain]
  | set target =>
    have hmax : max c.micros.toNat target.micros < UInt64.size := fits
    have htarget : target.micros % UInt64.size = target.micros := Nat.mod_eq_of_lt (by omega)
    rw [Move.make, toNat_set, htarget, Move.plain]

/-- As long as the time fits the counter, the clock shows it. -/
theorem toNat_after_iff (c : Clock) (moves : List Move) :
    (c.after moves).micros.toNat = plainAfter c.micros.toNat moves ↔
      plainAfter c.micros.toNat moves < UInt64.size := by
  constructor
  · intro hshows
    rw [← hshows]
    exact (c.after moves).micros.toNat_lt
  · intro fits
    induction moves generalizing c with
    | nil => rfl
    | cons m rest ih =>
      have hmade := toNat_make (Nat.lt_of_le_of_lt (le_plainAfter _ rest) fits)
      have hrest := ih (m.make c)
      rw [hmade] at hrest
      exact hrest fits

/-- What the clock shows never decreases just if no advance goes past the end of the counter; a set
reaches its time, in whole microseconds, just if that time fits the counter; and the clock shows
what a counter without an end would show just if that fits. -/
theorem readings_forward_iff (c : Clock) (moves : List Move) :
    ((c.readings moves).Pairwise (· ≤ ·) ↔ c.StaysInside moves) ∧
    (∀ target, .ofMicros target.micros ≤ ((c.after moves).set target).now ↔
      target.micros < UInt64.size) ∧
    ((c.after moves).now = .ofMicros (plainAfter c.micros.toNat moves) ↔
      plainAfter c.micros.toNat moves < UInt64.size) := by
  refine ⟨readings_pairwise_iff c moves, target_le_set (c.after moves), ?_⟩
  rw [← toNat_after_iff, now, Span.ofMicros, Span.ofMicros, Span.mk.injEq]
  omega

/-- At the end of the counter an advance by one microsecond takes the clock back to zero, and
setting it to the first time past the end leaves it there. -/
theorem clock_starts_again :
    let last : Span := .ofMicros (UInt64.size - 1)
    let past : Span := .ofMicros UInt64.size
    let c := Clock.after {} [.set last, .advance (.ofMicros 1)]
    past.nanos < Span.bound ∧ c.now = .zero ∧ (c.set past).now = .zero ∧
      ¬ (readings {} [.set last, .advance (.ofMicros 1)]).Pairwise (· ≤ ·) ∧
      ¬ .ofMicros past.micros ≤ (c.set past).now := by
  decide +kernel

end Clock

end Playfield
