import Playfield.Proofs.Starts

/-!
# The queue of held handlers

What each operation on the queue does to the list of those that wait. Registering handlers that are
not waiting yet puts them at the end. A look at the queue takes out what has come due, earliest
deadline first and equal deadlines in order of registration, and keeps what is to come.
-/
namespace Playfield

/-- A sort leaves entries that are all alike to it in their order. -/
theorem filter_mergeSort {α : Type} {le : α → α → Bool}
    (trans : ∀ a b c, le a b = true → le b c = true → le a c = true)
    (total : ∀ a b, (le a b || le b a) = true) {p : α → Bool}
    (alike : ∀ a b, p a = true → p b = true → le a b = true) (l : List α) :
    (l.mergeSort le).filter p = l.filter p := by
  have hle : (l.filter p).Pairwise fun a b => le a b = true :=
    List.pairwise_of_forall_mem_list fun a ha b hb =>
      alike a b (List.mem_filter.mp ha).2 (List.mem_filter.mp hb).2
  have hsub : (l.filter p).Sublist (l.mergeSort le) :=
    List.sublist_mergeSort trans total hle List.filter_sublist
  have hkeep : (l.filter p).Sublist ((l.mergeSort le).filter p) := by
    simpa only [List.filter_filter, Bool.and_self] using hsub.filter p
  exact (hkeep.eq_of_length ((List.mergeSort_perm l le).filter p).length_eq.symm).symm

/-- A sort by numbers has the smaller numbers first. -/
theorem pairwise_mergeSort_key {α : Type} (key : α → Nat) (l : List α) :
    (l.mergeSort fun a b => key a ≤ key b).Pairwise fun a b => key a ≤ key b := by
  let le (a b : α) : Bool := key a ≤ key b
  have h : (l.mergeSort le).Pairwise fun a b => le a b :=
    List.pairwise_mergeSort (by simp only [le, decide_eq_true_eq]; omega)
      (by simp only [le, Bool.or_eq_true, decide_eq_true_eq]; omega) l
  simpa [le] using h

/-- Which handler it is. -/
def Obligation.key (o : Obligation) : ModeId × Nat := (o.mode, o.binding)

namespace HoldQueue

/-- No handler waits twice. -/
def Distinct (pending : List Obligation) : Prop := pending.Pairwise fun o p => o.key ≠ p.key

theorem Distinct.sublist {ps qs : List Obligation} (h : Distinct qs) (hs : ps.Sublist qs) :
    Distinct ps :=
  List.Pairwise.sublist hs h

theorem register_fresh {q : HoldQueue} {o : Obligation} (h : ∀ p ∈ q.pending, p.key ≠ o.key) :
    q.register o = { q with pending := q.pending ++ [o] } := by
  simp only [register]
  rw [if_neg]
  simp only [List.any_eq_true, Bool.and_eq_true, decide_eq_true_eq, not_exists, not_and]
  intro p hp hmode hbinding
  exact h p hp (Prod.ext hmode hbinding)

/-- Handlers that do not wait yet, and are all different, are put at the end in order. -/
theorem pending_registerAll {q : HoldQueue} {os : List Obligation}
    (h : Distinct (q.pending ++ os)) : (os.foldl register q).pending = q.pending ++ os := by
  induction os generalizing q with
  | nil => exact (List.append_nil _).symm
  | cons o rest ih =>
    have hsplit := List.pairwise_append.mp h
    have hfresh : ∀ p ∈ q.pending, p.key ≠ o.key := fun p hp =>
      hsplit.2.2 p hp o List.mem_cons_self
    rw [List.foldl_cons, register_fresh hfresh, ih]
    · exact List.append_assoc _ _ _
    · rw [List.append_assoc]
      exact h

/-! ### Looking for what is due -/

/-- What a look takes out, in the order in which it comes due. -/
def due (q : HoldQueue) (now : Span) (store : SwitchStore) : List Obligation :=
  (q.pending.filter (isDue now store)).mergeSort fun o p => o.deadlineNanos ≤ p.deadlineNanos

theorem mem_due {q : HoldQueue} {now : Span} {store : SwitchStore} {o : Obligation} :
    o ∈ q.due now store ↔ o ∈ q.pending ∧ isDue now store o = true := by
  rw [due, List.mem_mergeSort, List.mem_filter]

theorem due_pairwise (q : HoldQueue) (now : Span) (store : SwitchStore) :
    (q.due now store).Pairwise fun o p => o.deadlineNanos ≤ p.deadlineNanos :=
  pairwise_mergeSort_key Obligation.deadlineNanos _

/-- Equal deadlines stay in order of registration. -/
theorem due_stable (q : HoldQueue) (now : Span) (store : SwitchStore) (deadline : Nat) :
    ((q.due now store).filter fun o => o.deadlineNanos = deadline) =
      (q.pending.filter (isDue now store)).filter fun o => o.deadlineNanos = deadline := by
  refine filter_mergeSort (by simp only [decide_eq_true_eq]; omega)
    (by simp only [Bool.or_eq_true, decide_eq_true_eq]; omega) (fun o p ho hp => ?_) _
  simp only [decide_eq_true_eq] at ho hp ⊢
  omega

theorem pending_noteLateness (now : Span) (o : Obligation) (s : HoldQueue × Bench) :
    (noteLateness now o s).1.pending = s.1.pending := by
  obtain ⟨q, b⟩ := s
  simp only [noteLateness]
  split <;> rfl

theorem pending_foldl_noteLateness (now : Span) (due : List Obligation) (s : HoldQueue × Bench) :
    (due.foldl (fun s o => noteLateness now o s) s).1.pending = s.1.pending := by
  induction due generalizing s with
  | nil => rfl
  | cons o rest ih => exact (ih _).trans (pending_noteLateness now o s)

/-- A look panics and drops everything, or takes out what is due and keeps what is to come. -/
theorem takeDue_cases {ε : Type} (now : Span) (store : SwitchStore) (q : HoldQueue) (b : Bench) :
    takeDue now store (ε := ε) (q, b) = (.panic Span.overflowMessage, { q with pending := [] }, b) ∨
      ∃ q' b', takeDue now store (ε := ε) (q, b) = (.ok (q.due now store), q', b') ∧
        q'.pending = q.pending.filter (isWaiting now store) ∧ b'.starts = b.starts := by
  simp only [takeDue]
  split
  · exact .inl rfl
  · refine .inr ⟨_, _, rfl, ?_, ?_⟩
    · exact pending_foldl_noteLateness _ _ _
    · exact starts_foldl_noteLateness _ _ _

end HoldQueue

end Playfield
