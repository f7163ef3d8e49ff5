import Playfield.Proofs.Panics

/-!
# Looks at the handlers that wait

A look parts the handlers that wait. Those that are due come out, earliest deadline first and equal
deadlines in order of registration; those that are to come stay, in their order; and those whose
condition is gone are dropped. But if anything whose condition holds waits for a time past the last
one there is, the look panics, and everything that waits is lost.

What comes out later than the queue puts up with is an overrun. Each overrun is counted and remarked
on. Over the whole life of a queue the first one is a warning, and all others are for debugging.
-/
namespace Playfield

theorem Obligation.deadline?_cases (o : Obligation) :
    o.deadline? = none ∨ o.deadline? = some ⟨o.deadlineNanos⟩ := by
  simp only [deadline?, Span.add?, deadlineNanos]
  split
  · exact .inr rfl
  · exact .inl rfl

/-- The bench after some entries have been put into the journal. -/
def Bench.enterAll (b : Bench) (es : List Entry) : Bench := es.foldl (fun b e => b.enter e) b

theorem Bench.journal_enterAll (b : Bench) (es : List Entry) :
    (b.enterAll es).journal.toList = b.journal.toList ++ es := by
  induction es generalizing b with
  | nil => exact (List.append_nil _).symm
  | cons e rest ih =>
    refine (ih (b.enter e)).trans ?_
    rw [enter, Array.toList_push, List.append_assoc, List.singleton_append]

namespace HoldQueue

/-! ### What a look takes out and keeps -/

section Look
variable {q : HoldQueue} {now : Span} {store : SwitchStore} {o : Obligation}

/-- What stands has its deadline, if nothing waits for a time that does not exist. -/
theorem deadline?_of_stands (exist : ¬ q.Overflows store) (ho : o ∈ q.pending)
    (stands : o.stands store = true) : o.deadline? = some ⟨o.deadlineNanos⟩ :=
  o.deadline?_cases.resolve_left fun hnone => exist ⟨o, ho, stands, hnone⟩

/-- What stands can be told apart by its deadline. -/
theorem filter_deadline (exist : ¬ q.Overflows store) (p : Nat → Bool) :
    (q.pending.filter fun o => o.stands store && p o.deadlineNanos) =
      q.pending.filter fun o => o.stands store && o.deadline?.any fun t => p t.nanos := by
  refine List.filter_congr fun o ho => ?_
  by_cases stands : o.stands store = true
  · rw [deadline?_of_stands exist ho stands]
    rfl
  · rw [Bool.eq_false_iff.mpr stands, Bool.false_and, Bool.false_and]

theorem filter_isDue (exist : ¬ q.Overflows store) :
    q.pending.filter (isDue now store) =
      q.pending.filter fun o => o.stands store && o.deadline?.any fun t => t ≤ now :=
  filter_deadline exist fun deadline => deadline ≤ now.nanos

theorem filter_isWaiting (exist : ¬ q.Overflows store) :
    q.pending.filter (isWaiting now store) =
      q.pending.filter fun o => o.stands store && o.deadline?.any fun t => now < t :=
  filter_deadline exist fun deadline => now.nanos < deadline

/-- What stands is due or to come, and not both. -/
theorem parts_perm (q : HoldQueue) (now : Span) (store : SwitchStore) :
    q.pending.Perm (q.pending.filter (isDue now store) ++ q.pending.filter (isWaiting now store) ++
      q.pending.filter fun o => !o.stands store) := by
  have hpart : (q.pending.filter fun o => o.stands store).Perm
      (q.pending.filter (isDue now store) ++ q.pending.filter (isWaiting now store)) := by
    have hsplit := (List.filter_append_perm (fun o : Obligation => o.deadlineNanos ≤ now.nanos)
      (q.pending.filter fun o => o.stands store)).symm
    rw [List.filter_filter, List.filter_filter] at hsplit
    have hdue : (fun o : Obligation => decide (o.deadlineNanos ≤ now.nanos) && o.stands store) =
        isDue now store := by
      funext o
      exact Bool.and_comm _ _
    have hwaits : (fun o : Obligation => !decide (o.deadlineNanos ≤ now.nanos) && o.stands store) =
        isWaiting now store := by
      funext o
      simp [isWaiting, Bool.and_comm, ← decide_not]
    rwa [hdue, hwaits] at hsplit
  exact (List.filter_append_perm (fun o => o.stands store) q.pending).symm.trans
    (hpart.append_right _)

theorem takeDue_overflow {ε : Type} (past : q.Overflows store) (b : Bench) :
    takeDue now store (ε := ε) (q, b) =
      (.panic Span.overflowMessage, { q with pending := [] }, b) := by
  obtain ⟨o, ho, stands, hnone⟩ := past
  simp only [takeDue]
  rw [if_pos (List.any_eq_true.mpr ⟨o, ho, by simp [stands, hnone]⟩)]

theorem takeDue_ok {ε : Type} (exist : ¬ q.Overflows store) (b : Bench) :
    takeDue now store (ε := ε) (q, b) =
      (.ok (q.due now store), (q.due now store).foldl (fun s o => noteLateness now o s)
        ({ q with pending := q.pending.filter (isWaiting now store) }, b)) := by
  simp only [takeDue]
  rw [if_neg]
  · rfl
  · intro hany
    obtain ⟨o, ho, hpast⟩ := List.any_eq_true.mp hany
    exact exist ⟨o, ho, by simpa using hpast⟩

end Look

/-! ### Overruns -/

/-- The handler comes due later than the queue puts up with. -/
def overran (tolerance now : Span) (o : Obligation) : Bool := tolerance < o.lateness now

/-- The remark on an overrun at a time. The first overrun of all is a warning. -/
def overrunRemark (first : Bool) (x : Span × Obligation) : Entry :=
  let text := "held handler on '" ++ x.2.switch ++ "' fired " ++
    toString (x.2.lateness x.1).millis ++ "ms late"
  if first then .remark .warn (text ++ "; the run loop is overrunning") else .remark .debug text

/-- The remarks on some overruns in turn, where there may have been one before. -/
def overrunRemarks (before : Bool) : List (Span × Obligation) → List Entry
  | [] => []
  | x :: later => overrunRemark (!before) x :: later.map (overrunRemark false)

theorem overrunRemarks_true (xs : List (Span × Obligation)) :
    overrunRemarks true xs = xs.map (overrunRemark false) := by
  cases xs <;> rfl

theorem overrunRemarks_append (before : Bool) (xs ys : List (Span × Obligation)) :
    overrunRemarks before (xs ++ ys) =
      overrunRemarks before xs ++ overrunRemarks (before || !xs.isEmpty) ys := by
  cases xs with
  | nil => rw [List.nil_append, List.isEmpty_nil, Bool.not_true, Bool.or_false]; rfl
  | cons x rest =>
    rw [List.isEmpty_cons, Bool.not_false, Bool.or_true, overrunRemarks_true]
    simp only [List.cons_append, overrunRemarks, List.map_append]

theorem noteLateness_eq (now : Span) (o : Obligation) (q : HoldQueue) (b : Bench) :
    noteLateness now o (q, b) =
      if overran q.tolerance now o then
        ({ q with overruns := q.overruns + 1, reported := true },
          b.enter (overrunRemark (!q.reported) (now, o)))
      else (q, b) := by
  by_cases h : o.lateness now ≤ q.tolerance
  · have hnot : ¬ overran q.tolerance now o := fun hlate =>
      absurd h (Nat.not_le.mpr (of_decide_eq_true hlate))
    simp only [noteLateness]
    rw [if_pos h, if_neg hnot]
  · have hlate : overran q.tolerance now o := decide_eq_true (Nat.not_le.mp h)
    simp only [noteLateness]
    rw [if_neg h, if_pos hlate, overrunRemark]
    cases q.reported <;> rfl

/-- What comes due is counted and remarked on where it is too late. -/
theorem foldl_noteLateness (now : Span) (due : List Obligation) (q : HoldQueue) (b : Bench) :
    let late := due.filter (overran q.tolerance now)
    due.foldl (fun s o => noteLateness now o s) (q, b) =
      ({ q with
          overruns := q.overruns + late.length, reported := q.reported || !late.isEmpty },
        b.enterAll (overrunRemarks q.reported (late.map (now, ·)))) := by
  induction due generalizing q b with
  | nil => simp [overrunRemarks, Bench.enterAll]
  | cons o rest ih =>
    simp only [List.foldl_cons, noteLateness_eq]
    by_cases hlate : overran q.tolerance now o
    · rw [if_pos hlate, ih, List.filter_cons_of_pos hlate, overrunRemarks_true]
      simp [overrunRemarks, Bench.enterAll, Nat.add_assoc, Nat.add_comm 1]
    · rw [if_neg hlate, ih, List.filter_cons_of_neg hlate]

/-! ### The life of a queue -/

/-- One thing done with a queue. -/
inductive Use where
  | register (o : Obligation)
  | cancelUnsatisfied (switch : Switch)
  | cancelMode (mode : ModeId)
  | takeDue (now : Span) (store : SwitchStore)

namespace Use

/-- The queue and the bench after one thing was done, however it ended. -/
def run (s : HoldQueue × Bench) : Use → HoldQueue × Bench
  | .register o => (s.1.register o, s.2)
  | .cancelUnsatisfied switch => (HoldQueue.cancelUnsatisfied (ε := Fault) switch s).2
  | .cancelMode mode => (s.1.cancelMode mode, s.2)
  | .takeDue now store => (HoldQueue.takeDue (ε := Fault) now store s).2

/-- What it takes out too late, with the time. -/
def overruns (s : HoldQueue × Bench) : Use → List (Span × Obligation)
  | .takeDue now store =>
    match (HoldQueue.takeDue (ε := Fault) now store s).1 with
    | .ok due => (due.filter (overran s.1.tolerance now)).map (now, ·)
    | _ => []
  | _ => []

/-- What a look puts into the journal. -/
def remarks (s : HoldQueue × Bench) : Use → List Entry
  | .takeDue now store =>
    ((Use.takeDue now store).run s).2.journal.toList.drop s.2.journal.size
  | _ => []

/-- A look counts its overruns and remarks on them; nothing else that is done with a queue does. -/
theorem run_spec (u : Use) (q : HoldQueue) (b : Bench) :
    let late := u.overruns (q, b)
    (u.run (q, b)).1.overruns = q.overruns + late.length ∧
      (u.run (q, b)).1.reported = (q.reported || !late.isEmpty) ∧
      u.remarks (q, b) = overrunRemarks q.reported late := by
  have none {q' : HoldQueue} (hq : q'.overruns = q.overruns ∧ q'.reported = q.reported) :
      q'.overruns = q.overruns + 0 ∧ q'.reported = (q.reported || false) ∧
        [] = overrunRemarks q.reported [] := by
    rw [Bool.or_false]
    exact ⟨hq.1, hq.2, rfl⟩
  cases u with
  | register o =>
    refine none ?_
    simp only [run, HoldQueue.register]
    split <;> exact ⟨rfl, rfl⟩
  | cancelUnsatisfied switch => exact none ⟨rfl, rfl⟩
  | cancelMode mode => exact none ⟨rfl, rfl⟩
  | takeDue now store =>
    by_cases past : q.Overflows store
    · simp only [overruns, remarks, run, takeDue_overflow past]
      rw [← Array.length_toList, List.drop_length]
      exact none ⟨rfl, rfl⟩
    · simp only [overruns, remarks, run, takeDue_ok past, foldl_noteLateness,
        Bench.journal_enterAll, List.length_map, List.isEmpty_map]
      rw [← Array.length_toList, List.drop_left]
      exact ⟨trivial, trivial, rfl⟩

end Use

/-- The queue after things were done with it in turn, each on a bench of its own. -/
def after (q : HoldQueue) (life : List (Use × Bench)) : HoldQueue :=
  life.foldl (fun q x => (x.1.run (q, x.2)).1) q

/-- All the overruns among what was done with a queue. -/
def overrunsIn (q : HoldQueue) : List (Use × Bench) → List (Span × Obligation)
  | [] => []
  | x :: rest => x.1.overruns (q, x.2) ++ overrunsIn (x.1.run (q, x.2)).1 rest

/-- All that was put into the journal by looks at a queue. -/
def remarksIn (q : HoldQueue) : List (Use × Bench) → List Entry
  | [] => []
  | x :: rest => x.1.remarks (q, x.2) ++ remarksIn (x.1.run (q, x.2)).1 rest

theorem after_spec (q : HoldQueue) (life : List (Use × Bench)) :
    (q.after life).overruns = q.overruns + (q.overrunsIn life).length ∧
      q.remarksIn life = overrunRemarks q.reported (q.overrunsIn life) := by
  induction life generalizing q with
  | nil => exact ⟨rfl, rfl⟩
  | cons x rest ih =>
    obtain ⟨hcount, hreported, hremarks⟩ := x.1.run_spec q x.2
    obtain ⟨hall, hrest⟩ := ih (x.1.run (q, x.2)).1
    refine ⟨?_, ?_⟩
    · refine hall.trans ?_
      rw [hcount, overrunsIn, List.length_append, Nat.add_assoc]
    · rw [remarksIn, hremarks, hrest, hreported, overrunsIn, overrunRemarks_append]

/-- A look parts the handlers that wait, unless one whose condition holds waits for a time that does
not exist: then it panics and loses them all. Over the whole life of a queue every overrun is
counted; the first one is a warning, and the later ones are remarks for debugging. -/
theorem takeDue_parts (tolerance : Span) (life : List (Use × Bench)) :
    (∀ (q : HoldQueue) (b : Bench) (now : Span) (store : SwitchStore),
      ((∀ o ∈ q.pending, o.stands store = true → o.deadline? ≠ none) →
        ∃ due q' b', takeDue now store (q, b) = ((.ok due, q', b') : Outcome Fault _ × _) ∧
          due.Perm
            (q.pending.filter fun o => o.stands store && o.deadline?.any fun t => t ≤ now) ∧
          (due.Pairwise fun o p => o.deadlineNanos ≤ p.deadlineNanos) ∧
          (∀ deadline, (due.filter fun o => o.deadlineNanos = deadline) =
            (q.pending.filter fun o => o.stands store && o.deadline?.any fun t => t ≤ now).filter
              fun o => o.deadlineNanos = deadline) ∧
          q'.pending =
            q.pending.filter (fun o => o.stands store && o.deadline?.any fun t => now < t) ∧
          q.pending.Perm (due ++ q'.pending ++ q.pending.filter fun o => !o.stands store) ∧
          q'.tolerance = q.tolerance ∧
          q'.overruns = q.overruns + (due.filter fun o => q.tolerance < o.lateness now).length) ∧
      ((∃ o ∈ q.pending, o.stands store = true ∧ o.deadline? = none) →
        takeDue now store (q, b) = ((.panic Span.overflowMessage, { q with pending := [] }, b) :
          Outcome Fault (List Obligation) × _))) ∧
    let start : HoldQueue := { tolerance }
    (start.after life).overruns = (start.overrunsIn life).length ∧
      start.remarksIn life =
        match start.overrunsIn life with
        | [] => []
        | first :: later => overrunRemark true first :: later.map (overrunRemark false) := by
  refine ⟨fun q b now store => ⟨fun exist => ?_, fun past => takeDue_overflow past b⟩, ?_⟩
  · have fits : ¬ q.Overflows store := fun ⟨o, ho, stands, past⟩ => exist o ho stands past
    have hdue : (q.due now store).Perm (q.pending.filter (isDue now store)) :=
      List.mergeSort_perm _ _
    refine ⟨_, _, _, takeDue_ok fits b, ?_⟩
    rw [foldl_noteLateness, ← filter_isDue fits, ← filter_isWaiting fits]
    refine ⟨hdue, due_pairwise q now store, due_stable q now store, rfl, ?_, rfl, rfl⟩
    exact (parts_perm q now store).trans ((hdue.symm.append_right _).append_right _)
  · intro start
    obtain ⟨hcount, hremarks⟩ := start.after_spec life
    refine ⟨hcount.trans (Nat.zero_add _), hremarks.trans ?_⟩
    cases start.overrunsIn life <;> rfl

/-- Two handlers that wait for a closed gate come due at once, and one of them too late. -/
theorem late_gate_counted :
    ∃ (q : HoldQueue) (b : Bench) (now : Span) (store : SwitchStore), q.pending.length = 2 ∧
      (∀ o ∈ q.pending, o.stands store = true → o.deadline? ≠ none) ∧
      ∃ due q' b', takeDue now store (q, b) = ((.ok due, q', b') : Outcome Fault _ × _) ∧
        due.length = 2 ∧ q'.pending = [] ∧ q'.overruns = 1 := by
  let gate : Switch := { number := 7, name := "gate", closed := true }
  let store : SwitchStore := ⟨{ items := [gate], byNumber := [(7, 0)], byName := [("gate", 0)] }⟩
  let wait (mode ms : Nat) : Obligation := ⟨⟨mode⟩, 0, "gate", .closed, .ofMillis ms, .zero⟩
  let q : HoldQueue := { pending := [wait 0 300, wait 1 100], tolerance := .ofMillis 150 }
  have exist : ∀ o ∈ q.pending, o.stands store = true → o.deadline? ≠ none := by decide +kernel
  obtain ⟨due, q', b', htake, hdue, -, -, hpending, -, -, hoverruns⟩ :=
    ((takeDue_parts q.tolerance []).1 q {} (.ofMillis 400) store).1 exist
  refine ⟨q, {}, .ofMillis 400, store, rfl, exist, due, q', b', htake, ?_, ?_, ?_⟩
  · exact hdue.length_eq.trans (by decide +kernel)
  · exact hpending.trans (by decide +kernel)
  · rw [hoverruns, (hdue.filter _).length_eq]
    decide +kernel

end HoldQueue

end Playfield
