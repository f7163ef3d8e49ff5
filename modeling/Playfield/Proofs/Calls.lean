import Playfield.Proofs.Operations

/-!
# Operations as calls

Whatever is done with a machine is a sequence of calls. A run of the loop is one too: before each of
its passes there is a visit, and where the loop ends the board is closed. `Machine.callsOf` lists
the calls of some operations, and `Machine.performAll_eq` says that they lead where the operations
lead, so that what holds of every sequence of calls holds of every sequence of operations.
-/
namespace Playfield

namespace Cabinet

theorem switches_foldl_undergo (visit : Visit) (c : Cabinet) :
    (visit.foldl (fun c h => c.undergo h) c).switches = c.switches := by
  induction visit generalizing c with
  | nil => rfl
  | cons happening rest ih =>
    refine (ih _).trans ?_
    cases happening with
    | bench act => exact c.switches_perform act
    | command command => exact (c.enqueue_frame command).1

end Cabinet

namespace Machine
variable {σ κ : Type}

theorem kept_receive (visit : Visit) (isLast : Bool) (m : Machine σ κ) :
    (m.receive visit isLast).kept = m.kept := by
  have hswitches := Cabinet.switches_foldl_undergo visit m.cabinet
  have hstarts := Cabinet.starts_foldl_undergo visit m.cabinet
  cases isLast <;> simp only [kept, receive, setStop, Bool.false_eq_true, if_true, if_false] <;>
    rw [hswitches, hstarts]

theorem kept_close (m : Machine σ κ) : m.close.kept = m.kept := by
  have hclose := Bench.keeps_starts_close m.cabinet.bench
  simp only [close]
  split
  · rfl
  · split <;> rename_i hb <;> rw [hb] at hclose <;> simp only [kept]
    · rw [Bench.starts_remark, hclose]
    · rw [hclose]

end Machine

namespace Aside
variable {σ κ : Type}

/-- A change of the machine as an aside. -/
def change (f : Machine σ κ → Machine σ κ) (keeps : ∀ m, (f m).kept = m.kept) : Aside σ κ :=
  ⟨.modify f, .modify keeps⟩

/-- The stop flag is changed. -/
def stopFlag (raised : Bool) : Aside σ κ := change (Machine.setStop raised) fun _ => rfl

/-- A visit takes place. -/
def visit (visit : Visit) (isLast : Bool) : Aside σ κ :=
  change (Machine.receive visit isLast) (Machine.kept_receive visit isLast)

/-- The board is closed. -/
def close : Aside σ κ := change Machine.close Machine.kept_close

end Aside

namespace Machine
variable {σ κ : Type}

/-- The calls of a loop: the visits and the passes, and the remark on a pass that did not go
well. -/
def loopCalls : List Visit → Machine σ κ → List (Call σ κ)
  | [], _ => []
  | visit :: rest, m =>
    if m.cabinet.stopRaised then []
    else
      .outside (.visit visit rest.isEmpty) :: .step ::
        match step (m.receive visit rest.isEmpty) with
        | (.ok (), m) => loopCalls rest m
        | (.error f, _) =>
          [.outside (.log .error ("device fault, stopping run loop: " ++ f.message))]
        | (.panic message, _) =>
          [.outside (.log .error ("run loop iteration panicked: " ++ message))]

/-- The calls of a run of the loop. -/
def runCalls (visits : List Visit) (m : Machine σ κ) : List (Call σ κ) :=
  .outside (.stopFlag visits.isEmpty) ::
    if m.closed then [.outside (.log .warn "run called on a closed machine")]
    else
      let begun := (m.setStop visits.isEmpty).remark .info "run loop starting"
      let report := (loop visits 0 begun).1
      .outside (.log .info "run loop starting") :: loopCalls visits begun ++
        [.outside .close, .outside (.log .info
          ("run loop stopped after " ++ toString report.iterations ++ " iteration(s): " ++
            report.exit.text))]

theorem afterCalls_append (m : Machine σ κ) (as bs : List (Call σ κ)) :
    m.afterCalls (as ++ bs) = (m.afterCalls as).afterCalls bs := List.foldl_append

theorem loop_eq (visits : List Visit) (iterations : Nat) (m : Machine σ κ) :
    (loop visits iterations m).2 = m.afterCalls (loopCalls visits m) := by
  induction visits generalizing iterations m with
  | nil => rfl
  | cons visit rest ih =>
    have hstep (calls : List (Call σ κ)) :
        m.afterCalls (.outside (.visit visit rest.isEmpty) :: .step :: calls) =
          (step (m.receive visit rest.isEmpty)).2.afterCalls calls := rfl
    simp only [loop, loopCalls]
    split
    · rfl
    · rw [hstep]
      rcases step (m.receive visit rest.isEmpty) with ⟨outcome, m'⟩
      cases outcome with
      | ok _ => exact ih _ _
      | error f => rfl
      | panic message => rfl

theorem run_eq (visits : List Visit) (m : Machine σ κ) :
    (m.run visits).2 = m.afterCalls (runCalls visits m) := by
  have hclosed : (m.setStop visits.isEmpty).closed = m.closed := rfl
  simp only [run, runCalls, hclosed]
  split
  · rfl
  · let begun := (m.setStop visits.isEmpty).remark .info "run loop starting"
    have hfirst (calls : List (Call σ κ)) :
        m.afterCalls (.outside (.stopFlag visits.isEmpty) ::
          .outside (.log .info "run loop starting") :: calls) = begun.afterCalls calls := rfl
    have hloop := loop_eq visits 0 begun
    rw [List.cons_append, hfirst, afterCalls_append, ← hloop]
    rfl

end Machine

namespace Operation
variable {σ κ : Type}

/-- The calls that an operation comes down to. -/
def calls : Operation σ κ → Machine σ κ → List (Call σ κ)
  | .processEvent event, _ => [.processEvent event]
  | .step, _ => [.step]
  | .run visits, m => m.runCalls visits
  | .addMode mode, _ => [.addMode mode]
  | .removeMode id, _ => [.removeMode id]
  | .requestGame request, _ => [.requestGame request]
  | .enableFlippers enable, _ => [.enableFlippers enable]
  | .reset, _ => [.reset]
  | .onFrame handler, _ =>
    [.outside (.change (fun m =>
      { m with engine := { m.engine with frameHandler := some handler } }) fun _ => rfl)]
  | .close, _ => [.outside .close]
  | .enqueue command, _ =>
    [.outside (.change (fun m => { m with cabinet := (m.cabinet.enqueue command).2 }) fun m => by
      simp only [Machine.kept, (m.cabinet.enqueue_frame command).1,
        (m.cabinet.enqueue_frame command).2])]
  | .issue tag, _ =>
    [.outside (.change (fun m =>
      { m with cabinet := { m.cabinet with ids := (m.cabinet.ids.issue tag).2 } }) fun _ => rfl)]
  | .bench act, _ =>
    [.outside (.change (fun m => { m with cabinet := m.cabinet.perform act }) fun m => by
      simp only [Machine.kept, m.cabinet.switches_perform act, m.cabinet.starts_perform act])]
  | .setClock target, _ =>
    [.outside (.change (fun m =>
      { m with cabinet := { m.cabinet with clock := m.cabinet.clock.set target } }) fun _ => rfl)]

theorem perform_eq (op : Operation σ κ) (m : Machine σ κ) :
    (op.perform m).2 = m.afterCalls (op.calls m) := by
  cases op with
  | run visits => exact Machine.run_eq visits m
  | _ => rfl

end Operation

namespace Machine
variable {σ κ : Type}

/-- The calls that operations come down to. -/
def callsOf : List (Operation σ κ) → Machine σ κ → List (Call σ κ)
  | [], _ => []
  | op :: rest, m => op.calls m ++ callsOf rest (op.perform m).2

/-- Operations lead where their calls lead. -/
theorem performAll_eq (ops : List (Operation σ κ)) (m : Machine σ κ) :
    (performAll ops m).2 = m.afterCalls (callsOf ops m) := by
  induction ops generalizing m with
  | nil => rfl
  | cons op rest ih =>
    rw [callsOf, afterCalls_append, ← op.perform_eq]
    exact ih (op.perform m).2

end Machine

end Playfield
