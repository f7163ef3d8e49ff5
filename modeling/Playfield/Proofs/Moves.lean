import Playfield.Proofs.Engine
import Playfield.Proofs.Stage

/-!
# What a stage does to held handlers

A stage either begins no switch handler, or it hands a change of level down the stack, or it is a
tick. `Machine.Moves` says of each case what becomes of the switches, of the handlers that have
begun and of those that wait. Every stage makes such a move and keeps the machine sound.
-/
namespace Playfield

namespace ModeStack
variable {σ κ : Type}

theorem filter_begunBy (switch : Switch) (scene : Scene κ) (slots : List (Slot σ κ)) :
    (begunBy switch scene slots).filter (fun start => start.1.isHandler) =
      begunBy switch scene slots := by
  refine List.filter_eq_self.mpr ?_
  intro start hstart
  obtain ⟨slot, -, hslot⟩ := List.mem_flatMap.mp hstart
  obtain ⟨b, -, rfl⟩ := List.mem_map.mp hslot
  rfl

theorem filter_hooksOf (slots : List (Slot σ κ)) (scene : Scene κ) :
    (hooksOf slots scene).filter (fun start => start.1.isHandler) = [] := by
  refine List.filter_eq_nil_iff.mpr ?_
  intro start hstart
  obtain ⟨id, -, rfl⟩ := List.mem_map.mp hstart
  exact Bool.false_ne_true

theorem filter_map_startOf (scene : Scene κ) (due : List Obligation) :
    (due.map (startOf scene)).filter (fun start => start.1.isHandler) =
      due.map (startOf scene) := by
  refine List.filter_eq_self.mpr ?_
  intro start hstart
  obtain ⟨o, -, rfl⟩ := List.mem_map.mp hstart
  rfl

end ModeStack

namespace Machine
variable {σ κ : Type}

/-- The switch handlers that have begun, in order. -/
def handlerStarts (m : Machine σ κ) : List (CallbackSite × Glimpse) := m.cabinet.bench.handlerStarts

/-- The held handlers that wait, in order of registration. -/
def waiting (m : Machine σ κ) : List Obligation := m.engine.stack.holds.pending

/-- Lookups of switches fit, and held handlers wait for good reason. -/
structure Sound (m : Machine σ κ) : Prop where
  coherent : m.cabinet.switches.Coherent
  stack : m.engine.stack.Sound m.cabinet.switches

/-- What can become of the switches, the handlers that have begun and those that wait. -/
inductive Moves (m m' : Machine σ κ) : Prop where
  /-- No switch handler begins. -/
  | quiet (switches : m'.cabinet.switches = m.cabinet.switches)
    (handlers : m'.handlerStarts = m.handlerStarts) (waiting : m'.waiting.Sublist m.waiting)
  /-- A switch changes its level, and some modes from the top of the stack see it. -/
  | change (number : Nat) (old : Switch) (closed : Bool) (scene : Scene κ)
    (slots : List (Slot σ κ))
    (found : m.cabinet.switches.get? number = some old) (changed : old.closed ≠ closed)
    (visited : slots <+: m.engine.stack.slots)
    (switches : m'.cabinet.switches = (m.cabinet.switches.report number closed scene.now).2)
    (handlers : m'.handlerStarts = m.handlerStarts ++
      ModeStack.begunBy (SwitchStore.reported old closed scene.now) scene slots)
    (waiting : m'.waiting.Sublist ((m.waiting.filter fun o => o.switch ≠ old.name) ++
      ModeStack.startedBy (SwitchStore.reported old closed scene.now) scene.now slots))
  /-- What is due calls its handlers. -/
  | tick (scene : Scene κ) (switches : m'.cabinet.switches = m.cabinet.switches)
    (handlers : m'.handlerStarts = m.handlerStarts ++
      (m.engine.stack.holds.due scene.now m.cabinet.switches).map (ModeStack.startOf scene))
    (waiting : m'.waiting.Sublist (m.waiting.filter fun o => scene.now.nanos < o.deadlineNanos))

variable {m m' : Machine σ κ}

/-- An aside is quiet and keeps the machine sound. -/
theorem moves_of_kept (h : m.Sound) (hkept : m'.kept = m.kept) : m.Moves m' ∧ m'.Sound := by
  have hstack : m'.engine.stack = m.engine.stack := congrArg Prod.fst hkept
  have hswitches : m'.cabinet.switches = m.cabinet.switches := congrArg (fun k => k.2.1) hkept
  have hstarts : m'.cabinet.bench.starts = m.cabinet.bench.starts := congrArg (fun k => k.2.2) hkept
  refine ⟨.quiet hswitches ?_ ?_, ?_, ?_⟩
  · rw [handlerStarts, Bench.handlerStarts, hstarts]
    rfl
  · rw [waiting, hstack]
    exact .refl _
  · rw [hswitches]
    exact h.coherent
  · rw [hswitches, hstack]
    exact h.stack

/-- A computation in a fresh scene leads where it leads by itself, and then on as doing what was
asked for leads. -/
theorem inContext_leads {α : Type} {R : Engine σ κ × Scene κ → Engine σ κ × Scene κ → Prop}
    [Composes R] (settle : (Engine.settle : Engine.Step σ κ Unit).Within R) (now : Span)
    (body : Engine.Step σ κ α) (m : Machine σ κ) :
    ∃ t, R (body (m.engine, m.scene now)).2 t ∧
      (inContext now body m).2 = { m with engine := t.1, cabinet := t.2.cabinet } := by
  simp only [inContext]
  generalize body (m.engine, m.scene now) = r
  obtain ⟨outcome, e, s⟩ := r
  cases outcome with
  | panic message => exact ⟨(e, s), Composes.refl _, rfl⟩
  | ok a => exact ⟨_, settle (e, s), rfl⟩
  | error f => exact ⟨_, settle (e, s), rfl⟩

theorem inContext_state {α : Type} (now : Span) (body : Engine.Step σ κ α) (m : Machine σ κ) :
    ∃ e s, Engine.Quiet (body (m.engine, m.scene now)).2 (e, s) ∧
      (inContext now body m).2 = { m with engine := e, cabinet := s.cabinet } := by
  obtain ⟨t, hrest, hstate⟩ := inContext_leads Engine.quiet_settle now body m
  exact ⟨t.1, t.2, hrest, hstate⟩

/-- A quiet computation in a fresh scene makes a quiet move. -/
theorem moves_inContext {α : Type} {body : Engine.Step σ κ α} (hbody : body.Within Engine.Quiet)
    (h : m.Sound) (now : Span) :
    m.Moves (inContext now body m).2 ∧ (inContext now body m).2.Sound := by
  obtain ⟨e, s, hrest, hstate⟩ := inContext_state now body m
  have hall := Composes.trans (hbody (m.engine, m.scene now)) hrest
  rw [hstate]
  refine ⟨.quiet hall.switches hall.handlers hall.waiting, ?_, ?_⟩
  · rw [hall.switches]
    exact h.coherent
  · rw [hall.switches]
    exact hall.sound _ h.stack

/-! ### Ticks -/

theorem moves_tick (h : m.Sound) (now : Span) :
    m.Moves (inContext now Engine.tick m).2 ∧ (inContext now Engine.tick m).2.Sound := by
  obtain ⟨e, s, hrest, hstate⟩ := inContext_state now Engine.tick m
  obtain ⟨t, scene', hline, hsound, hcase⟩ :=
    h.stack.tick_cases (ε := Fault) h.coherent (m.scene now) rfl
  have hafter : (ModeStack.tick (ε := Fault) (m.engine.stack, m.scene now)).2 = (t, scene') := by
    rcases hcase with ⟨htick, -⟩ | ⟨⟨report, htick⟩, -⟩ <;> rw [htick]
  have hall := Composes.trans (Engine.quiet_after_tick m.engine (m.scene now)) hrest
  rw [hafter] at hall
  have hswitches : s.cabinet.switches = m.cabinet.switches := by
    rcases hcase with ⟨-, -, hpass⟩ | ⟨-, -, hpass⟩ <;> exact hall.switches.trans hpass.switches
  rw [hstate]
  refine ⟨?_, ⟨?_, ?_⟩⟩
  · rcases hcase with ⟨-, hpending, hpass⟩ | ⟨-, hpending, hpass⟩
    · have hhandlers := hall.handlers.trans (Scene.handlerStarts_of_starts hpass.starts)
      rw [ModeStack.filter_hooksOf, List.append_nil] at hhandlers
      have hnone := hall.waiting
      rw [hpending] at hnone
      exact .quiet hswitches hhandlers (hnone.trans (List.nil_sublist _))
    · have hhandlers := hall.handlers.trans (Scene.handlerStarts_of_starts hpass.starts)
      rw [List.filter_append, ModeStack.filter_hooksOf, ModeStack.filter_map_startOf,
        List.nil_append] at hhandlers
      have hlater := hall.waiting
      rw [hpending] at hlater
      exact .tick (m.scene now) hswitches hhandlers hlater
  · rw [hswitches]
    exact h.coherent
  · rw [hswitches]
    exact hall.sound _ hsound

/-! ### Events -/

/-- A change of level is handed down the stack, and what follows the walk is quiet. -/
theorem moves_change (h : m.Sound) {number : Nat} {old : Switch} {closed : Bool}
    (found : m.cabinet.switches.get? number = some old) (changed : old.closed ≠ closed)
    (now : Span) : m.Moves (inContext now (handDown number) (m.noted number closed now)).2 ∧
      (inContext now (handDown number) (m.noted number closed now)).2.Sound := by
  obtain ⟨e, s, hrest, hstate⟩ := inContext_state now (handDown number) (m.noted number closed now)
  have hdown := handDown_eq ((m.noted number closed now).scene now)
    (SwitchStore.get?_report found changed) (m.noted number closed now).engine
  let switch := SwitchStore.reported old closed now
  let scene : Scene κ := ((m.noted number closed now).scene now).remark .debug (changeText switch)
  have hremark : Scene.Calm ((m.noted number closed now).scene now) scene :=
    Scene.calm_remark _ _ _
  have hpass := ModeStack.passes_dispatch (ε := Fault) switch m.engine.stack scene
  have hpending : (ModeStack.dispatch (ε := Fault) switch
      (m.engine.stack, scene)).2.1.holds.pending = _ :=
    h.stack.pending_dispatch h.coherent found changed scene
  have hsound := h.stack.dispatch (ε := Fault) h.coherent found changed scene
  have hall := Composes.trans
    (Engine.quiet_after_dispatch switch (m.noted number closed now).engine scene) (hdown ▸ hrest)
  have hswitches : s.cabinet.switches = (m.cabinet.switches.report number closed now).2 :=
    hall.switches.trans hpass.switches
  rw [hstate]
  refine ⟨.change number old closed scene (ModeStack.visited switch m.engine.stack scene) found
    changed (ModeStack.visited_start _ _ _) hswitches ?_ ?_, ⟨?_, ?_⟩⟩
  · have hhandlers := hall.handlers.trans (Scene.handlerStarts_of_starts hpass.starts)
    rw [ModeStack.filter_begunBy, hremark.handlers] at hhandlers
    exact hhandlers
  · have hwaiting : e.stack.holds.pending.Sublist (ModeStack.dispatch (ε := Fault) switch
        (m.engine.stack, scene)).2.1.holds.pending := hall.waiting
    rw [hpending] at hwaiting
    exact hwaiting
  · rw [hswitches]
    exact SwitchStore.coherent_report h.coherent number closed now
  · rw [hswitches]
    exact hall.sound _ hsound

theorem moves_switchChanged (h : m.Sound) (number : Nat) (closed : Bool) (now : Span) :
    m.Moves (switchChanged number closed now m).2 ∧
      (switchChanged number closed now m).2.Sound := by
  cases found : m.cabinet.switches.get? number with
  | none => exact moves_of_kept h (kept_switchChanged_unknown found)
  | some old =>
    by_cases changed : old.closed = closed
    · exact moves_of_kept h (kept_switchChanged_same found changed)
    · rw [switchChanged_change found changed]
      exact moves_change h found changed now

theorem moves_handleEvent (h : m.Sound) (e : Event) (now : Span) :
    m.Moves (handleEvent e now m).2 ∧ (handleEvent e now m).2.Sound := by
  simp only [handleEvent]
  cases e.kind.level? with
  | some closed => exact moves_switchChanged h _ _ now
  | none =>
    generalize e.kind = kind
    cases kind with
    | frameDisplayed => exact moves_inContext Engine.quiet_frame h now
    | _ => exact moves_of_kept h (keeps_log _ _ m)

end Machine

/-- Every stage makes a move and keeps the machine sound. -/
theorem Stage.moves {σ κ : Type} {m : Machine σ κ} (st : Stage σ κ) (h : m.Sound) :
    m.Moves (st.run m) ∧ (st.run m).Sound := by
  cases st with
  | event e now => exact Machine.moves_handleEvent h e now
  | tick now => exact Machine.moves_tick h now
  | join mode now =>
    exact Machine.moves_inContext
      (Engine.quiet_of_calm (Engine.calm_onStack (ModeStack.calm_add mode))) h now
  | leave id now =>
    rw [Stage.run, Stage.act, Act.state_discard]
    exact Machine.moves_inContext
      (Engine.quiet_of_calm (Engine.calm_onStack (ModeStack.calm_remove id))) h now
  | clear now =>
    exact Machine.moves_inContext
      (Engine.quiet_of_calm (Engine.calm_onStack ModeStack.calm_clear)) h now
  | ask request now =>
    exact Machine.moves_inContext (Engine.quiet_of_calm (Engine.calm_apply (.game request))) h now
  | aside a => exact Machine.moves_of_kept h (a.keeps m)

end Playfield
