import Playfield.Proofs.Mended.Runs
import Playfield.Proofs.Stage

/-!
# What holds of every operation

Whatever is done with a machine comes down to a few things: the stack or the game is set to work in
a fresh scene, a game is broken off, and the rest concerns neither of them and begins no callback. A
relation that holds of these, and of two steps if it holds of each, holds of every sequence of
operations (`Machine.Spans.performAll`).
-/
namespace Playfield

theorem Bench.keeps_starts_close : Bench.close.Keeps Bench.starts := by
  intro b
  simp only [Bench.close]
  split <;> rw [starts_call_entry] <;> rfl

theorem Cabinet.starts_foldl_undergo (visit : Visit) (c : Cabinet) :
    (visit.foldl (fun c h => c.undergo h) c).bench.starts = c.bench.starts := by
  induction visit generalizing c with
  | nil => rfl
  | cons happening rest ih =>
    refine (ih _).trans ?_
    cases happening with
    | bench act => exact c.starts_perform act
    | command command => exact congrArg Bench.starts (c.enqueue_frame command).2

namespace Machine
variable {σ κ : Type}

/-- The relation holds of all that a machine can be made to do. -/
structure Spans (R : Machine σ κ → Machine σ κ → Prop) : Prop where
  /-- What concerns neither the stack nor the game, and begins no callback. -/
  apart : ∀ {m m' : Machine σ κ}, m'.engine.stack = m.engine.stack →
    m'.engine.game = m.engine.game → m'.cabinet.bench.starts = m.cabinet.bench.starts → R m m'
  breakOff : ∀ m : Machine σ κ,
    R m { m with engine := { m.engine with game := m.engine.game.reset } }
  handDown : ∀ number now, (inContext now (handDown number) : Step σ κ Unit).Within R
  tick : ∀ now, (inContext now Engine.tick : Step σ κ Unit).Within R
  frame : ∀ now, (inContext now Engine.frame : Step σ κ Unit).Within R
  join : ∀ mode now, (inContext now (Engine.onStack (ModeStack.add mode)) : Step σ κ Unit).Within R
  leave : ∀ id now,
    (inContext now (Engine.onStack (ModeStack.remove id)) : Step σ κ Bool).Within R
  clear : ∀ now, (inContext now (Engine.onStack ModeStack.clear) : Step σ κ Unit).Within R
  ask : ∀ request now, (inContext now (Engine.apply (.game request)) : Step σ κ Unit).Within R

section Game
variable {ε α : Type}

/-- The game of the machine. -/
abbrev gameOf (m : Machine σ κ) : Game σ κ := m.engine.game

theorem keeps_game_onCabinet (x : Act ε Cabinet α) :
    (onCabinet x : Act ε (Machine σ κ) α).Keeps gameOf := fun _ => rfl

theorem keeps_game_carryOut (now : Span) (c : Command) :
    (carryOut now c : Step σ κ Unit).Keeps gameOf := by
  refine .bind (.modify fun _ => rfl) fun _ m => ?_
  have hobey := keeps_game_onCabinet (Cabinet.onDrivers (DriverBank.obey c.order now)) m
  split <;> rename_i h <;> rw [h] at hobey <;> exact hobey

theorem keeps_game_drainCommands (now : Span) :
    (drainCommands now : Step σ κ Unit).Keeps gameOf := by
  refine .bind (fun m => ?_) fun commands => .ite ?_ (.pure ())
  · rfl
  · exact .bind (keeps_game_onCabinet _) fun _ => .each (keeps_game_carryOut now) _

end Game

namespace Spans
variable {R : Machine σ κ → Machine σ κ → Prop} (h : Spans R)
include h

theorem of_keeps {ε α : Type} {x : Act ε (Machine σ κ) α} (hkept : x.Keeps kept)
    (hgame : x.Keeps gameOf) : x.Within R :=
  fun m => h.apart (congrArg Prod.fst (hkept m)) (hgame m) (congrArg (fun k => k.2.2) (hkept m))

theorem log {ε : Type} (severity : Severity) (text : String) :
    (log severity text : Act ε (Machine σ κ) Unit).Within R :=
  h.of_keeps (keeps_log severity text) (keeps_game_onCabinet _)

theorem count (f : Stats → Stats) : (count f : Step σ κ Unit).Within R :=
  h.of_keeps (keeps_count f) (.modify fun _ => rfl)

theorem enableFlippers (enable : Bool) : (enableFlippers enable : Step σ κ Bool).Within R :=
  h.of_keeps (keeps_enableFlippers enable) fun _ => rfl

variable [Composes R]

theorem switchChanged (number : Nat) (closed : Bool) (now : Span) :
    (switchChanged number closed now : Step σ κ Unit).Within R := by
  intro m
  have hnoted : R m (m.noted number closed now) := h.apart rfl rfl rfl
  rw [switchChanged_eq]
  split
  · exact Composes.trans hnoted (h.log _ _ _)
  · split
    · refine Composes.trans hnoted ?_
      exact Act.Within.bind (h.count _) (fun _ => h.log _ _) _
    · exact Composes.trans hnoted (h.handDown number now _)

theorem handleEvent (e : Event) (now : Span) : (handleEvent e now : Step σ κ Unit).Within R := by
  intro m
  simp only [Machine.handleEvent]
  cases e.kind.level? with
  | some closed => exact h.switchChanged _ _ now m
  | none =>
    generalize e.kind = kind
    cases kind with
    | frameDisplayed => exact h.frame now m
    | _ => exact h.log _ _ m

theorem step : (step : Step σ κ Unit).Within R :=
  .bind .get fun _ => .bind (h.of_keeps (keeps_onBench (Bench.keeps_starts_poll _)) fun _ => rfl)
    fun events => .bind (fun m => Composes.refl m) fun now =>
    .bind (.each (fun event => h.handleEvent event now) events) fun _ =>
    .bind (h.tick now) fun _ =>
    .bind (h.of_keeps (keeps_onDrivers (DriverBank.keeps_starts_tick now)) fun _ => rfl) fun _ =>
    .bind (h.of_keeps (keeps_drainCommands now) (keeps_game_drainCommands now)) fun _ =>
    .bind (h.of_keeps (keeps_onBench Bench.keeps_starts_tickle) fun _ => rfl) fun _ => h.count _

theorem reset : (reset : Step σ κ Unit).Within R :=
  .bind (h.log _ _) fun _ => .bind .get fun m => .bind (h.clear m.now) fun _ =>
    .bind (.modify h.breakOff) fun _ => .bind (h.enableFlippers false) fun _ => .pure ()

/-! ### Runs of the loop -/

omit [Composes R] in
theorem setStop (raised : Bool) (m : Machine σ κ) : R m (m.setStop raised) := h.apart rfl rfl rfl

omit [Composes R] in
theorem remark (severity : Severity) (text : String) (m : Machine σ κ) :
    R m (m.remark severity text) :=
  h.apart rfl rfl (m.cabinet.bench.starts_remark severity text)

omit [Composes R] in
theorem close (m : Machine σ κ) : R m m.close := by
  have hclose := Bench.keeps_starts_close m.cabinet.bench
  simp only [Machine.close]
  split
  · exact h.apart rfl rfl rfl
  · split <;> rename_i hb <;> rw [hb] at hclose
    · exact h.apart rfl rfl ((Bench.starts_remark _ _ _).trans hclose)
    · exact h.apart rfl rfl hclose

theorem receive (visit : Visit) (isLast : Bool) (m : Machine σ κ) :
    R m (m.receive visit isLast) := by
  have hvisited : R m { m with cabinet := visit.foldl (fun c h => c.undergo h) m.cabinet } :=
    h.apart rfl rfl (Cabinet.starts_foldl_undergo visit m.cabinet)
  simp only [Machine.receive]
  split
  · exact Composes.trans hvisited (h.setStop true _)
  · exact hvisited

theorem loop (visits : List Visit) (iterations : Nat) (m : Machine σ κ) :
    R m (Machine.loop visits iterations m).2 := by
  induction visits generalizing iterations m with
  | nil => exact Composes.refl m
  | cons visit rest ih =>
    have hstep := Composes.trans (h.receive visit rest.isEmpty m) (h.step _)
    simp only [Machine.loop]
    split
    · exact Composes.refl m
    · split <;> rename_i hs <;> rw [hs] at hstep
      · exact Composes.trans hstep (ih _ _)
      · exact Composes.trans hstep (h.remark _ _ _)
      · exact Composes.trans hstep (h.remark _ _ _)

theorem run (visits : List Visit) (m : Machine σ κ) : R m (m.run visits).2 := by
  have hbegun := h.setStop visits.isEmpty m
  simp only [Machine.run]
  split
  · exact Composes.trans hbegun (h.remark _ _ _)
  · have hloop := Composes.trans hbegun
      (Composes.trans (h.remark .info "run loop starting" _) (h.loop visits 0 _))
    exact Composes.trans hloop (Composes.trans (h.close _) (h.remark _ _ _))

theorem perform (op : Operation σ κ) (m : Machine σ κ) : R m (op.perform m).2 := by
  cases op with
  | processEvent event => exact h.handleEvent event m.now m
  | step => exact h.step m
  | run visits => exact h.run visits m
  | addMode mode => exact h.join mode m.now m
  | removeMode id => exact h.leave id m.now m
  | requestGame request => exact h.ask request m.now m
  | enableFlippers enable => exact h.enableFlippers enable m
  | reset => exact h.reset m
  | close => exact h.close m
  | onFrame | issue | setClock => exact h.apart rfl rfl rfl
  | enqueue command =>
    exact h.apart rfl rfl (congrArg Bench.starts (m.cabinet.enqueue_frame command).2)
  | bench act => exact h.apart rfl rfl (m.cabinet.starts_perform act)

/-- The relation holds of every sequence of operations. -/
theorem performAll (ops : List (Operation σ κ)) (m : Machine σ κ) :
    R m (Machine.performAll ops m).2 := by
  induction ops generalizing m with
  | nil => exact Composes.refl m
  | cons op rest ih => exact Composes.trans (h.perform op m) (ih _)

end Spans

end Machine

end Playfield
