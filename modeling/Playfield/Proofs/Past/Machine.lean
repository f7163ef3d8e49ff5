import Playfield.Proofs.Engine
import Playfield.Proofs.Past.Stack

/-!
# Machines do not look back

Requests, walks, passes and whole steps of a machine do the same after any past.
-/
namespace Playfield

variable (p : Past) {σ κ : Type}

/-! ### The game -/

namespace Game

theorem commutes_update (f : GameStatus → GameStatus) :
    (update f : Step σ κ Unit).Commutes (Scene.beside p) := fun _ => rfl

theorem commutes_updateBanks (f : List Nat → List Nat) :
    (updateBanks f : Step σ κ Unit).Commutes (Scene.beside p) := fun _ => rfl

theorem commutes_log (severity : Severity) (text : String) :
    (log severity text : Step σ κ Unit).Commutes (Scene.beside p) :=
  (Scene.commutes_log p severity text).second

theorem commutes_reveal : (reveal : Step σ κ Unit).Commutes (Scene.beside p) := fun _ => rfl

theorem commutes_notify (h : GameHook) : (notify h : Step σ κ Unit).Commutes (Scene.beside p) := by
  rintro ⟨g, scene⟩
  have hbegin : ({ scene.after p with game := g.status } : Scene κ).begin (.lifecycle h) =
      ({ scene with game := g.status }.begin (.lifecycle h)).after p :=
    Scene.begin_after p _ { scene with game := g.status }
  have hplay := (g.hook h g.memory).commutes_play p
    (g.memory, { scene with game := g.status }.begin (.lifecycle h))
  simp only [Act.mapState] at hplay
  simp only [notify, Act.mapState, hbegin, hplay, Scene.remark_after]
  split <;> rfl

theorem commutes_whilePlaying (request : String) {x : Step σ κ Unit}
    (hx : x.Commutes (Scene.beside p)) :
    (whilePlaying request x).Commutes (Scene.beside p) := by
  rintro ⟨g, scene⟩
  by_cases hplaying : g.status.inProgress = true
  · simp only [whilePlaying, Act.mapState, hplaying, if_true]
    exact hx (g, scene)
  · simp only [whilePlaying, Act.mapState, hplaying]
    exact commutes_log p _ _ (g, scene)

theorem commutes_startGame : (startGame : Step σ κ Unit).Commutes (Scene.beside p) := by
  have start : Act.Commutes (Scene.beside p) (do
      update fun s => { s with
        ball := 1, players := 0, currentPlayer := 0, ballStartedAt := none, inProgress := true }
      updateBanks fun _ => []
      notify .gameStarted : Step σ κ Unit) :=
    .bind (commutes_update p _) fun _ => .bind (commutes_updateBanks p _) fun _ =>
      commutes_notify p _
  exact .read (fun _ => rfl) fun _ => .ite (.bind (commutes_log p _ _) fun _ => start) start

theorem commutes_addPlayer : (addPlayer : Step σ κ Unit).Commutes (Scene.beside p) :=
  .bind (commutes_whilePlaying p _ (.bind (commutes_update p _) fun _ => commutes_updateBanks p _))
    fun _ => commutes_reveal p

theorem commutes_startBall : (startBall : Step σ κ Unit).Commutes (Scene.beside p) :=
  commutes_whilePlaying p _ (.read (fun _ => rfl) fun _ => .bind (commutes_update p _) fun _ =>
    commutes_notify p _)

theorem commutes_endGame : (endGame : Step σ κ Unit).Commutes (Scene.beside p) := by
  rintro ⟨g, scene⟩
  have hnotify (g : Game σ κ) := commutes_notify p .gameEnded (g, scene)
  simp only [Act.mapState] at hnotify
  by_cases hplaying : g.status.inProgress = true
  · simp only [endGame, Act.mapState, hplaying, if_true, hnotify]
    rfl
  · simp only [endGame, Act.mapState, hplaying]
    rfl

theorem commutes_rotate : (rotate : Step σ κ Unit).Commutes (Scene.beside p) :=
  .read (fun _ => rfl) fun _ => .ite (.bind (commutes_update p _) fun _ => commutes_log p _ _)
    (commutes_update p _)

theorem commutes_nextBall : (nextBall : Step σ κ Unit).Commutes (Scene.beside p) :=
  .bind (commutes_rotate p) fun _ => .read (fun _ => rfl) fun _ =>
    .ite (commutes_endGame p) (commutes_startBall p)

theorem commutes_endBall : (endBall : Step σ κ Unit).Commutes (Scene.beside p) := by
  refine commutes_whilePlaying p _ (.read (fun _ => rfl) fun (g, scene) => ?_)
  have rest : Act.Commutes (Scene.beside p) (do
      notify .ballEnded
      if 0 < g.extraBalls g.status.currentPlayer then
        updateBanks fun banks => banks.modify g.status.currentPlayer (· - 1)
        log .debug ("player " ++ toString (g.status.currentPlayer + 1) ++ " shoots again")
        update fun s => { s with ballStartedAt := some scene.now }
        notify .shootAgain
      else nextBall : Step σ κ Unit) :=
    .bind (commutes_notify p _) fun _ => .ite
      (.bind (commutes_updateBanks p _) fun _ => .bind (commutes_log p _ _) fun _ =>
        .bind (commutes_update p _) fun _ => commutes_notify p _)
      (commutes_nextBall p)
  dsimp only
  cases g.status.ballStartedAt with
  | none => exact rest
  | some started => exact .bind (commutes_log p _ _) fun _ => rest

theorem commutes_awardExtraBall : (awardExtraBall : Step σ κ Unit).Commutes (Scene.beside p) :=
  .read (fun _ => rfl) fun _ => .ite (commutes_updateBanks p _) (commutes_log p _ _)

theorem commutes_apply (r : GameRequest) : (apply r : Step σ κ Unit).Commutes (Scene.beside p) := by
  refine .bind (commutes_log p _ _) fun _ => ?_
  cases r with
  | startGame => exact commutes_startGame p
  | addPlayer => exact commutes_addPlayer p
  | startBall => exact commutes_startBall p
  | endBall => exact commutes_endBall p
  | endGame => exact commutes_endGame p
  | awardExtraBall => exact commutes_awardExtraBall p
  | updateLamps => exact commutes_notify p _

end Game

/-! ### The engine -/

/-- The counters with a past before them. -/
def Stats.after (s : Stats) : Stats := { s with frames := p.frames + s.frames }

namespace Engine
variable {α : Type}

/-- An engine and a scene with a past before their own. -/
def after (s : Engine σ κ × Scene κ) : Engine σ κ × Scene κ :=
  ({ s.1 with stats := s.1.stats.after p }, s.2.after p)

theorem commutes_onStack {x : Act Fault (ModeStack σ κ × Scene κ) α}
    (hx : x.Commutes (Scene.beside p)) : (onStack x).Commutes (after p) :=
  hx.zoom (fun _ => rfl) fun _ _ => rfl

theorem commutes_onGame {x : Act Fault (Game σ κ × Scene κ) α}
    (hx : x.Commutes (Scene.beside p)) : (onGame x).Commutes (after p) :=
  hx.zoom (fun _ => rfl) fun _ _ => rfl

theorem commutes_onRules {x : Act Fault (FlipperRules × DriverBank × Bench) α}
    (hx : x.Commutes (Act.mapState (Bench.beside p))) :
    (onRules x : Step σ κ α).Commutes (after p) :=
  hx.zoom (fun _ => rfl) fun _ _ => rfl

theorem commutes_count {f : Stats → Stats} (hf : ∀ s : Stats, f (s.after p) = (f s).after p) :
    (count f : Step σ κ Unit).Commutes (after p) :=
  .modify fun (e, scene) => congrArg (fun stats => ({ e with stats }, scene.after p)) (hf e.stats)

theorem commutes_inScene {f : Engine σ κ → Scene κ → Scene κ}
    (hf : ∀ s, f (after p s).1 (after p s).2 = (f s.1 s.2).after p) :
    (inScene f).Commutes (after p) :=
  .modify fun s => congrArg (Prod.mk _) (hf s)

theorem commutes_log (severity : Severity) (text : String) :
    (log severity text : Step σ κ Unit).Commutes (after p) := by
  rintro ⟨e, scene⟩
  have hremark := scene.remark_after p severity text
  exact congrArg (fun scene => (Outcome.ok (), (after p (e, scene)).1, scene)) hremark

theorem commutes_apply (r : Request κ) : (apply r : Step σ κ Unit).Commutes (after p) := by
  cases r with
  | addMode id kind =>
    exact .read (fun _ => rfl) fun _ => commutes_onStack p (ModeStack.commutes_add p _)
  | removeMode id =>
    exact .bind (commutes_onStack p (ModeStack.commutes_remove p id)) fun _ =>
      .ite (.read (fun _ => rfl) fun _ => commutes_log p _ _) (.pure ())
  | game request =>
    exact .bind (commutes_onGame p (Game.commutes_apply p request)) fun _ =>
      commutes_inScene p fun _ => rfl
  | flippers enable =>
    exact .read (fun _ => rfl) fun s => .bind
      (commutes_onRules p (FlipperRules.commutes_setEnabled p enable s.2.now)) fun _ =>
        commutes_inScene p fun _ => rfl

theorem commutes_settleRounds (rounds : Nat) :
    (settleRounds rounds : Step σ κ Unit).Commutes (after p) := by
  induction rounds with
  | zero =>
    exact .read (fun _ => rfl) fun _ => .bind (commutes_inScene p fun _ => rfl) fun _ =>
      .ite (commutes_log p _ _) (.pure ())
  | succ rounds ih =>
    exact .read (fun _ => rfl) fun _ => .bind (commutes_inScene p fun _ => rfl) fun _ =>
      .ite (.bind (.each (commutes_apply p) _) fun _ => ih) (.pure ())

theorem commutes_settle : (settle : Step σ κ Unit).Commutes (after p) :=
  commutes_settleRounds p maxRounds

/-- The end of a walk or a pass. -/
theorem commutes_record_settle (report : Report) :
    (do record report; settle; Act.finish report.check : Step σ κ Unit).Commutes (after p) :=
  .bind (commutes_count p fun _ => rfl) fun _ => .bind (commutes_settle p) fun _ => .finish _

theorem commutes_dispatch (switch : Switch) :
    (dispatch switch : Step σ κ Unit).Commutes (after p) :=
  .bind (commutes_count p fun _ => rfl) fun _ =>
    .bind (commutes_onStack p (ModeStack.commutes_dispatch p switch)) fun _ =>
      commutes_record_settle p _

theorem commutes_tick : (tick : Step σ κ Unit).Commutes (after p) :=
  .bind (commutes_onStack p (ModeStack.commutes_tick p)) fun _ => commutes_record_settle p _

theorem commutes_frame : (frame : Step σ κ Unit).Commutes (after p) := by
  have failed (text : String) : (failFrame text : Step σ κ Unit).Commutes (after p) :=
    .bind (commutes_count p fun _ => rfl) fun _ => commutes_log p _ _
  refine .bind (commutes_count p fun _ => rfl) fun _ => .read (fun _ => rfl) fun (e, _) => ?_
  dsimp only
  cases e.frameHandler with
  | none => exact .pure ()
  | some handler =>
    refine .bind (commutes_inScene p fun s => s.2.begin_after p .frame) fun _ =>
      .bind (fun (e, scene) => ?_) fun outcome => ?_
    · have hplay := (handler.run handler.memory).commutes_play p (handler.memory, scene)
      simp only [Act.mapState] at hplay
      simp only [after, Act.mapState, hplay]
    · split
      · exact commutes_settle p
      · exact .bind (.fail _) fun _ => commutes_settle p
      · exact .bind (failed _) fun _ => commutes_settle p
      · exact .bind (failed _) fun _ => commutes_settle p

end Engine

/-! ### The machine -/

namespace Machine
variable {ε α : Type}

/-- The machine with a past before its own. -/
def after (m : Machine σ κ) : Machine σ κ :=
  { m with
    cabinet := m.cabinet.after p
    engine := { m.engine with stats := m.engine.stats.after p } }

/-- The machine without its past: with an empty journal, and no frames counted. -/
def bare (m : Machine σ κ) : Machine σ κ :=
  { m with
    cabinet := { m.cabinet with bench := { m.cabinet.bench with journal := #[] } }
    engine := { m.engine with stats := { m.engine.stats with frames := 0 } } }

/-- The past of the machine. -/
def past (m : Machine σ κ) : Past :=
  { entries := m.cabinet.bench.journal, frames := m.engine.stats.frames }

theorem bare_after_past (m : Machine σ κ) : m.bare.after m.past = m := by
  simp only [after, bare, past, Cabinet.after, Bench.after, Stats.after, Array.append_empty,
    Nat.add_zero, Bool.false_or]

theorem commutes_onCabinet {x : Act ε Cabinet α} (hx : x.Commutes (Cabinet.after p)) :
    (onCabinet x : Act ε (Machine σ κ) α).Commutes (after p) :=
  hx.zoom (fun _ => rfl) fun _ _ => rfl

theorem commutes_log (severity : Severity) (text : String) :
    (log severity text : Act ε (Machine σ κ) Unit).Commutes (after p) :=
  commutes_onCabinet p (Cabinet.commutes_log p severity text)

theorem commutes_count {f : Stats → Stats} (hf : ∀ s : Stats, f (s.after p) = (f s).after p) :
    (count f : Step σ κ Unit).Commutes (after p) :=
  .modify fun m => congrArg
    (fun stats => { m.after p with engine := { m.engine with stats } }) (hf m.engine.stats)

theorem commutes_inContext (now : Span) {body : Engine.Step σ κ α}
    (hbody : body.Commutes (Engine.after p)) : (inContext now body).Commutes (after p) := by
  intro m
  have hrun : body ((m.after p).engine, (m.after p).scene now) =
      Act.mapState (Engine.after p) (body (m.engine, m.scene now)) :=
    hbody (m.engine, m.scene now)
  simp only [inContext, hrun]
  rcases body (m.engine, m.scene now) with ⟨value, e, scene⟩
  have hsettle := Engine.commutes_settle p (e, scene)
  simp only [Engine.after, Act.mapState] at hsettle
  cases value with
  | panic message => rfl
  | ok a | error f => simp only [Act.mapState, Engine.after, hsettle]; rfl

theorem commutes_switchChanged (number : Nat) (closed : Bool) (now : Span) :
    (switchChanged number closed now : Step σ κ Unit).Commutes (after p) := by
  refine .bind (commutes_count p fun _ => rfl) fun _ => .bind (fun _ => rfl) fun previous => ?_
  cases previous with
  | none => exact commutes_log p _ _
  | some previous =>
    refine .ite (.bind (commutes_count p fun _ => rfl) fun _ => commutes_log p _ _)
      (commutes_inContext p now (.read (fun _ => rfl) fun (_, scene) => ?_))
    dsimp only
    cases scene.cabinet.switches.get? number with
    | none => exact .pure ()
    | some switch =>
      exact .bind (Engine.commutes_log p _ _) fun _ => Engine.commutes_dispatch p switch

theorem commutes_handleEvent (event : Event) (now : Span) :
    (handleEvent event now : Step σ κ Unit).Commutes (after p) := by
  simp only [handleEvent]
  split
  · exact commutes_switchChanged p _ _ _
  · split
    · exact commutes_inContext p now (Engine.commutes_frame p)
    · exact commutes_log p _ _

theorem commutes_carryOut (now : Span) (c : Command) :
    (carryOut now c : Step σ κ Unit).Commutes (after p) := by
  refine .bind (commutes_count p fun _ => rfl) fun _ m => ?_
  have hobey := commutes_onCabinet p (σ := σ) (κ := κ)
    (Cabinet.commutes_onDrivers p (DriverBank.commutes_obey p c.order now)) m
  simp only [hobey]
  rcases onCabinet (Cabinet.onDrivers (DriverBank.obey c.order now)) m with ⟨outcome, m'⟩
  cases outcome with
  | ok _ => rfl
  | panic message => rfl
  | error e =>
    cases e with
    | board f => rfl
    | unknown name => exact commutes_log p _ _ m'
    | notVirtual name => exact commutes_log p _ _ m'

theorem commutes_drainCommands (now : Span) :
    (drainCommands now : Step σ κ Unit).Commutes (after p) :=
  .bind (fun _ => rfl) fun _ => .ite
    (.bind (commutes_log p _ _) fun _ => .each (commutes_carryOut p now) _) (.pure ())

/-- What comes after the events of a step. -/
theorem commutes_rest (now : Span) : Act.Commutes (after p) (do
    inContext now Engine.tick
    onCabinet (Cabinet.onDrivers (DriverBank.tick now))
    drainCommands now
    onCabinet (Cabinet.onBench Bench.tickle)
    count fun s => { s with iterations := s.iterations + 1 } : Step σ κ Unit) :=
  .bind (commutes_inContext p now (Engine.commutes_tick p)) fun _ =>
    .bind (commutes_onCabinet p (Cabinet.commutes_onDrivers p (DriverBank.commutes_tick p now)))
      fun _ => .bind (commutes_drainCommands p now) fun _ =>
    .bind (commutes_onCabinet p (Cabinet.commutes_onBench p (Bench.commutes_call p _ _ _)))
      fun _ => commutes_count p fun _ => rfl

/-- A whole step is the same after any past. -/
theorem commutes_step : (step : Step σ κ Unit).Commutes (after p) :=
  .read (fun _ => rfl) fun _ =>
    .bind (commutes_onCabinet p (Cabinet.commutes_onBench p (Bench.commutes_call p _ _ _)))
      fun events => .bind (fun _ => rfl) fun now =>
    .bind (.each (fun event => commutes_handleEvent p event now) events) fun _ =>
      commutes_rest p now

end Machine

end Playfield
