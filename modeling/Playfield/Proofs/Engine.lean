import Playfield.Machine
import Playfield.Proofs.Holds

/-!
# What the engine does besides walks and ticks

Carrying out what was asked for, running the game and the frame callback: all of it leaves the time,
the switches and the switch handlers that have begun as they are, loses nothing that was asked for,
and of the held handlers that wait it can only drop some.
-/
namespace Playfield

namespace Scene
variable {κ : Type}

/-- The switch handlers that have begun, in order. -/
def handlerStarts (s : Scene κ) : List (CallbackSite × Glimpse) := s.cabinet.bench.handlerStarts

/-- No switch handler begins, and nothing that was asked for is lost. -/
structure Calm (s t : Scene κ) : Prop where
  now : t.now = s.now
  switches : t.cabinet.switches = s.cabinet.switches
  handlers : t.handlerStarts = s.handlerStarts
  asked : s.requests <+: t.requests

theorem Calm.refl (s : Scene κ) : s.Calm s := ⟨rfl, rfl, rfl, List.prefix_rfl⟩

theorem Calm.trans {s t u : Scene κ} (h : s.Calm t) (h' : t.Calm u) : s.Calm u where
  now := h'.now.trans h.now
  switches := h'.switches.trans h.switches
  handlers := h'.handlers.trans h.handlers
  asked := h.asked.trans h'.asked

theorem handlerStarts_of_starts {s t : Scene κ} {began : List (CallbackSite × Glimpse)}
    (h : t.starts = s.starts ++ began) : t.handlerStarts =
      s.handlerStarts ++ began.filter fun start => start.1.isHandler := by
  have h' : t.cabinet.bench.starts = s.cabinet.bench.starts ++ began := h
  rw [handlerStarts, Bench.handlerStarts, h', List.filter_append]
  rfl

/-- Callbacks that are no switch handlers are calm. -/
theorem Passes.calm {s t : Scene κ} {began : List (CallbackSite × Glimpse)} (h : s.Passes began t)
    (hbegan : ∀ start ∈ began, start.1.isHandler = false) : s.Calm t where
  now := h.now
  switches := h.switches
  handlers := by
    have hnone : began.filter (fun start => start.1.isHandler) = [] :=
      List.filter_eq_nil_iff.mpr fun start hstart => by simp [hbegan start hstart]
    rw [handlerStarts_of_starts h.starts, hnone, List.append_nil]
  asked := h.asked

theorem calm_remark (severity : Severity) (text : String) (s : Scene κ) :
    s.Calm (s.remark severity text) :=
  (s.passes_remark severity text).calm fun _ h => nomatch h

theorem calm_begin {site : CallbackSite} (h : site.isHandler = false) (s : Scene κ) :
    s.Calm (s.begin site) where
  now := rfl
  switches := rfl
  handlers := by
    rw [handlerStarts_of_starts (starts_begin site s), List.filter_cons, h]
    exact List.append_nil _
  asked := List.prefix_rfl

end Scene

/-- Running a callback is calm; a switch handler is one for its start only. -/
theorem Callback.calm_play {σ κ : Type} (c : Callback σ κ) (m : σ) (scene : Scene κ) :
    scene.Calm (c.play (m, scene)).2.2 :=
  (c.play_passes m scene).calm fun _ h => nomatch h

/-! ### The game -/

namespace Game
variable {σ κ : Type}

/-- Where a ball leads that is not shot again: to the next player or ball, or to the end. -/
def nextBall : Step σ κ Unit := do
  rotate
  let s ← .get
  if s.1.status.ballsPerGame < s.1.status.ball then endGame else startBall

/-- The relation holds of all that requests to the game are made of. -/
structure Spans (R : Game σ κ × Scene κ → Game σ κ × Scene κ → Prop) : Prop where
  log : ∀ severity text, (log severity text : Step σ κ Unit).Within R
  update : ∀ f, (update f : Step σ κ Unit).Within R
  updateBanks : ∀ f, (updateBanks f : Step σ κ Unit).Within R
  reveal : (reveal : Step σ κ Unit).Within R
  notify : ∀ hook, (notify hook : Step σ κ Unit).Within R

namespace Spans
variable {R : Game σ κ × Scene κ → Game σ κ × Scene κ → Prop} (h : Spans R)
include h

theorem whilePlaying (request : String) {x : Step σ κ Unit} (hx : x.Within R) :
    (whilePlaying request x).Within R := by
  intro state
  obtain ⟨g, scene⟩ := state
  simp only [Game.whilePlaying]
  split
  · exact hx (g, scene)
  · exact h.log _ _ (g, scene)

variable [Composes R]

theorem startGame : (startGame : Step σ κ Unit).Within R := by
  have start : Act.Within R (do
      Game.update fun s => { s with
        ball := 1, players := 0, currentPlayer := 0, ballStartedAt := none, inProgress := true }
      Game.updateBanks fun _ => []
      Game.notify .gameStarted : Step σ κ Unit) :=
    .bind (h.update _) fun _ => .bind (h.updateBanks _) fun _ => h.notify _
  exact .bind .get fun _ => .ite (.bind (h.log _ _) fun _ => start) start

theorem addPlayer : (addPlayer : Step σ κ Unit).Within R :=
  .bind (h.whilePlaying _ (.bind (h.update _) fun _ => h.updateBanks _)) fun _ => h.reveal

theorem startBall : (startBall : Step σ κ Unit).Within R :=
  h.whilePlaying _ (.bind .get fun _ => .bind (h.update _) fun _ => h.notify _)

theorem endGame : (endGame : Step σ κ Unit).Within R := by
  intro state
  obtain ⟨g, scene⟩ := state
  let ended : Game σ κ :=
    { g with status := { g.status with inProgress := false, ballStartedAt := none } }
  have hended : R (g, scene) (ended, scene) :=
    h.update (fun s => { s with inProgress := false, ballStartedAt := none }) (g, scene)
  have hnotify := h.notify .gameEnded (ended, scene)
  simp only [Game.endGame]
  split
  · generalize Game.notify .gameEnded _ = notified at hnotify ⊢
    obtain ⟨outcome, s⟩ := notified
    have hrest : Act.Within R
        (do Game.update fun s => { s with ball := 0 }; Game.reveal : Step σ κ Unit) :=
      .bind (h.update _) fun _ => h.reveal
    exact Composes.trans (Composes.trans hended hnotify) (hrest s)
  · exact Composes.refl _

theorem rotate : (rotate : Step σ κ Unit).Within R :=
  .bind .get fun _ => .ite (.bind (h.update _) fun _ => h.log _ _) (h.update _)

theorem nextBall : (nextBall : Step σ κ Unit).Within R :=
  .bind h.rotate fun _ => .bind .get fun _ => .ite h.endGame h.startBall

theorem endBall : (endBall : Step σ κ Unit).Within R := by
  refine h.whilePlaying _ (.bind .get fun s => ?_)
  obtain ⟨g, scene⟩ := s
  have finish (player : Nat) : Act.Within R (do
      Game.notify .ballEnded
      if 0 < g.extraBalls player then
        Game.updateBanks fun banks => banks.modify player (· - 1)
        Game.log .debug ("player " ++ toString (player + 1) ++ " shoots again")
        Game.update fun s => { s with ballStartedAt := some scene.now }
        Game.notify .shootAgain
      else Game.nextBall : Step σ κ Unit) :=
    .bind (h.notify _) fun _ => .ite
      (.bind (h.updateBanks _) fun _ => .bind (h.log _ _) fun _ =>
        .bind (h.update _) fun _ => h.notify _)
      h.nextBall
  dsimp only
  split
  · exact .bind (h.log _ _) fun _ => finish _
  · exact finish _

theorem awardExtraBall : (awardExtraBall : Step σ κ Unit).Within R :=
  .bind .get fun _ => .ite (h.updateBanks _) (h.log _ _)

/-- The relation holds of whatever is asked of the game. -/
theorem apply (r : GameRequest) : (apply r : Step σ κ Unit).Within R := by
  refine .bind (h.log _ _) ?_
  intro _
  cases r with
  | startGame => exact h.startGame
  | addPlayer => exact h.addPlayer
  | startBall => exact h.startBall
  | endBall => exact h.endBall
  | endGame => exact h.endGame
  | awardExtraBall => exact h.awardExtraBall
  | updateLamps => exact h.notify _

end Spans

/-- The scene stays calm. -/
abbrev Calm (s t : Game σ κ × Scene κ) : Prop := s.2.Calm t.2

instance : Composes (Calm (σ := σ) (κ := κ)) where
  refl s := .refl s.2
  trans := Scene.Calm.trans

theorem calm_notify (h : GameHook) : (notify h : Step σ κ Unit).Within Calm := by
  intro state
  obtain ⟨g, scene⟩ := state
  have hshown : scene.Calm { scene with game := g.status } := ⟨rfl, rfl, rfl, List.prefix_rfl⟩
  have hbegin : Scene.Calm { scene with game := g.status }
    (Scene.begin (.lifecycle h) { scene with game := g.status }) := Scene.calm_begin rfl _
  have hplay := (g.hook h g.memory).calm_play g.memory
    (Scene.begin (.lifecycle h) { scene with game := g.status })
  have hcalm := (hshown.trans hbegin).trans hplay
  simp only [notify]
  generalize (g.hook h g.memory).play _ = played at hcalm ⊢
  obtain ⟨outcome, memory, after⟩ := played
  dsimp only at hcalm ⊢
  split
  · exact hcalm
  · exact hcalm
  · exact hcalm.trans (Scene.calm_remark _ _ _)

theorem spans_calm : Spans (Calm (σ := σ) (κ := κ)) where
  log severity text := fun (_, scene) => scene.calm_remark severity text
  update _ := .modify fun s => .refl s.2
  updateBanks _ := .modify fun s => .refl s.2
  reveal := .modify fun _ => ⟨rfl, rfl, rfl, List.prefix_rfl⟩
  notify := calm_notify

/-- Whatever is asked of the game, the scene stays calm. -/
theorem calm_apply (r : GameRequest) : (apply r : Step σ κ Unit).Within Calm := spans_calm.apply r

end Game

/-! ### The mode stack -/

namespace ModeStack
variable {σ κ : Type}

/-- The scene stays calm, and of the held handlers that wait some may be dropped. -/
structure Calm (s t : ModeStack σ κ × Scene κ) : Prop where
  scene : s.2.Calm t.2
  waiting : t.1.holds.pending.Sublist s.1.holds.pending
  sound : ∀ store, s.1.Sound store → t.1.Sound store

instance : Composes (Calm (σ := σ) (κ := κ)) where
  refl s := ⟨.refl s.2, .refl _, fun _ h => h⟩
  trans h h' := ⟨h.scene.trans h'.scene, h'.waiting.trans h.waiting,
    fun store hs => h'.sound store (h.sound store hs)⟩

/-- As `Calm`, but what was asked for may be gone. -/
structure Quiet (s t : ModeStack σ κ × Scene κ) : Prop where
  now : t.2.now = s.2.now
  switches : t.2.cabinet.switches = s.2.cabinet.switches
  handlers : t.2.handlerStarts = s.2.handlerStarts
  waiting : t.1.holds.pending.Sublist s.1.holds.pending
  sound : ∀ store, s.1.Sound store → t.1.Sound store

instance : Composes (Quiet (σ := σ) (κ := κ)) where
  refl _ := ⟨rfl, rfl, rfl, .refl _, fun _ h => h⟩
  trans h h' := ⟨h'.now.trans h.now, h'.switches.trans h.switches, h'.handlers.trans h.handlers,
    h'.waiting.trans h.waiting, fun store hs => h'.sound store (h.sound store hs)⟩

theorem Calm.quiet {s t : ModeStack σ κ × Scene κ} (h : Calm s t) : Quiet s t :=
  ⟨h.scene.now, h.scene.switches, h.scene.handlers, h.waiting, h.sound⟩

theorem calm_add (m : Mode σ κ) : (add m).Within Calm := by
  intro state
  obtain ⟨s, scene⟩ := state
  refine ⟨?_, ?_, fun store h => h.add m scene⟩
  all_goals by_cases hm : m.id ∈ idsOf s.slots
  · exact (add_there hm scene).2.calm fun _ h => nomatch h
  · obtain ⟨m', -, -, -, -, hpass⟩ := add_new hm scene
    exact hpass.calm (by simp [CallbackSite.isHandler])
  · rw [(add_there hm scene).1]
  · obtain ⟨m', -, -, hholds, -, -⟩ := add_new hm scene
    rw [hholds]

theorem calm_remove (id : ModeId) : (remove (σ := σ) (κ := κ) id).Within Calm := by
  intro state
  obtain ⟨s, scene⟩ := state
  refine ⟨?_, ?_, fun store h => h.remove id scene⟩
  all_goals by_cases hid : id ∈ idsOf s.slots
  · obtain ⟨-, -, -, hpass⟩ := remove_present hid scene
    exact hpass.calm (by simp [CallbackSite.isHandler])
  · rw [remove_absent hid scene]
    exact .refl scene
  · obtain ⟨-, hholds, -, -⟩ := remove_present hid scene
    rw [hholds]
    exact List.filter_sublist
  · rw [remove_absent hid scene]

theorem calm_clear : (clear (σ := σ) (κ := κ)).Within Calm := clear_within calm_remove

end ModeStack

/-! ### The engine -/

namespace Engine
variable {σ κ : Type}

/-- The stack and the scene stay calm. -/
abbrev Calm (s t : Engine σ κ × Scene κ) : Prop :=
  ModeStack.Calm (s.1.stack, s.2) (t.1.stack, t.2)

instance : Composes (Calm (σ := σ) (κ := κ)) where
  refl s := Composes.refl (s.1.stack, s.2)
  trans h h' := Composes.trans (R := ModeStack.Calm) h h'

/-- What changes the scene only is calm if the scene stays calm. -/
theorem calm_of_scene {e f : Engine σ κ} {s t : Scene κ} (h : s.Calm t)
    (hstack : f.stack = e.stack) : Calm (e, s) (f, t) where
  scene := h
  waiting := by rw [hstack]
  sound store hs := by rwa [hstack]

variable {α : Type}

theorem calm_onStack {x : Act Fault (ModeStack σ κ × Scene κ) α} (hx : x.Within ModeStack.Calm) :
    (onStack x).Within Calm :=
  hx.zoom fun _ _ h => h

theorem calm_onGame {x : Act Fault (Game σ κ × Scene κ) α} (hx : x.Within Game.Calm) :
    (onGame x).Within Calm :=
  hx.zoom fun _ _ h => calm_of_scene h rfl

theorem calm_onRules {x : Act Fault (FlipperRules × DriverBank × Bench) α}
    (hx : x.Keeps fun s => s.2.2.starts) : (onRules (σ := σ) (κ := κ) x).Within Calm := by
  refine hx.zoom fun s t h => calm_of_scene ⟨rfl, rfl, ?_, List.prefix_rfl⟩ rfl
  exact congrArg (List.filter fun start => start.1.isHandler) h

theorem calm_count (f : Stats → Stats) : (count f : Step σ κ Unit).Within Calm :=
  .modify fun s => calm_of_scene (.refl s.2) rfl

theorem calm_inScene {f : Engine σ κ → Scene κ → Scene κ}
    (hf : ∀ e scene, Scene.Calm scene (f e scene)) : (inScene f).Within Calm :=
  .modify fun s => calm_of_scene (hf s.1 s.2) rfl

theorem calm_log (severity : Severity) (text : String) :
    (log severity text : Step σ κ Unit).Within Calm :=
  fun s => calm_of_scene (s.2.calm_remark severity text) rfl

/-- Whatever is done that was asked for, the engine stays calm. -/
theorem calm_apply (r : Request κ) : (apply r : Step σ κ Unit).Within Calm := by
  cases r with
  | addMode id kind => exact .bind .get fun (e, _) => calm_onStack (ModeStack.calm_add _)
  | removeMode id =>
    exact .bind (calm_onStack (ModeStack.calm_remove id)) fun _ =>
      .ite (.bind .get fun _ => calm_log _ _) (.pure ())
  | game request =>
    exact .bind (calm_onGame (Game.calm_apply request)) fun _ =>
      calm_inScene fun _ _ => ⟨rfl, rfl, rfl, List.prefix_rfl⟩
  | flippers enable =>
    exact .bind .get fun _ =>
      .bind (calm_onRules (FlipperRules.keeps_starts_setEnabled enable _)) fun _ =>
        calm_inScene fun _ _ => ⟨rfl, rfl, rfl, List.prefix_rfl⟩

/-- No switch handler begins, and of the held handlers that wait some may be dropped. -/
abbrev Quiet (s t : Engine σ κ × Scene κ) : Prop :=
  ModeStack.Quiet (s.1.stack, s.2) (t.1.stack, t.2)

instance : Composes (Quiet (σ := σ) (κ := κ)) where
  refl s := Composes.refl (s.1.stack, s.2)
  trans h h' := Composes.trans (R := ModeStack.Quiet) h h'

theorem quiet_of_calm {x : Step σ κ α} (hx : x.Within Calm) : x.Within Quiet :=
  fun s => (hx s).quiet

/-- A relation that holds of taking requests out, of doing them and of remarks holds of doing what
was asked for. -/
theorem settle_within {R : Engine σ κ × Scene κ → Engine σ κ × Scene κ → Prop} [Composes R]
    (take : (inScene fun _ scene => scene.takeRequests.2 : Step σ κ Unit).Within R)
    (log : ∀ severity text, (log severity text : Step σ κ Unit).Within R)
    (apply : ∀ r, (apply r : Step σ κ Unit).Within R) : (settle : Step σ κ Unit).Within R := by
  have rounds (n : Nat) : (settleRounds n : Step σ κ Unit).Within R := by
    induction n with
    | zero => exact .bind .get fun _ => .bind take fun _ => .ite (log _ _) (.pure ())
    | succ n ih =>
      exact .bind .get fun _ => .bind take fun _ =>
        .ite (.bind (.each apply _) fun _ => ih) (.pure ())
  exact rounds maxRounds

theorem quiet_settle : (settle : Step σ κ Unit).Within Quiet :=
  settle_within (.modify fun _ => ⟨rfl, rfl, rfl, .refl _, fun _ h => h⟩)
    (fun _ _ => quiet_of_calm (calm_log _ _)) fun r => quiet_of_calm (calm_apply r)

theorem quiet_failFrame (text : String) : (failFrame text : Step σ κ Unit).Within Quiet :=
  quiet_of_calm (.bind (calm_count _) fun _ => calm_log _ _)

/-- A frame callback is no switch handler, and what it asks for is done quietly. -/
theorem quiet_frame : (frame : Step σ κ Unit).Within Quiet := by
  refine .bind (quiet_of_calm (calm_count _)) fun _ => .bind .get fun (e, _) => ?_
  dsimp only
  split
  · exact .pure ()
  · rename_i handler _
    refine .bind (quiet_of_calm (calm_inScene fun _ scene => scene.calm_begin rfl)) fun _ =>
      .bind (fun s => ?_) fun outcome => ?_
    · refine ModeStack.Calm.quiet (calm_of_scene ?_ rfl)
      exact (handler.run handler.memory).calm_play handler.memory s.2
    · split
      · exact quiet_settle
      · exact .bind (.fail _) fun _ => quiet_settle
      · exact .bind (quiet_failFrame _) fun _ => quiet_settle
      · exact .bind (quiet_failFrame _) fun _ => quiet_settle

theorem quiet_record (r : Report) : (record r : Step σ κ Unit).Within Quiet :=
  quiet_of_calm (calm_count _)

/-- After its walk a dispatch is quiet. -/
theorem quiet_after_dispatch (switch : Switch) (e : Engine σ κ) (scene : Scene κ) :
    ModeStack.Quiet (ModeStack.dispatch (ε := Fault) switch (e.stack, scene)).2
      ((dispatch switch (e, scene)).2.1.stack, (dispatch switch (e, scene)).2.2) :=
  Act.Within.after (R := Quiet)
    (fun report => .bind (quiet_record report) fun _ => .bind quiet_settle fun _ => .finish _)
    (onStack (ModeStack.dispatch switch))
    ({ e with stats := { e.stats with dispatches := e.stats.dispatches + 1 } }, scene)

/-- After the tick of the stack a tick is quiet. -/
theorem quiet_after_tick (e : Engine σ κ) (scene : Scene κ) :
    ModeStack.Quiet (ModeStack.tick (ε := Fault) (e.stack, scene)).2
      ((tick (e, scene)).2.1.stack, (tick (e, scene)).2.2) :=
  Act.Within.after (R := Quiet)
    (fun report => .bind (quiet_record report) fun _ => .bind quiet_settle fun _ => .finish _)
    (onStack ModeStack.tick) (e, scene)

end Engine

end Playfield
