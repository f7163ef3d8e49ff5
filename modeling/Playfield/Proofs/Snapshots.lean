import Playfield.Proofs.GamePlay
import Playfield.Proofs.HeldHandlers
import Playfield.Proofs.Operations
import Playfield.Proofs.Reports
import Playfield.Proofs.Sights

/-!
# Callbacks see sound games

Whatever is done with a machine, its callbacks see a sound game: while a game is in progress the
ball is one of the game's, and without a game there is no ball. The one exception is the callback at
the end of a game. It sees that no game is in progress, and yet a ball: the one that was in play, or
after the last ball of all the one that would come next (`Machine.snapshots_sound_iff`).
-/
namespace Playfield

/-- There is a ball just if a game is in progress, and it is one of the game's. -/
def GameStatus.Sound (s : GameStatus) : Prop :=
  (s.inProgress = true → 1 ≤ s.ball ∧ s.ball ≤ s.ballsPerGame) ∧ (s.inProgress = false → s.ball = 0)
  deriving Decidable

/-- What a callback at a site may see of a game of so many balls: a sound game, unless it is the one
at the end of the game, which sees a ball without a game. -/
structure GameStatus.ShownAt (balls : Nat) (site : CallbackSite) (s : GameStatus) : Prop where
  ballsPerGame : s.ballsPerGame = balls
  sound : site ≠ .lifecycle .gameEnded → s.Sound
  ended : site = .lifecycle .gameEnded →
    s.inProgress = false ∧ 1 ≤ s.ball ∧ s.ball ≤ balls + 1

/-- A description that is accepted has at least one ball in a game. -/
theorem TableConfig.some_balls_of_validate {c : TableConfig} (accepted : c.validate = .ok ()) :
    1 ≤ c.game.ballsPerGame.toNat := by
  have hnone := validate_iff.mp accepted
  have hpos : 0 < c.game.ballsPerGame := by
    by_contra hnot
    have hmem : Problem.noBallsPerGame ∈ c.problems := by
      rw [problems_eq, laterProblems]
      simp [mem_require, hnot]
    rw [hnone] at hmem
    exact List.not_mem_nil hmem
  exact UInt8.lt_iff_toNat_lt.mp hpos

namespace Standing.Fair
variable {s : Standing} {balls : Nat}

theorem sound (h : s.Fair) (some_balls : 1 ≤ s.status.ballsPerGame) : s.status.Sound := by
  refine ⟨fun hplaying => ?_, fun hidle => (h.idle hidle).1⟩
  have hball := h.playing hplaying
  rwa [Nat.max_eq_left some_balls] at hball

theorem shownAt (h : s.Fair) (hballs : s.status.ballsPerGame = balls) (some_balls : 1 ≤ balls)
    {site : CallbackSite} (hsite : site ≠ .lifecycle .gameEnded) : s.status.ShownAt balls site :=
  ⟨hballs, fun _ => h.sound (hballs.symm ▸ some_balls), fun heq => absurd heq hsite⟩

/-- The callback at the end of a game sees the last ball, or the ball after it. -/
theorem shownAt_end (h : s.Fair) (hplaying : s.status.inProgress = true)
    (hballs : s.status.ballsPerGame = balls) (some_balls : 1 ≤ balls) {t : GameStatus}
    (hover : t.inProgress = false) (hsame : t.ballsPerGame = s.status.ballsPerGame)
    (hball : t.ball = s.status.ball ∨ t.ball = s.status.ball + 1) :
    t.ShownAt balls (.lifecycle .gameEnded) := by
  have hbounds := (h.sound (hballs.symm ▸ some_balls)).1 hplaying
  exact ⟨hsame.trans hballs, fun hne => absurd rfl hne, fun _ => ⟨hover, by omega⟩⟩

theorem afterBall_shown (h : s.Fair) (hplaying : s.status.inProgress = true)
    (hballs : s.status.ballsPerGame = balls) (some_balls : 1 ≤ balls) (now : Span) :
    (s.afterBall now).1.2.ShownAt balls (.lifecycle (s.afterBall now).1.1) := by
  have hfair := h.afterBall hplaying now
  have hrotated : s.rotated.status.ballsPerGame = balls := s.ballsPerGame_rotated.trans hballs
  simp only [Standing.afterBall] at hfair ⊢
  by_cases hspare : 0 < s.spare
  · rw [if_pos hspare] at hfair ⊢
    exact hfair.shownAt hballs some_balls (by simp)
  · by_cases hlast : s.rotated.status.ballsPerGame < s.rotated.status.ball
    · rw [if_neg hspare, if_pos hlast]
      refine h.shownAt_end hplaying hballs some_balls rfl s.ballsPerGame_rotated ?_
      change s.rotated.status.ball = _ ∨ s.rotated.status.ball = _
      rw [Standing.rotated]
      split
      · exact .inr rfl
      · exact .inl rfl
    · rw [if_neg hspare, if_neg hlast] at hfair ⊢
      exact hfair.shownAt hrotated some_balls (by simp)

/-- Every callback of a request sees what it may see. -/
theorem after_shown (h : s.Fair) (hballs : s.status.ballsPerGame = balls) (some_balls : 1 ≤ balls)
    (r : GameRequest) (now : Span) :
    ∀ shown ∈ (s.after r now).1, shown.2.ShownAt balls (.lifecycle shown.1) := by
  have one {hook : GameHook} {status : GameStatus} (hs : status.ShownAt balls (.lifecycle hook)) :
      ∀ shown ∈ [(hook, status)], shown.2.ShownAt balls (.lifecycle shown.1) := by
    rintro shown hshown
    rw [List.mem_singleton.mp hshown]
    exact hs
  have none : ∀ shown ∈ ([] : List (GameHook × GameStatus)),
      shown.2.ShownAt balls (.lifecycle shown.1) := fun _ hshown => nomatch hshown
  cases r with
  | startGame => exact one ((Fair.begun s).shownAt hballs some_balls (by simp))
  | addPlayer | awardExtraBall => exact none
  | updateLamps => exact one (h.shownAt hballs some_balls (by simp))
  | startBall =>
    simp only [Standing.after]
    split
    · rename_i hplaying
      exact one ((h.ballStarted now hplaying).shownAt hballs some_balls (by simp))
    · exact none
  | endBall =>
    simp only [Standing.after]
    split
    · rename_i hplaying
      refine List.forall_mem_cons.mpr ⟨h.shownAt hballs some_balls (by simp), one ?_⟩
      exact h.afterBall_shown hplaying hballs some_balls now
    · exact none
  | endGame =>
    simp only [Standing.after]
    split
    · rename_i hplaying
      exact one (h.shownAt_end hplaying hballs some_balls rfl rfl (.inl rfl))
    · exact none

end Standing.Fair

/-! ### The engine -/

namespace Engine
variable {σ κ α : Type} {balls : Nat}

/-- The game is fair and has so many balls, and callbacks see it as it is. -/
structure UpToDate (balls : Nat) (s : Engine σ κ × Scene κ) : Prop where
  shown : s.2.game = s.1.game.status
  fair : s.1.game.standing.Fair
  ballsPerGame : s.1.game.status.ballsPerGame = balls
  some_balls : 1 ≤ balls

/-- If callbacks see the game as it is, then they still do, and those that begin see what they
may see. -/
abbrev Shows (balls : Nat) : Engine σ κ × Scene κ → Engine σ κ × Scene κ → Prop :=
  Grows (UpToDate balls) (fun s => s.2.starts) fun start => start.2.game.ShownAt balls start.1

/-- What leaves the game alone shows it as it is. -/
theorem shows_of_peeks {e f : Engine σ κ} {s t : Scene κ} (hgame : f.game = e.game)
    (h : s.Peeks t) : Shows balls (e, s) (f, t) := by
  intro hs
  obtain ⟨begun, hbegun, hseen⟩ := h.starts
  refine ⟨⟨h.game.trans (hs.shown.trans (congrArg Game.status hgame.symm)), ?_, ?_, hs.some_balls⟩,
    begun, hbegun, fun start hstart => ?_⟩
  · rw [hgame]
    exact hs.fair
  · rw [hgame]
    exact hs.ballsPerGame
  · obtain ⟨hstatus, hsite⟩ := hseen start hstart
    rw [hstatus, hs.shown]
    exact hs.fair.shownAt hs.ballsPerGame hs.some_balls hsite

theorem shows_onStack {x : Act Fault (ModeStack σ κ × Scene κ) α}
    (hx : x.Within ModeStack.Peeks) : (onStack x).Within (Shows balls) :=
  hx.zoom fun _ _ h => shows_of_peeks rfl h

theorem shows_onRules {x : Act Fault (FlipperRules × DriverBank × Bench) α}
    (hx : x.Keeps fun s => s.2.2.starts) :
    (onRules (σ := σ) (κ := κ) x).Within (Shows balls) :=
  hx.zoom fun _ _ h => shows_of_peeks rfl (Scene.peeks_of_same rfl h)

theorem shows_count (f : Stats → Stats) : (count f : Step σ κ Unit).Within (Shows balls) :=
  .modify fun s => shows_of_peeks rfl (.refl s.2)

theorem shows_inScene {f : Engine σ κ → Scene κ → Scene κ}
    (hf : ∀ e scene, Scene.Peeks scene (f e scene)) : (inScene f).Within (Shows balls) :=
  .modify fun s => shows_of_peeks rfl (hf s.1 s.2)

theorem shows_log (severity : Severity) (text : String) :
    (log severity text : Step σ κ Unit).Within (Shows balls) :=
  fun s => shows_of_peeks rfl (s.2.passes_remark severity text).peeks_quiet

/-- The callbacks of the game see what they may see. -/
theorem shows_onGame (r : GameRequest) :
    (onGame (Game.apply r) : Step σ κ Unit).Within (Shows balls) := by
  rintro ⟨e, scene⟩ hs
  have hfair := Game.fair_apply r (s := (e.game, scene)) hs.fair
  have done {next : List (GameHook × GameStatus) × Standing}
      (leads : Game.Leads (e.game, scene) next (Game.apply r (e.game, scene)).2)
      (hnext : next.2.status.ballsPerGame = balls)
      (hshown : ∀ shown ∈ next.1, shown.2.ShownAt balls (.lifecycle shown.1)) :
      UpToDate balls (onGame (Game.apply r) (e, scene)).2 ∧ ∃ begun,
        (onGame (Game.apply r) (e, scene)).2.2.starts = scene.starts ++ begun ∧
        ∀ start ∈ begun, start.2.game.ShownAt balls start.1 := by
    refine ⟨⟨leads.shown hs.shown, hfair, ?_, hs.some_balls⟩, _, leads.runs.starts,
      List.forall_mem_map.mpr hshown⟩
    exact (congrArg (fun s => s.status.ballsPerGame) leads.standing).trans hnext
  cases Game.served r (e.game, scene) with
  | done leads =>
    refine done leads ?_ (hs.fair.after_shown hs.ballsPerGame hs.some_balls r scene.now)
    exact (Standing.ballsPerGame_after r scene.now _).trans hs.ballsPerGame
  | cut _ _ _ leads =>
    refine done leads hs.ballsPerGame fun shown hshown => ?_
    rw [List.mem_singleton.mp hshown]
    exact hs.fair.shownAt hs.ballsPerGame hs.some_balls (by simp)

/-- Showing callbacks the game as it is changes nothing if they see it so already. -/
theorem shows_reveal : (inScene (fun e scene => { scene with game := e.game.status }) :
    Step σ κ Unit).Within (Shows balls) :=
  .modify fun _ => .of_same (fun hs => ⟨rfl, hs.fair, hs.ballsPerGame, hs.some_balls⟩) rfl

theorem shows_apply (r : Request κ) : (apply r : Step σ κ Unit).Within (Shows balls) := by
  cases r with
  | addMode id kind => exact .bind .get fun _ => shows_onStack (ModeStack.peeks_add _)
  | removeMode id =>
    exact .bind (shows_onStack (ModeStack.peeks_remove id)) fun _ =>
      .ite (.bind .get fun _ => shows_log _ _) (.pure ())
  | game request => exact .bind (shows_onGame request) fun _ => shows_reveal
  | flippers enable =>
    exact .bind .get fun _ =>
      .bind (shows_onRules (FlipperRules.keeps_starts_setEnabled enable _)) fun _ =>
        shows_inScene fun _ _ => Scene.peeks_of_same rfl rfl

theorem shows_settle : (settle : Step σ κ Unit).Within (Shows balls) :=
  settle_within (shows_inScene fun _ _ => Scene.peeks_of_same rfl rfl) shows_log shows_apply

theorem shows_dispatch (switch : Switch) :
    (dispatch switch : Step σ κ Unit).Within (Shows balls) :=
  .bind (shows_count _) fun _ => .bind (shows_onStack (ModeStack.peeks_dispatch switch)) fun _ =>
    .bind (shows_count _) fun _ => .bind shows_settle fun _ => .finish _

theorem shows_tick : (tick : Step σ κ Unit).Within (Shows balls) :=
  .bind (shows_onStack ModeStack.peeks_tick) fun _ =>
    .bind (shows_count _) fun _ => .bind shows_settle fun _ => .finish _

theorem shows_failFrame (text : String) : (failFrame text : Step σ κ Unit).Within (Shows balls) :=
  .bind (shows_count _) fun _ => shows_log _ _

theorem shows_frame : (frame : Step σ κ Unit).Within (Shows balls) := by
  refine .bind (shows_count _) fun _ => .bind .get fun (e, _) => ?_
  dsimp only
  split
  · exact .pure ()
  · rename_i handler _
    refine .bind (shows_inScene fun _ scene => scene.peeks_begin (by simp)) fun _ =>
      .bind (fun s => ?_) fun outcome => ?_
    · refine shows_of_peeks rfl ?_
      exact ((handler.run handler.memory).play_passes handler.memory s.2).peeks_quiet
    · split
      · exact shows_settle
      · exact .bind (.fail _) fun _ => shows_settle
      · exact .bind (shows_failFrame _) fun _ => shows_settle
      · exact .bind (shows_failFrame _) fun _ => shows_settle

end Engine

/-! ### The machine -/

namespace Machine
variable {σ κ α : Type} {balls : Nat}

/-- The game is fair and has so many balls. -/
structure Fair (balls : Nat) (m : Machine σ κ) : Prop where
  fair : m.engine.game.standing.Fair
  ballsPerGame : m.engine.game.status.ballsPerGame = balls
  some_balls : 1 ≤ balls

/-- The game stays fair, and the callbacks that begin see what they may see. -/
abbrev Shows (balls : Nat) : Machine σ κ → Machine σ κ → Prop :=
  Grows (Fair balls) (fun m => m.cabinet.bench.starts) fun start =>
    start.2.game.ShownAt balls start.1

theorem shows_inContext {body : Engine.Step σ κ α} (hbody : body.Within (Engine.Shows balls))
    (now : Span) : (inContext now body).Within (Shows balls) := by
  intro m h
  have hs : Engine.UpToDate balls (m.engine, m.scene now) :=
    ⟨rfl, h.fair, h.ballsPerGame, h.some_balls⟩
  have placed {t : Engine σ κ × Scene κ} (ht : Engine.Shows balls (m.engine, m.scene now) t) :
      Fair balls { m with engine := t.1, cabinet := t.2.cabinet } ∧
        ∃ begun, t.2.cabinet.bench.starts = m.cabinet.bench.starts ++ begun ∧
          ∀ start ∈ begun, start.2.game.ShownAt balls start.1 := by
    obtain ⟨hdone, hbegun⟩ := ht hs
    exact ⟨⟨hdone.fair, hdone.ballsPerGame, hdone.some_balls⟩, hbegun⟩
  have hshows := hbody (m.engine, m.scene now)
  simp only [inContext]
  generalize body (m.engine, m.scene now) = r at hshows ⊢
  obtain ⟨outcome, e, s⟩ := r
  have hsettled := Composes.trans hshows (Engine.shows_settle (e, s))
  cases outcome with
  | panic message => exact placed hshows
  | ok a => exact placed hsettled
  | error f => exact placed hsettled

theorem spans_shows : Spans (Shows (σ := σ) (κ := κ) balls) where
  apart _ hgame hstarts := by
    refine .of_same (fun h => ⟨?_, ?_, h.some_balls⟩) hstarts
    · rw [hgame]
      exact h.fair
    · rw [hgame]
      exact h.ballsPerGame
  breakOff m := .of_same
    (fun h => ⟨.cleared m.engine.game.standing, h.ballsPerGame, h.some_balls⟩) rfl
  handDown number := shows_inContext <| .bind .get fun (_, scene) => by
    dsimp only
    split
    · exact .bind (Engine.shows_log _ _) fun _ => Engine.shows_dispatch _
    · exact .pure ()
  tick := shows_inContext Engine.shows_tick
  frame := shows_inContext Engine.shows_frame
  join mode := shows_inContext (Engine.shows_onStack (ModeStack.peeks_add mode))
  leave id := shows_inContext (Engine.shows_onStack (ModeStack.peeks_remove id))
  clear := shows_inContext (Engine.shows_onStack ModeStack.peeks_clear)
  ask request := shows_inContext (Engine.shows_apply (.game request))

/-- A machine is built for at least one ball in a game. -/
theorem Built.fair {m : Machine σ κ} (h : m.Built) :
    m.Fair m.engine.game.status.ballsPerGame := by
  obtain ⟨c, settings, cabinet, memory, hook, catalogue, hbuild⟩ := h
  obtain ⟨_, haccepted, hassemble⟩ := exists_of_bind hbuild
  obtain ⟨switches, -, hrest⟩ := exists_of_bind hassemble
  obtain ⟨drivers, -, hrest⟩ := exists_of_bind hrest
  obtain ⟨rules, -, hrest⟩ := exists_of_bind hrest
  cases hrest
  exact ⟨Game.fair_new _ _ _, rfl, TableConfig.some_balls_of_validate haccepted⟩

/-- In every run of a new machine, each callback that begins sees a sound game unless it is the one
at the end of a game. That one sees that no game is in progress, and never a sound game: it sees the
last ball, or the ball after it. Whatever a callback does, all its looks show the game as its start
records it. -/
theorem snapshots_sound_iff {m₀ : Machine σ κ} (built : m₀.Built) (ops : List (Operation σ κ)) :
    (∃ begun, (performAll ops m₀).2.cabinet.bench.starts = m₀.cabinet.bench.starts ++ begun ∧
      ∀ start ∈ begun,
        start.2.game.ballsPerGame = m₀.engine.game.status.ballsPerGame ∧
        (start.2.game.Sound ↔ start.1 ≠ .lifecycle .gameEnded) ∧
        (start.1 = .lifecycle .gameEnded → start.2.game.inProgress = false ∧
          1 ≤ start.2.game.ball ∧ start.2.game.ball ≤ start.2.game.ballsPerGame + 1)) ∧
    ∀ (site : CallbackSite) (c : Callback σ κ) (memory : σ) (scene : Scene κ),
      ∃ glimpse, (scene.begin site).starts = scene.starts ++ [(site, glimpse)] ∧
        ∀ v ∈ c.sights (memory, scene.begin site), v.game = glimpse.game := by
  obtain ⟨-, begun, hbegun, hseen⟩ := spans_shows.performAll ops m₀ built.fair
  refine ⟨⟨begun, hbegun, fun start hstart => ?_⟩, fun site c memory scene =>
    ⟨_, scene.starts_begin site, fun _ hv => (c.game_of_mem_sights memory _ hv :)⟩⟩
  have h := hseen start hstart
  refine ⟨h.ballsPerGame, ⟨fun hsound hsite => ?_, h.sound⟩, fun hsite => ?_⟩
  · obtain ⟨hover, hball, -⟩ := h.ended hsite
    rw [hsound.2 hover] at hball
    exact absurd hball (by decide)
  · rw [h.ballsPerGame]
    exact h.ended hsite

/-- A game of three balls is played through, and another one is broken off on its first ball. -/
def twoGames : List (Operation Unit Unit) :=
  [.startGame, .startBall, .endBall, .endBall, .endBall, .startGame, .endGame].map .requestGame

/-- Two games are played, and the callbacks at their starts and in between see sound games. -/
theorem starts_of_games_sound :
    ∃ (m₀ : Machine Unit Unit) (begun : List (CallbackSite × Glimpse)), m₀.Built ∧
      (performAll twoGames m₀).2.cabinet.bench.starts = m₀.cabinet.bench.starts ++ begun ∧
      begun.length = 10 ∧
      ∀ start ∈ begun, start.1 ≠ .lifecycle .gameEnded → start.2.game.Sound := by
  obtain ⟨m₀, built, hcount⟩ := exists_gateMachine (P := fun m₀ =>
    (performAll twoGames m₀).2.cabinet.bench.starts.length = 10 ∧
      m₀.cabinet.bench.starts.length = 0) {} (by decide +kernel)
  obtain ⟨⟨begun, hbegun, hseen⟩, -⟩ := snapshots_sound_iff built twoGames
  have hlength := congrArg List.length hbegun
  rw [hcount.1, List.length_append, hcount.2, Nat.zero_add] at hlength
  exact ⟨m₀, begun, built, hbegun, hlength.symm, fun start hstart => (hseen start hstart).2.1.mpr⟩

/-- The callback at the end of a game sees no game in progress, and yet a ball: after the third and
last ball it sees ball 4, and in a game that is broken off on its first ball it sees ball 1. -/
theorem ended_games_seen :
    ∃ m₀ : Machine Unit Unit, m₀.Built ∧
      ((performAll twoGames m₀).2.cabinet.bench.starts.filter fun start =>
        start.1 = .lifecycle .gameEnded).map
          (fun start => (start.2.game.inProgress, start.2.game.ball)) = [(false, 4), (false, 1)] :=
  exists_gateMachine {} (by decide +kernel)

end Machine

end Playfield
