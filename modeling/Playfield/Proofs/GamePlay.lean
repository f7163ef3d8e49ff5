import Playfield.Proofs.Engine
import Playfield.Proofs.Standing

/-!
# Games follow the rules

Whatever its lifecycle callbacks do, a game goes by the rules: a request runs just the callbacks
that the rules say, each of them sees the status that the rules say, and the standing afterwards is
the one of the rules. There is one exception. Where a ball ends and its callback meets a board
fault, the request stops there and the ball stays in play.

So the standing of a game is fair at all times, however often it is started, played and reset. A
request without a game in progress changes nothing, but for an extra ball that goes to a player of
the last game.
-/
namespace Playfield

namespace Scene
variable {κ : Type}

/-- The start of a lifecycle callback that sees a status. -/
def lifecycleStart (s : Scene κ) (shown : GameHook × GameStatus) : CallbackSite × Glimpse :=
  (.lifecycle shown.1, ⟨s.now, s.running, shown.2, s.flippers⟩)

/-- Just the given lifecycle callbacks begin, in turn, and see a status each. -/
structure Runs (shown : List (GameHook × GameStatus)) (s t : Scene κ) : Prop where
  now : t.now = s.now
  running : t.running = s.running
  flippers : t.flippers = s.flippers
  starts : t.starts = s.starts ++ shown.map s.lifecycleStart

namespace Runs
variable {s t u : Scene κ} {shown next : List (GameHook × GameStatus)}

theorem refl (s : Scene κ) : Runs [] s s := ⟨rfl, rfl, rfl, (List.append_nil _).symm⟩

theorem trans (h : Runs shown s t) (h' : Runs next t u) : Runs (shown ++ next) s u where
  now := h'.now.trans h.now
  running := h'.running.trans h.running
  flippers := h'.flippers.trans h.flippers
  starts := by
    have hsame : t.lifecycleStart = s.lifecycleStart := by
      funext x
      simp only [lifecycleStart, h.now, h.running, h.flippers]
    rw [h'.starts, h.starts, hsame, List.append_assoc, List.map_append]

/-- Nothing begins that is not in the list of what follows. -/
theorem quiet_trans (h : Runs [] s t) (h' : Runs next t u) : Runs next s u := h.trans h'

end Runs

theorem runs_remark (severity : Severity) (text : String) (s : Scene κ) :
    Runs [] s (s.remark severity text) :=
  ⟨rfl, rfl, rfl, (s.passes_remark severity text).starts⟩

theorem runs_show (status : GameStatus) (s : Scene κ) : Runs [] s { s with game := status } :=
  ⟨rfl, rfl, rfl, (List.append_nil _).symm⟩

end Scene

namespace Game
variable {σ κ : Type}

/-- What counts in the game. -/
def standing (g : Game σ κ) : Standing := ⟨g.status, g.banks⟩

/-- A computation on the game has run callbacks and led to a standing. What callbacks see of the
game is up to date afterwards if it was before. -/
structure Leads (s : Game σ κ × Scene κ) (next : List (GameHook × GameStatus) × Standing)
    (t : Game σ κ × Scene κ) : Prop where
  runs : s.2.Runs next.1 t.2
  standing : t.1.standing = next.2
  shown : s.2.game = s.1.status → t.2.game = t.1.status

theorem Leads.trans {s t u : Game σ κ × Scene κ} {shown later : List (GameHook × GameStatus)}
    {x y : Standing} (h : Leads s (shown, x) t) (h' : Leads t (later, y) u) :
    Leads s (shown ++ later, y) u :=
  ⟨h.runs.trans h'.runs, h'.standing, fun hgame => h'.shown (h.shown hgame)⟩

/-- A lifecycle callback begins and sees the status of the game. It leaves the standing alone, and
the request fails if it meets a board fault. -/
theorem notify_spec (h : GameHook) (g : Game σ κ) (scene : Scene κ) :
    ∃ o memory after, notify h (g, scene) = (o, { g with memory }, after) ∧
      scene.Runs [(h, g.status)] after ∧ after.game = g.status ∧
      (o = .ok () ∨ ∃ f, o = .error f) := by
  let begun : Scene κ := { scene with game := g.status }.begin (.lifecycle h)
  have hplay := (g.hook h g.memory).play_passes g.memory begun
  have hstarts : begun.starts = scene.starts ++ [scene.lifecycleStart (h, g.status)] :=
    Scene.starts_begin _ _
  have runs {after : Scene κ} (hp : begun.Passes [] after) : scene.Runs [(h, g.status)] after :=
    ⟨hp.now, hp.running, hp.flippers, by rw [hp.starts, hstarts, List.append_nil]; rfl⟩
  simp only [notify]
  generalize hplayed : (g.hook h g.memory).play (g.memory, _) = played
  have hplayed : (g.hook h g.memory).play (g.memory, begun) = played := hplayed
  rw [hplayed] at hplay
  obtain ⟨outcome, memory, after⟩ := played
  dsimp only at hplay ⊢
  split
  · exact ⟨_, memory, after, rfl, runs hplay, hplay.game, .inl rfl⟩
  · exact ⟨_, memory, after, rfl, runs hplay, hplay.game, .inr ⟨_, rfl⟩⟩
  · have hremark (text : String) : begun.Passes [] (after.remark .error text) :=
      hplay.quiet_trans (after.passes_remark .error text)
    exact ⟨_, memory, _, rfl, runs (hremark _), (hremark _).game, .inl rfl⟩

/-- What ends with a callback leads to the standing that the callback sees. -/
theorem leads_notify {s : Game σ κ × Scene κ} {scene : Scene κ} (quiet : s.2.Runs [] scene)
    (h : GameHook) (g : Game σ κ) :
    Leads s ([(h, g.status)], g.standing) (notify h (g, scene)).2 := by
  obtain ⟨o, memory, after, hnotify, hruns, hgame, -⟩ := notify_spec h g scene
  rw [hnotify]
  exact ⟨quiet.quiet_trans hruns, rfl, fun _ => hgame⟩

/-- What only remarks on something leads nowhere. -/
theorem leads_quiet {g : Game σ κ} {scene after : Scene κ} (quiet : scene.Passes [] after) :
    Leads (g, scene) ([], g.standing) (g, after) where
  runs := ⟨quiet.now, quiet.running, quiet.flippers, quiet.starts⟩
  standing := rfl
  shown hgame := quiet.game.trans hgame

variable (g : Game σ κ) (scene : Scene κ)

theorem leads_startGame :
    Leads (g, scene) (g.standing.after .startGame scene.now) (startGame (g, scene)).2 := by
  let begun : Game σ κ := { g with status := g.standing.begun.status, banks := [] }
  have hstart : ∃ noted, scene.Runs [] noted ∧
      startGame (g, scene) = notify .gameStarted (begun, noted) := by
    cases hplaying : g.status.inProgress with
    | true =>
      refine ⟨_, scene.runs_remark .warn "starting a game while one is in progress; restarting", ?_⟩
      simp only [startGame, Act.bind_apply, Act.get, hplaying, if_true]
      rfl
    | false =>
      refine ⟨scene, .refl scene, ?_⟩
      simp only [startGame, Act.bind_apply, Act.get, hplaying, Bool.false_eq_true, if_false]
      rfl
  obtain ⟨noted, hquiet, hstart⟩ := hstart
  rw [hstart]
  exact leads_notify hquiet .gameStarted begun

/-- What is asked for without a game in progress is only remarked on. -/
theorem leads_whilePlaying {request : String} {x : Step σ κ Unit}
    {next : List (GameHook × GameStatus) × Standing}
    (hx : g.status.inProgress = true → Leads (g, scene) next (x (g, scene)).2) :
    Leads (g, scene) (if g.status.inProgress then next else ([], g.standing))
      (whilePlaying request x (g, scene)).2 := by
  simp only [whilePlaying]
  split
  · rename_i hplaying
    exact hx hplaying
  · exact leads_quiet (scene.passes_remark _ _)

theorem leads_addPlayer :
    Leads (g, scene) (g.standing.after .addPlayer scene.now) (addPlayer (g, scene)).2 := by
  simp only [addPlayer, Act.bind_apply, whilePlaying, Standing.after]
  cases hplaying : g.status.inProgress with
  | true =>
    have hjoined : g.standing.status.inProgress = true := hplaying
    rw [if_pos hjoined]
    exact ⟨scene.runs_show _, rfl, fun _ => rfl⟩
  | false =>
    have hidle : ¬g.standing.status.inProgress = true := by simp [standing, hplaying]
    rw [if_neg hidle]
    exact ⟨(scene.runs_remark _ _).trans (Scene.runs_show _ _), rfl, fun _ => rfl⟩

theorem leads_startBall :
    Leads (g, scene) (g.standing.after .startBall scene.now) (startBall (g, scene)).2 :=
  leads_whilePlaying g scene fun _ => leads_notify (.refl scene) .ballStarting
    { g with status := { g.status with ballStartedAt := some scene.now } }

theorem leads_stop {s : Game σ κ × Scene κ} {scene : Scene κ} (quiet : s.2.Runs [] scene)
    (g : Game σ κ) (hplaying : g.status.inProgress = true) :
    Leads s ([(.gameEnded, g.standing.stopped.status)], g.standing.ended)
      (endGame (g, scene)).2 := by
  obtain ⟨o, memory, after, hnotify, hruns, -⟩ :=
    notify_spec .gameEnded { g with status := g.standing.stopped.status } scene
  have hnotify : notify .gameEnded ({ g with status := { g.status with
    inProgress := false, ballStartedAt := none } }, scene) = _ := hnotify
  simp only [endGame]
  rw [if_pos hplaying, hnotify]
  exact ⟨quiet.quiet_trans (hruns.trans (after.runs_show _)), rfl, fun _ => rfl⟩

theorem leads_endGame :
    Leads (g, scene) (g.standing.after .endGame scene.now) (endGame (g, scene)).2 := by
  simp only [Standing.after]
  by_cases hplaying : g.status.inProgress = true
  · have hstanding : g.standing.status.inProgress = true := hplaying
    rw [if_pos hstanding]
    exact leads_stop (.refl scene) g hplaying
  · have hstanding : ¬g.standing.status.inProgress = true := hplaying
    simp only [endGame]
    rw [if_neg hstanding, if_neg hplaying]
    exact leads_quiet (.refl scene)

theorem leads_awardExtraBall :
    Leads (g, scene) (g.standing.after .awardExtraBall scene.now)
      (awardExtraBall (g, scene)).2 := by
  simp only [awardExtraBall, Act.bind_apply, Act.get, Standing.after]
  by_cases hup : g.status.currentPlayer < g.banks.length
  · have hawarded : g.standing.status.currentPlayer < g.standing.banks.length := hup
    rw [if_pos hawarded, if_pos hup]
    exact ⟨.refl scene, rfl, id⟩
  · have hnobody : ¬g.standing.status.currentPlayer < g.standing.banks.length := hup
    rw [if_neg hnobody, if_neg hup]
    exact leads_quiet (scene.passes_remark _ _)

/-! ### The end of a ball -/

/-- What follows the callback at the end of a ball: the player up shoots again, or the next ball
starts, or the game ends. -/
def goOn (now : Span) : Step σ κ Unit :=
  if 0 < g.extraBalls g.status.currentPlayer then do
    updateBanks fun banks => banks.modify g.status.currentPlayer (· - 1)
    log .debug ("player " ++ toString (g.status.currentPlayer + 1) ++ " shoots again")
    update fun s => { s with ballStartedAt := some now }
    notify .shootAgain
  else nextBall

theorem leads_nextBall (hplaying : g.status.inProgress = true) (none : g.standing.spare = 0) :
    Leads (g, scene) ([(g.standing.afterBall scene.now).1], (g.standing.afterBall scene.now).2)
      (nextBall (g, scene)).2 := by
  let rotated : Game σ κ := { g with status := g.standing.rotated.status }
  have hrotate : ∃ noted, scene.Runs [] noted ∧
      rotate (g, scene) = ((.ok (), rotated, noted) : Outcome Fault Unit × _) := by
    by_cases hlast : max g.status.players 1 ≤ g.status.currentPlayer + 1
    · refine ⟨_, scene.runs_remark .debug
        ("next ball: " ++ toString (g.status.ball + 1)), ?_⟩
      have hrotated := Standing.rotated_last (s := g.standing) hlast
      simp only [rotate, Act.bind_apply, Act.get, if_pos hlast, rotated, hrotated]
      rfl
    · refine ⟨scene, .refl scene, ?_⟩
      have hrotated := Standing.rotated_next (s := g.standing) hlast
      simp only [rotate, Act.bind_apply, Act.get, if_neg hlast, rotated, hrotated]
      rfl
  obtain ⟨noted, hquiet, hrotate⟩ := hrotate
  have hnext : nextBall (g, scene) = (if rotated.status.ballsPerGame < rotated.status.ball
      then endGame else startBall) (rotated, noted) := Act.bind_ok hrotate
  have hgoes : rotated.status.inProgress = true :=
    (Standing.inProgress_rotated g.standing).trans hplaying
  rw [hnext, Standing.afterBall, if_neg (Nat.not_lt.mpr (Nat.le_of_eq none))]
  by_cases hover : rotated.status.ballsPerGame < rotated.status.ball
  · have hstanding : g.standing.rotated.status.ballsPerGame < g.standing.rotated.status.ball :=
      hover
    rw [if_pos hover, if_pos hstanding]
    exact leads_stop hquiet rotated hgoes
  · have hstanding : ¬g.standing.rotated.status.ballsPerGame < g.standing.rotated.status.ball :=
      hover
    rw [if_neg hover, if_neg hstanding]
    simp only [startBall, whilePlaying]
    rw [if_pos hgoes, ← hquiet.now]
    exact leads_notify hquiet .ballStarting
      { rotated with status := { rotated.status with ballStartedAt := some noted.now } }

theorem leads_goOn (hplaying : g.status.inProgress = true) : Leads (g, scene)
    ([(g.standing.afterBall scene.now).1], (g.standing.afterBall scene.now).2)
    (goOn g scene.now (g, scene)).2 := by
  by_cases hspare : 0 < g.standing.spare
  · have hextra : 0 < g.extraBalls g.status.currentPlayer := hspare
    rw [goOn, if_pos hextra, Standing.afterBall, if_pos hspare]
    exact leads_notify (scene.runs_remark .debug
      ("player " ++ toString (g.status.currentPlayer + 1) ++ " shoots again")) .shootAgain
      { g with
        banks := g.banks.modify g.status.currentPlayer (· - 1)
        status := { g.status with ballStartedAt := some scene.now } }
  · have hextra : ¬0 < g.extraBalls g.status.currentPlayer := hspare
    rw [goOn, if_neg hextra]
    exact leads_nextBall g scene hplaying (Nat.eq_zero_of_not_pos hspare)

/-- The end of a ball runs its callback and goes on from there, unless that callback meets a board
fault. -/
theorem endBall_cases (hplaying : g.status.inProgress = true) :
    Leads (g, scene) (g.standing.after .endBall scene.now) (endBall (g, scene)).2 ∨
      (∃ f, (endBall (g, scene)).1 = .error f) ∧
        Leads (g, scene) ([(.ballEnded, g.status)], g.standing) (endBall (g, scene)).2 := by
  have hend : ∃ noted, scene.Passes [] noted ∧ endBall (g, scene) =
      (notify .ballEnded >>= fun _ => goOn g scene.now) (g, noted) := by
    simp only [endBall, whilePlaying]
    rw [if_pos hplaying]
    cases hstarted : g.status.ballStartedAt with
    | none =>
      refine ⟨scene, .refl scene, ?_⟩
      simp only [Act.bind_apply, Act.get, hstarted]
      rfl
    | some started =>
      refine ⟨_, scene.passes_remark .debug ("ball " ++ toString g.status.ball ++ " lasted " ++
        toString (scene.now.since started).millis ++ "ms"), ?_⟩
      simp only [Act.bind_apply, Act.get, hstarted]
      rfl
  obtain ⟨noted, hquiet, hend⟩ := hend
  obtain ⟨o, memory, after, hnotify, hruns, hgame, hending⟩ := notify_spec .ballEnded g noted
  have hfirst :
      Leads (g, scene) ([(.ballEnded, g.status)], g.standing) ({ g with memory }, after) :=
    ⟨(leads_quiet (g := g) hquiet).runs.quiet_trans hruns, rfl, fun _ => hgame⟩
  rw [hend]
  rcases hending with rfl | ⟨f, rfl⟩
  · left
    have hstanding : g.standing.status.inProgress = true := hplaying
    have hrest := leads_goOn { g with memory } after hplaying
    have hnow : after.now = scene.now := hfirst.runs.now
    rw [Act.bind_ok hnotify, Standing.after, if_pos hstanding]
    rw [hnow] at hrest
    exact hfirst.trans hrest
  · right
    rw [Act.bind_error hnotify]
    exact ⟨⟨f, rfl⟩, hfirst⟩

end Game

/-- What becomes of a request: it goes by the rules, or the callback at the end of a ball meets a
board fault, and the ball stays in play. -/
inductive Game.Served {σ κ : Type} (r : GameRequest) (s : Game σ κ × Scene κ)
    (t : Outcome Fault Unit × Game σ κ × Scene κ) : Prop
  | done (leads : Leads s (s.1.standing.after r s.2.now) t.2)
  | cut (ball : r = .endBall) (playing : s.1.status.inProgress = true)
    (failed : ∃ f, t.1 = .error f)
    (leads : Leads s ([(.ballEnded, s.1.status)], s.1.standing) t.2)

namespace Game
variable {σ κ : Type}

theorem served (r : GameRequest) (s : Game σ κ × Scene κ) : Served r s (apply r s) := by
  obtain ⟨g, scene⟩ := s
  let noted : Scene κ := scene.remark .debug ("game request " ++ r.text)
  have hquiet : Leads (g, scene) ([], g.standing) (g, noted) :=
    leads_quiet (scene.passes_remark _ _)
  have hnoted {next : List (GameHook × GameStatus) × Standing} {t : Game σ κ × Scene κ}
      (h : Leads (g, noted) next t) : Leads (g, scene) next t := hquiet.trans h
  cases r with
  | startGame => exact .done (hnoted (leads_startGame g noted))
  | addPlayer => exact .done (hnoted (leads_addPlayer g noted))
  | startBall => exact .done (hnoted (leads_startBall g noted))
  | endGame => exact .done (hnoted (leads_endGame g noted))
  | awardExtraBall => exact .done (hnoted (leads_awardExtraBall g noted))
  | updateLamps => exact .done (leads_notify hquiet.runs .updateLamps g)
  | endBall =>
    by_cases hplaying : g.status.inProgress = true
    · rcases endBall_cases g noted hplaying with hdone | ⟨hfailed, hcut⟩
      · exact .done (hnoted hdone)
      · exact .cut rfl hplaying hfailed (hnoted hcut)
    · exact .done (hnoted (leads_whilePlaying g noted fun h => absurd h hplaying))

/-- Whatever is asked of a game, its standing stays fair. -/
theorem fair_apply (r : GameRequest) {s : Game σ κ × Scene κ} (h : s.1.standing.Fair) :
    (apply r s).2.1.standing.Fair := by
  cases served r s with
  | done leads =>
    rw [leads.standing]
    exact h.after r s.2.now
  | cut _ _ _ leads =>
    rw [leads.standing]
    exact h

/-- Without a game in progress a request always goes by the rules. -/
theorem leads_idle {g : Game σ κ} (idle : g.status.inProgress = false) (r : GameRequest)
    (scene : Scene κ) :
    Leads (g, scene) (g.standing.after r scene.now) (apply r (g, scene)).2 := by
  cases served r (g, scene) with
  | done leads => exact leads
  | cut _ playing _ _ => exact absurd (idle.symm.trans playing) Bool.false_ne_true

theorem status_idle {g : Game σ κ} (idle : g.status.inProgress = false) {r : GameRequest}
    (other : r ≠ .startGame) (scene : Scene κ) :
    (apply r (g, scene)).2.1.status = g.status := by
  have hstanding := (leads_idle idle r scene).standing
  have hidle : g.standing.status.inProgress = false := idle
  rw [Standing.after_idle hidle other] at hstanding
  have hstatus : (apply r (g, scene)).2.1.status = _ := congrArg Standing.status hstanding
  rw [hstatus]
  dsimp only
  split <;> rfl

/-! ### Histories -/

/-- Something done to a game: a request is served in some scene, or the game is reset. -/
inductive Move (κ : Type) where
  | serve (request : GameRequest) (scene : Scene κ)
  | reset

namespace Move

/-- The request that a move serves. -/
def request? : Move κ → Option GameRequest
  | .serve request _ => some request
  | .reset => none

/-- How a move ends, and where it leads. -/
def run : Move κ → Game σ κ → Outcome Fault Unit × Game σ κ
  | .serve request scene, g =>
    match apply request (g, scene) with
    | (o, g, _) => (o, g)
  | .reset, g => (.ok (), g.reset)

end Move

/-- Where moves lead, one after another, however each of them ends. -/
def afterMoves (g : Game σ κ) (moves : List (Move κ)) : Game σ κ :=
  moves.foldl (fun g move => (move.run g).2) g

theorem fair_new (ballsPerGame : Nat) (memory : σ) (hook : GameHook → σ → Callback σ κ) :
    (new ballsPerGame memory hook).standing.Fair := .cleared ⟨{ ballsPerGame }, []⟩

theorem fair_run (move : Move κ) {g : Game σ κ} (h : g.standing.Fair) :
    (move.run g).2.standing.Fair := by
  cases move with
  | serve r scene => exact fair_apply (s := (g, scene)) r h
  | reset => exact .cleared g.standing

theorem fair_afterMoves {g : Game σ κ} (h : g.standing.Fair) (moves : List (Move κ)) :
    (g.afterMoves moves).standing.Fair := by
  induction moves generalizing g with
  | nil => exact h
  | cons move rest ih => exact ih (fair_run move h)

/-- A scene with nothing in it. -/
def bareScene : Scene Unit := { cabinet := {}, now := .zero, game := {}, flippers := false }

/-- Requests served one after another, each in a bare scene. -/
def serving (requests : List GameRequest) : List (Move Unit) :=
  requests.map fun r => .serve r bareScene

/-- Callbacks that panic or meet a board fault. -/
def faultyHook : GameHook → Unit → Callback Unit Unit
  | .ballEnded, _ => .done (.panic "lamp show missing")
  | .ballStarting, _ => .done (.error (.board .closed))
  | _, _ => .idle

/-- Without a game in progress a request other than to start one leaves the status as it is and runs
no callback but the one for the lamps. It leaves the extra balls as they are, unless it is one for
an extra ball and there are players of an earlier game: then the player up gets it. -/
theorem idle_kept_iff (ballsPerGame : Nat) (memory : σ) (hook : GameHook → σ → Callback σ κ)
    (moves : List (Move κ))
    (idle : ((new ballsPerGame memory hook).afterMoves moves).status.inProgress = false)
    {r : GameRequest} (other : r ≠ .startGame) (scene : Scene κ) :
    let g := (new ballsPerGame memory hook).afterMoves moves
    let t := (apply r (g, scene)).2
    t.1.status = g.status ∧
    t.2.starts = scene.starts ++
      (if r = .updateLamps then [scene.lifecycleStart (.updateLamps, g.status)] else []) ∧
    ((∀ player, t.1.extraBalls player = g.extraBalls player) ↔
      ¬(r = .awardExtraBall ∧ 0 < g.status.players)) ∧
    (r = .awardExtraBall → 0 < g.status.players → ∀ player, t.1.extraBalls player =
      g.extraBalls player + if player = g.status.currentPlayer then 1 else 0) := by
  intro g t
  have hfair : g.standing.Fair := fair_afterMoves (fair_new _ _ _) moves
  have hidle : g.standing.status.inProgress = false := idle
  have hleads : Leads (g, scene) (g.standing.after r scene.now) t := leads_idle idle r scene
  rw [Standing.after_idle hidle other] at hleads
  have hstanding : t.1.standing =
      if r = .awardExtraBall ∧ g.standing.status.currentPlayer < g.standing.banks.length
      then g.standing.awarded else g.standing := hleads.standing
  have hgets : r = .awardExtraBall → 0 < g.status.players → ∀ player, t.1.extraBalls player =
      g.extraBalls player + if player = g.status.currentPlayer then 1 else 0 := by
    intro haward hplayers player
    have hup : g.standing.status.currentPlayer < g.standing.banks.length :=
      hfair.up_lt_iff.mpr hplayers
    rw [if_pos ⟨haward, hup⟩] at hstanding
    have hbanks : t.1.banks = g.standing.awarded.banks := congrArg Standing.banks hstanding
    rw [extraBalls, hbanks, Standing.getD_awarded hup]
    rfl
  refine ⟨status_idle idle other scene, ?_, ⟨?_, ?_⟩, hgets⟩
  · rw [hleads.runs.starts]
    split <;> rfl
  · rintro hsame ⟨haward, hplayers⟩
    have hmore := hgets haward hplayers g.status.currentPlayer
    rw [hsame, if_pos rfl] at hmore
    omega
  · intro hnot player
    have hup : ¬(r = .awardExtraBall ∧
        g.standing.status.currentPlayer < g.standing.banks.length) :=
      fun h => hnot ⟨h.1, hfair.up_lt_iff.mp h.2⟩
    rw [if_neg hup] at hstanding
    have hbanks : t.1.banks = g.banks := congrArg Standing.banks hstanding
    rw [extraBalls, hbanks, extraBalls]

/-- A game that has been played to its end keeps its standing when a ball is asked to end. -/
theorem ended_game_kept :
    let g := (new 1 () faultyHook).afterMoves (serving [.startGame, .addPlayer, .endBall])
    let t := (apply .endBall (g, bareScene)).2
    g.status.inProgress = false ∧ g.status.players = 1 ∧ t.1.status = g.status ∧
      ∀ player, t.1.extraBalls player = g.extraBalls player := by
  intro g t
  have hidle : g.status.inProgress = false := by decide +kernel
  have hplayers : g.status.players = 1 := by decide +kernel
  obtain ⟨hstatus, -, hkept, -⟩ := idle_kept_iff 1 () faultyHook
    (serving [.startGame, .addPlayer, .endBall]) hidle (r := .endBall) (by decide) bareScene
  exact ⟨hidle, hplayers, hstatus, hkept.mpr fun h => nomatch h.1⟩

/-- The player of a game that has ended still gets an extra ball. -/
theorem ended_game_awards :
    let g := (new 3 () fun _ _ => .idle : Game Unit Unit).afterMoves
      (serving [.startGame, .addPlayer, .endGame])
    let t := (apply .awardExtraBall (g, bareScene)).2
    g.status.inProgress = false ∧ g.extraBalls 0 = 0 ∧ t.1.extraBalls 0 = 1 := by
  decide +kernel

end Game

end Playfield
