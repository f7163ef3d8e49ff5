import Playfield.Cabinet

/-!
# The game

Players, balls and extra balls. Requests move a game on from its start over the balls of each
player to its end, and run a lifecycle callback at each of these moments. A callback that fails is
remarked on and otherwise passed over, unless the board failed: that fault is passed on.
-/
namespace Playfield

/-- A game, running or not. -/
structure Game (σ κ : Type) where
  status : GameStatus
  /-- Extra balls of each player. -/
  banks : List Nat := []
  /-- The memory of the lifecycle callbacks. -/
  memory : σ
  hook : GameHook → σ → Callback σ κ := fun _ _ => .idle

namespace Game
variable {σ κ : Type}

/-- A game that has not begun. -/
def new (ballsPerGame : Nat) (memory : σ) (hook : GameHook → σ → Callback σ κ) : Game σ κ :=
  { status := { ballsPerGame }, memory, hook }

/-- The extra balls of a player. -/
def extraBalls (g : Game σ κ) (player : Nat) : Nat := g.banks.getD player 0

/-- End any game without running callbacks. -/
def reset (g : Game σ κ) : Game σ κ :=
  { g with status := { ballsPerGame := g.status.ballsPerGame }, banks := [] }

/-- A computation on the game and the scene. -/
abbrev Step (σ κ : Type) : Type → Type := Act Fault (Game σ κ × Scene κ)

/-- Change the status. -/
def update (f : GameStatus → GameStatus) : Step σ κ Unit :=
  .modify fun (g, scene) => ({ g with status := f g.status }, scene)

/-- Change the extra balls. -/
def updateBanks (f : List Nat → List Nat) : Step σ κ Unit :=
  .modify fun (g, scene) => ({ g with banks := f g.banks }, scene)

/-- Put a remark into the journal. -/
def log (severity : Severity) (text : String) : Step σ κ Unit := .second (Scene.log severity text)

/-- Let callbacks see the present status. -/
def reveal : Step σ κ Unit := .modify fun (g, scene) => (g, { scene with game := g.status })

/-- Run a lifecycle callback, which sees the present status. -/
def notify (h : GameHook) : Step σ κ Unit := fun (g, scene) =>
  let scene := { scene with game := g.status }.begin (.lifecycle h)
  match (g.hook h g.memory).play (g.memory, scene) with
  | (outcome, memory, scene) =>
    let g := { g with memory }
    match FaultReason.ofOutcome outcome with
    | .ok _ => (.ok (), g, scene)
    | .error (.error (.board f)) => (.error f, g, scene)
    | .error reason =>
      (.ok (), g,
        scene.remark .error ("game lifecycle " ++ h.text ++ " faulted: " ++ reason.message))

/-- Run the rest only if a game is in progress; otherwise remark that the request is ignored. -/
def whilePlaying (request : String) (x : Step σ κ Unit) : Step σ κ Unit := fun (g, scene) =>
  if g.status.inProgress then x (g, scene)
  else log .warn ("ignoring " ++ request ++ " with no game in progress") (g, scene)

/-- Begin a game without players on ball 1. -/
def startGame : Step σ κ Unit := do
  let (g, _) ← .get
  if g.status.inProgress then
    log .warn "starting a game while one is in progress; restarting"
  update fun s =>
    { s with
      ball := 1, players := 0, currentPlayer := 0, ballStartedAt := none, inProgress := true }
  updateBanks fun _ => []
  notify .gameStarted

/-- Add a player with no extra balls. -/
def addPlayer : Step σ κ Unit := do
  whilePlaying "add player" do
    update fun s => { s with players := s.players + 1 }
    updateBanks fun banks => banks ++ [0]
  reveal

/-- Start the ball in play. -/
def startBall : Step σ κ Unit :=
  whilePlaying "start ball" do
    let (_, scene) ← .get
    update fun s => { s with ballStartedAt := some scene.now }
    notify .ballStarting

/-- End the game. Callbacks at the end still see the last ball. -/
def endGame : Step σ κ Unit := fun (g, scene) =>
  if g.status.inProgress then
    let status := { g.status with inProgress := false, ballStartedAt := none }
    match notify .gameEnded ({ g with status }, scene) with
    | (o, s) =>
      match (do update fun s => { s with ball := 0 }; reveal : Step σ κ Unit) s with
      | (_, s) => (o, s)
  else (.ok (), g, scene)

/-- Go on to the next player, or to the next ball after the last player. -/
def rotate : Step σ κ Unit := do
  let (g, _) ← .get
  let s := g.status
  if max s.players 1 ≤ s.currentPlayer + 1 then
    update fun s => { s with ball := s.ball + 1, currentPlayer := 0 }
    log .debug ("next ball: " ++ toString (s.ball + 1))
  else
    update fun s => { s with currentPlayer := s.currentPlayer + 1 }

/-- End the ball in play: the player shoots again on an extra ball, or else the next ball starts, or
the game ends after the last ball of the last player. -/
def endBall : Step σ κ Unit :=
  whilePlaying "end ball" do
    let (g, scene) ← .get
    match g.status.ballStartedAt with
    | some started =>
      log .debug
        ("ball " ++ toString g.status.ball ++ " lasted " ++
          toString (scene.now.since started).millis ++ "ms")
    | none => pure ()
    notify .ballEnded
    let player := g.status.currentPlayer
    if 0 < g.extraBalls player then
      updateBanks fun banks => banks.modify player (· - 1)
      log .debug ("player " ++ toString (player + 1) ++ " shoots again")
      update fun s => { s with ballStartedAt := some scene.now }
      notify .shootAgain
    else
      rotate
      let (g, _) ← .get
      if g.status.ballsPerGame < g.status.ball then endGame else startBall

/-- Give the player up an extra ball. -/
def awardExtraBall : Step σ κ Unit := do
  let (g, _) ← .get
  if g.status.currentPlayer < g.banks.length then
    updateBanks fun banks => banks.modify g.status.currentPlayer (· + 1)
  else
    log .warn "no current player to award an extra ball to"

/-- Do what a request asks for. -/
def apply (r : GameRequest) : Step σ κ Unit := do
  log .debug ("game request " ++ r.text)
  match r with
  | .startGame => startGame
  | .addPlayer => addPlayer
  | .startBall => startBall
  | .endBall => endBall
  | .endGame => endGame
  | .awardExtraBall => awardExtraBall
  | .updateLamps => notify .updateLamps

end Game

end Playfield
