import Playfield.Span

/-!
# Game status

What callbacks can see of the game in progress, and what may be asked of the game.
-/
namespace Playfield

/-- How far a game has come. Nothing here ends the counting at the end of a machine word;
`Standing.Counts` says which requests count within words. -/
structure GameStatus where
  /-- The ball in play, from 1; 0 without a game. -/
  ball : Nat := 0
  ballsPerGame : Nat := 0
  players : Nat := 0
  /-- The player up, from 0. -/
  currentPlayer : Nat := 0
  inProgress : Bool := false
  ballStartedAt : Option Span := none
  deriving DecidableEq, Repr, Inhabited

/-- The ball in play is the last regular one. -/
def GameStatus.isLastBall (s : GameStatus) : Bool := s.inProgress && s.ballsPerGame ≤ s.ball

/-- A change of the game asked for by a mode or by the host. -/
inductive GameRequest where
  | startGame
  | addPlayer
  | startBall
  | endBall
  | endGame
  /-- One extra ball for the player up. -/
  | awardExtraBall
  | updateLamps
  deriving DecidableEq, Repr, Inhabited

namespace GameRequest

/-- The name of a request. -/
def text : GameRequest → String
  | .startGame => "StartGame"
  | .addPlayer => "AddPlayer"
  | .startBall => "StartBall"
  | .endBall => "EndBall"
  | .endGame => "EndGame"
  | .awardExtraBall => "AwardExtraBall"
  | .updateLamps => "UpdateLamps"

/-- The requests by name. -/
def names : List (String × GameRequest) :=
  [("StartGame", .startGame), ("AddPlayer", .addPlayer), ("StartBall", .startBall),
    ("EndBall", .endBall), ("EndGame", .endGame), ("AwardExtraBall", .awardExtraBall),
    ("UpdateLamps", .updateLamps)]

end GameRequest

/-- A moment of the game at which a lifecycle callback runs. -/
inductive GameHook where
  | gameStarted
  | ballStarting
  | ballEnded
  | shootAgain
  | gameEnded
  | updateLamps
  deriving DecidableEq, Repr, Inhabited

/-- The name of a lifecycle callback. -/
def GameHook.text : GameHook → String
  | .gameStarted => "on_game_started"
  | .ballStarting => "on_ball_starting"
  | .ballEnded => "on_ball_ended"
  | .shootAgain => "on_shoot_again"
  | .gameEnded => "on_game_ended"
  | .updateLamps => "on_update_lamps"

end Playfield
