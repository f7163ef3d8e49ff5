import Playfield.Config.Document
import Playfield.Game.Status

/-!
# Game status, requests and settings as JSON
-/
namespace Playfield

namespace GameRequest

def decode? : Json → Option GameRequest := Json.choice? names

def encode (r : GameRequest) : Json := .str r.text

end GameRequest

namespace GameStatus

def decode? (j : Json) : Option GameStatus := do
  let r ← j.record?
    ["ball", "balls_per_game", "players", "current_player", "in_progress", "ball_started_at"] false
  let ball ← r.required? "ball" Json.word?
  let ballsPerGame ← r.required? "balls_per_game" Json.word?
  let players ← r.required? "players" Json.word?
  let currentPlayer ← r.required? "current_player" Json.word?
  let inProgress ← r.required? "in_progress" Json.bool?
  let ballStartedAt ← r.optional? "ball_started_at" Span.decode?
  some { ball, ballsPerGame, players, currentPlayer, inProgress, ballStartedAt }

def encode (s : GameStatus) : Json :=
  .obj [("ball", .nat s.ball), ("balls_per_game", .nat s.ballsPerGame),
    ("players", .nat s.players), ("current_player", .nat s.currentPlayer),
    ("in_progress", .bool s.inProgress),
    ("ball_started_at", .ofOption Span.encode s.ballStartedAt)]

end GameStatus

namespace Condition

/-- The conditions by name. -/
def names : List (String × Condition) :=
  [("Active", .active), ("Inactive", .inactive), ("Open", .opened), ("Closed", .closed)]

/-- The name of a condition. -/
def text : Condition → String
  | .active => "Active"
  | .inactive => "Inactive"
  | .opened => "Open"
  | .closed => "Closed"

def decode? : Json → Option Condition := Json.choice? names

def encode (c : Condition) : Json := .str c.text

end Condition

namespace LoopSettings

def decode? (j : Json) : Option LoopSettings := do
  let r ← j.record?
    ["delay", "include_frame_events", "overrun_tolerance", "flipper_pulse_ms", "patter_on_ms",
      "patter_off_ms"] false
  let delay ← r.required? "delay" Span.decode?
  let includeFrameEvents ← r.required? "include_frame_events" Json.bool?
  let overrunTolerance ← r.required? "overrun_tolerance" Span.decode?
  let flipperPulseMs ← r.required? "flipper_pulse_ms" Json.byte?
  let patterOnMs ← r.required? "patter_on_ms" Json.byte?
  let patterOffMs ← r.required? "patter_off_ms" Json.byte?
  some { delay, includeFrameEvents, overrunTolerance, flipperPulseMs, patterOnMs, patterOffMs }

def encode (s : LoopSettings) : Json :=
  .obj [("delay", s.delay.encode), ("include_frame_events", .bool s.includeFrameEvents),
    ("overrun_tolerance", s.overrunTolerance.encode),
    ("flipper_pulse_ms", .nat s.flipperPulseMs), ("patter_on_ms", .nat s.patterOnMs),
    ("patter_off_ms", .nat s.patterOffMs)]

end LoopSettings

end Playfield
