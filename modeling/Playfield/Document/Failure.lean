import Playfield.Act
import Playfield.CommandQueue
import Playfield.Config
import Playfield.Handler
import Playfield.Json
import Playfield.ModeBuilder

/-!
# Failures as JSON

A failure is written as the name of its kind and the text shown for it. A cause that hands on a
fault of the board has that fault's kind. A list of problems also lists them one by one.
-/
namespace Playfield

/-- Causes of failure that have a kind and a text. -/
class Failure (ε : Type) where
  kind : ε → String
  message : ε → String

instance : Failure Clash where
  kind
    | .number _ => "DuplicateNumber"
    | .name _ => "DuplicateName"
  message := Clash.message

/-- The kind of a board fault. -/
def Fault.kind : Fault → String
  | .unresponsive _ => "Unresponsive"
  | .rejected _ _ => "Rejected"
  | .closed => "Closed"

instance : Failure Fault := ⟨Fault.kind, Fault.message⟩

instance : Failure DriverError where
  kind
    | .unknown _ => "Unknown"
    | .notVirtual _ => "NotVirtual"
    | .board f => f.kind
  message := DriverError.message

instance : Failure HandlerError where
  kind
    | .board f => f.kind
    | .unknownDriver _ => "UnknownDriver"
    | .failed _ => "Failed"
  message := HandlerError.message

instance : Failure QueueFull := ⟨fun _ => "QueueFull", QueueFull.message⟩

instance : Failure BuildError where
  kind
    | .missingName => "MissingName"
    | .emptySwitchName _ _ => "EmptySwitchName"
    | .zeroHold _ => "ZeroHold"
  message := BuildError.message

instance : Failure Problem where
  kind
    | .missingSwitch _ _ => "MissingSwitch"
    | .missingDriver _ _ => "MissingDriver"
    | .duplicateName _ _ => "DuplicateName"
    | .duplicateNumber _ _ => "DuplicateNumber"
    | .emptyName _ _ => "EmptyName"
    | .zeroBumperPulse _ => "ZeroBumperPulse"
    | .noBalls => "NoBalls"
    | .noBallsPerGame => "NoBallsPerGame"
  message := Problem.message

namespace Failure

/-- A kind and a text. -/
def write (kind message : String) : Json :=
  .obj [("error", .str kind), ("message", .str message)]

def encode {ε : Type} [Failure ε] (e : ε) : Json := write (kind e) (message e)

/-- A panic with its message. -/
def encodePanic (message : String) : Json := write "panic" message

end Failure

/-- All that is wrong with a table description. -/
def Problem.encodeList (ps : List Problem) : Json :=
  .obj [("error", .str "ConfigurationErrors"), ("message", .str (listMessage ps)),
    ("items", .array (ps.map Failure.encode))]

/-- The reason a callback was abandoned for. -/
def FaultReason.encode : FaultReason → Json
  | .error e => Failure.encode e
  | .panicked m => Failure.encodePanic m

/-- An ending: its value, its cause, or the message of its panic. -/
def Outcome.encode {ε α : Type} [Failure ε] (value : α → Json) : Outcome ε α → Json
  | .ok a => value a
  | .error e => Failure.encode e
  | .panic m => Failure.encodePanic m

end Playfield
