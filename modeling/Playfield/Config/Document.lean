import Playfield.Config
import Playfield.Json.Printer
import Playfield.Json.Reader
import Playfield.Json.Record

/-!
# Table descriptions as JSON documents

Reading and writing descriptions. Writing puts every field down; reading fills in the defaults of
fields that are left out.
-/
namespace Playfield

open Json (Record)

namespace Span

/-- A span as seconds and nanoseconds. Nanoseconds of a second and more are carried over; a record
with any other member is refused. -/
def decode? (j : Json) : Option Span := do
  let r ← j.record? ["secs", "nanos"] true
  let secs ← r.required? "secs" Json.long?
  let nanos ← r.required? "nanos" Json.word?
  let s := ofParts secs nanos
  if s.nanos < bound then some s else none

def encode (s : Span) : Json := .obj [("secs", .nat s.secs), ("nanos", .nat s.subsec)]

end Span

namespace Wiring

/-- The wirings by the names they have in documents. -/
def names : List (String × Wiring) := [("NO", .normallyOpen), ("NC", .normallyClosed)]

def decode? : Json → Option Wiring := Json.choice? names

/-- The name of a wiring. -/
def text : Wiring → String
  | .normallyOpen => "NO"
  | .normallyClosed => "NC"

def encode (w : Wiring) : Json := .str w.text

end Wiring

namespace MachineType

/-- The boards by the names they have in documents. -/
def names : List (String × MachineType) :=
  [("Wpc", .wpc), ("Wpc95", .wpc95), ("WpcAlphanumeric", .wpcAlphanumeric),
    ("SternWhitestar", .sternWhitestar), ("SternSam", .sternSam), ("Pdb", .pdb)]

def decode? : Json → Option MachineType := Json.choice? names

/-- The name of a board. -/
def text : MachineType → String
  | .wpc => "Wpc"
  | .wpc95 => "Wpc95"
  | .wpcAlphanumeric => "WpcAlphanumeric"
  | .sternWhitestar => "SternWhitestar"
  | .sternSam => "SternSam"
  | .pdb => "Pdb"

def encode (t : MachineType) : Json := .str t.text

end MachineType

namespace SwitchEntry

def decode? (j : Json) : Option SwitchEntry := do
  let r ← j.record? ["name", "number", "wiring", "tags"] false
  let name ← r.required? "name" Json.str?
  let number ← r.required? "number" Json.uint16?
  let wiring ← r.getD? "wiring" Wiring.decode? .normallyOpen
  let tags ← r.getD? "tags" (Json.list? Json.str?) []
  some { name, number, wiring, tags }

def encode (e : SwitchEntry) : Json :=
  .obj [("name", .str e.name), ("number", .nat e.number.toNat), ("wiring", e.wiring.encode),
    ("tags", .strs e.tags)]

end SwitchEntry

namespace DriverEntry

def decode? (j : Json) : Option DriverEntry := do
  let r ← j.record? ["name", "number", "pulse_ms", "virtual"] false
  let name ← r.required? "name" Json.str?
  let number ← r.required? "number" Json.uint16?
  let pulseMs ← r.getD? "pulse_ms" Json.uint8? 30
  let isVirtual ← r.getD? "virtual" Json.bool? false
  some { name, number, pulseMs, isVirtual }

def encode (e : DriverEntry) : Json :=
  .obj [("name", .str e.name), ("number", .nat e.number.toNat), ("pulse_ms", .nat e.pulseMs.toNat),
    ("virtual", .bool e.isVirtual)]

end DriverEntry

namespace GameSettings

def decode? (j : Json) : Option GameSettings := do
  let r ← j.record? ["num_balls", "balls_per_game"] false
  let numBalls ← r.required? "num_balls" Json.uint8?
  let ballsPerGame ← r.required? "balls_per_game" Json.uint8?
  some { numBalls, ballsPerGame }

def encode (g : GameSettings) : Json :=
  .obj [("num_balls", .nat g.numBalls.toNat), ("balls_per_game", .nat g.ballsPerGame.toNat)]

end GameSettings

namespace TableConfig

/-- The fields of a description, in order. -/
def fieldNames : List String :=
  ["machine_type", "switches", "coils", "lamps", "flippers", "bumpers", "flipper_relay", "game"]

def decode? (j : Json) : Option TableConfig := do
  let r ← j.record? fieldNames false
  let machineType ← r.required? "machine_type" MachineType.decode?
  let switches ← r.getD? "switches" (Json.list? SwitchEntry.decode?) []
  let coils ← r.getD? "coils" (Json.list? DriverEntry.decode?) []
  let lamps ← r.getD? "lamps" (Json.list? DriverEntry.decode?) []
  let flippers ← r.getD? "flippers" (Json.list? Json.str?) []
  let bumpers ← r.getD? "bumpers" (Json.list? Json.str?) []
  let flipperRelay ← r.getD? "flipper_relay" (Record.nullable? Json.str?) none
  let game ← r.getD? "game" GameSettings.decode? {}
  some { machineType, switches, coils, lamps, flippers, bumpers, flipperRelay, game }

def encode (c : TableConfig) : Json :=
  .obj [("machine_type", c.machineType.encode),
    ("switches", .array (c.switches.map SwitchEntry.encode)),
    ("coils", .array (c.coils.map DriverEntry.encode)),
    ("lamps", .array (c.lamps.map DriverEntry.encode)),
    ("flippers", .strs c.flippers),
    ("bumpers", .strs c.bumpers),
    ("flipper_relay", .ofOption Json.str c.flipperRelay),
    ("game", c.game.encode)]

/-- The description a text holds. -/
def parse? (text : String) : Option TableConfig := (Json.parse text).bind decode?

/-- The text of a description. -/
def print (c : TableConfig) : String := c.encode.print

end TableConfig

end Playfield
