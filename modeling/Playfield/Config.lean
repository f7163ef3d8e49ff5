import Playfield.DriverBank
import Playfield.Switch

/-!
# Table descriptions

A `TableConfig` names every switch and driver of a table, says which switches are flippers and
bumpers, and carries the settings of the game. A flipper called `x` drives the coils `xMain` and
`xHold`; a bumper drives the coil of its own name. From a description the switch store and the
driver bank are built, with all switches open and all outputs off. Numbers have 16 bits; pulse
lengths and numbers of balls have 8.
-/
namespace Playfield

/-- The control boards the flipper rules know about. -/
inductive MachineType where
  | wpc
  | wpc95
  | wpcAlphanumeric
  | sternWhitestar
  | sternSam
  | pdb
  deriving DecidableEq, Repr, Inhabited

/-- How the coils of a flipper are wired. -/
inductive FlipperFamily where
  /-- A strong main coil and a weak hold coil. -/
  | dualCoil
  /-- One coil, held by switching it on and off in turns. -/
  | singleCoilPattern
  deriving DecidableEq, Repr, Inhabited

/-- The name of a family. -/
def FlipperFamily.text : FlipperFamily → String
  | .dualCoil => "DualCoil"
  | .singleCoilPattern => "SingleCoilPattern"

/-- The flipper wiring of a board. -/
def MachineType.family : MachineType → FlipperFamily
  | .wpc | .wpc95 | .wpcAlphanumeric | .pdb => .dualCoil
  | .sternWhitestar | .sternSam => .singleCoilPattern

/-- A switch of the table. -/
structure SwitchEntry where
  name : String
  number : UInt16
  wiring : Wiring := .normallyOpen
  tags : List String := []
  deriving DecidableEq, Repr, Inhabited

/-- A driver of the table. -/
structure DriverEntry where
  name : String
  number : UInt16
  /-- Length of its usual pulse. -/
  pulseMs : UInt8 := 30
  isVirtual : Bool := false
  deriving DecidableEq, Repr, Inhabited

/-- Settings of the game. -/
structure GameSettings where
  /-- Balls in the table. -/
  numBalls : UInt8 := 4
  ballsPerGame : UInt8 := 3
  deriving DecidableEq, Repr, Inhabited

/-- A whole table. -/
structure TableConfig where
  machineType : MachineType
  switches : List SwitchEntry := []
  coils : List DriverEntry := []
  lamps : List DriverEntry := []
  /-- The flipper switches. -/
  flippers : List String := []
  /-- The bumper switches. -/
  bumpers : List String := []
  /-- The coil that powers the flippers, held while they are live. -/
  flipperRelay : Option String := none
  game : GameSettings := {}
  deriving DecidableEq, Repr, Inhabited

/-- Whether a name or number belongs to a switch or to a driver. -/
inductive PartKind where
  | switch
  | driver
  deriving DecidableEq, Repr, Inhabited

/-- The word for a kind of part. -/
def PartKind.text : PartKind → String
  | .switch => "switch"
  | .driver => "driver"

/-- What refers to a switch or driver by name. -/
inductive Referrer where
  | flipper (name : String)
  | bumper (name : String)
  | relay
  deriving DecidableEq, Repr, Inhabited

/-- How a referrer is named in messages. -/
def Referrer.text : Referrer → String
  | .flipper name => "flipper '" ++ name ++ "'"
  | .bumper name => "bumper '" ++ name ++ "'"
  | .relay => "flipper relay"

/-- Something wrong with a table description. -/
inductive Problem where
  | missingSwitch (name : String) (referrer : Referrer)
  | missingDriver (name : String) (referrer : Referrer)
  | duplicateName (kind : PartKind) (name : String)
  | duplicateNumber (kind : PartKind) (number : Nat)
  | emptyName (kind : PartKind) (number : Nat)
  /-- The coil of a bumper has a pulse of no length, which would hold it on. -/
  | zeroBumperPulse (name : String)
  | noBalls
  | noBallsPerGame
  deriving DecidableEq, Repr, Inhabited

namespace Problem

/-- The text shown for a problem. -/
def message : Problem → String
  | .missingSwitch name referrer =>
    "switch '" ++ name ++ "' referenced by " ++ referrer.text ++ " is not configured"
  | .missingDriver name referrer =>
    "driver '" ++ name ++ "' referenced by " ++ referrer.text ++ " is not configured"
  | .duplicateName kind name =>
    kind.text ++ " name '" ++ name ++ "' is configured more than once"
  | .duplicateNumber kind number =>
    kind.text ++ " number " ++ toString number ++ " is configured more than once"
  | .emptyName kind number =>
    kind.text ++ " number " ++ toString number ++ " has an empty name"
  | .zeroBumperPulse name =>
    "bumper coil '" ++ name ++ "' needs a pulse length; zero would hold it on"
  | .noBalls => "number of balls installed must be greater than zero"
  | .noBallsPerGame => "balls per game must be greater than zero"

/-- The text shown for a list of problems. -/
def listMessage (ps : List Problem) : String :=
  "machine configuration rejected with " ++ toString ps.length ++ " problem(s): " ++
    "; ".intercalate (ps.map message)

/-- The problem behind a refused registration. -/
def ofClash (kind : PartKind) : Clash → Problem
  | .number n => .duplicateNumber kind n
  | .name s => .duplicateName kind s

end Problem

/-- A switch as built from its entry. -/
def SwitchEntry.toSwitch (e : SwitchEntry) : Switch :=
  { number := e.number.toNat, name := e.name, wiring := e.wiring, tags := e.tags }

/-- A driver as built from its entry. -/
def DriverEntry.toDriver (e : DriverEntry) : Driver :=
  { number := e.number.toNat, name := e.name, pulseMs := e.pulseMs.toNat,
    isVirtual := e.isVirtual }

namespace TableConfig

/-- All driver entries, coils first. -/
def drivers (c : TableConfig) : List DriverEntry := c.coils ++ c.lamps

/-- Register items in turn, passing over those refused; the refusals come in order. -/
def registerAll {α : Type} [Listed α] : List α → Registry α → List Clash × Registry α
  | [], r => ([], r)
  | item :: rest, r =>
    match r.insert item with
    | .ok r => registerAll rest r
    | .error clash =>
      match registerAll rest r with
      | (clashes, r) => (clash :: clashes, r)

/-- The switch store of a table, or every clash between its switches. -/
def switchStore (c : TableConfig) : Except (List Problem) SwitchStore :=
  match registerAll (c.switches.map SwitchEntry.toSwitch) .empty with
  | ([], r) => .ok ⟨r⟩
  | (clashes, _) => .error (clashes.map (Problem.ofClash .switch))

/-- The driver bank of a table, or every clash between its drivers. -/
def driverBank (c : TableConfig) : Except (List Problem) DriverBank :=
  match registerAll (c.drivers.map DriverEntry.toDriver) .empty with
  | ([], r) => .ok ⟨r⟩
  | (clashes, _) => .error (clashes.map (Problem.ofClash .driver))

end TableConfig

/-- Settings of the run loop and of the flipper coils. -/
structure LoopSettings where
  /-- Rest after each pass. -/
  delay : Span := .zero
  /-- Ask the board for frame events. -/
  includeFrameEvents : Bool := true
  /-- A held handler later than this counts as an overrun. -/
  overrunTolerance : Span := .ofMillis 100
  flipperPulseMs : Nat := 34
  patterOnMs : Nat := 2
  patterOffMs : Nat := 18
  deriving DecidableEq, Repr, Inhabited

end Playfield
