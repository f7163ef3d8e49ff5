import Playfield.Config

/-!
# Checking a table description

`TableConfig.problems` goes through a description once and lists everything that is wrong with it:
first the switches, then the drivers, the game settings, the flippers, the bumpers and the flipper
relay.
-/
namespace Playfield

namespace TableConfig

/-- A problem unless the test is passed. -/
def require (ok : Bool) (p : Problem) : List Problem := if ok then [] else [p]

/-- Empty and repeated names and repeated numbers, with the names and numbers seen before. -/
def clashes (kind : PartKind) :
    List (String × Nat) → List String → List Nat → List Problem
  | [], _, _ => []
  | (name, number) :: rest, names, numbers =>
    require (name ≠ "") (.emptyName kind number) ++
      require (!names.contains name) (.duplicateName kind name) ++
      require (!numbers.contains number) (.duplicateNumber kind number) ++
      clashes kind rest (name :: names) (number :: numbers)

/-- The names of all switches. -/
def switchNames (c : TableConfig) : List String := c.switches.map SwitchEntry.name

/-- The names of all drivers. -/
def driverNames (c : TableConfig) : List String := c.drivers.map DriverEntry.name

/-- A problem unless there is a switch of this name. -/
def needSwitch (c : TableConfig) (name : String) (referrer : Referrer) : List Problem :=
  require (c.switchNames.contains name) (.missingSwitch name referrer)

/-- A problem unless there is a driver of this name. -/
def needDriver (c : TableConfig) (name : String) (referrer : Referrer) : List Problem :=
  require (c.driverNames.contains name) (.missingDriver name referrer)

/-- What is wrong with a flipper. -/
def flipperProblems (c : TableConfig) (name : String) : List Problem :=
  c.needSwitch name (.flipper name) ++
    c.needDriver (name ++ "Main") (.flipper name) ++
    match c.machineType.family with
    | .dualCoil => c.needDriver (name ++ "Hold") (.flipper name)
    | .singleCoilPattern => []

/-- What is wrong with a bumper. -/
def bumperProblems (c : TableConfig) (name : String) : List Problem :=
  c.needSwitch name (.bumper name) ++
    c.needDriver name (.bumper name) ++
    match c.coils.find? fun coil => coil.name = name with
    | some coil => require (0 < coil.pulseMs) (.zeroBumperPulse name)
    | none => []

/-- What is wrong with the flipper relay. -/
def relayProblems (c : TableConfig) : List Problem :=
  match c.flipperRelay with
  | some name => c.needDriver name .relay
  | none => []

/-- Everything that is wrong with a description. -/
def problems (c : TableConfig) : List Problem :=
  clashes .switch (c.switches.map fun s => (s.name, s.number.toNat)) [] [] ++
    clashes .driver (c.drivers.map fun d => (d.name, d.number.toNat)) [] [] ++
    require (0 < c.game.numBalls) .noBalls ++
    require (0 < c.game.ballsPerGame) .noBallsPerGame ++
    c.flippers.flatMap c.flipperProblems ++
    c.bumpers.flatMap c.bumperProblems ++
    c.relayProblems

/-- Accept a description that has nothing wrong with it. -/
def validate (c : TableConfig) : Except (List Problem) Unit :=
  match c.problems with
  | [] => .ok ()
  | ps => .error ps

end TableConfig

end Playfield
