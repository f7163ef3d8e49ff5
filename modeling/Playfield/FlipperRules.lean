import Playfield.Config

/-!
# Flipper and bumper rules

Reactions that must not wait for the host are written to the board as rules. `FlipperRules` knows
the switches and coils of all flippers and bumpers by number, compiles the rules, and installs
them or takes them away.

Enabling what is enabled does nothing. Disabling always takes every rule away and turns every
flipper coil off, so that no output stays on; the flag changes only after the last call has gone
well.
-/
namespace Playfield

/-- Pulse lengths for flipper coils. -/
structure FlipperTiming where
  /-- The main coil's pulse, or the first pulse of a single coil. -/
  pulseMs : Nat
  patterOnMs : Nat
  patterOffMs : Nat
  deriving DecidableEq, Repr, Inhabited

/-- The timing in the loop settings. -/
def LoopSettings.timing (s : LoopSettings) : FlipperTiming :=
  ⟨s.flipperPulseMs, s.patterOnMs, s.patterOffMs⟩

/-- A flipper by numbers. -/
structure Flipper where
  switch : Nat
  main : Nat
  hold : Option Nat
  deriving DecidableEq, Repr, Inhabited

/-- A bumper by numbers. -/
structure Bumper where
  switch : Nat
  coil : Nat
  pulseMs : Nat
  deriving DecidableEq, Repr, Inhabited

/-- The rules of a table. -/
structure FlipperRules where
  family : FlipperFamily
  timing : FlipperTiming
  flippers : List Flipper
  bumpers : List Bumper
  relay : Option Nat
  /-- The rules are on the board. -/
  enabled : Bool := false
  deriving DecidableEq, Repr, Inhabited

namespace FlipperRules

/-- A part found by name, or the problem that it is missing. -/
abbrev Found (α : Type) := Except Problem α

/-- The number of a switch. -/
def switchNumber (store : SwitchStore) (name : String) (referrer : Referrer) : Found Nat :=
  match store.find? name with
  | some s => .ok s.number
  | none => .error (.missingSwitch name referrer)

/-- A driver by name. -/
def driverNamed (bank : DriverBank) (name : String) (referrer : Referrer) : Found Driver :=
  match bank.find? name with
  | some d => .ok d
  | none => .error (.missingDriver name referrer)

/-- The problem of a part that was not found. -/
def missing {α : Type} : Found α → List Problem
  | .ok _ => []
  | .error p => [p]

/-- A flipper, or everything it misses. -/
def resolveFlipper (family : FlipperFamily) (store : SwitchStore) (bank : DriverBank)
    (name : String) : Except (List Problem) Flipper :=
  let switch := switchNumber store name (.flipper name)
  let main := driverNamed bank (name ++ "Main") (.flipper name)
  let hold := match family with
    | .dualCoil =>
      (driverNamed bank (name ++ "Hold") (.flipper name)).map fun (d : Driver) => some d.number
    | .singleCoilPattern => .ok none
  match switch, main, hold with
  | .ok switch, .ok main, .ok hold => .ok ⟨switch, main.number, hold⟩
  | switch, main, hold => .error (missing switch ++ missing main ++ missing hold)

/-- A bumper, or everything it misses. -/
def resolveBumper (store : SwitchStore) (bank : DriverBank) (name : String) :
    Except (List Problem) Bumper :=
  let switch := switchNumber store name (.bumper name)
  let coil := driverNamed bank name (.bumper name)
  match switch, coil with
  | .ok switch, .ok coil => .ok ⟨switch, coil.number, coil.pulseMs⟩
  | switch, coil => .error (missing switch ++ missing coil)

/-- Resolve each name; what is found comes in order, and what is missing comes in order. -/
def resolveAll {α : Type} (resolve : String → Except (List Problem) α) :
    List String → List Problem × List α
  | [] => ([], [])
  | name :: rest =>
    match resolve name, resolveAll resolve rest with
    | .ok a, (ps, found) => (ps, a :: found)
    | .error qs, (ps, found) => (qs ++ ps, found)

/-- Resolve every name the rules of a table use, or list all that are missing. -/
def resolve (c : TableConfig) (store : SwitchStore) (bank : DriverBank) (timing : FlipperTiming) :
    Except (List Problem) FlipperRules :=
  let family := c.machineType.family
  let flippers := resolveAll (resolveFlipper family store bank) c.flippers
  let bumpers := resolveAll (resolveBumper store bank) c.bumpers
  let relay := c.flipperRelay.map fun name => driverNamed bank name .relay
  let problems := flippers.1 ++ bumpers.1 ++ (relay.map missing).getD []
  if problems.isEmpty then
    .ok {
      family, timing
      flippers := flippers.2
      bumpers := bumpers.2
      relay := relay.bind fun found => found.toOption.map Driver.number }
  else .error problems

/-- What a flipper does when its switch closes. -/
def onClose (r : FlipperRules) (f : Flipper) : List Directive :=
  match r.family, f.hold with
  | .dualCoil, some hold => [⟨f.main, .pulse r.timing.pulseMs⟩, ⟨hold, .pulse 0⟩]
  | _, _ => [⟨f.main, .patter r.timing.patterOnMs r.timing.patterOffMs r.timing.pulseMs⟩]

/-- What a flipper does when its switch opens. -/
def onOpen (r : FlipperRules) (f : Flipper) : List Directive :=
  match r.family, f.hold with
  | .dualCoil, some hold => [⟨f.main, .disable⟩, ⟨hold, .disable⟩]
  | _, _ => [⟨f.main, .disable⟩]

/-- The two rules of a flipper; to disable they have no directives. -/
def flipperRules (r : FlipperRules) (enable : Bool) (f : Flipper) : List Rule :=
  [⟨f.switch, .closedNondebounced, {}, if enable then r.onClose f else []⟩,
    ⟨f.switch, .openNondebounced, {}, if enable then r.onOpen f else []⟩]

/-- The rule of a bumper, which fires again on repeated contact. -/
def bumperRule (enable : Bool) (b : Bumper) : Rule :=
  ⟨b.switch, .closedNondebounced, { reloadActive := true },
    if enable then [⟨b.coil, .pulse b.pulseMs⟩] else []⟩

/-- All rules in the order they are installed. -/
def compile (r : FlipperRules) (enable : Bool) : List Rule :=
  r.flippers.flatMap (r.flipperRules enable) ++ r.bumpers.map (bumperRule enable)

/-- The coils of all flippers. -/
def coils (r : FlipperRules) : List Nat := r.flippers.flatMap fun f => f.main :: f.hold.toList

/-- Write rules to the board one after another. -/
def installAll (rules : List Rule) : Act Fault (DriverBank × Bench) Unit :=
  Act.each (fun rule => .second (Bench.install rule false)) rules

/-- The calls that turn the rules on or off. -/
def apply (r : FlipperRules) (enable : Bool) (now : Span) :
    Act Fault (DriverBank × Bench) Unit := do
  .second (Bench.log .debug ("setting flippers enabled to " ++ toString enable))
  installAll (r.compile enable)
  if !enable then
    Act.each (fun coil => DriverBank.disableNumber coil now) r.coils
  match r.relay with
  | some relay =>
    if enable then DriverBank.holdNumber relay now else DriverBank.disableNumber relay now
  | none => pure ()

/-- Turn flippers and bumpers on or off; answers whether any rule was written. -/
def setEnabled (enable : Bool) (now : Span) :
    Act Fault (FlipperRules × DriverBank × Bench) Bool := fun (r, s) =>
  if enable && r.enabled then (.ok false, r, s)
  else
    match r.apply enable now s with
    | (.ok (), s) => (.ok true, { r with enabled := enable }, s)
    | (.error f, s) => (.error f, r, s)
    | (.panic m, s) => (.panic m, r, s)

end FlipperRules

end Playfield
