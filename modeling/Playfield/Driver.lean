import Playfield.Bench
import Playfield.Registry

/-!
# Drivers

A driver is an output: a coil, a lamp, a flasher. The host keeps a model of what each output is
doing. A call goes to the board first; the model changes only once the board has taken it.

A driver that the host times itself can run a schedule: a mask of 32 slots, one for each 1/32 of a
second, the lowest bit first. `tick` looks up the slot the present time falls into and calls the
board only when the output has to change.
-/
namespace Playfield

/-- Why an order to a driver failed. -/
inductive DriverError where
  | unknown (name : String)
  /-- A schedule was asked of a driver that the board times. -/
  | notVirtual (name : String)
  | board (fault : Fault)
  deriving DecidableEq, Repr, Inhabited

/-- The text shown for a failed order. -/
def DriverError.message : DriverError → String
  | .unknown name => "no driver named '" ++ name ++ "'"
  | .notVirtual name => "driver '" ++ name ++ "' is board-timed and cannot run a schedule"
  | .board f => f.message

/-- What an output is doing, as far as the host knows. -/
inductive DriverStatus where
  | off
  /-- On until the given time. -/
  | pulsing (ends : Span)
  /-- On until it is disabled. -/
  | held
  /-- On and off in turns until it is disabled. -/
  | pattern (onMs offMs : Nat)
  /-- Run by a schedule. -/
  | scheduled
  deriving DecidableEq, Repr, Inhabited

/-- How a status is shown. -/
def DriverStatus.text : DriverStatus → String
  | .off => "Off"
  | .pulsing t => "Pulsing until " ++ t.text
  | .held => "Held"
  | .pattern onMs offMs => "Pattern " ++ toString onMs ++ " " ++ toString offMs
  | .scheduled => "Scheduled"

/-- A schedule that is running. -/
structure Schedule where
  /-- One bit for each slot. -/
  mask : Nat
  /-- Whole seconds to run; without it the schedule runs for ever. -/
  cycles : Option Nat
  startedAt : Span
  /-- The output as last set. -/
  outputOn : Bool
  deriving DecidableEq, Repr, Inhabited

namespace Schedule

/-- Slots in a second, one for each bit of the mask. -/
def slots : Nat := 32

/-- Microseconds in a slot. -/
def slotMicros : Nat := 1000000 / slots

/-- The running number of the slot a time falls into, counted in a 64-bit word. -/
def slotAt (s : Schedule) (now : Span) : Nat :=
  ((now.since s.startedAt).micros / slotMicros) % UInt64.size

/-- The schedule has run for all its seconds. -/
def isOver (s : Schedule) (slot : Nat) : Bool := s.cycles.any fun c => c * slots ≤ slot

/-- The mask wants the output on in a slot. -/
def wantsOn (s : Schedule) (slot : Nat) : Bool := s.mask.testBit (slot % slots)

end Schedule

/-- An output with the host's model of it. -/
structure Driver where
  number : Nat
  name : String
  /-- Length of its usual pulse. -/
  pulseMs : Nat
  /-- The host times this driver, not the board. -/
  isVirtual : Bool := false
  status : DriverStatus := .off
  schedule : Option Schedule := none
  /-- When the status or the output last changed. -/
  lastChanged : Span := .zero
  deriving DecidableEq, Repr, Inhabited

instance : Listed Driver := ⟨Driver.number, Driver.name⟩

namespace Driver

/-- The output is on or runs a program. -/
def isEnabled (d : Driver) : Bool := d.status ≠ .off

/-- A new status from now on. -/
def enter (d : Driver) (status : DriverStatus) (now : Span) : Driver :=
  { d with status, lastChanged := now }

/-- Send a call to the board, then change the model. -/
def send (c : DriverCall) (f : Driver → Driver) : Act Fault (Driver × Bench) Unit := fun (d, b) =>
  match Bench.drive c b with
  | (.ok (), b) => (.ok (), f d, b)
  | (.error e, b) => (.error e, d, b)
  | (.panic m, b) => (.panic m, d, b)

/-- Pulse the output; a pulse of no length holds it on. A pulse that would end past the last time
there is panics after the board has taken it. -/
def pulse (ms : Nat) (now : Span) : Act Fault (Driver × Bench) Unit := fun (d, b) =>
  if ms = 0 then
    send (.pulse d.number ms) (fun d => { d with schedule := none }.enter .held now) (d, b)
  else
    match now.add? (.ofMillis ms) with
    | some t =>
      send (.pulse d.number ms) (fun d => { d with schedule := none }.enter (.pulsing t) now) (d, b)
    | none =>
      match send (.pulse d.number ms) (fun d => { d with schedule := none }) (d, b) with
      | (.ok (), s) => (.panic Span.overflowMessage, s)
      | failed => failed

/-- Turn the output off and drop its schedule. -/
def disable (now : Span) : Act Fault (Driver × Bench) Unit := fun (d, b) =>
  send (.disable d.number) (fun d => { d with schedule := none }.enter .off now) (d, b)

/-- Turn the output on and off in turns, after one pulse of a length of its own. -/
def patter (onMs offMs firstMs : Nat) (now : Span) : Act Fault (Driver × Bench) Unit :=
  fun (d, b) =>
    send (.pattern d.number onMs offMs firstMs)
      (fun d => { d with schedule := none }.enter (.pattern onMs offMs) now) (d, b)

/-- Start a schedule. The board is not called until the next tick. -/
def startSchedule (d : Driver) (mask : Nat) (cycles : Option Nat) (now : Span) :
    Except DriverError Driver :=
  if d.isVirtual then
    let outputOn := match d.schedule with
      | some s => s.outputOn
      | none => d.isEnabled
    .ok ({ d with
      schedule := some { mask, cycles := cycles.filter (0 < ·), startedAt := now, outputOn }
      }.enter .scheduled now)
  else .error (.notVirtual d.name)

/-- Set the output of a scheduled driver. -/
def setOutput (on : Bool) (now : Span) : Act Fault (Driver × Bench) Unit := fun (d, b) =>
  send (if on then .pulse d.number 0 else .disable d.number)
    (fun d => { d with
      schedule := d.schedule.map fun s => { s with outputOn := on }
      lastChanged := now }) (d, b)

/-- Bring the model up to the present: a pulse that has ended is off since its end, and a schedule
sets its output or ends. -/
def tick (now : Span) : Act Fault (Driver × Bench) Unit := fun (d, b) =>
  match d.status with
  | .pulsing t => (.ok (), if t ≤ now then d.enter .off t else d, b)
  | _ =>
    match d.schedule with
    | none => (.ok (), d, b)
    | some s =>
      let slot := s.slotAt now
      if s.isOver slot then disable now (d, b)
      else if s.wantsOn slot ≠ s.outputOn then setOutput (s.wantsOn slot) now (d, b)
      else (.ok (), d, b)

end Driver

end Playfield
