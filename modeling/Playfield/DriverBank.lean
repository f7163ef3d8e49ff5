import Playfield.Driver

/-!
# The driver bank

All drivers of a table. Orders name a driver and go to its model and to the board together.
-/
namespace Playfield

/-- Something asked of a named driver. -/
inductive Order where
  /-- Pulse for so many milliseconds; zero holds the driver on. -/
  | pulse (driver : String) (ms : Nat)
  /-- Pulse for the driver's usual length. -/
  | pulseDefault (driver : String)
  | disable (driver : String)
  | patter (driver : String) (onMs offMs firstMs : Nat)
  | schedule (driver : String) (mask : Nat) (cycles : Option Nat)
  deriving DecidableEq, Repr, Inhabited

/-- The driver an order is for. -/
def Order.driver : Order → String
  | .pulse n _ | .pulseDefault n | .disable n | .patter n _ _ _ | .schedule n _ _ => n

/-- Carry an order out on the driver it is for. -/
def Order.act (o : Order) (now : Span) : Act DriverError (Driver × Bench) Unit :=
  match o with
  | .pulse _ ms => (Driver.pulse ms now).mapError .board
  | .pulseDefault _ => fun (d, b) => (Driver.pulse d.pulseMs now).mapError .board (d, b)
  | .disable _ => (Driver.disable now).mapError .board
  | .patter _ onMs offMs firstMs => (Driver.patter onMs offMs firstMs now).mapError .board
  | .schedule _ mask cycles => fun (d, b) =>
    match d.startSchedule mask cycles now with
    | .ok d => (.ok (), d, b)
    | .error e => (.error e, d, b)

/-- All drivers of a table. -/
structure DriverBank where
  drivers : Registry Driver := .empty
  deriving DecidableEq, Repr, Inhabited

namespace DriverBank

def insert (bank : DriverBank) (d : Driver) : Except Clash DriverBank :=
  (bank.drivers.insert d).map DriverBank.mk

/-- The driver with a name. -/
def find? (bank : DriverBank) (name : String) : Option Driver := bank.drivers.find? name

/-- The driver with a number. -/
def get? (bank : DriverBank) (number : Nat) : Option Driver := bank.drivers.get? number

/-- All drivers in order of registration. -/
def toList (bank : DriverBank) : List Driver := bank.drivers.items

/-- Carry an order out. -/
def obey (o : Order) (now : Span) : Act DriverError (DriverBank × Bench) Unit := fun (bank, b) =>
  match bank.drivers.slotOfName? o.driver, bank.find? o.driver with
  | some slot, some d =>
    match o.act now (d, b) with
    | (r, d, b) => (r, ⟨bank.drivers.modify slot fun _ => d⟩, b)
  | _, _ => (.error (.unknown o.driver), bank, b)

/-- Act on a driver by number; a number without a driver goes to the board alone. -/
def byNumber (number : Nat) (x : Act Fault (Driver × Bench) Unit) (c : DriverCall) :
    Act Fault (DriverBank × Bench) Unit := fun (bank, b) =>
  match bank.drivers.slotOfNumber? number, bank.get? number with
  | some slot, some d =>
    match x (d, b) with
    | (o, d, b) => (o, ⟨bank.drivers.modify slot fun _ => d⟩, b)
  | _, _ =>
    match Bench.drive c b with
    | (o, b) => (o, bank, b)

/-- Hold an output on, by number. -/
def holdNumber (number : Nat) (now : Span) : Act Fault (DriverBank × Bench) Unit :=
  byNumber number (Driver.pulse 0 now) (.pulse number 0)

/-- Turn an output off, by number. -/
def disableNumber (number : Nat) (now : Span) : Act Fault (DriverBank × Bench) Unit :=
  byNumber number (Driver.disable now) (.disable number)

/-- Bring drivers up to the present in turn, up to the first that fails. -/
def tickList (now : Span) : List Driver → Bench → Outcome Fault Unit × List Driver × Bench
  | [], b => (.ok (), [], b)
  | d :: rest, b =>
    match Driver.tick now (d, b) with
    | (.ok (), d, b) =>
      match tickList now rest b with
      | (o, rest, b) => (o, d :: rest, b)
    | (o, d, b) => (o, d :: rest, b)

/-- Bring all drivers up to the present. -/
def tick (now : Span) : Act Fault (DriverBank × Bench) Unit := fun (bank, b) =>
  match tickList now bank.toList b with
  | (o, items, b) => (o, ⟨{ bank.drivers with items }⟩, b)

end DriverBank

end Playfield
