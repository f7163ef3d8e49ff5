import Playfield.Act
import Playfield.Board.Event
import Playfield.Board.Fault
import Playfield.Board.Rule

/-!
# The simulated control board

A board that exists only in memory. It hands out the events queued on it, keeps a rule for each
switch and trigger, and records every output the host drives. A fault set up with `inject` makes
the next call fail, and a closed board fails every call; a call that fails changes nothing else.
Closing never fails.
-/
namespace Playfield

/-- An output driven by the host. -/
inductive DriverCall where
  | pulse (driver ms : Nat)
  | disable (driver : Nat)
  | pattern (driver onMs offMs firstMs : Nat)
  deriving DecidableEq, Repr, Inhabited

namespace DriverCall

/-- The driver a call is for. -/
def driver : DriverCall → Nat
  | .pulse n _ | .disable n | .pattern n _ _ _ => n

/-- How a call is written in records. -/
def text : DriverCall → String
  | .pulse n ms => "pulse " ++ toString n ++ " " ++ toString ms
  | .disable n => "disable " ++ toString n
  | .pattern n onMs offMs firstMs =>
    "pattern " ++ toString n ++ " " ++ toString onMs ++ " " ++ toString offMs ++ " " ++
      toString firstMs

end DriverCall

/-- The output a directive drives. -/
def Directive.call (d : Directive) : DriverCall :=
  match d.action with
  | .pulse ms => .pulse d.driver ms
  | .disable => .disable d.driver
  | .patter onMs offMs firstMs => .pattern d.driver onMs offMs firstMs

/-- What the board holds for one switch and trigger. -/
structure InstalledRule where
  options : RuleOptions
  directives : List Directive
  deriving DecidableEq, Repr, Inhabited

/-- The rules on a board, at most one for each switch and trigger. -/
abbrev RuleTable := List ((Nat × Trigger) × InstalledRule)

namespace RuleTable

/-- The rule for a switch and trigger. -/
def get? (t : RuleTable) (key : Nat × Trigger) : Option InstalledRule := t.lookup key

/-- Take the rule for a switch and trigger away. -/
def erase (t : RuleTable) (key : Nat × Trigger) : RuleTable := t.filter fun r => r.1 ≠ key

/-- Put a rule in place of the one for its switch and trigger. -/
def set (t : RuleTable) (key : Nat × Trigger) (r : InstalledRule) : RuleTable :=
  (key, r) :: t.erase key

/-- A rule comes before another by switch, then by trigger. -/
def before (a b : (Nat × Trigger) × InstalledRule) : Bool :=
  a.1.1 < b.1.1 || (a.1.1 == b.1.1 && a.1.2.rank ≤ b.1.2.rank)

/-- The rules by switch, then by trigger. -/
def sorted (t : RuleTable) : RuleTable := t.mergeSort before

end RuleTable

/-- The state of a simulated board. -/
structure Board where
  /-- Events not handed out yet, oldest first. -/
  pending : List Event := []
  /-- Frame events added to every poll that asks for them. -/
  framesPerPoll : Nat := 0
  rules : RuleTable := []
  /-- Rule writes so far, removals included. -/
  ruleWrites : Nat := 0
  /-- Outputs driven by the host, in order. -/
  calls : Array DriverCall := #[]
  tickles : Nat := 0
  closeCount : Nat := 0
  closed : Bool := false
  /-- The fault the next call will fail with. -/
  injected : Option Fault := none
  deriving Repr, Inhabited

namespace Board

/-- Queue an event. -/
def post (b : Board) (e : Event) : Board := { b with pending := b.pending ++ [e] }

/-- Make the next call fail. -/
def inject (b : Board) (f : Fault) : Board := { b with injected := some f }

/-- What every call begins with: fail with the injected fault, or else if the board is closed. -/
def check : Act Fault Board Unit := fun b =>
  match b.injected with
  | some f => (.error f, { b with injected := none })
  | none => if b.closed then (.error .closed, b) else (.ok (), b)

/-- Hand out the pending events in order, and frame events if asked for. -/
def poll (frames : Bool) : Act Fault Board (List Event) := do
  check
  let b ← .get
  .modify fun b => { b with pending := [] }
  return b.pending ++ if frames then List.replicate b.framesPerPoll .frame else []

/-- Write a rule. With `driveNow` its directives are carried out at once. -/
def install (r : Rule) (driveNow : Bool) : Act Fault Board Unit := do
  check
  .modify fun b => { b with ruleWrites := b.ruleWrites + 1 }
  if r.directives.isEmpty then
    .modify fun b => { b with rules := b.rules.erase (r.switch, r.trigger) }
  else
    if driveNow then
      .modify fun b => { b with calls := b.calls ++ (r.directives.map Directive.call).toArray }
    .modify fun b =>
      { b with rules := b.rules.set (r.switch, r.trigger) ⟨r.options, r.directives⟩ }

/-- Drive an output. -/
def drive (c : DriverCall) : Act Fault Board Unit := do
  check
  .modify fun b => { b with calls := b.calls.push c }

/-- Keep the board from falling back to its safe state. -/
def tickle : Act Fault Board Unit := do
  check
  .modify fun b => { b with tickles := b.tickles + 1 }

/-- Close the board. -/
def close (b : Board) : Board := { b with closeCount := b.closeCount + 1, closed := true }

end Board

end Playfield
