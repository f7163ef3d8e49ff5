import Playfield.Machine

/-!
# The run loop

A machine runs pass after pass until it is asked to stop, the board fails, or a pass panics, and
closes the board on its way out. What others do meanwhile is a list of visits, one just before
each poll: they move the clock, post events and commands, plan mishaps, or raise the stop flag.
The last visit always raises it, so the loop ends.
-/
namespace Playfield

/-- Something others do to a running machine. -/
inductive Happening where
  | bench (act : BenchAct)
  | command (command : Command)
  deriving DecidableEq, Repr

/-- What happens just before a poll, in order. -/
abbrev Visit := List Happening

/-- Why a run ended. -/
inductive Exit where
  /-- It was asked to. -/
  | cancelled
  | deviceFault (message : String)
  /-- A pass panicked outside any callback. -/
  | panicked (message : String)
  /-- The board had been closed before. -/
  | alreadyClosed
  deriving DecidableEq, Repr, Inhabited

namespace Exit

/-- The run ended because it was asked to. -/
def isClean (e : Exit) : Bool := e = .cancelled

/-- How an exit is written in remarks. -/
def text : Exit → String
  | .cancelled => "Cancelled"
  | .deviceFault m => "DeviceFault(" ++ Text.quoted m ++ ")"
  | .panicked m => "Panicked(" ++ Text.quoted m ++ ")"
  | .alreadyClosed => "AlreadyClosed"

end Exit

/-- What a run reports. -/
structure RunReport where
  /-- Passes that went well. -/
  iterations : Nat
  exit : Exit
  deriving DecidableEq, Repr, Inhabited

/-- Let a thing happen. A command that finds the queue full is lost. -/
def Cabinet.undergo (h : Happening) (c : Cabinet) : Cabinet :=
  match h with
  | .bench a => c.perform a
  | .command command => (c.enqueue command).2

namespace Machine
variable {σ κ : Type}

/-- Change the stop flag. -/
def setStop (raised : Bool) (m : Machine σ κ) : Machine σ κ :=
  { m with cabinet := { m.cabinet with stopRaised := raised } }

/-- Let a visit take place; the last one raises the stop flag. -/
def receive (visit : Visit) (isLast : Bool) (m : Machine σ κ) : Machine σ κ :=
  let m := { m with cabinet := visit.foldl (fun c h => c.undergo h) m.cabinet }
  if isLast then m.setStop true else m

/-- Put a remark on the end of a run into the journal. -/
def remark (severity : Severity) (text : String) (m : Machine σ κ) : Machine σ κ :=
  { m with cabinet := { m.cabinet with bench := m.cabinet.bench.remark severity text } }

/-- Pass after pass until there is a reason to end, with the passes that went well before. -/
def loop : List Visit → Nat → Machine σ κ → RunReport × Machine σ κ
  | [], iterations, m => (⟨iterations, .cancelled⟩, m)
  | visit :: rest, iterations, m =>
    if m.cabinet.stopRaised then (⟨iterations, .cancelled⟩, m)
    else
      match step (m.receive visit rest.isEmpty) with
      | (.ok (), m) => loop rest (iterations + 1) m
      | (.error f, m) =>
        (⟨iterations, .deviceFault f.message⟩,
          m.remark .error ("device fault, stopping run loop: " ++ f.message))
      | (.panic message, m) =>
        (⟨iterations, .panicked message⟩,
          m.remark .error ("run loop iteration panicked: " ++ message))

/-- Run until there is a reason to end, then close the board. A closed machine does not run. -/
def run (visits : List Visit) (m : Machine σ κ) : RunReport × Machine σ κ :=
  let m := m.setStop visits.isEmpty
  if m.closed then
    (⟨0, .alreadyClosed⟩, m.remark .warn "run called on a closed machine")
  else
    match loop visits 0 (m.remark .info "run loop starting") with
    | (report, m) =>
      (report, m.close.remark .info
        ("run loop stopped after " ++ toString report.iterations ++ " iteration(s): " ++
          report.exit.text))

end Machine

end Playfield
