import Playfield.Driver
import Playfield.Switch

/-!
# Handlers and their failures

A mode binds handlers to switches and conditions. A handler that has a hold fires only once the
condition has lasted that long. A handler says whether modes below may still see the transition, or
fails for a stated reason; a failed callback is recorded and otherwise passed over.
-/
namespace Playfield

/-- What a handler says about a transition. -/
inductive Verdict where
  /-- Modes below may see it too. -/
  | carryOn
  /-- It has been dealt with. -/
  | stop
  deriving DecidableEq, Repr, Inhabited

/-- The verdict for a yes or no to carrying on. -/
def Verdict.ofBool (b : Bool) : Verdict := if b then .carryOn else .stop

/-- The name of a verdict. -/
def Verdict.text : Verdict → String
  | .carryOn => "Continue"
  | .stop => "Stop"

/-- Why a callback failed. -/
inductive HandlerError where
  /-- The board failed; this ends the run. -/
  | board (fault : Fault)
  | unknownDriver (name : String)
  | failed (reason : String)
  deriving DecidableEq, Repr, Inhabited

namespace HandlerError

/-- The text shown for a failure. -/
def message : HandlerError → String
  | .board f => f.message
  | .unknownDriver name => "no driver named '" ++ name ++ "'"
  | .failed reason => reason

/-- The failure of a callback whose order to a driver failed. -/
def ofDriver : DriverError → HandlerError
  | .unknown name => .unknownDriver name
  | .board f => .board f
  | .notVirtual name => .failed (DriverError.notVirtual name).message

/-- The board's fault in the ending of a callback. -/
def faultIn? {α : Type} : Outcome HandlerError α → Option Fault
  | .error (.board f) => some f
  | _ => none

end HandlerError

/-- What a callback can panic with: a text, or a value of another kind. A guard that has caught it
notes its message and then drops it, and nothing guards against what that does. So a value that
panics in its turn when it is dropped is none of these: it would get through. -/
inductive Payload where
  | text (text : String)
  | other
  deriving DecidableEq, Repr, Inhabited

/-- What is noted of a payload: its text, or a stock text. -/
def Payload.message : Payload → String
  | .text t => t
  | .other => "unknown panic payload"

/-- Why a callback was abandoned. -/
inductive FaultReason where
  | error (error : HandlerError)
  /-- It panicked; this is the message of the payload. -/
  | panicked (message : String)
  deriving DecidableEq, Repr, Inhabited

namespace FaultReason

/-- The text shown for a reason. -/
def message : FaultReason → String
  | .error e => e.message
  | .panicked m => "panicked: " ++ m

/-- The board's fault behind a reason. -/
def boardFault? : FaultReason → Option Fault
  | .error (.board f) => some f
  | _ => none

/-- The reason in the ending of a callback, if it has one. -/
def ofOutcome {α : Type} : Outcome HandlerError α → Except FaultReason α
  | .ok a => .ok a
  | .error e => .error (.error e)
  | .panic m => .error (.panicked m)

end FaultReason

/-- A callback of a mode failed. -/
structure HandlerFault where
  mode : String
  /-- The switch being handled; none in a callback that handles no switch. -/
  switch : Option String
  reason : FaultReason
  deriving DecidableEq, Repr, Inhabited

/-- The text shown for a failed callback. -/
def HandlerFault.message (f : HandlerFault) : String :=
  "mode '" ++ f.mode ++ "' faulted " ++
    (match f.switch with
      | some name => "handling switch '" ++ name ++ "'"
      | none => "in a lifecycle hook") ++
    ": " ++ f.reason.message

/-- A handler's place: which switch and condition it waits for, and how long. -/
structure Binding where
  /-- The handler's number in its mode. -/
  number : Nat
  switch : String
  condition : Condition
  /-- How long the condition has to last; never zero. -/
  hold : Option Span
  deriving DecidableEq, Repr, Inhabited

/-- Bindings by switch. -/
abbrev BindingRows := List (String × List Binding)

namespace BindingRows

/-- Add a binding at the end of the row of its switch, or in a new row. -/
def insert (b : Binding) : BindingRows → BindingRows
  | [] => [(b.switch, [b])]
  | (switch, bs) :: rest =>
    if switch = b.switch then (switch, bs ++ [b]) :: rest else (switch, bs) :: insert b rest

/-- The rows came about by adding so many bindings, numbered from 0 on, none with a hold of no
time. -/
inductive Grown : BindingRows → Nat → Prop where
  | empty : Grown [] 0
  | insert {rows : BindingRows} {b : Binding} (grown : Grown rows b.number)
      (hold_ne_zero : b.hold ≠ some .zero) : Grown (insert b rows) (b.number + 1)

end BindingRows

/-- The bindings of a mode by switch. The bindings of one switch stand in order of registration. -/
structure BindingTable where
  rows : BindingRows := []
  /-- How many bindings there are. -/
  size : Nat := 0
  grown : BindingRows.Grown rows size := by exact .empty

namespace BindingTable

/-- The bindings of a switch, in order of registration. -/
def get (t : BindingTable) (switch : String) : List Binding := (t.rows.lookup switch).getD []

/-- Add a binding with the next number. A hold of no time is no hold. -/
def insert (t : BindingTable) (switch : String) (condition : Condition) (hold : Option Span) :
    BindingTable where
  rows := t.rows.insert ⟨t.size, switch, condition, hold.filter fun h => h ≠ .zero⟩
  size := t.size + 1
  grown := .insert t.grown (by cases hold <;> simp [Option.filter])

/-- All bindings in order of registration. -/
def toList (t : BindingTable) : List Binding :=
  (t.rows.flatMap Prod.snd).mergeSort fun a b => a.number ≤ b.number

end BindingTable

end Playfield
