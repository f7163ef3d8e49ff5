import Playfield.CommandQueue
import Playfield.Clock
import Playfield.DriverBank
import Playfield.Handler
import Playfield.Journal

/-!
# Callbacks and modes

A callback is a tree of effects: each node does one thing, and what comes next may depend on the
answer. What a callback can do is what the nodes offer, so running one cannot touch anything else.

Callbacks carry a memory of type `σ` from run to run, and name the kinds of modes that may be put
on the stack by values of type `κ`. A mode is a bundle of switch handlers with a priority, a
memory, and hooks that run when it joins the stack, on every pass, and when it leaves.
-/
namespace Playfield

/-- A change of the engine that a callback asks for. It is made after the walk under way. -/
inductive Request (κ : Type) where
  /-- Put a new mode of a kind on the stack, under the given identity. -/
  | addMode (id : ModeId) (kind : κ)
  | removeMode (id : ModeId)
  | game (request : GameRequest)
  /-- Turn flippers and bumpers on or off. -/
  | flippers (enable : Bool)
  deriving DecidableEq, Repr

/-- What a callback sees when it looks around. -/
structure View where
  now : Span
  /-- The mode the callback belongs to. -/
  running : Option ModeId
  switches : SwitchStore
  drivers : DriverBank
  game : GameStatus
  flippers : Bool
  /-- Something has been asked for and not been done yet. -/
  pending : Bool
  ids : IdBook

/-- Things on the bench a callback can do that have no answer. -/
inductive BenchAct where
  | note (text : String)
  | advance (step : Span)
  | post (event : Event)
  | plan (after : Nat) (mishap : Mishap)
  | planClose (fault : Fault)
  /-- Ask the run loop to end. -/
  | raiseStop
  deriving DecidableEq, Repr

/-- A callback as a tree of effects. -/
inductive Callback (σ κ : Type) where
  /-- End with a verdict, an error, or a panic. What is noted of a panic is the message of its
  `Payload`, which can be dropped without another panic. -/
  | done (ending : Outcome HandlerError Verdict)
  /-- Change the memory. -/
  | remember (memory : σ) (next : Callback σ κ)
  /-- Look around. -/
  | look (next : View → Callback σ κ)
  /-- Give a driver an order. The board may panic under it. -/
  | order (order : Order) (next : Outcome DriverError Unit → Callback σ κ)
  /-- Ask for a change of the engine. -/
  | ask (request : Request κ) (next : Callback σ κ)
  /-- Have a new mode identity issued. -/
  | issue (tag : Option String) (next : ModeId → Callback σ κ)
  /-- Post a command for the next pass. -/
  | enqueue (command : Command) (next : Except QueueFull Unit → Callback σ κ)
  /-- Do something on the bench. -/
  | act (act : BenchAct) (next : Callback σ κ)

/-- A callback that does nothing. -/
def Callback.idle {σ κ : Type} : Callback σ κ := .done (.ok .carryOn)

/-- A callback that panics. -/
def Callback.panic {σ κ : Type} (payload : Payload) : Callback σ κ :=
  .done (.panic payload.message)

/-- A mode. -/
structure Mode (σ κ : Type) where
  id : ModeId
  name : String
  /-- Higher priorities see transitions first. -/
  priority : Int
  memory : σ
  table : BindingTable := {}
  /-- The handlers by number. -/
  handlers : List (σ → Switch → Callback σ κ) := []
  /-- There is a handler for each binding. -/
  handled : handlers.length = table.size := by rfl
  hook : ModeHook → σ → Callback σ κ := fun _ _ => .idle

namespace Mode
variable {σ κ : Type}

/-- Add a handler for a switch reaching a condition. A hold of no time is no hold. -/
def on (m : Mode σ κ) (switch : String) (condition : Condition) (hold : Option Span)
    (handler : σ → Switch → Callback σ κ) : Mode σ κ :=
  { m with
    table := m.table.insert switch condition hold
    handlers := m.handlers ++ [handler]
    handled := by simp [BindingTable.insert, m.handled] }

/-- The bindings of a switch, in order of registration. -/
def bindings (m : Mode σ κ) (switch : String) : List Binding := m.table.get switch

/-- All bindings in order of registration. -/
def allBindings (m : Mode σ κ) : List Binding := m.table.toList

end Mode

end Playfield
