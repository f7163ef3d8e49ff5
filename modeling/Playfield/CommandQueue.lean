/-!
# The deferred command queue

Commands for outputs that anyone may post at any time. The machine takes the whole queue once per
pass. The queue is bounded: at capacity a new command is refused and nothing changes.
-/
namespace Playfield

/-- An output command to be carried out on the machine's next pass. -/
inductive Command where
  /-- Pulse the named driver for so many milliseconds. -/
  | pulse (driver : String) (ms : Nat)
  /-- Turn the named driver off. -/
  | disable (driver : String)
  deriving DecidableEq, Repr, Inhabited

/-- The queue was at capacity, so a command was refused. -/
structure QueueFull where
  capacity : Nat
  deriving DecidableEq, Repr, Inhabited

/-- The text shown for a refusal. -/
def QueueFull.message (e : QueueFull) : String :=
  "deferred command queue is full (" ++ toString e.capacity ++ " commands)"

/-- A bounded first-in first-out queue of commands. -/
structure CommandQueue where
  /-- Waiting commands, oldest first. -/
  commands : List Command := []
  /-- How many commands may wait. -/
  capacity : Nat := 256
  deriving DecidableEq, Repr, Inhabited

namespace CommandQueue

/-- How many commands are waiting. -/
def size (q : CommandQueue) : Nat := q.commands.length

/-- Add a command at the end, unless the queue is full. -/
def enqueue (q : CommandQueue) (c : Command) : Except QueueFull CommandQueue :=
  if q.capacity ≤ q.size then .error ⟨q.capacity⟩ else .ok { q with commands := q.commands ++ [c] }

/-- Take everything that waits, oldest first. -/
def drain (q : CommandQueue) : List Command × CommandQueue :=
  (q.commands, { q with commands := [] })

end CommandQueue

end Playfield
