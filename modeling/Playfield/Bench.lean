import Playfield.Journal

/-!
# The bench

A simulated board on its test bench: the board, the mishaps that are planned for its calls, and
the journal. A mishap is planned for the call after so many others; it makes that call fail with a
fault, or panic before it reaches the board. Closing is not counted and has a mishap of its own.
-/
namespace Playfield

/-- What can go wrong with a call. -/
inductive Mishap where
  | fault (fault : Fault)
  | panic (message : String)
  deriving DecidableEq, Repr, Inhabited

/-- A board, what will go wrong with it, and what happened so far. -/
structure Bench where
  board : Board := {}
  /-- Mishaps to come, each with the number of calls that still go well before it. -/
  mishaps : List (Nat × Mishap) := []
  /-- The fault the next closing reports. -/
  closeFault : Option Fault := none
  journal : Array Entry := #[]
  deriving Repr, Inhabited

namespace Bench

/-- Put an entry into the journal. -/
def enter (e : Entry) (b : Bench) : Bench := { b with journal := b.journal.push e }

/-- Put a remark into the journal. -/
def remark (severity : Severity) (text : String) (b : Bench) : Bench :=
  b.enter (.remark severity text)

/-- Put a remark into the journal, as a computation. -/
def log {ε : Type} (severity : Severity) (text : String) : Act ε Bench Unit :=
  .modify (remark severity text)

/-- Plan a mishap in place of all planned so far. -/
def plan (b : Bench) (after : Nat) (m : Mishap) : Bench := { b with mishaps := [(after, m)] }

/-- The mishap due at the next call, and the plan after that call. -/
def due : List (Nat × Mishap) → Option Mishap × List (Nat × Mishap)
  | [] => (none, [])
  | (0, m) :: rest => (some m, rest)
  | (n + 1, m) :: rest => (none, (n, m) :: rest)

/-- Make a call to the board and note it with its reply. -/
def call {α : Type} (c : BoardCall) (reply : α → Reply) (onBoard : Act Fault Board α) :
    Act Fault Bench α := fun b =>
  match due b.mishaps with
  | (some (.panic message), rest) =>
    (.panic message, enter (.call c .panicked) { b with mishaps := rest })
  | (some (.fault f), rest) => run { b with board := b.board.inject f, mishaps := rest }
  | (none, rest) => run { b with mishaps := rest }
where
  /-- The call itself. -/
  run (b : Bench) : Outcome Fault α × Bench :=
    match onBoard b.board with
    | (.ok a, board) => (.ok a, enter (.call c (reply a)) { b with board })
    | (.error f, board) => (.error f, enter (.call c (.fault f)) { b with board })
    | (.panic message, board) => (.panic message, enter (.call c .panicked) { b with board })

/-- Ask the board for its events. -/
def poll (frames : Bool) : Act Fault Bench (List Event) :=
  call (.poll frames) (fun events => .events events.length) (Board.poll frames)

/-- Write a rule to the board. -/
def install (r : Rule) (driveNow : Bool) : Act Fault Bench Unit :=
  call (.install r driveNow) (fun _ => .done) (Board.install r driveNow)

/-- Drive an output. -/
def drive (c : DriverCall) : Act Fault Bench Unit :=
  call (.drive c) (fun _ => .done) (Board.drive c)

/-- Keep the board from falling back to its safe state. -/
def tickle : Act Fault Bench Unit := call .tickle (fun _ => .done) Board.tickle

/-- Close the board. It is closed even if closing reports a fault. -/
def close : Act Fault Bench Unit := fun b =>
  match b.closeFault with
  | some f =>
    (.error f,
      enter (.call .close (.fault f)) { b with board := b.board.close, closeFault := none })
  | none => (.ok (), enter (.call .close .done) { b with board := b.board.close })

end Bench

end Playfield
