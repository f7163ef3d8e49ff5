import Playfield.Handler
import Playfield.ModeId

/-!
# Held handlers that wait

An obligation is a held handler that waits for its condition to last long enough. It is dropped
when its switch leaves the condition or its mode leaves the stack, and comes due at its deadline.
Obligations due at the same look come in order of their deadlines, equal deadlines in order of
registration.
-/
namespace Playfield

/-- A held handler that is waiting. -/
structure Obligation where
  mode : ModeId
  binding : Nat
  switch : String
  condition : Condition
  hold : Span
  createdAt : Span
  deriving DecidableEq, Repr, Inhabited

namespace Obligation

/-- When the handler comes due, if there is such a time. -/
def deadline? (o : Obligation) : Option Span := o.createdAt.add? o.hold

/-- The deadline as a number, also past the last time there is. -/
def deadlineNanos (o : Obligation) : Nat := o.createdAt.nanos + o.hold.nanos

/-- The switch is there and the condition holds. -/
def stands (o : Obligation) (store : SwitchStore) : Bool :=
  (store.find? o.switch).any o.condition.holds

/-- How much later than its deadline it is. -/
def lateness (o : Obligation) (now : Span) : Span := ⟨now.nanos - o.deadlineNanos⟩

end Obligation

/-- The handlers that wait, and how many came due too late. -/
structure HoldQueue where
  /-- In order of registration. -/
  pending : List Obligation := []
  /-- A handler that is later than this is an overrun. -/
  tolerance : Span
  /-- An overrun has been remarked on. -/
  reported : Bool := false
  overruns : Nat := 0
  deriving DecidableEq, Repr, Inhabited

namespace HoldQueue

/-- Start to wait, unless the same handler waits already. -/
def register (q : HoldQueue) (o : Obligation) : HoldQueue :=
  if q.pending.any fun p => p.mode = o.mode && p.binding = o.binding then q
  else { q with pending := q.pending ++ [o] }

/-- The queue without the handlers of a switch whose condition no longer holds. -/
def dropUnsatisfied (q : HoldQueue) (s : Switch) : HoldQueue :=
  { q with pending := q.pending.filter fun p => p.switch ≠ s.name || p.condition.holds s }

/-- Drop the handlers of a switch whose condition no longer holds; answers how many. -/
def cancelUnsatisfied (s : Switch) {ε : Type} : Act ε (HoldQueue × Bench) Nat := fun (q, b) =>
  let r := q.dropUnsatisfied s
  let count := q.pending.length - r.pending.length
  (.ok count, r,
    if count = 0 then b
    else b.remark .debug
      ("cancelled " ++ toString count ++ " held handler(s) on '" ++ s.name ++ "'"))

/-- The queue without the handlers of a mode. -/
def cancelMode (q : HoldQueue) (mode : ModeId) : HoldQueue :=
  { q with pending := q.pending.filter fun p => p.mode ≠ mode }

/-- What is due by now: the condition holds and the deadline has come. -/
def isDue (now : Span) (store : SwitchStore) (o : Obligation) : Bool :=
  o.stands store && decide (o.deadlineNanos ≤ now.nanos)

/-- What goes on waiting: the condition holds and the deadline is to come. -/
def isWaiting (now : Span) (store : SwitchStore) (o : Obligation) : Bool :=
  o.stands store && decide (now.nanos < o.deadlineNanos)

/-- Count an obligation that comes due, and remark on it if it is an overrun. The first overrun of
all is a warning. -/
def noteLateness (now : Span) (o : Obligation) : HoldQueue × Bench → HoldQueue × Bench
  | (q, b) =>
    let late := o.lateness now
    if late ≤ q.tolerance then (q, b)
    else
      let text := "held handler on '" ++ o.switch ++ "' fired " ++ toString late.millis ++ "ms late"
      ({ q with overruns := q.overruns + 1, reported := true },
        if q.reported then b.remark .debug text
        else b.remark .warn (text ++ "; the run loop is overrunning"))

/-- Take out what is due, earliest deadline first, and drop what no longer holds. If the deadline of
anything that holds is past the last time there is, this panics, and everything is dropped. -/
def takeDue (now : Span) (store : SwitchStore) {ε : Type} :
    Act ε (HoldQueue × Bench) (List Obligation) := fun (q, b) =>
  if q.pending.any fun o => o.stands store && o.deadline?.isNone then
    (.panic Span.overflowMessage, { q with pending := [] }, b)
  else
    let due := (q.pending.filter (isDue now store)).mergeSort fun o p =>
      o.deadlineNanos ≤ p.deadlineNanos
    let q := { q with pending := q.pending.filter (isWaiting now store) }
    (.ok due, due.foldl (fun s o => noteLateness now o s) (q, b))

end HoldQueue

end Playfield
