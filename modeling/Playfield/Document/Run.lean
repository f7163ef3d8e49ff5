import Playfield.Json.Record
import Playfield.Machine.Run
import Playfield.Text.Timestamp
import Playfield.Text.Uuid

/-!
# Counters and run records as JSON

A run record says how many passes a run made, when it began and ended, and why it ended.
-/
namespace Playfield

namespace Stats

def decode? (j : Json) : Option Stats := do
  let r ← j.record?
    ["iterations", "switch_events", "duplicate_events", "dispatches", "frames", "handler_faults",
      "deferred_commands"] false
  let iterations ← r.required? "iterations" Json.long?
  let switchEvents ← r.required? "switch_events" Json.long?
  let duplicateEvents ← r.required? "duplicate_events" Json.long?
  let dispatches ← r.required? "dispatches" Json.long?
  let frames ← r.required? "frames" Json.long?
  let handlerFaults ← r.required? "handler_faults" Json.long?
  let deferredCommands ← r.required? "deferred_commands" Json.long?
  some ⟨iterations, switchEvents, duplicateEvents, dispatches, frames, handlerFaults,
    deferredCommands⟩

def encode (s : Stats) : Json :=
  .obj [("iterations", .nat s.iterations), ("switch_events", .nat s.switchEvents),
    ("duplicate_events", .nat s.duplicateEvents), ("dispatches", .nat s.dispatches),
    ("frames", .nat s.frames), ("handler_faults", .nat s.handlerFaults),
    ("deferred_commands", .nat s.deferredCommands)]

end Stats

namespace Exit

def decode? (j : Json) : Option Exit :=
  match j.variant? with
  | some ("DeviceFault", body) => body.str?.map .deviceFault
  | some ("Panicked", body) => body.str?.map .panicked
  | _ => j.choice? [("Cancelled", .cancelled), ("AlreadyClosed", .alreadyClosed)]

def encode : Exit → Json
  | .cancelled => .str "Cancelled"
  | .deviceFault m => .obj [("DeviceFault", .str m)]
  | .panicked m => .obj [("Panicked", .str m)]
  | .alreadyClosed => .str "AlreadyClosed"

end Exit

/-- A run as it is put on record. -/
structure RunRecord where
  iterations : Nat
  startedAt : Text.Timestamp
  endedAt : Text.Timestamp
  exit : Exit
  deriving DecidableEq, Repr, Inhabited

namespace RunRecord

/-- How long the run took, in whole milliseconds. -/
def elapsedMillis (r : RunRecord) : Int := r.endedAt.millisSince r.startedAt

def decode? (j : Json) : Option RunRecord := do
  let r ← j.record? ["iterations", "started_at", "ended_at", "exit"] false
  let instant? (v : Json) : Option Text.Timestamp := v.str?.bind Text.Timestamp.parse?
  let iterations ← r.required? "iterations" Json.long?
  let startedAt ← r.required? "started_at" instant?
  let endedAt ← r.required? "ended_at" instant?
  let exit ← r.required? "exit" Exit.decode?
  some { iterations, startedAt, endedAt, exit }

def encode (r : RunRecord) : Json :=
  .obj [("iterations", .nat r.iterations), ("started_at", .str r.startedAt.text),
    ("ended_at", .str r.endedAt.text), ("exit", r.exit.encode)]

end RunRecord

namespace Text.Uuid

def decode? (j : Json) : Option Uuid := j.str?.bind parse?

def encode (u : Uuid) : Json := .str u.text

end Text.Uuid

end Playfield
