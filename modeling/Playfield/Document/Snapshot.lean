import Playfield.Document.Failure
import Playfield.Document.Game
import Playfield.Document.Run
import Playfield.Script

/-!
# Snapshots

How the state of a machine and of its parts is shown as JSON. Times are pairs of seconds and
nanoseconds; modes are shown by the labels of their identities.
-/
namespace Playfield

/-- A time as seconds and nanoseconds. -/
def Span.snapshot (s : Span) : Json := .array [.nat s.secs, .nat s.subsec]

namespace Switch

/-- A switch and its level. -/
def snapshot (s : Switch) : Json :=
  .array [.str s.name, .bool s.closed, .bool s.isActive, s.lastChanged.snapshot]

/-- All there is to a switch at a time. -/
def record (now : Span) (s : Switch) : Json :=
  .obj [("number", .nat s.number), ("name", .str s.name), ("wiring", s.wiring.encode),
    ("tags", .strs s.tags), ("closed", .bool s.closed), ("open", .bool (!s.closed)),
    ("active", .bool s.isActive), ("inactive", .bool (!s.isActive)),
    ("changed", s.lastChanged.snapshot), ("since", (s.heldFor now).snapshot),
    ("holds", .array ([Condition.active, .inactive, .opened, .closed].map fun c =>
      .bool (c.holds s)))]

end Switch

namespace SwitchStore

/-- The switches in order of registration. -/
def snapshot (store : SwitchStore) : Json := .array (store.toList.map Switch.snapshot)

/-- The switches as they were configured. -/
def listing (store : SwitchStore) : Json :=
  .array (store.toList.map fun s =>
    .array [.nat s.number, .str s.name, s.wiring.encode, .strs s.tags, .bool s.isActive])

end SwitchStore

namespace DriverBank

/-- The drivers in order of registration. -/
def snapshot (bank : DriverBank) : Json :=
  .array (bank.toList.map fun d =>
    .array [.str d.name, .str d.status.text, .bool d.isEnabled, d.lastChanged.snapshot])

/-- The drivers as they were configured. -/
def listing (bank : DriverBank) : Json :=
  .array (bank.toList.map fun d =>
    .array [.nat d.number, .str d.name, .nat d.pulseMs, .bool d.isVirtual])

end DriverBank

/-- A rule with its directives as texts. -/
def Rule.snapshot (r : Rule) : Json :=
  .array [.nat r.switch, .str r.trigger.text, .bool r.options.notifyHost,
    .bool r.options.reloadActive, .strs (r.directives.map Directive.text)]

/-- Rules in order. -/
def Rule.snapshots (rules : List Rule) : Json := .array (rules.map Rule.snapshot)

namespace Board

/-- The rules on the board and the counts of what was done to it. -/
def snapshot (b : Board) : Json :=
  .obj [
    ("rules", Rule.snapshots (b.rules.sorted.map fun (key, r) =>
      ⟨key.1, key.2, r.options, r.directives⟩)),
    ("writes", .nat b.ruleWrites), ("tickles", .nat b.tickles), ("closes", .nat b.closeCount),
    ("closed", .bool b.closed), ("calls", .nat b.calls.size)]

/-- The outputs driven so far. -/
def callTexts (b : Board) : Json := .strs (b.calls.toList.map DriverCall.text)

end Board

/-- The handlers that wait, in order of registration. -/
def HoldQueue.snapshot (ids : IdBook) (q : HoldQueue) : Json :=
  .array (q.pending.map fun o =>
    .array [.str (ids.label o.mode), .nat o.binding, .str o.switch, .str o.condition.text,
      o.hold.snapshot, o.createdAt.snapshot])

/-- A deadline, or the panic of a deadline past the last time there is. -/
def Obligation.deadlineSnapshot (o : Obligation) : Json :=
  match o.deadline? with
  | some t => t.snapshot
  | none => Failure.encodePanic Span.overflowMessage

/-- A binding of a mode. -/
def Binding.snapshot (b : Binding) : Json :=
  .array [.nat b.number, .str b.switch, .str b.condition.text, .ofOption Span.snapshot b.hold]

/-- A mode with all its bindings, and those of some switches. -/
def Mode.snapshot {σ κ : Type} (switches : List String) (m : Mode σ κ) : Json :=
  .obj [("name", .str m.name), ("priority", .number m.priority),
    ("all", .array (m.allBindings.map Binding.snapshot)),
    ("lookup", .array (switches.map fun s => .array ((m.bindings s).map Binding.snapshot)))]

/-- A failed callback. -/
def HandlerFault.snapshot (f : HandlerFault) : Json :=
  .obj [("mode", .str f.mode), ("switch", .ofOption Json.str f.switch),
    ("reason", f.reason.encode), ("text", .str f.message),
    ("device", .ofOption (fun f => .str f.message) f.reason.boardFault?)]

/-- What a walk or a tick did, and whether it met a board fault. -/
def Report.snapshot (ids : IdBook) (r : Report) : Json :=
  .obj [("invoked", .nat r.invoked), ("scheduled", .nat r.scheduled), ("fired", .nat r.fired),
    ("stopped_by", .ofOption (fun id => .str (ids.label id)) r.stoppedBy),
    ("faults", .array (r.faults.map HandlerFault.snapshot)),
    ("result", r.check.encode fun _ => .str "ok")]

namespace ModeStack

/-- The live modes in dispatch order with their counters. -/
def snapshot (ids : IdBook) (s : ModeStack Counter ModeKey) : Json :=
  .array (s.slots.map fun slot =>
    .array [.str (ids.label slot.mode.id), .str slot.mode.name, .number slot.mode.priority,
      .nat slot.seq, .ofOption Json.nat slot.mode.memory])

/-- The counters of the live modes in dispatch order. -/
def counts (s : ModeStack Counter ModeKey) : Json :=
  .array (s.slots.map fun slot => .ofOption Json.nat slot.mode.memory)

end ModeStack

/-- The state of a machine, part by part. -/
def Machine.snapshot (m : Machine Counter ModeKey) : List (String × Json) :=
  let c := m.cabinet
  let stack := m.engine.stack
  [("now", m.now.snapshot), ("modes", stack.snapshot c.ids),
    ("switches", c.switches.snapshot), ("drivers", c.drivers.snapshot),
    ("game", m.engine.game.status.encode), ("flippers", .bool m.engine.rules.enabled),
    ("timers", stack.holds.snapshot c.ids), ("overruns", .nat stack.holds.overruns),
    ("faults", .nat stack.faultCount), ("stats", m.engine.stats.encode),
    ("queue", .nat c.queue.size), ("closed", .bool m.closed), ("device", c.bench.board.snapshot)]

end Playfield
