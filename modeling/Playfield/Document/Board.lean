import Playfield.Board.Event
import Playfield.Board.Fault
import Playfield.Board.Rule
import Playfield.CommandQueue
import Playfield.Json.Record

/-!
# Events, faults, rules and commands as JSON
-/
namespace Playfield

namespace EventKind

def decode? : Json → Option EventKind := Json.choice? names

def encode (k : EventKind) : Json := .str k.text

end EventKind

namespace Event

def decode? (j : Json) : Option Event := do
  let r ← j.record? ["kind", "value"] false
  let kind ← r.required? "kind" EventKind.decode?
  let value ← r.required? "value" Json.half?
  some { kind, value }

def encode (e : Event) : Json := .obj [("kind", e.kind.encode), ("value", .nat e.value)]

end Event

namespace Fault

def decode? (j : Json) : Option Fault :=
  match j.variant? with
  | some ("Unresponsive", operation) => operation.str?.map .unresponsive
  | some ("Rejected", .array [operation, reason]) => do
    some (.rejected (← operation.str?) (← reason.str?))
  | _ => j.choice? [("Closed", .closed)]

end Fault

namespace Trigger

def decode? : Json → Option Trigger := Json.choice? names

def encode (t : Trigger) : Json := .str t.text

end Trigger

namespace RuleOptions

def decode? (j : Json) : Option RuleOptions := do
  let r ← j.record? ["notify_host", "reload_active"] false
  let notifyHost ← r.required? "notify_host" Json.bool?
  let reloadActive ← r.required? "reload_active" Json.bool?
  some { notifyHost, reloadActive }

def encode (o : RuleOptions) : Json :=
  .obj [("notify_host", .bool o.notifyHost), ("reload_active", .bool o.reloadActive)]

end RuleOptions

namespace DriverAction

def decode? (j : Json) : Option DriverAction :=
  match j.variant? with
  | some ("Pulse", body) => do
    let r ← body.record? ["ms"] false
    some (.pulse (← r.required? "ms" Json.byte?))
  | some ("Patter", body) => do
    let r ← body.record? ["on_ms", "off_ms", "original_on_ms"] false
    let onMs ← r.required? "on_ms" Json.byte?
    let offMs ← r.required? "off_ms" Json.byte?
    let firstMs ← r.required? "original_on_ms" Json.byte?
    some (.patter onMs offMs firstMs)
  | _ => j.choice? [("Disable", .disable)]

def encode : DriverAction → Json
  | .pulse ms => .obj [("Pulse", .obj [("ms", .nat ms)])]
  | .disable => .str "Disable"
  | .patter onMs offMs firstMs =>
    .obj [("Patter",
      .obj [("on_ms", .nat onMs), ("off_ms", .nat offMs), ("original_on_ms", .nat firstMs)])]

end DriverAction

namespace Directive

def decode? (j : Json) : Option Directive := do
  let r ← j.record? ["driver", "action"] false
  let driver ← r.required? "driver" Json.half?
  let action ← r.required? "action" DriverAction.decode?
  some { driver, action }

def encode (d : Directive) : Json :=
  .obj [("driver", .nat d.driver), ("action", d.action.encode)]

end Directive

namespace Command

def decode? (j : Json) : Option Command :=
  match j.variant? with
  | some ("Pulse", body) => do
    let r ← body.record? ["driver", "ms"] false
    let driver ← r.required? "driver" Json.str?
    let ms ← r.required? "ms" Json.byte?
    some (.pulse driver ms)
  | some ("Disable", body) => do
    let r ← body.record? ["driver"] false
    some (.disable (← r.required? "driver" Json.str?))
  | _ => none

def encode : Command → Json
  | .pulse driver ms => .obj [("Pulse", .obj [("driver", .str driver), ("ms", .nat ms)])]
  | .disable driver => .obj [("Disable", .obj [("driver", .str driver)])]

end Command

end Playfield
