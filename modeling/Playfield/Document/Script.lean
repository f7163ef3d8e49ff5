import Playfield.Document.Board
import Playfield.Document.Game
import Playfield.Machine.Run
import Playfield.Script

/-!
# Bench scripts as JSON

A script is an array of actions, and an action is an array of its name and its arguments. Modes
and the lifecycle are objects that hold scripts. A field that is left out or null has its default.
-/
namespace Playfield

open Json (Record)

/-- A field that is left out or null has a default. -/
def Json.Record.orElse? {α : Type} (r : Record) (name : String) (decode : Json → Option α)
    (default : α) : Option α :=
  (r.optional? name decode).map fun v => v.getD default

/-- A length of time in a script: whole microseconds, or seconds and nanoseconds. -/
def Span.ofScript? (j : Json) : Option Span :=
  match j with
  | .number n => if 0 ≤ n then some (ofMicros n.toNat) else none
  | _ => Span.decode? j

/-- What can be planned to go wrong, from an object with a fault, a panic or a fault on closing. -/
def BenchAct.plans? (j : Json) : Option (List BenchAct) := do
  let r ← j.record? ["fault", "panic", "close_fault", "after"] false
  let after ← r.orElse? "after" Json.long? 0
  let fault ← r.optional? "fault" Fault.decode?
  let panic ← r.optional? "panic" Json.str?
  let closing ← r.optional? "close_fault" Fault.decode?
  some ((fault.map fun f => .plan after (.fault f)).toList ++
    (panic.map fun m => .plan after (.panic m)).toList ++ (closing.map .planClose).toList)

/-- The order with a name and arguments. -/
def Order.ofArgs? (name : String) (args : List Json) : Option Order := do
  match name, args with
  | "pulse", [n, ms] => some (.pulse (← n.str?) (← ms.byte?))
  | "pulse_default", [n] => some (.pulseDefault (← n.str?))
  | "disable", [n] => some (.disable (← n.str?))
  | "patter", [n, onMs, offMs, firstMs] =>
    some (.patter (← n.str?) (← onMs.byte?) (← offMs.byte?) (← firstMs.byte?))
  | "schedule", [n, mask, cycles] =>
    some (.schedule (← n.str?) (← mask.word?) (← Record.nullable? Json.word? cycles))
  | _, _ => none

def Question.decode? (j : Json) : Option Question := do
  match j with
  | .array [.text (some "active"), s] => some (.active (← s.str?))
  | .array [.text (some "count"), n] => some (.count (← n.long?))
  | .array [.text (some "game")] => some .playing
  | .array [.text (some "flippers")] => some .flippers
  | .array [.text (some "tagged"), t] => some (.tagged (← t.str?))
  | _ => none

namespace Action

/-- The actions with a name and one argument. -/
def ofArg? (name : String) (arg : Json) : Option (List Action) := do
  match name with
  | "say" => some [.say (← arg.str?)]
  | "switch" => some [.switch (← arg.str?)]
  | "tagged" => some [.tagged (← arg.str?)]
  | "driver" => some [.driver (← arg.str?)]
  | "try" =>
    match arg with
    | .array (.text (some verb) :: args) => some [.attempt (← Order.ofArgs? verb args)]
    | _ => none
  | "add_mode" => some [.addMode (← arg.str?)]
  | "remove_mode" => some [.removeMode (← arg.str?)]
  | "game" => some [.request (← GameRequest.decode? arg)]
  | "flippers" => some [.setFlippers (← arg.bool?)]
  | "enqueue" => some [.enqueue (← Command.decode? arg)]
  | "event" => some [.bench (.post (← Event.decode? arg))]
  | "advance" => some [.bench (.advance (← Span.ofScript? arg))]
  | "arm" => some ((← BenchAct.plans? arg).map .bench)
  | "return" => some [.finish (.ofBool (← arg.bool?))]
  | "fail" => some [.fail (.failed (← arg.str?))]
  | "fail_unknown" => some [.fail (.unknownDriver (← arg.str?))]
  | "fail_device" => some [.fail (.board (← Fault.decode? arg))]
  | "panic" => some [.panic (.text (← arg.str?))]
  | _ => none

/-- The actions with a name and arguments. -/
def ofArgs? (name : String) (args : List Json) : Option (List Action) :=
  match Order.ofArgs? name args with
  | some o => some [.order o]
  | none =>
    match name, args with
    | "now", [] => some [.now]
    | "self", [] => some [.self]
    | "game?", [] => some [.game]
    | "flippers?", [] => some [.flippers]
    | "pending?", [] => some [.pending]
    | "count", [] => some [.count]
    | "remove_self", [] => some [.removeSelf]
    | "stop", [] => some [.bench .raiseStop]
    | "panic_str", [] => some [.panic (.text "static panic")]
    | "panic_other", [] => some [.panic .other]
    | name, [arg] => ofArg? name arg
    | _, _ => none

end Action

namespace Script

mutual

/-- The actions an item of a script stands for. -/
def decodeItem? : Json → Option Script
  | .array (.text (some "if") :: question :: yes :: rest) =>
    match Question.decode? question, decode? yes, decodeElse? rest with
    | some question, some yes, some no => some [.branch question yes no]
    | _, _, _ => none
  | .array (.text (some name) :: args) => Action.ofArgs? name args
  | _ => none

/-- The actions the items of a script stand for, in order. -/
def decodeItems? : List Json → Option Script
  | [] => some []
  | j :: rest =>
    match decodeItem? j, decodeItems? rest with
    | some first, some rest => some (first ++ rest)
    | _, _ => none

/-- The script in an optional last argument. -/
def decodeElse? : List Json → Option Script
  | [] => some []
  | [j] => decode? j
  | _ => none

/-- The script a value stands for; null stands for nothing to do. -/
def decode? : Json → Option Script
  | .array items => decodeItems? items
  | .null => some []
  | _ => none

end

end Script

def HandlerSpec.decode? (j : Json) : Option HandlerSpec := do
  let r ← j.record? ["switch", "cond", "hold", "do", "cont"] false
  let switch ← r.required? "switch" Json.str?
  let condition ← r.required? "cond" Condition.decode?
  let hold ← r.optional? "hold" Span.ofScript?
  let script ← r.orElse? "do" Script.decode? []
  let goOn ← r.orElse? "cont" Json.bool? true
  some { switch, condition, hold, script, verdict := .ofBool goOn }

def ModeSpec.decode? (j : Json) : Option ModeSpec := do
  let r ← j.record?
    ["name", "priority", "handlers", "started", "tick", "stopped", "plain", "same_id_as"] false
  let name ← r.optional? "name" Json.str?
  let priority ← r.orElse? "priority" Json.int? 0
  let handlers ← r.orElse? "handlers" (Json.list? HandlerSpec.decode?) []
  let started ← r.optional? "started" Script.decode?
  let tick ← r.optional? "tick" Script.decode?
  let stopped ← r.optional? "stopped" Script.decode?
  let plain ← r.orElse? "plain" Json.bool? false
  let twinOf ← r.optional? "same_id_as" Json.str?
  some { name, priority, handlers, started, tick, stopped, plain, twinOf }

/-- The members of an object, read one by one; null has none. -/
def Json.entries? {α β : Type} (key? : String → Option α) (decode : Json → Option β) :
    Json → Option (List (α × β))
  | .object members => members.mapM fun (name, j) => do
    some (← key? (← name), ← decode j)
  | .null => some []
  | _ => none

def Catalogue.decode? : Json → Option Catalogue := Json.entries? some ModeSpec.decode?

/-- The lifecycle callbacks by name. -/
def GameHook.names : List (String × GameHook) :=
  [GameHook.gameStarted, .ballStarting, .ballEnded, .shootAgain, .gameEnded, .updateLamps].map
    fun h => (h.text, h)

def LifecycleSpec.decode? : Json → Option LifecycleSpec :=
  Json.entries? (fun name => GameHook.names.lookup name) Script.decode?

/-- What happens just before a poll: the clock moves, events and commands come in, mishaps are
planned, and the stop flag may be raised. -/
def Visit.decode? (j : Json) : Option Visit := do
  let plans ← BenchAct.plans? j
  let r ← j.record? ["advance", "events", "enqueue", "stop"] false
  let advance ← r.optional? "advance" Span.ofScript?
  let events ← r.orElse? "events" (Json.list? Event.decode?) []
  let commands ← r.orElse? "enqueue" (Json.list? Command.decode?) []
  let stop ← r.orElse? "stop" Json.bool? false
  some ((advance.map fun d => Happening.bench (.advance d)).toList ++
    events.map (fun e => .bench (.post e)) ++ commands.map .command ++ plans.map .bench ++
    if stop then [.bench .raiseStop] else [])

end Playfield
