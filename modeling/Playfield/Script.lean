import Playfield.Document.Game
import Playfield.Machine
import Playfield.ModeBuilder

/-!
# Bench scripts

Callbacks written down as lists of actions, to exercise a machine on the bench. A script runs
action by action and writes what it does and sees into the journal. It ends early on `finish`, on
an action that fails, and on a panic. Modes are described by their handlers and hooks, each with a
script; the memory of a scripted mode is a counter, or nothing for modes that do not count.
-/
namespace Playfield

/-- The memory of scripted callbacks: a counter, if there is one. -/
abbrev Counter := Option Nat

/-- A mode can be asked for by the key of its description. -/
abbrev ModeKey := String

/-- A question a script can ask. -/
inductive Question where
  | active (switch : String)
  | count (n : Nat)
  | playing
  | flippers
  | tagged (tag : String)
  deriving DecidableEq, Repr

/-- One action of a script. -/
inductive Action where
  | say (text : String)
  | now
  | self
  | switch (name : String)
  | tagged (tag : String)
  | driver (name : String)
  | game
  | flippers
  | pending
  | count
  | order (order : Order)
  /-- Give an order, and note a failure instead of ending with it. -/
  | attempt (order : Order)
  | addMode (key : ModeKey)
  | removeMode (label : String)
  | removeSelf
  | request (request : GameRequest)
  | setFlippers (enable : Bool)
  | enqueue (command : Command)
  | bench (act : BenchAct)
  | branch (question : Question) (yes no : List Action)
  /-- End with a verdict. -/
  | finish (verdict : Verdict)
  | fail (error : HandlerError)
  | panic (payload : Payload)

/-- A list of actions. -/
abbrev Script := List Action

/-- A handler of a described mode. -/
structure HandlerSpec where
  switch : String
  condition : Condition
  hold : Option Span := none
  script : Script := []
  /-- The verdict when the script runs to its end. -/
  verdict : Verdict := .carryOn

/-- The description of a mode. -/
structure ModeSpec where
  name : Option String := none
  priority : Int := 0
  handlers : List HandlerSpec := []
  started : Option Script := none
  tick : Option Script := none
  stopped : Option Script := none
  /-- A mode without counter and hooks. -/
  plain : Bool := false
  /-- A mode without counter and hooks that has the identity shown as this label. -/
  twinOf : Option String := none

/-- Mode descriptions by key. -/
abbrev Catalogue := List (ModeKey × ModeSpec)

/-- A scripted callback. -/
abbrev Scripted := Callback Counter ModeKey

namespace Script

/-- A value or the word for its absence. -/
def orNone (s : Option String) : String := s.getD "none"

/-- What a script notes about a switch. -/
def switchNote (v : View) (name : String) : String :=
  let s := v.switches.find? name
  "switch " ++ name ++ " active=" ++ toString (v.switches.isActive name) ++
    " closed=" ++ orNone (s.map fun s => toString s.closed) ++
    " since=" ++ orNone (s.map fun s => (s.heldFor v.now).text)

/-- What a script notes about the switches of a tag. -/
def taggedNote (v : View) (tag : String) : String :=
  "tagged " ++ tag ++ " [" ++
    " ".intercalate ((v.switches.tagged tag).map fun s => s.name ++ "=" ++ toString s.isActive) ++
    "]"

/-- What a script notes about the game. -/
def gameNote (g : GameStatus) : String :=
  "game ball=" ++ toString g.ball ++ "/" ++ toString g.ballsPerGame ++
    " player=" ++ toString g.currentPlayer ++ "/" ++ toString g.players ++
    " on=" ++ toString g.inProgress ++
    " started=" ++ orNone (g.ballStartedAt.map Span.text) ++
    " last=" ++ toString g.isLastBall

/-- The answer to a question. -/
def answer (v : View) (counter : Counter) : Question → Bool
  | .active switch => v.switches.isActive switch
  | .count n => counter = some n
  | .playing => v.game.inProgress
  | .flippers => v.flippers
  | .tagged tag => (v.switches.tagged tag).all Switch.isActive

/-- Note a text and go on. -/
def note (text : String) (next : Scripted) : Scripted := .act (.note text) next

/-- Look around, note a text and go on. -/
def noteView (text : View → String) (next : Scripted) : Scripted :=
  .look fun v => note (text v) next

/-- The identity a mode of a description gets when one is made. -/
def identify (key : ModeKey) (twinOf : Option String) (ids : IdBook) :
    Option ModeId × Option String :=
  match twinOf with
  | none => (none, some key)
  | some label => (ids.find? label, none)

/-- Make a mode of a description and go on with its identity. -/
def instantiate (catalogue : Catalogue) (key : ModeKey) (next : ModeId → Scripted) : Scripted :=
  .look fun v =>
    match identify key ((catalogue.lookup key).bind ModeSpec.twinOf) v.ids with
    | (some id, _) => next id
    | (none, tag) => .issue tag next

mutual

/-- The callback that does an action and goes on, with the counter as it is then. -/
def action (catalogue : Catalogue) (a : Action) (counter : Counter) (next : Counter → Scripted) :
    Scripted :=
  match a with
  | .say text => note ("say " ++ text) (next counter)
  | .now => noteView (fun v => "now " ++ v.now.text) (next counter)
  | .self => noteView (fun v => "self " ++ orNone (v.running.map v.ids.label)) (next counter)
  | .switch name => noteView (fun v => switchNote v name) (next counter)
  | .tagged tag => noteView (fun v => taggedNote v tag) (next counter)
  | .driver name =>
    noteView
      (fun v => "driver " ++ name ++ " " ++ orNone ((v.drivers.find? name).map (·.status.text)))
      (next counter)
  | .game => noteView (fun v => gameNote v.game) (next counter)
  | .flippers => noteView (fun v => "flippers " ++ toString v.flippers) (next counter)
  | .pending => noteView (fun v => "pending " ++ toString v.pending) (next counter)
  | .count =>
    match counter with
    | some n => .remember (some (n + 1)) (note ("count " ++ toString (n + 1)) (next (some (n + 1))))
    | none => next none
  | .order o => .order o fun
    | .ok () => next counter
    | .error e => .done (.error (HandlerError.ofDriver e))
    | .panic message => .done (.panic message)
  | .attempt o => .order o fun
    | .ok () => next counter
    | .error e => note ("err " ++ e.message) (next counter)
    | .panic message => .done (.panic message)
  | .addMode key =>
    instantiate catalogue key fun id =>
      .ask (.addMode id key) (noteView (fun v => "add " ++ v.ids.label id) (next counter))
  | .removeMode label => .look fun v =>
    match v.ids.find? label with
    | some id => .ask (.removeMode id) (next counter)
    | none => .issue none fun id => .ask (.removeMode id) (next counter)
  | .removeSelf => .look fun v =>
    match v.running with
    | some id => .ask (.removeMode id) (next counter)
    | none => next counter
  | .request r => .ask (.game r) (next counter)
  | .setFlippers enable => .ask (.flippers enable) (next counter)
  | .enqueue command => .enqueue command fun
    | .ok () => next counter
    | .error e => note ("err " ++ e.message) (next counter)
  | .bench a => .act a (next counter)
  | .branch question yes no => .look fun v =>
    if answer v counter question then actions catalogue yes counter next
    else actions catalogue no counter next
  | .finish verdict => .done (.ok verdict)
  | .fail e => .done (.error e)
  | .panic payload => .panic payload

/-- The callback that does actions in order and goes on. -/
def actions (catalogue : Catalogue) (as : List Action) (counter : Counter)
    (next : Counter → Scripted) : Scripted :=
  match as with
  | [] => next counter
  | a :: rest => action catalogue a counter fun counter => actions catalogue rest counter next

end

/-- The callback of a script that ends in a verdict. -/
def callback (catalogue : Catalogue) (s : Script) (verdict : Verdict) (counter : Counter) :
    Scripted :=
  actions catalogue s counter fun _ => .done (.ok verdict)

/-- The callback of a hook: its script after a note of its name, or nothing. -/
def hookCallback (catalogue : Catalogue) (name : String) (s : Option Script) (counter : Counter) :
    Scripted :=
  match s with
  | some s => note name (callback catalogue s .carryOn counter)
  | none => .idle

end Script

namespace ModeSpec

/-- The mode counts and has hooks. -/
def isCounting (spec : ModeSpec) : Bool := !spec.plain && spec.twinOf.isNone

/-- How a mode of a description is called in the notes of its scripts. -/
def noteLabel (spec : ModeSpec) (key : ModeKey) (id : ModeId) (ids : IdBook) : String :=
  if spec.twinOf.isSome then key ++ "(twin)" else ids.label id

/-- The script of a hook. -/
def hookScript (spec : ModeSpec) : ModeHook → Option Script
  | .started => spec.started
  | .tick => spec.tick
  | .stopped => spec.stopped

/-- The name of a hook in notes. -/
def hookText : ModeHook → String
  | .started => "started"
  | .tick => "tick"
  | .stopped => "stopped"

/-- A handler of a mode: its script after a note of its number and the switch. -/
def handler (spec : ModeSpec) (catalogue : Catalogue) (key : ModeKey) (id : ModeId) (number : Nat)
    (h : HandlerSpec) (counter : Counter) (switch : Switch) : Scripted :=
  .look fun v =>
    Script.note
      (spec.noteLabel key id v.ids ++ ".h" ++ toString number ++ " " ++ switch.name)
      (Script.callback catalogue h.script h.verdict counter)

/-- The handlers of a mode to be registered. -/
def pendingHandlers (spec : ModeSpec) (catalogue : Catalogue) (key : ModeKey) (id : ModeId) :
    List (PendingHandler Counter ModeKey) :=
  (spec.handlers.zipIdx).map fun (h, number) =>
    { switch := h.switch, condition := h.condition, hold := h.hold,
      run := spec.handler catalogue key id number h }

/-- A hook of a mode. -/
def hook (spec : ModeSpec) (catalogue : Catalogue) (key : ModeKey) (id : ModeId) (h : ModeHook)
    (counter : Counter) : Scripted :=
  if spec.isCounting then
    match spec.hookScript h with
    | some s => .look fun v =>
      Script.hookCallback catalogue (spec.noteLabel key id v.ids ++ "." ++ hookText h) (some s)
        counter
    | none => .idle
  else .idle

/-- The memory a mode begins with. -/
def memory (spec : ModeSpec) : Counter := if spec.isCounting then some 0 else none

/-- The mode of a description under an identity. -/
def mode (spec : ModeSpec) (catalogue : Catalogue) (key : ModeKey) (id : ModeId) (name : String) :
    Mode Counter ModeKey :=
  ModeBuilder.register
    { id, name, priority := spec.priority, memory := spec.memory,
      hook := spec.hook catalogue key id }
    (spec.pendingHandlers catalogue key id)

/-- The builder of a description. -/
def builder (spec : ModeSpec) (catalogue : Catalogue) (key : ModeKey) (id : ModeId) :
    ModeBuilder Counter ModeKey :=
  { name := spec.name, priority := spec.priority, memory := spec.memory,
    hook := spec.hook catalogue key id, handlers := spec.pendingHandlers catalogue key id }

end ModeSpec

namespace Catalogue

/-- The mode of a key under an identity. -/
def mode (catalogue : Catalogue) (key : ModeKey) (id : ModeId) : Mode Counter ModeKey :=
  let spec := (catalogue.lookup key).getD {}
  spec.mode catalogue key id (spec.name.getD key)

/-- Make a mode of a key; the book issues an identity unless it is a twin of one that is there. -/
def instantiate (catalogue : Catalogue) (key : ModeKey) (ids : IdBook) :
    Mode Counter ModeKey × IdBook :=
  match Script.identify key ((catalogue.lookup key).bind ModeSpec.twinOf) ids with
  | (some id, _) => (catalogue.mode key id, ids)
  | (none, tag) =>
    match ids.issue tag with
    | (id, ids) => (catalogue.mode key id, ids)

end Catalogue

/-- The scripts of the lifecycle callbacks. -/
abbrev LifecycleSpec := List (GameHook × Script)

/-- A lifecycle callback: its script after a note of its name, or nothing. -/
def LifecycleSpec.hook (spec : LifecycleSpec) (catalogue : Catalogue) (h : GameHook)
    (counter : Counter) : Scripted :=
  Script.hookCallback catalogue ("game." ++ h.text) (spec.lookup h) counter

/-- A frame callback that runs a script. -/
def Script.frameHandler (s : Script) (catalogue : Catalogue) : FrameHandler Counter ModeKey :=
  ⟨none, fun counter => Script.note "frame" (Script.callback catalogue s .carryOn counter)⟩

end Playfield
