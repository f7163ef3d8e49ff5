import Playfield.Config.Check
import Playfield.FlipperRules
import Playfield.Game
import Playfield.ModeStack
import Playfield.Text.Quoted

/-!
# The machine

The engine is what reacts: the mode stack, the game, the flipper rules, the frame handler and the
counters. The machine is an engine in a cabinet with the settings of its loop.

What callbacks ask for is done after the walk that ran them, in rounds: what is asked for while a
round is carried out waits for the next one. After 64 rounds the rest is dropped, so that modes
that keep putting each other on the stack cannot hold the machine up.
-/
namespace Playfield

/-- The order a posted command stands for. -/
def Command.order : Command → Order
  | .pulse driver ms => .pulse driver ms
  | .disable driver => .disable driver

/-- Counters of a machine. -/
structure Stats where
  iterations : Nat := 0
  /-- Switch events, with those that brought no change. -/
  switchEvents : Nat := 0
  /-- Switch events that brought no change. -/
  duplicateEvents : Nat := 0
  dispatches : Nat := 0
  frames : Nat := 0
  handlerFaults : Nat := 0
  deferredCommands : Nat := 0
  deriving DecidableEq, Repr, Inhabited

/-- A callback for frame events, with its memory. -/
structure FrameHandler (σ κ : Type) where
  memory : σ
  run : σ → Callback σ κ

/-- Everything that reacts to the board. -/
structure Engine (σ κ : Type) where
  stack : ModeStack σ κ
  game : Game σ κ
  rules : FlipperRules
  frameHandler : Option (FrameHandler σ κ) := none
  stats : Stats := {}
  /-- The modes callbacks can ask for: what a new mode of a kind is under a given identity. -/
  catalogue : κ → ModeId → Mode σ κ

namespace Engine
variable {σ κ : Type}

/-- A computation on the engine and the scene. -/
abbrev Step (σ κ : Type) : Type → Type := Act Fault (Engine σ κ × Scene κ)

/-- Run a computation on the mode stack. -/
def onStack {α : Type} (x : Act Fault (ModeStack σ κ × Scene κ) α) : Step σ κ α :=
  .zoom (fun (e, scene) => (e.stack, scene))
    (fun (stack, scene) (e, _) => ({ e with stack }, scene)) x

/-- Run a computation on the game. -/
def onGame {α : Type} (x : Act Fault (Game σ κ × Scene κ) α) : Step σ κ α :=
  .zoom (fun (e, scene) => (e.game, scene))
    (fun (game, scene) (e, _) => ({ e with game }, scene)) x

/-- Run a computation on the flipper rules, the drivers and the bench. -/
def onRules {α : Type} (x : Act Fault (FlipperRules × DriverBank × Bench) α) : Step σ κ α :=
  .zoom (fun (e, scene) => (e.rules, scene.cabinet.drivers, scene.cabinet.bench))
    (fun (rules, drivers, bench) (e, scene) =>
      ({ e with rules }, { scene with cabinet := { scene.cabinet with drivers, bench } })) x

/-- Change the counters. -/
def count (f : Stats → Stats) : Step σ κ Unit :=
  .modify fun (e, scene) => ({ e with stats := f e.stats }, scene)

/-- Change the scene. -/
def inScene (f : Engine σ κ → Scene κ → Scene κ) : Step σ κ Unit :=
  .modify fun (e, scene) => (e, f e scene)

/-- Put a remark into the journal. -/
def log (severity : Severity) (text : String) : Step σ κ Unit := .second (Scene.log severity text)

/-- Do one thing that was asked for. -/
def apply (r : Request κ) : Step σ κ Unit := do
  match r with
  | .addMode id kind =>
    let (e, _) ← .get
    onStack (ModeStack.add { e.catalogue kind id with id })
  | .removeMode id =>
    let there ← onStack (ModeStack.remove id)
    if !there then
      let (_, scene) ← .get
      log .debug ("mode " ++ scene.cabinet.ids.label id ++ " was not on the stack")
  | .game request =>
    onGame (Game.apply request)
    inScene fun e scene => { scene with game := e.game.status }
  | .flippers enable =>
    let (_, scene) ← .get
    let _ ← onRules (FlipperRules.setEnabled enable scene.now)
    inScene fun _ scene => { scene with flippers := enable }

/-- How many rounds of requests are carried out. -/
def maxRounds : Nat := 64

/-- Do what was asked for, in at most so many rounds, and drop the rest. -/
def settleRounds : Nat → Step σ κ Unit
  | 0 => do
    let (_, scene) ← .get
    inScene fun _ scene => scene.takeRequests.2
    if !scene.requests.isEmpty then
      log .error
        ("dropping " ++ toString scene.requests.length ++ " mode request(s) after " ++
          toString maxRounds ++ " rounds")
  | rounds + 1 => do
    let (_, scene) ← .get
    inScene fun _ scene => scene.takeRequests.2
    if !scene.requests.isEmpty then
      Act.each apply scene.requests
      settleRounds rounds

/-- Do what was asked for. -/
def settle : Step σ κ Unit := settleRounds maxRounds

/-- Count the faults of a walk. -/
def record (r : Report) : Step σ κ Unit :=
  count fun s => { s with handlerFaults := s.handlerFaults + r.faults.length }

/-- Hand a switch down the stack and do what was asked for; a board fault of the walk comes last. -/
def dispatch (switch : Switch) : Step σ κ Unit := do
  count fun s => { s with dispatches := s.dispatches + 1 }
  let report ← onStack (ModeStack.dispatch switch)
  record report
  settle
  .finish report.check

/-- Run the pass hooks and what has come due, and do what was asked for; a board fault of the
callbacks comes last. -/
def tick : Step σ κ Unit := do
  let report ← onStack ModeStack.tick
  record report
  settle
  .finish report.check

/-- Record a frame callback that failed. -/
def failFrame (text : String) : Step σ κ Unit := do
  count fun s => { s with handlerFaults := s.handlerFaults + 1 }
  log .error text

/-- Run the frame callback, if there is one, and do what was asked for. -/
def frame : Step σ κ Unit := do
  count fun s => { s with frames := s.frames + 1 }
  let (e, _) ← .get
  match e.frameHandler with
  | none => pure ()
  | some handler =>
    inScene fun _ scene => scene.begin .frame
    let outcome ← fun (e, scene) =>
      match (handler.run handler.memory).play (handler.memory, scene) with
      | (o, memory, scene) =>
        (.ok o, { e with frameHandler := some { handler with memory } }, scene)
    match outcome with
    | .ok _ => pure ()
    | .error (.board f) => .fail f
    | .error e => failFrame ("frame handler failed: " ++ e.message)
    | .panic m => failFrame ("frame handler panicked: " ++ m)
    settle

end Engine

/-- A machine. -/
structure Machine (σ κ : Type) where
  cabinet : Cabinet
  engine : Engine σ κ
  settings : LoopSettings
  /-- The board has been closed. -/
  closed : Bool := false

namespace Machine
variable {σ κ : Type}

/-- A computation on the machine. -/
abbrev Step (σ κ : Type) : Type → Type := Act Fault (Machine σ κ)

/-- The present time. -/
def now (m : Machine σ κ) : Span := m.cabinet.clock.now

/-- Run a computation on the cabinet. -/
def onCabinet {ε α : Type} (x : Act ε Cabinet α) : Act ε (Machine σ κ) α :=
  .zoom Machine.cabinet (fun cabinet m => { m with cabinet }) x

/-- Put a remark into the journal. -/
def log {ε : Type} (severity : Severity) (text : String) : Act ε (Machine σ κ) Unit :=
  onCabinet (Cabinet.log severity text)

/-- Change the counters. -/
def count (f : Stats → Stats) : Step σ κ Unit :=
  .modify fun m => { m with engine := { m.engine with stats := f m.engine.stats } }

/-- Build a machine from its parts. -/
def assemble (c : TableConfig) (settings : LoopSettings) (cabinet : Cabinet)
    (memory : σ) (hook : GameHook → σ → Callback σ κ) (catalogue : κ → ModeId → Mode σ κ) :
    Except (List Problem) (Machine σ κ) := do
  let switches ← c.switchStore
  let drivers ← c.driverBank
  let rules ← FlipperRules.resolve c switches drivers settings.timing
  let bench := cabinet.bench.remark .info
    ("machine up: " ++ toString switches.toList.length ++ " switches, " ++
      toString drivers.toList.length ++ " drivers, " ++ rules.family.text ++ " flippers")
  return {
    cabinet := { cabinet with switches, drivers, bench }
    engine := {
      stack := .empty settings.overrunTolerance
      game := .new c.game.ballsPerGame.toNat memory hook
      rules, catalogue }
    settings }

/-- Check a description and build a machine from it. -/
def build (c : TableConfig) (settings : LoopSettings) (cabinet : Cabinet)
    (memory : σ) (hook : GameHook → σ → Callback σ κ) (catalogue : κ → ModeId → Mode σ κ) :
    Except (List Problem) (Machine σ κ) := do
  c.validate
  assemble c settings cabinet memory hook catalogue

/-- The scene for callbacks at a time. -/
def scene (m : Machine σ κ) (now : Span) : Scene κ where
  cabinet := m.cabinet
  now := now
  game := m.engine.game.status
  flippers := m.engine.rules.enabled

/-- Run a computation in a fresh scene, then do what was asked for in it. What was asked for is done
even if the computation failed; its failure comes before one of what was done. -/
def inContext {α : Type} (now : Span) (body : Engine.Step σ κ α) : Step σ κ α := fun m =>
  match body (m.engine, m.scene now) with
  | (.panic message, e, s) => (.panic message, { m with engine := e, cabinet := s.cabinet })
  | (value, e, s) =>
    match Engine.settle (e, s) with
    | (settled, e, s) =>
      (match settled with
        | .panic message => .panic message
        | .error f =>
          match value with
          | .error g => .error g
          | _ => .error f
        | .ok () => value,
        { m with engine := e, cabinet := s.cabinet })

/-- Put a mode on the stack. -/
def addMode (mode : Mode σ κ) : Step σ κ Unit := do
  let m ← .get
  inContext m.now (Engine.onStack (ModeStack.add mode))

/-- Take a mode off the stack; answers whether it was there. -/
def removeMode (id : ModeId) : Step σ κ Bool := do
  let m ← .get
  inContext m.now (Engine.onStack (ModeStack.remove id))

/-- Ask for a change of the game. -/
def requestGame (r : GameRequest) : Step σ κ Unit := do
  let m ← .get
  inContext m.now (Engine.apply (.game r))

/-- Turn flippers and bumpers on or off; answers whether any rule was written. -/
def enableFlippers (enable : Bool) : Step σ κ Bool := fun m =>
  match FlipperRules.setEnabled enable m.now
      (m.engine.rules, m.cabinet.drivers, m.cabinet.bench) with
  | (o, rules, drivers, bench) =>
    (o, { m with
      engine := { m.engine with rules }
      cabinet := { m.cabinet with drivers, bench } })

/-- Take every mode off, end any game and turn the flippers off. -/
def reset : Step σ κ Unit := do
  log .info "resetting machine"
  let m ← .get
  inContext m.now (Engine.onStack ModeStack.clear)
  .modify fun m => { m with engine := { m.engine with game := m.engine.game.reset } }
  let _ ← enableFlippers false

/-- The word for a level. -/
def levelText (closed : Bool) : String := if closed then "closed" else "open"

/-- Take note of a switch's level, and hand the switch down the stack if that is a change. -/
def switchChanged (number : Nat) (closed : Bool) (now : Span) : Step σ κ Unit := do
  count fun s => { s with switchEvents := s.switchEvents + 1 }
  let previous ← fun m =>
    match m.cabinet.switches.report number closed now with
    | (previous, switches) => (.ok previous, { m with cabinet := { m.cabinet with switches } })
  match previous with
  | none => log .warn ("event for unknown switch " ++ toString number)
  | some previous =>
    if previous = closed then
      count fun s => { s with duplicateEvents := s.duplicateEvents + 1 }
      log .trace ("switch " ++ toString number ++ " already " ++ levelText closed)
    else
      inContext now do
        let (_, scene) ← .get
        match scene.cabinet.switches.get? number with
        | some switch =>
          Engine.log .debug
            ("switch '" ++ switch.name ++ "' " ++
              if switch.isActive then "active" else "inactive")
          Engine.dispatch switch
        | none => pure ()

/-- Deal with an event at a time. -/
def handleEvent (event : Event) (now : Span) : Step σ κ Unit :=
  match event.kind.level? with
  | some closed => switchChanged event.value closed now
  | none =>
    match event.kind with
    | .frameDisplayed => inContext now Engine.frame
    | kind => log .trace ("ignoring " ++ kind.text ++ " event")

/-- Deal with an event now. -/
def processEvent (event : Event) : Step σ κ Unit := do
  let m ← .get
  handleEvent event m.now

/-- Carry a posted command out. One for an unknown driver is passed over. -/
def carryOut (now : Span) (c : Command) : Step σ κ Unit := do
  count fun s => { s with deferredCommands := s.deferredCommands + 1 }
  fun m =>
    match onCabinet (Cabinet.onDrivers (DriverBank.obey c.order now)) m with
    | (.ok (), m) => (.ok (), m)
    | (.error (.unknown name), m) =>
      log .warn ("deferred command for unknown driver '" ++ name ++ "'") m
    | (.error (.board f), m) => (.error f, m)
    | (.error e, m) => log .warn ("deferred command skipped: " ++ e.message) m
    | (.panic message, m) => (.panic message, m)

/-- Take all posted commands and carry them out in order. -/
def drainCommands (now : Span) : Step σ κ Unit := do
  let commands ← fun m =>
    match m.cabinet.queue.drain with
    | (commands, queue) => (.ok commands, { m with cabinet := { m.cabinet with queue } })
  if !commands.isEmpty then
    log .trace ("applying " ++ toString commands.length ++ " deferred command(s)")
    Act.each (carryOut now) commands

/-- One pass: events, pass hooks and held handlers, driver models, posted commands, watchdog. The
time is read once, after the poll. -/
def step : Step σ κ Unit := do
  let m ← .get
  let events ← onCabinet (Cabinet.onBench (Bench.poll m.settings.includeFrameEvents))
  let now ← .gets Machine.now
  Act.each (fun event => handleEvent event now) events
  inContext now Engine.tick
  onCabinet (Cabinet.onDrivers (DriverBank.tick now))
  drainCommands now
  onCabinet (Cabinet.onBench Bench.tickle)
  count fun s => { s with iterations := s.iterations + 1 }

/-- Close the board, unless it is closed. -/
def close (m : Machine σ κ) : Machine σ κ :=
  if m.closed then m
  else
    let m := { m with closed := true }
    match Bench.close m.cabinet.bench with
    | (.error f, bench) =>
      { m with cabinet := { m.cabinet with
          bench := bench.remark .error ("closing device failed: " ++ f.message) } }
    | (_, bench) => { m with cabinet := { m.cabinet with bench } }

end Machine

end Playfield
