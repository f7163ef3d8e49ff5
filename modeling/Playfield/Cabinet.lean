import Playfield.Mode

/-!
# The cabinet, and running callbacks in it

The cabinet is everything a callback can reach in the end: switches, drivers, the bench with its
board, the clock, posted commands, the stop flag and the book of mode identities. A scene adds
what holds for the callbacks of one walk: the time, the mode that runs, the state of game and
flippers, and what has been asked for so far.
-/
namespace Playfield

/-- Everything outside the engine. -/
structure Cabinet where
  switches : SwitchStore := {}
  drivers : DriverBank := {}
  bench : Bench := {}
  clock : Clock := {}
  queue : CommandQueue := {}
  /-- The run loop is asked to end. -/
  stopRaised : Bool := false
  ids : IdBook := {}
  deriving Repr, Inhabited

namespace Cabinet

/-- Run a computation on the drivers and the bench. -/
def onDrivers {ε α : Type} (x : Act ε (DriverBank × Bench) α) : Act ε Cabinet α :=
  .zoom (fun c => (c.drivers, c.bench)) (fun s c => { c with drivers := s.1, bench := s.2 }) x

/-- Run a computation on the bench. -/
def onBench {ε α : Type} (x : Act ε Bench α) : Act ε Cabinet α :=
  .zoom Cabinet.bench (fun bench c => { c with bench }) x

/-- Put a remark into the journal. -/
def log {ε : Type} (severity : Severity) (text : String) : Act ε Cabinet Unit :=
  onBench (Bench.log severity text)

/-- Do something on the bench. -/
def perform (a : BenchAct) (c : Cabinet) : Cabinet :=
  match a with
  | .note text => { c with bench := c.bench.enter (.note text) }
  | .advance step => { c with clock := c.clock.advance step }
  | .post event => { c with bench := { c.bench with board := c.bench.board.post event } }
  | .plan after mishap => { c with bench := c.bench.plan after mishap }
  | .planClose fault => { c with bench := { c.bench with closeFault := some fault } }
  | .raiseStop => { c with stopRaised := true }

/-- Post a command. -/
def enqueue (command : Command) (c : Cabinet) : Except QueueFull Unit × Cabinet :=
  match c.queue.enqueue command with
  | .ok queue => (.ok (), { c with queue })
  | .error e => (.error e, c)

end Cabinet

/-- A cabinet with what holds for the callbacks of one walk. -/
structure Scene (κ : Type) where
  cabinet : Cabinet
  now : Span
  /-- The mode whose callback runs. -/
  running : Option ModeId := none
  game : GameStatus
  flippers : Bool
  /-- What was asked for and not been done yet, oldest first. -/
  requests : List (Request κ) := []

namespace Scene
variable {σ κ : Type} {ε α : Type}

/-- Run a computation on the cabinet. -/
def onCabinet (x : Act ε Cabinet α) : Act ε (Scene κ) α :=
  .zoom Scene.cabinet (fun cabinet s => { s with cabinet }) x

/-- Put a remark into the journal. -/
def log (severity : Severity) (text : String) : Act ε (Scene κ) Unit :=
  onCabinet (Cabinet.log severity text)

/-- Put a remark into the journal. -/
def remark (severity : Severity) (text : String) (s : Scene κ) : Scene κ :=
  { s with cabinet := { s.cabinet with bench := s.cabinet.bench.remark severity text } }

/-- What a callback sees. -/
def view (s : Scene κ) : View where
  now := s.now
  running := s.running
  switches := s.cabinet.switches
  drivers := s.cabinet.drivers
  game := s.game
  flippers := s.flippers
  pending := !s.requests.isEmpty
  ids := s.cabinet.ids

/-- Note the start of a callback. -/
def begin (site : CallbackSite) (s : Scene κ) : Scene κ :=
  let glimpse : Glimpse := ⟨s.now, s.running, s.game, s.flippers⟩
  { s with cabinet := { s.cabinet with bench := s.cabinet.bench.enter (.began site glimpse) } }

/-- Note the end of a callback. -/
def finish (ending : Outcome HandlerError Verdict) (s : Scene κ) : Scene κ :=
  let entry : Entry := .ended (HandlerError.faultIn? ending)
  { s with cabinet := { s.cabinet with bench := s.cabinet.bench.enter entry } }

/-- Take out everything that was asked for. -/
def takeRequests (s : Scene κ) : List (Request κ) × Scene κ :=
  (s.requests, { s with requests := [] })

end Scene

namespace Callback
variable {σ κ : Type}

/-- Run a callback on its memory and the scene. -/
def play : Callback σ κ → Act HandlerError (σ × Scene κ) Verdict
  | .done ending => fun (m, scene) => (ending, m, scene.finish ending)
  | .remember memory next => fun (_, scene) => next.play (memory, scene)
  | .look next => fun (m, scene) => (next scene.view).play (m, scene)
  | .order o next => fun (m, scene) =>
    match Scene.onCabinet (Cabinet.onDrivers (DriverBank.obey o scene.now)) scene with
    | (answer, scene) => (next answer).play (m, scene)
  | .ask request next => fun (m, scene) =>
    next.play (m, { scene with requests := scene.requests ++ [request] })
  | .issue tag next => fun (m, scene) =>
    match scene.cabinet.ids.issue tag with
    | (id, ids) => (next id).play (m, { scene with cabinet := { scene.cabinet with ids } })
  | .enqueue command next => fun (m, scene) =>
    match scene.cabinet.enqueue command with
    | (answer, cabinet) => (next answer).play (m, { scene with cabinet })
  | .act a next => fun (m, scene) =>
    next.play (m, { scene with cabinet := scene.cabinet.perform a })

end Callback

namespace Mode
variable {σ κ : Type}

/-- Run a callback of a mode on the mode's memory. -/
def play (c : Callback σ κ) : Act HandlerError (Mode σ κ × Scene κ) Verdict := fun (m, scene) =>
  match c.play (m.memory, scene) with
  | (o, memory, scene) => (o, { m with memory }, scene)

/-- Run a handler by number. -/
def handle (binding : Nat) (switch : Switch) : Act HandlerError (Mode σ κ × Scene κ) Verdict :=
  fun (m, scene) =>
    match m.handlers[binding]? with
    | some handler => play (handler m.memory switch) (m, scene)
    | none =>
      (.error (.failed ("mode '" ++ m.name ++ "' has no handler " ++ toString binding)), m, scene)

/-- Run a hook. -/
def runHook (h : ModeHook) : Act HandlerError (Mode σ κ × Scene κ) Verdict := fun (m, scene) =>
  play (m.hook h m.memory) (m, scene)

/-- Run a callback as this mode. Whatever its ending, the mode that ran before is the one that runs
after it. A panic is caught, and its payload dropped. -/
def guarded (site : CallbackSite) (x : Act HandlerError (Mode σ κ × Scene κ) Verdict)
    (m : Mode σ κ) (scene : Scene κ) : Except FaultReason Verdict × Mode σ κ × Scene κ :=
  match x (m, { scene with running := some m.id }.begin site) with
  | (o, m, after) => (FaultReason.ofOutcome o, m, { after with running := scene.running })

end Mode

end Playfield
