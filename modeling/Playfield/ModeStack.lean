import Playfield.Cabinet
import Playfield.HoldQueue

/-!
# The mode stack

Live modes, highest priority first and equal priorities in the order they came. A transition of a
switch walks down the stack. In each mode all handlers bound to the switch and its present level
run in order of registration; those with a hold start to wait instead. If any of them says stop,
the walk ends after its mode. A callback that fails is recorded and the walk goes on.
-/
namespace Playfield

/-- A mode on the stack with the number of its arrival. -/
structure Slot (σ κ : Type) where
  seq : Nat
  mode : Mode σ κ

/-- What a walk or a tick did. -/
structure Report where
  /-- Handlers called at once. -/
  invoked : Nat := 0
  /-- Held handlers that started to wait. -/
  scheduled : Nat := 0
  /-- Held handlers that came due. -/
  fired : Nat := 0
  /-- The mode that ended the walk. -/
  stoppedBy : Option ModeId := none
  faults : List HandlerFault := []
  deriving DecidableEq, Repr, Inhabited

namespace Report

/-- The first board fault among the faults. -/
def boardFault? (r : Report) : Option Fault := r.faults.findSome? fun f => f.reason.boardFault?

theorem boardFault?_fail (r : Report) (f : HandlerFault) :
    boardFault? { r with faults := r.faults ++ [f] } =
      r.boardFault?.or f.reason.boardFault? := by
  simp [boardFault?, List.findSome?_append]

/-- An error if any callback met a board fault. -/
def check (r : Report) : Outcome Fault Unit :=
  match r.boardFault? with
  | some f => .error f
  | none => .ok ()

theorem check_eq_error {r : Report} {f : Fault} : r.check = .error f ↔ r.boardFault? = some f := by
  cases h : r.boardFault? <;> simp [check, h]

end Report

/-- The live modes and their held handlers. -/
structure ModeStack (σ κ : Type) where
  slots : List (Slot σ κ) := []
  /-- The number of the next arrival. -/
  nextSeq : Nat := 0
  holds : HoldQueue
  /-- Callbacks that failed so far. -/
  faultCount : Nat := 0

/-- A walk under way: what it changes besides the modes. -/
structure Walk (κ : Type) where
  holds : HoldQueue
  faultCount : Nat
  report : Report := {}
  scene : Scene κ

namespace Walk
variable {κ : Type}

/-- Record a failed callback. -/
def fail (w : Walk κ) (f : HandlerFault) : Walk κ :=
  { w with
    faultCount := w.faultCount + 1
    report := { w.report with faults := w.report.faults ++ [f] }
    scene := w.scene.remark .error f.message }

/-- Let a held handler start to wait. -/
def schedule (w : Walk κ) (mode : ModeId) (switch : Switch) (b : Binding) (hold : Span) : Walk κ :=
  { w with
    holds := w.holds.register ⟨mode, b.number, switch.name, b.condition, hold, w.scene.now⟩
    report := { w.report with scheduled := w.report.scheduled + 1 } }

end Walk

namespace ModeStack
variable {σ κ : Type}

/-- An empty stack. -/
def empty (tolerance : Span) : ModeStack σ κ := { holds := { tolerance } }

/-- The identities of live modes in dispatch order. -/
def ids (s : ModeStack σ κ) : List ModeId := s.slots.map fun slot => slot.mode.id

/-- A mode of this identity is live. -/
def contains (s : ModeStack σ κ) (id : ModeId) : Bool := s.slots.any fun slot => slot.mode.id = id

/-- A mode of this name is live. -/
def containsName (s : ModeStack σ κ) (name : String) : Bool :=
  s.slots.any fun slot => slot.mode.name = name

/-- The live mode of an identity. -/
def find? (s : ModeStack σ κ) (id : ModeId) : Option (Slot σ κ) :=
  s.slots.find? fun slot => slot.mode.id = id

/-- Put a slot in front of the first one of lower priority. -/
def insertSlot (slot : Slot σ κ) : List (Slot σ κ) → List (Slot σ κ)
  | [] => [slot]
  | other :: rest =>
    if other.mode.priority < slot.mode.priority then slot :: other :: rest
    else other :: insertSlot slot rest

/-- Put a mode in place of the first one of its identity. -/
def replace (m : Mode σ κ) : List (Slot σ κ) → List (Slot σ κ)
  | [] => []
  | slot :: rest =>
    if slot.mode.id = m.id then { slot with mode := m } :: rest else slot :: replace m rest

/-- Take out the first mode of an identity. -/
def erase (id : ModeId) : List (Slot σ κ) → List (Slot σ κ)
  | [] => []
  | slot :: rest => if slot.mode.id = id then rest else slot :: erase id rest

/-- How the ending of a joining or leaving hook counts: a board fault is passed on, any other
failure is recorded. -/
def settleHook (outcome : Except FaultReason Verdict) :
    Act Fault (ModeStack σ κ × Scene κ) Unit := fun (s, scene) =>
  match outcome with
  | .ok _ => (.ok (), s, scene)
  | .error (.error (.board f)) => (.error f, s, scene)
  | .error reason =>
    (.ok (), { s with faultCount := s.faultCount + 1 },
      scene.remark .error ("mode lifecycle hook faulted: " ++ reason.message))

/-- Put a mode on the stack and run its first hook. A mode that is there already stays as it is. -/
def add (m : Mode σ κ) : Act Fault (ModeStack σ κ × Scene κ) Unit := fun (s, scene) =>
  if s.contains m.id then
    (.ok (), s, scene.remark .debug
      ("mode '" ++ m.name ++ "' (" ++ scene.cabinet.ids.label m.id ++
        ") is already on the stack"))
  else
    let scene := scene.remark .debug
      ("adding mode '" ++ m.name ++ "' at priority " ++ toString m.priority)
    let seq := s.nextSeq
    match Mode.guarded (.hook m.id .started) (Mode.runHook .started) m scene with
    | (outcome, m, scene) =>
      settleHook outcome
        ({ s with slots := insertSlot ⟨seq, m⟩ s.slots, nextSeq := seq + 1 }, scene)

/-- Take a mode off the stack, drop its held handlers and run its last hook; answers whether it was
there. -/
def remove (id : ModeId) : Act Fault (ModeStack σ κ × Scene κ) Bool := fun (s, scene) =>
  match s.find? id with
  | none => (.ok false, s, scene)
  | some slot =>
    let s := { s with slots := erase id s.slots, holds := s.holds.cancelMode id }
    let scene := scene.remark .debug ("removing mode '" ++ slot.mode.name ++ "'")
    match Mode.guarded (.hook id .stopped) (Mode.runHook .stopped) slot.mode scene with
    | (outcome, _, scene) =>
      match settleHook outcome (s, scene) with
      | (o, s) => (o.map fun _ => true, s)

/-- Take modes off the stack in turn, whatever their hooks do; the first board fault is kept. -/
def removeAll : List ModeId → Option Fault → ModeStack σ κ × Scene κ →
    Option Fault × ModeStack σ κ × Scene κ
  | [], first, s => (first, s)
  | id :: rest, first, s =>
    match remove id s with
    | (.error f, s) => removeAll rest (some (first.getD f)) s
    | (_, s) => removeAll rest first s

/-- Empty the stack, highest priority first. -/
def clear : Act Fault (ModeStack σ κ × Scene κ) Unit := fun (s, scene) =>
  match removeAll s.ids none (s, scene) with
  | (some f, s) => (.error f, s)
  | (none, s) => (.ok (), s)

/-- Call or schedule the matching bindings of one mode; answers whether any handler said stop. -/
def walkBindings (switch : Switch) :
    List Binding → Mode σ κ → Walk κ → Bool × Mode σ κ × Walk κ
  | [], m, w => (false, m, w)
  | b :: rest, m, w =>
    match b.hold with
    | some hold => walkBindings switch rest m (w.schedule m.id switch b hold)
    | none =>
      let w := { w with report := { w.report with invoked := w.report.invoked + 1 } }
      match Mode.guarded (.handler m.id b.number switch.name) (Mode.handle b.number switch) m
          w.scene with
      | (outcome, m, scene) =>
        let w := { w with scene }
        match outcome with
        | .ok .carryOn => walkBindings switch rest m w
        | .ok .stop =>
          match walkBindings switch rest m w with
          | (_, m, w) => (true, m, w)
        | .error reason =>
          walkBindings switch rest m (w.fail ⟨m.name, some switch.name, reason⟩)

/-- Walk down the modes for a switch, to the first one that says stop. -/
def walkModes (switch : Switch) : List (Slot σ κ) → Walk κ → List (Slot σ κ) × Walk κ
  | [], w => ([], w)
  | slot :: rest, w =>
    let matching := (slot.mode.bindings switch.name).filter fun b => b.condition.holds switch
    match walkBindings switch matching slot.mode w with
    | (true, m, w) =>
      ({ slot with mode := m } :: rest,
        { w with
          report := { w.report with stoppedBy := some m.id }
          scene := w.scene.remark .trace
            ("'" ++ switch.name ++ "' stopped by mode '" ++ m.name ++ "'") })
    | (false, m, w) =>
      match walkModes switch rest w with
      | (rest, w) => ({ slot with mode := m } :: rest, w)

/-- Run a computation on the held handlers and the bench. -/
def onHolds {ε α : Type} (x : Act ε (HoldQueue × Bench) α) :
    Act ε (ModeStack σ κ × Scene κ) α :=
  .zoom (fun (s, scene) => (s.holds, scene.cabinet.bench))
    (fun (holds, bench) (s, scene) =>
      ({ s with holds }, { scene with cabinet := { scene.cabinet with bench } })) x

/-- Hand a switch that has changed its level down the stack. -/
def dispatch {ε : Type} (switch : Switch) : Act ε (ModeStack σ κ × Scene κ) Report := do
  let _ ← onHolds (HoldQueue.cancelUnsatisfied switch)
  fun (s, scene) =>
    match walkModes switch s.slots { holds := s.holds, faultCount := s.faultCount, scene } with
    | (slots, w) =>
      (.ok w.report, { s with slots, holds := w.holds, faultCount := w.faultCount }, w.scene)

/-- Run the pass hook of each mode in turn. -/
def tickModes : List (Slot σ κ) → Walk κ → List (Slot σ κ) × Walk κ
  | [], w => ([], w)
  | slot :: rest, w =>
    match Mode.guarded (.hook slot.mode.id .tick) (Mode.runHook .tick) slot.mode w.scene with
    | (outcome, m, scene) =>
      let w := { w with scene }
      let w := match outcome with
        | .ok _ => w
        | .error reason => w.fail ⟨m.name, none, reason⟩
      match tickModes rest w with
      | (rest, w) => ({ slot with mode := m } :: rest, w)

/-- Call the handlers that came due. One whose switch or mode is gone is passed over. -/
def fireDue : List Obligation → List (Slot σ κ) → Walk κ → List (Slot σ κ) × Walk κ
  | [], slots, w => (slots, w)
  | o :: rest, slots, w =>
    match w.scene.cabinet.switches.find? o.switch,
        slots.find? fun slot => slot.mode.id = o.mode with
    | some switch, some slot =>
      let w := { w with report := { w.report with fired := w.report.fired + 1 } }
      match Mode.guarded (.handler o.mode o.binding switch.name) (Mode.handle o.binding switch)
          slot.mode w.scene with
      | (outcome, m, scene) =>
        let w := { w with scene }
        let w := match outcome with
          | .ok _ => w
          | .error reason => w.fail ⟨m.name, some o.switch, reason⟩
        fireDue rest (replace m slots) w
    | _, _ => fireDue rest slots w

/-- Run every pass hook, then call the held handlers that have come due. -/
def tick {ε : Type} : Act ε (ModeStack σ κ × Scene κ) Report := do
  let report : Report ← fun (s, scene) =>
    match tickModes s.slots { holds := s.holds, faultCount := s.faultCount, scene } with
    | (slots, w) => (.ok w.report, { s with slots, faultCount := w.faultCount }, w.scene)
  let due ← fun (s, scene) =>
    onHolds (HoldQueue.takeDue scene.now scene.cabinet.switches) (s, scene)
  fun (s, scene) =>
    match fireDue due s.slots { holds := s.holds, faultCount := s.faultCount, report, scene } with
    | (slots, w) => (.ok w.report, { s with slots, faultCount := w.faultCount }, w.scene)

end ModeStack

end Playfield
