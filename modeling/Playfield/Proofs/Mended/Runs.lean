import Playfield.Proofs.Mended.Machine
import Playfield.Proofs.Starts

/-!
# Failing callbacks cannot change the machine

`Machine.marked` turns a machine into one in which any chosen set of runs of callbacks is mended:
they do what they did before, and then carry on instead of failing, unless the board failed. To know
which run it is about to make, a callback of the new machine counts its runs in its memory.
Whatever is done with the two machines, they answer alike and stay the same but for what is noted
about failures (`Machine.mended_runs_alike`).
-/
namespace Playfield

/-- A set of runs of a mode, of the game or of the frame callback, and of the modes that they ask
for. The path of run `n`, counted from 0, is `[n]`. A mode that run `n` asks for in its request `k`
has runs of its own, and their paths begin with `n` and `k`. -/
abbrev RunSet := List Nat → Bool

namespace RunSet

/-- The next run is in the set. -/
def now (r : RunSet) : Bool := r [0]

/-- The set as it is after one more run. -/
def later (r : RunSet) : RunSet
  | [] => false
  | n :: path => r ((n + 1) :: path)

/-- The runs of the mode that the next run asks for in a request. -/
def asked (r : RunSet) (request : Nat) : RunSet := fun path => r (0 :: request :: path)

end RunSet

/-- A value with a set of runs, counted from here on. -/
structure Marked (α : Type) where
  value : α
  runs : RunSet

variable {σ κ : Type}

/-- The request, where a mode that is asked for has its runs marked. -/
def Request.mark (runs : RunSet) : Request κ → Request (Marked κ)
  | .addMode id kind => .addMode id ⟨kind, runs⟩
  | .removeMode id => .removeMode id
  | .game request => .game request
  | .flippers enable => .flippers enable

namespace Callback

/-- The callback, mended if its run is in the set. The number is that of the next request. -/
def mark (runs : RunSet) : Nat → Callback σ κ → Callback (Marked σ) (Marked κ)
  | _, .done ending => .done (if runs.now then ending.mended else ending)
  | k, .remember memory next => .remember ⟨memory, runs.later⟩ (next.mark runs k)
  | k, .look next => .look fun v => (next v).mark runs k
  | k, .order o next => .order o fun answer => (next answer).mark runs k
  | k, .ask request next => .ask (request.mark (runs.asked k)) (next.mark runs (k + 1))
  | k, .issue tag next => .issue tag fun id => (next id).mark runs k
  | k, .enqueue command next => .enqueue command fun answer => (next answer).mark runs k
  | k, .act a next => .act a (next.mark runs k)

/-- The callback of a marked memory: it counts its run, and is mended if the run is in the set. -/
def marked (c : σ → Callback σ κ) (memory : Marked σ) : Callback (Marked σ) (Marked κ) :=
  .remember ⟨memory.value, memory.runs.later⟩ ((c memory.value).mark memory.runs 0)

end Callback

/-- The mode, where the runs in a set are mended. -/
def Mode.marked (runs : RunSet) (m : Mode σ κ) : Mode (Marked σ) (Marked κ) where
  id := m.id
  name := m.name
  priority := m.priority
  memory := ⟨m.memory, runs⟩
  table := m.table
  handlers := m.handlers.map fun handler memory switch =>
    Callback.marked (fun x => handler x switch) memory
  handled := by rw [List.length_map, m.handled]
  hook := fun h => Callback.marked (m.hook h)

/-- The game, where the runs in a set are mended. -/
def Game.marked (runs : RunSet) (g : Game σ κ) : Game (Marked σ) (Marked κ) where
  status := g.status
  banks := g.banks
  memory := ⟨g.memory, runs⟩
  hook := fun h => Callback.marked (g.hook h)

/-- The frame callback, where the runs in a set are mended. -/
def FrameHandler.marked (runs : RunSet) (f : FrameHandler σ κ) :
    FrameHandler (Marked σ) (Marked κ) where
  memory := ⟨f.memory, runs⟩
  run := Callback.marked f.run

/-- The sets of runs to be mended of all that has callbacks. Modes on the stack go by the number of
their arrival. -/
structure Marking where
  mode : Nat → RunSet
  game : RunSet
  frame : RunSet

/-- The machine, where the marked runs are mended. -/
def Machine.marked (marks : Marking) (m : Machine σ κ) : Machine (Marked σ) (Marked κ) where
  cabinet := m.cabinet
  settings := m.settings
  closed := m.closed
  engine :=
    { stack :=
        { slots := m.engine.stack.slots.map fun slot =>
            ⟨slot.seq, slot.mode.marked (marks.mode slot.seq)⟩
          nextSeq := m.engine.stack.nextSeq
          holds := m.engine.stack.holds
          faultCount := m.engine.stack.faultCount }
      game := m.engine.game.marked marks.game
      rules := m.engine.rules
      frameHandler := m.engine.frameHandler.map (FrameHandler.marked marks.frame)
      stats := m.engine.stats
      catalogue := fun kind id => (m.engine.catalogue kind.value id).marked kind.runs }

/-! ### Operations -/

/-- Something done with a machine from outside. -/
inductive Operation (σ κ : Type) where
  | processEvent (event : Event)
  | step
  | run (visits : List Visit)
  | addMode (mode : Mode σ κ)
  | removeMode (id : ModeId)
  | requestGame (request : GameRequest)
  | enableFlippers (enable : Bool)
  | reset
  /-- Set the frame callback. -/
  | onFrame (handler : FrameHandler σ κ)
  | close
  /-- Post a command. -/
  | enqueue (command : Command)
  /-- Have a new mode identity issued. -/
  | issue (tag : Option String)
  /-- An event arrives at the board, the clock moves on, a mishap is planned. -/
  | bench (act : BenchAct)
  | setClock (target : Span)

/-- What a machine answers to an operation. -/
inductive Answer where
  | silent
  | ended (outcome : Outcome Fault Unit)
  | told (outcome : Outcome Fault Bool)
  | reported (report : RunReport)
  | queued (result : Except QueueFull Unit)
  | issued (id : ModeId)

/-- Run a computation to its ending and answer with it. -/
def Machine.answering {α : Type} (answer : Outcome Fault α → Answer) (x : Machine.Step σ κ α)
    (m : Machine σ κ) : Answer × Machine σ κ :=
  match x m with
  | (o, m) => (answer o, m)

namespace Operation

/-- Carry an operation out. -/
def perform : Operation σ κ → Machine σ κ → Answer × Machine σ κ
  | .processEvent event, m => m.answering .ended (Machine.processEvent event)
  | .step, m => m.answering .ended Machine.step
  | .run visits, m =>
    match m.run visits with
    | (report, m) => (.reported report, m)
  | .addMode mode, m => m.answering .ended (Machine.addMode mode)
  | .removeMode id, m => m.answering .told (Machine.removeMode id)
  | .requestGame request, m => m.answering .ended (Machine.requestGame request)
  | .enableFlippers enable, m => m.answering .told (Machine.enableFlippers enable)
  | .reset, m => m.answering .ended Machine.reset
  | .onFrame handler, m =>
    (.silent, { m with engine := { m.engine with frameHandler := some handler } })
  | .close, m => (.silent, m.close)
  | .enqueue command, m =>
    match m.cabinet.enqueue command with
    | (result, cabinet) => (.queued result, { m with cabinet })
  | .issue tag, m =>
    match m.cabinet.ids.issue tag with
    | (id, ids) => (.issued id, { m with cabinet := { m.cabinet with ids } })
  | .bench act, m => (.silent, { m with cabinet := m.cabinet.perform act })
  | .setClock target, m =>
    (.silent, { m with cabinet := { m.cabinet with clock := m.cabinet.clock.set target } })

/-- The operation, where the runs in a set are mended of the callbacks that it brings. -/
def marked (runs : RunSet) : Operation σ κ → Operation (Marked σ) (Marked κ)
  | .processEvent event => .processEvent event
  | .step => .step
  | .run visits => .run visits
  | .addMode mode => .addMode (mode.marked runs)
  | .removeMode id => .removeMode id
  | .requestGame request => .requestGame request
  | .enableFlippers enable => .enableFlippers enable
  | .reset => .reset
  | .onFrame handler => .onFrame (handler.marked runs)
  | .close => .close
  | .enqueue command => .enqueue command
  | .issue tag => .issue tag
  | .bench act => .bench act
  | .setClock target => .setClock target

end Operation

/-- Carry operations out in turn, whatever they answer. -/
def Machine.performAll : List (Operation σ κ) → Machine σ κ → List Answer × Machine σ κ
  | [], m => ([], m)
  | op :: rest, m =>
    match op.perform m with
    | (answer, m) =>
      match performAll rest m with
      | (answers, m) => (answer :: answers, m)

/-! ### What is marked runs alike -/

/-- A memory that is marked is the same but for the marks. -/
abbrev Marked.Marks {α : Type} (a : α) (b : Marked α) : Prop := b.value = a

theorem Request.alike_mark (runs : RunSet) (r : Request κ) :
    r.Alike Marked.Marks (r.mark runs) := by
  cases r with
  | addMode id kind => exact .addMode id rfl
  | removeMode id => exact .removeMode id
  | game request => exact .game request
  | flippers enable => exact .flippers enable

/-- A run that is marked does what the run does. It is mended if it is in the set, and else ends in
the same way. -/
theorem Callback.follows_mark (c : Callback σ κ) (runs : RunSet) (k : Nat) (memory : σ) :
    Callback.Follows (fun o o' => o' = if runs.now then o.mended else o) Marked.Marks Marked.Marks
      c memory (c.mark runs k) ⟨memory, runs.later⟩ := by
  -- The memory changes at `remember` and the number of the next request at `ask`; the marks stay.
  induction c generalizing k memory with
  | done ending =>
    have hmemory : Marked.Marks memory ⟨memory, runs.later⟩ := rfl
    refine .done hmemory rfl ?_
    split
    · exact ending.faultIn?_mended
    · rfl
  | remember memory' next ih => exact .remember (ih k memory')
  | look next ih => exact .look fun v => ih v k memory
  | order o next ih => exact .order o fun answer => ih answer k memory
  | ask request next ih => exact .ask (request.alike_mark _) (ih (k + 1) memory)
  | issue tag next ih => exact .issue tag fun id => ih id k memory
  | enqueue command next ih => exact .enqueue command fun answer => ih answer k memory
  | act a next ih => exact .act a (ih k memory)

theorem Callback.follows_marked (c : σ → Callback σ κ) {x : σ} {x' : Marked σ}
    (h : Marked.Marks x x') :
    Callback.Follows Outcome.MendedTo Marked.Marks Marked.Marks (c x) x (Callback.marked c x')
      x' := by
  cases h
  refine .annotate (((c x'.value).follows_mark x'.runs 0 x'.value).mono fun o o' hend => ?_)
  rw [hend]
  split
  · exact o.mendedTo_mended
  · exact .same o

theorem Mode.twin_marked (runs : RunSet) (m : Mode σ κ) :
    m.Twin Marked.Marks Marked.Marks (m.marked runs) where
  id := rfl
  name := rfl
  priority := rfl
  memory := rfl
  table := rfl
  handlers := List.forall₂_map_right_iff.mpr <| List.forall₂_same.mpr fun handler _ _ _ switch h =>
    Callback.follows_marked (fun x => handler x switch) h
  hook := fun h _ _ hx => Callback.follows_marked (m.hook h) hx

theorem Game.twin_marked (runs : RunSet) (g : Game σ κ) :
    g.Twin Marked.Marks Marked.Marks (g.marked runs) :=
  ⟨rfl, rfl, rfl, fun h _ _ hx => Callback.follows_marked (g.hook h) hx⟩

theorem FrameHandler.twin_marked (runs : RunSet) (f : FrameHandler σ κ) :
    f.Twin Marked.Marks Marked.Marks (f.marked runs) :=
  ⟨rfl, fun _ _ hx => Callback.follows_marked f.run hx⟩

namespace Machine

theorem twin_marked (marks : Marking) (m : Machine σ κ) :
    m.Twin Marked.Marks Marked.Marks (m.marked marks) where
  cabinet := .refl _
  settings := rfl
  closed := rfl
  engine :=
    { stack :=
        { slots := List.forall₂_map_right_iff.mpr <| List.forall₂_same.mpr fun slot _ =>
            ⟨rfl, slot.mode.twin_marked _⟩
          nextSeq := rfl
          holds := rfl }
      game := m.engine.game.twin_marked _
      rules := rfl
      frameHandler := by
        simp only [Machine.marked]
        cases m.engine.frameHandler with
        | none => exact .none
        | some f => exact .some (f.twin_marked _)
      stats := rfl
      catalogue := by
        rintro kind kind' id rfl
        exact (m.engine.catalogue kind'.value id).twin_marked _ }

/-- Machines that are twins up to marks. -/
abbrev TwinMarked (m : Machine σ κ) (m' : Machine (Marked σ) (Marked κ)) : Prop :=
  m.Twin Marked.Marks Marked.Marks m'

theorem answering_alike {α : Type} (answer : Outcome Fault α → Answer) {x : Step σ κ α}
    {y : Step (Marked σ) (Marked κ) α} (hxy : Alike Marked.Marks Marked.Marks x y)
    {m : Machine σ κ} {m' : Machine (Marked σ) (Marked κ)} (h : m.TwinMarked m') :
    (m.answering answer x).1 = (m'.answering answer y).1 ∧
      (m.answering answer x).2.TwinMarked (m'.answering answer y).2 :=
  ⟨congrArg answer (hxy h).1.eq, (hxy h).2⟩

end Machine

/-- One operation: the same answer, and twins again. -/
theorem Operation.perform_alike (op : Operation σ κ) (runs : RunSet) {m : Machine σ κ}
    {m' : Machine (Marked σ) (Marked κ)} (h : m.TwinMarked m') :
    (op.perform m).1 = ((op.marked runs).perform m').1 ∧
      (op.perform m).2.TwinMarked ((op.marked runs).perform m').2 := by
  cases op with
  | processEvent event => exact Machine.answering_alike _ (Machine.alike_processEvent event) h
  | step => exact Machine.answering_alike _ Machine.alike_step h
  | run visits =>
    obtain ⟨hreport, hstate⟩ := Machine.alike_run visits h
    exact ⟨congrArg Answer.reported hreport, hstate⟩
  | addMode mode =>
    exact Machine.answering_alike _ (Machine.alike_addMode (mode.twin_marked runs)) h
  | removeMode id => exact Machine.answering_alike _ (Machine.alike_removeMode id) h
  | requestGame request => exact Machine.answering_alike _ (Machine.alike_requestGame request) h
  | enableFlippers enable => exact Machine.answering_alike _ (Machine.alike_enableFlippers enable) h
  | reset => exact Machine.answering_alike _ Machine.alike_reset h
  | onFrame handler =>
    exact ⟨rfl, h.withEngine (h.engine.withFrameHandler (.some (handler.twin_marked runs)))⟩
  | close => exact ⟨rfl, h.close⟩
  | enqueue command =>
    obtain ⟨hresult, hcabinet⟩ := h.cabinet.enqueue command
    exact ⟨congrArg Answer.queued hresult, h.withCabinet hcabinet⟩
  | issue tag =>
    have hids := congrArg (·.issue tag) h.cabinet.ids
    exact ⟨congrArg (fun p : ModeId × IdBook => Answer.issued p.1) hids,
      h.withCabinet (h.cabinet.withIds (congrArg Prod.snd hids))⟩
  | bench act => exact ⟨rfl, h.withCabinet (h.cabinet.perform act)⟩
  | setClock target =>
    exact ⟨rfl, h.withCabinet (h.cabinet.withClock (congrArg (·.set target) h.cabinet.clock))⟩

namespace Machine

/-- A run of operations: the same answers, and twins again. -/
theorem performAll_alike (operations : List (Operation σ κ × RunSet)) {m : Machine σ κ}
    {m' : Machine (Marked σ) (Marked κ)} (h : m.TwinMarked m') :
    (m.performAll (operations.map Prod.fst)).1 =
        (m'.performAll (operations.map fun op => op.1.marked op.2)).1 ∧
      (m.performAll (operations.map Prod.fst)).2.TwinMarked
        (m'.performAll (operations.map fun op => op.1.marked op.2)).2 := by
  induction operations generalizing m m' with
  | nil => exact ⟨rfl, h⟩
  | cons op rest ih =>
    obtain ⟨hanswer, hstate⟩ := op.1.perform_alike op.2 h
    obtain ⟨hanswers, hlast⟩ := ih hstate
    refine ⟨?_, hlast⟩
    simp only [List.map_cons, performAll]
    rw [hanswer, hanswers]

end Machine

/-- What there is to see of a mode on the stack. -/
def Slot.sight {ρ : Type} (read : σ → ρ) (slot : Slot σ κ) :
    Nat × ModeId × String × Int × BindingTable × ρ :=
  (slot.seq, slot.mode.id, slot.mode.name, slot.mode.priority, slot.mode.table,
    read slot.mode.memory)

/-- Apart from what is noted about failures, a machine and a marked one are the same. Besides the
callbacks themselves, only the counts of failed callbacks and the remarks on errors are left out. -/
structure Machine.SameButFaults (m : Machine σ κ) (m' : Machine (Marked σ) (Marked κ)) : Prop where
  switches : m'.cabinet.switches = m.cabinet.switches
  drivers : m'.cabinet.drivers = m.cabinet.drivers
  board : m'.cabinet.bench.board = m.cabinet.bench.board
  mishaps : m'.cabinet.bench.mishaps = m.cabinet.bench.mishaps
  closeFault : m'.cabinet.bench.closeFault = m.cabinet.bench.closeFault
  /-- The callbacks that have begun, in order, and what they saw. -/
  starts : m'.cabinet.bench.starts = m.cabinet.bench.starts
  /-- The journal without remarks on errors. -/
  record : m'.cabinet.bench.record = m.cabinet.bench.record
  clock : m'.cabinet.clock = m.cabinet.clock
  queue : m'.cabinet.queue = m.cabinet.queue
  stopRaised : m'.cabinet.stopRaised = m.cabinet.stopRaised
  ids : m'.cabinet.ids = m.cabinet.ids
  modes : m'.engine.stack.slots.map (Slot.sight Marked.value) =
    m.engine.stack.slots.map (Slot.sight id)
  nextSeq : m'.engine.stack.nextSeq = m.engine.stack.nextSeq
  holds : m'.engine.stack.holds = m.engine.stack.holds
  game : m'.engine.game.status = m.engine.game.status
  banks : m'.engine.game.banks = m.engine.game.banks
  gameMemory : m'.engine.game.memory.value = m.engine.game.memory
  rules : m'.engine.rules = m.engine.rules
  frameMemory : m'.engine.frameHandler.map (fun f => f.memory.value) =
    m.engine.frameHandler.map FrameHandler.memory
  /-- All counters but that of failed callbacks. -/
  stats : m'.engine.stats.withoutFaults = m.engine.stats.withoutFaults
  settings : m'.settings = m.settings
  closed : m'.closed = m.closed

theorem Bench.starts_of_record {b c : Bench} (h : b.record = c.record) : b.starts = c.starts := by
  have hstarts (d : Bench) : d.starts = d.record.filterMap Entry.start? := by
    simp only [starts, record, List.filterMap_filter]
    refine List.filterMap_congr fun e _ => ?_
    split
    · rfl
    · rename_i herror
      cases e with
      | remark severity text => rfl
      | note text => simp [Entry.isError] at herror
      | call c reply => simp [Entry.isError] at herror
      | began site glimpse => simp [Entry.isError] at herror
      | ended fault => simp [Entry.isError] at herror
  rw [hstarts, hstarts, h]

theorem ModeStack.sight_of_twin {as : List (Slot σ κ)} {bs : List (Slot (Marked σ) (Marked κ))}
    (h : TwinSlots Marked.Marks Marked.Marks as bs) :
    bs.map (Slot.sight Marked.value) = as.map (Slot.sight id) := by
  induction h with
  | nil => rfl
  | @cons a b as bs hab _ ih =>
    have hmemory : b.mode.memory.value = a.mode.memory := hab.mode.memory
    rw [List.map_cons, List.map_cons, ih, Slot.sight, Slot.sight, hab.seq, hab.mode.id,
      hab.mode.name, hab.mode.priority, hab.mode.table, hmemory]
    rfl

namespace Machine

theorem Twin.sameButFaults {m : Machine σ κ} {m' : Machine (Marked σ) (Marked κ)}
    (h : m.TwinMarked m') : m.SameButFaults m' where
  switches := h.cabinet.switches.symm
  drivers := h.cabinet.drivers.symm
  board := h.cabinet.bench.board.symm
  mishaps := h.cabinet.bench.mishaps.symm
  closeFault := h.cabinet.bench.closeFault.symm
  starts := (Bench.starts_of_record h.cabinet.bench.record).symm
  record := h.cabinet.bench.record.symm
  clock := h.cabinet.clock.symm
  queue := h.cabinet.queue.symm
  stopRaised := h.cabinet.stopRaised.symm
  ids := h.cabinet.ids.symm
  modes := ModeStack.sight_of_twin h.engine.stack.slots
  nextSeq := h.engine.stack.nextSeq.symm
  holds := h.engine.stack.holds.symm
  game := h.engine.game.status.symm
  banks := h.engine.game.banks.symm
  gameMemory := h.engine.game.memory
  rules := h.engine.rules.symm
  frameMemory := by
    have hframe := h.engine.frameHandler
    generalize m.engine.frameHandler = f at hframe ⊢
    generalize m'.engine.frameHandler = f' at hframe ⊢
    cases hframe with
    | none => rfl
    | some htwin => exact congrArg some htwin.memory
  stats := h.engine.stats.symm
  settings := h.settings.symm
  closed := h.closed.symm

/-- Failing callbacks cannot change the machine. Mend any set of runs of callbacks, of those on the
stack and of those that come with operations or are asked for later on: whatever is done with the
machine, every operation has the same answer, the same callbacks begin, and in the end everything is
the same but for what is noted about failures. -/
theorem mended_runs_alike (m : Machine σ κ) (marks : Marking)
    (operations : List (Operation σ κ × RunSet)) :
    ((m.marked marks).performAll (operations.map fun op => op.1.marked op.2)).1 =
        (m.performAll (operations.map Prod.fst)).1 ∧
      (m.performAll (operations.map Prod.fst)).2.SameButFaults
        ((m.marked marks).performAll (operations.map fun op => op.1.marked op.2)).2 := by
  obtain ⟨hanswers, hlast⟩ := performAll_alike operations (m.twin_marked marks)
  exact ⟨hanswers.symm, hlast.sameButFaults⟩

/-- A mode that panics whenever it is called. -/
def brokenMode : Mode Unit Empty where
  id := ⟨0⟩
  name := "broken"
  priority := 0
  memory := ()
  hook := fun _ _ => .done (.panic "broken")

/-- A machine where the mode joins and two passes are made, and some runs of the mode are mended. -/
def brokenMachine (runs : RunSet) : Machine (Marked Unit) (Marked Empty) :=
  let m : Machine Unit Empty :=
    { cabinet := {}
      settings := {}
      engine :=
        { stack := .empty default
          game := .new 3 () fun _ _ => .idle
          rules := default
          catalogue := fun kind => kind.elim } }
  let never : RunSet := fun _ => false
  ((m.marked ⟨fun _ => never, never, never⟩).performAll
    [(Operation.addMode brokenMode).marked runs, .step, .step]).2

/-- Three callbacks fail, and one less if the pass hook is mended in the first pass. -/
example : (brokenMachine fun _ => false).engine.stack.faultCount = 3 ∧
    (brokenMachine fun path => path == [1]).engine.stack.faultCount = 2 := by
  decide +kernel

end Machine

end Playfield
