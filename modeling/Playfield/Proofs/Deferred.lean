import Playfield.Proofs.Points

/-!
# Posted commands

A pass takes the whole queue once, when all its callbacks have run, and carries the commands out one
by one. Meanwhile anyone else may post: between any two parts of a pass, and while a callback runs,
which is as if the callback posted. A `Session` keeps the record of what is accepted, taken and
tried. In every session commands are neither lost nor doubled nor reordered
(`Session.commands_in_order`).
-/
namespace Playfield

/-! ### Sessions -/

/-- Commands that were taken from the queue together. -/
structure Batch where
  taken : List Command := []
  /-- Those of them that were tried, in order. -/
  tried : List Command := []
  /-- The last one that was tried did not go well. -/
  cut : Bool := false

/-- The batch after one more command has been tried. -/
def Batch.attempt {α : Type} (b : Batch) (c : Command) (ending : Outcome Fault α) : Batch :=
  { b with
    tried := b.tried ++ [c]
    cut := match ending with
      | .ok _ => false
      | _ => true }

/-- A machine that runs while others post, with the record of what became of the commands. -/
structure Session (σ κ : Type) where
  machine : Machine σ κ
  point : Point := .ready
  /-- What has been accepted so far, in order. -/
  accepted : List Command := []
  /-- The batches before the last one. -/
  done : List Batch := []
  /-- The batch that was taken last. -/
  last : Batch := {}

/-- The operation runs passes. -/
def Operation.passes {σ κ : Type} : Operation σ κ → Bool
  | .step | .run _ => true
  | _ => false

/-- What happens next in a session. -/
inductive Move (σ κ : Type) where
  /-- Someone else posts a command. -/
  | post (c : Command)
  /-- The pass goes on. A machine between passes begins one. -/
  | go
  /-- Something else is done with a machine between passes. -/
  | perform (op : Operation σ κ) (apart : op.passes = false)

namespace Session
variable {σ κ : Type}

/-- The queue of the machine. -/
abbrev queue (s : Session σ κ) : CommandQueue := s.machine.cabinet.queue

/-- All batches that were taken so far. -/
def batches (s : Session σ κ) : List Batch := s.done ++ [s.last]

/-- What the queue of a machine has grown by. -/
def grown (m m' : Machine σ κ) : List Command :=
  m'.cabinet.queue.commands.drop m.cabinet.queue.size

def post (c : Command) (s : Session σ κ) : Session σ κ :=
  match s.machine.cabinet.enqueue c with
  | (.ok (), cabinet) =>
    { s with machine := { s.machine with cabinet }, accepted := s.accepted ++ [c] }
  | (.error _, cabinet) => { s with machine := { s.machine with cabinet } }

def go (s : Session σ κ) : Session σ κ :=
  match s.point.go s.machine with
  | (ending, machine) =>
    let point := Point.after ending
    match s.point with
    | .drain _ =>
      { s with machine, point, done := s.batches, last := { taken := s.queue.commands } }
    | .commands (c :: _) _ => { s with machine, point, last := s.last.attempt c ending }
    | _ => { s with machine, point, accepted := s.accepted ++ grown s.machine machine }

def perform (op : Operation σ κ) (s : Session σ κ) : Session σ κ :=
  if s.point = .ready then
    let m := (op.perform s.machine).2
    { s with machine := m, accepted := s.accepted ++ grown s.machine m }
  else s

def move (s : Session σ κ) : Move σ κ → Session σ κ
  | .post c => s.post c
  | .go => s.go
  | .perform op _ => s.perform op

/-- A session of a machine that is between passes. -/
def of (m : Machine σ κ) (moves : List (Move σ κ)) : Session σ κ :=
  moves.foldl move { machine := m }

end Session

/-! ### What is done between passes -/

namespace Operation
variable {σ κ : Type}

/-- What is done with a machine between passes only posts, and carries no posted command out. -/
theorem apart_perform {op : Operation σ κ} (apart : op.passes = false) (m : Machine σ κ) :
    m.Feeds (op.perform m).2 ∧ (op.perform m).2.deferred = m.deferred := by
  have inContext {α : Type} {body : Engine.Step σ κ α} (hfeeds : body.Within Engine.Feeds)
      (hkeeps : body.Keeps Engine.books) (now : Span) :
      m.Feeds (Machine.inContext now body m).2 ∧
        (Machine.inContext now body m).2.deferred = m.deferred :=
    ⟨Machine.feeds_inContext now hfeeds m,
      Machine.keeps_deferred_inContext now (Engine.keeps_deferred hkeeps) m⟩
  have same {m' : Machine σ κ} (hqueue : m'.cabinet.queue = m.cabinet.queue)
      (hdeferred : m'.deferred = m.deferred) : m.Feeds m' ∧ m'.deferred = m.deferred :=
    ⟨Machine.feeds_of_eq hqueue, hdeferred⟩
  cases op with
  | step => exact nomatch apart
  | run visits => exact nomatch apart
  | processEvent event =>
    exact ⟨Machine.feeds_handleEvent event m.now m,
      Machine.keeps_deferred_handleEvent event m.now m⟩
  | addMode mode =>
    exact inContext (Engine.feeds_onStack (ModeStack.feeds_add mode))
      (Engine.keeps_books_onStack fun s => (ModeStack.calm_add mode s).scene.switches) m.now
  | removeMode id =>
    exact inContext (Engine.feeds_onStack (ModeStack.feeds_remove id))
      (Engine.keeps_books_onStack fun s => (ModeStack.calm_remove id s).scene.switches) m.now
  | requestGame request =>
    exact inContext (Engine.feeds_apply _) (Engine.keeps_books_apply _) m.now
  | reset =>
    have hfeeds : (Machine.reset : Machine.Step σ κ Unit).Within Machine.Feeds :=
      .bind (fun _ => Machine.feeds_of_eq rfl) fun _ => .bind .get fun m =>
        .bind (Machine.feeds_inContext m.now (Engine.feeds_onStack ModeStack.feeds_clear)) fun _ =>
        .bind (fun _ => Machine.feeds_of_eq rfl) fun _ =>
        .bind (fun _ => Machine.feeds_of_eq rfl) fun _ => .pure ()
    have hkeeps : (Machine.reset : Machine.Step σ κ Unit).Keeps Machine.deferred :=
      .bind (fun _ => rfl) fun _ => .bind .get fun m =>
        .bind (Machine.keeps_deferred_inContext m.now (Engine.keeps_deferred
          (Engine.keeps_books_onStack fun s => (ModeStack.calm_clear s).scene.switches))) fun _ =>
        .bind (fun _ => rfl) fun _ => .bind (fun _ => rfl) fun _ => .pure ()
    exact ⟨hfeeds m, hkeeps m⟩
  | close =>
    have hclose : m.close.cabinet.queue = m.cabinet.queue ∧ m.close.deferred = m.deferred := by
      simp only [Machine.close]
      split
      · exact ⟨rfl, rfl⟩
      · split <;> exact ⟨rfl, rfl⟩
    exact same hclose.1 hclose.2
  | enqueue command => exact ⟨m.cabinet.fed_enqueue command, rfl⟩
  | bench act => exact same (m.cabinet.queue_perform act) rfl
  | enableFlippers | onFrame | issue | setClock => exact same rfl rfl

end Operation

/-! ### What a session keeps -/

namespace Cabinet
variable {c : Cabinet}

/-- At capacity a post is refused, and changes nothing. -/
theorem enqueue_full (h : c.queue.capacity ≤ c.queue.size) (command : Command) :
    c.enqueue command = (.error ⟨c.queue.capacity⟩, c) := by
  simp only [enqueue, CommandQueue.enqueue, h, if_true]

/-- Below capacity a post is accepted, and comes last. -/
theorem enqueue_room (h : c.queue.size < c.queue.capacity) (command : Command) :
    c.enqueue command = (.ok (), { c with
      queue := { c.queue with commands := c.queue.commands ++ [command] } }) := by
  simp only [enqueue, CommandQueue.enqueue, Nat.not_le.mpr h, if_false]

end Cabinet

namespace Session
variable {σ κ : Type}

/-- What holds of the record of a session that began with a machine. -/
structure Kept (m₀ : Machine σ κ) (s : Session σ κ) : Prop where
  capacity : s.queue.capacity = m₀.cabinet.queue.capacity
  size : m₀.cabinet.queue.size ≤ m₀.cabinet.queue.capacity → s.queue.size ≤ s.queue.capacity
  order : s.batches.flatMap Batch.taken ++ s.queue.commands =
    m₀.cabinet.queue.commands ++ s.accepted
  tried : ∀ b ∈ s.batches, b.tried <+: b.taken
  whole : ∀ b ∈ s.done, b.cut = false → b.tried = b.taken
  /-- Of the last batch just what comes next has not been tried, unless a command failed. -/
  here : match s.point with
    | .commands rest _ => s.last.tried ++ rest = s.last.taken ∧ s.last.cut = false
    | _ => s.last.cut = false → s.last.tried = s.last.taken
  counted : s.machine.deferred =
    m₀.deferred + (s.batches.flatMap Batch.tried).length
  time : ∀ now, s.point.time? = some now → ∃ clock : Clock, now = clock.now

namespace Kept
variable {m₀ : Machine σ κ} {s : Session σ κ}

theorem start (m₀ : Machine σ κ) : Kept m₀ { machine := m₀ } where
  capacity := rfl
  size h := h
  order := (List.append_nil _).symm
  tried := List.forall_mem_singleton.mpr List.prefix_rfl
  whole := List.forall_mem_nil _
  here _ := rfl
  counted := rfl
  time _ h := nomatch h

/-- What only posts leaves the record in order, if what the queue has grown by is noted. -/
theorem fed (h : s.Kept m₀) {machine : Machine σ κ} (feeds : s.machine.Feeds machine)
    (deferred : machine.deferred = s.machine.deferred) {point : Point}
    (here : match point with
      | .commands rest _ => s.last.tried ++ rest = s.last.taken ∧ s.last.cut = false
      | _ => s.last.cut = false → s.last.tried = s.last.taken)
    (time : ∀ now, point.time? = some now → ∃ clock : Clock, now = clock.now) :
    Kept m₀ { s with machine, point, accepted := s.accepted ++ grown s.machine machine } where
  capacity := feeds.capacity.trans h.capacity
  size hfits := feeds.size_le (h.size hfits)
  order := by
    have hgrown : machine.cabinet.queue.commands = s.queue.commands ++ grown s.machine machine :=
      feeds.commands
    rw [← List.append_assoc, ← h.order, List.append_assoc, ← hgrown]
    rfl
  tried := h.tried
  whole := h.whole
  here := here
  counted := deferred.trans h.counted
  time := time

theorem post (h : s.Kept m₀) (c : Command) : (s.post c).Kept m₀ := by
  let posted : Machine σ κ := { s.machine with cabinet := (s.machine.cabinet.enqueue c).2 }
  have hfeeds : s.machine.Feeds posted := s.machine.cabinet.fed_enqueue c
  have hfed := h.fed hfeeds rfl h.here h.time
  simp only [posted] at hfed
  simp only [Session.post]
  by_cases hfull : s.queue.capacity ≤ s.queue.size
  · have hrefused := Cabinet.enqueue_full hfull c
    rw [hrefused] at hfed ⊢
    have hnone : grown s.machine { s.machine with cabinet := s.machine.cabinet } = [] :=
      List.drop_length
    rw [hnone, List.append_nil] at hfed
    exact hfed
  · have haccepted := Cabinet.enqueue_room (Nat.lt_of_not_le hfull) c
    rw [haccepted] at hfed ⊢
    have hone : grown s.machine { s.machine with cabinet := { s.machine.cabinet with
        queue := { s.queue with commands := s.queue.commands ++ [c] } } } = [c] :=
      List.drop_left
    rw [hone] at hfed
    exact hfed

theorem perform (h : s.Kept m₀) {op : Operation σ κ} (apart : op.passes = false) :
    (s.perform op).Kept m₀ := by
  simp only [Session.perform]
  split
  · obtain ⟨hfeeds, hdeferred⟩ := Operation.apart_perform apart s.machine
    exact h.fed hfeeds hdeferred h.here h.time
  · exact h

/-- Where the part that comes next leads, the time of the pass is still one of a clock. -/
theorem time_after (h : s.Kept m₀) :
    ∀ now, (Point.after (s.point.go s.machine).1).time? = some now →
      ∃ clock : Clock, now = clock.now := by
  rcases hgo : s.point.go s.machine with ⟨ending, m⟩
  have hold := h.time
  cases ending with
  | error f => exact fun _ hnow => nomatch hnow
  | panic message => exact fun _ hnow => nomatch hnow
  | ok q =>
    have hleads := Point.go_ok hgo
    revert hold
    generalize s.point = p at hleads
    cases hleads with
    | poll es clock =>
      intro _ now hnow
      exact ⟨clock, (Option.some.inj hnow).symm⟩
    | lastCommand | tickle | finish => exact fun _ _ hnow => nomatch hnow
    | _ => exact fun hold => hold

/-- Unless a command comes next, the last batch has been tried as a whole or was cut. -/
theorem last_whole (h : s.Kept m₀) (other : ∀ c rest now, s.point ≠ .commands (c :: rest) now) :
    s.last.cut = false → s.last.tried = s.last.taken := by
  have hhere := h.here
  split at hhere
  · rename_i rest now hpoint
    cases rest with
    | nil => exact fun _ => (List.append_nil _).symm.trans hhere.1
    | cons c rest => exact absurd hpoint (other c rest now)
  · exact hhere

/-- The queue is taken: what waited is the last batch, and the one before was done with. -/
theorem go_drain (h : s.Kept m₀) {now : Span} (hpoint : s.point = .drain now) :
    s.go.Kept m₀ := by
  have hqueue := Point.queue_go_drain now s.machine
  have hdeferred := Point.keeps_deferred_go (p := .drain now) (fun _ _ _ => nofun) s.machine
  have hlast := h.last_whole (by simp [hpoint])
  have hgo : s.go = { s with
      machine := (Point.go (.drain now) s.machine).2
      point := .commands s.queue.commands now
      done := s.batches
      last := { taken := s.queue.commands } } := by
    simp only [Session.go, hpoint, hqueue.2]
    rfl
  have htime := h.time now (by rw [hpoint]; rfl)
  rw [hgo]
  refine ⟨?_, fun _ => ?_, ?_, ?_, ?_, ⟨rfl, rfl⟩, ?_, ?_⟩
  · exact (congrArg CommandQueue.capacity hqueue.1).trans h.capacity
  · rw [queue, hqueue.1]
    exact Nat.zero_le _
  · have hcontent : (Point.go (.drain now) s.machine).2.cabinet.queue.commands = [] :=
      congrArg CommandQueue.commands hqueue.1
    change (s.batches ++ [(⟨s.queue.commands, [], false⟩ : Batch)]).flatMap Batch.taken ++
      (Point.go (.drain now) s.machine).2.cabinet.queue.commands =
        m₀.cabinet.queue.commands ++ s.accepted
    rw [hcontent, ← h.order, List.flatMap_append, List.flatMap_singleton, List.append_nil]
  · exact List.forall_mem_append.mpr ⟨h.tried, List.forall_mem_singleton.mpr List.nil_prefix⟩
  · exact List.forall_mem_append.mpr ⟨h.whole, List.forall_mem_singleton.mpr hlast⟩
  · refine hdeferred.trans (h.counted.trans ?_)
    simp [batches]
  · intro now' hnow
    cases hnow
    exact htime

/-- A command is tried: the next one of the last batch. -/
theorem go_command (h : s.Kept m₀) {c : Command} {rest : List Command} {now : Span}
    (hpoint : s.point = .commands (c :: rest) now) : s.go.Kept m₀ := by
  obtain ⟨hmachine, hending⟩ := Point.go_commands c rest now s.machine
  have hqueue := Machine.queue_carryOut now c s.machine
  have hdeferred := Machine.deferred_carryOut now c s.machine
  have htime := h.time_after
  have hhere := h.here
  simp only [hpoint] at hhere
  obtain ⟨hsplit, -⟩ := hhere
  have hgo : s.go = { s with
      machine := (Machine.carryOut now c s.machine).2
      point := Point.after (s.point.go s.machine).1
      last := s.last.attempt c (s.point.go s.machine).1 } := by
    simp only [Session.go, hpoint, hmachine]
  have hnext : s.last.tried ++ [c] ++ rest = s.last.taken := by
    rw [List.append_assoc]
    exact hsplit
  rw [hgo]
  refine ⟨?_, fun hfits => ?_, ?_, ?_, h.whole, ?_, ?_, htime⟩
  · rw [queue, hqueue]
    exact h.capacity
  · rw [queue, hqueue]
    exact h.size hfits
  · rw [queue, hqueue, ← h.order, batches, batches, List.flatMap_append, List.flatMap_append]
    rfl
  · have hdone := (List.forall_mem_append.mp h.tried).1
    exact List.forall_mem_append.mpr
      ⟨hdone, List.forall_mem_singleton.mpr ⟨rest, hnext⟩⟩
  · rw [hpoint, hending]
    cases (Machine.carryOut now c s.machine).1 with
    | ok a => exact ⟨hnext, rfl⟩
    | error f => exact fun hcut => nomatch hcut
    | panic message => exact fun hcut => nomatch hcut
  · refine hdeferred.trans ?_
    rw [h.counted]
    simp [batches, Batch.attempt, Nat.add_assoc]

theorem go (h : s.Kept m₀) : s.go.Kept m₀ := by
  by_cases hdrain : ∃ now, s.point = .drain now
  · obtain ⟨now, hpoint⟩ := hdrain
    exact h.go_drain hpoint
  by_cases hcommand : ∃ c rest now, s.point = .commands (c :: rest) now
  · obtain ⟨c, rest, now, hpoint⟩ := hcommand
    exact h.go_command hpoint
  -- Any other part only posts.
  have hother : ∀ c rest now, s.point ≠ .commands (c :: rest) now := fun c rest now hpoint =>
    hcommand ⟨c, rest, now, hpoint⟩
  have hposts : ∀ now, s.point ≠ .drain now := fun now hpoint => hdrain ⟨now, hpoint⟩
  have hgo : s.go = { s with
      machine := (s.point.go s.machine).2
      point := Point.after (s.point.go s.machine).1
      accepted := s.accepted ++ grown s.machine (s.point.go s.machine).2 } := by
    simp only [Session.go]
  rw [hgo]
  refine h.fed (Point.feeds_go hposts s.machine) (Point.keeps_deferred_go hother s.machine) ?_
    h.time_after
  have hlast := h.last_whole hother
  rcases hending : s.point.go s.machine with ⟨ending, m⟩
  cases ending with
  | error f => exact hlast
  | panic message => exact hlast
  | ok q =>
    have hleads := Point.go_ok hending
    revert hother hposts
    generalize s.point = p at hleads
    cases hleads with
    | drain taken now => exact fun _ hposts => absurd rfl (hposts now)
    | command c rest now => exact fun hother => absurd rfl (hother c rest now)
    | _ => exact fun _ _ => hlast

theorem move (h : s.Kept m₀) (move : Move σ κ) : (s.move move).Kept m₀ := by
  cases move with
  | post c => exact h.post c
  | go => exact h.go
  | perform op apart => exact h.perform apart

theorem moves (h : s.Kept m₀) (moves : List (Move σ κ)) : (moves.foldl Session.move s).Kept m₀ := by
  induction moves generalizing s with
  | nil => exact h
  | cons move rest ih => exact ih (h.move move)

theorem of_moves (m : Machine σ κ) (moves : List (Move σ κ)) : Kept m (of m moves) :=
  (start m).moves moves

end Kept

/-- A session that began with a machine has lost, doubled and reordered no command, and will not
with its next move. -/
structure InOrder (m₀ : Machine σ κ) (s : Session σ κ) : Prop where
  capacity : s.queue.capacity = m₀.cabinet.queue.capacity
  /-- The queue never exceeds its capacity. -/
  size : m₀.cabinet.queue.size ≤ m₀.cabinet.queue.capacity → s.queue.size ≤ s.queue.capacity
  /-- A post is refused at capacity, and then changes nothing. -/
  refused : s.queue.capacity ≤ s.queue.size → ∀ c,
    s.machine.cabinet.enqueue c = (.error ⟨s.queue.capacity⟩, s.machine.cabinet)
  /-- Below capacity it is accepted, and comes last. -/
  accepted : s.queue.size < s.queue.capacity → ∀ c,
    s.machine.cabinet.enqueue c = (.ok (), { s.machine.cabinet with
      queue := { s.queue with commands := s.queue.commands ++ [c] } })
  /-- What was taken, batch by batch, and what waits is what was accepted, in that order. -/
  order : s.batches.flatMap Batch.taken ++ s.queue.commands =
    m₀.cabinet.queue.commands ++ s.accepted
  /-- The parts of a pass come one after another, -/
  leads : ∀ q m, s.point.go s.machine = (.ok q, m) → s.point.Leads q
  /-- and all that those do to the queue is to post, but for the one that takes it. -/
  feeds : (∀ now, s.point ≠ .drain now) → ∃ posts,
    (s.point.go s.machine).2.cabinet.queue = s.queue.offerAll posts
  /-- That one takes the whole queue, -/
  drain : ∀ now, s.point = .drain now →
    (s.point.go s.machine).1 = .ok (.commands s.queue.commands now) ∧
      (s.point.go s.machine).2.cabinet.queue = { s.queue with commands := [] }
  /-- and from there to the end of the pass no callback begins. -/
  late : s.point.IsLate →
    (s.point.go s.machine).2.cabinet.bench.starts = s.machine.cabinet.bench.starts
  /-- To try a command is to have the driver bank obey it. -/
  attempt : ∀ c rest now, s.point = .commands (c :: rest) now →
    (s.point.go s.machine).2.cabinet.drivers =
      (DriverBank.obey c.order now (s.machine.cabinet.drivers, s.machine.cabinet.bench)).2.1
  /-- A command for an unknown driver is skipped. -/
  unknown : ∀ c rest now, s.point = .commands (c :: rest) now →
    s.machine.cabinet.drivers.find? c.order.driver = none →
    s.point.go s.machine = (.ok (.commands rest now), { s.machine with
      engine := { s.machine.engine with stats := { s.machine.engine.stats with
        deferredCommands := s.machine.deferred + 1 } }
      cabinet := { s.machine.cabinet with
        bench := s.machine.cabinet.bench.remark .warn
          ("deferred command for unknown driver '" ++ c.order.driver ++ "'") } })
  /-- Unless the board fails, the next command's turn comes. -/
  failed : ∀ c rest now, s.point = .commands (c :: rest) now → c.Fits →
    (s.point.go s.machine).2.cabinet.bench.FailedBy (s.point.go s.machine).1
  /-- Of each batch the commands were tried from the first on, each once, -/
  tried : ∀ b ∈ s.batches, b.tried <+: b.taken
  /-- all of them, unless one failed, -/
  whole : ∀ b ∈ s.done, b.cut = false → b.tried = b.taken
  /-- and of the last batch all but those whose turn is still to come. -/
  here : match s.point with
    | .commands rest _ => s.last.tried ++ rest = s.last.taken ∧ s.last.cut = false
    | _ => s.last.cut = false → s.last.tried = s.last.taken
  /-- Those that were tried are counted. -/
  counted : s.machine.deferred = m₀.deferred + (s.batches.flatMap Batch.tried).length

/-- Posted commands are carried out in order: none is lost, doubled or reordered, whoever posts them
and whenever, and a pass is made of the parts between which a session lets them be posted. -/
theorem commands_in_order (m₀ : Machine σ κ) (moves : List (Move σ κ)) :
    ((Machine.step : Machine.Step σ κ Unit) = Point.ready.go >>= Point.remainder ∧
      ∀ p : Point, p ≠ .ready →
        (p.remainder : Machine.Step σ κ Unit) = p.go >>= Point.remainder) ∧
      InOrder m₀ (of m₀ moves) := by
  refine ⟨⟨Point.step_eq, fun _ h => Point.remainder_eq h⟩, ?_⟩
  have h := Kept.of_moves m₀ moves
  generalize of m₀ moves = s at h
  exact {
    capacity := h.capacity
    size := h.size
    refused := Cabinet.enqueue_full
    accepted := Cabinet.enqueue_room
    order := h.order
    leads := fun _ _ => Point.go_ok
    feeds := fun hpoint => Point.feeds_go hpoint s.machine
    drain := fun now hpoint => hpoint ▸ (Point.queue_go_drain now s.machine).symm
    late := fun hpoint => congrArg (fun kept => kept.2.2) (Point.keeps_starts_go hpoint s.machine)
    attempt := fun c rest now hpoint => by
      rw [hpoint, (Point.go_commands c rest now s.machine).1]
      exact Machine.drivers_carryOut now c s.machine
    unknown := fun c rest now hpoint hunknown => by
      rw [hpoint, Point.go, Act.bind_apply, Machine.carryOut_unknown hunknown]
      rfl
    failed := fun c rest now hpoint hfits => by
      obtain ⟨clock, rfl⟩ := h.time now (by rw [hpoint]; rfl)
      obtain ⟨hmachine, hending⟩ := Point.go_commands c rest clock.now s.machine
      have hfailed := Machine.carryOut_ending hfits clock s.machine
      rw [hpoint, hmachine, hending]
      cases hcarry : (Machine.carryOut clock.now c s.machine).1 with
      | ok a => trivial
      | error f => rw [hcarry] at hfailed; exact hfailed
      | panic message => rw [hcarry] at hfailed; exact hfailed
    tried := h.tried
    whole := h.whole
    here := h.here
    counted := h.counted }

end Session

end Playfield
