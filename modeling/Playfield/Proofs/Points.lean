import Playfield.Proofs.Books
import Playfield.Proofs.Posts

/-!
# The parts of a pass

Others may post between any two parts of a pass. `Point` says where in a pass a machine stands, and
`Point.go` is the part that comes next. Passes are made of these parts (`Point.step_eq`), in one
order (`Point.go_ok`). One part takes the whole queue (`Point.queue_go_drain`), the ones after it
carry the commands out one by one (`Machine.carryOut_eq`), and all others only post
(`Point.feeds_go`).
-/
namespace Playfield

/-- Where a machine stands in a pass. -/
inductive Point where
  /-- Between passes. -/
  | ready
  | events (rest : List Event) (now : Span)
  /-- Pass hooks and held handlers come next. -/
  | hooks (now : Span)
  | drivers (now : Span)
  | drain (now : Span)
  | commands (rest : List Command) (now : Span)
  | tickle
  | finish
  deriving DecidableEq

namespace Point
variable {σ κ : Type}

/-- The part of a pass that comes next, and the point it leads to if it goes well. -/
def go : Point → Machine.Step σ κ Point
  | .ready => do
    let m ← .get
    let events ← Machine.onCabinet (Cabinet.onBench (Bench.poll m.settings.includeFrameEvents))
    let now ← .gets Machine.now
    return .events events now
  | .events [] now => return .hooks now
  | .events (e :: rest) now => do
    Machine.handleEvent e now
    return .events rest now
  | .hooks now => do
    Machine.inContext now Engine.tick
    return .drivers now
  | .drivers now => do
    Machine.onCabinet (Cabinet.onDrivers (DriverBank.tick now))
    return .drain now
  | .drain now => do
    let taken ← fun m =>
      match m.cabinet.queue.drain with
      | (taken, queue) => (.ok taken, { m with cabinet := { m.cabinet with queue } })
    if !taken.isEmpty then
      Machine.log .trace ("applying " ++ toString taken.length ++ " deferred command(s)")
    return .commands taken now
  | .commands [] _ => return .tickle
  | .commands (c :: rest) now => do
    Machine.carryOut now c
    return .commands rest now
  | .tickle => do
    Machine.onCabinet (Cabinet.onBench Bench.tickle)
    return .finish
  | .finish => do
    Machine.count fun s => { s with iterations := s.iterations + 1 }
    return .ready

/-- The end of a pass, from the watchdog on. -/
def closing : Machine.Step σ κ Unit := do
  Machine.onCabinet (Cabinet.onBench Bench.tickle)
  Machine.count fun s => { s with iterations := s.iterations + 1 }

/-- What is left of a pass, if nobody comes between. -/
def remainder : Point → Machine.Step σ κ Unit
  | .ready => return ()
  | .events es now => do
    Act.each (fun event => Machine.handleEvent event now) es
    Machine.inContext now Engine.tick
    Machine.onCabinet (Cabinet.onDrivers (DriverBank.tick now))
    Machine.drainCommands now
    closing
  | .hooks now => do
    Machine.inContext now Engine.tick
    Machine.onCabinet (Cabinet.onDrivers (DriverBank.tick now))
    Machine.drainCommands now
    closing
  | .drivers now => do
    Machine.onCabinet (Cabinet.onDrivers (DriverBank.tick now))
    Machine.drainCommands now
    closing
  | .drain now => do
    Machine.drainCommands now
    closing
  | .commands cs now => do
    Act.each (Machine.carryOut now) cs
    closing
  | .tickle => closing
  | .finish => Machine.count fun s => { s with iterations := s.iterations + 1 }

/-- A pass is its first part and what is left then. -/
theorem step_eq : (Machine.step : Machine.Step σ κ Unit) = Point.ready.go >>= remainder := by
  simp only [Machine.step, go, Act.bind_assoc, Act.pure_bind, remainder, closing]

/-- What is left of a pass is its next part and what is left after that. -/
theorem remainder_eq {p : Point} (h : p ≠ .ready) :
    (p.remainder : Machine.Step σ κ Unit) = p.go >>= remainder := by
  cases p with
  | ready => exact absurd rfl h
  | events es now =>
    cases es with
    | nil => rfl
    | cons e rest => simp only [go, remainder, Act.each_cons, Act.bind_assoc, Act.pure_bind]
  | commands cs now =>
    cases cs with
    | nil => rfl
    | cons c rest => simp only [go, remainder, Act.each_cons, Act.bind_assoc, Act.pure_bind]
  | drain now =>
    funext m
    obtain ⟨⟨_, _, _, _, ⟨taken, _⟩, _, _⟩, _, _, _⟩ := m
    cases taken with
    | nil => rfl
    | cons c rest => rfl
  | finish => exact (Act.bind_pure_unit _).symm
  | hooks | drivers | tickle =>
    simp only [go, remainder, closing, Act.bind_assoc, Act.pure_bind]

/-- Where a machine stands when a part has ended. A part that fails ends its pass. -/
def after : Outcome Fault Point → Point
  | .ok p => p
  | _ => .ready

end Point

/-! ### Carrying a command out -/

namespace Bench

/-- If a call to the board failed, it was the last thing on the bench, and failed in that way. -/
def FailedBy {α : Type} (ending : Outcome Fault α) (b : Bench) : Prop :=
  match ending with
  | .ok _ => True
  | .error f => ∃ call, b.journal.back? = some (.call (.drive call) (.fault f))
  | .panic _ => ∃ call, b.journal.back? = some (.call (.drive call) .panicked)

theorem failedBy_drive (c : DriverCall) (b : Bench) : (drive c b).2.FailedBy (drive c b).1 := by
  have hrun (b : Bench) : (call.run (.drive c) (fun _ => .done) (Board.drive c) b).2.FailedBy
      (call.run (.drive c) (fun _ => .done) (Board.drive c) b).1 := by
    simp only [call.run]
    split
    · trivial
    · exact ⟨c, Array.back?_push⟩
    · exact ⟨c, Array.back?_push⟩
  simp only [drive, call]
  split
  · exact ⟨c, Array.back?_push⟩
  · exact hrun _
  · exact hrun _

end Bench

namespace Driver

theorem failedBy_send (c : DriverCall) (f : Driver → Driver) (s : Driver × Bench) :
    (send c f s).2.2.FailedBy (send c f s).1 := by
  have hdrive := Bench.failedBy_drive c s.2
  simp only [send]
  split <;> rename_i h <;> rw [h] at hdrive <;> exact hdrive

/-- A pulse whose end there is fails only with the board. -/
theorem failedBy_pulse {ms : Nat} {now : Span} (ends : (now.add? (.ofMillis ms)).isSome = true)
    (s : Driver × Bench) : (pulse ms now s).2.2.FailedBy (pulse ms now s).1 := by
  obtain ⟨t, ht⟩ := Option.isSome_iff_exists.mp ends
  obtain ⟨d, b⟩ := s
  by_cases hms : ms = 0
  · have hpulse : pulse ms now (d, b) = send (.pulse d.number ms)
        (fun d => { d with schedule := none }.enter .held now) (d, b) := if_pos hms
    rw [hpulse]
    exact failedBy_send _ _ _
  · have hpulse : pulse ms now (d, b) = send (.pulse d.number ms)
        (fun d => { d with schedule := none }.enter (.pulsing t) now) (d, b) := by
      simp only [pulse, hms, ht, if_false]
    rw [hpulse]
    exact failedBy_send _ _ _

end Driver

/-- The length of a pulse fits into a byte. -/
def Command.Fits : Command → Prop
  | .pulse _ ms => ms < 256
  | .disable _ => True

/-- On a clock's time no pulse that fits is too long. -/
theorem Clock.add?_isSome (clock : Clock) {ms : Nat} (h : ms < 256) :
    (clock.now.add? (.ofMillis ms)).isSome = true := by
  have hword : clock.micros.toNat < UInt64.size := clock.micros.toNat_lt
  have hlt : clock.now.nanos + (Span.ofMillis ms).nanos < Span.bound := by
    simp only [now, Span.ofMicros, Span.ofMillis, Span.bound, Span.perSecond, UInt64.size]
      at hword ⊢
    omega
  simp only [Span.add?, hlt, if_true, Option.isSome_some]

namespace DriverBank

/-- An order of a command fails only if its driver is unknown, or with the board. -/
theorem obey_command {c : Command} (fits : c.Fits) (clock : Clock) {bank bank' : DriverBank}
    {b b' : Bench} {ending : Outcome DriverError Unit}
    (h : obey c.order clock.now (bank, b) = (ending, bank', b')) :
    match ending with
    | .ok () => True
    | .error e =>
      e = .unknown c.order.driver ∨ ∃ f, e = .board f ∧ b'.FailedBy (.error f : Outcome Fault Unit)
    | .panic message => b'.FailedBy (.panic message : Outcome Fault Unit) := by
  simp only [obey] at h
  split at h
  · rename_i slot d _ _
    have hact : ∃ failed : Outcome Fault Unit, ending = failed.mapError .board ∧
        b'.FailedBy failed := by
      cases c with
      | pulse driver ms =>
        have hfailed := Driver.failedBy_pulse (clock.add?_isSome fits) (d, b)
        rcases hpulse : Driver.pulse ms clock.now (d, b) with ⟨failed, d', bench⟩
        simp only [Command.order, Order.act, Act.mapError, hpulse] at h hfailed
        cases h
        exact ⟨failed, rfl, hfailed⟩
      | disable driver =>
        have hfailed := Driver.failedBy_send (.disable d.number)
          (fun d => { d with schedule := none }.enter .off clock.now) (d, b)
        rcases hdisable : Driver.disable clock.now (d, b) with ⟨failed, d', bench⟩
        have hsend := hdisable
        simp only [Driver.disable] at hsend
        simp only [Command.order, Order.act, Act.mapError, hdisable] at h
        simp only [hsend] at hfailed
        cases h
        exact ⟨failed, rfl, hfailed⟩
    obtain ⟨failed, rfl, hfailed⟩ := hact
    cases failed with
    | ok a => trivial
    | error f => exact .inr ⟨f, rfl, hfailed⟩
    | panic message => exact hfailed
  · cases h
    exact .inl rfl

end DriverBank

/-- How many posted commands have been tried. -/
abbrev Engine.deferred {σ κ : Type} (s : Engine σ κ × Scene κ) : Nat := s.1.stats.deferredCommands

theorem Engine.keeps_deferred {σ κ α : Type} {x : Engine.Step σ κ α}
    (hx : x.Keeps Engine.books) : x.Keeps Engine.deferred :=
  fun s => congrArg (fun books => books.2.2) (hx s)

namespace Machine
variable {σ κ : Type}

/-- A command is counted, then given to its driver. Only a board that fails is passed on. -/
theorem carryOut_eq (now : Span) (c : Command) (m : Machine σ κ) :
    carryOut now c m =
      match DriverBank.obey c.order now (m.cabinet.drivers, m.cabinet.bench) with
      | (ending, drivers, bench) =>
        let obeyed : Machine σ κ := { m with
          engine := { m.engine with stats := { m.engine.stats with
            deferredCommands := m.engine.stats.deferredCommands + 1 } }
          cabinet := { m.cabinet with drivers, bench } }
        match ending with
        | .ok () => (.ok (), obeyed)
        | .error (.unknown name) =>
          (.ok (), obeyed.remark .warn ("deferred command for unknown driver '" ++ name ++ "'"))
        | .error (.board f) => (.error f, obeyed)
        | .error e => (.ok (), obeyed.remark .warn ("deferred command skipped: " ++ e.message))
        | .panic message => (.panic message, obeyed) := by
  let counted : Machine σ κ := { m with engine := { m.engine with stats := { m.engine.stats with
    deferredCommands := m.engine.stats.deferredCommands + 1 } } }
  have hcount : (count fun s => { s with deferredCommands := s.deferredCommands + 1 }) m =
    ((.ok (), counted) : Outcome Fault Unit × Machine σ κ) := rfl
  refine (Act.bind_ok hcount).trans ?_
  rcases hobey : DriverBank.obey c.order now (m.cabinet.drivers, m.cabinet.bench) with
    ⟨ending, drivers, bench⟩
  have hon : onCabinet (Cabinet.onDrivers (DriverBank.obey c.order now)) counted =
      (ending, { counted with cabinet := { counted.cabinet with drivers, bench } }) := by
    simp only [onCabinet, Cabinet.onDrivers, Act.zoom, counted, hobey]
  simp only [hon]
  cases ending with
  | ok a => rfl
  | panic message => rfl
  | error e => cases e <;> rfl

/-- Of the machine a command changes its counter, the drivers and the bench. -/
theorem carryOut_state (now : Span) (c : Command) (m : Machine σ κ) :
    ∃ bench, (carryOut now c m).2 = { m with
      engine := { m.engine with stats := { m.engine.stats with
        deferredCommands := m.engine.stats.deferredCommands + 1 } }
      cabinet := { m.cabinet with
        drivers := (DriverBank.obey c.order now (m.cabinet.drivers, m.cabinet.bench)).2.1
        bench } } := by
  rw [carryOut_eq]
  rcases DriverBank.obey c.order now (m.cabinet.drivers, m.cabinet.bench) with
    ⟨ending, drivers, bench⟩
  dsimp only
  split <;> exact ⟨_, rfl⟩

theorem queue_carryOut (now : Span) (c : Command) (m : Machine σ κ) :
    (carryOut now c m).2.cabinet.queue = m.cabinet.queue := by
  obtain ⟨bench, hstate⟩ := carryOut_state now c m
  rw [hstate]

theorem drivers_carryOut (now : Span) (c : Command) (m : Machine σ κ) :
    (carryOut now c m).2.cabinet.drivers =
      (DriverBank.obey c.order now (m.cabinet.drivers, m.cabinet.bench)).2.1 := by
  obtain ⟨bench, hstate⟩ := carryOut_state now c m
  rw [hstate]

/-- A command that fits fails only with the board. -/
theorem carryOut_ending {c : Command} (fits : c.Fits) (clock : Clock) (m : Machine σ κ) :
    (carryOut clock.now c m).2.cabinet.bench.FailedBy (carryOut clock.now c m).1 := by
  rw [carryOut_eq]
  rcases hobey : DriverBank.obey c.order clock.now (m.cabinet.drivers, m.cabinet.bench) with
    ⟨ending, drivers, bench⟩
  have hcases := DriverBank.obey_command fits clock hobey
  cases ending with
  | ok a => trivial
  | panic message => exact hcases
  | error e =>
    rcases hcases with rfl | ⟨f, rfl, hfailed⟩
    · trivial
    · exact hfailed

/-- A command for an unknown driver is counted and remarked on, and that is all. -/
theorem carryOut_unknown {now : Span} {c : Command} {m : Machine σ κ}
    (unknown : m.cabinet.drivers.find? c.order.driver = none) :
    carryOut now c m = (.ok (), { m with
      engine := { m.engine with stats := { m.engine.stats with
        deferredCommands := m.engine.stats.deferredCommands + 1 } }
      cabinet := { m.cabinet with
        bench := m.cabinet.bench.remark .warn
          ("deferred command for unknown driver '" ++ c.order.driver ++ "'") } }) := by
  have hobey : DriverBank.obey c.order now (m.cabinet.drivers, m.cabinet.bench) =
      (.error (.unknown c.order.driver), m.cabinet.drivers, m.cabinet.bench) := by
    simp only [DriverBank.obey, unknown]
    cases m.cabinet.drivers.drivers.slotOfName? c.order.driver <;> rfl
  rw [carryOut_eq, hobey]
  rfl

/-- How many posted commands have been tried. -/
abbrev deferred (m : Machine σ κ) : Nat := m.engine.stats.deferredCommands

theorem deferred_carryOut (now : Span) (c : Command) (m : Machine σ κ) :
    (carryOut now c m).2.deferred = m.deferred + 1 := by
  obtain ⟨bench, hstate⟩ := carryOut_state now c m
  rw [hstate]

theorem keeps_deferred_inContext {α : Type} (now : Span) {body : Engine.Step σ κ α}
    (hbody : body.Keeps Engine.deferred) : (inContext now body).Keeps deferred := by
  intro m
  obtain ⟨t, hrest, hstate⟩ :=
    inContext_leads (Engine.keeps_deferred Engine.keeps_books_settle) now body m
  rw [hstate]
  exact hrest.trans (hbody (m.engine, m.scene now))

theorem keeps_deferred_handDown (number : Nat) :
    (handDown number : Engine.Step σ κ Unit).Keeps Engine.deferred := by
  refine .bind .get fun (_, scene) => ?_
  dsimp only
  split
  · exact .bind (Engine.keeps_deferred (Engine.keeps_books_log _ _)) fun _ s =>
      congrArg (fun books => books.2.2) (Engine.books_dispatch _ s.1 s.2)
  · exact .pure ()

theorem keeps_deferred_handleEvent (e : Event) (now : Span) :
    (handleEvent e now : Step σ κ Unit).Keeps deferred := by
  intro m
  simp only [handleEvent]
  cases e.kind.level? with
  | some closed =>
    dsimp only
    rw [switchChanged_eq]
    split
    · rfl
    · split
      · rfl
      · exact keeps_deferred_inContext now (keeps_deferred_handDown e.value)
          (m.noted e.value closed now)
  | none =>
    generalize e.kind = kind
    cases kind with
    | frameDisplayed =>
      exact keeps_deferred_inContext now (Engine.keeps_deferred Engine.keeps_books_frame) m
    | _ => rfl

end Machine

namespace Point
variable {σ κ : Type}

/-- Where a part of a pass leads that goes well. -/
inductive Leads : Point → Point → Prop
  | poll (es : List Event) (clock : Clock) : Leads .ready (.events es clock.now)
  | event (e : Event) (rest : List Event) (now : Span) :
    Leads (.events (e :: rest) now) (.events rest now)
  | lastEvent (now : Span) : Leads (.events [] now) (.hooks now)
  | hooks (now : Span) : Leads (.hooks now) (.drivers now)
  | drivers (now : Span) : Leads (.drivers now) (.drain now)
  | drain (taken : List Command) (now : Span) : Leads (.drain now) (.commands taken now)
  | command (c : Command) (rest : List Command) (now : Span) :
    Leads (.commands (c :: rest) now) (.commands rest now)
  | lastCommand (now : Span) : Leads (.commands [] now) .tickle
  | tickle : Leads .tickle .finish
  | finish : Leads .finish .ready

theorem go_ok {p q : Point} {m m' : Machine σ κ} (h : p.go m = (.ok q, m')) : p.Leads q := by
  have of_bind {α : Type} {x : Machine.Step σ κ α} {r : Point} {t t' : Machine σ κ}
      (h : (x >>= fun _ => Pure.pure r) t = (.ok q, t')) : q = r := by
    obtain ⟨_, _, -, hpure⟩ := Act.bind_eq_ok h
    cases hpure
    rfl
  cases p with
  | ready =>
    obtain ⟨_, _, -, h⟩ := Act.bind_eq_ok h
    obtain ⟨es, _, -, h⟩ := Act.bind_eq_ok h
    obtain ⟨now, t, hnow, h⟩ := Act.bind_eq_ok h
    cases h
    cases hnow
    exact .poll es _
  | events es now =>
    cases es with
    | nil => cases h; exact .lastEvent now
    | cons e rest => exact of_bind h ▸ .event e rest now
  | hooks now => exact of_bind h ▸ .hooks now
  | drivers now => exact of_bind h ▸ .drivers now
  | drain now =>
    obtain ⟨taken, t, -, h⟩ := Act.bind_eq_ok h
    have hq : q = .commands taken now := by
      dsimp only at h
      split at h
      · exact of_bind h
      · cases h
        rfl
    exact hq ▸ .drain taken now
  | commands cs now =>
    cases cs with
    | nil => cases h; exact .lastCommand now
    | cons c rest => exact of_bind h ▸ .command c rest now
  | tickle => exact of_bind h ▸ .tickle
  | finish => exact of_bind h ▸ .finish

/-- Every part of a pass but the one that takes the queue only posts. -/
theorem feeds_go {p : Point} (h : ∀ now, p ≠ .drain now) :
    (p.go : Machine.Step σ κ Point).Within Machine.Feeds := by
  have same {α : Type} {x : Machine.Step σ κ α}
      (hx : x.Keeps fun m => m.cabinet.queue) : x.Within Machine.Feeds :=
    fun m => Machine.feeds_of_eq (hx m)
  cases p with
  | drain now => exact absurd rfl (h now)
  | ready =>
    exact .bind .get fun _ => .bind (same fun _ => rfl) fun _ => .bind (same fun _ => rfl) fun _ =>
      .pure _
  | events es now =>
    cases es with
    | nil => exact .pure _
    | cons e rest => exact .bind (Machine.feeds_handleEvent e now) fun _ => .pure _
  | hooks now => exact .bind (Machine.feeds_inContext now Engine.feeds_tick) fun _ => .pure _
  | commands cs now =>
    cases cs with
    | nil => exact .pure _
    | cons c rest =>
      exact .bind (same fun m => Machine.queue_carryOut now c m) fun _ => .pure _
  | drivers | tickle | finish => exact .bind (same fun _ => rfl) fun _ => .pure _

/-- Only carrying out a command is counted as such. -/
theorem keeps_deferred_go {p : Point} (h : ∀ c rest now, p ≠ .commands (c :: rest) now) :
    (p.go : Machine.Step σ κ Point).Keeps Machine.deferred := by
  cases p with
  | ready =>
    exact .bind .get fun _ => .bind (fun _ => rfl) fun _ => .bind (fun _ => rfl) fun _ => .pure _
  | events es now =>
    cases es with
    | nil => exact .pure _
    | cons e rest => exact .bind (Machine.keeps_deferred_handleEvent e now) fun _ => .pure _
  | hooks now =>
    exact .bind (Machine.keeps_deferred_inContext now
      (Engine.keeps_deferred Engine.keeps_books_tick)) fun _ => .pure _
  | drain now =>
    exact .bind (fun _ => rfl) fun _ => .ite (.bind (fun _ => rfl) fun _ => .pure _) (.pure _)
  | commands cs now =>
    cases cs with
    | nil => exact .pure _
    | cons c rest => exact absurd rfl (h c rest now)
  | drivers | tickle | finish => exact .bind (fun _ => rfl) fun _ => .pure _

/-- The part takes the queue, or comes later in a pass. -/
def IsLate : Point → Prop
  | .drain _ | .commands _ _ | .tickle | .finish => True
  | _ => False

/-- From when the queue is taken no callback begins in a pass. -/
theorem keeps_starts_go {p : Point} (h : p.IsLate) :
    (p.go : Machine.Step σ κ Point).Keeps Machine.kept := by
  cases p with
  | drain now =>
    exact .bind (fun _ => rfl) fun _ =>
      .ite (.bind (Machine.keeps_log _ _) fun _ => .pure _) (.pure _)
  | commands cs now =>
    cases cs with
    | nil => exact .pure _
    | cons c rest => exact .bind (Machine.keeps_carryOut now c) fun _ => .pure _
  | tickle => exact .bind (Machine.keeps_onBench Bench.keeps_starts_tickle) fun _ => .pure _
  | finish => exact .bind (Machine.keeps_count _) fun _ => .pure _
  | _ => exact h.elim

/-- The queue is taken whole. -/
theorem queue_go_drain (now : Span) (m : Machine σ κ) :
    (Point.go (.drain now) m).2.cabinet.queue = { m.cabinet.queue with commands := [] } ∧
      (Point.go (.drain now) m).1 = .ok (.commands m.cabinet.queue.commands now) := by
  obtain ⟨⟨_, _, _, _, ⟨taken, _⟩, _, _⟩, _, _, _⟩ := m
  cases taken with
  | nil => exact ⟨rfl, rfl⟩
  | cons c rest => exact ⟨rfl, rfl⟩

/-- To try a command is to carry it out. -/
theorem go_commands (c : Command) (cs : List Command) (now : Span) (m : Machine σ κ) :
    (Point.go (.commands (c :: cs) now) m).2 = (Machine.carryOut now c m).2 ∧
      (Point.go (.commands (c :: cs) now) m).1 =
        (Machine.carryOut now c m).1.map fun _ => .commands cs now := by
  simp only [go, Act.bind_apply]
  rcases Machine.carryOut now c m with ⟨ending, m'⟩
  cases ending <;> exact ⟨rfl, rfl⟩

/-- The time of the pass. -/
def time? : Point → Option Span
  | .events _ now | .hooks now | .drivers now | .drain now | .commands _ now => some now
  | _ => none

end Point

end Playfield
