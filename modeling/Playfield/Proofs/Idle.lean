import Playfield.Proofs.HeldHandlers
import Playfield.Proofs.Past.Machine
import Playfield.Proofs.Points

/-!
# Events that say nothing

Frame events, while no one waits for them, and events that are empty or invalid leave nothing behind
but a count of frames and traces in the journal. Nothing looks back at these. So such events can be
put between any others without a difference to what a step does (`Machine.step_padded`), or to what
many steps do (`Machine.SameButIdle.stepAll`).
-/
namespace Playfield

/-! ### Batches -/

namespace Event

/-- The event reports no level: a displayed frame, nothing, or nothing valid. -/
def isIdle (e : Event) : Bool :=
  match e.kind with
  | .frameDisplayed | .none | .invalid => true
  | _ => false

/-- The second batch is the first one with idle events put in anywhere. -/
inductive Padded : List Event → List Event → Prop where
  | nil : Padded [] []
  | keep (e : Event) {es fs : List Event} (rest : Padded es fs) : Padded (e :: es) (e :: fs)
  | insert {e : Event} {es fs : List Event} (idle : e.isIdle = true) (rest : Padded es fs) :
    Padded es (e :: fs)

namespace Padded
variable {es fs : List Event}

theorem refl (es : List Event) : Padded es es := by
  induction es with
  | nil => exact .nil
  | cons e rest ih => exact .keep e ih

theorem append (h : Padded es fs) {es' fs' : List Event} (h' : Padded es' fs') :
    Padded (es ++ es') (fs ++ fs') := by
  induction h with
  | nil => exact h'
  | keep e _ ih => exact .keep e ih
  | insert idle _ ih => exact .insert idle ih

end Padded

end Event

/-! ### What is left in the journal -/

/-- The entry as far as idle events have no part in it: traces are left out, and so is how many
events a poll handed out. -/
def Entry.gist : Entry → Option Entry
  | .remark .trace _ => none
  | .call (.poll frames) (.events _) => some (.call (.poll frames) (.events 0))
  | e => some e

/-- The calls to the board with their replies, the callbacks that began and all that was remarked,
without what idle events leave in the journal. -/
def Bench.gist (b : Bench) : List Entry := b.journal.toList.filterMap Entry.gist

/-- The bench with other events to be handed out by its board. -/
def Bench.given (es : List Event) (b : Bench) : Bench :=
  { b with board := { b.board with pending := es } }

theorem Bench.gist_enter (e : Entry) (b : Bench) :
    (b.enter e).gist = b.gist ++ e.gist.toList := by
  rw [gist, gist, enter, Array.toList_push, List.filterMap_append]
  cases h : e.gist <;> simp [h]

namespace Machine
variable {σ κ : Type} {m m' : Machine σ κ}

/-- The gist of the journal. -/
abbrev gist (m : Machine σ κ) : List Entry := m.cabinet.bench.gist

/-- Events the board has not handed out yet. -/
abbrev pending (m : Machine σ κ) : List Event := m.cabinet.bench.board.pending

/-- The machine with other events to be handed out by its board. -/
def given (es : List Event) (m : Machine σ κ) : Machine σ κ :=
  { m with cabinet := { m.cabinet with bench := m.cabinet.bench.given es } }

theorem gist_after (p : Past) (m : Machine σ κ) :
    (m.after p).gist = p.entries.toList.filterMap Entry.gist ++ m.gist := by
  simp only [gist, Bench.gist, after, Cabinet.after, Bench.after, Array.toList_append,
    List.filterMap_append]

/-- The machines differ in idle parts of their pasts only. -/
structure Alongside (m m' : Machine σ κ) : Prop where
  bare : m'.bare = m.bare
  gist : m'.gist = m.gist

namespace Alongside

theorem pending (h : m.Alongside m') : m'.pending = m.pending := by
  have hbare : m'.bare.pending = m.bare.pending := by rw [h.bare]
  exact hbare

theorem trans {m'' : Machine σ κ} (h : m.Alongside m') (h' : m'.Alongside m'') :
    m.Alongside m'' :=
  ⟨h'.bare.trans h.bare, h'.gist.trans h.gist⟩

/-- What does not look back does the same alongside. -/
theorem run {α : Type} {x : Step σ κ α} (hx : ∀ p, x.Commutes (after p)) (h : m.Alongside m') :
    (x m').1 = (x m).1 ∧ (x m).2.Alongside (x m').2 := by
  have hm : x m = Act.mapState (after m.past) (x m.bare) := by
    rw [← hx, bare_after_past]
  have hm' : x m' = Act.mapState (after m'.past) (x m.bare) := by
    rw [← hx, ← h.bare, bare_after_past]
  have hpast : m'.past.entries.toList.filterMap Entry.gist =
      m.past.entries.toList.filterMap Entry.gist := h.gist
  rw [hm, hm']
  refine ⟨rfl, rfl, ?_⟩
  rw [Act.mapState, Act.mapState, gist_after, gist_after, hpast]

end Alongside

end Machine

/-! ### Without a frame handler -/

namespace Engine
variable {σ κ : Type}

/-- No one waits for frames. -/
abbrev Unwatched (s : Engine σ κ × Scene κ) : Prop := s.1.frameHandler = none

theorem unwatched_apply (r : Request κ) : (apply r : Step σ κ Unit).Keeps Unwatched := by
  cases r with
  | addMode id kind => exact .bind .get fun _ _ => rfl
  | removeMode id => exact .bind (fun _ => rfl) fun _ => .ite (.bind .get fun _ _ => rfl) (.pure ())
  | game request => exact .bind (fun _ => rfl) fun _ _ => rfl
  | flippers enable => exact .bind .get fun _ => .bind (fun _ => rfl) fun _ _ => rfl

theorem unwatched_settle : (settle : Step σ κ Unit).Keeps Unwatched :=
  settle_within (fun _ => rfl) (fun _ _ _ => rfl) unwatched_apply

theorem unwatched_dispatch (switch : Switch) : (dispatch switch : Step σ κ Unit).Keeps Unwatched :=
  .bind (fun _ => rfl) fun _ => .bind (fun _ => rfl) fun _ => .bind (fun _ => rfl) fun _ =>
    .bind unwatched_settle fun _ => .finish _

theorem unwatched_tick : (tick : Step σ κ Unit).Keeps Unwatched :=
  .bind (fun _ => rfl) fun _ => .bind (fun _ => rfl) fun _ => .bind unwatched_settle fun _ =>
    .finish _

/-- A frame is counted then, and that is all. -/
theorem frame_unwatched {e : Engine σ κ} (unwatched : e.frameHandler = none) (scene : Scene κ) :
    frame (e, scene) =
      (.ok (), { e with stats := { e.stats with frames := e.stats.frames + 1 } }, scene) := by
  let counted : Engine σ κ := { e with stats := { e.stats with frames := e.stats.frames + 1 } }
  have hcount : (count fun s => { s with frames := s.frames + 1 }) (e, scene) =
    ((.ok (), counted, scene) : Outcome Fault Unit × Engine σ κ × Scene κ) := rfl
  refine (Act.bind_ok hcount).trans ?_
  have hget : (Act.get : Step σ κ _) (counted, scene) =
    (.ok (counted, scene), counted, scene) := rfl
  refine (Act.bind_ok hget).trans ?_
  have hnone : counted.frameHandler = none := unwatched
  simp only [hnone]
  rfl

end Engine

namespace Machine
variable {σ κ : Type} {m m' : Machine σ κ}

/-- No one waits for frames. -/
abbrev Unwatched (m : Machine σ κ) : Prop := m.engine.frameHandler = none

theorem unwatched_inContext {α : Type} (now : Span) {body : Engine.Step σ κ α}
    (hbody : body.Keeps Engine.Unwatched) : (inContext now body).Keeps Unwatched := by
  intro m
  obtain ⟨t, hrest, hstate⟩ := inContext_leads Engine.unwatched_settle now body m
  rw [hstate]
  exact hrest.trans (hbody (m.engine, m.scene now))

theorem unwatched_switchChanged (number : Nat) (closed : Bool) (now : Span) :
    (switchChanged number closed now : Step σ κ Unit).Keeps Unwatched := by
  refine .bind (fun _ => rfl) fun _ => .bind (fun _ => rfl) fun previous => ?_
  cases previous with
  | none => exact fun _ => rfl
  | some previous =>
    refine .ite (.bind (fun _ => rfl) fun _ _ => rfl)
      (unwatched_inContext now (.bind .get fun (_, scene) => ?_))
    dsimp only
    cases scene.cabinet.switches.get? number with
    | none => exact .pure ()
    | some switch => exact .bind (fun _ => rfl) fun _ => Engine.unwatched_dispatch switch

/-- An idle event leaves nothing then but a trace or a count of frames. -/
theorem handleEvent_idle {e : Event} (idle : e.isIdle = true) (unwatched : m.Unwatched)
    (now : Span) : ∃ n, handleEvent e now m = (.ok (), n) ∧ m.Alongside n ∧ n.Unwatched := by
  have ignored (text : String) : m.Alongside (log .trace text m : Outcome Fault Unit × _).2 :=
    ⟨rfl, (Bench.gist_enter _ _).trans (List.append_nil _)⟩
  obtain ⟨kind, value⟩ := e
  simp only [handleEvent]
  cases kind with
  | none => exact ⟨_, rfl, ignored _, unwatched⟩
  | invalid => exact ⟨_, rfl, ignored _, unwatched⟩
  | frameDisplayed =>
    refine ⟨{ m with engine := { m.engine with stats := { m.engine.stats with
      frames := m.engine.stats.frames + 1 } } }, ?_, ⟨rfl, rfl⟩, unwatched⟩
    have hsettle (e : Engine σ κ) : Engine.settle (e, m.scene now) = (.ok (), e, m.scene now) :=
      Engine.settle_idle rfl
    simp only [EventKind.level?, inContext, Engine.frame_unwatched unwatched, hsettle]
    rfl
  | switchClosedDebounced | switchOpenDebounced | switchClosedNondebounced
  | switchOpenNondebounced => simp [Event.isIdle] at idle

theorem unwatched_handleEvent (e : Event) (now : Span) (unwatched : m.Unwatched) :
    (handleEvent e now m).2.Unwatched := by
  by_cases idle : e.isIdle = true
  · obtain ⟨n, hn, -, hun⟩ := handleEvent_idle idle unwatched now
    rw [hn]
    exact hun
  · obtain ⟨kind, value⟩ := e
    cases kind with
    | none | invalid | frameDisplayed => exact absurd rfl idle
    | switchClosedDebounced | switchOpenDebounced | switchClosedNondebounced
    | switchOpenNondebounced => exact (unwatched_switchChanged value _ now m).mpr unwatched

/-! ### A step -/

/-- Events are dealt with alike, whatever idle ones are put between them. -/
theorem alongside_events {es fs : List Event} (padded : Event.Padded es fs) (now : Span)
    (h : m.Alongside m') (unwatched : m'.Unwatched) :
    (Act.each (fun e => handleEvent e now) fs m').1 =
        (Act.each (fun e => handleEvent e now) es m).1 ∧
      (Act.each (fun e => handleEvent e now) es m).2.Alongside
        (Act.each (fun e => handleEvent e now) fs m').2 := by
  induction padded generalizing m m' with
  | nil => exact ⟨rfl, h⟩
  | keep e _ ih =>
    obtain ⟨hend, halong⟩ := h.run fun p => commutes_handleEvent p e now
    have hun := unwatched_handleEvent e now unwatched
    rw [Act.each_cons, Act.each_cons, Act.bind_apply, Act.bind_apply]
    generalize handleEvent e now m = r at hend halong ⊢
    generalize handleEvent e now m' = r' at hend halong hun ⊢
    obtain ⟨outcome, n⟩ := r
    obtain ⟨_, n'⟩ := r'
    cases hend
    cases outcome with
    | ok _ => exact ih halong hun
    | error f => exact ⟨rfl, halong⟩
    | panic message => exact ⟨rfl, halong⟩
  | insert idle _ ih =>
    obtain ⟨n, hn, halong, hun⟩ := handleEvent_idle idle unwatched now
    rw [Act.each_cons, Act.bind_ok hn]
    exact ih (h.trans halong) hun

end Machine

/-! ### The poll -/

/-- A poll of the board fails without a look at what waits, or hands out what waits and more. -/
theorem Board.poll_given (frames : Bool) (b : Board) :
    (∃ (f : Fault) (c : Board), ∀ es : List Event,
        poll frames { b with pending := es } = (.error f, { c with pending := es })) ∨
      ∃ (more : List Event) (c : Board), ∀ es : List Event,
        poll frames { b with pending := es } = (.ok (es ++ more), c) := by
  obtain ⟨pending, perPoll, rules, writes, calls, tickles, closes, closed, injected⟩ := b
  let spent : Board := ⟨[], perPoll, rules, writes, calls, tickles, closes, closed, none⟩
  cases injected with
  | some f => exact .inl ⟨f, spent, fun _ => rfl⟩
  | none =>
    cases closed with
    | true => exact .inl ⟨.closed, spent, fun _ => rfl⟩
    | false =>
      exact .inr ⟨if frames then List.replicate perPoll .frame else [], spent, fun _ => rfl⟩

namespace Bench

/-- A poll fails without a look at what waits, or it hands out what waits and more. -/
def Polls (frames : Bool) (polled : List Event → Outcome Fault (List Event) × Bench) : Prop :=
  (∃ (ending : Outcome Fault (List Event)) (c : Bench), (∀ es, ending ≠ .ok es) ∧
      ∀ es, polled es = (ending, c.given es)) ∨
    ∃ (more : List Event) (c : Bench), ∀ es, polled es =
      (.ok (es ++ more), c.enter (.call (.poll frames) (.events (es ++ more).length)))

theorem polls_run (frames : Bool) (b : Bench) : Polls frames fun es =>
    call.run (.poll frames) (fun events => .events events.length) (Board.poll frames)
      (b.given es) := by
  rcases b.board.poll_given frames with ⟨f, board, hboard⟩ | ⟨more, board, hboard⟩
  · refine .inl ⟨.error f, enter (.call (.poll frames) (.fault f)) { b with board },
      (fun _ h => by cases h), fun es => ?_⟩
    simp only [call.run, given, hboard]
    rfl
  · refine .inr ⟨more, { b with board }, fun es => ?_⟩
    simp only [call.run, given, hboard]

theorem polls_poll (frames : Bool) (b : Bench) :
    Polls frames fun es => poll frames (b.given es) := by
  have hmishaps (es : List Event) : (b.given es).mishaps = b.mishaps := rfl
  simp only [poll, call, hmishaps]
  rcases due b.mishaps with ⟨mishap, mishaps⟩
  cases mishap with
  | none => exact polls_run frames { b with mishaps }
  | some mishap =>
    cases mishap with
    | fault f => exact polls_run frames { b with board := b.board.inject f, mishaps }
    | panic message =>
      exact .inl ⟨.panic message, enter (.call (.poll frames) .panicked) { b with mishaps },
        (fun _ h => by cases h), fun _ => rfl⟩

end Bench

/-! ### A step -/

namespace Machine
variable {σ κ : Type} {m m' : Machine σ κ}

/-- But for idle events the machines have been through the same, and will go through the same. -/
structure SameButIdle (m m' : Machine σ κ) : Prop where
  /-- They are the same but for the journal, the count of frames and the events that wait: switches,
  modes and their memories, held handlers, drivers, game, flipper rules and all else. -/
  rest : (m'.given []).bare = (m.given []).bare
  /-- The same calls were made to the board, and the same callbacks began. -/
  gist : m'.gist = m.gist
  pending : Event.Padded m.pending m'.pending

namespace SameButIdle

theorem of_alongside (h : m.Alongside m') : m.SameButIdle m' where
  rest := congrArg (given []) h.bare
  gist := h.gist
  pending := by
    rw [h.pending]
    exact .refl _

theorem after_alongside {m'' : Machine σ κ} (h : m.Alongside m') (h' : m'.SameButIdle m'') :
    m.SameButIdle m'' where
  rest := h'.rest.trans (congrArg (given []) h.bare)
  gist := h'.gist.trans h.gist
  pending := h.pending ▸ h'.pending

end SameButIdle

/-- What is left of a step after its poll does not depend on idle events. -/
theorem remainder_padded {es fs : List Event} (padded : Event.Padded es fs) (now : Span)
    (h : m.Alongside m') (unwatched : m'.Unwatched) :
    ((Point.events fs now).remainder m').1 = ((Point.events es now).remainder m).1 ∧
      ((Point.events es now).remainder m).2.Alongside ((Point.events fs now).remainder m').2 := by
  obtain ⟨hend, halong⟩ := alongside_events padded now h unwatched
  have hsplit (es : List Event) : (Point.events es now).remainder =
      Act.each (fun e => handleEvent e now) es >>= fun _ =>
        ((Point.hooks now).remainder : Step σ κ Unit) := rfl
  rw [hsplit, hsplit, Act.bind_apply, Act.bind_apply]
  generalize Act.each (fun e => handleEvent e now) es m = r at hend halong ⊢
  generalize Act.each (fun e => handleEvent e now) fs m' = r' at hend halong ⊢
  obtain ⟨outcome, n⟩ := r
  obtain ⟨_, n'⟩ := r'
  cases hend
  cases outcome with
  | ok _ => exact halong.run fun p => commutes_rest p now
  | error f => exact ⟨rfl, halong⟩
  | panic message => exact ⟨rfl, halong⟩

/-- The poll of a step is a poll of its bench. -/
theorem go_ready (m : Machine σ κ) :
    Point.ready.go m = match Bench.poll m.settings.includeFrameEvents m.cabinet.bench with
      | (ending, bench) => (ending.map fun es => .events es m.now,
        { m with cabinet := { m.cabinet with bench } }) := by
  rcases hbench : Bench.poll m.settings.includeFrameEvents m.cabinet.bench with ⟨ending, bench⟩
  have hpoll : onCabinet (Cabinet.onBench (Bench.poll m.settings.includeFrameEvents)) m =
      (ending, { m with cabinet := { m.cabinet with bench } }) := by
    simp only [onCabinet, Cabinet.onBench, Act.zoom, hbench]
  have hget : (Act.get : Step σ κ _) m = (.ok m, m) := rfl
  refine (Act.bind_ok hget).trans ?_
  cases ending with
  | ok es => exact Act.bind_ok hpoll
  | error f => exact Act.bind_error hpoll
  | panic message => exact Act.bind_panic hpoll

/-- A step does not depend on idle events put in between those that wait. -/
theorem step_given (unwatched : m.Unwatched) {es fs : List Event} (padded : Event.Padded es fs) :
    (step (m.given fs)).1 = (step (m.given es)).1 ∧
      (step (m.given es)).2.SameButIdle (step (m.given fs)).2 := by
  let polled (bench : Bench) : Machine σ κ := { m with cabinet := { m.cabinet with bench } }
  have hgo (es : List Event) : Point.ready.go (m.given es) =
      match Bench.poll m.settings.includeFrameEvents (m.cabinet.bench.given es) with
      | (ending, bench) => (ending.map fun es => .events es m.now, polled bench) := go_ready _
  rw [Point.step_eq, Act.bind_apply, Act.bind_apply, hgo, hgo]
  rcases m.cabinet.bench.polls_poll m.settings.includeFrameEvents with
    ⟨ending, c, hfails, hpoll⟩ | ⟨more, c, hpoll⟩
  · simp only [hpoll]
    cases ending with
    | ok es => exact absurd rfl (hfails es)
    | error f => exact ⟨rfl, rfl, rfl, padded⟩
    | panic message => exact ⟨rfl, rfl, rfl, padded⟩
  · simp only [hpoll]
    let answered (n : Nat) : Machine σ κ :=
      polled (c.enter (.call (.poll m.settings.includeFrameEvents) (.events n)))
    have hgist (n : Nat) : (answered n).gist =
        c.gist ++ [.call (.poll m.settings.includeFrameEvents) (.events 0)] := Bench.gist_enter _ c
    have halong : (answered (es ++ more).length).Alongside (answered (fs ++ more).length) :=
      ⟨rfl, (hgist _).trans (hgist _).symm⟩
    obtain ⟨hend, hafter⟩ := remainder_padded (padded.append (.refl more)) m.now halong unwatched
    exact ⟨hend, .of_alongside hafter⟩

namespace SameButIdle

/-- Machines that are the same but for idle events step alike. -/
theorem step (h : m.SameButIdle m') (unwatched : m.Unwatched) :
    (step m').1 = (step m).1 ∧ (step m).2.SameButIdle (step m').2 := by
  have halong : m.Alongside (m'.given m.pending) :=
    ⟨congrArg (given m.pending) h.rest, h.gist⟩
  have hunwatched : m'.Unwatched :=
    (congrArg (fun m => m.engine.frameHandler) h.rest).trans unwatched
  obtain ⟨hend, hstate⟩ := halong.run fun p => commutes_step p
  obtain ⟨hend', hstate'⟩ := step_given hunwatched h.pending
  exact ⟨hend'.trans hend, hstate'.after_alongside hstate⟩

/-- More events come in, idle ones between those of the second machine. -/
theorem post (h : m.SameButIdle m') {es fs : List Event} (padded : Event.Padded es fs) :
    (m.given (m.pending ++ es)).SameButIdle (m'.given (m'.pending ++ fs)) where
  rest := h.rest
  gist := h.gist
  pending := h.pending.append padded

end SameButIdle

/-- **Idle events do not interfere.** Without a frame handler a step ends alike and leaves the same
behind, whatever idle events are put in anywhere between the events of its batch: what differs is
the count of frames, traces in the journal, and how many events the poll is noted to have handed
out. -/
theorem step_padded (m : Machine σ κ) (unwatched : m.engine.frameHandler = none)
    {es fs : List Event} (padded : Event.Padded es fs) :
    let n := (step (m.given es)).2
    let n' := (step (m.given fs)).2
    (step (m.given fs)).1 = (step (m.given es)).1 ∧
      n'.cabinet.switches = n.cabinet.switches ∧
      n'.engine.stack = n.engine.stack ∧
      n'.cabinet.drivers = n.cabinet.drivers ∧
      n'.engine.game = n.engine.game ∧
      n'.engine.rules = n.engine.rules ∧
      n'.gist = n.gist ∧
      { n'.engine.stats with frames := 0 } = { n.engine.stats with frames := 0 } ∧
      n.SameButIdle n' := by
  intro n n'
  obtain ⟨hend, hsame⟩ := step_given unwatched padded
  have hrest : (n'.given []).bare = (n.given []).bare := hsame.rest
  exact ⟨hend,
    congrArg (fun m => m.cabinet.switches) hrest,
    congrArg (fun m => m.engine.stack) hrest,
    congrArg (fun m => m.cabinet.drivers) hrest,
    congrArg (fun m => m.engine.game) hrest,
    congrArg (fun m => m.engine.rules) hrest,
    hsame.gist,
    congrArg (fun m => m.engine.stats) hrest,
    hsame⟩

/-- The gate closes, with frames and an empty event around the event that says so. -/
theorem gate_padded :
    let es : List Event := [⟨.switchClosedDebounced, 7⟩]
    let fs : List Event := [.frame, ⟨.switchClosedDebounced, 7⟩, ⟨.none, 0⟩, .frame]
    ∃ m : Machine Unit Unit, m.Built ∧ m.engine.frameHandler = none ∧ Event.Padded es fs ∧
      (step (m.given es)).2.engine.stats.frames = 0 ∧
      (step (m.given fs)).2.engine.stats.frames = 2 ∧
      (step (m.given es)).2.engine.stats.dispatches = 1 ∧
      (step (m.given fs)).1 = (step (m.given es)).1 ∧
      (step (m.given es)).2.SameButIdle (step (m.given fs)).2 := by
  intro es fs
  obtain ⟨m, built, hnone, hframes, hframes', hwalks⟩ := exists_gateMachine
    (P := fun m => m.engine.frameHandler.isNone = true ∧
      (step (m.given es)).2.engine.stats.frames = 0 ∧
      (step (m.given fs)).2.engine.stats.frames = 2 ∧
      (step (m.given es)).2.engine.stats.dispatches = 1) {} (by decide +kernel)
  have unwatched : m.engine.frameHandler = none := Option.isNone_iff_eq_none.mp hnone
  have padded : Event.Padded es fs :=
    .insert rfl (.keep _ (.insert rfl (.insert rfl .nil)))
  obtain ⟨hend, -, -, -, -, -, -, -, hsame⟩ := step_padded m unwatched padded
  exact ⟨m, built, unwatched, padded, hframes, hframes', hwalks, hend, hsame⟩

/-! ### Many steps -/

theorem unwatched_step (unwatched : m.Unwatched) : (step m).2.Unwatched := by
  let Stays (m m' : Machine σ κ) : Prop := m.Unwatched → m'.Unwatched
  have of_keeps {α : Type} {x : Step σ κ α} (hx : x.Keeps Unwatched) : x.Within Stays :=
    fun m h => (hx m).mpr h
  have carryOut (now : Span) (c : Command) : (carryOut now c : Step σ κ Unit).Keeps Unwatched := by
    intro m
    obtain ⟨bench, hstate⟩ := carryOut_state now c m
    rw [hstate]
  have rest (now : Span) : Act.Within Stays ((Point.hooks now).remainder : Step σ κ Unit) :=
    of_keeps (.bind (unwatched_inContext now Engine.unwatched_tick) fun _ =>
      .bind (fun _ => rfl) fun _ => .bind (.bind (fun _ => rfl) fun _ =>
        .ite (.bind (fun _ => rfl) fun _ => .each (carryOut now) _) (.pure ())) fun _ =>
      .bind (fun _ => rfl) fun _ _ => rfl)
  have whole : (step : Step σ κ Unit).Within Stays :=
    .bind (fun _ => id) fun _ => .bind (fun _ => id) fun _ => .bind (fun _ => id) fun now =>
      .bind (.each (fun e m => unwatched_handleEvent e now) _) fun _ => rest now
  exact whole m unwatched

/-- Steps one after another, each with more events coming in before it: how they ended, and the
machine then. -/
def stepAll : List (List Event) → Machine σ κ → List (Outcome Fault Unit) × Machine σ κ
  | [], m => ([], m)
  | es :: rest, m =>
    match step (m.given (m.pending ++ es)) with
    | (ending, m) =>
      match stepAll rest m with
      | (endings, m) => (ending :: endings, m)

/-- Many steps end alike, and leave the same behind, whatever idle events come in between. -/
theorem SameButIdle.stepAll {batches padded : List (List Event)}
    (hall : List.Forall₂ Event.Padded batches padded) (h : m.SameButIdle m')
    (unwatched : m.Unwatched) :
    (m'.stepAll padded).1 = (m.stepAll batches).1 ∧
      (m.stepAll batches).2.SameButIdle (m'.stepAll padded).2 := by
  induction hall generalizing m m' with
  | nil => exact ⟨rfl, h⟩
  | @cons es fs _ _ hpadded _ ih =>
    obtain ⟨hend, hstate⟩ := (h.post hpadded).step unwatched
    have hun := unwatched_step (m := m.given (m.pending ++ es)) unwatched
    obtain ⟨hends, hlast⟩ := ih hstate hun
    simp only [Machine.stepAll]
    exact ⟨by rw [hend, hends], hlast⟩

end Machine

end Playfield
