import Playfield.Proofs.Effects
import Playfield.Proofs.Lives

/-!
# What only switch events change

The books of a machine are its switches and the counters of switch events, of those that brought no
change, of walks, and of posted commands carried out. Everything the engine does keeps them, but for
a walk, which is counted as one (`Engine.books_dispatch`). So in a run only switch events change
what the books say of switches (`Stage.keeps_tally`).
-/
namespace Playfield

/-- The counters of switch events, of those that brought no change, and of walks. -/
def Stats.ofSwitches (s : Stats) : Nat × Nat × Nat :=
  (s.switchEvents, s.duplicateEvents, s.dispatches)

/-- The counters that only walks can change in the engine. -/
def Stats.books (s : Stats) : (Nat × Nat × Nat) × Nat := (s.ofSwitches, s.deferredCommands)

namespace Engine
variable {σ κ : Type} {α : Type}

/-- The switches, and the counters that go with them. -/
def books (s : Engine σ κ × Scene κ) : SwitchStore × (Nat × Nat × Nat) × Nat :=
  (s.2.cabinet.switches, s.1.stats.books)

theorem keeps_books_count {f : Stats → Stats} (hf : ∀ s, (f s).books = s.books) :
    (count f : Step σ κ Unit).Keeps books :=
  .modify fun s => congrArg (Prod.mk s.2.cabinet.switches) (hf s.1.stats)

theorem keeps_books_inScene {f : Engine σ κ → Scene κ → Scene κ}
    (hf : ∀ e scene, (f e scene).cabinet.switches = scene.cabinet.switches) :
    (inScene f).Keeps books :=
  .modify fun s => congrArg (fun switches => (switches, s.1.stats.books)) (hf s.1 s.2)

theorem keeps_books_log (severity : Severity) (text : String) :
    (log severity text : Step σ κ Unit).Keeps books :=
  fun s => congrArg (fun switches => (switches, s.1.stats.books))
    (s.2.passes_remark severity text).switches

theorem keeps_books_onStack {x : Act Fault (ModeStack σ κ × Scene κ) α}
    (hx : x.Keeps fun s => s.2.cabinet.switches) : (onStack x).Keeps books :=
  hx.zoom fun s _ h => congrArg (fun switches => (switches, s.1.stats.books)) h

theorem keeps_books_onGame {x : Act Fault (Game σ κ × Scene κ) α} (hx : x.Within Game.Calm) :
    (onGame x).Keeps books :=
  hx.zoom fun s _ h => congrArg (fun switches => (switches, s.1.stats.books)) h.switches

theorem keeps_books_apply (r : Request κ) : (apply r : Step σ κ Unit).Keeps books := by
  cases r with
  | addMode id kind =>
    exact .bind .get fun _ => keeps_books_onStack fun s => (ModeStack.calm_add _ s).scene.switches
  | removeMode id =>
    exact .bind (keeps_books_onStack fun s => (ModeStack.calm_remove id s).scene.switches) fun _ =>
      .ite (.bind .get fun _ => keeps_books_log _ _) (.pure ())
  | game request =>
    exact .bind (keeps_books_onGame (Game.calm_apply request)) fun _ =>
      keeps_books_inScene fun _ _ => rfl
  | flippers enable =>
    exact .bind .get fun _ => .bind (fun _ => rfl) fun _ => keeps_books_inScene fun _ _ => rfl

theorem keeps_books_settle : (settle : Step σ κ Unit).Keeps books :=
  settle_within (keeps_books_inScene fun _ _ => rfl) keeps_books_log keeps_books_apply

theorem keeps_books_record (r : Report) : (record r : Step σ κ Unit).Keeps books :=
  keeps_books_count fun _ => rfl

theorem keeps_books_tick : (tick : Step σ κ Unit).Keeps books := by
  refine .bind (keeps_books_onStack fun s => ?_) fun _ =>
    .bind (keeps_books_record _) fun _ => .bind keeps_books_settle fun _ => .finish _
  obtain ⟨_, -, -, hpass⟩ := ModeStack.shift_tick s.1 s.2
  exact hpass.switches

theorem keeps_books_frame : (frame : Step σ κ Unit).Keeps books := by
  have failed (text : String) : (failFrame text : Step σ κ Unit).Keeps books :=
    .bind (keeps_books_count fun _ => rfl) fun _ => keeps_books_log _ _
  refine .bind (keeps_books_count fun _ => rfl) fun _ => .bind .get fun (e, _) => ?_
  dsimp only
  split
  · exact .pure ()
  · rename_i handler _
    refine .bind (keeps_books_inScene fun _ _ => rfl) fun _ =>
      .bind (fun s => ?_) fun outcome => ?_
    · exact congrArg (fun switches => (switches, s.1.stats.books))
        ((handler.run handler.memory).play_passes handler.memory s.2).switches
    · split
      · exact keeps_books_settle
      · exact .bind (.fail _) fun _ => keeps_books_settle
      · exact .bind (failed _) fun _ => keeps_books_settle
      · exact .bind (failed _) fun _ => keeps_books_settle

/-- A walk is counted, and changes nothing else in the books. -/
theorem books_dispatch (switch : Switch) (e : Engine σ κ) (scene : Scene κ) :
    books (dispatch switch (e, scene)).2 =
      (scene.cabinet.switches,
        (e.stats.switchEvents, e.stats.duplicateEvents, e.stats.dispatches + 1),
        e.stats.deferredCommands) := by
  let counted : Engine σ κ :=
    { e with stats := { e.stats with dispatches := e.stats.dispatches + 1 } }
  have hrest : (onStack (ModeStack.dispatch switch) >>= fun report =>
      record report >>= fun _ => settle >>= fun _ => Act.finish report.check :
        Step σ κ Unit).Keeps books := by
    refine .bind (keeps_books_onStack fun s => ?_) fun report =>
      .bind (keeps_books_record _) fun _ => .bind keeps_books_settle fun _ => .finish _
    obtain ⟨_, -, hpass⟩ := ModeStack.shift_dispatch switch s.1 s.2
    exact hpass.switches
  exact hrest (counted, scene)

end Engine

namespace Machine
variable {σ κ : Type} {α : Type}

/-- The switches, and the counters that go with them. -/
def books (m : Machine σ κ) : SwitchStore × (Nat × Nat × Nat) × Nat :=
  (m.cabinet.switches, m.engine.stats.books)

/-- What the books say of switches. -/
def tally (m : Machine σ κ) : SwitchStore × Nat × Nat × Nat :=
  (m.cabinet.switches, m.engine.stats.ofSwitches)

theorem keeps_tally {x : Step σ κ α} (hx : x.Keeps books) : x.Keeps tally := fun m =>
  congrArg (fun books => (books.1, books.2.1)) (hx m)

theorem keeps_books_inContext (now : Span) {body : Engine.Step σ κ α}
    (hbody : body.Keeps Engine.books) : (inContext now body).Keeps books := by
  intro m
  obtain ⟨t, hrest, hstate⟩ := inContext_leads Engine.keeps_books_settle now body m
  rw [hstate]
  exact hrest.trans (hbody (m.engine, m.scene now))

theorem keeps_tally_drainCommands (now : Span) :
    (drainCommands now : Step σ κ Unit).Keeps tally := by
  have one (c : Command) : (carryOut now c : Step σ κ Unit).Keeps tally := by
    refine .bind (.modify fun _ => rfl) fun _ m => ?_
    have hobey : (onCabinet (Cabinet.onDrivers (DriverBank.obey c.order now)) m).2.tally =
        m.tally := rfl
    split <;> rename_i h <;> rw [h] at hobey <;> exact hobey
  refine .bind (fun m => ?_) fun commands => .ite ?_ (.pure ())
  · rfl
  · exact .bind (fun _ => rfl) fun _ => .each one _

/-- A change of level that has been noted is walked down the stack once. -/
theorem books_handDown {number : Nat} {switch : Switch} {m : Machine σ κ}
    (found : m.cabinet.switches.get? number = some switch) (now : Span) :
    (inContext now (handDown number) m).2.books =
      (m.cabinet.switches,
        (m.engine.stats.switchEvents, m.engine.stats.duplicateEvents,
          m.engine.stats.dispatches + 1),
        m.engine.stats.deferredCommands) := by
  obtain ⟨t, hrest, hstate⟩ := inContext_leads Engine.keeps_books_settle now (handDown number) m
  rw [handDown_eq (m.scene now) found] at hrest
  rw [hstate]
  refine hrest.trans ?_
  exact Engine.books_dispatch switch m.engine ((m.scene now).remark .debug (changeText switch))

end Machine

/-! ### Stages -/

/-- If the stage is an aside, it keeps what the books say of switches. -/
def Stage.Spares {σ κ : Type} : Stage σ κ → Prop
  | .aside a => a.act.Keeps Machine.tally
  | _ => True

/-- If the call is something that happens between calls, it keeps what the books say of switches. -/
def Call.Spares {σ κ : Type} : Call σ κ → Prop
  | .outside a => a.act.Keeps Machine.tally
  | _ => True

namespace Stage
variable {σ κ : Type}

/-- Every stage but a switch event keeps what the books say of switches. -/
theorem keeps_tally {st : Stage σ κ} (spares : st.Spares)
    (other : ∀ e now, st = .event e now → e.kind.level? = none) : st.act.Keeps Machine.tally := by
  have inContext {α : Type} (now : Span) {body : Engine.Step σ κ α}
      (hbody : body.Keeps Engine.books) : (Machine.inContext now body).Keeps Machine.tally :=
    Machine.keeps_tally (Machine.keeps_books_inContext now hbody)
  cases st with
  | event e now =>
    intro m
    simp only [act, Machine.handleEvent, other e now rfl]
    generalize e.kind = kind
    cases kind with
    | frameDisplayed => exact inContext now Engine.keeps_books_frame m
    | _ => rfl
  | tick now => exact inContext now Engine.keeps_books_tick
  | join mode now =>
    exact inContext now
      (Engine.keeps_books_onStack fun s => (ModeStack.calm_add _ s).scene.switches)
  | leave id now =>
    exact .bind (inContext now
      (Engine.keeps_books_onStack fun s => (ModeStack.calm_remove _ s).scene.switches))
      fun _ => .pure ()
  | clear now =>
    exact inContext now
      (Engine.keeps_books_onStack fun s => (ModeStack.calm_clear s).scene.switches)
  | ask request now => exact inContext now (Engine.keeps_books_apply _)
  | aside a => exact spares

end Stage

namespace Call
variable {σ κ : Type}

theorem spares_plan {c : Call σ κ} (h : c.Spares) (m : Machine σ κ) :
    ∀ st ∈ c.plan m, st.Spares := by
  have poll : (Aside.poll : Aside σ κ).act.Keeps Machine.tally :=
    .bind .get fun _ => .bind (fun _ => rfl) fun _ => .pure ()
  have flippers (enable : Bool) : (Aside.flippers enable : Aside σ κ).act.Keeps Machine.tally :=
    .bind (fun _ => rfl) fun _ => .pure ()
  cases c with
  | step =>
    simp only [plan]
    split
    · rename_i events polled _
      have hevents : ∀ st ∈ events.map fun event => (.event event polled.now : Stage σ κ),
          st.Spares := by
        intro st hst
        obtain ⟨event, -, rfl⟩ := List.mem_map.mp hst
        exact trivial
      have hrest : ∀ st ∈ ([.tick polled.now, .aside (.drivers polled.now),
          .aside (.commands polled.now), .aside .tickle,
          .aside (.count fun s => { s with iterations := s.iterations + 1 })] :
            List (Stage σ κ)), st.Spares := by
        simp only [List.forall_mem_cons]
        exact ⟨trivial, fun _ => rfl, Machine.keeps_tally_drainCommands _, fun _ => rfl,
          fun _ => rfl, List.forall_mem_nil _⟩
      exact List.forall_mem_cons.mpr ⟨poll, List.forall_mem_append.mpr ⟨hevents, hrest⟩⟩
    · exact List.forall_mem_singleton.mpr poll
  | reset =>
    simp only [plan, List.forall_mem_cons]
    exact ⟨fun _ => rfl, trivial, fun _ => rfl, flippers false, List.forall_mem_nil _⟩
  | enableFlippers enable => exact List.forall_mem_singleton.mpr (flippers enable)
  | outside a => exact List.forall_mem_singleton.mpr h
  | processEvent | addMode | removeMode | requestGame => exact List.forall_mem_singleton.mpr trivial

theorem spares_stages {c : Call σ κ} (h : c.Spares) (m : Machine σ κ) :
    ∀ st ∈ c.stages m, st.Spares := fun st hst =>
  spares_plan h m st ((Act.tried_prefix _ _).subset hst)

theorem spares_change {f : Machine σ κ → Machine σ κ} {keeps : ∀ m, (f m).kept = m.kept}
    (hf : ∀ m, (f m).engine.stats.ofSwitches = m.engine.stats.ofSwitches) :
    (outside (.change f keeps)).Spares := by
  intro m
  have hswitches : (f m).cabinet.switches = m.cabinet.switches :=
    congrArg (fun k => k.2.1) (keeps m)
  exact Prod.ext hswitches (hf m)

end Call

namespace Machine
variable {σ κ : Type}

theorem spares_loopCalls (visits : List Visit) (m : Machine σ κ) :
    ∀ c ∈ loopCalls visits m, c.Spares := by
  induction visits generalizing m with
  | nil => exact List.forall_mem_nil _
  | cons visit rest ih =>
    have hvisit (isLast : Bool) : (Call.outside (.visit visit isLast) : Call σ κ).Spares :=
      Call.spares_change fun m => by
        cases isLast <;> rfl
    simp only [loopCalls]
    split
    · exact List.forall_mem_nil _
    · refine List.forall_mem_cons.mpr ⟨hvisit _, List.forall_mem_cons.mpr ⟨trivial, ?_⟩⟩
      split
      · exact ih _
      · exact List.forall_mem_singleton.mpr fun _ => rfl
      · exact List.forall_mem_singleton.mpr fun _ => rfl

theorem spares_close : (Call.outside .close : Call σ κ).Spares := by
  refine Call.spares_change fun m => ?_
  simp only [close]
  split
  · rfl
  · split <;> rfl

theorem spares_callsOf (ops : List (Operation σ κ)) (m : Machine σ κ) :
    ∀ c ∈ callsOf ops m, c.Spares := by
  induction ops generalizing m with
  | nil => exact List.forall_mem_nil _
  | cons op rest ih =>
    refine List.forall_mem_append.mpr ⟨?_, ih _⟩
    cases op with
    | run visits =>
      simp only [Operation.calls, runCalls]
      refine List.forall_mem_cons.mpr ⟨Call.spares_change fun _ => rfl, ?_⟩
      split
      · exact List.forall_mem_singleton.mpr fun _ => rfl
      · refine List.forall_mem_append.mpr ⟨List.forall_mem_cons.mpr ⟨fun _ => rfl, ?_⟩, ?_⟩
        · exact spares_loopCalls _ _
        · exact List.forall_mem_cons.mpr
            ⟨spares_close, List.forall_mem_singleton.mpr fun _ => rfl⟩
    | close => exact List.forall_mem_singleton.mpr spares_close
    | onFrame | enqueue | issue | bench | setClock =>
      exact List.forall_mem_singleton.mpr (Call.spares_change fun _ => rfl)
    | _ => exact List.forall_mem_singleton.mpr trivial

theorem spares_stagesOf {calls : List (Call σ κ)} (h : ∀ c ∈ calls, c.Spares) (m : Machine σ κ) :
    ∀ st ∈ m.stagesOf calls, st.Spares := by
  induction calls generalizing m with
  | nil => exact List.forall_mem_nil _
  | cons c rest ih =>
    obtain ⟨hc, hrest⟩ := List.forall_mem_cons.mp h
    exact List.forall_mem_append.mpr ⟨c.spares_stages hc m, ih hrest _⟩

end Machine

end Playfield
