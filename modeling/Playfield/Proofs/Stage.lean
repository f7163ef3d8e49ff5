import Playfield.Machine
import Playfield.Proofs.Registry
import Playfield.Proofs.Starts

/-!
# Calls and their stages

A call of the machine goes through stages: an event is dealt with, a tick takes place, a mode joins
or leaves, and in between come parts that touch neither the mode stack nor a switch and begin no
callback. `Call.plan` lists the stages of a call that goes well; a call that fails ends after the
stage that failed. A run, which is a sequence of calls, is then a sequence of stages.
-/
namespace Playfield

namespace Machine
variable {σ κ : Type}

/-- The machine that has taken note of a reported level and not dealt with it yet. -/
def noted (m : Machine σ κ) (number : Nat) (closed : Bool) (now : Span) : Machine σ κ :=
  { m with
    engine := { m.engine with
      stats := { m.engine.stats with switchEvents := m.engine.stats.switchEvents + 1 } }
    cabinet := { m.cabinet with switches := (m.cabinet.switches.report number closed now).2 } }

/-- The remark on a switch that has changed its level. -/
def changeText (switch : Switch) : String :=
  "switch '" ++ switch.name ++ "' " ++ if switch.isActive then "active" else "inactive"

/-- Hand the switch with a number down the stack as it stands. -/
def handDown (number : Nat) : Engine.Step σ κ Unit := do
  let (_, scene) ← .get
  match scene.cabinet.switches.get? number with
  | some switch =>
    Engine.log .debug (changeText switch)
    Engine.dispatch switch
  | none => pure ()

/-- Apart from a remark this is a dispatch of the switch. -/
theorem handDown_eq {number : Nat} {switch : Switch} (scene : Scene κ)
    (found : scene.cabinet.switches.get? number = some switch) (e : Engine σ κ) :
    handDown number (e, scene) =
      (Engine.log .debug (changeText switch) >>= fun _ => Engine.dispatch switch) (e, scene) := by
  refine (Act.bind_ok (a := (e, scene)) (t := (e, scene)) ?_).trans ?_
  · rfl
  · simp only [found]

/-- A reported level is noted, and then dealt with according to the level before. -/
theorem switchChanged_eq (number : Nat) (closed : Bool) (now : Span) (m : Machine σ κ) :
    switchChanged number closed now m =
      match (m.cabinet.switches.report number closed now).1 with
      | none =>
        log .warn ("event for unknown switch " ++ toString number) (m.noted number closed now)
      | some previous =>
        if previous = closed then
          (do
            count fun s => { s with duplicateEvents := s.duplicateEvents + 1 }
            log .trace ("switch " ++ toString number ++ " already " ++ levelText closed) :
              Step σ κ Unit) (m.noted number closed now)
        else
          inContext now (handDown number) (m.noted number closed now) := by
  refine (Act.bind_ok (a := ()) (t := { m with engine := { m.engine with
    stats := { m.engine.stats with switchEvents := m.engine.stats.switchEvents + 1 } } })
    ?_).trans ?_
  · rfl
  refine (Act.bind_ok (a := (m.cabinet.switches.report number closed now).1)
    (t := m.noted number closed now) ?_).trans ?_
  · rfl
  generalize (m.cabinet.switches.report number closed now).1 = previous
  cases previous with
  | none => rfl
  | some previous =>
    dsimp only
    split <;> rfl

/-- What a part of a call has to leave alone to be an aside: the stack, the switches and the record
of callbacks that have begun. -/
def kept (m : Machine σ κ) : ModeStack σ κ × SwitchStore × List (CallbackSite × Glimpse) :=
  (m.engine.stack, m.cabinet.switches, m.cabinet.bench.starts)

variable {ε α : Type}

theorem keeps_onBench {x : Act ε Bench α} (hx : x.Keeps Bench.starts) :
    (onCabinet (Cabinet.onBench x) : Act ε (Machine σ κ) α).Keeps kept := fun m =>
  congrArg (fun starts => (m.engine.stack, m.cabinet.switches, starts)) (hx m.cabinet.bench)

theorem keeps_onDrivers {x : Act ε (DriverBank × Bench) α} (hx : x.Keeps DriverBank.startsOf) :
    (onCabinet (Cabinet.onDrivers x) : Act ε (Machine σ κ) α).Keeps kept := fun m =>
  congrArg (fun starts => (m.engine.stack, m.cabinet.switches, starts))
    (hx (m.cabinet.drivers, m.cabinet.bench))

theorem keeps_log (severity : Severity) (text : String) :
    (log severity text : Act ε (Machine σ κ) Unit).Keeps kept :=
  keeps_onBench (.modify fun b => b.starts_remark severity text)

theorem keeps_count (f : Stats → Stats) : (count f : Step σ κ Unit).Keeps kept :=
  .modify fun _ => rfl

theorem keeps_carryOut (now : Span) (c : Command) :
    (carryOut now c : Step σ κ Unit).Keeps kept := by
  refine .bind (keeps_count _) fun _ m => ?_
  have hobey := keeps_onDrivers (DriverBank.keeps_starts_obey c.order now) m
  split <;> rename_i h <;> rw [h] at hobey
  · exact hobey
  · exact (keeps_log _ _ _).trans hobey
  · exact hobey
  · exact (keeps_log _ _ _).trans hobey
  · exact hobey

theorem keeps_drainCommands (now : Span) : (drainCommands now : Step σ κ Unit).Keeps kept := by
  refine .bind (fun m => ?_) fun commands => .ite ?_ (.pure ())
  · rfl
  · exact .bind (keeps_log _ _) fun _ => .each (keeps_carryOut now) _

theorem keeps_enableFlippers (enable : Bool) : (enableFlippers enable : Step σ κ Bool).Keeps kept :=
  fun m => congrArg (fun starts => (m.engine.stack, m.cabinet.switches, starts))
    (FlipperRules.keeps_starts_setEnabled enable m.now
      (m.engine.rules, m.cabinet.drivers, m.cabinet.bench))

variable {m : Machine σ κ} {number : Nat} {closed : Bool} {now : Span}

theorem kept_noted (h : (m.cabinet.switches.report number closed now).2 = m.cabinet.switches) :
    (m.noted number closed now).kept = m.kept := by
  rw [kept, kept, ← h]
  rfl

/-- An event for an unknown switch is only remarked on. -/
theorem kept_switchChanged_unknown (unknown : m.cabinet.switches.get? number = none) :
    (switchChanged number closed now m).2.kept = m.kept := by
  have hreport : m.cabinet.switches.report number closed now = (none, m.cabinet.switches) :=
    SwitchStore.report_unknown unknown
  rw [switchChanged_eq, hreport]
  exact (keeps_log _ _ _).trans (kept_noted (congrArg Prod.snd hreport))

/-- An event that brings no change is only counted and remarked on. -/
theorem kept_switchChanged_same {old : Switch} (found : m.cabinet.switches.get? number = some old)
    (same : old.closed = closed) : (switchChanged number closed now m).2.kept = m.kept := by
  have hreport : m.cabinet.switches.report number closed now =
    (some old.closed, m.cabinet.switches) := SwitchStore.report_same found same
  have hkeeps : (do
      count fun s => { s with duplicateEvents := s.duplicateEvents + 1 }
      log .trace ("switch " ++ toString number ++ " already " ++ levelText closed) :
        Step σ κ Unit).Keeps kept := .bind (keeps_count _) fun _ => keeps_log _ _
  rw [switchChanged_eq, hreport]
  simp only [same, if_true]
  exact (hkeeps _).trans (kept_noted (congrArg Prod.snd hreport))

/-- A change of level is noted and handed down the stack. -/
theorem switchChanged_change {old : Switch} (found : m.cabinet.switches.get? number = some old)
    (changed : old.closed ≠ closed) : switchChanged number closed now m =
      inContext now (handDown number) (m.noted number closed now) := by
  rw [switchChanged_eq, SwitchStore.report_fst found]
  simp only [changed, if_false]

end Machine

/-- A part of a call, or of what happens between calls, that touches neither the stack nor a switch
and begins no callback. -/
structure Aside (σ κ : Type) where
  act : Machine.Step σ κ Unit
  keeps : act.Keeps Machine.kept

/-- A stage of a call. -/
inductive Stage (σ κ : Type) where
  /-- An event is dealt with. -/
  | event (event : Event) (now : Span)
  /-- Pass hooks run, and held handlers that are due. -/
  | tick (now : Span)
  | join (mode : Mode σ κ) (now : Span)
  | leave (id : ModeId) (now : Span)
  /-- All modes leave. -/
  | clear (now : Span)
  | ask (request : GameRequest) (now : Span)
  | aside (aside : Aside σ κ)

/-- What a stage does. -/
def Stage.act {σ κ : Type} : Stage σ κ → Machine.Step σ κ Unit
  | .event e now => Machine.handleEvent e now
  | .tick now => Machine.inContext now Engine.tick
  | .join mode now => Machine.inContext now (Engine.onStack (ModeStack.add mode))
  | .leave id now => do
    let _ ← Machine.inContext now (Engine.onStack (ModeStack.remove id))
    return ()
  | .clear now => Machine.inContext now (Engine.onStack ModeStack.clear)
  | .ask request now => Machine.inContext now (Engine.apply (.game request))
  | .aside a => a.act

/-- Where a stage leads. -/
def Stage.run {σ κ : Type} (st : Stage σ κ) (m : Machine σ κ) : Machine σ κ := (st.act m).2

/-- Where stages lead, one after another. -/
def Machine.afterStages {σ κ : Type} (m : Machine σ κ) (stages : List (Stage σ κ)) : Machine σ κ :=
  stages.foldl (fun m st => st.run m) m

namespace Aside
variable {σ κ : Type}

/-- The board is asked for its events. -/
def poll : Aside σ κ where
  act := do
    let m ← .get
    let _ ← Machine.onCabinet (Cabinet.onBench (Bench.poll m.settings.includeFrameEvents))
    return ()
  keeps := .bind .get fun _ =>
    .bind (Machine.keeps_onBench (Bench.keeps_starts_poll _)) fun _ => .pure ()

/-- The drivers are brought up to date. -/
def drivers (now : Span) : Aside σ κ where
  act := Machine.onCabinet (Cabinet.onDrivers (DriverBank.tick now))
  keeps := Machine.keeps_onDrivers (DriverBank.keeps_starts_tick now)

/-- Posted commands are carried out. -/
def commands (now : Span) : Aside σ κ :=
  ⟨Machine.drainCommands now, Machine.keeps_drainCommands now⟩

/-- The watchdog is tickled. -/
def tickle : Aside σ κ where
  act := Machine.onCabinet (Cabinet.onBench Bench.tickle)
  keeps := Machine.keeps_onBench Bench.keeps_starts_tickle

/-- A counter is changed. -/
def count (f : Stats → Stats) : Aside σ κ := ⟨Machine.count f, Machine.keeps_count f⟩

/-- A remark is made. -/
def log (severity : Severity) (text : String) : Aside σ κ :=
  ⟨Machine.log severity text, Machine.keeps_log severity text⟩

/-- The game is ended without callbacks. -/
def resetGame : Aside σ κ where
  act := .modify fun m => { m with engine := { m.engine with game := m.engine.game.reset } }
  keeps := .modify fun _ => rfl

/-- Flippers and bumpers are turned on or off. -/
def flippers (enable : Bool) : Aside σ κ where
  act := do
    let _ ← Machine.enableFlippers enable
    return ()
  keeps := .bind (Machine.keeps_enableFlippers enable) fun _ => .pure ()

end Aside

/-- A call of the machine, or something that happens between calls. -/
inductive Call (σ κ : Type) where
  | processEvent (event : Event)
  | step
  | addMode (mode : Mode σ κ)
  | removeMode (id : ModeId)
  | requestGame (request : GameRequest)
  | enableFlippers (enable : Bool)
  | reset
  /-- The clock moves, an event arrives at the board, a mishap is planned, a command is posted. -/
  | outside (aside : Aside σ κ)

namespace Call
variable {σ κ : Type}

/-- Where a call leads, however it ends. -/
def run : Call σ κ → Machine σ κ → Machine σ κ
  | .processEvent event, m => (Machine.processEvent event m).2
  | .step, m => (Machine.step m).2
  | .addMode mode, m => (Machine.addMode mode m).2
  | .removeMode id, m => (Machine.removeMode id m).2
  | .requestGame request, m => (Machine.requestGame request m).2
  | .enableFlippers enable, m => (Machine.enableFlippers enable m).2
  | .reset, m => (Machine.reset m).2
  | .outside a, m => (a.act m).2

/-- The stages of a call that goes well. -/
def plan : Call σ κ → Machine σ κ → List (Stage σ κ)
  | .processEvent event, m => [.event event m.now]
  | .step, m =>
    match Machine.onCabinet (Cabinet.onBench (Bench.poll m.settings.includeFrameEvents)) m with
    | (.ok events, polled) =>
      .aside .poll :: (events.map fun event => .event event polled.now) ++
        [.tick polled.now, .aside (.drivers polled.now), .aside (.commands polled.now),
          .aside .tickle, .aside (.count fun s => { s with iterations := s.iterations + 1 })]
    | _ => [.aside .poll]
  | .addMode mode, m => [.join mode m.now]
  | .removeMode id, m => [.leave id m.now]
  | .requestGame request, m => [.ask request m.now]
  | .enableFlippers enable, _ => [.aside (.flippers enable)]
  | .reset, m =>
    [.aside (.log .info "resetting machine"), .clear m.now, .aside .resetGame,
      .aside (.flippers false)]
  | .outside a, _ => [.aside a]

/-- The stages a call goes through. -/
def stages (c : Call σ κ) (m : Machine σ κ) : List (Stage σ κ) := Act.tried Stage.act (c.plan m) m

theorem run_step (m : Machine σ κ) :
    (Machine.step m).2 = (Act.each Stage.act (plan .step m) m).2 := by
  rcases hpoll : Machine.onCabinet (Cabinet.onBench (Bench.poll m.settings.includeFrameEvents)) m
    with ⟨outcome, polled⟩
  cases outcome with
  | ok events =>
    have hplan : plan .step m = .aside .poll :: (events.map fun event => .event event polled.now) ++
        [.tick polled.now, .aside (.drivers polled.now), .aside (.commands polled.now),
          .aside .tickle, .aside (.count fun s => { s with iterations := s.iterations + 1 })] := by
      simp only [plan, hpoll]
    have hfirst : Stage.act (.aside .poll) m = (.ok (), polled) := Act.bind_ok hpoll
    have htail : Act.each Stage.act [.tick polled.now, .aside (.drivers polled.now),
        .aside (.commands polled.now), .aside .tickle,
        .aside (.count fun s => { s with iterations := s.iterations + 1 })] =
        (do
          Machine.inContext polled.now Engine.tick
          Machine.onCabinet (Cabinet.onDrivers (DriverBank.tick polled.now))
          Machine.drainCommands polled.now
          Machine.onCabinet (Cabinet.onBench Bench.tickle)
          Machine.count fun s => { s with iterations := s.iterations + 1 } :
            Machine.Step σ κ Unit) := by
      simp only [Act.each_cons, Act.each_nil, Act.bind_pure_unit]
      rfl
    rw [hplan, List.cons_append, Act.each_cons, Act.bind_ok hfirst, Act.each_append, Act.each_map,
      htail]
    exact congrArg Prod.snd (Act.bind_ok hpoll)
  | error e =>
    have hplan : plan .step m = [.aside .poll] := by simp only [plan, hpoll]
    have hfirst : Stage.act (.aside .poll) m = (.error e, polled) :=
      (Act.bind_ok rfl).trans (Act.bind_error hpoll)
    rw [hplan, Act.each_singleton, hfirst]
    exact congrArg Prod.snd ((Act.bind_ok rfl).trans (Act.bind_error hpoll))
  | panic message =>
    have hplan : plan .step m = [.aside .poll] := by simp only [plan, hpoll]
    have hfirst : Stage.act (.aside .poll) m = (.panic message, polled) :=
      (Act.bind_ok rfl).trans (Act.bind_panic hpoll)
    rw [hplan, Act.each_singleton, hfirst]
    exact congrArg Prod.snd ((Act.bind_ok rfl).trans (Act.bind_panic hpoll))

theorem run_reset (m : Machine σ κ) :
    (Machine.reset m).2 = (Act.each Stage.act (plan .reset m) m).2 := by
  let logged : Machine σ κ := { m with cabinet := { m.cabinet with
    bench := m.cabinet.bench.remark .info "resetting machine" } }
  have hlog : Machine.log .info "resetting machine" m =
    ((.ok (), logged) : Outcome Fault Unit × Machine σ κ) := rfl
  have hfirst : Stage.act (.aside (.log .info "resetting machine")) m = (.ok (), logged) := hlog
  simp only [plan, Act.each_cons, Act.each_nil, Act.bind_pure_unit]
  rw [Act.bind_ok hfirst]
  exact congrArg Prod.snd (Act.bind_ok hlog)

/-- A call leads where its stages lead. -/
theorem run_eq (c : Call σ κ) (m : Machine σ κ) : c.run m = m.afterStages (c.stages m) := by
  have hrun : c.run m = (Act.each Stage.act (c.plan m) m).2 := by
    cases c with
    | step => exact run_step m
    | reset => exact run_reset m
    | removeMode id =>
      rw [plan, Act.each_singleton]
      exact (Act.state_discard (Machine.inContext m.now (Engine.onStack (ModeStack.remove id)))
        m).symm
    | enableFlippers enable =>
      rw [plan, Act.each_singleton]
      exact (Act.state_discard _ m).symm
    | processEvent event => rw [plan, Act.each_singleton]; rfl
    | addMode mode => rw [plan, Act.each_singleton]; rfl
    | requestGame request => rw [plan, Act.each_singleton]; rfl
    | outside a => rw [plan, Act.each_singleton]; rfl
  rw [hrun, Act.each_state]
  rfl

end Call

namespace Machine
variable {σ κ : Type}

/-- Where a run of calls leads. -/
def afterCalls (m : Machine σ κ) (calls : List (Call σ κ)) : Machine σ κ :=
  calls.foldl (fun m c => c.run m) m

/-- The stages of a run. -/
def stagesOf (m : Machine σ κ) : List (Call σ κ) → List (Stage σ κ)
  | [] => []
  | c :: rest => c.stages m ++ stagesOf (c.run m) rest

theorem afterStages_append (m : Machine σ κ) (as bs : List (Stage σ κ)) :
    m.afterStages (as ++ bs) = (m.afterStages as).afterStages bs := List.foldl_append

/-- A run leads where its stages lead. -/
theorem afterCalls_eq (m : Machine σ κ) (calls : List (Call σ κ)) :
    m.afterCalls calls = m.afterStages (m.stagesOf calls) := by
  induction calls generalizing m with
  | nil => rfl
  | cons c rest ih =>
    rw [stagesOf, afterStages_append, ← c.run_eq]
    exact ih (c.run m)

end Machine

end Playfield
