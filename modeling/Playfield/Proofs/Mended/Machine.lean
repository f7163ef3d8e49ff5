import Playfield.Machine.Run
import Playfield.Proofs.Mended.Engine

/-!
# Machines whose callbacks are mended

Two machines are twins if they differ at most in that runs of the callbacks of the second are
mended. Every call gives the same answer on twins and leaves twins: the step lemma of a call is the
rule for sequencing, applied to the parts it consists of.
-/
namespace Playfield

variable {σ τ κ ι : Type} {M : σ → τ → Prop} {K : κ → ι → Prop}

namespace Cabinet.Alike
variable {c d : Cabinet}

theorem undergo (h : c.Alike d) (happening : Happening) :
    (c.undergo happening).Alike (d.undergo happening) := by
  cases happening with
  | bench a => exact h.perform a
  | command command => exact (h.enqueue command).2

theorem visit (h : c.Alike d) (visit : Visit) :
    (visit.foldl (fun c h => c.undergo h) c).Alike (visit.foldl (fun c h => c.undergo h) d) := by
  induction visit generalizing c d with
  | nil => exact h
  | cons happening rest ih => exact ih (h.undergo happening)

end Cabinet.Alike

namespace Machine

/-- The same machine, but runs of the callbacks of the second may be mended. -/
structure Twin (M : σ → τ → Prop) (K : κ → ι → Prop) (m : Machine σ κ) (m' : Machine τ ι) :
    Prop where
  cabinet : m.cabinet.Alike m'.cabinet
  engine : m.engine.Twin M K m'.engine
  settings : m.settings = m'.settings
  closed : m.closed = m'.closed

/-- Of twin machines, the one and the other do alike. -/
abbrev Alike {ε α : Type} (M : σ → τ → Prop) (K : κ → ι → Prop) (x : Act ε (Machine σ κ) α)
    (y : Act ε (Machine τ ι) α) : Prop :=
  x.Mirrors (Twin M K) Eq y

namespace Twin
variable {m : Machine σ κ} {m' : Machine τ ι}

theorem withCabinet (h : m.Twin M K m') {c d : Cabinet} (hc : c.Alike d) :
    Twin M K { m with cabinet := c } { m' with cabinet := d } :=
  ⟨hc, h.engine, h.settings, h.closed⟩

theorem withEngine (h : m.Twin M K m') {e : Engine σ κ} {e' : Engine τ ι} (he : e.Twin M K e') :
    Twin M K { m with engine := e } { m' with engine := e' } :=
  ⟨h.cabinet, he, h.settings, h.closed⟩

theorem now (h : m.Twin M K m') : m.now = m'.now := congrArg Clock.now h.cabinet.clock

theorem scene (h : m.Twin M K m') (now : Span) : (m.scene now).Alike K (m'.scene now) :=
  ⟨h.cabinet, rfl, rfl, h.engine.game.status, congrArg FlipperRules.enabled h.engine.rules, .nil⟩

theorem setStop (h : m.Twin M K m') (raised : Bool) :
    (m.setStop raised).Twin M K (m'.setStop raised) :=
  h.withCabinet (h.cabinet.withStop raised)

theorem remark (h : m.Twin M K m') (severity : Severity) (text : String) :
    (m.remark severity text).Twin M K (m'.remark severity text) :=
  h.withCabinet (h.cabinet.withBench (h.cabinet.bench.remark severity text))

theorem receive (h : m.Twin M K m') (visit : Visit) (isLast : Bool) :
    (m.receive visit isLast).Twin M K (m'.receive visit isLast) := by
  have hvisited := h.withCabinet (h.cabinet.visit visit)
  simp only [Machine.receive]
  split
  · exact hvisited.setStop true
  · exact hvisited

end Twin

variable {ε α : Type}

theorem alike_onCabinet {x : Act ε Cabinet α} (hx : x.Mirrors Cabinet.Alike Eq x) :
    Alike M K (onCabinet x : Act ε (Machine σ κ) α) (onCabinet x) :=
  hx.zoom (fun _ _ h => h.cabinet) fun _ _ _ _ h hc => h.withCabinet hc

theorem alike_onBench {x : Act ε Bench α} (hx : x.Mirrors Bench.Alike Eq x) :
    Alike M K (onCabinet (Cabinet.onBench x) : Act ε (Machine σ κ) α)
      (onCabinet (Cabinet.onBench x)) :=
  alike_onCabinet (Cabinet.mirrors_onBench hx)

theorem alike_onDrivers {x : Act ε (DriverBank × Bench) α} (hx : x.Mirrors DriverBank.Alike Eq x) :
    Alike M K (onCabinet (Cabinet.onDrivers x) : Act ε (Machine σ κ) α)
      (onCabinet (Cabinet.onDrivers x)) :=
  alike_onCabinet (Cabinet.mirrors_onDrivers hx)

theorem alike_log (severity : Severity) (text : String) :
    Alike M K (log severity text : Act ε (Machine σ κ) Unit) (log severity text) :=
  alike_onCabinet (Cabinet.mirrors_log severity text)

/-- A count of anything but failures. -/
theorem alike_count {f : Stats → Stats}
    (hf : ∀ s t, s.withoutFaults = t.withoutFaults → (f s).withoutFaults = (f t).withoutFaults) :
    Alike M K (count f : Step σ κ Unit) (count f) :=
  .modify fun _ _ h => h.withEngine (h.engine.withStats (hf _ _ h.engine.stats))

theorem alike_now : Alike (ε := ε) M K (Act.gets (Machine.now (σ := σ) (κ := κ)))
    (Act.gets Machine.now) :=
  .gets fun _ _ h => h.now

/-- What is done in a fresh scene is done alike, and so is what was asked for in it. -/
theorem alike_inContext (now : Span) {x : Engine.Step σ κ α} {y : Engine.Step τ ι α}
    (hxy : Engine.Alike M K x y) : Alike M K (inContext now x) (inContext now y) := by
  intro m m' h
  obtain ⟨o, o', s, s', hl, hr, hend, hstate⟩ :=
    hxy.run (s := (m.engine, m.scene now)) (t := (m'.engine, m'.scene now))
      ⟨h.engine, h.scene now⟩
  -- What was asked for is done after a failure too, but not after a panic.
  have hplaced {s : Engine σ κ × Scene κ} {s' : Engine τ ι × Scene ι}
      (hs : Engine.TwinIn M K s s') : Twin M K { m with engine := s.1, cabinet := s.2.cabinet }
        { m' with engine := s'.1, cabinet := s'.2.cabinet } :=
    ⟨hs.second.cabinet, hs.first, h.settings, h.closed⟩
  cases hend.eq
  simp only [inContext, hl, hr]
  cases o with
  | panic message => exact ⟨.panic message, hplaced hstate⟩
  | ok value =>
    obtain ⟨p, p', t, t', hl, hr, hend, hstate⟩ := Engine.alike_settle.run hstate
    cases hend.eq
    simp only [hl, hr]
    exact ⟨.refl (fun _ => rfl) _, hplaced hstate⟩
  | error f =>
    obtain ⟨p, p', t, t', hl, hr, hend, hstate⟩ := Engine.alike_settle.run hstate
    cases hend.eq
    simp only [hl, hr]
    exact ⟨.refl (fun _ => rfl) _, hplaced hstate⟩

/-- The rest may depend on the present time. -/
theorem alike_atNow {f : Span → Step σ κ α} {g : Span → Step τ ι α}
    (hfg : ∀ now, Alike M K (f now) (g now)) :
    Alike M K (do let m ← Act.get; f m.now) (do let m ← Act.get; g m.now) := by
  refine .bind .get fun m m' h => ?_
  rw [h.now]
  exact hfg _

theorem alike_addMode {mode : Mode σ κ} {mode' : Mode τ ι} (hmode : mode.Twin M K mode') :
    Alike M K (addMode mode) (addMode mode') :=
  alike_atNow fun now => alike_inContext now (Engine.mirrors_onStack (ModeStack.mirrors_add hmode))

theorem alike_removeMode (id : ModeId) :
    Alike M K (removeMode id : Step σ κ Bool) (removeMode id) :=
  alike_atNow fun now => alike_inContext now (Engine.mirrors_onStack (ModeStack.mirrors_remove id))

theorem alike_requestGame (r : GameRequest) :
    Alike M K (requestGame r : Step σ κ Unit) (requestGame r) :=
  alike_atNow fun now => alike_inContext now (Engine.alike_apply (.game r))

theorem alike_enableFlippers (enable : Bool) :
    Alike M K (enableFlippers enable : Step σ κ Bool) (enableFlippers enable) := by
  intro m m' h
  have hrules := FlipperRules.mirrors_setEnabled enable m.now
    (s := (m.engine.rules, m.cabinet.drivers, m.cabinet.bench))
    (t := (m'.engine.rules, m'.cabinet.drivers, m'.cabinet.bench))
    ⟨h.engine.rules, h.cabinet.drivers, h.cabinet.bench⟩
  simp only [enableFlippers, ← h.now]
  exact ⟨hrules.1, h.cabinet.withDrivers hrules.2.second,
    h.engine.withRules hrules.2.first, h.settings, h.closed⟩

theorem alike_reset : Alike M K (reset : Step σ κ Unit) reset := by
  refine (alike_log _ _).next fun _ => .bind .get fun m m' h => ?_
  rw [h.now]
  refine (alike_inContext _ (Engine.mirrors_onStack ModeStack.mirrors_clear)).next fun _ =>
    .next (.modify fun _ _ h => ?_) fun _ => (alike_enableFlippers false).next fun _ => .pure rfl
  exact h.withEngine (h.engine.withGame h.engine.game.reset)

/-! ### Passes -/

theorem alike_switchChanged (number : Nat) (closed : Bool) (now : Span) :
    Alike M K (switchChanged number closed now : Step σ κ Unit)
      (switchChanged number closed now) := by
  refine .next (alike_count fun _ _ h => ?_) fun _ => .next (?_ : Alike M K _ _) fun previous => ?_
  · exact congrArg (fun s => { s with switchEvents := s.switchEvents + 1 }) h
  · intro m m' h
    dsimp only
    rw [h.cabinet.switches]
    exact ⟨.ok rfl, h.withCabinet (h.cabinet.withSwitches rfl)⟩
  · cases previous with
    | none => exact alike_log _ _
    | some previous =>
      refine .ite (.next (alike_count fun _ _ h => ?_) fun _ => alike_log _ _)
        (alike_inContext now (.bind .get ?_))
      · exact congrArg (fun s => { s with duplicateEvents := s.duplicateEvents + 1 }) h
      · rintro ⟨e, scene⟩ ⟨e', scene'⟩ h
        have hswitches : scene.cabinet.switches = scene'.cabinet.switches :=
          h.second.cabinet.switches
        dsimp only
        rw [hswitches]
        cases scene'.cabinet.switches.get? number with
        | none => exact .pure rfl
        | some switch =>
          exact (Engine.alike_log _ _).next fun _ => Engine.alike_dispatch switch

theorem alike_handleEvent (event : Event) (now : Span) :
    Alike M K (handleEvent event now : Step σ κ Unit) (handleEvent event now) := by
  simp only [handleEvent]
  split
  · exact alike_switchChanged _ _ _
  · split
    · exact alike_inContext now Engine.alike_frame
    · exact alike_log _ _

theorem alike_processEvent (event : Event) :
    Alike M K (processEvent event : Step σ κ Unit) (processEvent event) :=
  alike_atNow fun now => alike_handleEvent event now

theorem alike_carryOut (now : Span) (c : Command) :
    Alike M K (carryOut now c : Step σ κ Unit) (carryOut now c) := by
  refine .next (alike_count fun _ _ h => ?_) fun _ m m' h => ?_
  · exact congrArg (fun s => { s with deferredCommands := s.deferredCommands + 1 }) h
  · obtain ⟨o, o', n, n', hl, hr, hend, hstate⟩ :=
      (alike_onDrivers (DriverBank.mirrors_obey c.order now)).run h
    cases hend.eq
    rw [hl, hr]
    rcases o with _ | e | message
    · exact ⟨.ok rfl, hstate⟩
    · cases e with
      | unknown name => exact alike_log _ _ hstate
      | board f => exact ⟨.error f, hstate⟩
      | notVirtual name => exact alike_log _ _ hstate
    · exact ⟨.panic message, hstate⟩

theorem alike_drainCommands (now : Span) :
    Alike M K (drainCommands now : Step σ κ Unit) (drainCommands now) := by
  refine .next (?_ : Alike M K _ _) fun commands => .ite
    ((alike_log _ _).next fun _ => .each_same commands fun c => alike_carryOut now c) (.pure rfl)
  intro m m' h
  dsimp only
  rw [h.cabinet.queue]
  exact ⟨.ok rfl, h.withCabinet (h.cabinet.withQueue rfl)⟩

/-- Passes go alike. -/
theorem alike_step : Alike M K (step : Step σ κ Unit) step := by
  refine .bind .get fun m m' h => ?_
  rw [h.settings]
  refine (alike_onBench (Bench.mirrors_poll _)).next fun events => alike_now.next fun now =>
    (Act.Mirrors.each_same events fun event => alike_handleEvent event now).next fun _ =>
    (alike_inContext now Engine.alike_tick).next fun _ =>
    (alike_onDrivers (DriverBank.mirrors_tick now)).next fun _ =>
    (alike_drainCommands now).next fun _ =>
    (alike_onBench Bench.mirrors_tickle).next fun _ => alike_count fun _ _ h => ?_
  exact congrArg (fun s => { s with iterations := s.iterations + 1 }) h

variable {m : Machine σ κ} {m' : Machine τ ι}

theorem Twin.close (h : m.Twin M K m') : m.close.Twin M K m'.close := by
  simp only [Machine.close, h.closed]
  split
  · exact h
  · obtain ⟨o, o', b, b', hl, hr, hend, hbench⟩ := Bench.mirrors_close.run h.cabinet.bench
    cases hend.eq
    have hclosed {b b' : Bench} (hb : b.Alike b') :
        Twin M K { m with closed := true, cabinet := { m.cabinet with bench := b } }
          { m' with closed := true, cabinet := { m'.cabinet with bench := b' } } :=
      ⟨h.cabinet.withBench hb, h.engine, h.settings, rfl⟩
    rw [hl, hr]
    cases o with
    | error f => exact hclosed (hbench.remark _ _)
    | ok _ => exact hclosed hbench
    | panic message => exact hclosed hbench

theorem alike_loop (visits : List Visit) (iterations : Nat) (h : m.Twin M K m') :
    (loop visits iterations m).1 = (loop visits iterations m').1 ∧
      (loop visits iterations m).2.Twin M K (loop visits iterations m').2 := by
  induction visits generalizing iterations m m' with
  | nil => exact ⟨rfl, h⟩
  | cons visit rest ih =>
    simp only [loop, h.cabinet.stopRaised]
    split
    · exact ⟨rfl, h⟩
    · obtain ⟨o, o', n, n', hl, hr, hend, hstate⟩ :=
        alike_step.run (h.receive visit rest.isEmpty)
      cases hend.eq
      rw [hl, hr]
      cases o with
      | ok _ => exact ih _ hstate
      | error f => exact ⟨rfl, hstate.remark _ _⟩
      | panic message => exact ⟨rfl, hstate.remark _ _⟩

/-- Runs go alike. -/
theorem alike_run (visits : List Visit) (h : m.Twin M K m') :
    (run visits m).1 = (run visits m').1 ∧ (run visits m).2.Twin M K (run visits m').2 := by
  have hbegun := h.setStop visits.isEmpty
  simp only [run, hbegun.closed]
  split
  · exact ⟨rfl, hbegun.remark _ _⟩
  · obtain ⟨hreport, hstate⟩ :=
      alike_loop visits 0 (hbegun.remark .info "run loop starting")
    generalize loop visits 0 _ = p at hreport hstate ⊢
    generalize loop visits 0 _ = q at hreport hstate ⊢
    obtain ⟨report, n⟩ := p
    obtain ⟨report', n'⟩ := q
    cases hreport
    exact ⟨rfl, hstate.close.remark _ _⟩

end Machine

end Playfield
