import Playfield.Machine.Run
import Playfield.Proofs.Moves

/-!
# What is done on the bench

All that a callback or the host does on the bench comes down to a few things: a remark is made, a
callback begins, a rule is written, an output is driven, or something befalls the bench. A relation
between benches that holds of these, and of two steps if it holds of each, holds of every walk,
every request and every event (`Bench.Spans.handleEvent`). Polls, the watchdog and the closing of
the board are the only other calls, and belong to the loop.
-/
namespace Playfield

instance {S T : Type} {R : T → T → Prop} [Composes R] (view : S → T) :
    Composes (InvImage R view) where
  refl s := Composes.refl (view s)
  trans h h' := Composes.trans (R := R) h h'

namespace Scene
variable {κ τ : Type}

/-- From one scene to another the bench went along the relation. -/
def Since (R : Bench → Bench → Prop) (t s : Scene κ) : Prop := R s.cabinet.bench t.cabinet.bench

/-- The same of states that come with a scene. -/
abbrev Works (R : Bench → Bench → Prop) (s t : τ × Scene κ) : Prop := t.2.Since R s.2

variable {R : Bench → Bench → Prop} [Composes R] {s t u : Scene κ}

theorem Since.of_eq (h : t.cabinet.bench = s.cabinet.bench) : t.Since R s := by
  rw [Since, h]
  exact Composes.refl _

theorem Since.trans (h : t.Since R s) (h' : u.Since R t) : u.Since R s :=
  Composes.trans (R := R) h h'

instance : Composes (Works (κ := κ) (τ := τ) R) where
  refl _ := .of_eq rfl
  trans := .trans

end Scene

/-- From one state to another the bench went along the relation, and no pass was counted. -/
def Engine.Works {σ κ : Type} (R : Bench → Bench → Prop) (s t : Engine σ κ × Scene κ) : Prop :=
  t.2.Since R s.2 ∧ t.1.stats.iterations = s.1.stats.iterations

instance {σ κ : Type} {R : Bench → Bench → Prop} [Composes R] :
    Composes (Engine.Works (σ := σ) (κ := κ) R) where
  refl _ := ⟨.of_eq rfl, rfl⟩
  trans h h' := ⟨h.1.trans h'.1, h'.2.trans h.2⟩

/-- From one machine to another the bench went along the relation, no pass was counted, and the
machine is closed if it was. -/
structure Machine.Works {σ κ : Type} (R : Bench → Bench → Prop) (m m' : Machine σ κ) : Prop where
  bench : R m.cabinet.bench m'.cabinet.bench
  iterations : m'.engine.stats.iterations = m.engine.stats.iterations
  closed : m'.closed = m.closed

instance {σ κ : Type} {R : Bench → Bench → Prop} [Composes R] :
    Composes (Machine.Works (σ := σ) (κ := κ) R) where
  refl m := ⟨Composes.refl m.cabinet.bench, rfl, rfl⟩
  trans h h' := ⟨Composes.trans h.bench h'.bench, h'.iterations.trans h.iterations,
    h'.closed.trans h.closed⟩

namespace Bench

/-- The relation holds of all that is done on a bench but for polls, the watchdog and closing. -/
structure Spans (R : Bench → Bench → Prop) : Prop where
  remark : ∀ severity text b, R b (b.remark severity text)
  began : ∀ site glimpse b, R b (b.enter (.began site glimpse))
  ended : ∀ fault b, R b (b.enter (.ended fault))
  install : ∀ rule driveNow, (install rule driveNow).Within R
  drive : ∀ c, (drive c).Within R
  perform : ∀ (a : BenchAct) (c : Cabinet), R c.bench (c.perform a).bench

namespace Spans
variable {R : Bench → Bench → Prop} (h : Spans R) {ε : Type}
include h

/-! ### Drivers and rules -/

theorem log (severity : Severity) (text : String) :
    (Bench.log severity text : Act ε _ _).Within R :=
  .modify (h.remark severity text)

theorem send (c : DriverCall) (f : Driver → Driver) :
    (Driver.send c f).Within (InvImage R Prod.snd) := by
  rintro ⟨d, b⟩
  have hdrive := h.drive c b
  simp only [Driver.send]
  split <;> rename_i hd <;> rw [hd] at hdrive <;> exact hdrive

theorem pulse (ms : Nat) (now : Span) : (Driver.pulse ms now).Within (InvImage R Prod.snd) := by
  rintro ⟨d, b⟩
  simp only [Driver.pulse]
  split
  · exact h.send _ _ (d, b)
  · split
    · exact h.send _ _ (d, b)
    · have hsend := h.send (.pulse d.number ms) (fun d => { d with schedule := none }) (d, b)
      split
      · rename_i hs; rw [hs] at hsend; exact hsend
      · exact hsend

theorem disable (now : Span) : (Driver.disable now).Within (InvImage R Prod.snd) :=
  fun (d, b) => h.send _ _ (d, b)

theorem patter (onMs offMs firstMs : Nat) (now : Span) :
    (Driver.patter onMs offMs firstMs now).Within (InvImage R Prod.snd) :=
  fun (d, b) => h.send _ _ (d, b)

variable [Composes R]

theorem tickDriver (now : Span) : (Driver.tick now).Within (InvImage R Prod.snd) := by
  rintro ⟨d, b⟩
  simp only [Driver.tick]
  split
  · exact Composes.refl b
  · split
    · exact Composes.refl b
    · split
      · exact h.disable now (d, b)
      · split
        · exact h.send _ _ (d, b)
        · exact Composes.refl b

theorem order (o : Order) (now : Span) : (o.act now).Within (InvImage R Prod.snd) := by
  cases o with
  | pulse _ ms => exact (h.pulse ms now).mapError _
  | pulseDefault _ => exact fun (d, b) => (h.pulse d.pulseMs now).mapError _ (d, b)
  | disable _ => exact (h.disable now).mapError _
  | patter _ onMs offMs firstMs => exact (h.patter onMs offMs firstMs now).mapError _
  | schedule _ mask cycles =>
    rintro ⟨d, b⟩
    simp only [Order.act]
    split <;> exact Composes.refl b

theorem obey (o : Order) (now : Span) : (DriverBank.obey o now).Within (InvImage R Prod.snd) := by
  rintro ⟨bank, b⟩
  simp only [DriverBank.obey]
  split
  · rename_i slot d _ _
    exact h.order o now (d, b)
  · exact Composes.refl b

omit [Composes R] in
theorem byNumber {x : Act Fault (Driver × Bench) Unit} (hx : x.Within (InvImage R Prod.snd))
    (number : Nat) (c : DriverCall) :
    (DriverBank.byNumber number x c).Within (InvImage R Prod.snd) := by
  rintro ⟨bank, b⟩
  simp only [DriverBank.byNumber]
  split
  · rename_i slot d _ _
    exact hx (d, b)
  · exact h.drive c b

theorem tickDrivers (now : Span) : (DriverBank.tick now).Within (InvImage R Prod.snd) := by
  have hlist (ds : List Driver) (b : Bench) : R b (DriverBank.tickList now ds b).2.2 := by
    induction ds generalizing b with
    | nil => exact Composes.refl b
    | cons d rest ih =>
      have htick := h.tickDriver now (d, b)
      simp only [DriverBank.tickList]
      split <;> rename_i hd <;> rw [hd] at htick
      · exact Composes.trans htick (ih _)
      · exact htick
  exact fun s => hlist s.1.toList s.2

theorem rules (r : FlipperRules) (enable : Bool) (now : Span) :
    (r.apply enable now).Within (InvImage R Prod.snd) := by
  have beside {ε α : Type} {x : Act ε Bench α} (hx : x.Within R) :
      (Act.second x : Act ε (DriverBank × Bench) α).Within (InvImage R Prod.snd) :=
    hx.zoom fun _ _ h => h
  have off (n : Nat) : (DriverBank.disableNumber n now).Within (InvImage R Prod.snd) :=
    h.byNumber (h.disable now) _ _
  have hold (n : Nat) : (DriverBank.holdNumber n now).Within (InvImage R Prod.snd) :=
    h.byNumber (h.pulse 0 now) _ _
  refine .bind (beside (h.log _ _)) fun _ =>
    .bind (.each (fun rule => beside (h.install rule false)) _) fun _ =>
    .ite (.bind (.each off _) fun _ => ?_) ?_
  all_goals
    dsimp only
    cases r.relay with
    | none => exact .pure ()
    | some relay => exact .ite (hold relay) (off relay)

theorem setEnabled (enable : Bool) (now : Span) :
    (FlipperRules.setEnabled enable now).Within (InvImage R fun s => s.2.2) := by
  rintro ⟨r, s⟩
  have hrules := h.rules r enable now s
  simp only [FlipperRules.setEnabled]
  split
  · exact Composes.refl s.2
  · split <;> rename_i hs <;> rw [hs] at hrules <;> exact hrules

theorem cancelUnsatisfied (s : Switch) :
    (HoldQueue.cancelUnsatisfied s : Act ε _ _).Within (InvImage R Prod.snd) := by
  rintro ⟨q, b⟩
  simp only [HoldQueue.cancelUnsatisfied, InvImage]
  split
  · exact Composes.refl b
  · exact h.remark _ _ b

theorem takeDue (now : Span) (store : SwitchStore) :
    (HoldQueue.takeDue now store : Act ε _ _).Within (InvImage R Prod.snd) := by
  have hlate (o : Obligation) (s : HoldQueue × Bench) :
      R s.2 (HoldQueue.noteLateness now o s).2 := by
    obtain ⟨q, b⟩ := s
    simp only [HoldQueue.noteLateness]
    split
    · exact Composes.refl b
    · dsimp only
      split <;> exact h.remark _ _ b
  have hall (due : List Obligation) (s : HoldQueue × Bench) :
      R s.2 (due.foldl (fun s o => HoldQueue.noteLateness now o s) s).2 := by
    induction due generalizing s with
    | nil => exact Composes.refl s.2
    | cons o rest ih => exact Composes.trans (hlate o s) (ih _)
  rintro ⟨q, b⟩
  simp only [HoldQueue.takeDue]
  split
  · exact Composes.refl b
  · exact hall _ ({ q with pending := q.pending.filter (HoldQueue.isWaiting now store) }, b)

/-! ### Callbacks and the mode stack -/

variable {σ κ : Type}

omit [Composes R] in
theorem remarkScene (severity : Severity) (text : String) (s : Scene κ) :
    (s.remark severity text).Since R s := h.remark severity text s.cabinet.bench

omit [Composes R] in
theorem beginScene (site : CallbackSite) (s : Scene κ) : (s.begin site).Since R s :=
  h.began site ⟨s.now, s.running, s.game, s.flippers⟩ s.cabinet.bench

theorem play (c : Callback σ κ) (m : σ) (scene : Scene κ) :
    (c.play (m, scene)).2.2.Since R scene := by
  induction c generalizing m scene with
  | done ending => exact h.ended _ scene.cabinet.bench
  | remember memory next ih => exact ih memory scene
  | look next ih => exact ih scene.view m scene
  | order o next ih =>
    have hobey : (Scene.onCabinet (Cabinet.onDrivers (DriverBank.obey o scene.now)) scene).2.Since R
        scene :=
      h.obey o scene.now (scene.cabinet.drivers, scene.cabinet.bench)
    exact hobey.trans (ih _ m _)
  | ask request next ih => exact ih m { scene with requests := scene.requests ++ [request] }
  | issue tag next ih =>
    exact ih _ m { scene with
      cabinet := { scene.cabinet with ids := (scene.cabinet.ids.issue tag).2 } }
  | enqueue command next ih =>
    have hposted : { scene with cabinet := (scene.cabinet.enqueue command).2 }.Since R scene :=
      .of_eq (scene.cabinet.enqueue_frame command).2
    exact hposted.trans (ih _ m _)
  | act a next ih =>
    have hacted : { scene with cabinet := scene.cabinet.perform a }.Since R scene :=
      h.perform a scene.cabinet
    exact hacted.trans (ih m _)

theorem handle (binding : Nat) (switch : Switch) (s : Mode σ κ × Scene κ) :
    (Mode.handle binding switch s).2.2.Since R s.2 := by
  obtain ⟨m, scene⟩ := s
  simp only [Mode.handle]
  split
  · exact h.play _ m.memory scene
  · exact .of_eq rfl

theorem runHook (hook : ModeHook) (s : Mode σ κ × Scene κ) :
    (Mode.runHook hook s).2.2.Since R s.2 := h.play _ s.1.memory s.2

theorem guarded {x : Act HandlerError (Mode σ κ × Scene κ) Verdict}
    (hx : x.Within (Scene.Works R)) (site : CallbackSite) (m : Mode σ κ)
    (scene : Scene κ) : (Mode.guarded site x m scene).2.2.Since R scene :=
  have hbegun := h.beginScene site { scene with running := some m.id }
  have hcall := hbegun.trans (hx (m, { scene with running := some m.id }.begin site))
  hcall

theorem settleHook (outcome : Except FaultReason Verdict) (s : ModeStack σ κ × Scene κ) :
    (ModeStack.settleHook outcome s).2.2.Since R s.2 := by
  simp only [ModeStack.settleHook]
  split
  · exact .of_eq rfl
  · exact .of_eq rfl
  · exact h.remarkScene _ _ s.2

theorem add (m : Mode σ κ) : (ModeStack.add m).Within (Scene.Works R) := by
  rintro ⟨s, scene⟩
  simp only [ModeStack.add]
  split
  · exact h.remarkScene _ _ scene
  · have hhook (scene : Scene κ) := h.guarded (h.runHook .started) (.hook m.id .started) m scene
    exact (h.remarkScene .debug _ scene).trans ((hhook _).trans (h.settleHook _ _))

theorem remove (id : ModeId) :
    (ModeStack.remove (σ := σ) (κ := κ) id).Within (Scene.Works R) := by
  rintro ⟨s, scene⟩
  simp only [ModeStack.remove]
  split
  · exact Scene.Since.of_eq rfl
  · rename_i slot _
    have hhook (scene : Scene κ) :=
      h.guarded (h.runHook .stopped) (.hook id .stopped) slot.mode scene
    exact (h.remarkScene .debug _ scene).trans ((hhook _).trans (h.settleHook _ _))

theorem walkBindings (switch : Switch) (bs : List Binding) (m : Mode σ κ) (w : Walk κ) :
    (ModeStack.walkBindings switch bs m w).2.2.scene.Since R w.scene := by
  induction bs generalizing m w with
  | nil => exact .of_eq rfl
  | cons b rest ih =>
    simp only [ModeStack.walkBindings]
    split
    · exact ih m (w.schedule m.id switch b _)
    · have hcall := h.guarded (h.handle b.number switch) (.handler m.id b.number switch.name) m
        w.scene
      split
      · exact hcall.trans (ih _ _)
      · exact hcall.trans (ih _ _)
      · exact hcall.trans ((h.remarkScene .error _ _).trans (ih _ _))

theorem walkModes (switch : Switch) (slots : List (Slot σ κ)) (w : Walk κ) :
    (ModeStack.walkModes switch slots w).2.scene.Since R w.scene := by
  induction slots generalizing w with
  | nil => exact .of_eq rfl
  | cons slot rest ih =>
    have hmode := h.walkBindings switch
      ((slot.mode.bindings switch.name).filter fun b => b.condition.holds switch) slot.mode w
    simp only [ModeStack.walkModes]
    split <;> rename_i hw <;> rw [hw] at hmode
    · exact hmode.trans (h.remarkScene .trace _ _)
    · exact hmode.trans (ih _)

omit h [Composes R] in
theorem onHolds {α : Type} {x : Act ε (HoldQueue × Bench) α}
    (hx : x.Within (InvImage R Prod.snd)) :
    (ModeStack.onHolds (σ := σ) (κ := κ) x).Within (Scene.Works R) :=
  hx.zoom fun _ _ hb => hb

theorem walk (switch : Switch) :
    (ModeStack.dispatch switch : Act ε (ModeStack σ κ × Scene κ) Report).Within
      (Scene.Works R) :=
  .bind (onHolds (h.cancelUnsatisfied switch)) fun _ (s, scene) =>
    h.walkModes switch s.slots { holds := s.holds, faultCount := s.faultCount, scene }

theorem tickModes (slots : List (Slot σ κ)) (w : Walk κ) :
    (ModeStack.tickModes slots w).2.scene.Since R w.scene := by
  induction slots generalizing w with
  | nil => exact .of_eq rfl
  | cons slot rest ih =>
    have hhook := h.guarded (h.runHook .tick) (.hook slot.mode.id .tick) slot.mode w.scene
    simp only [ModeStack.tickModes]
    split
    · exact hhook.trans (ih _)
    · exact hhook.trans ((h.remarkScene .error _ _).trans (ih _))

theorem fireDue (due : List Obligation) (slots : List (Slot σ κ)) (w : Walk κ) :
    (ModeStack.fireDue due slots w).2.scene.Since R w.scene := by
  induction due generalizing slots w with
  | nil => exact .of_eq rfl
  | cons o rest ih =>
    simp only [ModeStack.fireDue]
    split
    · rename_i switch slot _ _
      have hcall := h.guarded (h.handle o.binding switch) (.handler o.mode o.binding switch.name)
        slot.mode w.scene
      split
      · exact hcall.trans (ih _ _)
      · exact hcall.trans ((h.remarkScene .error _ _).trans (ih _ _))
    · exact ih _ _

theorem pass : (ModeStack.tick : Act ε (ModeStack σ κ × Scene κ) Report).Within
    (Scene.Works R) :=
  .bind (fun (s, scene) =>
      h.tickModes s.slots { holds := s.holds, faultCount := s.faultCount, scene }) fun report =>
    .bind (fun (s, scene) => onHolds (h.takeDue scene.now scene.cabinet.switches) (s, scene))
      fun due (s, scene) => h.fireDue due s.slots
        { holds := s.holds, faultCount := s.faultCount, report, scene }

/-! ### The game and the engine -/

theorem game : Game.Spans (σ := σ) (κ := κ) (Scene.Works R) where
  log severity text := fun s => h.remarkScene severity text s.2
  update _ := fun _ => Scene.Since.of_eq rfl
  updateBanks _ := fun _ => Scene.Since.of_eq rfl
  reveal := fun _ => Scene.Since.of_eq rfl
  notify hook := by
    rintro ⟨g, scene⟩
    have hbegun := h.beginScene (.lifecycle hook) { scene with game := g.status }
    have hplay := hbegun.trans (h.play (g.hook hook g.memory) g.memory _)
    simp only [Game.notify]
    split
    · exact hplay
    · exact hplay
    · exact Scene.Since.trans hplay (h.remarkScene .error _ _)

variable {α : Type}

omit h [Composes R] in
theorem onStack {x : Act Fault (ModeStack σ κ × Scene κ) α} (hx : x.Within (Scene.Works R)) :
    (Engine.onStack x).Within (Engine.Works R) := hx.zoom fun _ _ hs => ⟨hs, rfl⟩

omit h in
theorem count {f : Stats → Stats} (hf : ∀ s, (f s).iterations = s.iterations) :
    (Engine.count f : Engine.Step σ κ Unit).Within (Engine.Works R) :=
  .modify fun s => ⟨.of_eq rfl, hf s.1.stats⟩

omit h in
theorem inScene {f : Engine σ κ → Scene κ → Scene κ}
    (hf : ∀ e scene, (f e scene).cabinet.bench = scene.cabinet.bench) :
    (Engine.inScene f).Within (Engine.Works R) :=
  .modify fun s => ⟨.of_eq (hf s.1 s.2), rfl⟩

omit [Composes R] in
theorem logEngine (severity : Severity) (text : String) :
    (Engine.log severity text : Engine.Step σ κ Unit).Within (Engine.Works R) :=
  fun s => ⟨h.remarkScene severity text s.2, rfl⟩

theorem apply (r : Request κ) :
    (Engine.apply r : Engine.Step σ κ Unit).Within (Engine.Works R) := by
  cases r with
  | addMode id kind => exact .bind .get fun _ => onStack (h.add _)
  | removeMode id =>
    exact .bind (onStack (h.remove id)) fun _ =>
      .ite (.bind .get fun _ => h.logEngine _ _) (.pure ())
  | game request =>
    have hgame : (Engine.onGame (Game.apply request) : Engine.Step σ κ Unit).Within
        (Engine.Works R) := (h.game.apply request).zoom fun _ _ hs => ⟨hs, rfl⟩
    exact .bind hgame fun _ => inScene fun _ _ => rfl
  | flippers enable =>
    have hrules (now : Span) : (Engine.onRules (FlipperRules.setEnabled enable now) :
        Engine.Step σ κ Bool).Within (Engine.Works R) :=
      (h.setEnabled enable now).zoom fun _ _ hs => ⟨hs, rfl⟩
    exact .bind .get fun s => .bind (hrules s.2.now) fun _ => inScene fun _ _ => rfl

theorem settle : (Engine.settle : Engine.Step σ κ Unit).Within (Engine.Works R) :=
  Engine.settle_within (inScene fun _ _ => rfl) h.logEngine h.apply

theorem dispatch (switch : Switch) :
    (Engine.dispatch switch : Engine.Step σ κ Unit).Within (Engine.Works R) :=
  .bind (count fun _ => rfl) fun _ => .bind (onStack (h.walk switch)) fun _ =>
    .bind (count fun _ => rfl) fun _ => .bind h.settle fun _ => .finish _

theorem tick : (Engine.tick : Engine.Step σ κ Unit).Within (Engine.Works R) :=
  .bind (onStack h.pass) fun _ => .bind (count fun _ => rfl) fun _ =>
    .bind h.settle fun _ => .finish _

theorem frame : (Engine.frame : Engine.Step σ κ Unit).Within (Engine.Works R) := by
  have failed (text : String) :
      (Engine.failFrame text : Engine.Step σ κ Unit).Within (Engine.Works R) :=
    .bind (count fun _ => rfl) fun _ => h.logEngine _ _
  refine .bind (count fun _ => rfl) fun _ => .bind .get fun (e, _) => ?_
  dsimp only
  split
  · exact .pure ()
  · rename_i handler _
    have hbegun : (Engine.inScene fun _ scene => scene.begin .frame : Engine.Step σ κ Unit).Within
        (Engine.Works R) := .modify fun s => ⟨h.beginScene .frame s.2, rfl⟩
    refine .bind hbegun fun _ => .bind (fun s => ?_) fun outcome => ?_
    · exact ⟨h.play (handler.run handler.memory) handler.memory s.2, rfl⟩
    · split
      · exact h.settle
      · exact .bind (.fail _) fun _ => h.settle
      · exact .bind (failed _) fun _ => h.settle
      · exact .bind (failed _) fun _ => h.settle

/-! ### The machine -/

theorem inContext (now : Span) {body : Engine.Step σ κ α} (hbody : body.Within (Engine.Works R)) :
    (Machine.inContext now body).Within (Machine.Works R) := by
  intro m
  obtain ⟨t, hrest, hstate⟩ := Machine.inContext_leads h.settle now body m
  have hworks := Composes.trans (hbody (m.engine, m.scene now)) hrest
  rw [hstate]
  exact ⟨hworks.1, hworks.2, rfl⟩

omit h [Composes R] in
theorem onDrivers {x : Act ε (DriverBank × Bench) α} (hx : x.Within (InvImage R Prod.snd)) :
    (Machine.onCabinet (Cabinet.onDrivers x) : Act ε (Machine σ κ) α).Within (Machine.Works R) :=
  fun m => ⟨hx (m.cabinet.drivers, m.cabinet.bench), rfl, rfl⟩

omit [Composes R] in
theorem logMachine (severity : Severity) (text : String) :
    (Machine.log severity text : Act ε (Machine σ κ) Unit).Within (Machine.Works R) :=
  fun m => ⟨h.remark severity text m.cabinet.bench, rfl, rfl⟩

omit h in
theorem countMachine {f : Stats → Stats} (hf : ∀ s, (f s).iterations = s.iterations) :
    (Machine.count f : Machine.Step σ κ Unit).Within (Machine.Works R) :=
  .modify fun m => ⟨Composes.refl m.cabinet.bench, hf m.engine.stats, rfl⟩

theorem switchChanged (number : Nat) (closed : Bool) (now : Span) :
    (Machine.switchChanged number closed now : Machine.Step σ κ Unit).Within
      (Machine.Works R) := by
  refine .bind (countMachine fun _ => rfl) fun _ =>
    .bind (fun m => ⟨Composes.refl m.cabinet.bench, rfl, rfl⟩) fun previous => ?_
  cases previous with
  | none => exact h.logMachine _ _
  | some previous =>
    refine .ite (.bind (countMachine fun _ => rfl) fun _ => h.logMachine _ _)
      (h.inContext now (.bind .get fun (_, scene) => ?_))
    dsimp only
    cases scene.cabinet.switches.get? number with
    | none => exact .pure ()
    | some switch => exact .bind (h.logEngine _ _) fun _ => h.dispatch switch

/-- The relation holds of whatever is done about an event. -/
theorem handleEvent (e : Event) (now : Span) :
    (Machine.handleEvent e now : Machine.Step σ κ Unit).Within (Machine.Works R) := by
  simp only [Machine.handleEvent]
  split
  · exact h.switchChanged _ _ now
  · split
    · exact h.inContext now h.frame
    · exact h.logMachine _ _

theorem carryOut (now : Span) (c : Command) :
    (Machine.carryOut now c : Machine.Step σ κ Unit).Within (Machine.Works R) := by
  refine .bind (countMachine fun _ => rfl) fun _ m => ?_
  have hobey : m.Works R
      (Machine.onCabinet (Cabinet.onDrivers (DriverBank.obey c.order now)) m).2 :=
    onDrivers (h.obey c.order now) m
  split <;> rename_i hm <;> rw [hm] at hobey
  · exact hobey
  · exact Composes.trans hobey (h.logMachine _ _ _)
  · exact hobey
  · exact Composes.trans hobey (h.logMachine _ _ _)
  · exact hobey

theorem drainCommands (now : Span) :
    (Machine.drainCommands now : Machine.Step σ κ Unit).Within (Machine.Works R) :=
  .bind (fun m => ⟨Composes.refl m.cabinet.bench, rfl, rfl⟩) fun _ =>
    .ite (.bind (h.logMachine _ _) fun _ => .each (h.carryOut now) _) (.pure ())

theorem enableFlippers (enable : Bool) :
    (Machine.enableFlippers enable : Machine.Step σ κ Bool).Within (Machine.Works R) :=
  fun m =>
    ⟨h.setEnabled enable m.now (m.engine.rules, m.cabinet.drivers, m.cabinet.bench), rfl, rfl⟩

theorem reset : (Machine.reset : Machine.Step σ κ Unit).Within (Machine.Works R) :=
  .bind (h.logMachine _ _) fun _ => .bind .get fun m =>
    .bind (h.inContext m.now (onStack (ModeStack.clear_within h.remove))) fun _ =>
    .bind (.modify fun m => ⟨Composes.refl m.cabinet.bench, rfl, rfl⟩) fun _ =>
    .bind (h.enableFlippers false) fun _ => .pure ()

theorem undergo (visit : Visit) (c : Cabinet) :
    R c.bench (visit.foldl (fun c h => c.undergo h) c).bench := by
  induction visit generalizing c with
  | nil => exact Composes.refl c.bench
  | cons happening rest ih =>
    have hfirst : R c.bench (c.undergo happening).bench := by
      cases happening with
      | bench act => exact h.perform act c
      | command command =>
        have hbench : (c.undergo (.command command)).bench = c.bench := (c.enqueue_frame command).2
        rw [hbench]
        exact Composes.refl c.bench
    exact Composes.trans hfirst (ih (c.undergo happening))

theorem receive (visit : Visit) (isLast : Bool) (m : Machine σ κ) :
    m.Works R (m.receive visit isLast) := by
  have hvisit := h.undergo visit m.cabinet
  cases isLast <;> exact ⟨hvisit, rfl, rfl⟩

end Spans

end Bench

end Playfield
