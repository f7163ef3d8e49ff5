import Playfield.ModeStack
import Playfield.Proofs.Past.Bench

/-!
# Callbacks and walks do not look back

What a callback sees is not in the journal. So it does the same after any past, and so do walks down
the mode stack and passes over it.
-/
namespace Playfield

variable (p : Past) {σ κ : Type}

/-! ### Scenes -/

namespace Cabinet

/-- The cabinet with a past before its own. -/
def after (c : Cabinet) : Cabinet :=
  { c with bench := c.bench.after p, stopRaised := p.stop || c.stopRaised }

variable {ε α : Type}

theorem commutes_onBench {x : Act ε Bench α} (hx : x.Commutes (Bench.after p)) :
    (onBench x).Commutes (after p) := hx.zoom (fun _ => rfl) fun _ _ => rfl

theorem commutes_onDrivers {x : Act ε (DriverBank × Bench) α}
    (hx : x.Commutes (Bench.beside p)) : (onDrivers x).Commutes (after p) :=
  hx.zoom (fun _ => rfl) fun _ _ => rfl

theorem commutes_log (severity : Severity) (text : String) :
    (log severity text : Act ε Cabinet Unit).Commutes (after p) :=
  commutes_onBench p (Bench.commutes_log p severity text)

theorem perform_after (a : BenchAct) (c : Cabinet) :
    (c.after p).perform a = (c.perform a).after p := by
  cases a with
  | note text =>
    exact congrArg (fun bench => { c.after p with bench }) (c.bench.enter_after p (.note text))
  | raiseStop =>
    exact congrArg (fun stopRaised => { c.after p with stopRaised }) (Bool.or_true p.stop).symm
  | advance | post | plan | planClose => rfl

theorem enqueue_after (command : Command) (c : Cabinet) :
    (c.after p).enqueue command = Act.mapState (after p) (c.enqueue command) := by
  have hqueue : (c.after p).queue = c.queue := rfl
  simp only [enqueue, hqueue]
  cases c.queue.enqueue command <;> rfl

end Cabinet

namespace Scene

/-- The scene with a past before its own. -/
def after (s : Scene κ) : Scene κ := { s with cabinet := s.cabinet.after p }

@[simp] theorem cabinet_after (s : Scene κ) : (s.after p).cabinet = s.cabinet.after p := rfl

@[simp] theorem now_after (s : Scene κ) : (s.after p).now = s.now := rfl

theorem remark_after (severity : Severity) (text : String) (s : Scene κ) :
    (s.after p).remark severity text = (s.remark severity text).after p :=
  congrArg (fun bench => { s with cabinet := { s.cabinet.after p with bench } })
    (s.cabinet.bench.enter_after p (.remark severity text))

theorem begin_after (site : CallbackSite) (s : Scene κ) :
    (s.after p).begin site = (s.begin site).after p :=
  congrArg (fun bench => { s with cabinet := { s.cabinet.after p with bench } })
    (s.cabinet.bench.enter_after p (.began site ⟨s.now, s.running, s.game, s.flippers⟩))

theorem finish_after (ending : Outcome HandlerError Verdict) (s : Scene κ) :
    (s.after p).finish ending = (s.finish ending).after p :=
  congrArg (fun bench => { s with cabinet := { s.cabinet.after p with bench } })
    (s.cabinet.bench.enter_after p (.ended (HandlerError.faultIn? ending)))

variable {ε α : Type}

theorem commutes_onCabinet {x : Act ε Cabinet α} (hx : x.Commutes (Cabinet.after p)) :
    (onCabinet x : Act ε (Scene κ) α).Commutes (after p) := hx.zoom (fun _ => rfl) fun _ _ => rfl

theorem commutes_log (severity : Severity) (text : String) :
    (log severity text : Act ε (Scene κ) Unit).Commutes (after p) :=
  commutes_onCabinet p (Cabinet.commutes_log p severity text)

/-- Something beside a scene with a past before its own. -/
abbrev beside {τ : Type} : τ × Scene κ → τ × Scene κ := Act.mapState (after p)

end Scene

/-! ### Callbacks -/

/-- A callback does the same after any past. -/
theorem Callback.commutes_play (c : Callback σ κ) : c.play.Commutes (Scene.beside p) := by
  rintro ⟨m, scene⟩
  induction c generalizing m scene with
  | done ending => exact congrArg (fun t => (ending, m, t)) (scene.finish_after p ending)
  | remember memory next ih => exact ih memory scene
  | look next ih => exact ih scene.view m scene
  | order o next ih =>
    have hobey := Scene.commutes_onCabinet (κ := κ) p
      (Cabinet.commutes_onDrivers p (DriverBank.commutes_obey p o scene.now)) scene
    simp only [play, Act.mapState, Scene.now_after, hobey]
    exact ih _ m _
  | ask request next ih => exact ih m { scene with requests := scene.requests ++ [request] }
  | issue tag next ih =>
    exact ih (scene.cabinet.ids.issue tag).1 m { scene with
      cabinet := { scene.cabinet with ids := (scene.cabinet.ids.issue tag).2 } }
  | enqueue command next ih =>
    have henqueue := scene.cabinet.enqueue_after p command
    simp only [play, Act.mapState, Scene.cabinet_after, henqueue]
    exact ih _ m { scene with cabinet := (scene.cabinet.enqueue command).2 }
  | act a next ih =>
    simp only [play, Act.mapState, Scene.cabinet_after, Cabinet.perform_after]
    exact ih m { scene with cabinet := scene.cabinet.perform a }

namespace Mode

theorem commutes_play (c : Callback σ κ) :
    (play c : Act _ (Mode σ κ × Scene κ) _).Commutes (Scene.beside p) := by
  rintro ⟨m, scene⟩
  have hplay := c.commutes_play p (m.memory, scene)
  simp only [Act.mapState] at hplay
  simp only [play, Act.mapState, hplay]

theorem commutes_handle (binding : Nat) (switch : Switch) :
    (handle binding switch : Act _ (Mode σ κ × Scene κ) _).Commutes (Scene.beside p) := by
  rintro ⟨m, scene⟩
  simp only [handle, Act.mapState]
  cases m.handlers[binding]? with
  | none => rfl
  | some handler => exact commutes_play p _ (m, scene)

theorem commutes_runHook (h : ModeHook) :
    (runHook h : Act _ (Mode σ κ × Scene κ) _).Commutes (Scene.beside p) := fun s =>
  commutes_play p (s.1.hook h s.1.memory) s

theorem guarded_after {x : Act HandlerError (Mode σ κ × Scene κ) Verdict}
    (hx : x.Commutes (Scene.beside p)) (site : CallbackSite) (m : Mode σ κ) (scene : Scene κ) :
    guarded site x m (scene.after p) = Act.mapState (Scene.beside p) (guarded site x m scene) := by
  have hbegin : ({ scene.after p with running := some m.id } : Scene κ).begin site =
      ({ scene with running := some m.id }.begin site).after p :=
    Scene.begin_after p site { scene with running := some m.id }
  have hcall := hx (m, { scene with running := some m.id }.begin site)
  simp only [Act.mapState] at hcall
  simp only [guarded, hbegin, hcall]
  rfl

end Mode

/-! ### The mode stack -/

namespace Walk

/-- The walk with a past before its own. -/
def after (w : Walk κ) : Walk κ := { w with scene := w.scene.after p }

@[simp] theorem scene_after (w : Walk κ) : (w.after p).scene = w.scene.after p := rfl

theorem fail_after (w : Walk κ) (f : HandlerFault) : (w.after p).fail f = (w.fail f).after p :=
  congrArg (fun scene => { w.fail f with scene }) (w.scene.remark_after p .error f.message)

end Walk

namespace ModeStack

theorem commutes_settleHook (outcome : Except FaultReason Verdict) :
    (settleHook (σ := σ) (κ := κ) outcome).Commutes (Scene.beside p) := by
  rintro ⟨s, scene⟩
  simp only [settleHook, Act.mapState, Scene.remark_after]
  split <;> rfl

theorem commutes_add (m : Mode σ κ) : (add m).Commutes (Scene.beside p) := by
  rintro ⟨s, scene⟩
  have hhook (scene : Scene κ) := Mode.guarded_after p (Mode.commutes_runHook p .started)
    (.hook m.id .started) m scene
  by_cases hthere : s.contains m.id = true
  · simp only [add, Act.mapState, hthere, if_true, Scene.remark_after]
    rfl
  · simp only [add, hthere, Act.mapState, Scene.remark_after, hhook]
    generalize Mode.guarded _ _ _ _ = joined
    exact commutes_settleHook p joined.1 (_, joined.2.2)

theorem commutes_remove (id : ModeId) :
    (remove (σ := σ) (κ := κ) id).Commutes (Scene.beside p) := by
  rintro ⟨s, scene⟩
  simp only [remove, Act.mapState]
  cases s.find? id with
  | none => rfl
  | some slot =>
    have hhook (scene : Scene κ) := Mode.guarded_after p (Mode.commutes_runHook p .stopped)
      (.hook id .stopped) slot.mode scene
    simp only [Scene.remark_after, hhook]
    generalize Mode.guarded _ _ _ _ = left
    obtain ⟨outcome, -, scene'⟩ := left
    have hsettle := commutes_settleHook p outcome
      ({ s with slots := erase id s.slots, holds := s.holds.cancelMode id }, scene')
    simp only [Act.mapState] at hsettle
    simp only [Act.mapState, hsettle]

theorem removeAll_after (ids : List ModeId) (first : Option Fault) (s : ModeStack σ κ × Scene κ) :
    removeAll ids first (Scene.beside p s) =
      Act.mapState (Scene.beside p) (removeAll ids first s) := by
  induction ids generalizing first s with
  | nil => rfl
  | cons id rest ih =>
    have hremove := commutes_remove p id s
    simp only [removeAll, hremove]
    rcases remove id s with ⟨outcome, s'⟩
    cases outcome with
    | error f => exact ih _ s'
    | ok _ | panic _ => exact ih first s'

theorem commutes_clear : (clear (σ := σ) (κ := κ)).Commutes (Scene.beside p) := by
  rintro ⟨s, scene⟩
  have hall := removeAll_after p s.ids none (s, scene)
  simp only [Act.mapState] at hall
  simp only [clear, Act.mapState, hall]
  rcases removeAll s.ids none (s, scene) with ⟨fault, s'⟩
  cases fault <;> rfl

theorem walkBindings_after (switch : Switch) (bs : List Binding) (m : Mode σ κ) (w : Walk κ) :
    walkBindings switch bs m (w.after p) =
      Act.mapState (Act.mapState (Walk.after p)) (walkBindings switch bs m w) := by
  induction bs generalizing m w with
  | nil => rfl
  | cons b rest ih =>
    simp only [walkBindings]
    cases b.hold with
    | some hold => exact ih m (w.schedule m.id switch b hold)
    | none =>
      have hcall := Mode.guarded_after p (Mode.commutes_handle p b.number switch)
        (.handler m.id b.number switch.name) m w.scene
      simp only [Walk.scene_after, hcall]
      rcases Mode.guarded (.handler m.id b.number switch.name) (Mode.handle b.number switch) m
        w.scene with ⟨outcome, m', scene⟩
      let called : Walk κ :=
        { w with scene, report := { w.report with invoked := w.report.invoked + 1 } }
      rcases outcome with reason | verdict
      · have hrest := ih m' (called.fail ⟨m'.name, some switch.name, reason⟩)
        rw [← Walk.fail_after] at hrest
        exact hrest
      · cases verdict with
        | carryOn => exact ih m' called
        | stop =>
          have hrest := ih m' called
          simp only [called, Walk.after] at hrest
          simp only [Act.mapState, Walk.after, hrest]

theorem walkModes_after (switch : Switch) (slots : List (Slot σ κ)) (w : Walk κ) :
    walkModes switch slots (w.after p) =
      Act.mapState (Walk.after p) (walkModes switch slots w) := by
  induction slots generalizing w with
  | nil => rfl
  | cons slot rest ih =>
    have hmode := walkBindings_after p switch
      ((slot.mode.bindings switch.name).filter fun b => b.condition.holds switch) slot.mode w
    simp only [walkModes, hmode]
    rcases walkBindings switch
      ((slot.mode.bindings switch.name).filter fun b => b.condition.holds switch) slot.mode w with
      ⟨stopped, m, w'⟩
    cases stopped with
    | true =>
      have hremark := w'.scene.remark_after p .trace
        ("'" ++ switch.name ++ "' stopped by mode '" ++ m.name ++ "'")
      exact congrArg (fun scene => ({ slot with mode := m } :: rest,
        { w' with report := { w'.report with stoppedBy := some m.id }, scene })) hremark
    | false =>
      have hrest := ih w'
      simp only [Act.mapState, hrest]

variable {ε α : Type}

theorem commutes_onHolds {x : Act ε (HoldQueue × Bench) α} (hx : x.Commutes (Bench.beside p)) :
    (onHolds (σ := σ) (κ := κ) x).Commutes (Scene.beside p) :=
  hx.zoom (fun _ => rfl) fun _ _ => rfl

theorem commutes_dispatch (switch : Switch) :
    (dispatch switch : Act ε (ModeStack σ κ × Scene κ) Report).Commutes (Scene.beside p) := by
  refine (commutes_onHolds p (HoldQueue.commutes_cancelUnsatisfied p switch)).bind fun _ => ?_
  rintro ⟨s, scene⟩
  have hwalk := walkModes_after p switch s.slots
    { holds := s.holds, faultCount := s.faultCount, scene }
  simp only [Walk.after] at hwalk
  simp only [Act.mapState, hwalk]
  rfl

theorem tickModes_after (slots : List (Slot σ κ)) (w : Walk κ) :
    tickModes slots (w.after p) = Act.mapState (Walk.after p) (tickModes slots w) := by
  induction slots generalizing w with
  | nil => rfl
  | cons slot rest ih =>
    have hhook := Mode.guarded_after p (Mode.commutes_runHook p .tick) (.hook slot.mode.id .tick)
      slot.mode w.scene
    simp only [tickModes, Walk.scene_after, hhook]
    rcases Mode.guarded (.hook slot.mode.id .tick) (Mode.runHook .tick) slot.mode w.scene with
      ⟨outcome, m, scene⟩
    cases outcome with
    | ok verdict =>
      have hrest := ih { w with scene }
      simp only [Walk.after] at hrest
      simp only [Act.mapState, Walk.after, hrest]
    | error reason =>
      have hrest := ih ({ w with scene }.fail ⟨m.name, none, reason⟩)
      rw [← Walk.fail_after] at hrest
      simp only [Walk.after] at hrest
      simp only [Act.mapState, Walk.after, hrest]

theorem fireDue_after (due : List Obligation) (slots : List (Slot σ κ)) (w : Walk κ) :
    fireDue due slots (w.after p) = Act.mapState (Walk.after p) (fireDue due slots w) := by
  induction due generalizing slots w with
  | nil => rfl
  | cons o rest ih =>
    have hswitches : (w.after p).scene.cabinet.switches = w.scene.cabinet.switches := rfl
    simp only [fireDue, hswitches]
    split
    · rename_i switch slot _ _
      have hcall := Mode.guarded_after p (Mode.commutes_handle p o.binding switch)
        (.handler o.mode o.binding switch.name) slot.mode w.scene
      simp only [Walk.scene_after, hcall]
      rcases Mode.guarded (.handler o.mode o.binding switch.name) (Mode.handle o.binding switch)
        slot.mode w.scene with ⟨outcome, m, scene⟩
      let fired : Walk κ :=
        { w with scene, report := { w.report with fired := w.report.fired + 1 } }
      cases outcome with
      | ok verdict => exact ih (replace m slots) fired
      | error reason =>
        have hrest := ih (replace m slots) (fired.fail ⟨m.name, some o.switch, reason⟩)
        rw [← Walk.fail_after] at hrest
        exact hrest
    · exact ih slots w

theorem commutes_tick :
    (tick : Act ε (ModeStack σ κ × Scene κ) Report).Commutes (Scene.beside p) := by
  refine .bind (fun (s, scene) => ?_) fun report => .bind (fun (s, scene) => ?_) fun due => ?_
  · have hhooks := tickModes_after p s.slots
      { holds := s.holds, faultCount := s.faultCount, scene }
    simp only [Walk.after] at hhooks
    simp only [Act.mapState, hhooks]
    rfl
  · exact commutes_onHolds p (HoldQueue.commutes_takeDue p scene.now scene.cabinet.switches)
      (s, scene)
  · rintro ⟨s, scene⟩
    have hcalls := fireDue_after p due s.slots
      { holds := s.holds, faultCount := s.faultCount, report, scene }
    simp only [Walk.after] at hcalls
    simp only [Act.mapState, hcalls]
    rfl

end ModeStack

end Playfield
