import Playfield.Proofs.Benchwork
import Playfield.Proofs.Panics
import Playfield.Proofs.Past.Machine

/-!
# Where a fault comes from

The journal has each call to the board with its reply, and each end of a callback with the fault of
the board in which it ended. A fault that a computation reports is one of these: it was met while
the computation went on (`Act.Tells`). This holds of each operation up to the stages of a call. The
fault that a walk or a tick reports at its end was met by one of its callbacks (`Walk.Accounts`).
-/
namespace Playfield

/-- The fault of the board that an entry tells of. -/
def Entry.fault? : Entry → Option Fault
  | .call _ (.fault f) => some f
  | .ended fault => fault
  | _ => none

/-- The fault of the board behind an order that failed. -/
def DriverError.boardFault? : DriverError → Option Fault
  | .board f => some f
  | _ => none

/-- The fault of the board behind the failure of a callback. -/
def HandlerError.boardFault? : HandlerError → Option Fault
  | .board f => some f
  | _ => none

namespace Bench

/-- The journal has only grown. -/
def Extends (b c : Bench) : Prop := b.journal.toList <+: c.journal.toList

/-- An entry of the kind has been made meanwhile. -/
def Meets (P : Entry → Prop) (b c : Bench) : Prop :=
  ∃ entries, c.journal.toList = b.journal.toList ++ entries ∧ ∃ e ∈ entries, P e

/-- The fault has been met meanwhile: a call to the board failed with it, or a callback ended in
it. -/
def MeetsFault (f : Fault) : Bench → Bench → Prop := Meets fun e => e.fault? = some f

/-- A call to the board has panicked meanwhile. -/
def MeetsPanic : Bench → Bench → Prop := Meets fun e => ∃ c, e = .call c .panicked

instance : Composes Extends where
  refl _ := List.prefix_rfl
  trans h h' := h.trans h'

theorem extends_enter (e : Entry) (b : Bench) : b.Extends (b.enter e) :=
  ⟨[e], Array.toList_push.symm⟩

variable {P : Entry → Prop} {b c d : Bench}

theorem Meets.grow (h : b.Meets P c) (grows : c.Extends d) : b.Meets P d := by
  obtain ⟨entries, hc, e, he, hP⟩ := h
  obtain ⟨more, hd⟩ := grows
  exact ⟨entries ++ more, by rw [← hd, hc, List.append_assoc], e, List.mem_append_left _ he, hP⟩

theorem Extends.meets (grows : b.Extends c) (h : c.Meets P d) : b.Meets P d := by
  obtain ⟨before, hc⟩ := grows
  obtain ⟨entries, hd, e, he, hP⟩ := h
  exact ⟨before ++ entries, by rw [hd, ← hc, List.append_assoc], e, List.mem_append_right _ he, hP⟩

theorem meetsFault_enter {e : Entry} {f : Fault} (h : e.fault? = some f) (b : Bench) :
    b.MeetsFault f (b.enter e) :=
  ⟨[e], Array.toList_push, e, List.mem_singleton_self e, h⟩

end Bench

/-! ### Computations that report what they meet -/

namespace Act
variable {ε δ S T α β : Type}

/-- The journal only grows, and the fault of the board behind a failure was met meanwhile. -/
structure Tells (cause : ε → Option Fault) (view : S → Bench) (x : Act ε S α) : Prop where
  grows : x.Within (InvImage Bench.Extends view)
  met : ∀ {s t e f}, x s = (.error e, t) → cause e = some f → (view s).MeetsFault f (view t)

namespace Tells
variable {cause : ε → Option Fault} {view : S → Bench}

/-- What never fails has no fault to report. -/
theorem of_never {x : Act ε S α} (grows : x.Within (InvImage Bench.Extends view))
    (never : ∀ s e, (x s).1 ≠ .error e) : x.Tells cause view :=
  ⟨grows, fun h => absurd (congrArg Prod.fst h) (never _ _)⟩

/-- It is enough to look at the ending and the state of each run that fails. -/
theorem of_ending {x : Act Fault S α} (grows : x.Within (InvImage Bench.Extends view))
    (met : ∀ s f, (x s).1 = .error f → (view s).MeetsFault f (view (x s).2)) :
    x.Tells some view := by
  refine ⟨grows, fun {s t e f} h hf => ?_⟩
  obtain rfl : e = f := Option.some.inj hf
  have hmet := met s e (congrArg Prod.fst h)
  rwa [h] at hmet

theorem pure (a : α) : Tells cause view (Pure.pure a : Act ε S α) :=
  .of_never (.pure a) fun _ _ h => nomatch h

theorem get : Tells cause view (Act.get : Act ε S S) := .of_never .get fun _ _ h => nomatch h

theorem modify {g : S → S} (grows : ∀ s, (view s).Extends (view (g s))) :
    Tells cause view (Act.modify g : Act ε S Unit) :=
  .of_never (.modify grows) fun _ _ h => nomatch h

theorem bind {x : Act ε S α} {g : α → Act ε S β} (hx : x.Tells cause view)
    (hg : ∀ a, (g a).Tells cause view) : (x >>= g).Tells cause view := by
  refine ⟨.bind hx.grows fun a => (hg a).grows, fun {s t e f} h hf => ?_⟩
  rcases bind_eq_error h with hfail | ⟨a, u, hok, hfail⟩
  · exact hx.met hfail hf
  · have hfirst := hx.grows s
    rw [hok] at hfirst
    exact Bench.Extends.meets hfirst ((hg a).met hfail hf)

theorem each {g : α → Act ε S Unit} (hg : ∀ a, (g a).Tells cause view) (as : List α) :
    (Act.each g as).Tells cause view := by
  induction as with
  | nil => exact pure ()
  | cons a rest ih => exact bind (hg a) fun _ => ih

theorem ite {c : Prop} [Decidable c] {x y : Act ε S α} (hx : x.Tells cause view)
    (hy : y.Tells cause view) : (if c then x else y).Tells cause view := by
  split
  · exact hx
  · exact hy

theorem zoom {partView : T → Bench} {part : S → T} {put : T → S → S} {x : Act ε T α}
    (hx : x.Tells cause partView) (read : ∀ s, partView (part s) = view s)
    (write : ∀ s t, view (put t s) = partView t) : (Act.zoom part put x).Tells cause view := by
  refine ⟨hx.grows.zoom fun s t h => ?_, fun {s t e f} h hf => ?_⟩
  · rw [InvImage, read] at h
    rw [InvImage, write]
    exact h
  · rcases hp : x (part s) with ⟨ending, u⟩
    simp only [Act.zoom, hp] at h
    cases h
    have hpart := hx.met hp hf
    rw [read] at hpart
    rw [write]
    exact hpart

theorem mapError {x : Act ε S α} {g : ε → δ} {cause' : δ → Option Fault} (hx : x.Tells cause view)
    (same : ∀ e, cause' (g e) = cause e) : (x.mapError g).Tells cause' view := by
  refine ⟨hx.grows.mapError g, fun {s t e f} h hf => ?_⟩
  rcases hp : x s with ⟨ending, u⟩
  simp only [Act.mapError, hp] at h
  obtain ⟨hending, rfl⟩ := Prod.mk.inj h
  obtain ⟨e', rfl, rfl⟩ := Outcome.mapError_eq_error.mp hending
  exact hx.met hp ((same e').symm.trans hf)

end Tells

end Act

/-! ### The board -/

namespace Bench
variable {α : Type}

theorem tells_call (c : BoardCall) (reply : α → Reply) (onBoard : Act Fault Board α) :
    (call c reply onBoard).Tells some id := by
  have hrun (b : Bench) : b.Extends (call.run c reply onBoard b).2 ∧
      ∀ f, (call.run c reply onBoard b).1 = .error f →
        b.MeetsFault f (call.run c reply onBoard b).2 := by
    simp only [call.run]
    split <;> rename_i board _
    · exact ⟨extends_enter _ { b with board }, fun _ h => by cases h⟩
    · refine ⟨extends_enter _ { b with board }, fun f h => ?_⟩
      cases h
      exact meetsFault_enter rfl { b with board }
    · exact ⟨extends_enter _ { b with board }, fun _ h => by cases h⟩
  have hall (b : Bench) : b.Extends (call c reply onBoard b).2 ∧
      ∀ f, (call c reply onBoard b).1 = .error f →
        b.MeetsFault f (call c reply onBoard b).2 := by
    simp only [call]
    split <;> rename_i rest _
    · exact ⟨extends_enter _ { b with mishaps := rest }, fun _ h => by cases h⟩
    · exact hrun { b with board := b.board.inject _, mishaps := rest }
    · exact hrun { b with mishaps := rest }
  exact .of_ending (fun b => (hall b).1) fun b => (hall b).2

/-- Whatever is done on the bench, the journal only grows. -/
theorem spans_extends : Spans Extends where
  remark _ _ b := extends_enter _ b
  began _ _ b := extends_enter _ b
  ended _ b := extends_enter _ b
  install _ _ := (tells_call _ _ _).grows
  drive _ := (tells_call _ _ _).grows
  perform a c := by
    cases a with
    | note text => exact extends_enter _ _
    | advance | post | plan | planClose | raiseStop => exact List.prefix_rfl

end Bench

/-! ### Drivers and rules -/

theorem Driver.tells_send (c : DriverCall) (g : Driver → Driver) :
    (send c g).Tells some Prod.snd := by
  refine ⟨Bench.spans_extends.send c g, fun {s t e f} h hf => ?_⟩
  obtain ⟨d, b⟩ := s
  simp only [send] at h
  split at h
  · cases h
  · rename_i hdrive
    cases h
    exact (Bench.tells_call _ _ _).met hdrive hf
  · cases h

namespace Driver

theorem tells_pulse (ms : Nat) (now : Span) : (pulse ms now).Tells some Prod.snd := by
  refine ⟨Bench.spans_extends.pulse ms now, fun {s t e f} h hf => ?_⟩
  obtain ⟨d, b⟩ := s
  simp only [pulse] at h
  split at h
  · exact (tells_send _ _).met h hf
  · split at h
    · exact (tells_send _ _).met h hf
    · split at h
      · cases h
      · exact (tells_send _ _).met h hf

theorem tells_disable (now : Span) : (disable now).Tells some Prod.snd := by
  refine ⟨Bench.spans_extends.disable now, fun {s t e f} h hf => ?_⟩
  obtain ⟨d, b⟩ := s
  simp only [disable] at h
  exact (tells_send _ _).met h hf

theorem tells_patter (onMs offMs firstMs : Nat) (now : Span) :
    (patter onMs offMs firstMs now).Tells some Prod.snd := by
  refine ⟨Bench.spans_extends.patter onMs offMs firstMs now, fun {s t e f} h hf => ?_⟩
  obtain ⟨d, b⟩ := s
  simp only [patter] at h
  exact (tells_send _ _).met h hf

theorem tells_tick (now : Span) : (tick now).Tells some Prod.snd := by
  refine ⟨Bench.spans_extends.tickDriver now, fun {s t e f} h hf => ?_⟩
  obtain ⟨d, b⟩ := s
  simp only [tick] at h
  split at h
  · cases h
  · split at h
    · cases h
    · split at h
      · exact (tells_disable now).met h hf
      · split at h
        · simp only [setOutput] at h
          exact (tells_send _ _).met h hf
        · cases h

end Driver

theorem Order.tells_act (o : Order) (now : Span) :
    (o.act now).Tells DriverError.boardFault? Prod.snd := by
  cases o with
  | pulse _ ms => exact (Driver.tells_pulse ms now).mapError fun _ => rfl
  | pulseDefault driver =>
    refine ⟨Bench.spans_extends.order (.pulseDefault driver) now, fun {s t e f} h hf => ?_⟩
    have hpulse : ((Driver.pulse s.1.pulseMs now).mapError .board).Tells DriverError.boardFault?
        Prod.snd := (Driver.tells_pulse s.1.pulseMs now).mapError fun _ => rfl
    exact hpulse.met h hf
  | disable _ => exact (Driver.tells_disable now).mapError fun _ => rfl
  | patter _ onMs offMs firstMs =>
    exact (Driver.tells_patter onMs offMs firstMs now).mapError fun _ => rfl
  | schedule driver mask cycles =>
    refine ⟨Bench.spans_extends.order (.schedule driver mask cycles) now, fun {s t e f} h hf => ?_⟩
    obtain ⟨d, b⟩ := s
    simp only [act, Driver.startSchedule] at h
    -- the only failure is that the board times this driver
    split at h <;> rename_i hstart <;> cases h
    split at hstart <;> cases hstart
    cases hf

namespace DriverBank

theorem tells_obey (o : Order) (now : Span) :
    (obey o now).Tells DriverError.boardFault? Prod.snd := by
  refine ⟨Bench.spans_extends.obey o now, fun {s t e f} h hf => ?_⟩
  obtain ⟨bank, b⟩ := s
  simp only [obey] at h
  split at h
  · rename_i slot d _ _
    rcases hact : o.act now (d, b) with ⟨ending, d', b'⟩
    rw [hact] at h
    cases h
    exact (Order.tells_act o now).met hact hf
  · cases h
    cases hf

theorem tells_byNumber {x : Act Fault (Driver × Bench) Unit} (hx : x.Tells some Prod.snd)
    (number : Nat) (c : DriverCall) : (byNumber number x c).Tells some Prod.snd := by
  refine ⟨Bench.spans_extends.byNumber hx.grows number c, fun {s t e f} h hf => ?_⟩
  obtain ⟨bank, b⟩ := s
  simp only [byNumber] at h
  split at h
  · rename_i slot d _ _
    rcases hdriver : x (d, b) with ⟨ending, d', b'⟩
    rw [hdriver] at h
    cases h
    exact hx.met hdriver hf
  · rcases hdrive : Bench.drive c b with ⟨ending, b'⟩
    rw [hdrive] at h
    cases h
    exact (Bench.tells_call _ _ _).met hdrive hf

theorem tells_tick (now : Span) : (tick now).Tells some Prod.snd := by
  have hlist (ds : List Driver) (b : Bench) {e : Fault}
      (h : (tickList now ds b).1 = .error e) : b.MeetsFault e (tickList now ds b).2.2 := by
    induction ds generalizing b with
    | nil => cases h
    | cons d rest ih =>
      have hgrows := Bench.spans_extends.tickDriver now (d, b)
      simp only [tickList] at h ⊢
      split at h <;> rename_i hd <;> simp only [hd] at hgrows ⊢
      · exact Bench.Extends.meets hgrows (ih _ h)
      · cases h
        exact (Driver.tells_tick now).met hd rfl
  exact .of_ending (Bench.spans_extends.tickDrivers now) fun s _ => hlist s.1.toList s.2

end DriverBank

namespace FlipperRules

theorem tells_apply (r : FlipperRules) (enable : Bool) (now : Span) :
    (r.apply enable now).Tells some Prod.snd := by
  have beside {x : Act Fault Bench Unit} (hx : x.Tells some id) :
      (Act.second x : Act Fault (DriverBank × Bench) Unit).Tells some Prod.snd :=
    hx.zoom (fun _ => rfl) fun _ _ => rfl
  have off (n : Nat) : (DriverBank.disableNumber n now).Tells some Prod.snd :=
    DriverBank.tells_byNumber (Driver.tells_disable now) _ _
  have hold (n : Nat) : (DriverBank.holdNumber n now).Tells some Prod.snd :=
    DriverBank.tells_byNumber (Driver.tells_pulse 0 now) _ _
  refine .bind (beside (.modify fun b => Bench.extends_enter _ b)) fun _ =>
    .bind (.each (fun rule => beside (Bench.tells_call _ _ _)) _) fun _ =>
    .ite (.bind (.each off _) fun _ => ?_) ?_
  all_goals
    dsimp only
    cases r.relay with
    | none => exact .pure ()
    | some relay => exact .ite (hold relay) (off relay)

theorem tells_setEnabled (enable : Bool) (now : Span) :
    (setEnabled enable now).Tells some fun s => s.2.2 := by
  refine ⟨Bench.spans_extends.setEnabled enable now, fun {s t e f} h hf => ?_⟩
  obtain ⟨r, s⟩ := s
  simp only [setEnabled] at h
  split at h
  · cases h
  · split at h <;> rename_i happly <;> cases h
    exact (tells_apply r enable now).met happly hf

end FlipperRules

/-! ### Callbacks -/

namespace Scene
variable {κ τ ε α : Type}

/-- The journal only grows in the scene that the state comes with, and the fault of the board behind
a failure was met meanwhile. -/
abbrev Tells (cause : ε → Option Fault) (x : Act ε (τ × Scene κ) α) : Prop :=
  Act.Tells cause (fun s => s.2.cabinet.bench) x

end Scene

/-- The journal notes the end of a callback last. -/
theorem Callback.play_ended {σ κ : Type} (c : Callback σ κ) (m : σ) (scene : Scene κ) :
    ∃ b, scene.cabinet.bench.Extends b ∧ (c.play (m, scene)).2.2.cabinet.bench =
      b.enter (.ended (HandlerError.faultIn? (c.play (m, scene)).1)) := by
  induction c generalizing m scene with
  | done ending => exact ⟨scene.cabinet.bench, List.prefix_rfl, rfl⟩
  | remember memory next ih => exact ih memory scene
  | look next ih => exact ih scene.view m scene
  | order o next ih =>
    have hobey := Bench.spans_extends.obey o scene.now (scene.cabinet.drivers, scene.cabinet.bench)
    obtain ⟨b, hgrows, hend⟩ :=
      ih (Scene.onCabinet (Cabinet.onDrivers (DriverBank.obey o scene.now)) scene).1 m
        (Scene.onCabinet (Cabinet.onDrivers (DriverBank.obey o scene.now)) scene).2
    exact ⟨b, Composes.trans (R := Bench.Extends) hobey hgrows, hend⟩
  | ask request next ih => exact ih m { scene with requests := scene.requests ++ [request] }
  | issue tag next ih =>
    exact ih _ m { scene with
      cabinet := { scene.cabinet with ids := (scene.cabinet.ids.issue tag).2 } }
  | enqueue command next ih =>
    obtain ⟨b, hgrows, hend⟩ := ih (scene.cabinet.enqueue command).1 m
      { scene with cabinet := (scene.cabinet.enqueue command).2 }
    rw [(scene.cabinet.enqueue_frame command).2] at hgrows
    exact ⟨b, hgrows, hend⟩
  | act a next ih =>
    obtain ⟨b, hgrows, hend⟩ := ih m { scene with cabinet := scene.cabinet.perform a }
    exact ⟨b, Composes.trans (R := Bench.Extends)
      (Bench.spans_extends.perform a scene.cabinet) hgrows, hend⟩

theorem Callback.tells_play {σ κ : Type} (c : Callback σ κ) :
    (Scene.Tells HandlerError.boardFault? c.play) := by
  refine ⟨fun s => Bench.spans_extends.play c s.1 s.2, fun {s t e f} h hf => ?_⟩
  obtain ⟨b, hgrows, hend⟩ := c.play_ended s.1 s.2
  rw [show c.play (s.1, s.2) = (.error e, t) from h] at hend
  have hfault : HandlerError.faultIn? (.error e : Outcome HandlerError Verdict) = some f := by
    cases e <;> exact hf
  rw [hend, hfault]
  exact Bench.Extends.meets hgrows (Bench.meetsFault_enter rfl b)

namespace Mode
variable {σ κ : Type}

theorem tells_handle (binding : Nat) (switch : Switch) :
    Scene.Tells HandlerError.boardFault? (handle (σ := σ) (κ := κ) binding switch) := by
  refine ⟨fun s => Bench.spans_extends.handle binding switch s, fun {s t e f} h hf => ?_⟩
  obtain ⟨m, scene⟩ := s
  simp only [handle] at h
  split at h
  · rename_i handler _
    rcases hplay : (handler m.memory switch).play (m.memory, scene) with ⟨ending, memory, after⟩
    simp only [play, hplay] at h
    cases h
    exact (handler m.memory switch).tells_play.met hplay hf
  · cases h
    cases hf

theorem tells_runHook (hook : ModeHook) :
    Scene.Tells HandlerError.boardFault? (runHook (σ := σ) (κ := κ) hook) := by
  refine ⟨fun s => Bench.spans_extends.runHook hook s, fun {s t e f} h hf => ?_⟩
  obtain ⟨m, scene⟩ := s
  rcases hplay : (m.hook hook m.memory).play (m.memory, scene) with ⟨ending, memory, after⟩
  simp only [runHook, play, hplay] at h
  cases h
  exact (m.hook hook m.memory).tells_play.met hplay hf

variable {x : Act HandlerError (Mode σ κ × Scene κ) Verdict} {site : CallbackSite} {m : Mode σ κ}
  {scene : Scene κ}

theorem grows_guarded (hx : Scene.Tells HandlerError.boardFault? x) :
    scene.cabinet.bench.Extends (guarded site x m scene).2.2.cabinet.bench :=
  Bench.spans_extends.guarded (fun s => hx.grows s) site m scene

/-- The fault of the board behind the ending of a guarded callback was met in the callback. -/
theorem met_guarded (hx : Scene.Tells HandlerError.boardFault? x) {reason : FaultReason}
    {f : Fault} (failed : (guarded site x m scene).1 = .error reason)
    (fault : reason.boardFault? = some f) :
    scene.cabinet.bench.MeetsFault f (guarded site x m scene).2.2.cabinet.bench := by
  rcases hcall : x (m, { scene with running := some m.id }.begin site) with ⟨ending, m', after⟩
  simp only [guarded, hcall] at failed ⊢
  have hbegun : scene.cabinet.bench.Extends
      ({ scene with running := some m.id }.begin site).cabinet.bench := Bench.extends_enter _ _
  cases ending with
  | ok _ => cases failed
  | error e =>
    cases failed
    refine hbegun.meets (hx.met hcall ?_)
    cases e <;> exact fault
  | panic _ =>
    cases failed
    cases fault

end Mode

/-! ### Walks and ticks -/

/-- Since the bench was like this the journal has only grown, and every fault of the board among the
failures of the walk has been met. -/
structure Walk.Accounts {κ : Type} (b : Bench) (w : Walk κ) : Prop where
  grows : b.Extends w.scene.cabinet.bench
  met : ∀ f, w.report.boardFault? = some f → b.MeetsFault f w.scene.cabinet.bench

namespace Walk.Accounts
variable {σ κ : Type} {b : Bench} {w : Walk κ}

/-- A walk that has no more failures accounts for them still. -/
theorem later (h : w.Accounts b) {v : Walk κ} (same : v.report.boardFault? = w.report.boardFault?)
    (grows : w.scene.cabinet.bench.Extends v.scene.cabinet.bench) : v.Accounts b where
  grows := Composes.trans h.grows grows
  met f hf := (h.met f (same ▸ hf)).grow grows

theorem fail (h : w.Accounts b) {fault : HandlerFault}
    (met : ∀ f, fault.reason.boardFault? = some f → b.MeetsFault f w.scene.cabinet.bench) :
    (w.fail fault).Accounts b := by
  have hremark : w.scene.cabinet.bench.Extends (w.fail fault).scene.cabinet.bench :=
    Bench.extends_enter _ _
  refine ⟨Composes.trans h.grows hremark, fun f hf => ?_⟩
  have hfault := (Report.boardFault?_fail w.report fault).symm.trans hf
  rcases Option.or_eq_some_iff.mp hfault with hbefore | ⟨-, hnow⟩
  · exact (h.met f hbefore).grow hremark
  · exact (met f hnow).grow hremark

variable {x : Act HandlerError (Mode σ κ × Scene κ) Verdict} {site : CallbackSite} {m : Mode σ κ}

theorem guarded (h : w.Accounts b) (hx : Scene.Tells HandlerError.boardFault? x) :
    Accounts b { w with scene := (Mode.guarded site x m w.scene).2.2 } :=
  h.later rfl (Mode.grows_guarded hx)

/-- A callback that fails met the fault of the board in which it ended, if there is one. -/
theorem failed (h : w.Accounts b) (hx : Scene.Tells HandlerError.boardFault? x)
    {reason : FaultReason} (ending : (Mode.guarded site x m w.scene).1 = .error reason)
    (mode : String) (switch : Option String) :
    (Walk.fail { w with scene := (Mode.guarded site x m w.scene).2.2 }
      ⟨mode, switch, reason⟩).Accounts b :=
  (h.guarded hx).fail fun _ hf => h.grows.meets (Mode.met_guarded hx ending hf)

end Walk.Accounts

namespace ModeStack
variable {σ κ : Type} {b : Bench} {w : Walk κ}

theorem accounts_walkBindings (switch : Switch) (bs : List Binding) (m : Mode σ κ)
    (h : w.Accounts b) : (walkBindings switch bs m w).2.2.Accounts b := by
  induction bs generalizing m w with
  | nil => exact h
  | cons binding rest ih =>
    have hcall := Mode.tells_handle (σ := σ) (κ := κ) binding.number switch
    have hinvoked : Walk.Accounts b
        { w with report := { w.report with invoked := w.report.invoked + 1 } } :=
      h.later rfl List.prefix_rfl
    simp only [walkBindings]
    split
    · exact ih m (h.later rfl List.prefix_rfl)
    · split
      · exact ih _ (hinvoked.guarded hcall)
      · exact ih _ (hinvoked.guarded hcall)
      · rename_i hending
        exact ih _ (hinvoked.failed hcall hending _ _)

theorem accounts_walkModes (switch : Switch) (slots : List (Slot σ κ)) (h : w.Accounts b) :
    (walkModes switch slots w).2.Accounts b := by
  induction slots generalizing w with
  | nil => exact h
  | cons slot rest ih =>
    have hmode := accounts_walkBindings switch
      ((slot.mode.bindings switch.name).filter fun b => b.condition.holds switch) slot.mode h
    simp only [walkModes]
    split <;> rename_i hw <;> rw [hw] at hmode
    · exact hmode.later rfl (Bench.extends_enter _ _)
    · exact ih hmode

theorem accounts_tickModes (slots : List (Slot σ κ)) (h : w.Accounts b) :
    (tickModes slots w).2.Accounts b := by
  induction slots generalizing w with
  | nil => exact h
  | cons slot rest ih =>
    have hcall := Mode.tells_runHook (σ := σ) (κ := κ) .tick
    simp only [tickModes]
    split
    · exact ih (h.guarded hcall)
    · rename_i hending
      exact ih (h.failed hcall hending _ _)

theorem accounts_fireDue (due : List Obligation) (slots : List (Slot σ κ)) (h : w.Accounts b) :
    (fireDue due slots w).2.Accounts b := by
  induction due generalizing slots w with
  | nil => exact h
  | cons o rest ih =>
    simp only [fireDue]
    split
    · rename_i switch slot _ _
      have hcall := Mode.tells_handle (σ := σ) (κ := κ) o.binding switch
      have hfired : Walk.Accounts b
          { w with report := { w.report with fired := w.report.fired + 1 } } :=
        h.later rfl List.prefix_rfl
      split
      · exact ih _ (hfired.guarded hcall)
      · rename_i hending
        exact ih _ (hfired.failed hcall hending _ _)
    · exact ih slots h

/-- Every fault of the board in a report was met meanwhile. -/
def Reports (x : Act Fault (ModeStack σ κ × Scene κ) Report) : Prop :=
  ∀ {s report t f}, x s = (.ok report, t) → report.boardFault? = some f →
    s.2.cabinet.bench.MeetsFault f t.2.cabinet.bench

/-- A walk that begins has no failures to account for. -/
theorem accounts_start (w : Walk κ) (fresh : w.report = {}) :
    w.Accounts w.scene.cabinet.bench :=
  ⟨List.prefix_rfl, fun f hf => by rw [fresh] at hf; cases hf⟩

theorem reports_dispatch (switch : Switch) :
    Reports (σ := σ) (κ := κ) (dispatch switch) := by
  intro s report t f h hf
  obtain ⟨_, ⟨s₁, scene₁⟩, hcancel, hwalk⟩ := Act.bind_eq_ok h
  have hgrows := Bench.Spans.onHolds (σ := σ) (κ := κ)
    (Bench.spans_extends.cancelUnsatisfied (ε := Fault) switch) s
  rw [hcancel] at hgrows
  have hall := accounts_walkModes switch s₁.slots (accounts_start
    { holds := s₁.holds, faultCount := s₁.faultCount, scene := scene₁ } rfl)
  cases hwalk
  exact Bench.Extends.meets hgrows (hall.met f hf)

theorem reports_tick : Reports (σ := σ) (κ := κ) tick := by
  intro s report t f h hf
  obtain ⟨s, scene⟩ := s
  obtain ⟨hooked, ⟨s₁, scene₁⟩, hhooks, hrest⟩ := Act.bind_eq_ok h
  obtain ⟨due, ⟨s₂, scene₂⟩, htake, hfire⟩ := Act.bind_eq_ok hrest
  have hfirst := accounts_tickModes s.slots
    (accounts_start { holds := s.holds, faultCount := s.faultCount, scene } rfl)
  have hgrows := Bench.Spans.onHolds (σ := σ) (κ := κ)
    (Bench.spans_extends.takeDue (ε := Fault) scene₁.now scene₁.cabinet.switches) (s₁, scene₁)
  dsimp only at htake
  rw [htake] at hgrows
  cases hhooks
  have hlooked : Walk.Accounts scene.cabinet.bench
      { holds := s₂.holds, faultCount := s₂.faultCount, scene := scene₂,
        report :=
          (tickModes s.slots { holds := s.holds, faultCount := s.faultCount, scene }).2.report } :=
    hfirst.later rfl hgrows
  have hall := accounts_fireDue due s₂.slots hlooked
  cases hfire
  exact hall.met f hf

theorem tells_dispatch (switch : Switch) :
    Scene.Tells some (dispatch (σ := σ) (κ := κ) switch) :=
  .of_never (Bench.spans_extends.walk switch) fun _ _ h => nomatch h

theorem tells_tick : Scene.Tells some (tick (σ := σ) (κ := κ)) := by
  refine .of_never Bench.spans_extends.pass fun s e h => ?_
  obtain ⟨s, scene⟩ := s
  obtain ⟨_, _, -, -, ⟨htick, -⟩ | ⟨⟨report, htick⟩, -⟩⟩ := tick_cases (ε := Fault) s scene <;>
    rw [htick] at h <;> cases h

/-! ### Modes that join and leave -/

theorem settleHook_eq_error {outcome : Except FaultReason Verdict} {s t : ModeStack σ κ × Scene κ}
    {f : Fault} (h : settleHook outcome s = (.error f, t)) :
    outcome = .error (.error (.board f)) ∧ t = s := by
  obtain ⟨s, scene⟩ := s
  simp only [settleHook] at h
  split at h <;> cases h
  exact ⟨rfl, rfl⟩

theorem tells_add (m : Mode σ κ) : Scene.Tells some (add m) := by
  refine ⟨Bench.spans_extends.add m, fun {s t e f} h hf => ?_⟩
  obtain rfl : e = f := Option.some.inj hf
  obtain ⟨s, scene⟩ := s
  simp only [add] at h
  split at h
  · cases h
  · obtain ⟨hending, rfl⟩ := settleHook_eq_error h
    exact Bench.Extends.meets (Bench.extends_enter _ _)
      (Mode.met_guarded (Mode.tells_runHook .started) hending rfl)

theorem tells_remove (id : ModeId) : Scene.Tells some (remove (σ := σ) (κ := κ) id) := by
  refine ⟨Bench.spans_extends.remove id, fun {s t e f} h hf => ?_⟩
  obtain rfl : e = f := Option.some.inj hf
  obtain ⟨s, scene⟩ := s
  simp only [remove] at h
  split at h
  · cases h
  · rename_i slot _
    generalize hleft : Mode.guarded (.hook id .stopped) (Mode.runHook .stopped) slot.mode _ = left
      at h
    obtain ⟨ending, m, after⟩ := left
    dsimp only at h
    rcases hsettle : settleHook ending (_, after) with ⟨settled, s'⟩
    rw [hsettle] at h
    cases settled with
    | ok _ | panic _ => cases h
    | error g =>
      cases h
      obtain ⟨rfl, rfl⟩ := settleHook_eq_error hsettle
      have hmet := Mode.met_guarded (Mode.tells_runHook .stopped) (congrArg Prod.fst hleft) rfl
      rw [hleft] at hmet
      exact Bench.Extends.meets (Bench.extends_enter _ _) hmet

/-- The fault that is kept was there before, or one of the last hooks met it. -/
theorem met_removeAll (ids : List ModeId) {first : Option Fault} {s : ModeStack σ κ × Scene κ}
    {f : Fault} (h : (removeAll ids first s).1 = some f) :
    first = some f ∨
      s.2.cabinet.bench.MeetsFault f (removeAll ids first s).2.2.cabinet.bench := by
  induction ids generalizing first s with
  | nil => exact .inl h
  | cons id rest ih =>
    have hgrows := (tells_remove id).grows s
    simp only [removeAll] at h ⊢
    split at h <;> rename_i hremove <;> simp only [hremove] at hgrows ⊢
    · have hrest := removeAll_within (σ := σ) (κ := κ) Bench.spans_extends.remove rest
      rcases ih h with hkept | hmet
      · cases first with
        | some g => exact .inl hkept
        | none =>
          exact .inr (((tells_remove id).met hremove hkept).grow (hrest _ _))
      · exact .inr (Bench.Extends.meets hgrows hmet)
    · exact (ih h).imp_right fun hmet => Bench.Extends.meets hgrows hmet

theorem tells_clear : Scene.Tells some (clear (σ := σ) (κ := κ)) := by
  refine ⟨clear_within Bench.spans_extends.remove, fun {s t e f} h hf => ?_⟩
  obtain rfl : e = f := Option.some.inj hf
  obtain ⟨s, scene⟩ := s
  simp only [clear] at h
  split at h <;> rename_i hall <;> cases h
  have hmet := met_removeAll s.ids (congrArg Prod.fst hall)
  rw [hall] at hmet
  exact hmet.resolve_left (by simp)

end ModeStack

/-! ### The game -/

namespace Game
variable {σ κ : Type}

theorem tells_log (severity : Severity) (text : String) :
    Scene.Tells some (log severity text : Step σ κ Unit) :=
  .modify fun _ => Bench.extends_enter _ _

theorem tells_update (g : GameStatus → GameStatus) :
    Scene.Tells some (update g : Step σ κ Unit) := .modify fun _ => List.prefix_rfl

theorem tells_updateBanks (g : List Nat → List Nat) :
    Scene.Tells some (updateBanks g : Step σ κ Unit) := .modify fun _ => List.prefix_rfl

theorem tells_notify (hook : GameHook) : Scene.Tells some (notify hook : Step σ κ Unit) := by
  refine ⟨Bench.spans_extends.game.notify hook, fun {s t e f} h hf => ?_⟩
  obtain rfl : e = f := Option.some.inj hf
  obtain ⟨g, scene⟩ := s
  rcases hplay : (g.hook hook g.memory).play (g.memory,
    Scene.begin (.lifecycle hook) { scene with game := g.status }) with ⟨ending, memory, after⟩
  simp only [notify, hplay] at h
  split at h <;> rename_i hending <;> cases h
  cases ending <;> cases hending
  have hbegun : scene.cabinet.bench.Extends
      (Scene.begin (.lifecycle hook) { scene with game := g.status }).cabinet.bench :=
    Bench.extends_enter _ _
  exact hbegun.meets ((g.hook hook g.memory).tells_play.met hplay rfl)

theorem tells_whilePlaying (request : String) {x : Step σ κ Unit} (hx : Scene.Tells some x) :
    Scene.Tells some (whilePlaying request x) := by
  refine ⟨Bench.spans_extends.game.whilePlaying request hx.grows, fun {s t e f} h hf => ?_⟩
  obtain ⟨g, scene⟩ := s
  simp only [whilePlaying] at h
  split at h
  · exact hx.met h hf
  · cases h

theorem tells_startGame : Scene.Tells some (startGame : Step σ κ Unit) := by
  have start : Scene.Tells some (do
      update fun s => { s with
        ball := 1, players := 0, currentPlayer := 0, ballStartedAt := none, inProgress := true }
      updateBanks fun _ => []
      notify .gameStarted : Step σ κ Unit) :=
    .bind (tells_update _) fun _ => .bind (tells_updateBanks _) fun _ => tells_notify _
  exact .bind .get fun _ => .ite (.bind (tells_log _ _) fun _ => start) start

theorem tells_startBall : Scene.Tells some (startBall : Step σ κ Unit) :=
  tells_whilePlaying _ (.bind .get fun _ => .bind (tells_update _) fun _ => tells_notify _)

theorem tells_endGame : Scene.Tells some (endGame : Step σ κ Unit) := by
  refine ⟨Bench.spans_extends.game.endGame, fun {s t e f} h hf => ?_⟩
  obtain ⟨g, scene⟩ := s
  simp only [endGame] at h
  split at h
  · rcases hnotify : notify .gameEnded
      ({ g with status := { g.status with inProgress := false, ballStartedAt := none } }, scene)
      with ⟨ending, s⟩
    rw [hnotify] at h
    cases h
    have hmet : scene.cabinet.bench.MeetsFault f s.2.cabinet.bench :=
      (tells_notify .gameEnded).met hnotify hf
    exact hmet
  · cases h

theorem tells_nextBall : Scene.Tells some (nextBall : Step σ κ Unit) := by
  have rotate : Scene.Tells some (rotate : Step σ κ Unit) :=
    .bind .get fun _ => .ite (.bind (tells_update _) fun _ => tells_log _ _) (tells_update _)
  exact .bind rotate fun _ => .bind .get fun _ => .ite tells_endGame tells_startBall

theorem tells_endBall : Scene.Tells some (endBall : Step σ κ Unit) := by
  refine tells_whilePlaying _ (.bind .get fun s => ?_)
  obtain ⟨g, scene⟩ := s
  have finish (player : Nat) : Scene.Tells some (do
      notify .ballEnded
      if 0 < g.extraBalls player then
        updateBanks fun banks => banks.modify player (· - 1)
        log .debug ("player " ++ toString (player + 1) ++ " shoots again")
        update fun s => { s with ballStartedAt := some scene.now }
        notify .shootAgain
      else nextBall : Step σ κ Unit) :=
    .bind (tells_notify _) fun _ => .ite
      (.bind (tells_updateBanks _) fun _ => .bind (tells_log _ _) fun _ =>
        .bind (tells_update _) fun _ => tells_notify _)
      tells_nextBall
  dsimp only
  split
  · exact .bind (tells_log _ _) fun _ => finish _
  · exact finish _

/-- Whatever is asked of the game, a fault is one in which a lifecycle callback ended. -/
theorem tells_apply (r : GameRequest) : Scene.Tells some (apply r : Step σ κ Unit) := by
  refine .bind (tells_log _ _) fun _ => ?_
  cases r with
  | startGame => exact tells_startGame
  | addPlayer =>
    exact .bind (tells_whilePlaying _ (.bind (tells_update _) fun _ => tells_updateBanks _))
      fun _ => .modify fun _ => List.prefix_rfl
  | startBall => exact tells_startBall
  | endBall => exact tells_endBall
  | endGame => exact tells_endGame
  | awardExtraBall => exact .bind .get fun _ => .ite (tells_updateBanks _) (tells_log _ _)
  | updateLamps => exact tells_notify _

end Game

/-! ### The engine -/

namespace Engine
variable {σ κ : Type} {α : Type}

theorem tells_onStack {x : Act Fault (ModeStack σ κ × Scene κ) α} (hx : Scene.Tells some x) :
    Scene.Tells some (onStack x) := hx.zoom (fun _ => rfl) fun _ _ => rfl

theorem tells_count (g : Stats → Stats) : Scene.Tells some (count g : Step σ κ Unit) :=
  .modify fun _ => List.prefix_rfl

theorem tells_log (severity : Severity) (text : String) :
    Scene.Tells some (log severity text : Step σ κ Unit) :=
  .modify fun _ => Bench.extends_enter _ _

theorem tells_apply (r : Request κ) : Scene.Tells some (apply r : Step σ κ Unit) := by
  cases r with
  | addMode id kind => exact .bind .get fun _ => tells_onStack (ModeStack.tells_add _)
  | removeMode id =>
    exact .bind (tells_onStack (ModeStack.tells_remove id)) fun _ =>
      .ite (.bind .get fun _ => tells_log _ _) (.pure ())
  | game request =>
    have hgame : Scene.Tells some (onGame (Game.apply request) : Step σ κ Unit) :=
      (Game.tells_apply request).zoom (fun _ => rfl) fun _ _ => rfl
    exact .bind hgame fun _ => .modify fun _ => List.prefix_rfl
  | flippers enable =>
    have hrules (now : Span) :
        Scene.Tells some (onRules (FlipperRules.setEnabled enable now) : Step σ κ Bool) :=
      (FlipperRules.tells_setEnabled enable now).zoom (fun _ => rfl) fun _ _ => rfl
    exact .bind .get fun s => .bind (hrules s.2.now) fun _ => .modify fun _ => List.prefix_rfl

/-- A fault that ends the settling was met while a request was carried out. -/
theorem tells_settle : Scene.Tells some (settle : Step σ κ Unit) := by
  have take : Scene.Tells some
      (inScene fun _ scene => scene.takeRequests.2 : Step σ κ Unit) :=
    .modify fun _ => List.prefix_rfl
  have rounds (n : Nat) : Scene.Tells some (settleRounds n : Step σ κ Unit) := by
    induction n with
    | zero => exact .bind .get fun _ => .bind take fun _ => .ite (tells_log _ _) (.pure ())
    | succ n ih =>
      exact .bind .get fun _ => .bind take fun _ =>
        .ite (.bind (.each tells_apply _) fun _ => ih) (.pure ())
  exact rounds maxRounds

/-- The fault that comes last of a walk or a tick is one that its callbacks met. -/
theorem tells_afterwards {x : Act Fault (ModeStack σ κ × Scene κ) Report}
    (hx : Scene.Tells some x) (reports : ModeStack.Reports x) :
    Scene.Tells some (onStack x >>= fun report => record report >>= fun _ => settle >>= fun _ =>
      .finish report.check : Step σ κ Unit) := by
  have rest (report : Report) :
      Scene.Tells some (record report >>= fun _ => settle : Step σ κ Unit) :=
    .bind (tells_count _) fun _ => tells_settle
  refine ⟨.bind (tells_onStack hx).grows fun _ => .bind (tells_count _).grows fun _ =>
    .bind tells_settle.grows fun _ => .finish _, fun {s t e f} h hf => ?_⟩
  rcases Act.bind_eq_error h with hstack | ⟨report, u, hstack, hrest⟩
  · exact (tells_onStack hx).met hstack hf
  · have hstacked := (tells_onStack hx).grows s
    rw [hstack] at hstacked
    rw [← Act.bind_assoc] at hrest
    rcases Act.bind_eq_error hrest with hsettle | ⟨_, v, hsettle, hfinish⟩
    · exact Bench.Extends.meets hstacked ((rest report).met hsettle hf)
    · have hsettled := (rest report).grows u
      rw [hsettle] at hsettled
      obtain rfl : e = f := Option.some.inj hf
      rcases hran : x (s.1.stack, s.2) with ⟨ending, ran⟩
      simp only [onStack, Act.zoom, hran] at hstack
      cases hstack
      obtain ⟨hcheck, rfl⟩ := Prod.mk.inj hfinish
      exact (reports hran (Report.check_eq_error.mp hcheck)).grow hsettled

theorem tells_dispatch (switch : Switch) : Scene.Tells some (dispatch switch : Step σ κ Unit) :=
  .bind (tells_count _) fun _ =>
    tells_afterwards (ModeStack.tells_dispatch switch) (ModeStack.reports_dispatch switch)

theorem tells_tick : Scene.Tells some (tick : Step σ κ Unit) :=
  tells_afterwards ModeStack.tells_tick ModeStack.reports_tick

theorem tells_frame : Scene.Tells some (frame : Step σ κ Unit) := by
  have failed (text : String) :
      Scene.Tells some (failFrame text >>= fun _ => settle : Step σ κ Unit) :=
    .bind (.bind (tells_count _) fun _ => tells_log _ _) fun _ => tells_settle
  refine .bind (tells_count _) fun _ => .bind .get fun (e, _) => ?_
  dsimp only
  split
  · exact .pure ()
  · rename_i handler _
    let callback := handler.run handler.memory
    refine .bind (.modify fun s => Bench.extends_enter _ _) fun _ =>
      ⟨.bind (fun s => callback.tells_play.grows (handler.memory, s.2)) fun outcome => ?_,
        fun {s t e f} h hf => ?_⟩
    · split
      · exact tells_settle.grows
      · exact .bind (.fail _) fun _ => tells_settle.grows
      · exact (failed _).grows
      · exact (failed _).grows
    · rcases Act.bind_eq_error h with hplay | ⟨outcome, u, hplay, hrest⟩
      · cases hplay
      · have hgrows := callback.tells_play.grows (handler.memory, s.2)
        rcases hran : callback.play (handler.memory, s.2) with ⟨ending, memory, after⟩
        rw [hran] at hgrows
        simp only [callback, hran] at hplay
        cases hplay
        -- only a fault of the board in the callback ends the frame at once
        split at hrest
        · exact Bench.Extends.meets hgrows (tells_settle.met hrest hf)
        · cases hrest
          exact callback.tells_play.met hran hf
        · exact Bench.Extends.meets hgrows ((failed _).met hrest hf)
        · exact Bench.Extends.meets hgrows ((failed _).met hrest hf)

end Engine

/-! ### The machine -/

namespace Machine
variable {σ κ : Type} {α : Type}

/-- The journal only grows, and a fault was met meanwhile. -/
abbrev Tells (x : Step σ κ α) : Prop := Act.Tells some (fun m => m.cabinet.bench) x

theorem tells_inContext (now : Span) {body : Engine.Step σ κ α} (hbody : Scene.Tells some body) :
    Tells (inContext now body) := by
  have hsettle := Engine.tells_settle (σ := σ) (κ := κ)
  constructor
  · intro m
    obtain ⟨t, hrest, hstate⟩ := inContext_leads hsettle.grows now body m
    rw [InvImage, hstate]
    exact Composes.trans (R := Bench.Extends) (hbody.grows (m.engine, m.scene now)) hrest
  · intro m m' e f h hf
    have hgrows := hbody.grows (m.engine, m.scene now)
    rcases hran : body (m.engine, m.scene now) with ⟨value, s⟩
    rcases hsettled : Engine.settle s with ⟨settled, t⟩
    rw [hran] at hgrows
    have hlater := hsettle.grows s
    rw [hsettled] at hlater
    simp only [inContext, hran] at h
    cases value with
    | panic _ => cases h
    | error g =>
      simp only [hsettled] at h
      cases settled with
      | panic _ => cases h
      | ok _ | error _ =>
        cases h
        exact (hbody.met hran hf).grow hlater
    | ok _ =>
      simp only [hsettled] at h
      cases settled with
      | panic _ | ok _ => cases h
      | error _ =>
        cases h
        exact Bench.Extends.meets hgrows (hsettle.met hsettled hf)

theorem tells_onBench {x : Act Fault Bench α} (hx : x.Tells some id) :
    Tells (onCabinet (Cabinet.onBench x) : Step σ κ α) := by
  have hcabinet : Act.Tells some Cabinet.bench (Cabinet.onBench x) :=
    hx.zoom (fun _ => rfl) fun _ _ => rfl
  exact hcabinet.zoom (fun _ => rfl) fun _ _ => rfl

theorem tells_onDrivers {ε : Type} {cause : ε → Option Fault} {x : Act ε (DriverBank × Bench) α}
    (hx : x.Tells cause Prod.snd) :
    (onCabinet (Cabinet.onDrivers x) : Act ε (Machine σ κ) α).Tells cause
      fun m => m.cabinet.bench := by
  have hcabinet : Act.Tells cause Cabinet.bench (Cabinet.onDrivers x) :=
    hx.zoom (fun _ => rfl) fun _ _ => rfl
  exact hcabinet.zoom (fun _ => rfl) fun _ _ => rfl

theorem tells_log (severity : Severity) (text : String) :
    Tells (log severity text : Step σ κ Unit) :=
  .modify fun _ => Bench.extends_enter _ _

theorem tells_count (g : Stats → Stats) : Tells (count g : Step σ κ Unit) :=
  .modify fun _ => List.prefix_rfl

theorem tells_handleEvent (e : Event) (now : Span) : Tells (handleEvent e now : Step σ κ Unit) := by
  have down (number : Nat) : Scene.Tells some (handDown number : Engine.Step σ κ Unit) := by
    refine .bind .get fun (_, scene) => ?_
    dsimp only
    split
    · exact .bind (Engine.tells_log _ _) fun _ => Engine.tells_dispatch _
    · exact .pure ()
  have changed (number : Nat) (closed : Bool) :
      Tells (switchChanged number closed now : Step σ κ Unit) := by
    refine .bind (tells_count _) fun _ => .bind ?_ fun previous => ?_
    · exact .of_never (fun _ => List.prefix_rfl) fun _ _ h => nomatch h
    · cases previous with
      | none => exact tells_log _ _
      | some previous =>
        exact .ite (.bind (tells_count _) fun _ => tells_log _ _)
          (tells_inContext now (down number))
  simp only [handleEvent]
  split
  · exact changed _ _
  · split
    · exact tells_inContext now Engine.tells_frame
    · exact tells_log _ _

theorem tells_carryOut (now : Span) (c : Command) : Tells (carryOut now c : Step σ κ Unit) := by
  refine ⟨fun m => (Bench.spans_extends.carryOut now c m).bench, fun {m m' e f} h hf => ?_⟩
  rcases Act.bind_eq_error h with hcount | ⟨_, n, hcount, hrest⟩
  · cases hcount
  · have hsame : m.cabinet.bench = n.cabinet.bench := by cases hcount; rfl
    rw [hsame]
    split at hrest <;> rename_i hobey <;> cases hrest
    exact (tells_onDrivers (DriverBank.tells_obey c.order now)).met hobey hf

theorem tells_drainCommands (now : Span) : Tells (drainCommands now : Step σ κ Unit) :=
  .bind (.of_never (fun _ => List.prefix_rfl) fun _ _ h => nomatch h) fun _ =>
    .ite (.bind (tells_log _ _) fun _ => .each (tells_carryOut now) _) (.pure ())

theorem tells_enableFlippers (enable : Bool) : Tells (enableFlippers enable : Step σ κ Bool) := by
  refine ⟨fun m => (Bench.spans_extends.enableFlippers enable m).bench,
    fun {m m' e f} h hf => ?_⟩
  rcases hset : FlipperRules.setEnabled enable m.now
    (m.engine.rules, m.cabinet.drivers, m.cabinet.bench) with ⟨ending, rules, drivers, bench⟩
  simp only [enableFlippers, hset] at h
  cases h
  exact (FlipperRules.tells_setEnabled enable m.now).met hset hf

end Machine

/-! ### Panics -/

namespace Machine
variable {σ κ : Type} {α : Type} {m m' : Machine σ κ} {message : String}

/-- If a computation that does not look back panics and the board was struck last, it was struck
meanwhile. -/
theorem meetsPanic {x : Step σ κ α} (hx : ∀ p, x.Commutes (after p))
    (struck : ∀ t, x m.bare = (.panic message, t) → t.Struck) (h : x m = (.panic message, m')) :
    m.cabinet.bench.MeetsPanic m'.cabinet.bench := by
  rcases hbare : x m.bare with ⟨ending, t⟩
  have hm : x m = Act.mapState (after m.past) (x m.bare) := by rw [← hx, bare_after_past]
  rw [h, hbare] at hm
  cases hm
  obtain ⟨c, hlast⟩ := struck t hbare
  refine ⟨t.cabinet.bench.journal.toList, Array.toList_append, .call c .panicked, ?_, c, rfl⟩
  rw [Array.mem_toList_iff]
  exact Array.mem_of_back? hlast

end Machine

/-! ### Stages of calls -/

theorem Stage.tells {σ κ : Type} {st : Stage σ κ} (inside : ∀ a, st ≠ .aside a) :
    Machine.Tells st.act := by
  cases st with
  | event e now => exact Machine.tells_handleEvent e now
  | tick now => exact Machine.tells_inContext now Engine.tells_tick
  | join mode now =>
    exact Machine.tells_inContext now (Engine.tells_onStack (ModeStack.tells_add mode))
  | leave id now =>
    exact .bind (Machine.tells_inContext now (Engine.tells_onStack (ModeStack.tells_remove id)))
      fun _ => .pure ()
  | clear now => exact Machine.tells_inContext now (Engine.tells_onStack ModeStack.tells_clear)
  | ask request now => exact Machine.tells_inContext now (Engine.tells_apply (.game request))
  | aside a => exact absurd rfl (inside a)

/-- Apart from asides, a stage panics only if the board does meanwhile or a tick meets a deadline
that does not exist. -/
theorem Stage.panics {σ κ : Type} {st : Stage σ κ} {m m' : Machine σ κ} {message : String}
    (h : st.act m = (.panic message, m')) :
    m.cabinet.bench.MeetsPanic m'.cabinet.bench ∨
      (∃ now, st = .tick now ∧ m.engine.stack.holds.Overflows m.cabinet.switches) ∨
      ∃ a, st = .aside a := by
  cases st with
  | event e now =>
    exact .inl (Machine.meetsPanic (fun p => Machine.commutes_handleEvent p e now)
      (fun _ ht => Machine.struck_handleEvent e now ht) h)
  | tick now =>
    by_cases hover : m.engine.stack.holds.Overflows m.cabinet.switches
    · exact .inr (.inl ⟨now, rfl, hover⟩)
    · exact .inl (Machine.meetsPanic
        (fun p => Machine.commutes_inContext p now (Engine.commutes_tick p))
        (fun _ ht => (Machine.tick_panics ht).resolve_right hover) h)
  | join mode now =>
    exact .inl (Machine.meetsPanic
      (fun p => Machine.commutes_inContext p now
        (Engine.commutes_onStack p (ModeStack.commutes_add p mode)))
      (fun _ ht =>
        Machine.struck_inContext now (Engine.struck_onStack (ModeStack.safe_add mode)) ht) h)
  | leave id now =>
    have hstruck := Machine.struck_inContext now (Engine.struck_onStack
      (ModeStack.safe_remove (σ := σ) (κ := κ) id))
    exact .inl (Machine.meetsPanic
      (fun p => .bind (Machine.commutes_inContext p now
        (Engine.commutes_onStack p (ModeStack.commutes_remove p id))) fun _ => .pure _)
      (fun _ ht => Act.PanicsIn.bind hstruck (fun _ => .pure ()) ht) h)
  | clear now =>
    exact .inl (Machine.meetsPanic
      (fun p => Machine.commutes_inContext p now
        (Engine.commutes_onStack p (ModeStack.commutes_clear p)))
      (fun _ ht => Machine.struck_inContext now (Engine.struck_onStack ModeStack.safe_clear) ht) h)
  | ask request now =>
    exact .inl (Machine.meetsPanic
      (fun p => Machine.commutes_inContext p now (Engine.commutes_apply p (.game request)))
      (fun _ ht => Machine.struck_inContext now (Engine.struck_apply (.game request)) ht) h)
  | aside a => exact .inr (.inr ⟨a, rfl⟩)

/-- Every stage of a call reports the faults that it meets. What happens between calls may be
anything. -/
theorem Call.tells_plan {σ κ : Type} {c : Call σ κ} (inside : ∀ a, c ≠ .outside a)
    (m : Machine σ κ) : ∀ st ∈ c.plan m, Machine.Tells st.act := by
  have drivers (now : Span) : Machine.Tells (Stage.act (.aside (.drivers now)) :
      Machine.Step σ κ Unit) :=
    Machine.tells_onDrivers (DriverBank.tells_tick now)
  have poll : Machine.Tells (Stage.act (.aside .poll) : Machine.Step σ κ Unit) :=
    .bind .get fun _ => .bind (Machine.tells_onBench (Bench.tells_call _ _ _)) fun _ => .pure ()
  have flippers (enable : Bool) : Machine.Tells (Stage.act (.aside (.flippers enable)) :
      Machine.Step σ κ Unit) :=
    .bind (Machine.tells_enableFlippers enable) fun _ => .pure ()
  have single {st : Stage σ κ} (h : ∀ a, st ≠ .aside a) :
      ∀ st' ∈ [st], Machine.Tells st'.act := by
    simpa using Stage.tells h
  cases c with
  | processEvent event => exact single (by simp)
  | step =>
    simp only [plan]
    split
    · simp only [List.cons_append, List.forall_mem_cons, List.forall_mem_append,
        List.forall_mem_map]
      exact ⟨poll, fun _ _ => Stage.tells (by simp), Stage.tells (by simp), drivers _,
        Machine.tells_drainCommands _, Machine.tells_onBench (Bench.tells_call _ _ _),
        .modify fun _ => List.prefix_rfl, List.forall_mem_nil _⟩
    · simpa using poll
  | addMode mode => exact single (by simp)
  | removeMode id => exact single (by simp)
  | requestGame request => exact single (by simp)
  | enableFlippers enable => simpa [plan] using flippers enable
  | reset =>
    simp only [plan, List.forall_mem_cons]
    exact ⟨Machine.tells_log _ _, Stage.tells (by simp), .modify fun _ => List.prefix_rfl,
      flippers false, List.forall_mem_nil _⟩
  | outside a => exact absurd rfl (inside a)

end Playfield
