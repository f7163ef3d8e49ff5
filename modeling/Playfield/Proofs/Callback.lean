import Playfield.Cabinet
import Playfield.Proofs.Starts

/-!
# What callbacks leave alone

A callback can give orders to drivers, ask for changes of the engine, move the clock and act on the
bench. `Scene.Passes` lists what it cannot change: the time of the walk, the running mode, the game
and flippers as seen, the switches, and what was asked for before. The same relation describes a
sequence of callbacks; it then says which callbacks began, in order.

Of a mode, callbacks change the memory only. `Mode.fixed` is all the rest.
-/
namespace Playfield

namespace Scene
variable {κ : Type}

/-- The callbacks that have begun, in order. -/
def starts (s : Scene κ) : List (CallbackSite × Glimpse) := s.cabinet.bench.starts

/-- What a callback of a mode sees of the engine when it begins in this scene. -/
def glimpseOf (s : Scene κ) (mode : ModeId) : Glimpse := ⟨s.now, some mode, s.game, s.flippers⟩

/-- One scene goes over into another while just the given callbacks begin. -/
structure Passes (began : List (CallbackSite × Glimpse)) (s t : Scene κ) : Prop where
  now : t.now = s.now
  running : t.running = s.running
  game : t.game = s.game
  flippers : t.flippers = s.flippers
  switches : t.cabinet.switches = s.cabinet.switches
  starts : t.starts = s.starts ++ began
  asked : s.requests <+: t.requests

namespace Passes
variable {s t u : Scene κ} {began next : List (CallbackSite × Glimpse)}

theorem refl (s : Scene κ) : Passes [] s s :=
  ⟨rfl, rfl, rfl, rfl, rfl, (List.append_nil _).symm, List.prefix_rfl⟩

theorem trans (h : Passes began s t) (h' : Passes next t u) : Passes (began ++ next) s u where
  now := h'.now.trans h.now
  running := h'.running.trans h.running
  game := h'.game.trans h.game
  flippers := h'.flippers.trans h.flippers
  switches := h'.switches.trans h.switches
  starts := by rw [h'.starts, h.starts, List.append_assoc]
  asked := h.asked.trans h'.asked

/-- The scene changes outside of what callbacks cannot change. -/
theorem quiet_trans (h : Passes [] s t) (h' : Passes next t u) : Passes next s u := h.trans h'

theorem glimpseOf (h : Passes began s t) (mode : ModeId) : t.glimpseOf mode = s.glimpseOf mode := by
  rw [Scene.glimpseOf, h.now, h.game, h.flippers, Scene.glimpseOf]

end Passes

/-- A remark begins no callback. -/
theorem passes_remark (severity : Severity) (text : String) (s : Scene κ) :
    Passes [] s (s.remark severity text) where
  now := rfl
  running := rfl
  game := rfl
  flippers := rfl
  switches := rfl
  starts := by simp [starts, remark]
  asked := List.prefix_rfl

/-- The end of a callback begins none. -/
theorem passes_finish (ending : Outcome HandlerError Verdict) (s : Scene κ) :
    Passes [] s (s.finish ending) where
  now := rfl
  running := rfl
  game := rfl
  flippers := rfl
  switches := rfl
  starts := by simp [starts, finish]
  asked := List.prefix_rfl

theorem starts_begin (site : CallbackSite) (s : Scene κ) :
    (s.begin site).starts = s.starts ++ [(site, ⟨s.now, s.running, s.game, s.flippers⟩)] := by
  simp [starts, begin]

end Scene

namespace Cabinet

theorem starts_perform (a : BenchAct) (c : Cabinet) :
    (c.perform a).bench.starts = c.bench.starts := by
  cases a with
  | note text => exact c.bench.starts_note text
  | advance _ => rfl
  | post _ => exact Bench.starts_eq_of_journal rfl
  | plan _ _ => exact Bench.starts_eq_of_journal rfl
  | planClose _ => exact Bench.starts_eq_of_journal rfl
  | raiseStop => rfl

theorem switches_perform (a : BenchAct) (c : Cabinet) : (c.perform a).switches = c.switches := by
  cases a <;> rfl

theorem enqueue_frame (command : Command) (c : Cabinet) :
    (c.enqueue command).2.switches = c.switches ∧ (c.enqueue command).2.bench = c.bench := by
  simp only [enqueue]
  split <;> exact ⟨rfl, rfl⟩

/-- An order given to a driver changes no switch and begins no callback. -/
theorem obey_frame (o : Order) (now : Span) (c : Cabinet) :
    (onDrivers (DriverBank.obey o now) c).2.switches = c.switches ∧
      (onDrivers (DriverBank.obey o now) c).2.bench.starts = c.bench.starts :=
  ⟨rfl, DriverBank.keeps_starts_obey o now (c.drivers, c.bench)⟩

end Cabinet

namespace Callback
variable {σ κ : Type}

/-- Whatever a callback does, and however it ends, it passes the scene on without another callback
having begun. -/
theorem play_passes (c : Callback σ κ) (m : σ) (scene : Scene κ) :
    scene.Passes [] (c.play (m, scene)).2.2 := by
  induction c generalizing m scene with
  | done ending => exact scene.passes_finish ending
  | remember memory next ih => exact ih memory scene
  | look next ih => exact ih _ m scene
  | order o next ih =>
    refine Scene.Passes.quiet_trans ?_ (ih _ m _)
    have h := Cabinet.obey_frame o scene.now scene.cabinet
    exact { Scene.Passes.refl scene with
      switches := h.1, starts := h.2.trans (List.append_nil _).symm }
  | ask request next ih =>
    refine Scene.Passes.quiet_trans ?_ (ih m _)
    exact { Scene.Passes.refl scene with asked := List.prefix_append _ _ }
  | issue tag next ih =>
    refine Scene.Passes.quiet_trans ?_ (ih _ m _)
    exact { Scene.Passes.refl scene with }
  | enqueue command next ih =>
    refine Scene.Passes.quiet_trans ?_ (ih _ m _)
    have h := Cabinet.enqueue_frame command scene.cabinet
    exact { Scene.Passes.refl scene with
      switches := h.1
      starts := (congrArg Bench.starts h.2).trans (List.append_nil _).symm }
  | act a next ih =>
    refine Scene.Passes.quiet_trans ?_ (ih m _)
    exact { Scene.Passes.refl scene with
      switches := Cabinet.switches_perform a _
      starts := (Cabinet.starts_perform a _).trans (List.append_nil _).symm }

end Callback

/-- Everything about a mode but its memory. -/
structure ModeParts (σ κ : Type) where
  id : ModeId
  name : String
  priority : Int
  table : BindingTable
  handlers : List (σ → Switch → Callback σ κ)
  hook : ModeHook → σ → Callback σ κ

namespace Mode
variable {σ κ : Type}

/-- What callbacks cannot change of a mode. -/
def fixed (m : Mode σ κ) : ModeParts σ κ :=
  ⟨m.id, m.name, m.priority, m.table, m.handlers, m.hook⟩

theorem id_eq_of_fixed {m n : Mode σ κ} (h : n.fixed = m.fixed) : n.id = m.id :=
  congrArg ModeParts.id h

theorem name_eq_of_fixed {m n : Mode σ κ} (h : n.fixed = m.fixed) : n.name = m.name :=
  congrArg ModeParts.name h

theorem allBindings_eq_of_fixed {m n : Mode σ κ} (h : n.fixed = m.fixed) :
    n.allBindings = m.allBindings :=
  congrArg (fun parts => parts.table.toList) h

/-- Running a callback of a mode changes its memory only. -/
structure Plays (x : Act HandlerError (Mode σ κ × Scene κ) Verdict) : Prop where
  fixed : ∀ s, (x s).2.1.fixed = s.1.fixed
  passes : ∀ s : Mode σ κ × Scene κ, s.2.Passes [] (x s).2.2

theorem plays_play (c : Callback σ κ) : Plays (play c) :=
  ⟨fun _ => rfl, fun (m, scene) => c.play_passes m.memory scene⟩

theorem plays_handle (binding : Nat) (switch : Switch) :
    Plays (handle binding switch : Act HandlerError (Mode σ κ × Scene κ) Verdict) where
  fixed := by
    intro state
    obtain ⟨m, scene⟩ := state
    simp only [handle]
    split <;> rfl
  passes := by
    intro state
    obtain ⟨m, scene⟩ := state
    simp only [handle]
    split
    · exact (plays_play _).passes (m, scene)
    · exact .refl scene

theorem plays_runHook (h : ModeHook) :
    Plays (runHook h : Act HandlerError (Mode σ κ × Scene κ) Verdict) where
  fixed := fun _ => rfl
  passes := fun (m, scene) => (plays_play _).passes (m, scene)

variable {x : Act HandlerError (Mode σ κ × Scene κ) Verdict}

theorem fixed_guarded (hx : Plays x) (site : CallbackSite) (m : Mode σ κ) (scene : Scene κ) :
    (guarded site x m scene).2.1.fixed = m.fixed :=
  hx.fixed _

/-- A guarded callback begins just itself. In the end the mode that ran before runs again. -/
theorem passes_guarded (hx : Plays x) (site : CallbackSite) (m : Mode σ κ) (scene : Scene κ) :
    scene.Passes [(site, scene.glimpseOf m.id)] (guarded site x m scene).2.2 := by
  have h := hx.passes (m, { scene with running := some m.id }.begin site)
  refine ⟨h.now, rfl, h.game, h.flippers, h.switches, ?_, h.asked⟩
  have hs := h.starts
  rw [List.append_nil, Scene.starts_begin] at hs
  exact hs

end Mode

end Playfield
