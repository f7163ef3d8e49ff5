import Playfield.Proofs.Stack

/-!
# What callbacks see of the game

A callback sees the game by looking around, and whatever it does, each of its looks shows the game
as it was when the callback began. The callbacks of modes and the frame callback change nothing
about that: a walk, a tick, and a mode that joins or leaves show all their callbacks the same game.
-/
namespace Playfield

namespace Callback
variable {σ κ : Type}

/-- All that a callback sees when it runs, look by look. -/
def sights : Callback σ κ → σ × Scene κ → List View
  | .done _, _ => []
  | .remember memory next, (_, scene) => next.sights (memory, scene)
  | .look next, (m, scene) => scene.view :: (next scene.view).sights (m, scene)
  | .order o next, (m, scene) =>
    match Scene.onCabinet (Cabinet.onDrivers (DriverBank.obey o scene.now)) scene with
    | (answer, scene) => (next answer).sights (m, scene)
  | .ask request next, (m, scene) =>
    next.sights (m, { scene with requests := scene.requests ++ [request] })
  | .issue tag next, (m, scene) =>
    match scene.cabinet.ids.issue tag with
    | (id, ids) => (next id).sights (m, { scene with cabinet := { scene.cabinet with ids } })
  | .enqueue command next, (m, scene) =>
    match scene.cabinet.enqueue command with
    | (answer, cabinet) => (next answer).sights (m, { scene with cabinet })
  | .act a next, (m, scene) =>
    next.sights (m, { scene with cabinet := scene.cabinet.perform a })

/-- Every look shows the engine as it is in the scene. -/
theorem seen_of_mem_sights (c : Callback σ κ) (m : σ) (scene : Scene κ) {v : View}
    (h : v ∈ c.sights (m, scene)) : v.now = scene.now ∧ v.running = scene.running ∧
      v.game = scene.game ∧ v.flippers = scene.flippers := by
  induction c generalizing m scene with
  | done ending => exact nomatch h
  | remember memory next ih => exact ih memory scene h
  | look next ih =>
    rcases List.mem_cons.mp h with rfl | h
    · exact ⟨rfl, rfl, rfl, rfl⟩
    · exact ih _ m scene h
  | order o next ih => exact (ih _ m _ h :)
  | ask request next ih => exact (ih m _ h :)
  | issue tag next ih => exact (ih _ m _ h :)
  | enqueue command next ih => exact (ih _ m _ h :)
  | act a next ih => exact (ih m _ h :)

theorem game_of_mem_sights (c : Callback σ κ) (m : σ) (scene : Scene κ) {v : View}
    (h : v ∈ c.sights (m, scene)) : v.game = scene.game := (c.seen_of_mem_sights m scene h).2.2.1

end Callback

namespace Scene
variable {κ : Type}

/-- The game as seen stays as it is, and the callbacks that begin see it so. None of them is the one
at the end of a game. -/
structure Peeks (s t : Scene κ) : Prop where
  game : t.game = s.game
  starts : ∃ begun, t.starts = s.starts ++ begun ∧
    ∀ start ∈ begun, start.2.game = s.game ∧ start.1 ≠ .lifecycle .gameEnded

theorem Peeks.trans {s t u : Scene κ} (h : s.Peeks t) (h' : t.Peeks u) : s.Peeks u := by
  obtain ⟨begun, hbegun, hfirst⟩ := h.starts
  obtain ⟨later, hlater, hrest⟩ := h'.starts
  refine ⟨h'.game.trans h.game, begun ++ later, ?_, fun start hstart => ?_⟩
  · rw [hlater, hbegun, List.append_assoc]
  · rcases List.mem_append.mp hstart with hstart | hstart
    · exact hfirst start hstart
    · exact ⟨(hrest start hstart).1.trans h.game, (hrest start hstart).2⟩

theorem Passes.peeks {s t : Scene κ} {begun : List (CallbackSite × Glimpse)} (h : s.Passes begun t)
    (hbegun : ∀ start ∈ begun, start.2.game = s.game ∧ start.1 ≠ .lifecycle .gameEnded) :
    s.Peeks t :=
  ⟨h.game, begun, h.starts, hbegun⟩

theorem Passes.peeks_quiet {s t : Scene κ} (h : s.Passes [] t) : s.Peeks t :=
  h.peeks fun _ hstart => nomatch hstart

/-- What neither changes the game as seen nor begins a callback. -/
theorem peeks_of_same {s t : Scene κ} (hgame : t.game = s.game) (hstarts : t.starts = s.starts) :
    s.Peeks t :=
  ⟨hgame, [], hstarts.trans (List.append_nil _).symm, fun _ hstart => nomatch hstart⟩

theorem Peeks.refl (s : Scene κ) : s.Peeks s := peeks_of_same rfl rfl

theorem peeks_begin {site : CallbackSite} (h : site ≠ .lifecycle .gameEnded) (s : Scene κ) :
    s.Peeks (s.begin site) := by
  refine ⟨rfl, _, s.starts_begin site, fun start hstart => ?_⟩
  rw [List.mem_singleton.mp hstart]
  exact ⟨rfl, h⟩

end Scene

/-! ### The mode stack -/

namespace ModeStack
variable {σ κ : Type}

/-- The scene shows callbacks the same game all along. -/
abbrev Peeks (s t : ModeStack σ κ × Scene κ) : Prop := s.2.Peeks t.2

instance : Composes (Peeks (σ := σ) (κ := κ)) where
  refl s := .refl s.2
  trans := Scene.Peeks.trans

theorem peeks_add (m : Mode σ κ) : (add m).Within Peeks := by
  rintro ⟨s, scene⟩
  by_cases hm : m.id ∈ idsOf s.slots
  · exact (add_there hm scene).2.peeks_quiet
  · obtain ⟨m', -, -, -, -, hpass⟩ := add_new hm scene
    refine hpass.peeks fun start hstart => ?_
    rw [List.mem_singleton.mp hstart]
    exact ⟨rfl, by simp⟩

theorem peeks_remove (id : ModeId) : (remove (σ := σ) (κ := κ) id).Within Peeks := by
  rintro ⟨s, scene⟩
  by_cases hid : id ∈ idsOf s.slots
  · obtain ⟨-, -, -, hpass⟩ := remove_present hid scene
    refine hpass.peeks fun start hstart => ?_
    rw [List.mem_singleton.mp hstart]
    exact ⟨rfl, by simp⟩
  · rw [remove_absent hid scene]
    exact .refl scene

theorem peeks_clear : (clear (σ := σ) (κ := κ)).Within Peeks := clear_within peeks_remove

theorem peeks_dispatch (switch : Switch) :
    (dispatch switch : Act Fault (ModeStack σ κ × Scene κ) Report).Within Peeks := by
  rintro ⟨s, scene⟩
  refine (passes_dispatch switch s scene).peeks fun start hstart => ?_
  obtain ⟨slot, -, hstart⟩ := List.mem_flatMap.mp hstart
  obtain ⟨b, -, rfl⟩ := List.mem_map.mp hstart
  exact ⟨rfl, by simp⟩

theorem mem_hooksOf {slots : List (Slot σ κ)} {scene : Scene κ} {start : CallbackSite × Glimpse}
    (h : start ∈ hooksOf slots scene) :
    start.2.game = scene.game ∧ start.1 ≠ .lifecycle .gameEnded := by
  obtain ⟨id, -, rfl⟩ := List.mem_map.mp h
  exact ⟨rfl, by simp⟩

theorem of_called {store : SwitchStore} {ids : List ModeId} {scene : Scene κ} {o : Obligation}
    {start : CallbackSite × Glimpse} (h : called store ids scene o = some start) :
    start.2.game = scene.game ∧ start.1 ≠ .lifecycle .gameEnded := by
  simp only [called] at h
  split at h
  · split at h
    · cases h
      exact ⟨rfl, by simp⟩
    · cases h
  · cases h

theorem peeks_tick : (tick : Act Fault (ModeStack σ κ × Scene κ) Report).Within Peeks := by
  rintro ⟨s, scene⟩
  obtain ⟨t, after, -, -, hcase⟩ := tick_cases (ε := Fault) s scene
  rcases hcase with ⟨htick, -, hpass⟩ | ⟨⟨report, htick⟩, -, hpass⟩
  · rw [htick]
    exact hpass.peeks fun start hstart => mem_hooksOf hstart
  · rw [htick]
    refine hpass.peeks fun start hstart => ?_
    rcases List.mem_append.mp hstart with hstart | hstart
    · exact mem_hooksOf hstart
    · obtain ⟨o, -, ho⟩ := List.mem_filterMap.mp hstart
      exact of_called ho

end ModeStack

end Playfield
