import Playfield.Proofs.Calls
import Playfield.Proofs.Effects
import Playfield.Proofs.Sights

/-!
# Callbacks see the present

The scene holds copies of what callbacks may see of the engine. They are never stale: a callback
that begins sees the time of its call, its own mode, the game as it is at that moment and whether
the flippers are on at that moment (`Machine.callbacks_see_present`). A turn keeps the copies true
whatever becomes of it (`Taken.present`), and so does everything that is made of turns.
-/
namespace Playfield

/-- The beginning of a callback, with the game and the flippers as the engine has them then. -/
structure Moment where
  site : CallbackSite
  game : GameStatus
  /-- The flipper rules count as on. -/
  enabled : Bool

/-- The record of a callback that sees the present. -/
def Moment.record (now : Span) (x : Moment) : CallbackSite × Glimpse :=
  (x.site, ⟨now, x.site.mode?, x.game, x.enabled⟩)

namespace Engine
variable {σ κ : Type}

/-- Callbacks are shown the engine as it is, at a time, and no mode runs. -/
structure Present (now : Span) (s : Engine σ κ × Scene κ) : Prop where
  now : s.2.now = now
  running : s.2.running = none
  game : s.2.game = s.1.game.status
  flippers : s.2.flippers = s.1.rules.enabled

/-- A fresh scene shows the engine as it is. -/
theorem present_scene (now : Span) (m : Machine σ κ) : Present now (m.engine, m.scene now) :=
  ⟨rfl, rfl, rfl, rfl⟩

theorem Present.still {now : Span} {s t : Engine σ κ × Scene κ} (h : Present now s)
    (hstill : Still s t) : Present now t where
  now := hstill.now.trans h.now
  running := hstill.running.trans h.running
  game := by rw [hstill.shown, h.game, hstill.game]
  flippers := by rw [hstill.flippers, h.flippers, hstill.rules]

/-- What changes neither the engine nor what the scene shows of it. -/
theorem Present.passes {now : Span} {s t : Engine σ κ × Scene κ} (h : Present now s)
    {begun : List (CallbackSite × Glimpse)} (hpass : s.2.Passes begun t.2)
    (hgame : t.1.game = s.1.game) (hflag : t.1.rules.enabled = s.1.rules.enabled) :
    Present now t where
  now := hpass.now.trans h.now
  running := hpass.running.trans h.running
  game := by rw [hpass.game, h.game, hgame]
  flippers := by rw [hpass.flippers, h.flippers, hflag]

end Engine

namespace Taken
variable {σ κ : Type}

/-- The callbacks that begin in a turn, each with the game and the flippers as the engine has them
then. Only a request to the game changes it while callbacks run, and does so by the rules. -/
def moments (k : Taken σ κ) : List Moment :=
  match k.turn.game? with
  | some request =>
    List.zipWith (fun site shown => ⟨site, shown.2, k.start.1.rules.enabled⟩) k.began
      (k.start.1.game.standing.after request k.start.2.now).1
  | none => k.began.map fun site => ⟨site, k.start.1.game.status, k.start.1.rules.enabled⟩

theorem zipWith_map_prefix {α β γ : Type} (f : β → α → γ) (g : α → β) {as bs : List α}
    (h : as <+: bs) : List.zipWith f (as.map g) bs = as.map fun a => f (g a) a := by
  obtain ⟨rest, rfl⟩ := h
  induction as with
  | nil => rfl
  | cons a as ih => exact congrArg (List.cons (f (g a) a)) ih

/-- If no mode asks the game for anything the game stays as it is while callbacks run. -/
theorem moments_other {k : Taken σ κ} (h : k.turn.game? = none) {sites : List CallbackSite}
    (hbegan : k.began = sites) : k.moments = sites.map fun site =>
      ⟨site, k.start.1.game.status, k.start.1.rules.enabled⟩ := by
  rw [moments, h, hbegan]

variable {now : Span} {k : Taken σ κ}

/-- A turn keeps what callbacks are shown true, and the callbacks that begin in it see the
present. -/
theorem present (h : Engine.Present now k.start) : Engine.Present now k.next ∧
    k.next.2.starts = k.start.2.starts ++ k.moments.map (Moment.record now) := by
  have record (site : CallbackSite) : k.start.2.startAt site =
      Moment.record now ⟨site, k.start.1.game.status, k.start.1.rules.enabled⟩ := by
    simp only [Scene.startAt, Moment.record, h.now, h.game, h.flippers]
  cases k.does with
  | modes other sites shift passes game rules =>
    refine ⟨h.passes passes game (congrArg FlipperRules.enabled rules), ?_⟩
    rw [moments_other other (began_of_passes passes), List.map_map, passes.starts]
    exact congrArg _ (List.map_congr_left fun site _ => record site)
  | frame other stack passes game rules =>
    refine ⟨h.passes passes game (congrArg FlipperRules.enabled rules), ?_⟩
    rw [moments_other other (began_eq passes.starts), passes.starts, h.running]
    exact congrArg _ (congrArg (fun start => [start]) (record .frame))
  | game request turn stack shown first runs status rules =>
    refine ⟨⟨runs.now.trans h.now, runs.running.trans h.running, status h.game, ?_⟩, ?_⟩
    · rw [runs.flippers, h.flippers, rules]
    · -- The request may be cut off, and then the last of its callbacks do not begin.
      have hmoments := zipWith_map_prefix
        (fun site shown => (⟨site, shown.2, k.start.1.rules.enabled⟩ : Moment))
        (fun shown => .lifecycle shown.1) first
      rw [moments, turn, began_of_runs runs, runs.starts]
      refine congrArg _ (Eq.trans ?_ (congrArg (List.map (Moment.record now)) hmoments.symm))
      rw [List.map_map]
      refine List.map_congr_left fun shown _ => ?_
      simp only [Scene.lifecycleStart, Function.comp, Moment.record, h.now, h.running, h.flippers,
        CallbackSite.mode?]
  | flippers other stack game hnow running status starts _ flag =>
    refine ⟨⟨hnow.trans h.now, running.trans h.running, ?_, ?_⟩, ?_⟩
    · rw [status, h.game, game]
    · rcases flag with ⟨hflag, hshown⟩ | hshown
      · rw [hshown, h.flippers, hflag]
      · exact hshown
    · rw [moments_other other (began_of_same starts), starts]
      exact (List.append_nil _).symm

/-- While callbacks run the flippers stay as they are, and so does the game unless it is the game
that runs them. -/
theorem kept_while_running (k : Taken σ κ) :
    (k.began ≠ [] → k.next.1.rules.enabled = k.start.1.rules.enabled) ∧
      (k.turn.game? = none → k.next.1.game.status = k.start.1.game.status) := by
  cases k.does with
  | modes _ _ _ _ game rules =>
    exact ⟨fun _ => congrArg FlipperRules.enabled rules, fun _ => congrArg Game.status game⟩
  | frame _ _ _ game rules =>
    exact ⟨fun _ => congrArg FlipperRules.enabled rules, fun _ => congrArg Game.status game⟩
  | game request turn _ _ _ _ _ rules =>
    exact ⟨fun _ => congrArg FlipperRules.enabled rules, fun h => nomatch turn.symm.trans h⟩
  | flippers _ _ game _ _ _ starts _ _ =>
    exact ⟨fun hbegan => absurd (began_of_same starts) hbegan, fun _ => congrArg Game.status game⟩

end Taken

/-! ### Stages, calls and operations -/

/-- The callbacks that begin in a stage see the present of its time. -/
theorem Stage.starts_run {σ κ : Type} {st : Stage σ κ} {now : Span} {m : Machine σ κ}
    (h : ∀ time, st.time? = some time → time = now) :
    (st.run m).cabinet.bench.starts = m.cabinet.bench.starts ++
      ((st.turns m).flatMap Taken.moments).map (Moment.record now) := by
  cases htime : st.time? with
  | none =>
    obtain ⟨hkept, hnone⟩ := kept_aside htime m
    have hstarts : (st.run m).cabinet.bench.starts = m.cabinet.bench.starts :=
      congrArg (fun k => k.2.2) hkept
    rw [hnone, hstarts]
    exact (List.append_nil _).symm
  | some time =>
    cases h time htime
    obtain ⟨scene, halong, hcabinet⟩ := along htime m
    -- What holds after the turns so far: the scene is true, and all that began saw it so.
    let P (past : List (Taken σ κ)) (s : Engine σ κ × Scene κ) : Prop :=
      Engine.Present now s ∧ s.2.starts = m.cabinet.bench.starts ++
        (past.flatMap Taken.moments).map (Moment.record now)
    have hbegin : P [] (m.engine, m.scene now) :=
      ⟨Engine.present_scene now m, (List.append_nil _).symm⟩
    have hend : P ([] ++ st.turns m) ((st.run m).engine, scene) := by
      refine halong.fold (P := P) ?_ ?_ hbegin
      · intro past s t hstill hs
        exact ⟨hs.1.still hstill, hstill.starts.trans hs.2⟩
      · intro k _ past hs
        obtain ⟨hnext, hbegun⟩ := k.present hs.1
        refine ⟨hnext, ?_⟩
        rw [hbegun, hs.2, List.flatMap_append, List.map_append, List.append_assoc,
          List.flatMap_singleton]
    rw [← hcabinet]
    exact hend.2

namespace Machine
variable {σ κ : Type}

theorem starts_afterStages {now : Span} {stages : List (Stage σ κ)} {m : Machine σ κ}
    (h : ∀ st ∈ stages, ∀ time, st.time? = some time → time = now) :
    (m.afterStages stages).cabinet.bench.starts = m.cabinet.bench.starts ++
      ((turnsAlong stages m).flatMap Taken.moments).map (Moment.record now) := by
  induction stages generalizing m with
  | nil => exact (List.append_nil _).symm
  | cons st rest ih =>
    have hfirst := Stage.starts_run (m := m) (h st List.mem_cons_self)
    have hrest := ih (m := st.run m) fun st' hst' => h st' (List.mem_cons_of_mem st hst')
    rw [turnsAlong, List.flatMap_append, List.map_append, ← List.append_assoc, ← hfirst]
    exact hrest

/-- The records of the callbacks of some calls, where each sees the present of its call. -/
def records : List (Call σ κ) → Machine σ κ → List (CallbackSite × Glimpse)
  | [], _ => []
  | c :: rest, m =>
    ((c.turns m).flatMap Taken.moments).map (Moment.record (c.time m)) ++ records rest (c.run m)

theorem starts_afterCalls (calls : List (Call σ κ)) (m : Machine σ κ) :
    (m.afterCalls calls).cabinet.bench.starts = m.cabinet.bench.starts ++ records calls m := by
  induction calls generalizing m with
  | nil => exact (List.append_nil _).symm
  | cons c rest ih =>
    have hfirst : (c.run m).cabinet.bench.starts = m.cabinet.bench.starts ++
        ((c.turns m).flatMap Taken.moments).map (Moment.record (c.time m)) := by
      rw [c.run_eq]
      exact starts_afterStages fun st hst time htime => Call.time_of_stage hst htime
    rw [records, ← List.append_assoc, ← hfirst]
    exact ih (c.run m)

/-- Whatever is done with a machine, each callback that begins sees the time of its call, the mode
it belongs to, and the game and the flippers as the engine has them at that moment. The flippers
stay so while callbacks run, and so does the game, except where it is the game that runs them: each
of those callbacks begins with the status that the game has then. Whatever a callback does, all its
looks show what its start records. -/
theorem callbacks_see_present (m : Machine σ κ) (ops : List (Operation σ κ)) :
    (performAll ops m).2 = m.afterCalls (callsOf ops m) ∧
    (performAll ops m).2.cabinet.bench.starts =
      m.cabinet.bench.starts ++ records (callsOf ops m) m ∧
    (∀ k : Taken σ κ, (k.began ≠ [] → k.next.1.rules.enabled = k.start.1.rules.enabled) ∧
      (k.turn.game? = none → k.next.1.game.status = k.start.1.game.status)) ∧
    (∀ (hook : GameHook) (g : Game σ κ) (scene : Scene κ),
      (Game.notify hook (g, scene)).2.2.starts = scene.starts ++
        [(.lifecycle hook, ⟨scene.now, scene.running, g.status, scene.flippers⟩)]) ∧
    ∀ (site : CallbackSite) (c : Callback σ κ) (memory : σ) (scene : Scene κ),
      ∃ glimpse, (scene.begin site).starts = scene.starts ++ [(site, glimpse)] ∧
        ∀ v ∈ c.sights (memory, scene.begin site), v.now = glimpse.now ∧
          v.running = glimpse.running ∧ v.game = glimpse.game ∧ v.flippers = glimpse.flippers := by
  refine ⟨performAll_eq ops m, ?_, Taken.kept_while_running, fun hook g scene => ?_,
    fun site c memory scene => ?_⟩
  · rw [performAll_eq]
    exact starts_afterCalls (callsOf ops m) m
  · obtain ⟨o, memory, after, hnotify, hruns, -⟩ := Game.notify_spec hook g scene
    rw [hnotify]
    exact hruns.starts
  · exact ⟨_, scene.starts_begin site, fun _ hv => (c.seen_of_mem_sights memory _ hv :)⟩

end Machine

end Playfield
