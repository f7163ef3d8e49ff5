import Playfield.Proofs.Engine
import Playfield.Proofs.Mended.Stack

/-!
# Engines whose callbacks are mended

A lifecycle callback or a frame callback that is mended changes nothing about the game or the
engine but the count of failures. What was asked for meanwhile is then done alike, in the same
rounds.
-/
namespace Playfield

variable {σ τ κ ι : Type} {M : σ → τ → Prop} {K : κ → ι → Prop}

/-! ### The game -/

namespace Game

/-- The same game, but runs of the callbacks of the second may be mended. -/
structure Twin (M : σ → τ → Prop) (K : κ → ι → Prop) (g : Game σ κ) (g' : Game τ ι) : Prop where
  status : g.status = g'.status
  banks : g.banks = g'.banks
  memory : M g.memory g'.memory
  hook : ∀ h x x', M x x' → Callback.Follows Outcome.MendedTo M K (g.hook h x) x (g'.hook h x') x'

/-- Twin games, with scenes that are alike. -/
abbrev TwinIn (M : σ → τ → Prop) (K : κ → ι → Prop) :
    Game σ κ × Scene κ → Game τ ι × Scene ι → Prop :=
  Pairwise₂ (Twin M K) (Scene.Alike K)

/-- Of twin games, the one and the other do alike. -/
abbrev Alike (M : σ → τ → Prop) (K : κ → ι → Prop) (x : Step σ κ Unit) (y : Step τ ι Unit) : Prop :=
  x.Mirrors (TwinIn M K) Eq y

namespace Twin
variable {g : Game σ κ} {g' : Game τ ι}

theorem withStatus (h : g.Twin M K g') {s s' : GameStatus} (same : s = s') :
    Twin M K { g with status := s } { g' with status := s' } :=
  ⟨same, h.banks, h.memory, h.hook⟩

theorem withBanks (h : g.Twin M K g') {b b' : List Nat} (same : b = b') :
    Twin M K { g with banks := b } { g' with banks := b' } :=
  ⟨h.status, same, h.memory, h.hook⟩

theorem withMemory (h : g.Twin M K g') {x : σ} {x' : τ} (hx : M x x') :
    Twin M K { g with memory := x } { g' with memory := x' } :=
  ⟨h.status, h.banks, hx, h.hook⟩

theorem reset (h : g.Twin M K g') : g.reset.Twin M K g'.reset :=
  (h.withStatus (congrArg (fun s => { ballsPerGame := s.ballsPerGame }) h.status)).withBanks rfl

end Twin

theorem alike_update (f : GameStatus → GameStatus) :
    Alike M K (update f : Step σ κ Unit) (update f) :=
  .modify fun _ _ h => ⟨h.first.withStatus (congrArg f h.first.status), h.second⟩

theorem alike_updateBanks (f : List Nat → List Nat) :
    Alike M K (updateBanks f : Step σ κ Unit) (updateBanks f) :=
  .modify fun _ _ h => ⟨h.first.withBanks (congrArg f h.first.banks), h.second⟩

theorem alike_log (severity : Severity) (text : String) :
    Alike M K (log severity text : Step σ κ Unit) (log severity text) :=
  (Scene.mirrors_log severity text).second

theorem alike_reveal : Alike M K (reveal : Step σ κ Unit) reveal :=
  .modify fun _ _ h => ⟨h.first, h.second.withGame h.first.status⟩

/-- A lifecycle callback that is mended changes nothing else. -/
theorem alike_notify (h : GameHook) : Alike M K (notify h : Step σ κ Unit) (notify h) := by
  rintro ⟨g, scene⟩ ⟨g', scene'⟩ ⟨htwin, hscene⟩
  have htwin : g.Twin M K g' := htwin
  have hplay := htwin.hook h _ _ htwin.memory
    ((hscene.withGame htwin.status).begin (.lifecycle h))
  simp only [notify]
  generalize (g.hook h g.memory).play _ = p at hplay ⊢
  generalize (g'.hook h g'.memory).play _ = q at hplay ⊢
  obtain ⟨o, x, after⟩ := p
  obtain ⟨o', x', after'⟩ := q
  obtain ⟨hend, hx, hafter⟩ := hplay
  have hleft := htwin.withMemory hx
  have hend : FaultReason.Spared (FaultReason.ofOutcome o) (FaultReason.ofOutcome o') := hend.spared
  dsimp only
  generalize FaultReason.ofOutcome o = r at hend ⊢
  generalize FaultReason.ofOutcome o' = r' at hend ⊢
  cases hend with
  | same =>
    split
    · exact ⟨.ok rfl, hleft, hafter⟩
    · exact ⟨.error _, hleft, hafter⟩
    · exact ⟨.ok rfl, hleft, hafter.remark _ _⟩
  | mended harmless =>
    rename_i reason
    dsimp only
    split
    · exact ⟨.ok rfl, hleft, hafter⟩
    · rename_i heq
      cases heq
      simp [FaultReason.boardFault?] at harmless
    · exact ⟨.ok rfl, hleft, hafter.remark_error _⟩

theorem alike_whilePlaying (request : String) {x : Step σ κ Unit} {y : Step τ ι Unit}
    (hxy : Alike M K x y) : Alike M K (whilePlaying request x) (whilePlaying request y) := by
  rintro ⟨g, scene⟩ ⟨g', scene'⟩ h
  have htwin : g.Twin M K g' := h.first
  simp only [whilePlaying, htwin.status]
  split
  · exact hxy h
  · exact alike_log _ _ h

theorem alike_startGame : Alike M K (startGame : Step σ κ Unit) startGame := by
  have start : Alike M K
      (do
        update fun s => { s with
          ball := 1, players := 0, currentPlayer := 0, ballStartedAt := none, inProgress := true }
        updateBanks fun _ => []
        notify .gameStarted : Step σ κ Unit)
      (do
        update fun s => { s with
          ball := 1, players := 0, currentPlayer := 0, ballStartedAt := none, inProgress := true }
        updateBanks fun _ => []
        notify .gameStarted : Step τ ι Unit) :=
    (alike_update _).next fun _ => (alike_updateBanks _).next fun _ => alike_notify _
  refine .bind .get ?_
  rintro ⟨g, scene⟩ ⟨g', scene'⟩ h
  have hstatus : g.status = g'.status := h.first.status
  dsimp only
  rw [hstatus]
  exact .ite ((alike_log _ _).next fun _ => start) start

theorem alike_addPlayer : Alike M K (addPlayer : Step σ κ Unit) addPlayer :=
  .next (alike_whilePlaying _ ((alike_update _).next fun _ => alike_updateBanks _)) fun _ =>
    alike_reveal

theorem alike_startBall : Alike M K (startBall : Step σ κ Unit) startBall := by
  refine alike_whilePlaying _ (.bind .get ?_)
  rintro ⟨g, scene⟩ ⟨g', scene'⟩ h
  have hnow : scene.now = scene'.now := h.second.now
  dsimp only
  rw [hnow]
  exact (alike_update _).next fun _ => alike_notify _

theorem alike_endGame : Alike M K (endGame : Step σ κ Unit) endGame := by
  rintro ⟨g, scene⟩ ⟨g', scene'⟩ h
  have htwin : g.Twin M K g' := h.first
  have hclose : Alike M K (do update fun s => { s with ball := 0 }; reveal : Step σ κ Unit)
      (do update fun s => { s with ball := 0 }; reveal : Step τ ι Unit) :=
    (alike_update _).next fun _ => alike_reveal
  simp only [endGame, htwin.status]
  split
  · let status : GameStatus := { g'.status with inProgress := false, ballStartedAt := none }
    have hended := alike_notify .gameEnded (s := ({ g with status }, scene))
      (t := ({ g' with status }, scene')) ⟨htwin.withStatus rfl, h.second⟩
    exact ⟨hended.1, (hclose hended.2).2⟩
  · exact ⟨.ok rfl, h⟩

theorem alike_rotate : Alike M K (rotate : Step σ κ Unit) rotate := by
  refine .bind .get ?_
  rintro ⟨g, scene⟩ ⟨g', scene'⟩ h
  have hstatus : g.status = g'.status := h.first.status
  dsimp only
  rw [hstatus]
  exact .ite ((alike_update _).next fun _ => alike_log _ _) (alike_update _)

theorem alike_nextBall : Alike M K (nextBall : Step σ κ Unit) nextBall := by
  refine alike_rotate.next fun _ => .bind .get fun s s' h => ?_
  rw [h.first.status]
  exact .ite alike_endGame alike_startBall

theorem alike_endBall : Alike M K (endBall : Step σ κ Unit) endBall := by
  refine alike_whilePlaying _ (.bind .get ?_)
  rintro ⟨g, scene⟩ ⟨g', scene'⟩ h
  have hstatus : g.status = g'.status := h.first.status
  have hbanks : g.banks = g'.banks := h.first.banks
  have hnow : scene.now = scene'.now := h.second.now
  simp only [extraBalls, hstatus, hbanks, hnow]
  have hshoot (player : Nat) (now : Span) : Alike M K
      (do
        updateBanks fun banks => banks.modify player (· - 1)
        log .debug ("player " ++ toString (player + 1) ++ " shoots again")
        update fun s => { s with ballStartedAt := some now }
        notify .shootAgain : Step σ κ Unit)
      (do
        updateBanks fun banks => banks.modify player (· - 1)
        log .debug ("player " ++ toString (player + 1) ++ " shoots again")
        update fun s => { s with ballStartedAt := some now }
        notify .shootAgain : Step τ ι Unit) :=
    (alike_updateBanks _).next fun _ => (alike_log _ _).next fun _ =>
      (alike_update _).next fun _ => alike_notify _
  split
  · exact (alike_log _ _).next fun _ => (alike_notify _).next fun _ =>
      .ite (hshoot _ _) alike_nextBall
  · exact (alike_notify _).next fun _ => .ite (hshoot _ _) alike_nextBall

theorem alike_awardExtraBall : Alike M K (awardExtraBall : Step σ κ Unit) awardExtraBall := by
  refine .bind .get ?_
  rintro ⟨g, scene⟩ ⟨g', scene'⟩ h
  have hstatus : g.status = g'.status := h.first.status
  have hbanks : g.banks = g'.banks := h.first.banks
  dsimp only
  rw [hstatus, hbanks]
  exact .ite (alike_updateBanks _) (alike_log _ _)

/-- Whatever is asked of the game is done alike. -/
theorem alike_apply (r : GameRequest) : Alike M K (apply r : Step σ κ Unit) (apply r) := by
  refine (alike_log _ _).next fun _ => ?_
  cases r with
  | startGame => exact alike_startGame
  | addPlayer => exact alike_addPlayer
  | startBall => exact alike_startBall
  | endBall => exact alike_endBall
  | endGame => exact alike_endGame
  | awardExtraBall => exact alike_awardExtraBall
  | updateLamps => exact alike_notify _

end Game

/-! ### The engine -/

/-- The counters, without the count of failed callbacks. -/
def Stats.withoutFaults (s : Stats) : Stats := { s with handlerFaults := 0 }

/-- The same frame callback, but runs of the second may be mended. -/
structure FrameHandler.Twin (M : σ → τ → Prop) (K : κ → ι → Prop) (f : FrameHandler σ κ)
    (f' : FrameHandler τ ι) : Prop where
  memory : M f.memory f'.memory
  run : ∀ x x', M x x' → Callback.Follows Outcome.MendedTo M K (f.run x) x (f'.run x') x'

namespace Engine

/-- The same engine, but runs of the callbacks of the second may be mended. -/
structure Twin (M : σ → τ → Prop) (K : κ → ι → Prop) (e : Engine σ κ) (e' : Engine τ ι) :
    Prop where
  stack : e.stack.Twin M K e'.stack
  game : e.game.Twin M K e'.game
  rules : e.rules = e'.rules
  frameHandler : Option.Rel (FrameHandler.Twin M K) e.frameHandler e'.frameHandler
  stats : e.stats.withoutFaults = e'.stats.withoutFaults
  catalogue : ∀ kind kind' id, K kind kind' → (e.catalogue kind id).Twin M K (e'.catalogue kind' id)

/-- Twin engines, with scenes that are alike. -/
abbrev TwinIn (M : σ → τ → Prop) (K : κ → ι → Prop) :
    Engine σ κ × Scene κ → Engine τ ι × Scene ι → Prop :=
  Pairwise₂ (Twin M K) (Scene.Alike K)

/-- Of twin engines, the one and the other do alike. -/
abbrev Alike {α : Type} (M : σ → τ → Prop) (K : κ → ι → Prop) (x : Step σ κ α) (y : Step τ ι α) :
    Prop :=
  x.Mirrors (TwinIn M K) Eq y

namespace Twin
variable {e : Engine σ κ} {e' : Engine τ ι}

theorem withStack (h : e.Twin M K e') {s : ModeStack σ κ} {s' : ModeStack τ ι}
    (hs : s.Twin M K s') : Twin M K { e with stack := s } { e' with stack := s' } :=
  ⟨hs, h.game, h.rules, h.frameHandler, h.stats, h.catalogue⟩

theorem withGame (h : e.Twin M K e') {g : Game σ κ} {g' : Game τ ι} (hg : g.Twin M K g') :
    Twin M K { e with game := g } { e' with game := g' } :=
  ⟨h.stack, hg, h.rules, h.frameHandler, h.stats, h.catalogue⟩

theorem withRules (h : e.Twin M K e') {r r' : FlipperRules} (same : r = r') :
    Twin M K { e with rules := r } { e' with rules := r' } :=
  ⟨h.stack, h.game, same, h.frameHandler, h.stats, h.catalogue⟩

theorem withFrameHandler (h : e.Twin M K e') {f : Option (FrameHandler σ κ)}
    {f' : Option (FrameHandler τ ι)} (hf : Option.Rel (FrameHandler.Twin M K) f f') :
    Twin M K { e with frameHandler := f } { e' with frameHandler := f' } :=
  ⟨h.stack, h.game, h.rules, hf, h.stats, h.catalogue⟩

theorem withStats (h : e.Twin M K e') {s s' : Stats}
    (same : s.withoutFaults = s'.withoutFaults) :
    Twin M K { e with stats := s } { e' with stats := s' } :=
  ⟨h.stack, h.game, h.rules, h.frameHandler, same, h.catalogue⟩

end Twin

variable {α β : Type}

theorem mirrors_onStack {Q : α → β → Prop} {x : Act Fault (ModeStack σ κ × Scene κ) α}
    {y : Act Fault (ModeStack τ ι × Scene ι) β} (hxy : x.Mirrors (ModeStack.TwinIn M K) Q y) :
    (onStack x).Mirrors (TwinIn M K) Q (onStack y) :=
  hxy.zoom (fun _ _ h => ⟨h.first.stack, h.second⟩) fun _ _ _ _ h hs =>
    ⟨h.first.withStack hs.first, hs.second⟩

theorem alike_onGame {x : Game.Step σ κ Unit} {y : Game.Step τ ι Unit} (hxy : Game.Alike M K x y) :
    Alike M K (onGame x) (onGame y) :=
  hxy.zoom (fun _ _ h => ⟨h.first.game, h.second⟩) fun _ _ _ _ h hs =>
    ⟨h.first.withGame hs.first, hs.second⟩

theorem alike_onRules {x : Act Fault (FlipperRules × DriverBank × Bench) α}
    (hx : x.Mirrors FlipperRules.Alike Eq x) :
    Alike M K (onRules (σ := σ) (κ := κ) x) (onRules x) :=
  hx.zoom
    (fun _ _ h => ⟨h.first.rules, h.second.cabinet.drivers, h.second.cabinet.bench⟩)
    fun _ _ _ _ h hs => ⟨h.first.withRules hs.first,
      h.second.withCabinet (h.second.cabinet.withDrivers hs.second)⟩

/-- A count of anything but failures. -/
theorem alike_count {f g : Stats → Stats}
    (hfg : ∀ s t, s.withoutFaults = t.withoutFaults → (f s).withoutFaults = (g t).withoutFaults) :
    Alike M K (count f : Step σ κ Unit) (count g) :=
  .modify fun _ _ h => ⟨h.first.withStats (hfg _ _ h.first.stats), h.second⟩

theorem alike_inScene {f : Engine σ κ → Scene κ → Scene κ} {g : Engine τ ι → Scene ι → Scene ι}
    (hfg : ∀ e e' s t, e.Twin M K e' → s.Alike K t → (f e s).Alike K (g e' t)) :
    Alike M K (inScene f) (inScene g) :=
  .modify fun _ _ h => ⟨h.first, hfg _ _ _ _ h.first h.second⟩

theorem alike_log (severity : Severity) (text : String) :
    Alike M K (log severity text : Step σ κ Unit) (log severity text) :=
  (Scene.mirrors_log severity text).second

/-- What was asked for is done alike. -/
theorem alike_apply {r : Request κ} {r' : Request ι} (hr : r.Alike K r') :
    Alike M K (apply r : Step σ κ Unit) (apply r') := by
  cases hr with
  | addMode id kinds =>
    refine .bind .get ?_
    rintro ⟨e, scene⟩ ⟨e', scene'⟩ ⟨htwin, -⟩
    exact mirrors_onStack (ModeStack.mirrors_add ((htwin.catalogue _ _ id kinds).withId id))
  | removeMode id =>
    refine (mirrors_onStack (ModeStack.mirrors_remove id)).next fun removed =>
      .ite (.bind .get ?_) (.pure rfl)
    rintro ⟨e, scene⟩ ⟨e', scene'⟩ h
    have hids : scene.cabinet.ids = scene'.cabinet.ids := h.second.cabinet.ids
    dsimp only
    rw [hids]
    exact alike_log _ _
  | game request =>
    exact (alike_onGame (Game.alike_apply request)).next fun _ =>
      alike_inScene fun _ _ _ _ he hs => hs.withGame he.game.status
  | flippers enable =>
    refine .bind .get ?_
    rintro ⟨e, scene⟩ ⟨e', scene'⟩ h
    have hnow : scene.now = scene'.now := h.second.now
    dsimp only
    rw [hnow]
    exact (alike_onRules (FlipperRules.mirrors_setEnabled enable _)).next fun _ =>
      alike_inScene fun _ _ _ _ _ hs => hs.withFlippers enable

theorem alike_settleRounds (rounds : Nat) :
    Alike M K (settleRounds rounds : Step σ κ Unit) (settleRounds rounds) := by
  have take : Alike M K (inScene fun _ scene => scene.takeRequests.2 : Step σ κ Unit)
      (inScene fun _ scene => scene.takeRequests.2) :=
    alike_inScene fun _ _ _ _ _ hs => hs.withRequests .nil
  induction rounds with
  | zero =>
    refine .bind .get ?_
    rintro ⟨e, scene⟩ ⟨e', scene'⟩ ⟨-, hs⟩
    have hs : scene.Alike K scene' := hs
    dsimp only
    rw [Scene.isEmpty_requests hs, hs.requests.length_eq]
    exact take.next fun _ => .ite (alike_log _ _) (.pure rfl)
  | succ rounds ih =>
    refine .bind .get ?_
    rintro ⟨e, scene⟩ ⟨e', scene'⟩ ⟨-, hs⟩
    have hs : scene.Alike K scene' := hs
    dsimp only
    rw [Scene.isEmpty_requests hs]
    exact take.next fun _ => .ite
      (.next (.each hs.requests fun _ _ hr => alike_apply hr) fun _ => ih) (.pure rfl)

theorem alike_settle : Alike M K (settle : Step σ κ Unit) settle := alike_settleRounds maxRounds

/-- After a walk or a tick: failures are counted, what was asked for is done, and the first board
fault is passed on. -/
theorem alike_afterwards {r r' : Report} (hr : r.Alike r') :
    Alike M K (do record r; settle; Act.finish r.check : Step σ κ Unit)
      (do record r'; settle; Act.finish r'.check : Step τ ι Unit) := by
  refine .next (alike_count fun _ _ h => ?_) fun _ => alike_settle.next fun _ => ?_
  · exact h
  · rw [hr.check]
    exact .finish (.refl (fun _ => rfl) _)

/-- A switch is handed down alike. -/
theorem alike_dispatch (switch : Switch) :
    Alike M K (dispatch switch : Step σ κ Unit) (dispatch switch) := by
  refine .next (alike_count fun _ _ h => ?_) fun _ =>
    (mirrors_onStack (ModeStack.mirrors_dispatch switch)).bind fun _ _ hr => alike_afterwards hr
  exact congrArg (fun s => { s with dispatches := s.dispatches + 1 }) h

/-- Ticks go alike. -/
theorem alike_tick : Alike M K (tick : Step σ κ Unit) tick :=
  (mirrors_onStack ModeStack.mirrors_tick).bind fun _ _ hr => alike_afterwards hr

theorem alike_failFrame (text : String) :
    Alike M K (failFrame text : Step σ κ Unit) (failFrame text) := by
  refine .next (alike_count fun _ _ h => ?_) fun _ => alike_log _ _
  exact h

/-- A failed frame callback is noted, and nothing else. -/
theorem spared_failFrame (text : String) (s : Engine σ κ × Scene κ) (t : Engine τ ι × Scene ι)
    (h : TwinIn M K s t) : ∃ s', failFrame text s = (.ok (), s') ∧ TwinIn M K s' t :=
  ⟨_, rfl, h.first.withStats h.first.stats, h.second.remark_error text⟩

/-- A frame callback that is mended changes nothing else. -/
theorem alike_frame : Alike M K (frame : Step σ κ Unit) frame := by
  have hcount : Alike M K (count fun s => { s with frames := s.frames + 1 } : Step σ κ Unit)
      (count fun s => { s with frames := s.frames + 1 }) :=
    alike_count fun _ _ h => congrArg (fun s => { s with frames := s.frames + 1 }) h
  refine hcount.next fun _ => .bind .get ?_
  rintro ⟨e, scene⟩ ⟨e', scene'⟩ ⟨htwin, -⟩
  have hhandler : Option.Rel (FrameHandler.Twin M K) e.frameHandler e'.frameHandler :=
    htwin.frameHandler
  dsimp only
  generalize e.frameHandler = handler at hhandler ⊢
  generalize e'.frameHandler = handler' at hhandler ⊢
  cases hhandler with
  | none => exact .pure rfl
  | some htwins =>
    refine (alike_inScene fun _ _ _ _ _ hs => hs.begin .frame).next fun _ =>
      .bind (Q := Outcome.MendedTo) ?_ fun o o' hend => ?_
    · rintro ⟨e, scene⟩ ⟨e', scene'⟩ ⟨htwin, hscene⟩
      have hplay := htwins.run _ _ htwins.memory hscene
      exact ⟨.ok hplay.ending, htwin.withFrameHandler (.some ⟨hplay.memory, htwins.run⟩),
        hplay.scene⟩
    · -- A board fault is never mended: it leaves what was asked for to the caller on both sides.
      cases hend with
      | same =>
        split
        · exact alike_settle
        · exact .next (.fail _) fun _ => alike_settle
        · exact (alike_failFrame _).next fun _ => alike_settle
        · exact (alike_failFrame _).next fun _ => alike_settle
      | error harmless =>
        rename_i cause
        cases cause with
        | board f => exact absurd rfl (harmless f)
        | unknownDriver name => exact .extra (spared_failFrame _) alike_settle
        | failed reason => exact .extra (spared_failFrame _) alike_settle
      | panic message => exact .extra (spared_failFrame _) alike_settle

end Engine

end Playfield
