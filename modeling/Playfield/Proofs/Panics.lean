import Playfield.Proofs.Engine
import Playfield.Proofs.Stage

/-!
# Where a panic can come from

A callback that panics is caught where it is called. So a panic that gets through is either a call
to the board that panics, which is then the last thing in the journal, or the look for held handlers
that are due, which panics if one of them waits for a time that does not exist.
-/
namespace Playfield

namespace Act
variable {ε δ S T α β : Type}

/-- Where the computation panics, it leaves a state with the property. -/
def PanicsIn (P : S → Prop) (x : Act ε S α) : Prop :=
  ∀ ⦃s message t⦄, x s = (.panic message, t) → P t

/-- A panic of a sequence is one of its first or of its second part. -/
theorem bind_eq_panic {x : Act ε S α} {f : α → Act ε S β} {s u : S} {message : String}
    (h : (x >>= f) s = (.panic message, u)) :
    x s = (.panic message, u) ∨ ∃ a t, x s = (.ok a, t) ∧ f a t = (.panic message, u) := by
  rw [bind_apply] at h
  split at h
  · rename_i a t hx
    exact .inr ⟨a, t, hx, h⟩
  · cases h
  · rename_i m t hx
    cases h
    exact .inl hx

namespace PanicsIn
variable {P : S → Prop}

theorem pure (a : α) : PanicsIn P (Pure.pure a : Act ε S α) := fun _ _ _ h => nomatch h

theorem get : PanicsIn P (Act.get : Act ε S S) := fun _ _ _ h => nomatch h

theorem fail (e : ε) : PanicsIn P (Act.fail e : Act ε S α) := fun _ _ _ h => nomatch h

theorem modify (f : S → S) : PanicsIn P (Act.modify f : Act ε S Unit) := fun _ _ _ h => nomatch h

theorem bind {x : Act ε S α} {f : α → Act ε S β} (hx : PanicsIn P x) (hf : ∀ a, PanicsIn P (f a)) :
    PanicsIn P (x >>= f) := by
  intro s message u h
  rcases bind_eq_panic h with h | ⟨a, t, -, h⟩
  · exact hx h
  · exact hf a h

theorem each {f : α → Act ε S Unit} (hf : ∀ a, PanicsIn P (f a)) (as : List α) :
    PanicsIn P (Act.each f as) := by
  induction as with
  | nil => exact pure ()
  | cons a rest ih => exact bind (hf a) fun _ => ih

theorem ite {c : Prop} [Decidable c] {x y : Act ε S α} (hx : PanicsIn P x) (hy : PanicsIn P y) :
    PanicsIn P (if c then x else y) := by
  split
  · exact hx
  · exact hy

theorem zoom {Q : T → Prop} {part : S → T} {put : T → S → S} {x : Act ε T α} (hx : PanicsIn Q x)
    (lift : ∀ s t, Q t → P (put t s)) : PanicsIn P (Act.zoom part put x) := by
  intro s message u h
  rcases hp : x (part s) with ⟨outcome, t⟩
  simp only [Act.zoom, hp] at h
  cases h
  exact lift s t (hx hp)

end PanicsIn

end Act

/-! ### The board -/

namespace Bench

/-- The last thing on the bench was a call to the board that panicked. -/
def Struck (b : Bench) : Prop := ∃ c, b.journal.back? = some (.call c .panicked)

theorem struck_enter (c : BoardCall) (b : Bench) : (b.enter (.call c .panicked)).Struck :=
  ⟨c, Array.back?_push⟩

variable {α : Type}

theorem struck_call (c : BoardCall) (reply : α → Reply) (onBoard : Act Fault Board α) :
    (call c reply onBoard).PanicsIn Struck := by
  have hrun (b : Bench) {message t} (h : call.run c reply onBoard b = (.panic message, t)) :
      t.Struck := by
    simp only [call.run] at h
    split at h
    · cases h
    · cases h
    · cases h
      exact struck_enter _ _
  intro b message t h
  simp only [call] at h
  split at h
  · cases h
    exact struck_enter _ _
  · exact hrun _ h
  · exact hrun _ h

end Bench

theorem Driver.struck_send (c : DriverCall) (f : Driver → Driver) :
    (send c f).PanicsIn fun s => s.2.Struck := by
  intro state message t h
  obtain ⟨d, b⟩ := state
  simp only [send] at h
  split at h
  · cases h
  · cases h
  · rename_i hdrive
    cases h
    exact Bench.struck_call _ _ _ hdrive

namespace DriverBank

/-- The last thing on the bench was a call to the board that panicked. -/
abbrev Struck (s : DriverBank × Bench) : Prop := s.2.Struck

theorem struck_byNumber {x : Act Fault (Driver × Bench) Unit}
    (hx : x.PanicsIn fun s => s.2.Struck) (number : Nat) (c : DriverCall) :
    (byNumber number x c).PanicsIn Struck := by
  intro state message t h
  obtain ⟨bank, b⟩ := state
  simp only [byNumber] at h
  split at h
  · rename_i slot d _ _
    rcases hdriver : x (d, b) with ⟨outcome, d', b'⟩
    rw [hdriver] at h
    cases h
    exact hx hdriver
  · rcases hdrive : Bench.drive c b with ⟨outcome, b'⟩
    rw [hdrive] at h
    cases h
    exact Bench.struck_call _ _ _ hdrive

theorem struck_disableNumber (number : Nat) (now : Span) :
    (disableNumber number now).PanicsIn Struck := by
  refine struck_byNumber ?_ _ _
  intro state message t h
  obtain ⟨d, b⟩ := state
  simp only [Driver.disable] at h
  exact Driver.struck_send _ _ h

/-- Holding an output on needs no end time, so there is none that could be missing. -/
theorem struck_holdNumber (number : Nat) (now : Span) :
    (holdNumber number now).PanicsIn Struck := by
  refine struck_byNumber ?_ _ _
  intro state message t h
  obtain ⟨d, b⟩ := state
  simp only [Driver.pulse, if_true] at h
  exact Driver.struck_send _ _ h

end DriverBank

namespace FlipperRules

theorem struck_apply (r : FlipperRules) (enable : Bool) (now : Span) :
    (r.apply enable now).PanicsIn DriverBank.Struck := by
  have second {x : Act Fault Bench Unit} (hx : x.PanicsIn Bench.Struck) :
      (Act.second x : Act Fault (DriverBank × Bench) Unit).PanicsIn DriverBank.Struck :=
    hx.zoom fun _ _ h => h
  have install : (installAll (r.compile enable)).PanicsIn DriverBank.Struck :=
    .each (fun rule => second (Bench.struck_call _ _ _)) _
  have disable (n : Nat) : (DriverBank.disableNumber n now).PanicsIn DriverBank.Struck :=
    DriverBank.struck_disableNumber n now
  refine .bind (second (.modify _)) fun _ => .bind install fun _ =>
    .ite (.bind (.each disable _) fun _ => ?_) ?_
  all_goals
    dsimp only
    cases r.relay with
    | none => exact .pure ()
    | some relay => exact .ite (DriverBank.struck_holdNumber relay now) (disable relay)

theorem struck_setEnabled (enable : Bool) (now : Span) :
    (setEnabled enable now).PanicsIn fun s => s.2.2.Struck := by
  intro state message t h
  obtain ⟨r, s⟩ := state
  simp only [setEnabled] at h
  split at h
  · cases h
  · split at h <;> rename_i happly
    · cases h
    · cases h
    · cases h
      exact struck_apply _ _ _ happly

end FlipperRules

/-! ### Callbacks -/

namespace Game
variable {σ κ : Type}

/-- The computation never panics. -/
abbrev Safe (x : Step σ κ Unit) : Prop := x.PanicsIn fun _ => False

theorem safe_notify (h : GameHook) : Safe (notify h : Step σ κ Unit) := by
  intro state message t hpanic
  obtain ⟨g, scene⟩ := state
  simp only [notify] at hpanic
  split at hpanic <;> cases hpanic

theorem safe_whilePlaying (request : String) {x : Step σ κ Unit} (hx : Safe x) :
    Safe (whilePlaying request x) := by
  intro state message t hpanic
  obtain ⟨g, scene⟩ := state
  simp only [whilePlaying] at hpanic
  split at hpanic
  · exact hx hpanic
  · cases hpanic

theorem safe_startGame : Safe (startGame : Step σ κ Unit) := by
  have start : Safe (do
      update fun s => { s with
        ball := 1, players := 0, currentPlayer := 0, ballStartedAt := none, inProgress := true }
      updateBanks fun _ => []
      notify .gameStarted : Step σ κ Unit) :=
    .bind (.modify _) fun _ => .bind (.modify _) fun _ => safe_notify _
  exact .bind .get fun _ => .ite (.bind (.modify _) fun _ => start) start

theorem safe_startBall : Safe (startBall : Step σ κ Unit) :=
  safe_whilePlaying _ (.bind .get fun _ => .bind (.modify _) fun _ => safe_notify _)

theorem safe_endGame : Safe (endGame : Step σ κ Unit) := by
  intro state message t hpanic
  obtain ⟨g, scene⟩ := state
  simp only [endGame] at hpanic
  split at hpanic
  · rcases hnotify : notify .gameEnded
      ({ g with status := { g.status with inProgress := false, ballStartedAt := none } }, scene)
      with ⟨outcome, s⟩
    rw [hnotify] at hpanic
    cases congrArg Prod.fst hpanic
    exact safe_notify .gameEnded hnotify
  · cases hpanic

theorem safe_nextBall : Safe (nextBall : Step σ κ Unit) :=
  .bind (.bind .get fun _ => .ite (.bind (.modify _) fun _ => .modify _) (.modify _)) fun _ =>
    .bind .get fun _ => .ite safe_endGame safe_startBall

theorem safe_endBall : Safe (endBall : Step σ κ Unit) := by
  refine safe_whilePlaying _ (.bind .get fun s => ?_)
  obtain ⟨g, scene⟩ := s
  have finish (player : Nat) : Safe (do
      notify .ballEnded
      if 0 < g.extraBalls player then
        updateBanks fun banks => banks.modify player (· - 1)
        log .debug ("player " ++ toString (player + 1) ++ " shoots again")
        update fun s => { s with ballStartedAt := some scene.now }
        notify .shootAgain
      else nextBall : Step σ κ Unit) :=
    .bind (safe_notify _) fun _ => .ite
      (.bind (.modify _) fun _ => .bind (.modify _) fun _ => .bind (.modify _) fun _ =>
        safe_notify _)
      safe_nextBall
  dsimp only
  split
  · exact .bind (.modify _) fun _ => finish _
  · exact finish _

/-- Whatever is asked of the game, its callbacks are caught when they panic. -/
theorem safe_apply (r : GameRequest) : Safe (apply r : Step σ κ Unit) := by
  refine .bind (.modify _) ?_
  intro _
  cases r with
  | startGame => exact safe_startGame
  | addPlayer =>
    exact .bind (safe_whilePlaying _ (.bind (.modify _) fun _ => .modify _)) fun _ => .modify _
  | startBall => exact safe_startBall
  | endBall => exact safe_endBall
  | endGame => exact safe_endGame
  | awardExtraBall => exact .bind .get fun _ => .ite (.modify _) (.modify _)
  | updateLamps => exact safe_notify _

end Game

namespace ModeStack
variable {σ κ : Type}

theorem settleHook_ne_panic (outcome : Except FaultReason Verdict) (s : ModeStack σ κ × Scene κ)
    (message : String) : (settleHook outcome s).1 ≠ .panic message := by
  obtain ⟨s, scene⟩ := s
  simp only [settleHook]
  split <;> simp

theorem safe_add (m : Mode σ κ) : (add m).PanicsIn fun _ => False := by
  intro state message t h
  obtain ⟨s, scene⟩ := state
  simp only [add] at h
  split at h
  · cases h
  · exact settleHook_ne_panic _ _ _ (congrArg Prod.fst h)

theorem safe_remove (id : ModeId) : (remove (σ := σ) (κ := κ) id).PanicsIn fun _ => False := by
  intro state message t h
  obtain ⟨s, scene⟩ := state
  simp only [remove] at h
  split at h
  · cases h
  · rename_i slot _
    generalize Mode.guarded (.hook id .stopped) (Mode.runHook .stopped) slot.mode _ = g at h
    obtain ⟨outcome, m, scene'⟩ := g
    dsimp only at h
    rcases hsettle : settleHook outcome (_, scene') with ⟨settled, s'⟩
    rw [hsettle] at h
    cases settled with
    | panic _ => exact settleHook_ne_panic _ _ _ (congrArg Prod.fst hsettle)
    | _ => cases h

theorem safe_clear : (clear (σ := σ) (κ := κ)).PanicsIn fun _ => False := by
  intro state message t h
  obtain ⟨s, scene⟩ := state
  simp only [clear] at h
  split at h <;> cases h

end ModeStack

/-! ### Ticks -/

namespace HoldQueue

/-- A held handler that stands waits for a time that does not exist. -/
def Overflows (q : HoldQueue) (store : SwitchStore) : Prop :=
  ∃ o ∈ q.pending, o.stands store = true ∧ o.deadline? = none

theorem takeDue_panics_iff {ε : Type} (now : Span) (store : SwitchStore) (q : HoldQueue)
    (b : Bench) : (∃ message, (takeDue now store (ε := ε) (q, b)).1 = .panic message) ↔
      q.Overflows store := by
  simp only [takeDue]
  split
  · rename_i hany
    refine ⟨fun _ => ?_, fun _ => ⟨_, rfl⟩⟩
    obtain ⟨o, ho, hover⟩ := List.any_eq_true.mp hany
    exact ⟨o, ho, by simpa using hover⟩
  · rename_i hnone
    constructor
    · intro state
      obtain ⟨message, h⟩ := state
      cases h
    · rintro ⟨o, ho, hstands, hover⟩
      exact absurd (List.any_eq_true.mpr ⟨o, ho, by simp [hstands, hover]⟩) hnone

end HoldQueue

/-- A tick panics just if a deadline does not exist: pass hooks leave the held handlers alone. -/
theorem ModeStack.tick_panics_iff {σ κ ε : Type} (s : ModeStack σ κ) (scene : Scene κ) :
    (∃ message, (tick (ε := ε) (s, scene)).1 = .panic message) ↔
      s.holds.Overflows scene.cabinet.switches := by
  have hhooks := tickModes_spec s.slots { holds := s.holds, faultCount := s.faultCount, scene }
  rw [tick_eq]
  generalize tickModes s.slots { holds := s.holds, faultCount := s.faultCount, scene } = g
    at hhooks ⊢
  obtain ⟨slots, w⟩ := g
  have hstore : w.scene.cabinet.switches = scene.cabinet.switches := hhooks.2.2.switches
  rw [← HoldQueue.takeDue_panics_iff (ε := ε) w.scene.now scene.cabinet.switches s.holds
    w.scene.cabinet.bench]
  dsimp only
  rw [hstore]
  simp only [onHolds, Act.zoom]
  generalize HoldQueue.takeDue w.scene.now scene.cabinet.switches (s.holds, _) = looked
  obtain ⟨outcome, q, b⟩ := looked
  cases outcome <;> simp

/-! ### The engine and the machine -/

namespace Engine
variable {σ κ : Type} {α : Type}

/-- The last thing on the bench was a call to the board that panicked. -/
abbrev Struck (s : Engine σ κ × Scene κ) : Prop := s.2.cabinet.bench.Struck

theorem struck_onStack {x : Act Fault (ModeStack σ κ × Scene κ) α}
    (hx : x.PanicsIn fun _ => False) : (onStack x).PanicsIn Struck :=
  hx.zoom fun _ _ h => h.elim

theorem struck_apply (r : Request κ) : (apply r : Step σ κ Unit).PanicsIn Struck := by
  cases r with
  | addMode id kind => exact .bind .get fun _ => struck_onStack (ModeStack.safe_add _)
  | removeMode id =>
    exact .bind (struck_onStack (ModeStack.safe_remove id)) fun _ =>
      .ite (.bind .get fun _ => .modify _) (.pure ())
  | game request =>
    exact .bind ((Game.safe_apply request).zoom fun _ _ h => h.elim) fun _ => .modify _
  | flippers enable =>
    have set (now : Span) : (onRules (FlipperRules.setEnabled enable now) :
        Step σ κ Bool).PanicsIn Struck :=
      (FlipperRules.struck_setEnabled enable now).zoom fun _ _ h => h
    exact .bind .get fun (_, scene) => .bind (set scene.now) fun _ => .modify _

theorem struck_settle : (settle : Step σ κ Unit).PanicsIn Struck := by
  have rounds (n : Nat) : (settleRounds n : Step σ κ Unit).PanicsIn Struck := by
    induction n with
    | zero => exact .bind .get fun _ => .bind (.modify _) fun _ => .ite (.modify _) (.pure ())
    | succ n ih =>
      exact .bind .get fun _ => .bind (.modify _) fun _ =>
        .ite (.bind (.each struck_apply _) fun _ => ih) (.pure ())
  exact rounds maxRounds

theorem struck_frame : (frame : Step σ κ Unit).PanicsIn Struck := by
  have failed (text : String) : (failFrame text : Step σ κ Unit).PanicsIn Struck :=
    .bind (.modify _) fun _ => .modify _
  refine .bind (.modify _) fun _ => .bind .get fun (e, _) => ?_
  dsimp only
  split
  · exact .pure ()
  · refine .bind (.modify _) fun _ => .bind (fun _ _ _ h => nomatch h) ?_
    intro outcome
    split
    · exact struck_settle
    · exact .bind (.fail _) fun _ => struck_settle
    · exact .bind (failed _) fun _ => struck_settle
    · exact .bind (failed _) fun _ => struck_settle

/-- What follows the walk or the tick of the stack. -/
theorem struck_afterwards (report : Report) :
    (record report >>= fun _ => settle >>= fun _ => .finish report.check :
      Step σ κ Unit).PanicsIn Struck := by
  refine .bind (.modify _) fun _ => .bind struck_settle ?_
  intro _ s message t h
  have hcheck : report.check = .panic message := congrArg Prod.fst h
  simp only [Report.check] at hcheck
  split at hcheck <;> cases hcheck

theorem struck_dispatch (switch : Switch) : (dispatch switch : Step σ κ Unit).PanicsIn Struck :=
  .bind (.modify _) fun _ => .bind (fun _ _ _ h => nomatch h) struck_afterwards

end Engine

namespace Machine
variable {σ κ : Type} {α : Type}

/-- The last thing on the bench was a call to the board that panicked. -/
abbrev Struck (m : Machine σ κ) : Prop := m.cabinet.bench.Struck

variable {now : Span} {body : Engine.Step σ κ α} {m m' : Machine σ κ} {message : String}

theorem inContext_panics (h : inContext now body m = (.panic message, m')) :
    (∃ e s, body (m.engine, m.scene now) = (.panic message, e, s) ∧
      m' = { m with engine := e, cabinet := s.cabinet }) ∨ m'.Struck := by
  rcases hbody : body (m.engine, m.scene now) with ⟨value, e, s⟩
  rcases hsettle : Engine.settle (e, s) with ⟨settled, e', s'⟩
  simp only [inContext, hbody] at h
  cases value with
  | panic _ =>
    cases h
    exact .inl ⟨e, s, rfl, rfl⟩
  | _ =>
    simp only [hsettle] at h
    cases settled with
    | panic _ =>
      cases h
      exact .inr (Engine.struck_settle hsettle)
    | _ => cases h

theorem struck_inContext (now : Span) (hbody : body.PanicsIn Engine.Struck) :
    (inContext now body).PanicsIn Struck := by
  intro m message m' h
  rcases inContext_panics h with ⟨e, s, hpanic, rfl⟩ | hstruck
  · exact hbody hpanic
  · exact hstruck

theorem struck_handDown (number : Nat) :
    (handDown number : Engine.Step σ κ Unit).PanicsIn Engine.Struck := by
  refine .bind .get fun (_, scene) => ?_
  dsimp only
  split
  · exact .bind (.modify _) fun _ => Engine.struck_dispatch _
  · exact .pure ()

theorem struck_handleEvent (e : Event) (now : Span) :
    (handleEvent e now : Step σ κ Unit).PanicsIn Struck := by
  simp only [handleEvent]
  split
  · intro m message m' h
    rw [switchChanged_eq] at h
    split at h
    · cases h
    · split at h
      · cases h
      · exact struck_inContext now (struck_handDown _) h
  · split
    · exact struck_inContext now Engine.struck_frame
    · exact fun _ _ _ h => nomatch h

/-- A tick that panics either met the board's panic or a deadline that does not exist. -/
theorem tick_panics (h : inContext now Engine.tick m = (.panic message, m')) :
    m'.Struck ∨ m.engine.stack.holds.Overflows m.cabinet.switches := by
  rcases inContext_panics h with ⟨e, s, hpanic, rfl⟩ | hstruck
  · rcases Act.bind_eq_panic hpanic with hstack | ⟨report, t, -, hrest⟩
    · refine .inr ((ModeStack.tick_panics_iff (ε := Fault) _ (m.scene now)).mp ⟨message, ?_⟩)
      exact congrArg Prod.fst hstack
    · exact .inl (Engine.struck_afterwards report hrest)
  · exact .inl hstruck

end Machine

end Playfield
