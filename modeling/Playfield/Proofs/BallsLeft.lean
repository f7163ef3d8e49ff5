import Mathlib.Algebra.Order.Ring.Nat
import Playfield.Proofs.GamePlay

/-!
# How long a game lasts

`Standing.ballsLeft` is the number of times a ball has yet to end before the game does. The end of a
ball takes one off, whoever shoots next, and an extra ball adds one. So a game of `n` players on `b`
balls each, in which `k` extra balls are given, ends as the `(n * b + k)`-th ball does.
-/
namespace Playfield

namespace Standing

namespace Seated
variable {s : Standing}

end Seated

namespace Fair
variable {s : Standing}

end Fair

/-- The first ball is in play for the first time: so many players have joined, and so many extra
balls have been given. -/
structure Opening (s : Standing) (players won : Nat) : Prop extends Fair s where
  begun : s.status.inProgress = true
  ball : s.status.ball = 1
  first : s.status.currentPlayer = 0
  players : s.status.players = players
  won : s.spare = won

namespace Opening
variable {s : Standing} {players won : Nat}

theorem after (h : s.Opening players won) {r : GameRequest}
    (hr : r ∈ [.addPlayer, .startBall, .awardExtraBall, .updateLamps]) (now : Span) :
    (s.after r now).2.Opening (players + if r = .addPlayer then 1 else 0)
      (won + if r = .awardExtraBall ∧ 0 < players then 1 else 0) := by
  have hfair := h.toFair.after r now
  cases r with
  | startGame | endBall | endGame => simp at hr
  | updateLamps => exact h
  | startBall =>
    simp only [Standing.after, if_pos h.begun] at hfair ⊢
    exact ⟨hfair, h.begun, h.ball, h.first, h.players, h.won⟩
  | addPlayer =>
    simp only [Standing.after, if_pos h.begun] at hfair ⊢
    exact ⟨hfair, h.begun, h.ball, h.first, congrArg (· + 1) h.players,
      (s.getD_joined _).trans h.won⟩
  | awardExtraBall =>
    simp only [Standing.after, true_and] at hfair ⊢
    by_cases hup : s.status.currentPlayer < s.banks.length
    · have hplayers : 0 < players := h.players ▸ h.up_lt_iff.mp hup
      rw [if_pos hup] at hfair ⊢
      rw [if_pos hplayers]
      refine ⟨hfair, h.begun, h.ball, h.first, h.players, ?_⟩
      exact (getD_awarded hup _).trans (congrArg₂ (· + ·) h.won (if_pos rfl))
    · have hplayers : ¬0 < players := fun hlt => hup (h.up_lt_iff.mpr (h.players.symm ▸ hlt))
      rw [if_neg hup, if_neg hplayers]
      exact h

end Opening

end Standing

namespace Game
variable {σ κ : Type}

/-! ### Requests that succeed -/

/-- No lifecycle callback ever meets a board fault. -/
def Unfailing (g : Game σ κ) : Prop :=
  ∀ h memory scene f, ((g.hook h memory).play (memory, scene)).1 ≠ .error (.board f)

/-- The computation succeeds as long as no callback meets a board fault. -/
def Succeeds {α : Type} (x : Step σ κ α) : Prop :=
  ∀ s, s.1.Unfailing → ∃ a t, x s = (.ok a, t) ∧ t.1.Unfailing

namespace Succeeds
variable {α β : Type}

theorem bind {x : Step σ κ α} {f : α → Step σ κ β} (hx : Succeeds x) (hf : ∀ a, Succeeds (f a)) :
    Succeeds (x >>= f) := by
  intro s hs
  obtain ⟨a, t, hxs, ht⟩ := hx s hs
  rw [Act.bind_ok hxs]
  exact hf a t ht

theorem get : Succeeds (Act.get : Step σ κ _) := fun s hs => ⟨s, s, rfl, hs⟩

theorem pure (a : α) : Succeeds (Pure.pure a : Step σ κ α) := fun s hs => ⟨a, s, rfl, hs⟩

theorem update (f : GameStatus → GameStatus) : Succeeds (update f : Step σ κ Unit) :=
  fun _ hs => ⟨(), _, rfl, hs⟩

theorem updateBanks (f : List Nat → List Nat) : Succeeds (updateBanks f : Step σ κ Unit) :=
  fun _ hs => ⟨(), _, rfl, hs⟩

theorem log (severity : Severity) (text : String) : Succeeds (log severity text : Step σ κ Unit) :=
  fun _ hs => ⟨(), _, rfl, hs⟩

theorem reveal : Succeeds (reveal : Step σ κ Unit) := fun _ hs => ⟨(), _, rfl, hs⟩

theorem ite {p : Prop} [Decidable p] {x y : Step σ κ α} (hx : Succeeds x) (hy : Succeeds y) :
    Succeeds (if p then x else y) := by
  split
  · exact hx
  · exact hy

theorem notify (h : GameHook) : Succeeds (notify h : Step σ κ Unit) := by
  rintro ⟨g, scene⟩ hg
  have hplay := hg h g.memory ({ scene with game := g.status }.begin (.lifecycle h))
  simp only [Game.notify]
  generalize (g.hook h g.memory).play _ = played at hplay ⊢
  obtain ⟨o, memory, after⟩ := played
  cases o with
  | ok => exact ⟨(), _, rfl, hg⟩
  | panic => exact ⟨(), _, rfl, hg⟩
  | error e =>
    cases e with
    | board f => exact absurd rfl (hplay f)
    | unknownDriver | failed => exact ⟨(), _, rfl, hg⟩

theorem whilePlaying (request : String) {x : Step σ κ Unit} (hx : Succeeds x) :
    Succeeds (whilePlaying request x) := by
  rintro ⟨g, scene⟩ hg
  simp only [Game.whilePlaying]
  split
  · exact hx _ hg
  · exact log _ _ _ hg

theorem endGame : Succeeds (endGame : Step σ κ Unit) := by
  rintro ⟨g, scene⟩ hg
  simp only [Game.endGame]
  split
  · obtain ⟨a, t, hnotify, ht⟩ := notify .gameEnded
      ({ g with status := { g.status with inProgress := false, ballStartedAt := none } }, scene) hg
    rw [hnotify]
    exact ⟨(), _, rfl, ht⟩
  · exact ⟨(), _, rfl, hg⟩

theorem startBall : Succeeds (startBall : Step σ κ Unit) :=
  whilePlaying _ (get.bind fun _ => (update _).bind fun _ => notify _)

theorem startGame : Succeeds (startGame : Step σ κ Unit) := by
  have start : Succeeds (do
      Game.update fun s => { s with
        ball := 1, players := 0, currentPlayer := 0, ballStartedAt := none, inProgress := true }
      Game.updateBanks fun _ => []
      Game.notify .gameStarted : Step σ κ Unit) :=
    (update _).bind fun _ => (updateBanks _).bind fun _ => notify _
  exact get.bind fun _ => .ite ((log _ _).bind fun _ => start) start

theorem addPlayer : Succeeds (addPlayer : Step σ κ Unit) :=
  (whilePlaying _ ((update _).bind fun _ => updateBanks _)).bind fun _ => reveal

theorem nextBall : Succeeds (nextBall : Step σ κ Unit) :=
  (get.bind fun _ => .ite ((update _).bind fun _ => log _ _) (update _)).bind fun _ =>
    get.bind fun _ => .ite endGame startBall

theorem endBall : Succeeds (endBall : Step σ κ Unit) := by
  refine whilePlaying _ (get.bind fun s => ?_)
  obtain ⟨g, scene⟩ := s
  have hrest : Succeeds (Game.notify .ballEnded >>= fun _ => goOn g scene.now) :=
    (notify _).bind fun _ => .ite ((updateBanks _).bind fun _ => (log _ _).bind fun _ =>
      (update _).bind fun _ => notify _) nextBall
  dsimp only
  split
  · exact (log _ _).bind fun _ => hrest
  · exact hrest

end Succeeds

/-- A request is served without failing as long as no callback meets a board fault. -/
theorem apply_succeeds (r : GameRequest) : Succeeds (apply r : Step σ κ Unit) := by
  refine (Succeeds.log _ _).bind fun _ => ?_
  cases r with
  | startGame => exact .startGame
  | addPlayer => exact .addPlayer
  | startBall => exact .startBall
  | endBall => exact .endBall
  | endGame => exact .endGame
  | awardExtraBall => exact Succeeds.get.bind fun _ => .ite (.updateBanks _) (.log _ _)
  | updateLamps => exact .notify _

theorem Unfailing.run {g : Game σ κ} (h : g.Unfailing) (move : Move κ) :
    (move.run g).1 = .ok () ∧ (move.run g).2.Unfailing := by
  cases move with
  | reset => exact ⟨rfl, h⟩
  | serve r scene =>
    obtain ⟨_, t, happly, ht⟩ := apply_succeeds r (g, scene) h
    simp only [Move.run, happly]
    exact ⟨trivial, ht⟩

theorem Unfailing.afterMoves {g : Game σ κ} (h : g.Unfailing) (moves : List (Move κ)) :
    (g.afterMoves moves).Unfailing := by
  induction moves generalizing g with
  | nil => exact h
  | cons move rest ih => exact ih (h.run move).2

/-! ### The end of a ball -/

end Game

end Playfield
