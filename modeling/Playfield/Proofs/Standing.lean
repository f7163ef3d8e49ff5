import Mathlib.Data.List.GetD
import Playfield.Game.Status

/-!
# The rules of the game

A standing is what counts in a game: its status and the extra balls of its players. The rules say
of each request which lifecycle callbacks run, what status each of them sees, and where the standing
goes from there, whatever the callbacks do.

`Standing.Fair` is what holds of the standing of every game: somebody is up, only the player up has
extra balls, and a ball is in play just if a game is in progress. `Standing.InWords` says that the
counters fit the words they are kept in, and `Standing.Counts` that a request leaves it at that.
-/
namespace Playfield

/-- What counts in a game. -/
@[ext] structure Standing where
  status : GameStatus
  /-- Extra balls of each player. -/
  banks : List Nat
  deriving DecidableEq, Repr

namespace Standing

/-- How many take turns: a game without players is played as one with a single player. -/
def seats (s : Standing) : Nat := max s.status.players 1

/-- The extra balls of the player up. -/
def spare (s : Standing) : Nat := s.banks.getD s.status.currentPlayer 0

/-! ### The rules -/

/-- A game begins without players on ball 1. -/
def begun (s : Standing) : Standing where
  status := { s.status with
    ball := 1, players := 0, currentPlayer := 0, ballStartedAt := none, inProgress := true }
  banks := []

/-- A player joins. -/
def joined (s : Standing) : Standing where
  status := { s.status with players := s.status.players + 1 }
  banks := s.banks ++ [0]

/-- The ball in play starts. -/
def ballStarted (now : Span) (s : Standing) : Standing :=
  { s with status := { s.status with ballStartedAt := some now } }

/-- The player up gets an extra ball. -/
def awarded (s : Standing) : Standing :=
  { s with banks := s.banks.modify s.status.currentPlayer (· + 1) }

/-- The player up uses an extra ball. -/
def spareUsed (s : Standing) : Standing :=
  { s with banks := s.banks.modify s.status.currentPlayer (· - 1) }

/-- The next player is up, or the first one on the next ball. -/
def rotated (s : Standing) : Standing :=
  { s with
    status :=
      if s.seats ≤ s.status.currentPlayer + 1 then
        { s.status with ball := s.status.ball + 1, currentPlayer := 0 }
      else { s.status with currentPlayer := s.status.currentPlayer + 1 } }

/-- The game is over, and its last callback still sees the ball. -/
def stopped (s : Standing) : Standing :=
  { s with status := { s.status with inProgress := false, ballStartedAt := none } }

/-- The game is over. -/
def ended (s : Standing) : Standing :=
  { s with status := { s.stopped.status with ball := 0 } }

/-- The callback after the end of a ball, the status it sees, and the standing after it. -/
def afterBall (now : Span) (s : Standing) : (GameHook × GameStatus) × Standing :=
  if 0 < s.spare then
    ((.shootAgain, (s.spareUsed.ballStarted now).status), s.spareUsed.ballStarted now)
  else if s.rotated.status.ballsPerGame < s.rotated.status.ball then
    ((.gameEnded, s.rotated.stopped.status), s.rotated.ended)
  else ((.ballStarting, (s.rotated.ballStarted now).status), s.rotated.ballStarted now)

/-- The callbacks that a request runs, each with the status it sees, and the standing after it. -/
def after (r : GameRequest) (now : Span) (s : Standing) : List (GameHook × GameStatus) × Standing :=
  match r with
  | .startGame => ([(.gameStarted, s.begun.status)], s.begun)
  | .addPlayer => ([], if s.status.inProgress then s.joined else s)
  | .startBall =>
    if s.status.inProgress then
      ([(.ballStarting, (s.ballStarted now).status)], s.ballStarted now)
    else ([], s)
  | .endBall =>
    if s.status.inProgress then
      ([(.ballEnded, s.status), (s.afterBall now).1], (s.afterBall now).2)
    else ([], s)
  | .endGame =>
    if s.status.inProgress then ([(.gameEnded, s.stopped.status)], s.ended) else ([], s)
  | .awardExtraBall =>
    ([], if s.status.currentPlayer < s.banks.length then s.awarded else s)
  | .updateLamps => ([(.updateLamps, s.status)], s)

/-- The game is ended without callbacks. -/
def cleared (s : Standing) : Standing where
  status := { ballsPerGame := s.status.ballsPerGame }
  banks := []

/-! ### What holds of every standing -/

/-- One of the players is up, and nobody else has extra balls. -/
structure Seated (s : Standing) : Prop where
  up : s.status.currentPlayer < s.seats
  banks : s.banks.length = s.status.players
  others : ∀ player, player ≠ s.status.currentPlayer → s.banks.getD player 0 = 0

/-- The players are seated, and a ball is in play just if a game is in progress. A game of no balls
is played on ball 1. -/
structure Fair (s : Standing) : Prop extends Seated s where
  playing : s.status.inProgress = true →
    1 ≤ s.status.ball ∧ s.status.ball ≤ max s.status.ballsPerGame 1
  idle : s.status.inProgress = false → s.status.ball = 0 ∧ s.status.ballStartedAt = none

theorem getD_modify {banks : List Nat} {up : Nat} (f : Nat → Nat) (player : Nat)
    (hup : up < banks.length) :
    (banks.modify up f).getD player 0 =
      if player = up then f (banks.getD player 0) else banks.getD player 0 := by
  by_cases h : player = up
  · subst h
    simp [List.getD_eq_getElem?_getD, hup]
  · simp [List.getD_eq_getElem?_getD, h, Ne.symm h]

/-- A player who joins has no extra balls yet. -/
theorem getD_joined (s : Standing) (player : Nat) :
    s.joined.banks.getD player 0 = s.banks.getD player 0 := by
  rw [joined, List.getD_eq_getElem?_getD, List.getD_eq_getElem?_getD, List.getElem?_append]
  split
  · rfl
  · rename_i hlen
    rw [List.getElem?_eq_none (Nat.le_of_not_lt hlen)]
    cases player - s.banks.length <;> rfl

theorem lt_of_spare {s : Standing} (h : 0 < s.spare) : s.status.currentPlayer < s.banks.length := by
  refine Nat.lt_of_not_le fun hlen => ?_
  rw [spare, List.getD_eq_default _ _ hlen] at h
  exact Nat.lt_irrefl 0 h

namespace Seated
variable {s : Standing}

/-- Whatever becomes of the extra balls of the player up, the players stay seated. -/
theorem modify (h : s.Seated) (f : Nat → Nat) (hup : s.status.currentPlayer < s.banks.length) :
    ({ s with banks := s.banks.modify s.status.currentPlayer f } : Standing).Seated where
  up := h.up
  banks := by rw [List.length_modify]; exact h.banks
  others player hne := by
    rw [getD_modify f player hup, if_neg hne]
    exact h.others player hne

/-- Whoever is up next, nobody has extra balls if the player up before had none. -/
theorem pass (h : s.Seated) (none : s.spare = 0) (player : Nat) : s.banks.getD player 0 = 0 := by
  by_cases hup : player = s.status.currentPlayer
  · rw [hup]
    exact none
  · exact h.others player hup

theorem rotated (h : s.Seated) (none : s.spare = 0) : s.rotated.Seated := by
  have hpos : 0 < s.seats := Nat.lt_of_lt_of_le Nat.one_pos (Nat.le_max_right _ _)
  rw [Standing.rotated]
  split
  · exact ⟨hpos, h.banks, fun player _ => h.pass none player⟩
  · rename_i hlast
    exact ⟨Nat.lt_of_not_le hlast, h.banks, fun player _ => h.pass none player⟩

theorem ended (h : s.Seated) : s.ended.Fair where
  up := h.up
  banks := h.banks
  others := h.others
  playing hplaying := nomatch hplaying
  idle _ := ⟨rfl, rfl⟩

end Seated

/-- The player up has a bank just if there are players. -/
theorem Seated.up_lt_iff {s : Standing} (h : s.Seated) :
    s.status.currentPlayer < s.banks.length ↔ 0 < s.status.players := by
  have hup := h.up
  rw [h.banks]
  rw [seats] at hup
  omega

theorem rotated_last {s : Standing} (h : s.seats ≤ s.status.currentPlayer + 1) : s.rotated =
    { s with status := { s.status with ball := s.status.ball + 1, currentPlayer := 0 } } := by
  rw [rotated, if_pos h]

theorem rotated_next {s : Standing} (h : ¬s.seats ≤ s.status.currentPlayer + 1) : s.rotated =
    { s with status := { s.status with currentPlayer := s.status.currentPlayer + 1 } } := by
  rw [rotated, if_neg h]

theorem ball_rotated_le (s : Standing) : s.rotated.status.ball ≤ s.status.ball + 1 := by
  rw [rotated]
  split
  · exact Nat.le_refl _
  · exact Nat.le_succ _

theorem inProgress_rotated (s : Standing) :
    s.rotated.status.inProgress = s.status.inProgress := by
  rw [rotated]
  split <;> rfl

theorem ballsPerGame_rotated (s : Standing) :
    s.rotated.status.ballsPerGame = s.status.ballsPerGame := by
  rw [rotated]
  split <;> rfl

theorem ballsPerGame_after (r : GameRequest) (now : Span) (s : Standing) :
    (s.after r now).2.status.ballsPerGame = s.status.ballsPerGame := by
  cases r with
  | startGame | updateLamps => rfl
  | addPlayer | startBall | endGame | awardExtraBall =>
    simp only [after]
    split <;> rfl
  | endBall =>
    simp only [after, afterBall]
    split
    · split
      · rfl
      · split <;> exact s.ballsPerGame_rotated
    · rfl

/-- Without a game in progress an extra ball can still be given, and nothing else changes. -/
theorem after_idle {s : Standing} (idle : s.status.inProgress = false) {r : GameRequest}
    (other : r ≠ .startGame) (now : Span) : s.after r now =
      (if r = .updateLamps then [(.updateLamps, s.status)] else [],
        if r = .awardExtraBall ∧ s.status.currentPlayer < s.banks.length then s.awarded else s) := by
  cases r with
  | startGame => exact absurd rfl other
  | addPlayer | startBall | endBall | endGame => simp [after, idle]
  | awardExtraBall | updateLamps => simp [after]

theorem getD_awarded {s : Standing} (hup : s.status.currentPlayer < s.banks.length) (player : Nat) :
    s.awarded.banks.getD player 0 =
      s.banks.getD player 0 + if player = s.status.currentPlayer then 1 else 0 := by
  rw [awarded, getD_modify _ _ hup]
  split <;> rfl

namespace Fair
variable {s : Standing}

theorem cleared (s : Standing) : s.cleared.Fair where
  up := Nat.one_pos
  banks := rfl
  others _ _ := rfl
  playing hplaying := nomatch hplaying
  idle _ := ⟨rfl, rfl⟩

theorem begun (s : Standing) : s.begun.Fair where
  up := Nat.one_pos
  banks := rfl
  others _ _ := rfl
  playing _ := ⟨Nat.le_refl 1, Nat.le_max_right _ _⟩
  idle hidle := nomatch hidle

theorem joined (h : s.Fair) : s.joined.Fair where
  up := by
    have hup := h.up
    simp only [seats, Standing.joined] at hup ⊢
    omega
  banks := by simp [Standing.joined, h.banks]
  others player hne := (s.getD_joined player).trans (h.others player hne)
  playing := h.playing
  idle := h.idle

theorem ballStarted (h : s.Fair) (now : Span) (hplaying : s.status.inProgress = true) :
    (s.ballStarted now).Fair where
  up := h.up
  banks := h.banks
  others := h.others
  playing := h.playing
  idle hidle := by
    rw [Standing.ballStarted, hplaying] at hidle
    exact nomatch hidle

theorem awarded (h : s.Fair) (hup : s.status.currentPlayer < s.banks.length) :
    s.awarded.Fair :=
  { h.toSeated.modify (· + 1) hup with playing := h.playing, idle := h.idle }

theorem spareUsed (h : s.Fair) (hup : s.status.currentPlayer < s.banks.length) :
    s.spareUsed.Fair :=
  { h.toSeated.modify (· - 1) hup with playing := h.playing, idle := h.idle }

/-- The ball after the last one ends the game, so that a ball in play is one of the game's. -/
theorem rotated (h : s.Fair) (hplaying : s.status.inProgress = true) (none : s.spare = 0)
    (hlast : ¬s.rotated.status.ballsPerGame < s.rotated.status.ball) : s.rotated.Fair where
  toSeated := h.toSeated.rotated none
  playing _ := by
    have hball := (h.playing hplaying).1
    have hfirst : s.status.ball ≤ s.rotated.status.ball := by
      rw [Standing.rotated]
      split
      · exact Nat.le_succ _
      · exact Nat.le_refl _
    exact ⟨Nat.le_trans hball hfirst, Nat.le_trans (Nat.le_of_not_lt hlast) (Nat.le_max_left _ _)⟩
  idle hidle := by
    rw [inProgress_rotated, hplaying] at hidle
    exact nomatch hidle

theorem afterBall (h : s.Fair) (hplaying : s.status.inProgress = true) (now : Span) :
    (s.afterBall now).2.Fair := by
  rw [Standing.afterBall]
  split
  · rename_i hspare
    exact (h.spareUsed (lt_of_spare hspare)).ballStarted now hplaying
  · rename_i hspare
    have none : s.spare = 0 := Nat.eq_zero_of_not_pos hspare
    split
    · exact (h.toSeated.rotated none).ended
    · rename_i hlast
      exact (h.rotated hplaying none hlast).ballStarted now (inProgress_rotated s ▸ hplaying)

/-- Every request leads from a fair standing to a fair standing. -/
theorem after (h : s.Fair) (r : GameRequest) (now : Span) : (s.after r now).2.Fair := by
  cases r with
  | startGame => exact .begun s
  | updateLamps => exact h
  | addPlayer =>
    simp only [Standing.after]
    split
    · exact h.joined
    · exact h
  | awardExtraBall =>
    simp only [Standing.after]
    split
    · rename_i hup
      exact h.awarded hup
    · exact h
  | startBall =>
    simp only [Standing.after]
    split
    · rename_i hplaying
      exact h.ballStarted now hplaying
    · exact h
  | endBall =>
    simp only [Standing.after]
    split
    · rename_i hplaying
      exact h.afterBall hplaying now
    · exact h
  | endGame =>
    simp only [Standing.after]
    split
    · exact h.toSeated.ended
    · exact h

end Fair

/-! ### Words

The counters are kept in words of 32 bits. The rules count on past the end of a word, which a word
does not; so what is said of a game that is kept in words is said as long as nothing is counted past
the end of one. The players and the extra balls can be. The ball can be only if the game has as many
balls as a word counts, for its counter is one past the last ball as the game ends. -/

/-- Every counter fits its word. -/
structure InWords (s : Standing) : Prop where
  ball : s.status.ball < UInt32.size
  ballsPerGame : s.status.ballsPerGame < UInt32.size
  players : s.status.players < UInt32.size
  up : s.status.currentPlayer < UInt32.size
  banks : ∀ player, s.banks.getD player 0 < UInt32.size

/-- The request counts nothing past the end of a word: not the players as one joins, not the extra
balls of the player up, and, if the game has as many balls as a word counts, not the ball that comes
next. -/
def Counts (r : GameRequest) (s : Standing) : Prop :=
  match r with
  | .addPlayer => s.status.inProgress = true → s.status.players + 1 < UInt32.size
  | .awardExtraBall => s.status.currentPlayer < s.banks.length → s.spare + 1 < UInt32.size
  | .endBall => s.status.ballsPerGame + 1 = UInt32.size → s.status.inProgress = true →
      s.spare = 0 → s.rotated.status.ball < UInt32.size
  | _ => True

namespace InWords
variable {s : Standing}

theorem one_lt : 1 < UInt32.size := by decide

theorem zero_lt : 0 < UInt32.size := Nat.zero_lt_of_lt one_lt

theorem cleared (h : s.InWords) : s.cleared.InWords :=
  ⟨zero_lt, h.ballsPerGame, zero_lt, zero_lt, fun _ => zero_lt⟩

theorem begun (h : s.InWords) : s.begun.InWords :=
  ⟨one_lt, h.ballsPerGame, zero_lt, zero_lt, fun _ => zero_lt⟩

theorem joined (h : s.InWords) (room : s.status.players + 1 < UInt32.size) : s.joined.InWords :=
  ⟨h.ball, h.ballsPerGame, room, h.up, fun player => s.getD_joined player ▸ h.banks player⟩

theorem ballStarted (h : s.InWords) (now : Span) : (s.ballStarted now).InWords :=
  ⟨h.ball, h.ballsPerGame, h.players, h.up, h.banks⟩

theorem awarded (h : s.InWords) (hup : s.status.currentPlayer < s.banks.length)
    (room : s.spare + 1 < UInt32.size) : s.awarded.InWords where
  ball := h.ball
  ballsPerGame := h.ballsPerGame
  players := h.players
  up := h.up
  banks player := by
    rw [getD_awarded hup]
    split
    · rename_i heq
      rw [heq]
      exact room
    · exact h.banks player

theorem spareUsed (h : s.InWords) (hup : s.status.currentPlayer < s.banks.length) :
    s.spareUsed.InWords where
  ball := h.ball
  ballsPerGame := h.ballsPerGame
  players := h.players
  up := h.up
  banks player := by
    rw [Standing.spareUsed, getD_modify _ player hup]
    split
    · exact Nat.lt_of_le_of_lt (Nat.sub_le _ _) (h.banks player)
    · exact h.banks player

/-- The next player up is one of the players, so only the ball could be past the end of its word. -/
theorem rotated (h : s.InWords) (room : s.rotated.status.ball < UInt32.size) :
    s.rotated.InWords := by
  have hseats : s.seats < UInt32.size := Nat.max_lt.mpr ⟨h.players, one_lt⟩
  by_cases hlast : s.seats ≤ s.status.currentPlayer + 1
  · rw [rotated_last hlast] at room ⊢
    exact ⟨room, h.ballsPerGame, h.players, zero_lt, h.banks⟩
  · rw [rotated_next hlast]
    exact ⟨h.ball, h.ballsPerGame, h.players, Nat.lt_trans (Nat.lt_of_not_le hlast) hseats,
      h.banks⟩

theorem ended (h : s.InWords) : s.ended.InWords :=
  ⟨zero_lt, h.ballsPerGame, h.players, h.up, h.banks⟩

theorem afterBall (h : s.InWords) (room : s.spare = 0 → s.rotated.status.ball < UInt32.size)
    (now : Span) : (s.afterBall now).2.InWords := by
  rw [Standing.afterBall]
  split
  · rename_i hspare
    exact (h.spareUsed (lt_of_spare hspare)).ballStarted now
  · rename_i hspare
    have hrotated := h.rotated (room (Nat.eq_zero_of_not_pos hspare))
    split
    · exact hrotated.ended
    · exact hrotated.ballStarted now

/-- The ball that comes next fits its word: it is one past the last ball at most. -/
theorem next_ball (h : s.InWords) (fair : s.Fair) (counts : s.Counts .endBall)
    (playing : s.status.inProgress = true) (none_spare : s.spare = 0) :
    s.rotated.status.ball < UInt32.size := by
  by_cases hmany : s.status.ballsPerGame + 1 = UInt32.size
  · exact counts hmany playing none_spare
  · have hlast := (fair.playing playing).2
    have hnext : s.rotated.status.ball ≤ s.status.ball + 1 := s.ball_rotated_le
    have hballs := h.ballsPerGame
    have htwo : 1 + 1 < UInt32.size := by decide
    omega

/-- A request that counts nothing past the end of a word leaves every counter in its word. -/
theorem after (h : s.InWords) (fair : s.Fair) {r : GameRequest} (counts : s.Counts r) (now : Span) :
    (s.after r now).2.InWords := by
  cases r with
  | startGame => exact h.begun
  | updateLamps => exact h
  | addPlayer =>
    simp only [Standing.after]
    split
    · rename_i hplaying
      exact h.joined (counts hplaying)
    · exact h
  | awardExtraBall =>
    simp only [Standing.after]
    split
    · rename_i hup
      exact h.awarded hup (counts hup)
    · exact h
  | startBall =>
    simp only [Standing.after]
    split
    · exact h.ballStarted now
    · exact h
  | endBall =>
    simp only [Standing.after]
    split
    · rename_i hplaying
      exact h.afterBall (h.next_ball fair counts hplaying) now
    · exact h
  | endGame =>
    simp only [Standing.after]
    split
    · exact h.ended
    · exact h

end InWords

/-- Nothing has been counted past a number. -/
structure AtMost (n : Nat) (s : Standing) : Prop where
  ball : s.status.ball ≤ n
  players : s.status.players ≤ n
  banks : ∀ player, s.banks.getD player 0 ≤ n

namespace AtMost
variable {n : Nat} {s : Standing}

theorem mono (h : s.AtMost n) : s.AtMost (n + 1) :=
  ⟨Nat.le_succ_of_le h.ball, Nat.le_succ_of_le h.players,
    fun player => Nat.le_succ_of_le (h.banks player)⟩

theorem rotated (h : s.AtMost n) : s.rotated.AtMost (n + 1) := by
  rw [Standing.rotated]
  split
  · exact ⟨Nat.succ_le_succ h.ball, h.mono.players, h.mono.banks⟩
  · exact ⟨h.mono.ball, h.mono.players, h.mono.banks⟩

theorem afterBall (h : s.AtMost n) (now : Span) : (s.afterBall now).2.AtMost (n + 1) := by
  rw [Standing.afterBall]
  split
  · rename_i hspare
    refine ⟨h.mono.ball, h.mono.players, fun player => ?_⟩
    refine Nat.le_succ_of_le ?_
    have hused := getD_modify (· - 1) player (lt_of_spare hspare)
    have hbank := h.banks player
    simp only [Standing.ballStarted, Standing.spareUsed, hused]
    split <;> omega
  · split
    · exact ⟨Nat.zero_le _, h.rotated.players, h.rotated.banks⟩
    · exact ⟨h.rotated.ball, h.rotated.players, h.rotated.banks⟩

/-- A request counts one further at most. -/
theorem after (h : s.AtMost n) (r : GameRequest) (now : Span) :
    (s.after r now).2.AtMost (n + 1) := by
  cases r with
  | startGame =>
    exact ⟨Nat.le_add_left _ _, Nat.zero_le _, fun _ => by simp [Standing.after, begun]⟩
  | updateLamps => exact h.mono
  | addPlayer =>
    simp only [Standing.after]
    split
    · refine ⟨h.mono.ball, Nat.succ_le_succ h.players, fun player => ?_⟩
      exact s.getD_joined player ▸ h.mono.banks player
    · exact h.mono
  | awardExtraBall =>
    simp only [Standing.after]
    split
    · rename_i hup
      refine ⟨h.mono.ball, h.mono.players, fun player => ?_⟩
      have hbank := h.banks player
      rw [getD_awarded hup]
      split <;> omega
    · exact h.mono
  | startBall =>
    simp only [Standing.after]
    split
    · exact ⟨h.mono.ball, h.mono.players, h.mono.banks⟩
    · exact h.mono
  | endBall =>
    simp only [Standing.after]
    split
    · exact h.afterBall now
    · exact h.mono
  | endGame =>
    simp only [Standing.after]
    split
    · exact ⟨Nat.zero_le _, h.mono.players, h.mono.banks⟩
    · exact h.mono

theorem counts (h : s.AtMost n) (few : n + 1 < UInt32.size) (r : GameRequest) : s.Counts r := by
  cases r with
  | addPlayer => exact fun _ => Nat.lt_of_le_of_lt (Nat.succ_le_succ h.players) few
  | awardExtraBall => exact fun _ => Nat.lt_of_le_of_lt (Nat.succ_le_succ (h.banks _)) few
  | endBall => exact fun _ _ _ => Nat.lt_of_le_of_lt h.rotated.ball few
  | startGame | startBall | endGame | updateLamps => trivial

end AtMost

end Standing

end Playfield
