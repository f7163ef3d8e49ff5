import Playfield.Clock
import Playfield.Proofs.Masks

/-!
# Edges of a schedule

However far apart the ticks of a schedule are, the board is called at a tick only if the mask's bit
for it differs from the bit for the tick before; the first bit is compared with the output that the
schedule took over. So the calls turn the output on and off by turns. The first tick at which the
seconds of the schedule are spent turns the output off, and no tick after it does anything.

Slots are counted in a 64-bit word, which starts again from zero `2 ^ 59` seconds after the schedule.
The mask's bit is right even then, since 32 divides the size of the word. The end of the seconds is
not: a schedule that was to end goes on if its first tick after them comes so late
(`Driver.schedule_outlasts_seconds`). That is a defect, if one that no hand-set clock can show.
-/
namespace Playfield

/-- The call that sets an output. -/
def DriverCall.turn (number : Nat) (on : Bool) : DriverCall :=
  if on then .pulse number 0 else .disable number

theorem DriverCall.turn_inj {number : Nat} {on on' : Bool} :
    turn number on = turn number on' ↔ on = on' := by
  cases on <;> cases on' <;> simp [turn]

namespace Schedule

/-- The bit that a mask started at one time has for another. A slot is 31.25 milliseconds long, and
after 32 slots the mask begins again. -/
def bitAt (mask : Nat) (start now : Span) : Bool :=
  mask.testBit ((now.since start).nanos / 31250000 % slots)

/-- The calls of an output that is made to follow some bits: one for each bit that differs from the
one before it. -/
def edges (number : Nat) : Bool → List Bool → List DriverCall
  | _, [] => []
  | was, bit :: rest =>
    if bit = was then edges number was rest else .turn number bit :: edges number bit rest

/-- The calls turn the output on and off by turns, and the first one changes it. -/
theorem isChain_turn_edges (number : Nat) (was : Bool) (bits : List Bool) :
    (DriverCall.turn number was :: edges number was bits).IsChain (· ≠ ·) := by
  induction bits generalizing was with
  | nil => exact .singleton _
  | cons bit rest ih =>
    by_cases hbit : bit = was
    · rw [edges, if_pos hbit]
      exact ih was
    · rw [edges, if_neg hbit]
      exact .cons_cons (fun h => hbit (DriverCall.turn_inj.mp h).symm) (ih bit)

/-- There are seconds left of those that a schedule was started for. A schedule for no seconds runs
for ever. -/
def Unspent (cycles : Option Nat) (start now : Span) : Prop :=
  ∀ c, cycles = some c → 0 < c → now.since start < .ofParts c 0

/-- How long slots are counted: after this many seconds their number does not fit into a 64-bit
word. -/
def horizon : Span := .ofParts (UInt64.size / slots) 0

theorem nanos_horizon : horizon.nanos = UInt64.size * 31250000 := by decide

variable {s : Schedule} {now : Span}

theorem slotAt_eq (h : now.since s.startedAt < horizon) :
    s.slotAt now = (now.since s.startedAt).nanos / 31250000 := by
  have hlt : (now.since s.startedAt).nanos < horizon.nanos := h
  rw [nanos_horizon] at hlt
  simp only [slotAt, slots, slotMicros, Span.micros, UInt64.size] at hlt ⊢
  omega

theorem slotAt_le : s.slotAt now ≤ (now.since s.startedAt).nanos / 31250000 := by
  simp only [slotAt, slots, slotMicros, Span.micros, UInt64.size]
  omega

/-- The hand-set clock cannot show a time at which the slots are not counted. -/
theorem since_lt_horizon (clock : Clock) (start : Span) : clock.now.since start < horizon := by
  have hmicros := clock.micros.toNat_lt
  have hlt : clock.micros.toNat * 1000 - start.nanos < horizon.nanos := by
    rw [nanos_horizon, UInt64.size]
    omega
  exact hlt

/-- A schedule runs while there are seconds left. -/
theorem not_isOver {cycles : Option Nat} (hcycles : s.cycles = cycles.filter (0 < ·))
    (unspent : Unspent cycles s.startedAt now) : ¬ s.isOver (s.slotAt now) := by
  intro hover
  obtain ⟨c, hc, hslots⟩ := (Option.any_eq_true _ _).mp hover
  rw [hcycles] at hc
  obtain ⟨hsome, hpos⟩ := Option.filter_eq_some_iff.mp hc
  have hran : (now.since s.startedAt).nanos < c * Span.perSecond + 0 :=
    unspent c hsome (of_decide_eq_true hpos)
  have hle : c * slots ≤ s.slotAt now := of_decide_eq_true hslots
  have hslot : s.slotAt now ≤ (now.since s.startedAt).nanos / 31250000 := slotAt_le
  simp only [slots, Span.perSecond] at hran hle
  omega

/-- A schedule is over once its seconds are spent, as long as slots are counted. -/
theorem isOver_of_spent {c : Nat} (hcycles : s.cycles = some c)
    (spent : .ofParts c 0 ≤ now.since s.startedAt) (counted : now.since s.startedAt < horizon) :
    s.isOver (s.slotAt now) := by
  have hran : c * Span.perSecond + 0 ≤ (now.since s.startedAt).nanos := spent
  have hle : c * slots ≤ (now.since s.startedAt).nanos / 31250000 := by
    simp only [slots, Span.perSecond] at hran ⊢
    omega
  rw [isOver, hcycles, slotAt_eq counted]
  exact decide_eq_true hle

end Schedule

namespace Driver

/-- The driver runs a schedule, and has set its output. -/
structure Runs (number : Nat) (s : Schedule) (on : Bool) (d : Driver) : Prop where
  number : d.number = number
  status : d.status = .scheduled
  schedule : d.schedule = some { s with outputOn := on }

namespace Runs
variable {number : Nat} {s : Schedule} {on : Bool} {d d' : Driver} {b b' : Bench} {now : Span}

/-- A tick of a schedule that is not over sets the output if the mask wants it otherwise. -/
theorem tick_running (h : d.Runs number s on) (running : ¬ s.isOver (s.slotAt now)) (b : Bench) :
    tick now (d, b) =
      if Schedule.bitAt s.mask s.startedAt now = on then (.ok (), d, b)
      else setOutput (Schedule.bitAt s.mask s.startedAt now) now (d, b) := by
  have hbit : s.wantsOn (s.slotAt now) = Schedule.bitAt s.mask s.startedAt now :=
    s.wantsOn_slotAt now
  have hover : ¬ ({ s with outputOn := on } : Schedule).isOver (s.slotAt now) := running
  simp only [tick, h.status, h.schedule]
  refine (if_neg hover).trans ?_
  rw [← hbit]
  exact ite_not _ _ _

/-- A tick of a schedule that is over turns the output off. -/
theorem tick_over (h : d.Runs number s on) (ended : s.isOver (s.slotAt now)) (b : Bench) :
    tick now (d, b) = disable now (d, b) := by
  have hover : ({ s with outputOn := on } : Schedule).isOver (s.slotAt now) := ended
  simp only [tick, h.status, h.schedule]
  exact if_pos hover

/-- An output that was set is recorded. -/
theorem setOutput (h : d.Runs number s on) {bit : Bool}
    (hok : Driver.setOutput bit now (d, b) = (.ok (), d', b')) :
    d'.Runs number s bit ∧
      b'.board.calls.toList = b.board.calls.toList ++ [.turn number bit] := by
  simp only [Driver.setOutput] at hok
  obtain ⟨hsent, hcalls⟩ := send_ok (congrArg Prod.fst hok)
  rw [hok] at hsent hcalls
  subst hsent
  exact ⟨⟨h.number, h.status, congrArg (Option.map _) h.schedule⟩, h.number ▸ hcalls⟩

/-- An output that was turned off is recorded, and the schedule is gone. -/
theorem disable (h : d.Runs number s on) (hok : Driver.disable now (d, b) = (.ok (), d', b')) :
    d'.status = .off ∧ d'.schedule = none ∧
      b'.board.calls.toList = b.board.calls.toList ++ [.disable number] := by
  simp only [Driver.disable] at hok
  obtain ⟨hsent, hcalls⟩ := send_ok (congrArg Prod.fst hok)
  rw [hok] at hsent hcalls
  subst hsent
  exact ⟨rfl, rfl, h.number ▸ hcalls⟩

/-- Ticks of a schedule that has seconds left, as long as the board takes the calls: it runs on, and
the calls are one for each edge. -/
theorem each_tick (h : d.Runs number s on) {cycles : Option Nat}
    (hcycles : s.cycles = cycles.filter (0 < ·)) {times : List Span}
    (unspent : ∀ t ∈ times, Schedule.Unspent cycles s.startedAt t)
    (hok : Act.each tick times (d, b) = (.ok (), d', b')) :
    d'.Runs number s ((times.map (Schedule.bitAt s.mask s.startedAt)).getLastD on) ∧
      b'.board.calls.toList = b.board.calls.toList ++
        Schedule.edges number on (times.map (Schedule.bitAt s.mask s.startedAt)) := by
  induction times generalizing on d b with
  | nil =>
    cases hok
    exact ⟨h, (List.append_nil _).symm⟩
  | cons now rest ih =>
    have running := Schedule.not_isOver hcycles (unspent now List.mem_cons_self)
    have hlater : ∀ t ∈ rest, Schedule.Unspent cycles s.startedAt t :=
      fun t ht => unspent t (List.mem_cons_of_mem now ht)
    obtain ⟨⟨⟩, ⟨d₁, b₁⟩, htick, hrest⟩ := Act.bind_eq_ok hok
    rw [h.tick_running running] at htick
    simp only [List.map_cons, List.getLastD_cons]
    by_cases hbit : Schedule.bitAt s.mask s.startedAt now = on
    · rw [if_pos hbit] at htick
      cases htick
      rw [Schedule.edges, if_pos hbit, hbit]
      exact ih h hlater hrest
    · rw [if_neg hbit] at htick
      obtain ⟨hset, hcall⟩ := h.setOutput htick
      obtain ⟨hlast, hcalls⟩ := ih hset hlater hrest
      rw [Schedule.edges, if_neg hbit]
      refine ⟨hlast, ?_⟩
      rw [hcalls, hcall, List.append_assoc, List.singleton_append]

end Runs

/-- Nothing happens at the ticks of a driver that is off and has no schedule. -/
theorem each_tick_off {d : Driver} (status : d.status = .off) (bare : d.schedule = none)
    (times : List Span) (b : Bench) : Act.each tick times (d, b) = (.ok (), d, b) := by
  induction times with
  | nil => rfl
  | cons now rest ih =>
    have htick : tick now (d, b) = (.ok (), d, b) := by simp only [tick, status, bare]
    rw [Act.each_cons, Act.bind_ok htick]
    exact ih

/-- A driver that the host times can be put under a schedule, and then runs it. -/
theorem startSchedule_runs {d : Driver} (isVirtual : d.isVirtual) (mask : Nat)
    (cycles : Option Nat) (start : Span) :
    ∃ d₀ s, d.startSchedule mask cycles start = .ok d₀ ∧ d₀.Runs d.number s d.countsOn ∧
      s.mask = mask ∧ s.startedAt = start ∧ s.cycles = cycles.filter (0 < ·) := by
  rw [startSchedule, if_pos isVirtual]
  exact ⟨_, { mask, cycles := cycles.filter (0 < ·), startedAt := start, outputOn := d.countsOn },
    rfl, ⟨rfl, rfl, rfl⟩, rfl, rfl, rfl⟩

/-- Any driver that the host times can be put under a schedule. Then, after ticks at which the board
took the calls and there were seconds left:

* the driver is scheduled still, and the calls so far are one for each edge of the mask's bits, so
  they turn the output on and off by turns;
* at a tick with seconds left nothing happens, unless the mask's bit is another than at the tick
  before. Then the output is set as the bit says;
* at a tick with no seconds left the output is turned off, if slots are counted for so long. If the
  board takes that call the driver is off, and later ticks do nothing.

As long as slots are counted their numbers are right. The hand-set clock shows no other times. -/
theorem schedule_sends_edges {d : Driver} (isVirtual : d.isVirtual) (mask : Nat)
    (cycles : Option Nat) (start : Span) :
    ∃ d₀ s, d.startSchedule mask cycles start = .ok d₀ ∧ d₀.status = .scheduled ∧
      d₀.schedule = some s ∧
      (∀ now, now.since start < Schedule.horizon →
        s.slotAt now = (now.since start).nanos / 31250000) ∧
      (∀ clock : Clock, clock.now.since start < Schedule.horizon) ∧
      ∀ (b b₁ : Bench) (before : List Span) (d₁ : Driver),
        Act.each tick before (d₀, b) = (.ok (), d₁, b₁) →
        (∀ t ∈ before, Schedule.Unspent cycles start t) →
        let bits := before.map (Schedule.bitAt mask start)
        let calls := Schedule.edges d.number d.countsOn bits
        (d₁.status = .scheduled ∧ b₁.board.calls.toList = b.board.calls.toList ++ calls ∧
          calls.IsChain (· ≠ ·)) ∧
        (∀ now, Schedule.Unspent cycles start now →
          tick now (d₁, b₁) =
            if Schedule.bitAt mask start now = bits.getLastD d.countsOn then (.ok (), d₁, b₁)
            else setOutput (Schedule.bitAt mask start now) now (d₁, b₁)) ∧
        ∀ c now, cycles = some c → 0 < c → .ofParts c 0 ≤ now.since start →
          now.since start < Schedule.horizon →
          tick now (d₁, b₁) = disable now (d₁, b₁) ∧
          ∀ d₂ b₂, tick now (d₁, b₁) = (.ok (), d₂, b₂) →
            d₂.status = .off ∧
            b₂.board.calls.toList = b₁.board.calls.toList ++ [.disable d.number] ∧
            ∀ later, Act.each tick later (d₂, b₂) = (.ok (), d₂, b₂) := by
  obtain ⟨d₀, s, hstart, runs, rfl, rfl, hcycles⟩ := startSchedule_runs isVirtual mask cycles start
  refine ⟨d₀, { s with outputOn := d.countsOn }, hstart, runs.status, runs.schedule,
    fun _ counted => Schedule.slotAt_eq counted,
    fun clock => Schedule.since_lt_horizon clock s.startedAt, fun b b₁ before d₁ hok unspent => ?_⟩
  obtain ⟨running, hcalls⟩ := runs.each_tick hcycles unspent hok
  refine ⟨⟨running.status, hcalls, (Schedule.isChain_turn_edges _ _ _).of_cons⟩,
    fun now hunspent => running.tick_running (Schedule.not_isOver hcycles hunspent) b₁,
    fun c now hc hpos spent counted => ?_⟩
  have hlimit : s.cycles = some c := by
    rw [hcycles, hc, Option.filter_some, if_pos (decide_eq_true hpos)]
  have hdisable := running.tick_over (Schedule.isOver_of_spent hlimit spent counted) b₁
  refine ⟨hdisable, fun d₂ b₂ htick => ?_⟩
  obtain ⟨hoff, hbare, hcall⟩ := running.disable (hdisable ▸ htick)
  exact ⟨hoff, hcall, fun later => each_tick_off hoff hbare later b₂⟩

/-- A lamp is lit for the first slot of a second. It is turned off twice, at the edge and at the
end. -/
theorem lamp_flashes_once :
    let d : Driver := { number := 5, name := "flasher", pulseMs := 20, isVirtual := true }
    d.isVirtual = true ∧ ∃ d₀ d₁ d₂ b₁ b₂,
      d.startSchedule 1 (some 1) .zero = .ok d₀ ∧
      Act.each tick [.zero, .ofMillis 40] (d₀, {}) = (.ok (), d₁, b₁) ∧
      tick (.ofParts 1 0) (d₁, b₁) = (.ok (), d₂, b₂) ∧ d₁.status = .scheduled ∧ d₂.status = .off ∧
      b₂.board.calls.toList = [.pulse 5 0, .disable 5, .disable 5] := by
  intro d
  let d₀ : Driver :=
    { d with
      status := .scheduled
      schedule := some { mask := 1, cycles := some 1, startedAt := .zero, outputOn := false } }
  let first := Act.each tick [.zero, .ofMillis 40] (d₀, ({} : Bench))
  let last := tick (.ofParts 1 0) first.2
  have hfirst : Act.each tick [.zero, .ofMillis 40] (d₀, ({} : Bench)) =
      (.ok (), first.2.1, first.2.2) := Prod.ext (by decide +kernel : first.1 = .ok ()) rfl
  have hlast : tick (.ofParts 1 0) first.2 = (.ok (), last.2.1, last.2.2) :=
    Prod.ext (by decide +kernel : last.1 = .ok ()) rfl
  have unspent : ∀ t ∈ [.zero, .ofMillis 40], Schedule.Unspent (some 1) .zero t := by
    rintro t ht c ⟨rfl⟩ -
    revert t
    decide
  obtain ⟨d₀', -, hstart, -, -, -, -, hrun⟩ := schedule_sends_edges (d := d) rfl 1 (some 1) .zero
  obtain rfl : d₀ = d₀' := Except.ok.inj hstart
  obtain ⟨⟨hscheduled, hcalls, -⟩, -, hspent⟩ := hrun {} _ _ _ hfirst unspent
  obtain ⟨-, hover⟩ := hspent 1 (.ofParts 1 0) rfl (by decide) (by decide) (by decide)
  obtain ⟨hoff, hend, -⟩ := hover _ _ hlast
  exact ⟨rfl, d₀, _, _, _, _, rfl, hfirst, hlast, hscheduled, hoff,
    hend.trans (congrArg (· ++ [.disable 5]) hcalls)⟩

/-- A schedule of one second does not end with it if slots are not counted for so long: the first
tick, `2 ^ 59` seconds after the start, makes no call and leaves the driver scheduled. -/
theorem schedule_outlasts_seconds :
    ∃ d₀, ({ number := 5, name := "flasher", pulseMs := 30, isVirtual := true } : Driver
        ).startSchedule 0 (some 1) .zero = .ok d₀ ∧
      .ofParts 1 0 ≤ Span.since (.ofParts 576460752303423488 0) .zero ∧
      (Span.ofParts 576460752303423488 0).nanos < Span.bound ∧
      tick (.ofParts 576460752303423488 0) (d₀, {}) = (.ok (), d₀, {}) ∧ d₀.status = .scheduled :=
  ⟨_, rfl, by decide, by decide, rfl, rfl⟩

end Driver

end Playfield
