import Playfield.Proofs.Ledger

/-!
# Schedules and their masks

After the drivers have been brought up to the present, each driver that is still under a schedule
has its output as the mask's bit for the present slot wants it, as far as the host knows. By the
calls that the board has taken the output is then off where the bit is low. Where the bit is high it
is on, with one exception: a schedule takes any output that is not off for on. A driver that was in
a pulse or a pattern when it came under its schedules is left to that pulse or pattern until a bit
is low, and a pulse ends by itself.
-/
namespace Playfield

/-- What an output does. -/
inductive Output where
  | off
  /-- On until it is turned off. -/
  | on
  /-- On until a pulse ends. -/
  | pulsing
  /-- On and off in turns. -/
  | pattering
  deriving DecidableEq, Repr

/-- What an output does at a time by the last call for it. -/
def outputAt (now : Span) : Option Stamp → Output
  | none | some (_, .disable _) => .off
  | some (t, .pulse _ ms) =>
    if ms = 0 then .on
    else match t.add? (.ofMillis ms) with
      | some ends => if ends ≤ now then .off else .pulsing
      | none => .pulsing
  | some (_, .pattern _ _ _ _) => .pattering

theorem outputAt_of_dark {number : Nat} {last : Option Stamp} {ticked : Option Span} {now : Span}
    (dark : Dark number last ticked) (past : ∀ t, ticked = some t → t ≤ now) :
    outputAt now last = .off := by
  rcases dark with rfl | ⟨t, rfl⟩ | ⟨t, ms, ends, tick, rfl, long, hadd, hticked, hover⟩
  · rfl
  · rfl
  · have hms : ms ≠ 0 := by omega
    have hends : ends ≤ now := Nat.le_trans hover (past tick hticked)
    simp only [outputAt, if_neg hms, hadd, if_pos hends]

/-- The driver is in a pulse or a pattern. -/
def DriverStatus.isPassing : DriverStatus → Bool
  | .pulsing _ | .pattern _ _ => true
  | _ => false

/-- By its last call the output of a driver in a pulse or a pattern is not on for good. -/
theorem Driver.Matches.outputAt_ne {d : Driver} {last : Option Stamp} {ticked : Option Span}
    (h : d.Matches last ticked) (passing : d.status.isPassing) (now : Span) :
    outputAt now last ≠ .on := by
  have follows := h.follows
  rw [Driver.Follows] at follows
  cases hstatus : d.status with
  | pulsing ends =>
    rw [hstatus] at follows
    obtain ⟨ms, long, rfl, hadd⟩ := follows
    have hms : ms ≠ 0 := by omega
    simp only [outputAt, if_neg hms, hadd]
    split <;> simp
  | pattern onMs offMs =>
    rw [hstatus] at follows
    obtain ⟨t, firstMs, rfl⟩ := follows
    simp [outputAt]
  | off | held | scheduled =>
    rw [hstatus] at passing
    exact absurd passing Bool.false_ne_true

/-- The bit that a mask has for a time: a slot is 31.25 milliseconds long, and after 32 slots the
mask begins again. -/
theorem Schedule.wantsOn_slotAt (s : Schedule) (now : Span) : s.wantsOn (s.slotAt now) =
    s.mask.testBit ((now.nanos - s.startedAt.nanos) / 31250000 % 32) := by
  have hslot : s.slotAt now % slots = (now.nanos - s.startedAt.nanos) / 31250000 % 32 := by
    simp only [slotAt, slots, slotMicros, Span.micros, Span.since, UInt64.size]
    omega
  rw [wantsOn, hslot]

namespace Ledger
variable {l : Ledger} {history : List (Span × Errand)} {number : Nat}

/-- The driver is scheduled after some errands. -/
def IsScheduled (l : Ledger) (history : List (Span × Errand)) (number : Nat) : Prop :=
  ∃ d, (l.after history).bank.get? number = some d ∧ d.status = .scheduled

/-- The driver came under its schedules in a pulse or a pattern, and has been scheduled and not been
called since. -/
def TookOver (l : Ledger) (history : List (Span × Errand)) (number : Nat) : Prop :=
  ∃ before later, history = before ++ later ∧
    (∃ d, (l.after before).bank.get? number = some d ∧ d.status.isPassing) ∧
    (∀ part, part <+: later → part ≠ [] → l.IsScheduled (before ++ part) number) ∧
    (l.after history).callsFor number = (l.after before).callsFor number

theorem TookOver.next (h : l.TookOver history number) {x : Span × Errand}
    (scheduled : l.IsScheduled (history ++ [x]) number)
    (quiet : (l.after (history ++ [x])).callsFor number = (l.after history).callsFor number) :
    l.TookOver (history ++ [x]) number := by
  obtain ⟨before, later, hsplit, hpassing, hsince, hcalls⟩ := h
  refine ⟨before, later ++ [x], by rw [hsplit, List.append_assoc], hpassing, ?_,
    quiet.trans hcalls⟩
  intro part hpart hne
  rcases List.prefix_concat_iff.mp hpart with hall | hpart
  · rw [hall, ← List.append_assoc, ← hsplit]
    exact scheduled
  · exact hsince part hpart hne

/-- What the calls that the board has taken make of an output that the host has for off or on: the
first is off, and the second was turned on or taken over. -/
def Lights (l : Ledger) (history : List (Span × Errand)) (number : Nat) : Bool → Prop
  | false => Dark number ((l.after history).last? number) (l.after history).ticked
  | true => (∃ t, (l.after history).last? number = some (t, .pulse number 0)) ∨
      l.TookOver history number

theorem Lights.next {on : Bool} (h : l.Lights history number on) {x : Span × Errand}
    (orderly : l.Orderly (history ++ [x]))
    (scheduled : l.IsScheduled (history ++ [x]) number)
    (quiet : (l.after (history ++ [x])).callsFor number = (l.after history).callsFor number) :
    l.Lights (history ++ [x]) number on := by
  have hlast : (l.after (history ++ [x])).last? number = (l.after history).last? number :=
    congrArg List.getLast? quiet
  cases on with
  | false =>
    rw [Lights, hlast]
    exact Dark.later h orderly.ticked_later
  | true =>
    rw [Lights, hlast]
    exact h.imp_right fun hover => hover.next scheduled quiet

/-- What a new schedule makes of a driver without one. -/
theorem lights_of_bare {d : Driver} {x : Span × Errand}
    (hget : (l.after history).bank.get? d.number = some d) (bare : d.schedule = none)
    (agrees : d.Matches ((l.after history).last? d.number) (l.after history).ticked)
    (orderly : l.Orderly (history ++ [x]))
    (scheduled : l.IsScheduled (history ++ [x]) d.number)
    (quiet : (l.after (history ++ [x])).callsFor d.number =
      (l.after history).callsFor d.number) :
    l.Lights (history ++ [x]) d.number d.countsOn := by
  have hlast : (l.after (history ++ [x])).last? d.number = (l.after history).last? d.number :=
    congrArg List.getLast? quiet
  have hcounts : d.countsOn = d.isEnabled := by simp only [Driver.countsOn, bare]
  have passed (passing : d.status.isPassing) : l.TookOver (history ++ [x]) d.number := by
    refine ⟨history, [x], rfl, ⟨d, hget, passing⟩, fun part hpart hne => ?_, quiet⟩
    have hpart : part <+: [] ++ [x] := hpart
    rcases List.prefix_concat_iff.mp hpart with hall | hnil
    · exact hall ▸ scheduled
    · exact absurd (List.prefix_nil.mp hnil) hne
  have follows := agrees.follows
  rw [Driver.Follows] at follows
  rw [hcounts, Driver.isEnabled]
  cases hstatus : d.status with
  | off =>
    rw [hstatus] at follows
    exact Dark.later (hlast ▸ follows) orderly.ticked_later
  | held =>
    rw [hstatus] at follows
    exact .inl (hlast ▸ follows)
  | pulsing ends => exact .inr (passed (by rw [hstatus]; rfl))
  | pattern onMs offMs => exact .inr (passed (by rw [hstatus]; rfl))
  | scheduled =>
    have hsome := agrees.scheduled_iff.mp hstatus
    rw [bare] at hsome
    exact absurd hsome Bool.false_ne_true

/-- What the host has for the output of a schedule is what the calls make of it. -/
theorem Orderly.lights (h : l.Orderly history) {d : Driver} {s : Schedule}
    (hget : (l.after history).bank.get? number = some d) (runs : d.schedule = some s)
    (ends : endless ((l.after history).last? number) = false) :
    l.Lights history number s.outputOn := by
  induction history using List.reverseRecOn generalizing d s with
  | nil =>
    have hmem : d ∈ l.bank.toList := (h.new.coherent.get?_iff.mp hget).1
    exact nomatch (h.new.off d hmem).2.symm.trans runs
  | append_singleton history x ih =>
    have scheduled : l.IsScheduled (history ++ [x]) number :=
      ⟨d, hget, (h.tracks hget).scheduled (by simp [runs])⟩
    obtain ⟨d₀, call, hget₀, hnumber, change, hcalls, hlast⟩ := h.last_step hget
    have tracks₀ := h.before_last.1.tracks hget₀
    subst hnumber
    cases change with
    | stay =>
      have quiet := hcalls.trans (List.append_nil _)
      have ends₀ := (congrArg endless hlast).symm.trans ends
      exact (ih h.before_last.1 hget₀ runs ends₀).next h scheduled quiet
    | schedule mask cycles =>
      have quiet := hcalls.trans (List.append_nil _)
      have hon : s.outputOn = d₀.countsOn := congrArg Schedule.outputOn (Option.some.inj runs).symm
      rw [hon]
      have ends₀ := (congrArg endless hlast).symm.trans ends
      cases runs₀ : d₀.schedule with
      | some s₀ =>
        have hcounts : d₀.countsOn = s₀.outputOn := by simp only [Driver.countsOn, runs₀]
        rw [hcounts]
        exact (ih h.before_last.1 hget₀ runs₀ ends₀).next h scheduled quiet
      | none => exact lights_of_bare hget₀ runs₀ (tracks₀.agrees ends₀) h scheduled quiet
    | turn on runs₀ =>
      have hon : s.outputOn = on := congrArg Schedule.outputOn (Option.some.inj runs).symm
      rw [hon]
      cases on with
      | false => exact .inr (.inl ⟨x.1, hlast⟩)
      | true => exact .inl ⟨x.1, hlast⟩
    | lapse ticks pulsing ended =>
      have hstatus := tracks₀.scheduled (Option.isSome_of_eq_some runs)
      exact nomatch pulsing.symm.trans hstatus
    | hold | pulse long adds | overrun long none | disable | patter onMs offMs firstMs =>
      exact nomatch runs

end Ledger

namespace DriverBank

/-- Drivers that were all brought up to the present come from one step each. -/
theorem exists_of_tickList {now : Span} {ds : List Driver} {b : Bench}
    (hok : (tickList now ds b).1 = .ok ()) {d' : Driver} (hd' : d' ∈ (tickList now ds b).2.1) :
    ∃ d ∈ ds, ∃ b', (Driver.tick now (d, b')).1 = .ok () ∧ (Driver.tick now (d, b')).2.1 = d' := by
  induction ds generalizing b with
  | nil => exact nomatch hd'
  | cons d rest ih =>
    rcases htick : Driver.tick now (d, b) with ⟨outcome, after, b'⟩
    simp only [tickList, htick] at hok hd'
    cases outcome with
    | ok value =>
      rcases List.mem_cons.mp hd' with rfl | hd'
      · exact ⟨d, List.mem_cons_self, b, by rw [htick], by rw [htick]⟩
      · obtain ⟨d₀, hd₀, hdone⟩ := ih hok hd'
        exact ⟨d₀, List.mem_cons_of_mem _ hd₀, hdone⟩
    | error f => cases hok
    | panic message => cases hok

end DriverBank

namespace Ledger
variable {l : Ledger} {history : List (Span × Errand)} {now : Span}

/-- After the drivers have all been brought up to the present, each that has a schedule has its
output as the mask wants it. -/
theorem Orderly.outputOn (h : l.Orderly history) (hok : (l.after history).outcome now .tick = .ok ())
    {d : Driver} {s : Schedule} (hd : d ∈ ((l.after history).run now .tick).bank.toList)
    (runs : d.schedule = some s) : s.outputOn = s.wantsOn (s.slotAt now) := by
  have hok' : (DriverBank.tickList now (l.after history).bank.toList (l.after history).bench).1 =
      .ok () := Outcome.mapError_eq_ok.mp hok
  obtain ⟨d₀, hd₀, b', hdone, hafter⟩ := DriverBank.exists_of_tickList hok' hd
  have hget₀ : (l.after history).bank.get? d₀.number = some d₀ :=
    (coherent_after h.new.coherent history).get?_iff.mpr ⟨hd₀, rfl⟩
  exact Driver.outputOn_of_tick (h.tracks hget₀).scheduled hdone (hafter ▸ runs)

/-- After the drivers have been brought up to the present without a failure, at the end of errands
at times that do not go back, each driver that is under a schedule, and was not pulsed last past the
last time there is, is off if the mask's bit for the present slot is low; if it is high the output
is on for good, just if it was not taken over from a pulse or a pattern. -/
theorem scheduled_output_iff (h : l.Orderly (history ++ [(now, .tick)]))
    (hok : (l.after history).outcome now .tick = .ok ()) {d : Driver} {s : Schedule}
    (hd : d ∈ (l.after (history ++ [(now, .tick)])).bank.toList) (runs : d.schedule = some s)
    (ends : endless ((l.after (history ++ [(now, .tick)])).last? d.number) = false) :
    let bit := s.mask.testBit ((now.nanos - s.startedAt.nanos) / 31250000 % 32)
    let output := outputAt now ((l.after (history ++ [(now, .tick)])).last? d.number)
    (bit = false → output = .off) ∧
      (bit = true → (output = .on ↔ ¬ l.TookOver (history ++ [(now, .tick)]) d.number)) := by
  intro bit output
  have hget : (l.after (history ++ [(now, .tick)])).bank.get? d.number = some d :=
    (coherent_after h.new.coherent _).get?_iff.mpr ⟨hd, rfl⟩
  have hbit : s.outputOn = bit := by
    rw [after_concat] at hd
    rw [h.before_last.1.outputOn hok hd runs, s.wantsOn_slotAt]
  have lights := h.lights hget runs ends
  rw [hbit] at lights
  refine ⟨fun hlow => ?_, fun hhigh => ?_⟩
  · rw [hlow] at lights
    refine outputAt_of_dark lights fun t ht => ?_
    rw [after_concat] at ht
    exact Nat.le_of_eq (congrArg Span.nanos (Option.some.inj ht).symm)
  · rw [hhigh] at lights
    constructor
    · rintro hon ⟨before, later, hsplit, ⟨d₀, hget₀, passing⟩, -, hcalls⟩
      have orderly : l.Orderly before := by
        have hordered := (List.pairwise_append.mp (hsplit ▸ h.ordered)).1
        exact ⟨h.new, h.unused, h.blank, hordered⟩
      have hlast : (l.after (history ++ [(now, .tick)])).last? d.number =
          (l.after before).last? d.number := congrArg List.getLast? hcalls
      rw [hlast] at ends
      refine ((orderly.tracks hget₀).agrees ends).outputAt_ne passing now ?_
      exact hlast ▸ hon
    · intro hnot
      rcases lights with ⟨t, ht⟩ | hover
      · exact congrArg (outputAt now) ht
      · exact absurd hover hnot

/-- A lamp that was held on goes off with the first slot of a mask that is low. -/
theorem held_lamp_goes_off :
    ∃ (l : Ledger) (history : List (Span × Errand)), l.bank = twoDrivers ∧
      history = [(.zero, .hold 6), (.zero, .order (.schedule "flasher" 2 none)), (.zero, .tick)] ∧
      l.Orderly history ∧
      ∃ d ∈ (l.after history).bank.toList, d.status = .scheduled ∧
        outputAt .zero ((l.after history).last? d.number) = .off := by
  let l : Ledger := { bank := twoDrivers, bench := {} }
  let history : List (Span × Errand) :=
    [(.zero, .hold 6), (.zero, .order (.schedule "flasher" 2 none))]
  let s : Schedule := { mask := 2, cycles := none, startedAt := .zero, outputOn := false }
  let d : Driver :=
    { number := 6, name := "flasher", pulseMs := 20, isVirtual := true, status := .scheduled,
      schedule := some s }
  have orderly : l.Orderly (history ++ [(.zero, .tick)]) :=
    ⟨new_twoDrivers, rfl, ⟨rfl, rfl⟩, by decide⟩
  have hd : d ∈ (l.after (history ++ [(.zero, .tick)])).bank.toList := by decide +kernel
  have hok : (l.after history).outcome .zero .tick = .ok () := by decide +kernel
  have runs : d.schedule = some s := rfl
  have ends : endless ((l.after (history ++ [(.zero, .tick)])).last? d.number) = false := by
    decide +kernel
  have low : s.mask.testBit ((Span.zero.nanos - s.startedAt.nanos) / 31250000 % 32) = false := by
    decide
  refine ⟨l, history ++ [(.zero, .tick)], rfl, rfl, orderly, d, ?_⟩
  exact ⟨hd, rfl, (scheduled_output_iff orderly hok hd runs ends).1 low⟩

/-- A lamp that was in a pulse when it came under a mask of ones is off once the pulse has ended:
bringing it up to the present makes no call. -/
theorem pulsed_lamp_stays_off :
    ∃ (l : Ledger) (history : List (Span × Errand)), l.bank = twoDrivers ∧
      history = [(.zero, .order (.pulse "flasher" 10)),
        (.ofMillis 5, .order (.schedule "flasher" 4294967295 none)), (.ofMillis 20, .tick)] ∧
      l.Orderly history ∧
      ∃ d ∈ (l.after history).bank.toList, ∃ s, d.status = .scheduled ∧ d.schedule = some s ∧
        s.mask.testBit (((Span.ofMillis 20).nanos - s.startedAt.nanos) / 31250000 % 32) = true ∧
        outputAt (.ofMillis 20) ((l.after history).last? d.number) = .off := by
  let s : Schedule :=
    { mask := 4294967295, cycles := none, startedAt := .ofMillis 5, outputOn := true }
  let d : Driver :=
    { number := 6, name := "flasher", pulseMs := 20, isVirtual := true, status := .scheduled,
      schedule := some s, lastChanged := .ofMillis 5 }
  let l : Ledger := { bank := twoDrivers, bench := {} }
  let history : List (Span × Errand) := [(.zero, .order (.pulse "flasher" 10)),
    (.ofMillis 5, .order (.schedule "flasher" 4294967295 none)), (.ofMillis 20, .tick)]
  have orderly : l.Orderly history := ⟨new_twoDrivers, rfl, ⟨rfl, rfl⟩, by decide⟩
  have hd : d ∈ (l.after history).bank.toList := by decide +kernel
  have high : s.mask.testBit (((Span.ofMillis 20).nanos - s.startedAt.nanos) / 31250000 % 32) =
      true := by decide +kernel
  have hoff : outputAt (.ofMillis 20) ((l.after history).last? d.number) = .off := by
    decide +kernel
  exact ⟨l, history, rfl, rfl, orderly, d, hd, s, rfl, rfl, high, hoff⟩

end Ledger

end Playfield
