import Playfield.Proofs.Outputs

/-!
# Single steps of a driver

Whatever is asked of a driver, one of nine things happens to it, with at most one call that the
board takes. A call that the board does not take leaves the driver as it was. One of the nine is an
ending half-way: a pulse that would end past the last time there is panics once the board has taken
it and the driver has lost its schedule.
-/
namespace Playfield

namespace Driver

@[simp] theorem status_enter (d : Driver) (status : DriverStatus) (now : Span) :
    (d.enter status now).status = status := rfl

@[simp] theorem schedule_enter (d : Driver) (status : DriverStatus) (now : Span) :
    (d.enter status now).schedule = d.schedule := rfl

/-- What a new schedule takes the output for: as the schedule before it left it, and without one as
on unless the driver is off. -/
def countsOn (d : Driver) : Bool :=
  match d.schedule with
  | some s => s.outputOn
  | none => d.isEnabled

/-- What can happen to a driver at a time, with the call that the board takes for it. Pulses lapse
only as the driver is brought up to the present. -/
inductive Change (ticking : Prop) (now : Span) (d : Driver) : Option DriverCall → Driver → Prop where
  | stay : Change ticking now d none d
  | hold : Change ticking now d (some (.pulse d.number 0))
      ({ d with schedule := none }.enter .held now)
  | pulse {ms : Nat} {ends : Span} (long : 0 < ms) (adds : now.add? (.ofMillis ms) = some ends) :
      Change ticking now d (some (.pulse d.number ms))
        ({ d with schedule := none }.enter (.pulsing ends) now)
  | overrun {ms : Nat} (long : 0 < ms) (ends : now.add? (.ofMillis ms) = none) :
      Change ticking now d (some (.pulse d.number ms)) { d with schedule := none }
  | disable : Change ticking now d (some (.disable d.number))
      ({ d with schedule := none }.enter .off now)
  | patter (onMs offMs firstMs : Nat) :
      Change ticking now d (some (.pattern d.number onMs offMs firstMs))
        ({ d with schedule := none }.enter (.pattern onMs offMs) now)
  | schedule (mask : Nat) (cycles : Option Nat) : Change ticking now d none
      ({ d with schedule := some { mask, cycles, startedAt := now, outputOn := d.countsOn }
        }.enter .scheduled now)
  | lapse {ends : Span} (present : ticking) (pulsing : d.status = .pulsing ends)
      (ended : ends ≤ now) : Change ticking now d none (d.enter .off ends)
  | turn {s : Schedule} (on : Bool) (runs : d.schedule = some s) :
      Change ticking now d (some (if on then .pulse d.number 0 else .disable d.number))
        { d with schedule := some { s with outputOn := on }, lastChanged := now }

namespace Change
variable {ticking : Prop} {now : Span} {d d' : Driver} {call : Option DriverCall}

theorem number (h : d.Change ticking now call d') : d'.number = d.number := by
  cases h <;> rfl

/-- The call is for the driver it happens to. -/
theorem driver (h : d.Change ticking now call d') {c : DriverCall} (hc : c ∈ call.toList) :
    c.driver = d.number := by
  have hc : c ∈ call := Option.mem_toList.mp hc
  cases h with
  | turn on runs => cases on <;> cases hc <;> rfl
  | stay | schedule mask cycles | lapse present pulsing ended => exact nomatch hc
  | hold | pulse long adds | overrun long ends | disable | patter onMs offMs firstMs =>
    cases hc
    rfl

theorem filter_own (h : d.Change ticking now call d') :
    (call.toList.filter fun c => c.driver = d.number) = call.toList :=
  List.filter_eq_self.mpr fun _ hc => decide_eq_true (h.driver hc)

theorem filter_other (h : d.Change ticking now call d') {n : Nat} (hne : n ≠ d.number) :
    (call.toList.filter fun c => c.driver = n) = [] := by
  refine List.filter_eq_nil_iff.mpr fun c hc => ?_
  rw [h.driver hc]
  simpa using hne.symm

end Change

/-- A computation on a driver did one of these things, and nothing if it failed. -/
def Goes {ε : Type} (ticking : Prop) (now : Span) (s : Driver × Bench)
    (r : Outcome ε Unit × Driver × Bench) : Prop :=
  ∃ call, s.1.Change ticking now call r.2.1 ∧
    r.2.2.board.calls.toList = s.2.board.calls.toList ++ call.toList ∧
    ∀ e, r.1 = .error e → r.2.1 = s.1

variable {ticking : Prop} {now : Span}

theorem goes_stay {ε : Type} {o : Outcome ε Unit} (s : Driver × Bench) :
    Goes ticking now s (o, s) :=
  ⟨none, .stay, (List.append_nil _).symm, fun _ _ => rfl⟩

theorem Goes.mapError {ε δ : Type} {s : Driver × Bench} {x : Act ε (Driver × Bench) Unit}
    (h : Goes ticking now s (x s)) (f : ε → δ) : Goes ticking now s (x.mapError f s) := by
  obtain ⟨call, change, hcalls, hfailed⟩ := h
  refine ⟨call, change, hcalls, fun e he => ?_⟩
  obtain ⟨cause, hcause, -⟩ := Outcome.mapError_eq_error.mp he
  exact hfailed cause hcause

/-- A call the board takes is recorded and changes the driver; a call it does not take does
neither. -/
theorem send_cases (c : DriverCall) (f : Driver → Driver) (d : Driver) (b : Bench) :
    (∃ b', send c f (d, b) = (.ok (), f d, b') ∧
        b'.board.calls.toList = b.board.calls.toList ++ [c]) ∨
      ∃ o b', o ≠ .ok () ∧ send c f (d, b) = (o, d, b') ∧ b'.board.calls = b.board.calls := by
  have hcalls := (Bench.drive_spec c b).2
  simp only [send]
  rcases hdrive : Bench.drive c b with ⟨outcome, b'⟩
  rw [hdrive] at hcalls
  cases outcome with
  | ok value =>
    left
    refine ⟨b', rfl, ?_⟩
    have hpush : b'.board.calls = b.board.calls.push c := hcalls
    rw [hpush, Array.toList_push]
  | error e =>
    right
    exact ⟨.error e, b', by simp, rfl, hcalls⟩
  | panic message =>
    right
    exact ⟨.panic message, b', by simp, rfl, hcalls⟩

theorem goes_send {c : DriverCall} {f : Driver → Driver} {d : Driver} {b : Bench}
    (h : d.Change ticking now (some c) (f d)) : Goes ticking now (d, b) (send c f (d, b)) := by
  rcases send_cases c f d b with ⟨b', hsend, hcalls⟩ | ⟨o, b', -, hsend, hcalls⟩ <;> rw [hsend]
  · exact ⟨some c, h, hcalls, fun e he => nomatch he⟩
  · exact ⟨none, .stay, by simp [hcalls], fun _ _ => rfl⟩

theorem goes_pulse (ms : Nat) (s : Driver × Bench) : Goes ticking now s (pulse ms now s) := by
  obtain ⟨d, b⟩ := s
  simp only [pulse]
  split
  · rename_i hms
    subst hms
    exact goes_send .hold
  · rename_i hms
    have long : 0 < ms := Nat.pos_of_ne_zero hms
    split
    · rename_i ends hadd
      exact goes_send (.pulse long hadd)
    · rename_i hadd
      have goes : Goes ticking now (d, b)
          (send (.pulse d.number ms) (fun d => { d with schedule := none }) (d, b)) :=
        goes_send (.overrun long hadd)
      split
      · rename_i hsend
        rw [hsend] at goes
        obtain ⟨call, change, hcalls, -⟩ := goes
        exact ⟨call, change, hcalls, fun e he => by cases he⟩
      · exact goes

theorem goes_disable (s : Driver × Bench) : Goes ticking now s (disable now s) :=
  goes_send .disable

theorem goes_patter (onMs offMs firstMs : Nat) (s : Driver × Bench) :
    Goes ticking now s (patter onMs offMs firstMs now s) :=
  goes_send (.patter onMs offMs firstMs)

theorem goes_setOutput {d : Driver} {b : Bench} {s : Schedule} (on : Bool)
    (runs : d.schedule = some s) : Goes ticking now (d, b) (setOutput on now (d, b)) := by
  refine goes_send ?_
  have hturn : d.Change ticking now (some (if on then .pulse d.number 0 else .disable d.number))
      { d with schedule := some { s with outputOn := on }, lastChanged := now } := .turn on runs
  rw [runs, Option.map_some]
  exact hturn

theorem goes_tick (present : ticking) (now : Span) (s : Driver × Bench) :
    Goes ticking now s (tick now s) := by
  obtain ⟨d, b⟩ := s
  simp only [tick]
  split
  · rename_i ends hstatus
    by_cases hover : ends ≤ now
    · rw [if_pos hover]
      exact ⟨none, .lapse present hstatus hover, (List.append_nil _).symm, fun e he => by cases he⟩
    · rw [if_neg hover]
      exact goes_stay (d, b)
  · split
    · exact goes_stay (d, b)
    · rename_i s hs
      split
      · exact goes_disable (d, b)
      · split
        · exact goes_setOutput _ hs
        · exact goes_stay (d, b)

/-- A call that went well changed the driver and is recorded. -/
theorem send_ok {c : DriverCall} {f : Driver → Driver} {d : Driver} {b : Bench}
    (hok : (send c f (d, b)).1 = .ok ()) :
    (send c f (d, b)).2.1 = f d ∧
      (send c f (d, b)).2.2.board.calls.toList = b.board.calls.toList ++ [c] := by
  rcases send_cases c f d b with ⟨b', hsend, hcalls⟩ | ⟨o, b', hne, hsend, -⟩ <;>
    rw [hsend] at hok ⊢
  · exact ⟨rfl, hcalls⟩
  · exact absurd hok hne

/-- A driver that was brought up to the present, and has a schedule still, has its output as the
mask wants it. -/
theorem outputOn_of_tick {d : Driver} {b : Bench} {s : Schedule}
    (scheduled : d.schedule.isSome → d.status = .scheduled)
    (hok : (tick now (d, b)).1 = .ok ()) (hs : (tick now (d, b)).2.1.schedule = some s) :
    s.outputOn = s.wantsOn (s.slotAt now) := by
  cases runs : d.schedule with
  | none =>
    have bare : (tick now (d, b)).2.1.schedule = none := by
      simp only [tick, runs]
      split
      · split <;> exact runs
      · exact runs
    cases bare.symm.trans hs
  | some before =>
    have hstatus : d.status = .scheduled := scheduled (by simp [runs])
    simp only [tick, hstatus, runs] at hok hs
    by_cases hover : before.isOver (before.slotAt now)
    · rw [if_pos hover] at hok hs
      have hgone : (disable now (d, b)).2.1.schedule = none := congrArg schedule (send_ok hok).1
      rw [hgone] at hs
      cases hs
    · rw [if_neg hover] at hok hs
      by_cases hwants : before.wantsOn (before.slotAt now) ≠ before.outputOn
      · rw [if_pos hwants] at hok hs
        have hset := congrArg schedule (send_ok hok).1
        have hturned : s = { before with outputOn := before.wantsOn (before.slotAt now) } :=
          Option.some.inj (hs.symm.trans (hset.trans (by simp only [runs, Option.map_some])))
        rw [hturned]
        rfl
      · rw [if_neg hwants] at hs
        have hsame : before = s := Option.some.inj (runs.symm.trans hs)
        rw [← hsame]
        exact (not_not.mp hwants).symm

end Driver

/-- Orders do one of these things to a driver. -/
theorem Order.goes_act {ticking : Prop} (o : Order) (now : Span) (s : Driver × Bench) :
    Driver.Goes ticking now s (o.act now s) := by
  cases o with
  | pulse _ ms => exact (Driver.goes_pulse ms s).mapError _
  | pulseDefault _ => exact (Driver.goes_pulse s.1.pulseMs s).mapError _
  | disable _ => exact (Driver.goes_disable s).mapError _
  | patter _ onMs offMs firstMs => exact (Driver.goes_patter onMs offMs firstMs s).mapError _
  | schedule _ mask cycles =>
    obtain ⟨d, b⟩ := s
    simp only [Order.act, Driver.startSchedule]
    by_cases hvirtual : d.isVirtual
    · rw [if_pos hvirtual]
      exact ⟨none, .schedule mask _, (List.append_nil _).symm, fun e he => by cases he⟩
    · rw [if_neg hvirtual]
      exact Driver.goes_stay (d, b)

end Playfield
