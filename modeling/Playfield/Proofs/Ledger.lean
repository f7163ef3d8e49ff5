import Mathlib.Data.List.Induction
import Playfield.Proofs.Errands

/-!
# The drivers and the board's record of calls

The host's model of a driver goes by the calls that the board has taken for it. Over any sequence of
errands at times that do not go back, with faults wherever they fall, a driver that is held was last
pulsed for no time, a driver in a pattern was last put into that pattern, a pulse that is under way
was made when the driver last changed, and a driver that is off was never called, or turned off
last, or last pulsed for a time that had ended when the drivers were last brought up to the present.
The exception is a driver whose last call was a pulse that ends past the last time there is: asking
for it panicked, and left the driver in the status it had before.

A ledger keeps, beside the drivers and the bench, the time of each call on the board's record. One
errand extends the log of each driver by the call of what happens to it; the rest is an induction
over the errands.
-/
namespace Playfield

/-- A driver bank as it is built: lookups fit, and every driver is off and has no schedule. -/
structure DriverBank.New (bank : DriverBank) : Prop where
  coherent : bank.drivers.Coherent
  off : ∀ d ∈ bank.toList, d.status = .off ∧ d.schedule = none

namespace DriverBank.New

theorem empty : ({} : DriverBank).New := ⟨.empty, fun _ h => nomatch h⟩

/-- Inserting drivers that are off builds such banks. -/
theorem insert {bank bank' : DriverBank} {d : Driver} (new : bank.New) (off : d.status = .off)
    (bare : d.schedule = none) (h : bank.insert d = .ok bank') : bank'.New := by
  simp only [DriverBank.insert] at h
  cases hinsert : bank.drivers.insert d with
  | error clash =>
    rw [hinsert] at h
    cases h
  | ok registry =>
    rw [hinsert] at h
    obtain rfl : ⟨registry⟩ = bank' := Except.ok.inj h
    refine ⟨new.coherent.insert hinsert, fun d' hd' => ?_⟩
    have hitems : registry.items = bank.drivers.items ++ [d] := by
      simp only [Registry.insert] at hinsert
      split at hinsert
      · cases hinsert
      · split at hinsert
        · cases hinsert
        · rw [← Except.ok.inj hinsert]
    have hmem : d' ∈ bank.drivers.items ++ [d] := hitems ▸ hd'
    rcases List.mem_append.mp hmem with hold | hnew
    · exact new.off d' hold
    · rw [List.mem_singleton.mp hnew]
      exact ⟨off, bare⟩

end DriverBank.New

/-! ### What a record says of a driver -/

/-- A call that the board has taken, with its time. -/
abbrev Stamp := Span × DriverCall

/-- By its last call an output is off: there is none, or it turned the output off, or it pulsed it
and the pulse had ended when the drivers were last brought up to the present. -/
def Dark (number : Nat) (last : Option Stamp) (ticked : Option Span) : Prop :=
  last = none ∨ (∃ t, last = some (t, .disable number)) ∨
    ∃ t ms ends tick, last = some (t, .pulse number ms) ∧ 0 < ms ∧
      t.add? (.ofMillis ms) = some ends ∧ ticked = some tick ∧ ends ≤ tick

/-- The last call was a pulse that ends past the last time there is. -/
def endless : Option Stamp → Bool
  | some (t, .pulse _ ms) => 0 < ms && (t.add? (.ofMillis ms)).isNone
  | _ => false

/-- What was dark stays dark as time goes on. -/
theorem Dark.later {number : Nat} {last : Option Stamp} {ticked ticked' : Option Span}
    (h : Dark number last ticked)
    (later : ∀ t, ticked = some t → ∃ t', ticked' = some t' ∧ t ≤ t') : Dark number last ticked' := by
  rcases h with hnone | hoff | ⟨t, ms, ends, tick, hlast, hms, hends, hticked, hover⟩
  · exact .inl hnone
  · exact .inr (.inl hoff)
  · obtain ⟨tick', hticked', hle⟩ := later tick hticked
    exact .inr (.inr ⟨t, ms, ends, tick', hlast, hms, hends, hticked', Nat.le_trans hover hle⟩)

namespace Driver

/-- A driver's status is what its last call brought about. -/
def Follows (d : Driver) (last : Option Stamp) (ticked : Option Span) : Prop :=
  match d.status with
  | .off => Dark d.number last ticked
  | .pulsing ends => ∃ ms, 0 < ms ∧ last = some (d.lastChanged, .pulse d.number ms) ∧
      d.lastChanged.add? (.ofMillis ms) = some ends
  | .held => ∃ t, last = some (t, .pulse d.number 0)
  | .pattern onMs offMs => ∃ t firstMs, last = some (t, .pattern d.number onMs offMs firstMs)
  | .scheduled => True

/-- The model of a driver agrees with the record. -/
structure Matches (d : Driver) (last : Option Stamp) (ticked : Option Span) : Prop where
  follows : d.Follows last ticked
  scheduled_iff : d.status = .scheduled ↔ d.schedule.isSome

/-- The model agrees with the record unless the last call was a pulse without an end; even then only
a scheduled driver has a schedule. -/
structure Tracks (d : Driver) (last : Option Stamp) (ticked : Option Span) : Prop where
  scheduled : d.schedule.isSome → d.status = .scheduled
  agrees : endless last = false → d.Matches last ticked

theorem tracks_of_off {d : Driver} (off : d.status = .off) (bare : d.schedule = none)
    {last : Option Stamp} {ticked : Option Span}
    (dark : endless last = false → Dark d.number last ticked) : d.Tracks last ticked := by
  refine ⟨by simp [bare], fun ends => ⟨?_, by simp [off, bare]⟩⟩
  rw [Follows, off]
  exact dark ends

variable {ticking : Prop} {now : Span} {d d' : Driver} {last : Option Stamp}
  {ticked ticked' : Option Span} {call : Option DriverCall}

theorem Matches.later (h : d.Matches last ticked)
    (later : ∀ t, ticked = some t → ∃ t', ticked' = some t' ∧ t ≤ t') : d.Matches last ticked' := by
  refine ⟨?_, h.scheduled_iff⟩
  have follows := h.follows
  rw [Follows] at follows ⊢
  cases hstatus : d.status with
  | off =>
    rw [hstatus] at follows
    exact Dark.later follows later
  | pulsing _ | held | pattern _ _ | scheduled =>
    rw [hstatus] at follows
    exact follows

/-- One change keeps the model on the track of the record. -/
theorem Tracks.change (h : d.Tracks last ticked) (change : d.Change ticking now call d')
    (later : ∀ t, ticked = some t → ∃ t', ticked' = some t' ∧ t ≤ t')
    (present : ticking → ticked' = some now) :
    d'.Tracks ((call.map (Prod.mk now)).or last) ticked' := by
  cases change with
  | stay => exact ⟨h.scheduled, fun ends => (h.agrees ends).later later⟩
  | hold => exact ⟨by simp, fun _ => ⟨⟨now, rfl⟩, by simp⟩⟩
  | pulse long adds => exact ⟨by simp, fun _ => ⟨⟨_, long, rfl, adds⟩, by simp⟩⟩
  | @overrun ms long ends =>
    have hendless : endless (some (now, .pulse d.number ms)) = true := by
      simp [endless, long, ends]
    exact ⟨by simp, fun hends => nomatch hendless.symm.trans hends⟩
  | disable => exact tracks_of_off rfl rfl fun _ => .inr (.inl ⟨now, rfl⟩)
  | patter onMs offMs firstMs => exact ⟨by simp, fun _ => ⟨⟨now, firstMs, rfl⟩, by simp⟩⟩
  | schedule mask cycles => exact ⟨by simp, fun _ => ⟨trivial, by simp⟩⟩
  | @lapse ends ticks pulsing ended =>
    have bare : d.schedule = none := by
      by_contra hsome
      have hscheduled := h.scheduled (Option.isSome_iff_ne_none.mpr hsome)
      exact nomatch pulsing.symm.trans hscheduled
    refine tracks_of_off (d := d.enter .off ends) rfl bare fun hends => ?_
    have follows := (h.agrees hends).follows
    rw [Follows, pulsing] at follows
    obtain ⟨ms, long, hlast, hadd⟩ := follows
    exact .inr (.inr ⟨d.lastChanged, ms, ends, now, hlast, long, hadd, present ticks, ended⟩)
  | turn on runs =>
    have hscheduled : d.status = .scheduled := h.scheduled (by simp [runs])
    refine ⟨fun _ => hscheduled, fun _ => ⟨?_, by simp [hscheduled]⟩⟩
    rw [Follows, hscheduled]
    trivial

end Driver

/-! ### Ledgers -/

/-- The drivers of a table with their bench. Beside them a log has each call that the board has
taken, with its time, and it is kept when the drivers were last brought up to the present. -/
structure Ledger where
  bank : DriverBank
  bench : Bench
  log : List Stamp := []
  ticked : Option Span := none

namespace Ledger

/-- How an errand ends. -/
def outcome (l : Ledger) (now : Span) (e : Errand) : Outcome DriverError Unit :=
  (e.act now (l.bank, l.bench)).1

/-- The ledger after an errand: calls that are new on the board's record are logged for that time.
-/
def run (l : Ledger) (now : Span) (e : Errand) : Ledger :=
  let s := (e.act now (l.bank, l.bench)).2
  let calls := s.2.board.calls.toList.drop l.bench.board.calls.size
  { bank := s.1
    bench := s.2
    log := l.log ++ calls.map (Prod.mk now)
    ticked := if e = .tick then some now else l.ticked }

/-- The ledger after a sequence of errands, each with its time. -/
def after (l : Ledger) (history : List (Span × Errand)) : Ledger :=
  history.foldl (fun l x => l.run x.1 x.2) l

/-- The calls for a driver on the log. -/
def callsFor (l : Ledger) (number : Nat) : List Stamp := l.log.filter fun x => x.2.driver = number

/-- The last call for a driver on the log. -/
def last? (l : Ledger) (number : Nat) : Option Stamp := (l.callsFor number).getLast?

theorem after_append (l : Ledger) (first rest : List (Span × Errand)) :
    l.after (first ++ rest) = (l.after first).after rest := List.foldl_append

theorem after_concat (l : Ledger) (history : List (Span × Errand)) (x : Span × Errand) :
    l.after (history ++ [x]) = (l.after history).run x.1 x.2 := l.after_append history [x]

theorem coherent_run {l : Ledger} (coherent : l.bank.drivers.Coherent) (now : Span) (e : Errand) :
    (l.run now e).bank.drivers.Coherent ∧ (l.run now e).bank.drivers.plan = l.bank.drivers.plan := by
  have hfixed : DriverBank.fixed (e.act now (l.bank, l.bench)).2 =
      DriverBank.fixed (l.bank, l.bench) := e.fixed_act now (l.bank, l.bench)
  have hplan : (l.run now e).bank.drivers.plan = l.bank.drivers.plan := congrArg Prod.fst hfixed
  exact ⟨coherent.of_plan hplan, hplan⟩

/-- An errand logs the calls that are new on the record, and extends the log of each driver by the
call of what happens to it. -/
theorem run_spec {l : Ledger} (coherent : l.bank.drivers.Coherent) (now : Span) (e : Errand) :
    (l.log.map Prod.snd = l.bench.board.calls.toList →
      (l.run now e).log.map Prod.snd = (l.run now e).bench.board.calls.toList) ∧
    ∀ n d, l.bank.get? n = some d → ∃ call d', (l.run now e).bank.get? n = some d' ∧
      d.Change (e = .tick) now call d' ∧
      (l.run now e).callsFor n = l.callsFor n ++ (call.map (Prod.mk now)).toList := by
  obtain ⟨calls, hcalls, steps⟩ := e.steps_act now (s := (l.bank, l.bench)) coherent
  have hlog : (l.run now e).log = l.log ++ calls.map (Prod.mk now) := by
    have hdrop : (l.run now e).bench.board.calls.toList.drop l.bench.board.calls.size = calls := by
      have hrecord : (l.run now e).bench.board.calls.toList =
        l.bench.board.calls.toList ++ calls := hcalls
      rw [hrecord, ← Array.length_toList, List.drop_left]
    exact congrArg (fun calls => l.log ++ calls.map (Prod.mk now)) hdrop
  refine ⟨fun hrecord => ?_, fun n d hget => ?_⟩
  · rw [hlog, List.map_append, hrecord, List.map_map]
    have hsnd : calls.map (Prod.snd ∘ Prod.mk now) = calls := List.map_id calls
    rw [hsnd]
    exact hcalls.symm
  · obtain ⟨call, d', hget', change, hfilter⟩ := steps n d hget
    refine ⟨call, d', hget', change, ?_⟩
    have hnew : ((calls.map (Prod.mk now)).filter fun x => x.2.driver = n) =
        (calls.filter fun c => c.driver = n).map (Prod.mk now) := List.filter_map
    rw [callsFor, hlog, List.filter_append, hnew, hfilter]
    cases call <;> rfl

/-- Errands from a new ledger at times that do not go back. -/
structure Orderly (l : Ledger) (history : List (Span × Errand)) : Prop where
  new : l.bank.New
  unused : l.bench.board.calls = #[]
  blank : l.log = [] ∧ l.ticked = none
  ordered : history.Pairwise fun x y => x.1 ≤ y.1

variable {l : Ledger} {history : List (Span × Errand)}

/-- What is true of errands is true of those before the last. -/
theorem Orderly.before_last {x : Span × Errand} (h : l.Orderly (history ++ [x])) :
    l.Orderly history ∧ ∀ y ∈ history, y.1 ≤ x.1 := by
  obtain ⟨hordered, -, hlast⟩ := List.pairwise_append.mp h.ordered
  exact ⟨⟨h.new, h.unused, h.blank, hordered⟩, fun y hy => hlast y hy x List.mem_cons_self⟩

/-- The drivers were last brought up to the present at one of the times. -/
theorem mem_of_ticked (blank : l.ticked = none) {t : Span}
    (h : (l.after history).ticked = some t) : ∃ x ∈ history, x.1 = t := by
  induction history using List.reverseRecOn with
  | nil => exact nomatch blank.symm.trans h
  | append_singleton before x ih =>
    rw [after_concat] at h
    by_cases hticks : x.2 = .tick
    · have hnow : x.1 = t := Option.some.inj ((if_pos hticks).symm.trans h)
      exact ⟨x, List.mem_append_right _ List.mem_cons_self, hnow⟩
    · obtain ⟨y, hy, htime⟩ := ih ((if_neg hticks).symm.trans h)
      exact ⟨y, List.mem_append_left _ hy, htime⟩

theorem coherent_after (coherent : l.bank.drivers.Coherent) (history : List (Span × Errand)) :
    (l.after history).bank.drivers.Coherent := by
  induction history generalizing l with
  | nil => exact coherent
  | cons x rest ih => exact ih (coherent_run coherent x.1 x.2).1

namespace Orderly
variable {x : Span × Errand}

/-- What the last of some errands did to a driver, and to its log. -/
theorem last_step (h : l.Orderly (history ++ [x])) {n : Nat} {d' : Driver}
    (hget' : (l.after (history ++ [x])).bank.get? n = some d') :
    ∃ d call, (l.after history).bank.get? n = some d ∧ d.number = n ∧
      d.Change (x.2 = .tick) x.1 call d' ∧
      (l.after (history ++ [x])).callsFor n =
        (l.after history).callsFor n ++ (call.map (Prod.mk x.1)).toList ∧
      (l.after (history ++ [x])).last? n =
        (call.map (Prod.mk x.1)).or ((l.after history).last? n) := by
  have coherent := coherent_after h.new.coherent history
  rw [after_concat] at hget' ⊢
  have hsome : ((l.after history).bank.drivers.get? n).isSome :=
    Registry.isSome_get?_of_plan (coherent_run coherent x.1 x.2).2.symm
      (Option.isSome_of_eq_some hget')
  obtain ⟨d, hget⟩ := Option.isSome_iff_exists.mp hsome
  obtain ⟨call, d'', hget'', change, hcalls⟩ := (run_spec coherent x.1 x.2).2 n d hget
  obtain rfl : d'' = d' := Option.some.inj (hget''.symm.trans hget')
  refine ⟨d, call, hget, (coherent.get?_iff.mp hget).2, change, hcalls, ?_⟩
  rw [last?, hcalls, List.getLast?_append, last?]
  cases call <;> rfl

/-- The drivers are never brought up to a time before the last. -/
theorem ticked_later (h : l.Orderly (history ++ [x])) (t : Span)
    (ht : (l.after history).ticked = some t) :
    ∃ t', (l.after (history ++ [x])).ticked = some t' ∧ t ≤ t' := by
  obtain ⟨y, hy, htime⟩ := mem_of_ticked h.blank.2 ht
  have hle : t ≤ x.1 := htime ▸ h.before_last.2 y hy
  rw [after_concat]
  by_cases hticks : x.2 = .tick
  · exact ⟨x.1, if_pos hticks, hle⟩
  · exact ⟨t, (if_neg hticks).trans ht, Nat.le_refl _⟩

/-- After orderly errands every driver is on the track of the record. -/
theorem tracks (h : l.Orderly history) {n : Nat} {d : Driver}
    (hget : (l.after history).bank.get? n = some d) :
    d.Tracks ((l.after history).last? n) (l.after history).ticked := by
  induction history using List.reverseRecOn generalizing d with
  | nil =>
    have hmem : d ∈ l.bank.toList := (h.new.coherent.get?_iff.mp hget).1
    obtain ⟨off, bare⟩ := h.new.off d hmem
    refine Driver.tracks_of_off off bare fun _ => .inl ?_
    simp [after, last?, callsFor, h.blank.1]
  | append_singleton history x ih =>
    obtain ⟨d₀, call, hget₀, -, change, -, hlast⟩ := h.last_step hget
    rw [hlast]
    refine (ih h.before_last.1 hget₀).change change h.ticked_later fun hticks => ?_
    rw [after_concat]
    exact if_pos hticks

/-- The log is the record with times. -/
theorem record (h : l.Orderly history) :
    (l.after history).log.map Prod.snd = (l.after history).bench.board.calls.toList := by
  induction history using List.reverseRecOn with
  | nil => simp [after, h.blank.1, h.unused]
  | append_singleton history x ih =>
    rw [after_concat]
    have coherent := coherent_after h.new.coherent history
    exact (run_spec coherent x.1 x.2).1 (ih h.before_last.1)

end Orderly

/-- The host's model of the drivers agrees with what was sent to the board. Over any errands at
times that do not go back, with faults wherever they fall: the log has the calls on the board's
record in order; every driver agrees with the last call for it, if that is not a pulse that ends
past the last time there is; and an errand that fails leaves the driver it struck as it was. -/
theorem model_follows_record (h : l.Orderly history) :
    (l.after history).log.map Prod.snd = (l.after history).bench.board.calls.toList ∧
      (∀ d ∈ (l.after history).bank.toList, endless ((l.after history).last? d.number) = false →
        d.Matches ((l.after history).last? d.number) (l.after history).ticked) ∧
      ∀ before now e later error, history = before ++ (now, e) :: later →
        (l.after before).outcome now e = .error error →
        e.Stops now ((l.after before).bank, (l.after before).bench) := by
  refine ⟨h.record, fun d hd => (h.tracks ?_).agrees,
    fun before now e later error _ failed => Errand.stops_of_error failed⟩
  exact (coherent_after h.new.coherent history).get?_iff.mpr ⟨hd, rfl⟩

/-- A bank with a driver that the board times and one that the host times. -/
def twoDrivers : DriverBank where
  drivers := {
    items := [{ number := 5, name := "trough", pulseMs := 30 },
      { number := 6, name := "flasher", pulseMs := 20, isVirtual := true }]
    byNumber := [(6, 1), (5, 0)]
    byName := [("flasher", 1), ("trough", 0)] }

theorem new_twoDrivers : twoDrivers.New := by
  have first := DriverBank.New.empty.insert (d := { number := 5, name := "trough", pulseMs := 30 })
    rfl rfl rfl
  exact first.insert (d := { number := 6, name := "flasher", pulseMs := 20, isVirtual := true })
    rfl rfl rfl

/-- Both drivers agree with the record after one was pulsed, and a fault struck as the other was to
be turned off by its schedule. -/
theorem two_drivers_follow_record :
    ∃ (l : Ledger) (history : List (Span × Errand)), l.bank = twoDrivers ∧ l.Orderly history ∧
      (l.after history).last? 5 = some (.zero, .pulse 5 30) ∧
      (l.after history).last? 6 = some (.zero, .pulse 6 0) ∧
      ∀ d ∈ (l.after history).bank.toList,
        d.Matches ((l.after history).last? d.number) (l.after history).ticked := by
  let l : Ledger := { bank := twoDrivers, bench := { mishaps := [(2, .fault .closed)] } }
  let history : List (Span × Errand) :=
    [(.zero, .order (.pulse "trough" 30)), (.zero, .hold 6),
      (.zero, .order (.schedule "flasher" 0 none)), (.ofMillis 30, .tick)]
  have orderly : l.Orderly history := ⟨new_twoDrivers, rfl, ⟨rfl, rfl⟩, by decide⟩
  have hends : ∀ d ∈ (l.after history).bank.toList,
      endless ((l.after history).last? d.number) = false := by decide +kernel
  exact ⟨l, history, rfl, orderly, by decide +kernel, by decide +kernel, fun d hd =>
    (model_follows_record orderly).2.1 d hd (hends d hd)⟩

/-- A driver that is off was last pulsed for a time that never ends: at the last time there is the
pulse panicked once the board had taken it, and left the driver off. -/
theorem endless_pulse_lost :
    ∃ (l : Ledger) (history : List (Span × Errand)), l.bank = twoDrivers ∧ l.Orderly history ∧
      history = [(⟨Span.bound - 1⟩, .order (.pulse "trough" 30)), (⟨Span.bound - 1⟩, .tick)] ∧
      ∃ d ∈ (l.after history).bank.toList, d.status = .off ∧
        ¬ Dark d.number ((l.after history).last? d.number) (l.after history).ticked := by
  let l : Ledger := { bank := twoDrivers, bench := {} }
  let history : List (Span × Errand) :=
    [(⟨Span.bound - 1⟩, .order (.pulse "trough" 30)), (⟨Span.bound - 1⟩, .tick)]
  have orderly : l.Orderly history := ⟨new_twoDrivers, rfl, ⟨rfl, rfl⟩, by decide⟩
  have hlast : (l.after history).last? 5 = some (⟨Span.bound - 1⟩, .pulse 5 30) := by
    decide +kernel
  refine ⟨l, history, rfl, orderly, rfl, { number := 5, name := "trough", pulseMs := 30 },
    by decide +kernel, rfl, ?_⟩
  rw [hlast]
  rintro (hnone | ⟨t, hoff⟩ | ⟨t, ms, ends, tick, hpulse, -, hends, -⟩)
  · exact nomatch hnone
  · exact nomatch hoff
  · cases hpulse
    exact nomatch hends

end Ledger

end Playfield
