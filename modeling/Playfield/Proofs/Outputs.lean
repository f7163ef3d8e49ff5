import Playfield.Proofs.BoardRules
import Playfield.Proofs.Registry

/-!
# Orders to drivers

An order changes what a driver does and never its number or name, and it writes no rule. So the
numbers and names of a driver bank stay as they are, whatever is ordered and however it ends. A
driver that was turned off without a failure is off in the model, and the last call for it that the
board has taken turns it off.
-/
namespace Playfield

/-! ### What no order changes -/

namespace Driver

/-- The driver's number and name, and the rules on the board. -/
abbrev fixed (s : Driver × Bench) : (Nat × String) × RuleTable × Nat :=
  ((s.1.number, s.1.name), s.2.board.ruling)

theorem fixed_send (c : DriverCall) (f : Driver → Driver)
    (hf : ∀ d, (f d).number = d.number ∧ (f d).name = d.name := by exact fun _ => ⟨rfl, rfl⟩) :
    (send c f).Keeps fixed := by
  intro state
  obtain ⟨d, b⟩ := state
  have h := (Bench.drive_spec c b).1
  simp only [send]
  split <;> rename_i hdrive <;> rw [hdrive] at h
  · simp only [fixed, (hf d).1, (hf d).2]
    exact congrArg (Prod.mk _) h
  · exact congrArg (Prod.mk _) h
  · exact congrArg (Prod.mk _) h

theorem fixed_pulse (ms : Nat) (now : Span) : (pulse ms now).Keeps fixed := by
  intro state
  obtain ⟨d, b⟩ := state
  simp only [pulse]
  split
  · exact (fixed_send _ _) (d, b)
  · split
    · exact (fixed_send _ _) (d, b)
    · have h := (fixed_send (.pulse d.number ms) fun d => { d with schedule := none }) (d, b)
      split
      · rename_i hs; rw [hs] at h; exact h
      · exact h

theorem fixed_disable (now : Span) : (disable now).Keeps fixed :=
  fun (d, b) => (fixed_send _ _) (d, b)

theorem fixed_patter (onMs offMs firstMs : Nat) (now : Span) :
    (patter onMs offMs firstMs now).Keeps fixed :=
  fun (d, b) => (fixed_send _ _) (d, b)

theorem fixed_tick (now : Span) : (tick now).Keeps fixed := by
  intro state
  obtain ⟨d, b⟩ := state
  simp only [tick]
  split
  · split <;> rfl
  · split
    · rfl
    · split
      · exact fixed_disable now (d, b)
      · split
        · exact (fixed_send _ _) (d, b)
        · rfl

end Driver

theorem Order.fixed_act (o : Order) (now : Span) : (o.act now).Keeps Driver.fixed := by
  cases o with
  | pulse _ ms => exact (Driver.fixed_pulse ms now).mapError _
  | pulseDefault _ => exact fun (d, b) => (Driver.fixed_pulse d.pulseMs now).mapError _ (d, b)
  | disable _ => exact (Driver.fixed_disable now).mapError _
  | patter _ onMs offMs firstMs => exact (Driver.fixed_patter onMs offMs firstMs now).mapError _
  | schedule _ mask cycles =>
    intro state
    obtain ⟨d, b⟩ := state
    simp only [Order.act]
    split
    · rename_i d' hstart
      simp only [Driver.startSchedule] at hstart
      split at hstart
      · cases hstart
        rfl
      · cases hstart
    · rfl

namespace DriverBank

/-- The numbers and names of all drivers, and the rules on the board. -/
abbrev fixed (s : DriverBank × Bench) :
    (List (Nat × Nat) × List (String × Nat) × List (Nat × String)) × RuleTable × Nat :=
  (s.1.drivers.plan, s.2.board.ruling)

/-- The ending of a computation on the driver in a slot, with the driver put back. -/
def putBack {ε : Type} (bank : DriverBank) (slot : Nat) (r : Outcome ε Unit × Driver × Bench) :
    Outcome ε Unit × DriverBank × Bench :=
  (r.1, ⟨bank.drivers.modify slot fun _ => r.2.1⟩, r.2.2)

theorem obey_cases (o : Order) (now : Span) (bank : DriverBank) (b : Bench) :
    (∃ slot d, bank.drivers.items[slot]? = some d ∧
        obey o now (bank, b) = bank.putBack slot (o.act now (d, b))) ∨
      obey o now (bank, b) = (.error (.unknown o.driver), bank, b) := by
  simp only [obey]
  split
  · rename_i slot d hslot hfind
    refine .inl ⟨slot, d, ?_, rfl⟩
    simpa only [find?, Registry.find?, hslot, Option.bind_some] using hfind
  · exact .inr rfl

theorem byNumber_cases (number : Nat) (x : Act Fault (Driver × Bench) Unit) (c : DriverCall)
    (bank : DriverBank) (b : Bench) :
    (∃ slot d, bank.drivers.items[slot]? = some d ∧
        byNumber number x c (bank, b) = bank.putBack slot (x (d, b))) ∨
      bank.get? number = none ∧
        byNumber number x c (bank, b) = ((Bench.drive c b).1, bank, (Bench.drive c b).2) := by
  simp only [byNumber]
  split
  · rename_i slot d hslot hget
    refine .inl ⟨slot, d, ?_, rfl⟩
    simpa only [get?, Registry.get?, hslot, Option.bind_some] using hget
  · rename_i hnone
    refine .inr ⟨Option.eq_none_iff_forall_ne_some.mpr fun d hget => ?_, rfl⟩
    obtain ⟨slot, hslot, -⟩ := Option.bind_eq_some_iff.mp hget
    exact hnone slot d hslot hget

/-- Acting on the driver in a slot keeps the bank's plan if it keeps the driver's number and name.
-/
theorem fixed_putBack {ε : Type} {bank : DriverBank} {slot : Nat} {d : Driver} {b : Bench}
    (hslot : bank.drivers.items[slot]? = some d) {x : Act ε (Driver × Bench) Unit}
    (hx : x.Keeps Driver.fixed) : fixed (bank.putBack slot (x (d, b))).2 = fixed (bank, b) := by
  have h : Driver.fixed (x (d, b)).2 = Driver.fixed (d, b) := hx (d, b)
  have hids : ((x (d, b)).2.1.number, (x (d, b)).2.1.name) = (d.number, d.name) :=
    congrArg Prod.fst h
  have hplan := Registry.plan_modify bank.drivers slot (fun _ => (x (d, b)).2.1) (by
    intro item hitem
    rw [hslot] at hitem
    cases hitem
    exact ⟨congrArg Prod.fst hids, congrArg Prod.snd hids⟩)
  have hruling : (x (d, b)).2.2.board.ruling = b.board.ruling := congrArg Prod.snd h
  exact Prod.ext hplan hruling

theorem fixed_obey (o : Order) (now : Span) : (obey o now).Keeps fixed := by
  intro state
  obtain ⟨bank, b⟩ := state
  rcases obey_cases o now bank b with ⟨slot, d, hslot, hobey⟩ | hobey <;> rw [hobey]
  exact fixed_putBack hslot (o.fixed_act now)

theorem fixed_byNumber {x : Act Fault (Driver × Bench) Unit} (hx : x.Keeps Driver.fixed)
    (number : Nat) (c : DriverCall) : (byNumber number x c).Keeps fixed := by
  intro state
  obtain ⟨bank, b⟩ := state
  rcases byNumber_cases number x c bank b with ⟨slot, d, hslot, hdone⟩ | ⟨-, hdone⟩ <;> rw [hdone]
  · exact fixed_putBack hslot hx
  · exact congrArg (Prod.mk _) (Bench.drive_spec c b).1

theorem fixed_holdNumber (number : Nat) (now : Span) : (holdNumber number now).Keeps fixed :=
  fixed_byNumber (Driver.fixed_pulse 0 now) _ _

theorem fixed_disableNumber (number : Nat) (now : Span) : (disableNumber number now).Keeps fixed :=
  fixed_byNumber (Driver.fixed_disable now) _ _

theorem fixed_tickList (now : Span) (ds : List Driver) (b : Bench) :
    ((tickList now ds b).2.1.map fun d => (d.number, d.name)) =
        ds.map (fun d => (d.number, d.name)) ∧
      (tickList now ds b).2.2.board.ruling = b.board.ruling := by
  induction ds generalizing b with
  | nil => exact ⟨rfl, rfl⟩
  | cons d rest ih =>
    have h : Driver.fixed (Driver.tick now (d, b)).2 = Driver.fixed (d, b) :=
      Driver.fixed_tick now (d, b)
    rcases htick : Driver.tick now (d, b) with ⟨outcome, d', b'⟩
    rw [htick] at h
    have hids : (d'.number, d'.name) = (d.number, d.name) := congrArg Prod.fst h
    have hruling : b'.board.ruling = b.board.ruling := congrArg Prod.snd h
    simp only [tickList, htick]
    cases outcome with
    | ok value =>
      exact ⟨by rw [List.map_cons, List.map_cons, (ih b').1, hids], (ih b').2.trans hruling⟩
    | error f => exact ⟨by rw [List.map_cons, List.map_cons, hids], hruling⟩
    | panic message => exact ⟨by rw [List.map_cons, List.map_cons, hids], hruling⟩

theorem fixed_tick (now : Span) : (tick now).Keeps fixed := by
  intro state
  obtain ⟨bank, b⟩ := state
  obtain ⟨hids, hruling⟩ := fixed_tickList now bank.toList b
  have hplan : Registry.plan { bank.drivers with items := (tickList now bank.toList b).2.1 } =
      bank.drivers.plan := congrArg (fun ids => (_, _, ids)) hids
  exact Prod.ext hplan hruling

/-! ### Turning drivers off -/

/-- A driver of this number is in the bank. -/
def Has (bank : DriverBank) (number : Nat) : Prop := (bank.get? number).isSome

/-- The last call for a driver that the board has taken. -/
def lastCall? (calls : Array DriverCall) (number : Nat) : Option DriverCall :=
  (calls.filter fun c => c.driver = number).back?

theorem lastCall?_push (calls : Array DriverCall) (c : DriverCall) (number : Nat) :
    lastCall? (calls.push c) number =
      if c.driver = number then some c else lastCall? calls number := by
  simp only [lastCall?]
  split
  · rw [Array.filter_push_of_pos (by simpa) (Array.size_push _), Array.back?_push]
  · rw [Array.filter_push_of_neg (by simpa) (Array.size_push _)]

/-- A driver of this number is off in the model, and was turned off last on the board. -/
structure Off (s : DriverBank × Bench) (number : Nat) : Prop where
  last : lastCall? s.2.board.calls number = some (.disable number)
  status : ∃ d, s.1.get? number = some d ∧ d.status = .off

/-- Turning a driver off, if it goes well, changes that driver and makes one call. -/
theorem disableNumber_ok {number : Nat} {now : Span} {d : Driver} {s t : DriverBank × Bench}
    (coherent : s.1.drivers.Coherent) (hget : s.1.get? number = some d)
    (h : disableNumber number now s = (.ok (), t)) :
    t.1.drivers = (s.1.drivers.modifyNumber number fun _ =>
        { d with schedule := none }.enter .off now) ∧
      t.2.board.calls = s.2.board.calls.push (.disable number) := by
  obtain ⟨bank, b⟩ := s
  obtain ⟨slot, hslot, -⟩ := Option.bind_eq_some_iff.mp hget
  obtain rfl : d.number = number := (coherent.get?_iff.mp hget).2
  have hcalls := (Bench.drive_spec (.disable d.number) b).2
  rcases hdrive : Bench.drive (.disable d.number) b with ⟨outcome, b'⟩
  rw [hdrive] at hcalls
  have hslot : bank.drivers.slotOfNumber? d.number = some slot := hslot
  have hget : bank.get? d.number = some d := hget
  simp only [disableNumber, byNumber, hslot, hget, Driver.disable, Driver.send, hdrive] at h
  cases outcome with
  | ok value =>
    obtain rfl : (⟨bank.drivers.modify slot fun _ =>
      { d with schedule := none }.enter .off now⟩, b') = t := congrArg Prod.snd h
    refine ⟨?_, hcalls⟩
    simp only [Registry.modifyNumber, hslot]
  | error f => cases congrArg Prod.fst h
  | panic message => cases congrArg Prod.fst h

/-- Turning a driver off, if it goes well, turns it off and leaves off what is off. -/
theorem off_disableNumber {number : Nat} {now : Span} {s t : DriverBank × Bench}
    (coherent : s.1.drivers.Coherent) (has : s.1.Has number)
    (h : disableNumber number now s = (.ok (), t)) :
    Off t number ∧ ∀ other, Off s other → Off t other := by
  obtain ⟨d, hget⟩ := Option.isSome_iff_exists.mp has
  obtain ⟨hbank, hcalls⟩ := disableNumber_ok coherent hget h
  have hoff : Off t number := by
    refine ⟨?_, { d with schedule := none }.enter .off now, ?_, rfl⟩
    · rw [hcalls, lastCall?_push]
      exact if_pos rfl
    · rw [DriverBank.get?, hbank]
      exact Registry.get?_modifyNumber hget _
  refine ⟨hoff, fun other hother => ?_⟩
  by_cases hsame : other = number
  · exact hsame ▸ hoff
  · obtain ⟨d', hget', hstatus⟩ := hother.status
    refine ⟨?_, d', ?_, hstatus⟩
    · rw [hcalls, lastCall?_push]
      exact (if_neg (Ne.symm hsame)).trans hother.last
    · rw [DriverBank.get?, hbank]
      exact (coherent.get?_modifyNumber_ne hsame _).trans hget'

/-- Turning off a list of drivers, if it goes well, leaves each of them off. -/
theorem off_each {numbers : List Nat} {now : Span} {s t : DriverBank × Bench}
    (coherent : s.1.drivers.Coherent) (has : ∀ n ∈ numbers, s.1.Has n)
    (h : Act.each (fun n => disableNumber n now) numbers s = (.ok (), t)) :
    ∀ n, n ∈ numbers ∨ Off s n → Off t n := by
  induction numbers generalizing s with
  | nil =>
    cases h
    exact fun n hn => hn.resolve_left List.not_mem_nil
  | cons number rest ih =>
    obtain ⟨⟨⟩, mid, hfirst, hrest⟩ := Act.bind_eq_ok h
    obtain ⟨hnumber, hkeep⟩ := off_disableNumber coherent (has number List.mem_cons_self) hfirst
    have hfirst : disableNumber number now s = (.ok (), mid) := hfirst
    have hfixed : fixed (disableNumber number now s).2 = fixed s := fixed_disableNumber number now s
    rw [hfirst] at hfixed
    have hplan : mid.1.drivers.plan = s.1.drivers.plan := congrArg Prod.fst hfixed
    have hthen := ih (coherent.of_plan hplan)
      (fun n hn => Registry.isSome_get?_of_plan hplan (has n (List.mem_cons_of_mem _ hn))) hrest
    rintro n (hn | hn)
    · rcases List.mem_cons.mp hn with rfl | hn
      · exact hthen n (.inr hnumber)
      · exact hthen n (.inl hn)
    · exact hthen n (.inr (hkeep n hn))

end DriverBank

end Playfield
