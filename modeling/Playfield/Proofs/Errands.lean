import Playfield.Proofs.DriverSteps

/-!
# Errands to the drivers of a table

An errand is one of the things that are done with a driver bank: an order by name, holding on or
turning off by number, bringing all drivers up to the present; and a fault may be injected before
any of them. An errand does one of a few things to each driver, and adds to the board's record the
calls for those drivers. A failure leaves the driver it struck as it was.
-/
namespace Playfield

/-- Something done with the drivers of a table. -/
inductive Errand where
  | order (o : Order)
  | hold (number : Nat)
  | disable (number : Nat)
  | tick
  /-- Make the board's next call fail. -/
  | inject (fault : Fault)
  deriving DecidableEq, Repr

namespace Errand

/-- Do an errand. -/
def act (e : Errand) (now : Span) : Act DriverError (DriverBank × Bench) Unit :=
  match e with
  | .order o => DriverBank.obey o now
  | .hold number => (DriverBank.holdNumber number now).mapError .board
  | .disable number => (DriverBank.disableNumber number now).mapError .board
  | .tick => (DriverBank.tick now).mapError .board
  | .inject fault => .second (.modify fun b => { b with board := b.board.inject fault })

theorem fixed_act (e : Errand) (now : Span) : (e.act now).Keeps DriverBank.fixed := by
  cases e with
  | order o => exact DriverBank.fixed_obey o now
  | hold number => exact (DriverBank.fixed_holdNumber number now).mapError _
  | disable number => exact (DriverBank.fixed_disableNumber number now).mapError _
  | tick => exact (DriverBank.fixed_tick now).mapError _
  | inject fault => exact fun _ => rfl

end Errand

namespace DriverBank
variable {ticking : Prop} {now : Span}

/-- Each driver of a bank did one of the things drivers do, with just those of the calls that are
for it. -/
def Steps (ticking : Prop) (now : Span) (bank : DriverBank) (calls : List DriverCall)
    (bank' : DriverBank) : Prop :=
  ∀ n d, bank.get? n = some d → ∃ call d', bank'.get? n = some d' ∧
    d.Change ticking now call d' ∧ (calls.filter fun c => c.driver = n) = call.toList

theorem steps_refl (bank : DriverBank) : Steps ticking now bank [] bank :=
  fun _ d h => ⟨none, d, h, .stay, rfl⟩

variable {bank : DriverBank} {slot : Nat} {d d' : Driver}

/-- A change of the driver in one slot leaves the other drivers alone. -/
theorem steps_slot (coherent : bank.drivers.Coherent) (hslot : bank.drivers.items[slot]? = some d)
    {call : Option DriverCall} (change : d.Change ticking now call d') :
    Steps ticking now bank call.toList ⟨bank.drivers.modify slot fun _ => d'⟩ := by
  have hnumber : bank.drivers.slotOfNumber? d.number = some slot :=
    (coherent.number_iff d.number slot).mpr ⟨d, hslot, rfl⟩
  have hget : bank.drivers.get? d.number = some d :=
    coherent.get?_iff.mpr ⟨List.mem_of_getElem? hslot, rfl⟩
  have hmodify : (bank.drivers.modify slot fun _ => d') =
      bank.drivers.modifyNumber d.number fun _ => d' := by
    rw [Registry.modifyNumber, hnumber]
  intro n other hother
  rw [hmodify]
  by_cases hsame : n = d.number
  · subst hsame
    obtain rfl : d = other := Option.some.inj (hget.symm.trans hother)
    exact ⟨call, d', Registry.get?_modifyNumber hget _, change, change.filter_own⟩
  · exact ⟨none, other, (coherent.get?_modifyNumber_ne hsame _).trans hother, .stay,
      change.filter_other hsame⟩

/-- What a computation on the driver in a slot does to the bank. -/
theorem steps_putBack {ε : Type} {b : Bench} (coherent : bank.drivers.Coherent)
    (hslot : bank.drivers.items[slot]? = some d) {r : Outcome ε Unit × Driver × Bench}
    (goes : Driver.Goes ticking now (d, b) r) :
    ∃ calls, (bank.putBack slot r).2.2.board.calls.toList = b.board.calls.toList ++ calls ∧
      Steps ticking now bank calls (bank.putBack slot r).2.1 := by
  obtain ⟨call, change, hcalls, -⟩ := goes
  exact ⟨call.toList, hcalls, steps_slot coherent hslot change⟩

theorem steps_obey (o : Order) {s : DriverBank × Bench} (coherent : s.1.drivers.Coherent) :
    ∃ calls, (obey o now s).2.2.board.calls.toList = s.2.board.calls.toList ++ calls ∧
      Steps ticking now s.1 calls (obey o now s).2.1 := by
  obtain ⟨bank, b⟩ := s
  rcases obey_cases o now bank b with ⟨slot, d, hslot, hobey⟩ | hobey <;> rw [hobey]
  · exact steps_putBack coherent hslot (o.goes_act now (d, b))
  · exact ⟨[], (List.append_nil _).symm, steps_refl bank⟩

theorem steps_byNumber {x : Act Fault (Driver × Bench) Unit}
    (goes : ∀ s, Driver.Goes ticking now s (x s)) {number : Nat} {c : DriverCall}
    (hc : c.driver = number) {s : DriverBank × Bench} (coherent : s.1.drivers.Coherent) :
    ∃ calls, (byNumber number x c s).2.2.board.calls.toList =
        s.2.board.calls.toList ++ calls ∧
      Steps ticking now s.1 calls (byNumber number x c s).2.1 := by
  obtain ⟨bank, b⟩ := s
  rcases byNumber_cases number x c bank b with ⟨slot, d, hslot, hdone⟩ | ⟨hnone, hdone⟩ <;>
    rw [hdone]
  · exact steps_putBack coherent hslot (goes (d, b))
  · -- The call is for a number that leads to no driver.
    have hcalls := (Bench.drive_spec c b).2
    split at hcalls
    · refine ⟨[c], by rw [hcalls, Array.toList_push], fun n d hn => ⟨none, d, hn, .stay, ?_⟩⟩
      have hne : c.driver ≠ n := by
        rintro rfl
        rw [hc, hnone] at hn
        exact nomatch hn
      simp [hne]
    · exact ⟨[], by simp [hcalls], steps_refl bank⟩

/-- Each driver of a list did one of the things drivers do, with just those of the calls that are
for it, and is in a second list afterwards. All calls are for drivers of the list. -/
structure ListSteps (ticking : Prop) (now : Span) (ds : List Driver) (calls : List DriverCall)
    (ds' : List Driver) : Prop where
  known : ∀ c ∈ calls, c.driver ∈ ds.map Driver.number
  change : ∀ d ∈ ds, ∃ call, ∃ d' ∈ ds', d.Change ticking now call d' ∧
    (calls.filter fun c => c.driver = d.number) = call.toList

theorem listSteps_refl (ds : List Driver) : ListSteps ticking now ds [] ds :=
  ⟨by simp, fun d hd => ⟨none, d, hd, .stay, rfl⟩⟩

theorem ListSteps.cons {rest rest' : List Driver} {calls : List DriverCall}
    (h : ListSteps ticking now rest calls rest') {call : Option DriverCall}
    (change : d.Change ticking now call d') (fresh : d.number ∉ rest.map Driver.number) :
    ListSteps ticking now (d :: rest) (call.toList ++ calls) (d' :: rest') := by
  refine ⟨fun c hc => ?_, fun other hother => ?_⟩
  · rcases List.mem_append.mp hc with hc | hc
    · exact change.driver hc ▸ List.mem_cons_self
    · exact List.mem_cons_of_mem _ (h.known c hc)
  · rw [List.filter_append]
    rcases List.mem_cons.mp hother with rfl | hother
    · refine ⟨call, d', List.mem_cons_self, change, ?_⟩
      rw [change.filter_own, List.filter_eq_nil_iff.mpr, List.append_nil]
      intro c hc
      simp only [decide_eq_true_eq]
      exact fun hsame => fresh (hsame ▸ h.known c hc)
    · obtain ⟨call', d'', hmem, change', hfilter⟩ := h.change other hother
      have hne : other.number ≠ d.number := fun hsame => fresh (hsame ▸ List.mem_map_of_mem hother)
      refine ⟨call', d'', List.mem_cons_of_mem _ hmem, change', ?_⟩
      rw [hfilter, change.filter_other hne, List.nil_append]

/-- Drivers that are brought up to the present in turn each do one of the things drivers do, those
after a failure nothing. -/
theorem steps_tickList (present : ticking) (now : Span) {ds : List Driver}
    (nodup : (ds.map Driver.number).Nodup) (b : Bench) :
    ∃ calls, (tickList now ds b).2.2.board.calls.toList = b.board.calls.toList ++ calls ∧
      ListSteps ticking now ds calls (tickList now ds b).2.1 := by
  induction ds generalizing b with
  | nil => exact ⟨[], (List.append_nil _).symm, listSteps_refl []⟩
  | cons d rest ih =>
    obtain ⟨hfresh, hrest⟩ := List.nodup_cons.mp nodup
    obtain ⟨call, change, hcalls, -⟩ := Driver.goes_tick present now (d, b)
    rcases htick : Driver.tick now (d, b) with ⟨outcome, d', b'⟩
    rw [htick] at change hcalls
    have untouched : ∃ calls, b'.board.calls.toList = b.board.calls.toList ++ calls ∧
        ListSteps ticking now (d :: rest) calls (d' :: rest) :=
      ⟨call.toList ++ [], by rw [hcalls, List.append_nil],
        (listSteps_refl rest).cons change hfresh⟩
    simp only [tickList, htick]
    cases outcome with
    | ok value =>
      obtain ⟨calls, hcalls', steps⟩ := ih hrest b'
      refine ⟨call.toList ++ calls, ?_, steps.cons change hfresh⟩
      rw [hcalls', hcalls, List.append_assoc]
    | error f => exact untouched
    | panic message => exact untouched

theorem steps_tick (present : ticking) {s : DriverBank × Bench} (coherent : s.1.drivers.Coherent) :
    ∃ calls, (tick now s).2.2.board.calls.toList = s.2.board.calls.toList ++ calls ∧
      Steps ticking now s.1 calls (tick now s).2.1 := by
  obtain ⟨bank, b⟩ := s
  obtain ⟨calls, hcalls, steps⟩ := steps_tickList present now coherent.nodup.1 b
  have hplan : (tick now (bank, b)).2.1.drivers.plan = bank.drivers.plan :=
    congrArg Prod.fst (fixed_tick now (bank, b) : fixed (tick now (bank, b)).2 = fixed (bank, b))
  refine ⟨calls, hcalls, fun n d hn => ?_⟩
  obtain ⟨hd, hnumber⟩ := coherent.get?_iff.mp hn
  obtain ⟨call, d', hd', change, hfilter⟩ := steps.change d hd
  refine ⟨call, d', ?_, change, hnumber ▸ hfilter⟩
  exact (coherent.of_plan hplan).get?_iff.mpr ⟨hd', change.number.trans hnumber⟩

end DriverBank

/-- An errand does one of the things that happen to drivers to each driver of the bank. -/
theorem Errand.steps_act (e : Errand) (now : Span) {s : DriverBank × Bench}
    (coherent : s.1.drivers.Coherent) :
    ∃ calls, (e.act now s).2.2.board.calls.toList = s.2.board.calls.toList ++ calls ∧
      DriverBank.Steps (e = .tick) now s.1 calls (e.act now s).2.1 := by
  cases e with
  | order o => exact DriverBank.steps_obey o coherent
  | hold number =>
    exact DriverBank.steps_byNumber (c := .pulse number 0) (Driver.goes_pulse 0) rfl coherent
  | disable number =>
    exact DriverBank.steps_byNumber (c := .disable number) Driver.goes_disable rfl coherent
  | tick => exact DriverBank.steps_tick rfl coherent
  | inject fault => exact ⟨[], (List.append_nil _).symm, DriverBank.steps_refl s.1⟩

/-! ### Failures -/

namespace DriverBank
variable {now : Span}

/-- A failure of a computation on the driver in a slot leaves the bank as it was. -/
theorem putBack_failed {ε : Type} {bank : DriverBank} {slot : Nat} {d : Driver} {b : Bench}
    (hslot : bank.drivers.items[slot]? = some d) {r : Outcome ε Unit × Driver × Bench}
    (goes : Driver.Goes False now (d, b) r) {e : ε} (failed : (bank.putBack slot r).1 = .error e) :
    (bank.putBack slot r).2.1 = bank := by
  obtain ⟨call, -, -, hsame⟩ := goes
  have hd : r.2.1 = d := hsame e failed
  have hitems : (bank.drivers.items.modify slot fun _ => r.2.1) = bank.drivers.items := by
    refine List.ext_getElem? fun at' => ?_
    rw [List.getElem?_modify, hd]
    by_cases hat : slot = at'
    · subst hat
      simp [hslot]
    · simp [hat]
  simp only [putBack, Registry.modify, hitems]

theorem obey_failed {o : Order} {s : DriverBank × Bench} {e : DriverError}
    (failed : (obey o now s).1 = .error e) : (obey o now s).2.1 = s.1 := by
  obtain ⟨bank, b⟩ := s
  rcases obey_cases o now bank b with ⟨slot, d, hslot, hobey⟩ | hobey <;> rw [hobey] at failed ⊢
  exact putBack_failed hslot (o.goes_act now (d, b)) failed

theorem byNumber_failed {x : Act Fault (Driver × Bench) Unit}
    (goes : ∀ s, Driver.Goes False now s (x s)) {number : Nat} {c : DriverCall}
    {s : DriverBank × Bench} {e : Fault} (failed : (byNumber number x c s).1 = .error e) :
    (byNumber number x c s).2.1 = s.1 := by
  obtain ⟨bank, b⟩ := s
  rcases byNumber_cases number x c bank b with ⟨slot, d, hslot, hdone⟩ | ⟨-, hdone⟩ <;>
    rw [hdone] at failed ⊢
  exact putBack_failed hslot (goes (d, b)) failed

/-- A failure in a list of drivers that are brought up to the present strikes one of them and leaves
it and those after it as they were. -/
theorem tickList_failed {ds : List Driver} {b : Bench} {e : Fault}
    (failed : (tickList now ds b).1 = .error e) : ∃ before d after, ds = before ++ d :: after ∧
      (tickList now before b).1 = .ok () ∧
      (Driver.tick now (d, (tickList now before b).2.2)).1 = .error e ∧
      (tickList now ds b).2.1 = (tickList now before b).2.1 ++ d :: after := by
  induction ds generalizing b with
  | nil => exact nomatch failed
  | cons d rest ih =>
    have goes := Driver.goes_tick trivial now (d, b)
    rcases htick : Driver.tick now (d, b) with ⟨outcome, d', b'⟩
    rw [htick] at goes
    simp only [tickList, htick] at failed
    cases outcome with
    | ok value =>
      obtain ⟨before, struck, after, hsplit, hok, hstruck, hleft⟩ := ih (b := b') failed
      refine ⟨d :: before, struck, after, by rw [hsplit, List.cons_append], ?_⟩
      simp only [tickList, htick, List.cons_append, List.cons.injEq, true_and]
      exact ⟨hok, hstruck, hleft⟩
    | error f =>
      obtain ⟨call, -, -, hsame⟩ := goes
      obtain rfl : d' = d := hsame f rfl
      refine ⟨[], d', rest, rfl, rfl, ?_, by simp only [tickList, htick, List.nil_append]⟩
      simpa only [tickList, htick] using failed
    | panic message => cases failed

end DriverBank

namespace Errand

/-- What is left of a failed errand: the bank as it was, and of bringing the drivers up to the
present the drivers before the one that was struck, which is left as it was with those after it. -/
def Stops (e : Errand) (now : Span) (s : DriverBank × Bench) : Prop :=
  match e with
  | .tick => ∃ before d after fault, s.1.toList = before ++ d :: after ∧
      (DriverBank.tickList now before s.2).1 = .ok () ∧
      (Driver.tick now (d, (DriverBank.tickList now before s.2).2.2)).1 = .error fault ∧
      (e.act now s).2.1.toList = (DriverBank.tickList now before s.2).2.1 ++ d :: after
  | _ => (e.act now s).2.1 = s.1

theorem stops_of_error {e : Errand} {now : Span} {s : DriverBank × Bench} {error : DriverError}
    (failed : (e.act now s).1 = .error error) : e.Stops now s := by
  cases e with
  | order o => exact DriverBank.obey_failed failed
  | hold number =>
    obtain ⟨fault, hfault, -⟩ := Outcome.mapError_eq_error.mp failed
    exact DriverBank.byNumber_failed (Driver.goes_pulse 0) hfault
  | disable number =>
    obtain ⟨fault, hfault, -⟩ := Outcome.mapError_eq_error.mp failed
    exact DriverBank.byNumber_failed Driver.goes_disable hfault
  | tick =>
    obtain ⟨fault, hfault, -⟩ := Outcome.mapError_eq_error.mp failed
    obtain ⟨before, d, after, hsplit, hok, hstruck, hleft⟩ := DriverBank.tickList_failed hfault
    exact ⟨before, d, after, fault, hsplit, hok, hstruck, hleft⟩
  | inject fault => exact nomatch failed

end Errand

end Playfield
