import Playfield.Cabinet
import Playfield.FlipperRules
import Playfield.HoldQueue
import Playfield.Proofs.Mirrors

/-!
# Benches that differ in remarks on errors only

A failed callback leaves a remark of the gravest kind in the journal. Two benches are alike if they
differ in such remarks only. Nothing that is done with the board, the drivers, the flipper rules or
the held handlers looks at the journal, so on benches that are alike it goes alike.
-/
namespace Playfield

/-- The entry is a remark on an error. -/
def Entry.isError : Entry → Bool
  | .remark .error _ => true
  | _ => false

namespace Bench

/-- The journal without remarks on errors. -/
def record (b : Bench) : List Entry := b.journal.toList.filter fun e => !e.isError

/-- Apart from remarks on errors the benches are the same. -/
structure Alike (b c : Bench) : Prop where
  board : b.board = c.board
  mishaps : b.mishaps = c.mishaps
  closeFault : b.closeFault = c.closeFault
  record : b.record = c.record

theorem record_enter (e : Entry) (b : Bench) :
    (b.enter e).record = b.record ++ if e.isError then [] else [e] := by
  simp only [record, enter, Array.toList_push, List.filter_append]
  cases h : e.isError <;> simp [h]

namespace Alike
variable {b c : Bench}

theorem refl (b : Bench) : b.Alike b := ⟨rfl, rfl, rfl, rfl⟩

theorem enter (h : b.Alike c) (e : Entry) : (b.enter e).Alike (c.enter e) :=
  ⟨h.board, h.mishaps, h.closeFault, by rw [record_enter, record_enter, h.record]⟩

theorem remark (h : b.Alike c) (severity : Severity) (text : String) :
    (b.remark severity text).Alike (c.remark severity text) := h.enter _

/-- A remark on an error may be missing. -/
theorem remark_error (h : b.Alike c) (text : String) : (b.remark .error text).Alike c :=
  ⟨h.board, h.mishaps, h.closeFault, by
    rw [Bench.remark, record_enter, h.record]
    exact List.append_nil _⟩

theorem withBoard (h : b.Alike c) (board : Board) : Alike { b with board } { c with board } :=
  ⟨rfl, h.mishaps, h.closeFault, h.record⟩

theorem withMishaps (h : b.Alike c) (mishaps : List (Nat × Mishap)) :
    Alike { b with mishaps } { c with mishaps } :=
  ⟨h.board, rfl, h.closeFault, h.record⟩

end Alike

variable {ε α : Type}

theorem mirrors_log (severity : Severity) (text : String) :
    (log severity text : Act ε Bench Unit).Mirrors Alike Eq (log severity text) :=
  .modify fun _ _ h => h.remark severity text

theorem mirrors_run (c : BoardCall) (reply : α → Reply) (onBoard : Act Fault Board α) :
    Act.Mirrors Alike Eq (call.run c reply onBoard) (call.run c reply onBoard) := by
  intro b b' h
  simp only [call.run, h.board]
  split
  · exact ⟨.ok rfl, (h.withBoard _).enter _⟩
  · exact ⟨.error _, (h.withBoard _).enter _⟩
  · exact ⟨.panic _, (h.withBoard _).enter _⟩

theorem mirrors_call (c : BoardCall) (reply : α → Reply) (onBoard : Act Fault Board α) :
    (call c reply onBoard).Mirrors Alike Eq (call c reply onBoard) := by
  intro b b' h
  simp only [call, h.mishaps]
  split
  · exact ⟨.panic _, (h.withMishaps _).enter _⟩
  · rw [h.board]
    exact mirrors_run c reply onBoard ((h.withMishaps _).withBoard _)
  · exact mirrors_run c reply onBoard (h.withMishaps _)

theorem mirrors_poll (frames : Bool) : (poll frames).Mirrors Alike Eq (poll frames) :=
  mirrors_call _ _ _

theorem mirrors_install (r : Rule) (driveNow : Bool) :
    (install r driveNow).Mirrors Alike Eq (install r driveNow) := mirrors_call _ _ _

theorem mirrors_drive (c : DriverCall) : (drive c).Mirrors Alike Eq (drive c) := mirrors_call _ _ _

theorem mirrors_tickle : tickle.Mirrors Alike Eq tickle := mirrors_call _ _ _

theorem mirrors_close : close.Mirrors Alike Eq close := by
  intro b c h
  simp only [close, h.closeFault, h.board]
  split
  · refine ⟨.error _, Alike.enter ?_ _⟩
    exact ⟨rfl, h.mishaps, rfl, h.record⟩
  · refine ⟨.ok rfl, Alike.enter ?_ _⟩
    exact ⟨rfl, h.mishaps, rfl, h.record⟩

end Bench

/-! ### Drivers -/

namespace Driver

/-- The same driver on benches that are alike. -/
abbrev Alike : Driver × Bench → Driver × Bench → Prop := Pairwise₂ Eq Bench.Alike

theorem mirrors_send (c : DriverCall) (f : Driver → Driver) :
    (send c f).Mirrors Alike Eq (send c f) := by
  rintro ⟨d, b⟩ ⟨-, b'⟩ ⟨rfl, h⟩
  obtain ⟨o, o', b₁, b₁', hb, hb', hend, hstate⟩ := (Bench.mirrors_drive c).run h
  simp only [send, hb, hb']
  cases hend with
  | ok _ => exact ⟨.ok rfl, rfl, hstate⟩
  | error e => exact ⟨.error e, rfl, hstate⟩
  | panic message => exact ⟨.panic message, rfl, hstate⟩

theorem mirrors_pulse (ms : Nat) (now : Span) : (pulse ms now).Mirrors Alike Eq (pulse ms now) := by
  rintro ⟨d, b⟩ ⟨-, b'⟩ ⟨rfl, h⟩
  have hs : Alike (d, b) (d, b') := ⟨rfl, h⟩
  simp only [pulse]
  split
  · exact mirrors_send _ _ hs
  · split
    · exact mirrors_send _ _ hs
    · obtain ⟨o, o', s, s', hrun, hrun', hend, hstate⟩ :=
        (mirrors_send (.pulse d.number ms) fun d => { d with schedule := none }).run hs
      rw [hrun, hrun']
      cases hend with
      | ok _ => exact ⟨.panic _, hstate⟩
      | error e => exact ⟨.error e, hstate⟩
      | panic message => exact ⟨.panic message, hstate⟩

theorem mirrors_disable (now : Span) : (disable now).Mirrors Alike Eq (disable now) := by
  rintro ⟨d, b⟩ ⟨-, b'⟩ ⟨rfl, h⟩
  exact mirrors_send _ _ ⟨rfl, h⟩

theorem mirrors_patter (onMs offMs firstMs : Nat) (now : Span) :
    (patter onMs offMs firstMs now).Mirrors Alike Eq (patter onMs offMs firstMs now) := by
  rintro ⟨d, b⟩ ⟨-, b'⟩ ⟨rfl, h⟩
  exact mirrors_send _ _ ⟨rfl, h⟩

theorem mirrors_tick (now : Span) : (tick now).Mirrors Alike Eq (tick now) := by
  rintro ⟨d, b⟩ ⟨-, b'⟩ ⟨rfl, h⟩
  have hs : Alike (d, b) (d, b') := ⟨rfl, h⟩
  simp only [tick]
  split
  · exact ⟨.ok rfl, rfl, h⟩
  · split
    · exact ⟨.ok rfl, hs⟩
    · split
      · exact mirrors_disable now hs
      · split
        · exact mirrors_send _ _ hs
        · exact ⟨.ok rfl, hs⟩

end Driver

theorem Order.mirrors_act (o : Order) (now : Span) :
    (o.act now).Mirrors Driver.Alike Eq (o.act now) := by
  cases o with
  | pulse _ ms => exact (Driver.mirrors_pulse ms now).mapError _
  | pulseDefault _ =>
    rintro ⟨d, b⟩ ⟨-, b'⟩ ⟨rfl, h⟩
    exact (Driver.mirrors_pulse d.pulseMs now).mapError DriverError.board ⟨rfl, h⟩
  | disable _ => exact (Driver.mirrors_disable now).mapError _
  | patter _ onMs offMs firstMs => exact (Driver.mirrors_patter onMs offMs firstMs now).mapError _
  | schedule _ mask cycles =>
    rintro ⟨d, b⟩ ⟨-, b'⟩ ⟨rfl, h⟩
    simp only [Order.act]
    split
    · exact ⟨.ok rfl, rfl, h⟩
    · exact ⟨.error _, rfl, h⟩

namespace DriverBank

/-- The same drivers on benches that are alike. -/
abbrev Alike : DriverBank × Bench → DriverBank × Bench → Prop := Pairwise₂ Eq Bench.Alike

theorem mirrors_obey (o : Order) (now : Span) : (obey o now).Mirrors Alike Eq (obey o now) := by
  rintro ⟨bank, b⟩ ⟨-, b'⟩ ⟨rfl, h⟩
  simp only [obey]
  split
  · rename_i slot d _ _
    obtain ⟨hend, hdriver, hbench⟩ := o.mirrors_act now (s := (d, b)) (t := (d, b')) ⟨rfl, h⟩
    exact ⟨hend, by rw [hdriver], hbench⟩
  · exact ⟨.error _, rfl, h⟩

theorem mirrors_byNumber {x : Act Fault (Driver × Bench) Unit} (hx : x.Mirrors Driver.Alike Eq x)
    (number : Nat) (c : DriverCall) :
    (byNumber number x c).Mirrors Alike Eq (byNumber number x c) := by
  rintro ⟨bank, b⟩ ⟨-, b'⟩ ⟨rfl, h⟩
  simp only [byNumber]
  split
  · rename_i slot d _ _
    obtain ⟨hend, hdriver, hbench⟩ := hx (s := (d, b)) (t := (d, b')) ⟨rfl, h⟩
    exact ⟨hend, by rw [hdriver], hbench⟩
  · obtain ⟨hend, hbench⟩ := Bench.mirrors_drive c h
    exact ⟨hend, rfl, hbench⟩

theorem mirrors_holdNumber (number : Nat) (now : Span) :
    (holdNumber number now).Mirrors Alike Eq (holdNumber number now) :=
  mirrors_byNumber (Driver.mirrors_pulse 0 now) _ _

theorem mirrors_disableNumber (number : Nat) (now : Span) :
    (disableNumber number now).Mirrors Alike Eq (disableNumber number now) :=
  mirrors_byNumber (Driver.mirrors_disable now) _ _

theorem mirrors_tickList (now : Span) (ds : List Driver) {b c : Bench} (h : b.Alike c) :
    (tickList now ds b).1.Alike Eq (tickList now ds c).1 ∧
      (tickList now ds b).2.1 = (tickList now ds c).2.1 ∧
      (tickList now ds b).2.2.Alike (tickList now ds c).2.2 := by
  induction ds generalizing b c with
  | nil => exact ⟨.ok rfl, rfl, h⟩
  | cons d rest ih =>
    obtain ⟨o, o', ⟨d₁, b₁⟩, ⟨d₁', c₁⟩, hb, hc, hend, rfl, hbench⟩ :=
      (Driver.mirrors_tick now).run (s := (d, b)) (t := (d, c)) ⟨rfl, h⟩
    simp only [tickList, hb, hc]
    cases hend with
    | ok _ =>
      obtain ⟨hend, hdrivers, hbench⟩ := ih hbench
      exact ⟨hend, congrArg (List.cons _) hdrivers, hbench⟩
    | error e => exact ⟨.error e, rfl, hbench⟩
    | panic message => exact ⟨.panic message, rfl, hbench⟩

theorem mirrors_tick (now : Span) : (tick now).Mirrors Alike Eq (tick now) := by
  rintro ⟨bank, b⟩ ⟨-, b'⟩ ⟨rfl, h⟩
  obtain ⟨hend, hdrivers, hbench⟩ := mirrors_tickList now bank.toList h
  exact ⟨hend, by simp only [tick, hdrivers], hbench⟩

end DriverBank

/-! ### Flipper rules -/

namespace FlipperRules

theorem mirrors_apply (r : FlipperRules) (enable : Bool) (now : Span) :
    (r.apply enable now).Mirrors DriverBank.Alike Eq (r.apply enable now) := by
  have install : (installAll (r.compile enable)).Mirrors DriverBank.Alike Eq
      (installAll (r.compile enable)) :=
    .each_same _ fun rule => (Bench.mirrors_install rule false).second
  refine (Bench.mirrors_log _ _).second.next fun _ => install.next fun _ =>
    .ite (.next (.each_same _ fun n => DriverBank.mirrors_disableNumber n now) fun _ => ?_) ?_
  all_goals
    dsimp only
    cases r.relay with
    | none => exact .pure rfl
    | some relay =>
      exact .ite (DriverBank.mirrors_holdNumber relay now)
        (DriverBank.mirrors_disableNumber relay now)

/-- The same rules and drivers on benches that are alike. -/
abbrev Alike : FlipperRules × DriverBank × Bench → FlipperRules × DriverBank × Bench → Prop :=
  Pairwise₂ Eq DriverBank.Alike

theorem mirrors_setEnabled (enable : Bool) (now : Span) :
    (setEnabled enable now).Mirrors Alike Eq (setEnabled enable now) := by
  rintro ⟨r, s⟩ ⟨-, s'⟩ ⟨rfl, h⟩
  simp only [setEnabled]
  split
  · exact ⟨.ok rfl, rfl, h⟩
  · obtain ⟨o, o', t, t', hs, hs', hend, hstate⟩ := (r.mirrors_apply enable now).run h
    rw [hs, hs']
    cases hend with
    | ok _ => exact ⟨.ok rfl, rfl, hstate⟩
    | error e => exact ⟨.error e, rfl, hstate⟩
    | panic message => exact ⟨.panic message, rfl, hstate⟩

end FlipperRules

/-! ### Held handlers -/

namespace HoldQueue

/-- The same handlers wait, on benches that are alike. -/
abbrev Alike : HoldQueue × Bench → HoldQueue × Bench → Prop := Pairwise₂ Eq Bench.Alike

variable {ε : Type}

theorem mirrors_cancelUnsatisfied (s : Switch) :
    (cancelUnsatisfied s : Act ε _ _).Mirrors Alike Eq (cancelUnsatisfied s) := by
  rintro ⟨q, b⟩ ⟨-, b'⟩ ⟨rfl, h⟩
  simp only [cancelUnsatisfied]
  refine ⟨.ok rfl, rfl, ?_⟩
  dsimp only
  split
  · exact h
  · exact h.remark _ _

theorem alike_noteLateness (now : Span) (o : Obligation) {s t : HoldQueue × Bench} (h : Alike s t) :
    Alike (noteLateness now o s) (noteLateness now o t) := by
  obtain ⟨q, b⟩ := s
  obtain ⟨q', b'⟩ := t
  obtain ⟨rfl, h⟩ := h
  simp only [noteLateness]
  split
  · exact ⟨rfl, h⟩
  · refine ⟨rfl, ?_⟩
    dsimp only
    split <;> exact h.remark _ _

theorem alike_foldl_noteLateness (now : Span) (due : List Obligation) {s t : HoldQueue × Bench}
    (h : Alike s t) : Alike (due.foldl (fun s o => noteLateness now o s) s)
      (due.foldl (fun s o => noteLateness now o s) t) := by
  induction due generalizing s t with
  | nil => exact h
  | cons o rest ih => exact ih (alike_noteLateness now o h)

theorem mirrors_takeDue (now : Span) (store : SwitchStore) :
    (takeDue now store : Act ε _ _).Mirrors Alike Eq (takeDue now store) := by
  rintro ⟨q, b⟩ ⟨-, b'⟩ ⟨rfl, h⟩
  simp only [takeDue]
  split
  · exact ⟨.panic _, rfl, h⟩
  · exact ⟨.ok rfl, alike_foldl_noteLateness now _ ⟨rfl, h⟩⟩

end HoldQueue

/-! ### The cabinet -/

namespace Cabinet

/-- Apart from remarks on errors the cabinets are the same. -/
structure Alike (c d : Cabinet) : Prop where
  switches : c.switches = d.switches
  drivers : c.drivers = d.drivers
  bench : c.bench.Alike d.bench
  clock : c.clock = d.clock
  queue : c.queue = d.queue
  stopRaised : c.stopRaised = d.stopRaised
  ids : c.ids = d.ids

namespace Alike
variable {c d : Cabinet}

theorem refl (c : Cabinet) : c.Alike c := ⟨rfl, rfl, .refl _, rfl, rfl, rfl, rfl⟩

theorem withBench (h : c.Alike d) {b b' : Bench} (hb : b.Alike b') :
    Alike { c with bench := b } { d with bench := b' } :=
  ⟨h.switches, h.drivers, hb, h.clock, h.queue, h.stopRaised, h.ids⟩

theorem withDrivers (h : c.Alike d) {s s' : DriverBank × Bench} (hs : DriverBank.Alike s s') :
    Alike { c with drivers := s.1, bench := s.2 } { d with drivers := s'.1, bench := s'.2 } :=
  ⟨h.switches, hs.first, hs.second, h.clock, h.queue, h.stopRaised, h.ids⟩

theorem withSwitches (h : c.Alike d) {s t : SwitchStore} (same : s = t) :
    Alike { c with switches := s } { d with switches := t } :=
  ⟨same, h.drivers, h.bench, h.clock, h.queue, h.stopRaised, h.ids⟩

theorem withQueue (h : c.Alike d) {p q : CommandQueue} (same : p = q) :
    Alike { c with queue := p } { d with queue := q } :=
  ⟨h.switches, h.drivers, h.bench, h.clock, same, h.stopRaised, h.ids⟩

theorem withClock (h : c.Alike d) {p q : Clock} (same : p = q) :
    Alike { c with clock := p } { d with clock := q } :=
  ⟨h.switches, h.drivers, h.bench, same, h.queue, h.stopRaised, h.ids⟩

theorem withIds (h : c.Alike d) {p q : IdBook} (same : p = q) :
    Alike { c with ids := p } { d with ids := q } :=
  ⟨h.switches, h.drivers, h.bench, h.clock, h.queue, h.stopRaised, same⟩

theorem withStop (h : c.Alike d) (raised : Bool) :
    Alike { c with stopRaised := raised } { d with stopRaised := raised } :=
  ⟨h.switches, h.drivers, h.bench, h.clock, h.queue, rfl, h.ids⟩

theorem perform (h : c.Alike d) (a : BenchAct) : (c.perform a).Alike (d.perform a) := by
  cases a with
  | note text => exact h.withBench (h.bench.enter _)
  | advance step => exact h.withClock (congrArg (·.advance step) h.clock)
  | post event =>
    simp only [Cabinet.perform, h.bench.board]
    exact h.withBench (h.bench.withBoard _)
  | plan after mishap => exact h.withBench (h.bench.withMishaps _)
  | planClose fault => exact h.withBench ⟨h.bench.board, h.bench.mishaps, rfl, h.bench.record⟩
  | raiseStop => exact h.withStop true

theorem enqueue (h : c.Alike d) (command : Command) :
    (c.enqueue command).1 = (d.enqueue command).1 ∧
      (c.enqueue command).2.Alike (d.enqueue command).2 := by
  simp only [Cabinet.enqueue, h.queue]
  split
  · exact ⟨rfl, h.withQueue rfl⟩
  · exact ⟨rfl, h⟩

end Alike

variable {ε α : Type}

theorem mirrors_onDrivers {x : Act ε (DriverBank × Bench) α}
    (hx : x.Mirrors DriverBank.Alike Eq x) :
    (onDrivers x).Mirrors Alike Eq (onDrivers x) :=
  hx.zoom (fun _ _ h => ⟨h.drivers, h.bench⟩) fun _ _ _ _ h hs => h.withDrivers hs

theorem mirrors_onBench {x : Act ε Bench α} (hx : x.Mirrors Bench.Alike Eq x) :
    (onBench x).Mirrors Alike Eq (onBench x) :=
  hx.zoom (fun _ _ h => h.bench) fun _ _ _ _ h hb => h.withBench hb

theorem mirrors_log (severity : Severity) (text : String) :
    (log severity text : Act ε Cabinet Unit).Mirrors Alike Eq (log severity text) :=
  mirrors_onBench (Bench.mirrors_log severity text)

end Cabinet

end Playfield
