import Playfield.Proofs.Benchwork
import Playfield.Proofs.Mended.Runs
import Playfield.Proofs.Past.Machine
import Playfield.Proofs.Points

/-!
# Runs of the loop

A loop makes pass after pass until one fails or a stop has been asked for. Of all that is done with
a machine only the loop and the host close the board, and only a pass that went well has tickled the
watchdog and is counted. So the board is closed once, when a run ends at the latest, and what a run
reports agrees with the journal, the counters and the endings of its passes
(`Machine.runs_close_and_report`).
-/
namespace Playfield

/-! ### Calls in the journal -/

/-- The call to the board that an entry of the journal records, with its reply. -/
def Entry.call? : Entry → Option (BoardCall × Reply)
  | .call c reply => some (c, reply)
  | _ => none

namespace Bench

/-- The calls to the board with their replies, in order. -/
def calls (b : Bench) : List (BoardCall × Reply) := b.journal.toList.filterMap Entry.call?

/-- How often the watchdog was tickled with success. -/
def tickles (b : Bench) : Nat := b.calls.count (.tickle, .done)

/-- How often the board was closed, with whatever reply. -/
def closings (b : Bench) : Nat := b.calls.countP fun call => call.1 = .close

/-- What only the loop and the closing of the board change. -/
def watch (b : Bench) : Nat × Nat := (b.tickles, b.closings)

theorem calls_enter (e : Entry) (b : Bench) : (b.enter e).calls = b.calls ++ e.call?.toList := by
  cases h : e.call? <;> simp [calls, enter, List.filterMap_append, h]

/-- The reply that is noted for the ending of a call. -/
def replied {α : Type} (reply : α → Reply) : Outcome Fault α → Reply
  | .ok a => reply a
  | .error f => .fault f
  | .panic _ => .panicked

variable {α : Type}

theorem calls_run (c : BoardCall) (reply : α → Reply) (onBoard : Act Fault Board α) (b : Bench) :
    (call.run c reply onBoard b).2.calls =
      b.calls ++ [(c, replied reply (call.run c reply onBoard b).1)] := by
  simp only [call.run]
  split <;> exact calls_enter _ _

/-- A call to the board is noted with the reply that goes with its ending. -/
theorem calls_call (c : BoardCall) (reply : α → Reply) (onBoard : Act Fault Board α) (b : Bench) :
    (call c reply onBoard b).2.calls =
      b.calls ++ [(c, replied reply (call c reply onBoard b).1)] := by
  simp only [call]
  split
  · exact calls_enter _ _
  · exact calls_run c reply onBoard _
  · exact calls_run c reply onBoard _

theorem watch_append {b b' : Bench} {c : BoardCall} {r : Reply}
    (h : b'.calls = b.calls ++ [(c, r)]) :
    b'.watch = (b.tickles + if (c, r) = (.tickle, .done) then 1 else 0,
      b.closings + if c = .close then 1 else 0) := by
  simp only [watch, tickles, closings, h, List.count_append, List.countP_append,
    List.count_singleton, List.countP_singleton, beq_iff_eq, decide_eq_true_eq]

theorem watch_eq_of_calls {b b' : Bench} (h : b'.calls = b.calls) : b'.watch = b.watch := by
  simp only [watch, tickles, closings, h]

/-- A call that neither tickles the watchdog nor closes the board. -/
theorem keeps_watch_call {c : BoardCall} (tickle : c ≠ .tickle) (close : c ≠ .close)
    (reply : α → Reply) (onBoard : Act Fault Board α) : (call c reply onBoard).Keeps watch := by
  intro b
  rw [watch_append (calls_call c reply onBoard b)]
  simp only [Prod.mk.injEq, tickle, close, false_and, if_false, Nat.add_zero, watch]

/-- A watchdog that is tickled with success counts that. -/
theorem watch_tickle (b : Bench) :
    (tickle b).2.watch = (b.tickles + if (tickle b).1 = .ok () then 1 else 0, b.closings) := by
  have hcalls := calls_call .tickle (fun _ => .done) Board.tickle b
  rw [tickle, watch_append hcalls]
  cases (call .tickle (fun _ => .done) Board.tickle b).1 <;> simp [replied]

/-- Closing is counted, whether it reports a fault or not. -/
theorem watch_close (b : Bench) : (close b).2.watch = (b.tickles, b.closings + 1) := by
  have hcalls : ∃ r, (close b).2.calls = b.calls ++ [(.close, r)] := by
    simp only [close]
    split <;> exact ⟨_, calls_enter _ _⟩
  obtain ⟨r, hr⟩ := hcalls
  simp [watch_append hr]

/-- Nothing but the watchdog and closing is on watch. -/
theorem spans_watch : Spans fun b c => watch c = watch b where
  remark severity text b := watch_eq_of_calls ((calls_enter _ b).trans (List.append_nil _))
  began site glimpse b := watch_eq_of_calls ((calls_enter _ b).trans (List.append_nil _))
  ended fault b := watch_eq_of_calls ((calls_enter _ b).trans (List.append_nil _))
  install rule driveNow := keeps_watch_call (by simp) (by simp) _ _
  drive c := keeps_watch_call (by simp) (by simp) _ _
  perform a c := by
    cases a with
    | note text => exact watch_eq_of_calls ((calls_enter _ _).trans (List.append_nil _))
    | advance | post | plan | planClose | raiseStop => rfl

end Bench

namespace Machine
variable {σ κ : Type}

/-- The calls to the board with their replies, in order. -/
abbrev calls (m : Machine σ κ) : List (BoardCall × Reply) := m.cabinet.bench.calls

/-- How often the watchdog was tickled with success. -/
abbrev tickles (m : Machine σ κ) : Nat := m.cabinet.bench.tickles

/-- How often the board was closed. -/
abbrev closings (m : Machine σ κ) : Nat := m.cabinet.bench.closings

/-- How many passes went well, by the counters of the machine. -/
abbrev iterations (m : Machine σ κ) : Nat := m.engine.stats.iterations

/-- Nothing happened that a loop counts: no tickle, no closing, no pass that went well. -/
abbrev Uncounted (m m' : Machine σ κ) : Prop :=
  m.Works (fun b c => Bench.watch c = Bench.watch b) m'

theorem Uncounted.tickles {m m' : Machine σ κ} (h : m.Uncounted m') : m'.tickles = m.tickles :=
  congrArg Prod.fst h.bench

theorem Uncounted.closings {m m' : Machine σ κ} (h : m.Uncounted m') : m'.closings = m.closings :=
  congrArg Prod.snd h.bench

/-- The second machine is the first one some passes on: they were counted alike by the watchdog and
by the counters, and nothing was closed. -/
structure Passed (passes : Nat) (m m' : Machine σ κ) : Prop where
  tickles : m'.tickles = m.tickles + passes
  iterations : m'.iterations = m.iterations + passes
  closings : m'.closings = m.closings
  closed : m'.closed = m.closed

theorem Uncounted.passed {m m' : Machine σ κ} (h : m.Uncounted m') : m.Passed 0 m' :=
  ⟨h.tickles, h.iterations, h.closings, h.closed⟩

theorem Passed.trans {a b : Nat} {m m' m'' : Machine σ κ} (h : m.Passed a m')
    (h' : m'.Passed b m'') : m.Passed (a + b) m'' where
  tickles := by rw [h'.tickles, h.tickles, Nat.add_assoc]
  iterations := by rw [h'.iterations, h.iterations, Nat.add_assoc]
  closings := h'.closings.trans h.closings
  closed := h'.closed.trans h.closed

/-! ### A pass -/

/-- How many passes an ending counts for. -/
def worth (ending : Outcome Fault Unit) : Nat := if ending = .ok () then 1 else 0

/-- The computation counts as a pass if it goes well, and for nothing if it fails. -/
def Counts (x : Step σ κ Unit) : Prop := ∀ m : Machine σ κ, m.Passed (worth (x m).1) (x m).2

/-- What a loop does not count can come before. -/
theorem Counts.bind {α : Type} {x : Step σ κ α} {k : α → Step σ κ Unit}
    (hx : x.Within Uncounted) (hk : ∀ a, Counts (k a)) : Counts (x >>= k) := by
  intro m
  have hfirst := hx m
  rcases hs : x m with ⟨ending, t⟩
  rw [hs] at hfirst
  cases ending with
  | ok a =>
    have hall := hfirst.passed.trans (hk a t)
    rw [Nat.zero_add] at hall
    rw [Act.bind_ok hs]
    exact hall
  | error f => rw [Act.bind_error hs]; exact hfirst.passed
  | panic message => rw [Act.bind_panic hs]; exact hfirst.passed

/-- The end of a pass: the watchdog is tickled, and if that goes well the pass is counted. -/
theorem counts_closing : Counts (Point.closing : Step σ κ Unit) := by
  intro m
  have hwatch := Bench.watch_tickle m.cabinet.bench
  rcases htickle : Bench.tickle m.cabinet.bench with ⟨ending, b⟩
  rw [htickle] at hwatch
  have htickled : (onCabinet (Cabinet.onBench Bench.tickle) : Step σ κ Unit) m =
      (ending, { m with cabinet := { m.cabinet with bench := b } }) := by
    simp only [onCabinet, Cabinet.onBench, Act.zoom, htickle]
  have htickles := congrArg Prod.fst hwatch
  have hclosings := congrArg Prod.snd hwatch
  cases ending with
  | ok a =>
    rw [Point.closing, Act.bind_ok htickled]
    exact ⟨htickles, rfl, hclosings, rfl⟩
  | error f =>
    rw [Point.closing, Act.bind_error htickled]
    exact ⟨htickles, rfl, hclosings, rfl⟩
  | panic message =>
    rw [Point.closing, Act.bind_panic htickled]
    exact ⟨htickles, rfl, hclosings, rfl⟩

/-- A pass is counted by the watchdog and the counters just if it goes well. -/
theorem counts_step : Counts (step : Step σ κ Unit) := by
  have hpoll (frames : Bool) :
      (onCabinet (Cabinet.onBench (Bench.poll frames)) : Step σ κ _).Within Uncounted := fun m =>
    ⟨Bench.keeps_watch_call (by simp) (by simp) _ _ m.cabinet.bench, rfl, rfl⟩
  exact .bind .get fun m => .bind (hpoll _) fun events =>
    .bind (fun m => Composes.refl m) fun now =>
    .bind (.each (fun event => Bench.spans_watch.handleEvent event now) events) fun _ =>
    .bind (Bench.spans_watch.inContext now Bench.spans_watch.tick) fun _ =>
    .bind (Bench.Spans.onDrivers (Bench.spans_watch.tickDrivers now)) fun _ =>
    .bind (Bench.spans_watch.drainCommands now) fun _ => counts_closing

/-! ### A stop that is asked for -/

/-- A machine that is asked to stop is one that was asked before. -/
theorem setStop_eq_after (m : Machine σ κ) : m.setStop true = m.after { stop := true } := by
  simp only [setStop, after, Cabinet.after, Bench.after, Stats.after, Array.empty_append,
    Nat.zero_add, Bool.true_or]

theorem commutes_setStop {x : Step σ κ Unit} (hx : ∀ p, x.Commutes (after p)) :
    x.Commutes (setStop true) := by
  have hstop : (setStop true : Machine σ κ → Machine σ κ) = after { stop := true } :=
    funext setStop_eq_after
  rw [hstop]
  exact hx _

end Machine

/-- Whatever is left of a pass is the same after any past. -/
theorem Point.commutes_remainder {σ κ : Type} (p : Past) (point : Point) :
    (point.remainder : Machine.Step σ κ Unit).Commutes (Machine.after p) := by
  have hcount : (Machine.count fun s => { s with iterations := s.iterations + 1 } :
      Machine.Step σ κ Unit).Commutes (Machine.after p) := Machine.commutes_count p fun _ => rfl
  have hclosing : (closing : Machine.Step σ κ Unit).Commutes (Machine.after p) :=
    .bind (Machine.commutes_onCabinet p (Cabinet.commutes_onBench p (Bench.commutes_call p _ _ _)))
      fun _ => hcount
  cases point with
  | ready => exact .pure ()
  | events es now =>
    exact .bind (.each (fun event => Machine.commutes_handleEvent p event now) es) fun _ =>
      Machine.commutes_rest p now
  | hooks now => exact Machine.commutes_rest p now
  | drivers now =>
    exact .bind (Machine.commutes_onCabinet p
      (Cabinet.commutes_onDrivers p (DriverBank.commutes_tick p now))) fun _ =>
        .bind (Machine.commutes_drainCommands p now) fun _ => hclosing
  | drain now => exact .bind (Machine.commutes_drainCommands p now) fun _ => hclosing
  | commands cs now =>
    exact .bind (.each (Machine.commutes_carryOut p now) cs) fun _ => hclosing
  | tickle => exact hclosing
  | finish => exact hcount

namespace Machine
variable {σ κ : Type}

/-- A pass goes the same way if a stop has been asked for before. -/
theorem step_setStop : (step : Step σ κ Unit).Commutes (setStop true) :=
  commutes_setStop fun p => commutes_step p

/-- Whatever is left of a pass goes the same way after a stop has been asked for. -/
theorem remainder_setStop (point : Point) :
    (point.remainder : Step σ κ Unit).Commutes (setStop true) :=
  commutes_setStop fun p => point.commutes_remainder p

/-- A pass does not take back that a stop was asked for. -/
theorem stopRaised_step {m : Machine σ κ} (h : m.cabinet.stopRaised = true) :
    (step m).2.cabinet.stopRaised = true := by
  have hm : m.setStop true = m := by rw [setStop, ← h]
  have hstep := step_setStop m
  rw [hm] at hstep
  rw [hstep]
  rfl

end Machine

/-! ### The passes of a loop -/

/-- A pass of a loop, with the visit before its poll. -/
structure Pass (σ κ : Type) where
  /-- The machine as the loop found it at the top. -/
  top : Machine σ κ
  visit : Visit
  isLast : Bool

namespace Pass
variable {σ κ : Type}

/-- The machine after the visit. -/
def begun (p : Pass σ κ) : Machine σ κ := p.top.receive p.visit p.isLast

/-- How the pass ended. -/
def ending (p : Pass σ κ) : Outcome Fault Unit := (Machine.step p.begun).1

/-- The machine as the pass left it. -/
def next (p : Pass σ κ) : Machine σ κ := (Machine.step p.begun).2

/-- The pass is counted just if it went well. -/
theorem passed (p : Pass σ κ) : p.top.Passed (Machine.worth p.ending) p.next := by
  have hvisit : p.top.Uncounted p.begun := Bench.spans_watch.receive p.visit p.isLast p.top
  have hall := hvisit.passed.trans (Machine.counts_step p.begun)
  rwa [Nat.zero_add] at hall

/-- The last visit raises the stop flag, and it is still up after the pass. -/
theorem stopRaised_next {p : Pass σ κ} (last : p.isLast = true) :
    p.next.cabinet.stopRaised = true := by
  refine Machine.stopRaised_step ?_
  simp only [begun, Machine.receive, last, if_true]
  rfl

end Pass

/-- The pass went well. -/
def Pass.wentWell {σ κ : Type} (p : Pass σ κ) : Bool := p.ending = .ok ()

/-- The passes of a loop, and the machine as the last one leaves it: passes follow on from one
another, up to the first that fails, or until the stop flag is up at the top. -/
inductive Loops {σ κ : Type} :
    List Visit → Machine σ κ → List (Pass σ κ) → Machine σ κ → Prop where
  | stop {visits : List Visit} {m : Machine σ κ} (raised : m.cabinet.stopRaised = true) :
    Loops visits m [] m
  | fail {rest : List Visit} {p : Pass σ κ} (lowered : p.top.cabinet.stopRaised = false)
      (last : p.isLast = rest.isEmpty) (failed : p.ending ≠ .ok ()) :
    Loops (p.visit :: rest) p.top [p] p.next
  | pass {rest : List Visit} {p : Pass σ κ} {ps : List (Pass σ κ)} {left : Machine σ κ}
      (lowered : p.top.cabinet.stopRaised = false) (last : p.isLast = rest.isEmpty)
      (well : p.ending = .ok ()) (others : Loops rest p.next ps left) :
    Loops (p.visit :: rest) p.top (p :: ps) left

namespace Loops
variable {σ κ : Type} {visits : List Visit} {m left : Machine σ κ} {ps : List (Pass σ κ)}

/-- The passes that went well are those that are counted. -/
theorem passed (h : Loops visits m ps left) : m.Passed (ps.countP Pass.wentWell) left := by
  induction h with
  | @stop _ m _ => exact ⟨rfl, rfl, rfl, rfl⟩
  | @fail _ p _ _ failed =>
    have hpass := p.passed
    rw [Machine.worth, if_neg failed] at hpass
    simpa [Pass.wentWell, failed] using hpass
  | @pass _ p _ _ _ _ well _ ih =>
    have hpass := p.passed
    rw [Machine.worth, if_pos well] at hpass
    have hall := hpass.trans ih
    rw [Nat.add_comm] at hall
    simpa [List.countP_cons, Pass.wentWell, well] using hall

/-- Either all passes went well and the stop flag is up, or the last one failed. -/
theorem ends (h : Loops visits m ps left) :
    ((∀ p ∈ ps, p.ending = .ok ()) ∧ left.cabinet.stopRaised = true) ∨
      ∃ p, ps.getLast? = some p ∧ p.ending ≠ .ok () := by
  induction h with
  | stop raised => exact .inl ⟨(fun _ hp => nomatch hp), raised⟩
  | @fail _ p _ _ failed => exact .inr ⟨p, rfl, failed⟩
  | @pass _ p ps _ _ _ well _ ih =>
    rcases ih with ⟨hall, raised⟩ | ⟨q, hq, failed⟩
    · exact .inl ⟨List.forall_mem_cons.mpr ⟨well, hall⟩, raised⟩
    · exact .inr ⟨q, by rw [List.getLast?_cons, hq]; rfl, failed⟩

end Loops

/-- Why a loop ends, by the ending of its last pass. -/
def Exit.after : Option (Outcome Fault Unit) → Exit
  | some (.error f) => .deviceFault f.message
  | some (.panic message) => .panicked message
  | _ => .cancelled

namespace Exit
variable {last : Option (Outcome Fault Unit)} {message : String}

theorem after_eq_deviceFault :
    after last = .deviceFault message ↔ ∃ f, last = some (.error f) ∧ f.message = message := by
  rcases last with _ | ending
  · simp [after]
  · cases ending <;> simp [after]

theorem after_eq_panicked : after last = .panicked message ↔ last = some (.panic message) := by
  rcases last with _ | ending
  · simp [after]
  · cases ending <;> simp [after]

theorem after_eq_cancelled :
    after last = .cancelled ↔ ∀ ending, last = some ending → ending = .ok () := by
  rcases last with _ | ending
  · simp [after]
  · cases ending <;> simp [after]

end Exit

namespace RunReport
variable {σ κ : Type}

/-- The report tells how many passes went well, and how the loop ended: with a board fault or a
panic just if its last pass did, and on request just if all of its passes went well and the stop
flag was up at the top. -/
structure Tells (report : RunReport) (ps : List (Pass σ κ)) (left : Machine σ κ) : Prop where
  iterations : report.iterations = ps.countP Pass.wentWell
  faulted : ∀ message, report.exit = .deviceFault message ↔
    ∃ p f, ps.getLast? = some p ∧ p.ending = .error f ∧ f.message = message
  panicked : ∀ message, report.exit = .panicked message ↔
    ∃ p, ps.getLast? = some p ∧ p.ending = .panic message
  cancelled : report.exit = .cancelled ↔
    (∀ p ∈ ps, p.ending = .ok ()) ∧ left.cabinet.stopRaised = true

/-- A report that goes by the ending of the last pass tells how the loop ended. -/
theorem tells_after {visits : List Visit} {m left : Machine σ κ} {ps : List (Pass σ κ)}
    (h : Loops visits m ps left) :
    Tells ⟨ps.countP Pass.wentWell, .after (ps.getLast?.map Pass.ending)⟩ ps left where
  iterations := rfl
  faulted message := by
    simp only [Exit.after_eq_deviceFault, Option.map_eq_some_iff]
    constructor
    · rintro ⟨f, ⟨p, hp, hend⟩, hf⟩
      exact ⟨p, f, hp, hend, hf⟩
    · rintro ⟨p, f, hp, hend, hf⟩
      exact ⟨f, ⟨p, hp, hend⟩, hf⟩
  panicked message := by
    simp only [Exit.after_eq_panicked, Option.map_eq_some_iff]
  cancelled := by
    rw [Exit.after_eq_cancelled]
    constructor
    · intro hlast
      rcases h.ends with hall | ⟨p, hp, failed⟩
      · exact hall
      · exact absurd (hlast p.ending (by rw [hp]; rfl)) failed
    · rintro ⟨hall, -⟩ ending hlast
      obtain ⟨p, hp, rfl⟩ := Option.map_eq_some_iff.mp hlast
      exact hall p (List.mem_of_getLast? hp)

end RunReport

namespace Machine
variable {σ κ : Type}

/-- A loop makes its passes, reports how many of them went well and how the last one ended, and
leaves the machine as it is then, but for a remark. -/
theorem exists_loops (visits : List Visit) (n : Nat) (m : Machine σ κ)
    (ends : visits = [] → m.cabinet.stopRaised = true) :
    ∃ ps left, Loops visits m ps left ∧
      (loop visits n m).1 = ⟨n + ps.countP Pass.wentWell, .after (ps.getLast?.map Pass.ending)⟩ ∧
      left.Uncounted (loop visits n m).2 := by
  induction visits generalizing n m with
  | nil => exact ⟨[], m, .stop (ends rfl), rfl, Composes.refl m⟩
  | cons visit rest ih =>
    cases hstop : m.cabinet.stopRaised with
    | true =>
      simp only [loop, hstop, if_true]
      exact ⟨[], m, .stop hstop, rfl, Composes.refl m⟩
    | false =>
      let p : Pass σ κ := ⟨m, visit, rest.isEmpty⟩
      rcases hstep : step (m.receive visit rest.isEmpty) with ⟨ending, m'⟩
      have hend : p.ending = ending := congrArg Prod.fst hstep
      have hnext : p.next = m' := congrArg Prod.snd hstep
      simp only [loop, hstop, hstep, Bool.false_eq_true, if_false]
      cases ending with
      | ok a =>
        have hrest (hnil : rest = []) : m'.cabinet.stopRaised = true := by
          have hlast : p.isLast = true := by simp [p, hnil]
          exact hnext ▸ Pass.stopRaised_next hlast
        obtain ⟨ps, left, hloops, hreport, hleft⟩ := ih (n + 1) m' hrest
        refine ⟨p :: ps, left, .pass hstop rfl hend (hnext ▸ hloops), ?_, hleft⟩
        have hlast : Exit.after ((p :: ps).getLast?.map Pass.ending) =
            .after (ps.getLast?.map Pass.ending) := by
          rw [List.getLast?_cons]
          cases ps.getLast? with
          | none => simp [hend, Exit.after]
          | some q => rfl
        rw [hreport, hlast]
        simp [Pass.wentWell, hend, Nat.add_assoc, Nat.add_comm 1]
      | error f =>
        have hfailed : p.ending ≠ .ok () := by simp [hend]
        refine ⟨[p], p.next, .fail hstop rfl hfailed, ?_, ?_⟩
        · simp [Pass.wentWell, hend, Exit.after]
        · rw [hnext]
          exact ⟨Bench.spans_watch.remark _ _ _, rfl, rfl⟩
      | panic message =>
        have hfailed : p.ending ≠ .ok () := by simp [hend]
        refine ⟨[p], p.next, .fail hstop rfl hfailed, ?_, ?_⟩
        · simp [Pass.wentWell, hend, Exit.after]
        · rw [hnext]
          exact ⟨Bench.spans_watch.remark _ _ _, rfl, rfl⟩

/-! ### Runs and closing -/

theorem close_closed {m : Machine σ κ} (h : m.closed = true) : m.close = m := by
  simp only [close, h, if_true]

/-- An open machine is closed with one call to the board, whatever the board replies. -/
theorem close_open {m : Machine σ κ} (h : m.closed = false) :
    m.close.closed = true ∧ m.close.closings = m.closings + 1 ∧ m.close.tickles = m.tickles ∧
      m.close.iterations = m.iterations := by
  have hwatch := Bench.watch_close m.cabinet.bench
  have hremark (text : String) (b : Bench) : (b.remark .error text).watch = b.watch :=
    Bench.spans_watch.remark .error text b
  have hbench : m.close.cabinet.bench.watch = (m.tickles, m.closings + 1) := by
    simp only [close, h, Bool.false_eq_true, if_false]
    split <;> rename_i hb <;> rw [hb] at hwatch
    · exact (hremark _ _).trans hwatch
    · exact hwatch
  have hrest : m.close.closed = true ∧ m.close.iterations = m.iterations := by
    simp only [close, h, Bool.false_eq_true, if_false]
    split <;> exact ⟨rfl, rfl⟩
  exact ⟨hrest.1, congrArg Prod.snd hbench, congrArg Prod.fst hbench, hrest.2⟩

/-- The machine as its loop begins. -/
def started (visits : List Visit) (m : Machine σ κ) : Machine σ κ :=
  (m.setStop visits.isEmpty).remark .info "run loop starting"

theorem uncounted_started (visits : List Visit) (m : Machine σ κ) :
    m.Uncounted (m.started visits) :=
  ⟨Bench.spans_watch.remark _ _ m.cabinet.bench, rfl, rfl⟩

/-- A closed machine does not run. -/
theorem run_closed {m : Machine σ κ} (h : m.closed = true) (visits : List Visit) :
    m.run visits = (⟨0, .alreadyClosed⟩,
      (m.setStop visits.isEmpty).remark .warn "run called on a closed machine") := by
  have hclosed : (m.setStop visits.isEmpty).closed = true := h
  simp only [run, hclosed, if_true]

/-- An open machine runs its loop and is closed then. -/
theorem run_open {m : Machine σ κ} (h : m.closed = false) (visits : List Visit) :
    (m.run visits).1 = (loop visits 0 (m.started visits)).1 ∧
      (loop visits 0 (m.started visits)).2.close.Uncounted (m.run visits).2 := by
  have hclosed : (m.setStop visits.isEmpty).closed = false := h
  refine ⟨?_, ?_⟩ <;> simp only [run, hclosed, Bool.false_eq_true, if_false, started]
  exact ⟨Bench.spans_watch.remark _ _ _, rfl, rfl⟩

/-- What a run of an open machine comes to: its passes, a report that tells of them, as many tickles
and counted passes as it reports, and one closing. -/
structure RunsTruly (visits : List Visit) (m : Machine σ κ) (report : RunReport)
    (m' : Machine σ κ) : Prop where
  loops : ∃ ps left, Loops visits (m.started visits) ps left ∧ report.Tells ps left
  tickles : m'.tickles = m.tickles + report.iterations
  iterations : m'.iterations = m.iterations + report.iterations
  closings : m'.closings = m.closings + 1
  closed : m'.closed = true

theorem runsTruly_run {m : Machine σ κ} (h : m.closed = false) (visits : List Visit) :
    RunsTruly visits m (m.run visits).1 (m.run visits).2 := by
  have hraised (hnil : visits = []) : (m.started visits).cabinet.stopRaised = true := by
    rw [hnil]
    rfl
  obtain ⟨ps, left, hloops, hreport, hleft⟩ := exists_loops visits 0 (m.started visits) hraised
  obtain ⟨hrun, hrest⟩ := run_open h visits
  rw [← hrun, Nat.zero_add] at hreport
  have hpassed := ((uncounted_started visits m).passed.trans hloops.passed).trans hleft.passed
  rw [Nat.zero_add, Nat.add_zero] at hpassed
  obtain ⟨hclosed, hclosings, htickles, hiterations⟩ := close_open (hpassed.closed.trans h)
  have hcount : (m.run visits).1.iterations = ps.countP Pass.wentWell := by rw [hreport]
  refine ⟨⟨ps, left, hloops, hreport ▸ RunReport.tells_after hloops⟩, ?_, ?_, ?_, ?_⟩
  · rw [hrest.tickles, htickles, hpassed.tickles, hcount]
  · rw [hrest.passed.iterations, Nat.add_zero, hiterations, hpassed.iterations, hcount]
  · rw [hrest.closings, hclosings, hpassed.closings]
  · rw [hrest.closed, hclosed]

/-- Between the machines the board was closed just if the second is closed and the first was not,
and once. -/
structure ClosesOnce (m m' : Machine σ κ) : Prop where
  closings : m'.closings + m.closed.toNat = m.closings + m'.closed.toNat
  stays : m.closed = true → m'.closed = true

instance : Composes (ClosesOnce (σ := σ) (κ := κ)) where
  refl _ := ⟨rfl, id⟩
  trans h h' := ⟨by have := h.closings; have := h'.closings; omega, fun hc => h'.stays (h.stays hc)⟩

theorem Passed.closesOnce {n : Nat} {m m' : Machine σ κ} (h : m.Passed n m') : m.ClosesOnce m' :=
  ⟨by rw [h.closings, h.closed], fun hc => h.closed.trans hc⟩

theorem Uncounted.closesOnce {m m' : Machine σ κ} (h : m.Uncounted m') : m.ClosesOnce m' :=
  h.passed.closesOnce

theorem closesOnce_close (m : Machine σ κ) : m.ClosesOnce m.close := by
  cases h : m.closed with
  | true =>
    rw [close_closed h]
    exact Composes.refl m
  | false =>
    obtain ⟨hclosed, hclosings, -, -⟩ := close_open h
    exact ⟨by rw [hclosings, hclosed, h]; rfl, fun _ => hclosed⟩

theorem closesOnce_run (visits : List Visit) (m : Machine σ κ) :
    m.ClosesOnce (m.run visits).2 ∧ (m.run visits).2.closed = true := by
  cases h : m.closed with
  | true =>
    rw [run_closed h]
    have hremark : m.Uncounted ((m.setStop visits.isEmpty).remark .warn
        "run called on a closed machine") :=
      ⟨Bench.spans_watch.remark _ _ m.cabinet.bench, rfl, rfl⟩
    exact ⟨hremark.closesOnce, h⟩
  | false =>
    have hrun := runsTruly_run h visits
    exact ⟨⟨by rw [hrun.closings, hrun.closed, h]; rfl, fun _ => hrun.closed⟩, hrun.closed⟩

theorem closesOnce_perform (op : Operation σ κ) (m : Machine σ κ) :
    m.ClosesOnce (op.perform m).2 := by
  have uncounted {m' : Machine σ κ} (h : m.Uncounted m') : m.ClosesOnce m' := h.closesOnce
  have hw := Bench.spans_watch
  cases op with
  | processEvent event => exact uncounted (hw.handleEvent event m.now m)
  | step => exact (counts_step m).closesOnce
  | run visits => exact (closesOnce_run visits m).1
  | addMode mode => exact uncounted (hw.inContext m.now (Bench.Spans.onStack (hw.add mode)) m)
  | removeMode id => exact uncounted (hw.inContext m.now (Bench.Spans.onStack (hw.remove id)) m)
  | requestGame request => exact uncounted (hw.inContext m.now (hw.apply (.game request)) m)
  | enableFlippers enable => exact uncounted (hw.enableFlippers enable m)
  | reset => exact uncounted (hw.reset m)
  | close => exact closesOnce_close m
  | onFrame | issue | setClock => exact ⟨rfl, id⟩
  | enqueue command =>
    have hbench : (m.cabinet.enqueue command).2.bench = m.cabinet.bench :=
      (m.cabinet.enqueue_frame command).2
    exact uncounted ⟨congrArg Bench.watch hbench, rfl, rfl⟩
  | bench act => exact uncounted ⟨hw.perform act m.cabinet, rfl, rfl⟩

theorem closesOnce_performAll (ops : List (Operation σ κ)) (m : Machine σ κ) :
    m.ClosesOnce (performAll ops m).2 := by
  induction ops generalizing m with
  | nil => exact Composes.refl m
  | cons op rest ih => exact Composes.trans (closesOnce_perform op m) (ih _)

/-- Once there has been a run the machine is closed. -/
theorem closed_of_run {ops : List (Operation σ κ)} {visits : List Visit} (h : .run visits ∈ ops)
    (m : Machine σ κ) : (performAll ops m).2.closed = true := by
  induction ops generalizing m with
  | nil => cases h
  | cons op rest ih =>
    rcases List.mem_cons.mp h with rfl | hrest
    · exact (closesOnce_performAll rest _).stays (closesOnce_run visits m).2
    · exact ih hrest _

/-- Whatever has been done with a machine, the board was closed at most once, and has been closed
once there was a run. A closed machine does not run: it makes no call and reports that. A run of an
open machine is reported truly. No pass is cut short by a stop: a pass, and whatever is left of one,
goes the same way if a stop is asked for before it. -/
theorem runs_close_and_report (ops : List (Operation σ κ)) (m₀ : Machine σ κ)
    (visits : List Visit) :
    let m := (performAll ops m₀).2
    m₀.ClosesOnce m ∧
      (∀ earlier, Operation.run earlier ∈ ops → m.closed = true) ∧
      (if m.closed then
        (m.run visits).1 = ⟨0, .alreadyClosed⟩ ∧ (m.run visits).2.calls = m.calls
      else RunsTruly visits m (m.run visits).1 (m.run visits).2) ∧
      (step : Step σ κ Unit).Commutes (setStop true) ∧
      ∀ point : Point, (point.remainder : Step σ κ Unit).Commutes (setStop true) := by
  intro m
  refine ⟨closesOnce_performAll ops m₀, fun earlier h => closed_of_run h m₀, ?_, step_setStop,
    remainder_setStop⟩
  split
  · rename_i hclosed
    rw [run_closed hclosed]
    exact ⟨rfl, (Bench.calls_enter _ _).trans (List.append_nil _)⟩
  · rename_i hopen
    exact runsTruly_run (Bool.eq_false_iff.mpr hopen) visits

end Machine

end Playfield
