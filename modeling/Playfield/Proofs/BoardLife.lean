import Mathlib.Data.List.Induction
import Mathlib.Data.List.Basic
import Playfield.Journal
import Playfield.Proofs.BoardRules

/-!
# The life of a board

All handles of a board share its state, so what is done through them is one sequence of uses. A call
is served in full or fails. A failure uses up the fault that was injected last, if no call has used
it up yet, and it changes nothing else. Every event that was queued is handed out once, in order, or
still waits; frame events that come with a poll are at the end of its answer. And for each switch
and trigger the board holds what was written for it last.
-/
namespace Playfield

namespace Board

/-! ### One call -/

/-- Make a call. Only a poll has something to hand out. -/
def make : BoardCall → Act Fault Board (List Event)
  | .poll frames => poll frames
  | .install r driveNow => do
    install r driveNow
    return []
  | .drive c => do
    drive c
    return []
  | .tickle => do
    tickle
    return []
  | .close => fun b => (.ok [], b.close)

/-- The number of frame events that come with a call. -/
def framesFor (b : Board) : BoardCall → Nat
  | .poll true => b.framesPerPoll
  | _ => 0

/-- What a call hands out if it goes well. -/
def given (b : Board) : BoardCall → List Event
  | .poll frames => b.pending ++ List.replicate (b.framesFor (.poll frames)) .frame
  | _ => []

/-- The board after a call that goes well. -/
def served (b : Board) : BoardCall → Board
  | .poll _ => { b with pending := [] }
  | .install r driveNow =>
    { b with
      rules := b.rules.write r
      ruleWrites := b.ruleWrites + 1
      calls := if driveNow then b.calls ++ (r.directives.map Directive.call).toArray else b.calls }
  | .drive c => { b with calls := b.calls.push c }
  | .tickle => { b with tickles := b.tickles + 1 }
  | .close => b.close

/-- The board after a call that fails. -/
def spent (b : Board) : Board := { b with injected := none }

/-- What goes wrong with the next call: the injected fault, or else that the board is closed. -/
def wrong? (b : Board) : Option Fault := b.injected.or (if b.closed then some .closed else none)

theorem check_eq (b : Board) :
    check b = match b.wrong? with
      | some f => (.error f, b.spent)
      | none => (.ok (), b) := by
  obtain ⟨pending, perPoll, rules, writes, calls, tickles, closes, closed, injected⟩ := b
  cases injected with
  | some f => rfl
  | none => cases closed <;> rfl

theorem install_served {r : Rule} {driveNow : Bool} {b : Board} (h : check b = (.ok (), b)) :
    install r driveNow b = (.ok (), b.served (.install r driveNow)) := by
  rw [install, Act.bind_ok h, served, RuleTable.write]
  cases hempty : r.directives.isEmpty with
  | false => cases driveNow <;> rfl
  | true =>
    have hnil : r.directives = [] := List.isEmpty_iff.mp hempty
    cases driveNow <;> simp only [hnil] <;> rfl

/-- A call to which nothing goes wrong is served. -/
theorem make_served {c : BoardCall} {b : Board} (hclose : c ≠ .close) (h : b.wrong? = none) :
    make c b = (.ok (b.given c), b.served c) := by
  have hcheck : check b = (.ok (), b) := by
    rw [check_eq, h]
  cases c with
  | poll frames =>
    rw [make, poll, Act.bind_ok hcheck]
    cases frames <;> rfl
  | install r driveNow =>
    rw [make, Act.bind_ok (install_served hcheck)]
    rfl
  | drive call =>
    rw [make, drive, Act.bind_assoc, Act.bind_ok hcheck]
    rfl
  | tickle =>
    rw [make, tickle, Act.bind_assoc, Act.bind_ok hcheck]
    rfl
  | close => exact absurd rfl hclose

/-- A call other than closing fails if anything goes wrong, and then only the fault is used up. -/
theorem make_failed {c : BoardCall} {b : Board} {f : Fault} (hclose : c ≠ .close)
    (h : b.wrong? = some f) : make c b = (.error f, b.spent) := by
  have hcheck : check b = (.error f, b.spent) := by
    rw [check_eq, h]
  cases c with
  | poll frames => exact Act.bind_error hcheck
  | install r driveNow => exact Act.bind_error (Act.bind_error hcheck)
  | drive call => exact Act.bind_error (Act.bind_error hcheck)
  | tickle => exact Act.bind_error (Act.bind_error hcheck)
  | close => exact absurd rfl hclose

/-- All that a call can do: close the board, fail and use up the fault, or be served. -/
theorem make_cases (c : BoardCall) (b : Board) :
    c = .close ∨
      (c ≠ .close ∧ ∃ f, b.wrong? = some f ∧ make c b = (.error f, b.spent)) ∨
      c ≠ .close ∧ b.wrong? = none ∧ make c b = (.ok (b.given c), b.served c) := by
  by_cases hclose : c = .close
  · exact .inl hclose
  cases hwrong : b.wrong? with
  | some f => exact .inr (.inl ⟨hclose, f, rfl, make_failed hclose hwrong⟩)
  | none => exact .inr (.inr ⟨hclose, rfl, make_served hclose hwrong⟩)

/-! ### A history -/

/-- One thing done with a board. -/
inductive Use where
  | post (e : Event)
  | inject (f : Fault)
  /-- Set how many frame events come with a poll that asks for them. -/
  | setFrames (count : Nat)
  /-- Forget the outputs driven so far. -/
  | clearCalls
  | call (c : BoardCall)

/-- The answer of a poll that went well. -/
structure Answer where
  events : List Event
  /-- How many frame events came with it. -/
  frames : Nat

/-- The events of an answer that had been queued: all but the frame events at its end. -/
def Answer.queued (a : Answer) : List Event := a.events.take (a.events.length - a.frames)

namespace Use

/-- The board after one thing was done with it. -/
def run (b : Board) : Use → Board
  | .post e => b.post e
  | .inject f => b.inject f
  | .setFrames count => { b with framesPerPoll := count }
  | .clearCalls => { b with calls := #[] }
  | .call c => (make c b).2

/-- The event queued by this, if it queues one. -/
def posted? : Use → Option Event
  | .post e => some e
  | _ => none

/-- This is a call that fails if anything goes wrong. -/
def mayFail : Use → Prop
  | .call c => c ≠ .close
  | _ => False

/-- The answer of this, if it is a poll that goes well. -/
def answer? (b : Board) : Use → Option Answer
  | .call (.poll frames) =>
    match (make (.poll frames) b).1 with
    | .ok events => some ⟨events, b.framesFor (.poll frames)⟩
    | _ => none
  | _ => none

/-- The rule written by this, if it is a rule write that goes well. -/
def written? (b : Board) : Use → Option Rule
  | .call (.install r driveNow) =>
    match (make (.install r driveNow) b).1 with
    | .ok _ => some r
    | _ => none
  | _ => none

end Use

/-- The board after things were done with it in turn. -/
def after (b : Board) (uses : List Use) : Board := uses.foldl Use.run b

/-- What is noted of the things done with a board, in order. -/
def noted {β : Type} (note : Board → Use → Option β) (b : Board) : List Use → List β
  | [] => []
  | u :: rest => (note b u).toList ++ noted note (u.run b) rest

/-- A fault that was injected waits: since then there was no call that it could have been used up
by, and no fault has taken its place. -/
def Waits (uses : List Use) (f : Fault) : Prop :=
  ∃ before later, uses = before ++ .inject f :: later ∧
    ∀ u ∈ later, ¬ u.mayFail ∧ ∀ g, u ≠ .inject g

theorem after_concat (b : Board) (uses : List Use) (u : Use) :
    b.after (uses ++ [u]) = u.run (b.after uses) := by
  rw [after, List.foldl_append]
  rfl

/-! ### Faults -/

theorem waits_concat (uses : List Use) (u : Use) (f : Fault) :
    Waits (uses ++ [u]) f ↔
      u = .inject f ∨ (¬ u.mayFail ∧ ∀ g, u ≠ .inject g) ∧ Waits uses f := by
  constructor
  · rintro ⟨before, later, hsplit, hlater⟩
    rcases List.eq_nil_or_concat' later with rfl | ⟨rest, last, rfl⟩
    · exact .inl (List.singleton_inj.mp (List.append_inj' hsplit rfl).2)
    · rw [← List.cons_append, ← List.append_assoc] at hsplit
      obtain ⟨huses, hlast⟩ := List.append_inj' hsplit rfl
      obtain ⟨hrest, hmine⟩ := List.forall_mem_append.mp hlater
      cases hlast
      exact .inr ⟨hmine u List.mem_cons_self, before, rest, huses, hrest⟩
  · rintro (rfl | ⟨hmine, before, rest, rfl, hrest⟩)
    · exact ⟨uses, [], rfl, List.forall_mem_nil _⟩
    · refine ⟨before, rest ++ [u], ?_, ?_⟩
      · rw [List.append_assoc, List.cons_append]
      · exact List.forall_mem_append.mpr ⟨hrest, List.forall_mem_singleton.mpr hmine⟩

/-- A call leaves no fault behind, but closing leaves it alone. -/
theorem injected_make (c : BoardCall) (b : Board) :
    (make c b).2.injected = if c = .close then b.injected else none := by
  rcases make_cases c b with rfl | ⟨hclose, f, -, hmake⟩ | ⟨hclose, hwrong, hmake⟩
  · rfl
  · rw [if_neg hclose, hmake, spent]
  · have hinjected : b.injected = none := (Option.or_eq_none_iff.mp hwrong).1
    rw [if_neg hclose, hmake]
    cases c <;> exact hinjected

theorem injected_after (uses : List Use) (f : Fault) :
    (after {} uses).injected = some f ↔ Waits uses f := by
  induction uses using List.reverseRecOn with
  | nil =>
    refine iff_of_false nofun ?_
    rintro ⟨before, later, hsplit, -⟩
    exact absurd hsplit.symm (List.append_ne_nil_of_right_ne_nil _ (List.cons_ne_nil _ _))
  | append_singleton uses u ih =>
    rw [after_concat, waits_concat, ← ih]
    cases u with
    | post e => simp [Use.run, post, Use.mayFail]
    | inject g => simp [Use.run, inject]
    | setFrames count => simp [Use.run, Use.mayFail]
    | clearCalls => simp [Use.run, Use.mayFail]
    | call c => by_cases hclose : c = .close <;> simp [Use.run, injected_make, hclose, Use.mayFail]

theorem closed_make (c : BoardCall) (b : Board) :
    (make c b).2.closed = (b.closed || c = .close) := by
  rcases make_cases c b with rfl | ⟨hclose, f, -, hmake⟩ | ⟨hclose, -, hmake⟩
  · exact (Bool.or_true _).symm
  · rw [hmake, decide_eq_false hclose, Bool.or_false, spent]
  · rw [hmake, decide_eq_false hclose, Bool.or_false]
    cases c with
    | close => exact absurd rfl hclose
    | _ => rfl

theorem closed_after (uses : List Use) : (after {} uses).closed ↔ .call .close ∈ uses := by
  induction uses using List.reverseRecOn with
  | nil => exact iff_of_false nofun (List.not_mem_nil)
  | append_singleton uses u ih =>
    rw [after_concat, List.mem_append, List.mem_singleton, ← ih]
    cases u with
    | call c => simp [Use.run, closed_make, @eq_comm _ c BoardCall.close]
    | _ => simp [Use.run, post, inject]

/-- A call fails with the fault that waits, or else because the board was closed. -/
theorem wrong?_after (uses : List Use) (f : Fault) :
    (after {} uses).wrong? = some f ↔
      Waits uses f ∨ (∀ g, ¬ Waits uses g) ∧ .call .close ∈ uses ∧ f = .closed := by
  have hnone : (after {} uses).injected = none ↔ ∀ g, ¬ Waits uses g :=
    Option.eq_none_iff_forall_ne_some.trans
      (forall_congr' fun g => not_congr (injected_after uses g))
  rw [wrong?, Option.or_eq_some_iff, injected_after, hnone, ← closed_after,
    Option.ite_none_right_eq_some, Option.some.injEq, @eq_comm _ Fault.closed f]

/-! ### Events and rules -/

/-- The answer of a poll that goes well ends with the frame events, and before them are the events
that had been queued. -/
theorem answer_served (b : Board) (frames : Bool) :
    let a : Answer := ⟨b.given (.poll frames), b.framesFor (.poll frames)⟩
    a.queued = b.pending ∧ a.events = a.queued ++ List.replicate a.frames .frame := by
  intro a
  have hqueued : a.queued = b.pending := by
    have hlength : a.events.length - a.frames = b.pending.length := by
      simp only [a, given, List.length_append, List.length_replicate]
      omega
    rw [Answer.queued, hlength]
    exact List.take_left
  exact ⟨hqueued, hqueued ▸ rfl⟩

/-- What is noted of a call, and what it does to the queue and the rules: a poll that goes well has
an answer and empties the queue, a rule write that goes well is noted and writes its rule, and any
other call leaves both alone. -/
theorem call_cases (c : BoardCall) (b : Board) :
    let u := Use.call c
    (u.answer? b = none ∧ u.written? b = none ∧ (u.run b).pending = b.pending ∧
        (u.run b).rules = b.rules) ∨
      (∃ frames, u.answer? b = some ⟨b.given (.poll frames), b.framesFor (.poll frames)⟩ ∧
        u.written? b = none ∧ (u.run b).pending = [] ∧ (u.run b).rules = b.rules) ∨
      ∃ r, u.answer? b = none ∧ u.written? b = some r ∧ (u.run b).pending = b.pending ∧
        (u.run b).rules = b.rules.write r := by
  intro u
  have hrun : u.run b = (make c b).2 := rfl
  rw [hrun]
  rcases make_cases c b with rfl | ⟨hclose, f, -, hmake⟩ | ⟨hclose, -, hmake⟩
  · exact .inl ⟨rfl, rfl, rfl, rfl⟩
  · refine .inl ⟨?_, ?_, by rw [hmake, spent], by rw [hmake, spent]⟩
    · cases c <;> simp [u, Use.answer?, hmake]
    · cases c <;> simp [u, Use.written?, hmake]
  · rw [hmake]
    cases c with
    | poll frames => exact .inr (.inl ⟨frames, by simp [u, Use.answer?, hmake], rfl, rfl, rfl⟩)
    | install r driveNow => exact .inr (.inr ⟨r, rfl, by simp [u, Use.written?, hmake], rfl, rfl⟩)
    | close => exact absurd rfl hclose
    | _ => exact .inl ⟨rfl, rfl, rfl, rfl⟩

/-- What a poll hands out of the queue is gone from it, and nothing else is. -/
theorem pending_run (b : Board) (u : Use) :
    (u.answer? b).toList.flatMap Answer.queued ++ (u.run b).pending =
      b.pending ++ u.posted?.toList := by
  cases u with
  | post e => rfl
  | call c =>
    have hposted : (Use.call c).posted? = none := rfl
    rw [hposted, Option.toList_none, List.append_nil]
    rcases call_cases c b with ⟨hanswer, -, hpending, -⟩ | ⟨frames, hanswer, -, hpending, -⟩ |
      ⟨r, hanswer, -, hpending, -⟩
    · rw [hanswer, hpending]
      rfl
    · rw [hanswer, hpending, Option.toList_some, List.flatMap_singleton, List.append_nil]
      exact (answer_served b frames).1
    · rw [hanswer, hpending]
      rfl
  | _ => exact (List.append_nil _).symm

theorem pending_after (b : Board) (uses : List Use) :
    (noted Use.answer? b uses).flatMap Answer.queued ++ (b.after uses).pending =
      b.pending ++ uses.filterMap Use.posted? := by
  induction uses generalizing b with
  | nil => exact (List.append_nil _).symm
  | cons u rest ih =>
    have hafter : b.after (u :: rest) = (u.run b).after rest := rfl
    rw [noted, List.flatMap_append, List.append_assoc, hafter, ih, ← List.append_assoc, pending_run,
      List.append_assoc]
    cases hposted : u.posted? <;> simp [hposted]

/-- Every answer that is noted is one of a poll that went well. -/
theorem events_of_noted {b : Board} {uses : List Use} {a : Answer}
    (h : a ∈ noted Use.answer? b uses) : a.events = a.queued ++ List.replicate a.frames .frame := by
  induction uses generalizing b with
  | nil => exact nomatch h
  | cons u rest ih =>
    rcases List.mem_append.mp h with hfirst | hrest
    · rw [Option.mem_toList] at hfirst
      cases u with
      | call c =>
        rcases call_cases c b with ⟨hanswer, -⟩ | ⟨frames, hanswer, -⟩ | ⟨r, hanswer, -⟩ <;>
          rw [hanswer] at hfirst <;> cases hfirst
        exact (answer_served b frames).2
      | _ => exact nomatch hfirst
    · exact ih hrest

/-- A rule write that goes well writes its rule, and nothing else writes one. -/
theorem rules_run (b : Board) (u : Use) :
    (u.run b).rules = b.rules.writeAll (u.written? b).toList := by
  cases u with
  | call c =>
    rcases call_cases c b with ⟨-, hwritten, -, hrules⟩ | ⟨frames, -, hwritten, -, hrules⟩ |
      ⟨r, -, hwritten, -, hrules⟩ <;> rw [hwritten, hrules] <;> rfl
  | _ => rfl

theorem rules_after (b : Board) (uses : List Use) :
    (b.after uses).rules = b.rules.writeAll (noted Use.written? b uses) := by
  induction uses generalizing b with
  | nil => rfl
  | cons u rest ih =>
    have hafter : b.after (u :: rest) = (u.run b).after rest := rfl
    rw [hafter, ih, rules_run, noted, RuleTable.writeAll, RuleTable.writeAll, RuleTable.writeAll,
      List.foldl_append]

/-- Of an answer the frame events at its end are left out when all frame events are. -/
theorem filter_events_of_noted {b : Board} {uses : List Use} {p : Event → Bool}
    (frame : p .frame = false) :
    ((noted Use.answer? b uses).flatMap Answer.events).filter p =
      ((noted Use.answer? b uses).flatMap Answer.queued).filter p := by
  rw [List.filter_flatMap, List.filter_flatMap]
  refine List.flatMap_congr fun a ha => ?_
  have hframes : (List.replicate a.frames Event.frame).filter p = [] :=
    List.filter_eq_nil_iff.mpr fun e he => by
      rw [(List.mem_replicate.mp he).2, frame]
      exact Bool.false_ne_true
  rw [events_of_noted ha, List.filter_append, hframes, List.append_nil]

/-- Whatever is done with a board, a call other than closing fails with the fault that waits, or if
none does because the board was closed; then nothing but that fault is gone, and otherwise the call
is served in full. The events that were queued are those that the polls that went well have handed
out, followed by those that still wait; the frame events that come with a poll stand at the end of
its answer, and an event of their kind that was queued is one like any other. For a switch and
trigger the board holds what the last of the rule writes that went well said, if that had
directives. -/
theorem uses_accounted (uses : List Use) :
    let b : Board := after {} uses
    let answers := noted Use.answer? {} uses
    let other (e : Event) : Bool := e.kind ≠ .frameDisplayed
    (∀ c f, c ≠ .close → ((make c b).1 = .error f ↔
      Waits uses f ∨ (∀ g, ¬ Waits uses g) ∧ .call .close ∈ uses ∧ f = .closed)) ∧
    (∀ c, c ≠ .close → (∃ f, make c b = (.error f, { b with injected := none })) ∨
      make c b = (.ok (b.given c), b.served c)) ∧
    answers.flatMap Answer.queued ++ b.pending = uses.filterMap Use.posted? ∧
    (∀ a ∈ answers, a.events = a.queued ++ List.replicate a.frames .frame) ∧
    (answers.flatMap Answer.events).filter other ++ b.pending.filter other =
      (uses.filterMap Use.posted?).filter other ∧
    ∀ key rule, b.rules.get? key = some rule ↔
      ∃ before r later, noted Use.written? {} uses = before ++ r :: later ∧ r.key = key ∧
        r.directives ≠ [] ∧ rule = ⟨r.options, r.directives⟩ ∧ ∀ next ∈ later, next.key ≠ key := by
  intro b answers other
  have hevents : answers.flatMap Answer.queued ++ b.pending = uses.filterMap Use.posted? :=
    pending_after {} uses
  refine ⟨fun c f hclose => ?_, fun c hclose => ?_, hevents, fun a ha => events_of_noted ha, ?_,
    fun key rule => ?_⟩
  · rw [← wrong?_after]
    rcases make_cases c b with rfl | ⟨-, g, hwrong, hmake⟩ | ⟨-, hwrong, hmake⟩
    · exact absurd rfl hclose
    · rw [hmake, hwrong]
      simp
    · rw [hmake, hwrong]
      simp
  · rcases make_cases c b with rfl | ⟨-, f, -, hmake⟩ | ⟨-, -, hmake⟩
    · exact absurd rfl hclose
    · exact .inl ⟨f, hmake⟩
    · exact .inr hmake
  · rw [filter_events_of_noted rfl, ← List.filter_append, hevents]
  · rw [rules_after]
    exact RuleTable.get?_writeAll_eq_some_iff

/-- On a closed board an injected fault comes first, and it comes once. -/
example :
    let b := after {} [.call .close, .inject (.unresponsive "tickle")]
    (make .tickle b).1 = .error (.unresponsive "tickle") ∧
      (make .tickle (make .tickle b).2).1 = .error .closed := by
  decide

end Board

end Playfield
