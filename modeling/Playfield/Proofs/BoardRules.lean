import Playfield.FlipperRules
import Playfield.Proofs.Within

/-!
# Writing rules to the board

The board keeps at most one rule for each switch and trigger, so after a list of rules has been
written it holds what the last entry of the list for each pair says. A write that fails leaves the
rules as they are, and the list is written no further.
-/
namespace Playfield

namespace Rule

/-- The switch and trigger a rule is for. -/
def key (r : Rule) : Nat × Trigger := (r.switch, r.trigger)

/-- What the board holds for the pair once the rule is written: nothing without directives. -/
def installed? (r : Rule) : Option InstalledRule :=
  if r.directives.isEmpty then none else some ⟨r.options, r.directives⟩

end Rule

namespace RuleTable

theorem get?_erase (t : RuleTable) (key k : Nat × Trigger) :
    (t.erase key).get? k = if k = key then none else t.get? k := by
  induction t with
  | nil => simp [erase, get?]
  | cons entry rest ih =>
    obtain ⟨place, rule⟩ := entry
    simp only [erase, get?] at ih ⊢
    by_cases hplace : place = key
    · rw [List.filter_cons_of_neg (by simp [hplace]), ih, List.lookup_cons]
      split
      · rfl
      · rename_i hk
        rw [beq_false_of_ne (hplace ▸ hk)]
    · rw [List.filter_cons_of_pos (by simp [hplace]), List.lookup_cons, List.lookup_cons, ih]
      by_cases hk : k = place
      · simp [hk, hplace]
      · simp [beq_false_of_ne hk]

theorem get?_set (t : RuleTable) (key k : Nat × Trigger) (r : InstalledRule) :
    (t.set key r).get? k = if k = key then some r else t.get? k := by
  simp only [set, get?, List.lookup_cons]
  by_cases hk : k = key
  · simp [hk]
  · have := get?_erase t key k
    simp only [get?, if_neg hk] at this
    simp [beq_false_of_ne hk, hk, this]

/-- The table after a rule has been written. -/
def write (t : RuleTable) (r : Rule) : RuleTable :=
  if r.directives.isEmpty then t.erase r.key else t.set r.key ⟨r.options, r.directives⟩

theorem get?_write (t : RuleTable) (r : Rule) (k : Nat × Trigger) :
    (t.write r).get? k = if k = r.key then r.installed? else t.get? k := by
  simp only [write, Rule.installed?]
  split
  · exact get?_erase t r.key k
  · exact get?_set t r.key k _

/-- The table after a list of rules has been written. -/
def writeAll (t : RuleTable) (rules : List Rule) : RuleTable := rules.foldl write t

theorem writeAll_cons (t : RuleTable) (r : Rule) (rest : List Rule) :
    t.writeAll (r :: rest) = (t.write r).writeAll rest := rfl

/-- The last rule of a list for a switch and trigger. -/
def lastFor? (rules : List Rule) (k : Nat × Trigger) : Option Rule :=
  (rules.filter fun r => r.key = k).getLast?

theorem lastFor?_cons (r : Rule) (rest : List Rule) (k : Nat × Trigger) :
    lastFor? (r :: rest) k = (lastFor? rest k).or (if k = r.key then some r else none) := by
  simp only [lastFor?]
  by_cases hk : k = r.key
  · rw [List.filter_cons_of_pos (by simp [hk]), List.getLast?_cons, if_pos hk]
    cases (rest.filter fun r => r.key = k).getLast? <;> rfl
  · rw [List.filter_cons_of_neg (by simpa using Ne.symm hk), if_neg hk, Option.or_none]

theorem lastFor?_eq_some_iff {rules : List Rule} {k : Nat × Trigger} {r : Rule} :
    lastFor? rules k = some r ↔
      ∃ before later, rules = before ++ r :: later ∧ r.key = k ∧ ∀ next ∈ later, next.key ≠ k := by
  constructor
  · intro hlast
    obtain ⟨earlier, hfilter⟩ := List.getLast?_eq_some_iff.mp hlast
    obtain ⟨before, rest, rfl, -, hrest⟩ := List.filter_eq_append_iff.mp hfilter
    obtain ⟨between, later, rfl, -, hkey, hlater⟩ := List.filter_eq_cons_iff.mp hrest
    refine ⟨before ++ between, later, (List.append_assoc _ _ _).symm, of_decide_eq_true hkey, ?_⟩
    exact fun next hnext hsame =>
      List.filter_eq_nil_iff.mp hlater next hnext (decide_eq_true hsame)
  · rintro ⟨before, later, rfl, hkey, hlater⟩
    have hnone : (later.filter fun next => next.key = k) = [] :=
      List.filter_eq_nil_iff.mpr fun next hnext hsame => hlater next hnext (of_decide_eq_true hsame)
    rw [lastFor?, List.filter_append, List.filter_cons_of_pos (by simpa using hkey), hnone]
    exact List.getLast?_concat

/-- A pair of a list has a last rule, and that is one of the list. -/
theorem exists_lastFor {rules : List Rule} {r : Rule} (h : r ∈ rules) :
    ∃ last ∈ rules, last.key = r.key ∧ lastFor? rules r.key = some last := by
  have hr : r ∈ rules.filter fun other => other.key = r.key := List.mem_filter.mpr ⟨h, by simp⟩
  have hne : (rules.filter fun other => other.key = r.key) ≠ [] := List.ne_nil_of_mem hr
  obtain ⟨hlast, hkey⟩ := List.mem_filter.mp (List.getLast_mem hne)
  exact ⟨_, hlast, of_decide_eq_true hkey, List.getLast?_eq_some_getLast hne⟩

/-- For each pair the table holds what the last rule written for it says. -/
theorem get?_writeAll (t : RuleTable) (rules : List Rule) (k : Nat × Trigger) :
    (t.writeAll rules).get? k =
      match lastFor? rules k with
      | some r => r.installed?
      | none => t.get? k := by
  induction rules generalizing t with
  | nil => rfl
  | cons r rest ih =>
    rw [writeAll_cons, ih, lastFor?_cons, get?_write]
    cases lastFor? rest k with
    | some last => rfl
    | none => by_cases hk : k = r.key <;> simp [hk]

/-- A table that was empty holds what the last rule written for a pair says, if that has directives.
-/
theorem get?_writeAll_eq_some_iff {rules : List Rule} {k : Nat × Trigger} {rule : InstalledRule} :
    (writeAll [] rules).get? k = some rule ↔
      ∃ before r later, rules = before ++ r :: later ∧ r.key = k ∧ r.directives ≠ [] ∧
        rule = ⟨r.options, r.directives⟩ ∧ ∀ next ∈ later, next.key ≠ k := by
  have hinstalled (r : Rule) :
      r.installed? = some rule ↔ r.directives ≠ [] ∧ rule = ⟨r.options, r.directives⟩ := by
    rw [Rule.installed?, Option.ite_none_left_eq_some, List.isEmpty_iff, Option.some.injEq,
      @eq_comm _ rule]
  have hlast : (writeAll [] rules).get? k = some rule ↔
      ∃ r, lastFor? rules k = some r ∧ r.installed? = some rule := by
    rw [get?_writeAll]
    cases lastFor? rules k <;> simp [get?]
  simp only [hlast, lastFor?_eq_some_iff, hinstalled]
  constructor
  · rintro ⟨r, ⟨before, later, hsplit, hkey, hlater⟩, hbusy, hrule⟩
    exact ⟨before, r, later, hsplit, hkey, hbusy, hrule, hlater⟩
  · rintro ⟨before, r, later, hsplit, hkey, hbusy, hrule, hlater⟩
    exact ⟨r, ⟨before, later, hsplit, hkey, hlater⟩, hbusy, hrule⟩

/-- Each pair of the rules has on the board what its last rule says. -/
def Shows (t : RuleTable) (rules : List Rule) : Prop :=
  ∀ r ∈ rules, t.get? r.key = (lastFor? rules r.key).map fun last =>
    ⟨last.options, last.directives⟩

instance (t : RuleTable) (rules : List Rule) : Decidable (t.Shows rules) :=
  inferInstanceAs (Decidable (∀ _ ∈ _, _))

/-- A list of rules that all have directives is shown once it is written. -/
theorem shows_writeAll (t : RuleTable) {rules : List Rule}
    (busy : ∀ r ∈ rules, r.directives ≠ []) : (t.writeAll rules).Shows rules := by
  intro r hr
  obtain ⟨last, hlast, -, hfor⟩ := exists_lastFor hr
  rw [get?_writeAll, hfor, Option.map_some]
  simp [Rule.installed?, busy last hlast]

end RuleTable

/-! ### Calls to the board -/

namespace Board

/-- The rules on the board and the number of rule writes so far. -/
abbrev ruling (b : Board) : RuleTable × Nat := (b.rules, b.ruleWrites)

/-- The board after a rule has been written. -/
def ruled (b : Board) (r : Rule) : Board :=
  { b with rules := b.rules.write r, ruleWrites := b.ruleWrites + 1 }

/-- A call goes on to its work, or fails and uses up the injected fault. -/
theorem check_cases (b : Board) :
    check b = (.ok (), b) ∨ ∃ f, check b = (.error f, { b with injected := none }) := by
  simp only [check]
  split
  · exact .inr ⟨_, rfl⟩
  · rename_i h
    split
    · exact .inr ⟨_, by rw [← h]⟩
    · exact .inl rfl

theorem install_cases (r : Rule) (b : Board) :
    install r false b = (.ok (), b.ruled r) ∨
      ∃ f, install r false b = (.error f, { b with injected := none }) := by
  rcases check_cases b with h | ⟨f, h⟩
  · left
    rw [install, Act.bind_ok h, ruled, RuleTable.write]
    by_cases hempty : r.directives.isEmpty <;> simp only [hempty] <;> rfl
  · exact .inr ⟨f, Act.bind_error h⟩

theorem drive_cases (c : DriverCall) (b : Board) :
    drive c b = (.ok (), { b with calls := b.calls.push c }) ∨
      ∃ f, drive c b = (.error f, { b with injected := none }) := by
  rcases check_cases b with h | ⟨f, h⟩
  · left
    rw [drive, Act.bind_ok h]
    rfl
  · exact .inr ⟨f, Act.bind_error h⟩

end Board

namespace Bench
variable {α : Type}

/-- A call panics before it reaches the board, or does to the board, with the fault planned for it
injected, what the board does. -/
theorem call_cases (c : BoardCall) (reply : α → Reply) (onBoard : Act Fault Board α) (b : Bench) :
    (∃ message, (call c reply onBoard b).1 = .panic message ∧
        (call c reply onBoard b).2.board = b.board) ∨
      ∃ injected, (call c reply onBoard b).1 = (onBoard { b.board with injected }).1 ∧
        (call c reply onBoard b).2.board = (onBoard { b.board with injected }).2 := by
  have hrun (b : Bench) : (call.run c reply onBoard b).1 = (onBoard b.board).1 ∧
      (call.run c reply onBoard b).2.board = (onBoard b.board).2 := by
    simp only [call.run]
    split <;> rename_i h <;> rw [h] <;> exact ⟨rfl, rfl⟩
  simp only [call]
  split
  · exact .inl ⟨_, rfl, rfl⟩
  · exact .inr ⟨_, hrun _⟩
  · exact .inr ⟨b.board.injected, hrun _⟩

/-- A rule write that goes well writes the rule, and any other ending leaves the rules alone. It
drives no output. -/
theorem install_spec (r : Rule) (b : Bench) :
    (install r false b).2.board.calls = b.board.calls ∧
      (if (install r false b).1 = .ok () then
        (install r false b).2.board.ruling = (b.board.ruled r).ruling
      else (install r false b).2.board.ruling = b.board.ruling) := by
  rcases call_cases (.install r false) (fun _ => .done) (Board.install r false) b with
    ⟨message, hend, hboard⟩ | ⟨injected, hend, hboard⟩
  · rw [install, hend, hboard]
    exact ⟨rfl, rfl⟩
  · rw [install, hend, hboard]
    rcases Board.install_cases r { b.board with injected } with h | ⟨f, h⟩ <;> rw [h] <;>
      exact ⟨rfl, rfl⟩

/-- A call that drives an output is recorded if it goes well. It leaves the rules alone. -/
theorem drive_spec (c : DriverCall) (b : Bench) :
    (drive c b).2.board.ruling = b.board.ruling ∧
      (drive c b).2.board.calls =
        if (drive c b).1 = .ok () then b.board.calls.push c else b.board.calls := by
  rcases call_cases (.drive c) (fun _ => .done) (Board.drive c) b with
    ⟨message, hend, hboard⟩ | ⟨injected, hend, hboard⟩
  · rw [drive, hend, hboard]
    exact ⟨rfl, rfl⟩
  · rw [drive, hend, hboard]
    rcases Board.drive_cases c { b.board with injected } with h | ⟨f, h⟩ <;> rw [h] <;>
      exact ⟨rfl, rfl⟩

end Bench

/-! ### Lists of rules -/

namespace FlipperRules

/-- Writing a list of rules writes a first part of it, and all of it if it goes well. It drives no
output and orders nothing of a driver. -/
theorem installAll_spec (rules : List Rule) (s : DriverBank × Bench) :
    ∃ written rest, rules = written ++ rest ∧
      (installAll rules s).2.1 = s.1 ∧
      (installAll rules s).2.2.board.calls = s.2.board.calls ∧
      (installAll rules s).2.2.board.ruling =
        (s.2.board.rules.writeAll written, s.2.board.ruleWrites + written.length) ∧
      ((installAll rules s).1 = .ok () → rest = []) := by
  induction rules generalizing s with
  | nil => exact ⟨[], [], rfl, rfl, rfl, rfl, fun _ => rfl⟩
  | cons r rules ih =>
    obtain ⟨bank, b⟩ := s
    obtain ⟨hcalls, hrules⟩ := Bench.install_spec r b
    rcases hinstall : Bench.install r false b with ⟨outcome, b'⟩
    have hfirst : (Act.second (Bench.install r false) : Act Fault (DriverBank × Bench) Unit)
        (bank, b) = (outcome, bank, b') := by
      simp only [Act.second, Act.zoom, hinstall]
    rw [hinstall] at hcalls hrules
    rw [installAll, Act.each_cons]
    cases outcome with
    | ok value =>
      rw [Act.bind_ok hfirst]
      obtain ⟨written, rest, hsplit, hbank, hcalls', hrules', hall⟩ := ih (bank, b')
      have hruling : b'.board.ruling = (b.board.ruled r).ruling := hrules
      have hwrote : b'.board.rules = b.board.rules.write r := congrArg Prod.fst hruling
      have hcount : b'.board.ruleWrites = b.board.ruleWrites + 1 := congrArg Prod.snd hruling
      refine ⟨r :: written, rest, by rw [hsplit]; rfl, hbank, hcalls'.trans hcalls, ?_, hall⟩
      rw [RuleTable.writeAll_cons, List.length_cons, ← hwrote]
      have : b.board.ruleWrites + (written.length + 1) = b'.board.ruleWrites + written.length := by
        omega
      rw [this]
      exact hrules'
    | error f =>
      rw [Act.bind_error hfirst]
      exact ⟨[], r :: rules, rfl, rfl, hcalls, hrules, fun h => nomatch h⟩
    | panic message =>
      rw [Act.bind_panic hfirst]
      exact ⟨[], r :: rules, rfl, rfl, hcalls, hrules, fun h => nomatch h⟩

end FlipperRules

end Playfield
