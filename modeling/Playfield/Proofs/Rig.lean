import Mathlib.Data.List.Induction
import Playfield.Proofs.Accepted
import Playfield.Proofs.HeldHandlers
import Playfield.Proofs.Outputs

/-!
# Flipper rules over whole histories

A rig is the flipper rules of a table with the drivers and the board they act on. Its history is any
sequence of deeds: turning the rules on and off, orders to drivers, and whatever else befalls the
bench, as long as nothing but the rules themselves writes rules. Any call may fail or panic
part-way.

Turning the rules off, if it goes well, leaves the rig safe, whatever came before. Turning them on,
if it writes rules and goes well, leaves all of them on the board; if it writes none because the
rules count as on, they are all there just if no rule was taken away since they were written.
-/
namespace Playfield

namespace FlipperRules

/-- Everything about the rules but the flag that they are on. -/
def parts (r : FlipperRules) : FlipperRules := { r with enabled := false }

/-- The outputs that turning the rules off turns off: the flipper coils, then the relay. -/
def outputs (r : FlipperRules) : List Nat := r.coils ++ r.relay.toList

@[simp] theorem outputs_parts (r : FlipperRules) : r.parts.outputs = r.outputs := rfl

theorem onClose_ne_nil (r : FlipperRules) (f : Flipper) : r.onClose f ≠ [] := by
  simp only [onClose]
  split <;> exact List.cons_ne_nil _ _

theorem onOpen_ne_nil (r : FlipperRules) (f : Flipper) : r.onOpen f ≠ [] := by
  simp only [onOpen]
  split <;> exact List.cons_ne_nil _ _

theorem mem_compile {r : FlipperRules} {enable : Bool} {rule : Rule} :
    rule ∈ r.compile enable ↔ (∃ f ∈ r.flippers, rule ∈ r.flipperRules enable f) ∨
      ∃ b ∈ r.bumpers, bumperRule enable b = rule := by
  rw [compile, List.mem_append, List.mem_flatMap, List.mem_map]

/-- Every rule that turns something on has directives. -/
theorem directives_ne_nil {r : FlipperRules} {rule : Rule} (h : rule ∈ r.compile true) :
    rule.directives ≠ [] := by
  rcases mem_compile.mp h with ⟨f, -, hrule⟩ | ⟨b, -, rfl⟩
  · simp only [flipperRules, if_true, List.mem_cons, List.not_mem_nil, or_false] at hrule
    rcases hrule with rfl | rfl
    · exact r.onClose_ne_nil f
    · exact r.onOpen_ne_nil f
  · exact List.cons_ne_nil _ _

/-- No rule that turns something off has directives. -/
theorem directives_eq_nil {r : FlipperRules} {rule : Rule} (h : rule ∈ r.compile false) :
    rule.directives = [] := by
  rcases mem_compile.mp h with ⟨f, -, hrule⟩ | ⟨b, -, rfl⟩
  · simp only [flipperRules, Bool.false_eq_true, if_false, List.mem_cons, List.not_mem_nil,
      or_false] at hrule
    rcases hrule with rfl | rfl <;> rfl
  · rfl

/-- Turning the rules off writes to the same pairs as turning them on, in the same order. -/
theorem keys_compile (r : FlipperRules) :
    (r.compile false).map Rule.key = (r.compile true).map Rule.key := by
  simp only [compile, List.map_append, List.map_flatMap, List.map_map]
  rfl

theorem exists_key {r : FlipperRules} {enable : Bool} {rule : Rule} (h : rule ∈ r.compile enable)
    (other : Bool) : ∃ rule' ∈ r.compile other, rule'.key = rule.key := by
  have hkeys : (r.compile enable).map Rule.key = (r.compile other).map Rule.key := by
    cases enable <;> cases other <;> simp only [keys_compile]
  exact List.mem_map.mp (hkeys ▸ List.mem_map_of_mem h)

/-- The calls to drivers that follow the rules. -/
def switchOutputs (r : FlipperRules) (enable : Bool) (now : Span) :
    Act Fault (DriverBank × Bench) Unit :=
  if enable then Act.each (fun n => DriverBank.holdNumber n now) r.relay.toList
  else Act.each (fun n => DriverBank.disableNumber n now) r.outputs

theorem apply_eq (r : FlipperRules) (enable : Bool) (now : Span) :
    r.apply enable now =
      (.second (Bench.log .debug ("setting flippers enabled to " ++ toString enable)) >>= fun _ =>
        installAll (r.compile enable) >>= fun _ => r.switchOutputs enable now) := by
  simp only [apply, switchOutputs, outputs, Act.each_append]
  cases enable <;> cases r.relay <;>
    simp only [Bool.not_true, Bool.not_false, Bool.false_eq_true, if_true, if_false,
      Option.toList_none, Option.toList_some, Act.each_nil, Act.each_singleton]

theorem fixed_switchOutputs (r : FlipperRules) (enable : Bool) (now : Span) :
    (r.switchOutputs enable now).Keeps DriverBank.fixed :=
  .ite (.each (fun n => DriverBank.fixed_holdNumber n now) _)
    (.each (fun n => DriverBank.fixed_disableNumber n now) _)

/-- Turning the rules on or off writes a first part of the rules, all of them if it goes well, and
keeps the plan of the drivers. -/
theorem apply_spec (r : FlipperRules) (enable : Bool) (now : Span) (s : DriverBank × Bench) :
    ∃ written rest, r.compile enable = written ++ rest ∧
      (r.apply enable now s).2.1.drivers.plan = s.1.drivers.plan ∧
      (r.apply enable now s).2.2.board.ruling =
        (s.2.board.rules.writeAll written, s.2.board.ruleWrites + written.length) ∧
      ((r.apply enable now s).1 = .ok () → rest = [] ∧ ∃ mid,
        mid.1 = s.1 ∧ r.switchOutputs enable now mid = r.apply enable now s) := by
  obtain ⟨bank, b⟩ := s
  rw [apply_eq]
  let logged := b.remark .debug ("setting flippers enabled to " ++ toString enable)
  have hlog : (Act.second (Bench.log .debug ("setting flippers enabled to " ++ toString enable)) :
      Act Fault (DriverBank × Bench) Unit) (bank, b) = (.ok (), bank, logged) := rfl
  rw [Act.bind_ok hlog]
  obtain ⟨written, rest, hsplit, hbank, -, hruling, hall⟩ :=
    installAll_spec (r.compile enable) (bank, logged)
  refine ⟨written, rest, hsplit, ?_⟩
  rcases hinstall : installAll (r.compile enable) (bank, logged) with ⟨outcome, mid⟩
  rw [hinstall] at hbank hruling hall
  have hbank : mid.1 = bank := hbank
  cases outcome with
  | ok value =>
    rw [Act.bind_ok hinstall]
    have hfixed : DriverBank.fixed (r.switchOutputs enable now mid).2 = DriverBank.fixed mid :=
      r.fixed_switchOutputs enable now mid
    exact ⟨(congrArg Prod.fst hfixed).trans (congrArg (fun bank => bank.drivers.plan) hbank),
      (congrArg Prod.snd hfixed).trans hruling, fun _ => ⟨hall rfl, mid, hbank, rfl⟩⟩
  | error f =>
    rw [Act.bind_error hinstall]
    exact ⟨congrArg (fun bank => bank.drivers.plan) hbank, hruling, fun h => nomatch h⟩
  | panic message =>
    rw [Act.bind_panic hinstall]
    exact ⟨congrArg (fun bank => bank.drivers.plan) hbank, hruling, fun h => nomatch h⟩

/-- If turning the rules on or off goes well, all rules have been written and the calls to drivers
came last. -/
theorem apply_ok {r : FlipperRules} {enable : Bool} {now : Span} {s : DriverBank × Bench}
    (h : (r.apply enable now s).1 = .ok ()) :
    (r.apply enable now s).2.2.board.rules = s.2.board.rules.writeAll (r.compile enable) ∧
      ∃ mid, mid.1 = s.1 ∧ r.switchOutputs enable now mid = r.apply enable now s := by
  obtain ⟨written, rest, hsplit, -, hruling, hall⟩ := r.apply_spec enable now s
  obtain ⟨rfl, houtputs⟩ := hall h
  rw [List.append_nil] at hsplit
  exact ⟨hsplit ▸ congrArg Prod.fst hruling, houtputs⟩

end FlipperRules

/-! ### Rigs and their histories -/

/-- The flipper rules of a table with the drivers and the board they act on. -/
abbrev Rig := FlipperRules × DriverBank × Bench

/-- Something that befalls the bench and writes no rule: faults planned or injected, events, polls,
calls that keep the board awake, closing. -/
structure Incident where
  befall : Bench → Bench
  ruling : ∀ b, (befall b).board.ruling = b.board.ruling

/-- One step of a rig's history. -/
inductive Deed where
  | setEnabled (enable : Bool) (now : Span)
  | obey (order : Order) (now : Span)
  | holdNumber (number : Nat) (now : Span)
  | disableNumber (number : Nat) (now : Span)
  | tick (now : Span)
  | incident (i : Incident)

/-- The rig after a deed, whichever way the deed ended. -/
def Deed.run : Deed → Rig → Rig
  | .setEnabled enable now, s => (FlipperRules.setEnabled enable now s).2
  | .obey order now, (r, s) => (r, (DriverBank.obey order now s).2)
  | .holdNumber number now, (r, s) => (r, (DriverBank.holdNumber number now s).2)
  | .disableNumber number now, (r, s) => (r, (DriverBank.disableNumber number now s).2)
  | .tick now, (r, s) => (r, (DriverBank.tick now s).2)
  | .incident i, (r, bank, b) => (r, bank, i.befall b)

namespace Rig

/-- The rig after a sequence of deeds. -/
def after (s : Rig) (history : List Deed) : Rig := history.foldl (fun s d => d.run s) s

theorem after_append (s : Rig) (first rest : List Deed) :
    s.after (first ++ rest) = (s.after first).after rest := List.foldl_append

/-- The rules on the board and the number of rule writes so far. -/
abbrev ruling (s : Rig) : RuleTable × Nat := s.2.2.board.ruling

/-- The rules say that they are on. -/
abbrev enabled (s : Rig) : Bool := s.1.enabled

/-- Everything about the rules but the flag, and the plan of the drivers. -/
abbrev design (s : Rig) :
    FlipperRules × List (Nat × Nat) × List (String × Nat) × List (Nat × String) :=
  (s.1.parts, s.2.1.drivers.plan)

/-- Every rule that turns something on is on the board, the last one for each pair. -/
def Live (s : Rig) : Prop := s.2.2.board.rules.Shows (s.1.compile true)

/-- A rule that turns something on is missing from the board. -/
def Lacks (s : Rig) : Prop := ∃ rule ∈ s.1.compile true, s.2.2.board.rules.get? rule.key = none

theorem Lacks.not_live {s : Rig} (h : s.Lacks) : ¬ s.Live := by
  intro live
  obtain ⟨rule, hrule, hnone⟩ := h
  obtain ⟨last, -, -, hlast⟩ := RuleTable.exists_lastFor hrule
  have hshown := live rule hrule
  rw [hnone, hlast] at hshown
  exact nomatch hshown

end Rig

namespace FlipperRules

/-- What turning the rules on or off does to a rig. If the rules are to be turned on and count as on
nothing is done. Otherwise the rig is left as applying the rules leaves it, with the flag changed if
that went well. -/
theorem setEnabled_cases (enable : Bool) (now : Span) (s : Rig) :
    (enable = true ∧ s.enabled = true ∧ setEnabled enable now s = (.ok false, s)) ∨
      (¬ (enable = true ∧ s.enabled = true) ∧
        ((s.1.apply enable now s.2).1 = .ok () ∧ setEnabled enable now s =
            (.ok true, { s.1 with enabled := enable }, (s.1.apply enable now s.2).2) ∨
          (s.1.apply enable now s.2).1 ≠ .ok () ∧ (∀ b, (setEnabled enable now s).1 ≠ .ok b) ∧
            (setEnabled enable now s).2 = (s.1, (s.1.apply enable now s.2).2))) := by
  obtain ⟨r, s⟩ := s
  simp only [setEnabled]
  split
  · rename_i hon
    obtain ⟨henable, hflag⟩ := Bool.and_eq_true_iff.mp hon
    exact .inl ⟨henable, hflag, rfl⟩
  · rename_i hon
    refine .inr ⟨fun h => hon (Bool.and_eq_true_iff.mpr h), ?_⟩
    split <;> rename_i happly <;> rw [happly]
    · exact .inl ⟨rfl, rfl⟩
    · exact .inr ⟨by simp, by simp, rfl⟩
    · exact .inr ⟨by simp, by simp, rfl⟩

theorem design_setEnabled (enable : Bool) (now : Span) :
    (setEnabled enable now).Keeps Rig.design := by
  intro s
  obtain ⟨-, -, -, hplan, -, -⟩ := s.1.apply_spec enable now s.2
  rcases setEnabled_cases enable now s with ⟨-, -, h⟩ | ⟨-, ⟨-, h⟩ | ⟨-, -, h⟩⟩ <;> rw [h]
  · exact congrArg (Prod.mk _) hplan
  · exact congrArg (Prod.mk _) hplan

end FlipperRules

/-- No deed changes the numbers and names a rig was built with. -/
theorem Deed.design_run (d : Deed) (s : Rig) : (d.run s).design = s.design := by
  cases d with
  | setEnabled enable now => exact FlipperRules.design_setEnabled enable now s
  | obey order now =>
    exact congrArg (fun p => (s.1.parts, p.1)) (DriverBank.fixed_obey order now s.2)
  | holdNumber number now =>
    exact congrArg (fun p => (s.1.parts, p.1)) (DriverBank.fixed_holdNumber number now s.2)
  | disableNumber number now =>
    exact congrArg (fun p => (s.1.parts, p.1)) (DriverBank.fixed_disableNumber number now s.2)
  | tick now => exact congrArg (fun p => (s.1.parts, p.1)) (DriverBank.fixed_tick now s.2)
  | incident i => rfl

theorem Rig.design_after (s : Rig) (history : List Deed) : (s.after history).design = s.design := by
  induction history generalizing s with
  | nil => rfl
  | cons d rest ih => exact (ih (d.run s)).trans (d.design_run s)

/-- No deed but turning the rules on or off writes a rule or changes the flag. -/
theorem Deed.ruling_run {d : Deed} (other : ∀ enable now, d ≠ .setEnabled enable now) (s : Rig) :
    (d.run s).ruling = s.ruling ∧ (d.run s).1 = s.1 := by
  cases d with
  | setEnabled enable now => exact absurd rfl (other enable now)
  | obey order now => exact ⟨congrArg Prod.snd (DriverBank.fixed_obey order now s.2), rfl⟩
  | holdNumber number now =>
    exact ⟨congrArg Prod.snd (DriverBank.fixed_holdNumber number now s.2), rfl⟩
  | disableNumber number now =>
    exact ⟨congrArg Prod.snd (DriverBank.fixed_disableNumber number now s.2), rfl⟩
  | tick now => exact ⟨congrArg Prod.snd (DriverBank.fixed_tick now s.2), rfl⟩
  | incident i => exact ⟨i.ruling s.2.2, rfl⟩

namespace Incident

/-- A fault or panic is planned for the call after so many others. -/
def plan (after : Nat) (m : Mishap) : Incident := ⟨fun b => b.plan after m, fun _ => rfl⟩

end Incident

/-- The rig of a table on a new bench. -/
def TableConfig.rig (c : TableConfig) (timing : FlipperTiming) : Except (List Problem) Rig := do
  let store ← c.switchStore
  let bank ← c.driverBank
  let rules ← FlipperRules.resolve c store bank timing
  return (rules, bank, {})

/-- A value that was delivered and seen to have a property is one with the property. -/
theorem exists_of_seen {ε α : Type} {P : α → Prop} [DecidablePred P] {x : Except ε α}
    (seen : x.map (fun a => decide (P a)) = .ok true) : ∃ a, x = .ok a ∧ P a := by
  cases x with
  | error e => exact nomatch seen
  | ok a => exact ⟨a, rfl, of_decide_eq_true (Except.ok.inj seen)⟩

/-- A table with a flipper, a bumper at the flipper's switch, and a relay. -/
def flipperTable : TableConfig where
  machineType := .wpc
  switches := [{ name := "left", number := 9 }]
  coils := [{ name := "leftMain", number := 5 }, { name := "leftHold", number := 6 },
    { name := "left", number := 7 }, { name := "power", number := 8 }]
  flippers := ["left"]
  bumpers := ["left"]
  flipperRelay := some "power"

/-! ### Turning the rules off -/

namespace Rig

/-- The outputs of the rules are drivers of the bank. -/
structure Fits (s : Rig) : Prop where
  coherent : s.2.1.drivers.Coherent
  has : ∀ n ∈ s.1.outputs, s.2.1.Has n

theorem outputs_of_design {s t : Rig} (same : t.design = s.design) :
    t.1.outputs = s.1.outputs := by
  have hparts : t.1.parts = s.1.parts := congrArg Prod.fst same
  rw [← t.1.outputs_parts, hparts, FlipperRules.outputs_parts]

theorem Fits.of_design {s t : Rig} (h : s.Fits) (same : t.design = s.design) : t.Fits := by
  have hplan : t.2.1.drivers.plan = s.2.1.drivers.plan := congrArg Prod.snd same
  exact ⟨h.coherent.of_plan hplan, fun n hn =>
    Registry.isSome_get?_of_plan hplan (h.has n (outputs_of_design same ▸ hn))⟩

/-- No rule is on the board that turns something on, the outputs were turned off last, and the
rules say that they are off. -/
structure Safe (s : Rig) : Prop where
  bare : ∀ rule ∈ s.1.compile true, s.2.2.board.rules.get? rule.key = none
  off : ∀ n ∈ s.1.outputs, DriverBank.Off s.2 n
  flag : s.enabled = false

/-- Turning the rules off, if it goes well, writes all of them, and no rule is left that turns
something on. -/
theorem bare_of_setEnabled {s : Rig} {now : Span} {wrote : Bool}
    (h : (FlipperRules.setEnabled false now s).1 = .ok wrote) :
    (s.1.apply false now s.2).1 = .ok () ∧
      (FlipperRules.setEnabled false now s).2 =
        ({ s.1 with enabled := false }, (s.1.apply false now s.2).2) ∧
      ∀ rule ∈ s.1.compile true,
        (FlipperRules.setEnabled false now s).2.2.2.board.rules.get? rule.key = none := by
  rcases FlipperRules.setEnabled_cases false now s with ⟨hfalse, -⟩ | ⟨-, ⟨hok, hrun⟩ | ⟨-, hne, -⟩⟩
  · cases hfalse
  · refine ⟨hok, congrArg Prod.snd hrun, fun rule hrule => ?_⟩
    obtain ⟨rule', hrule', hkey⟩ := FlipperRules.exists_key (r := s.1) hrule false
    obtain ⟨last, hlast, -, hfor⟩ := RuleTable.exists_lastFor hrule'
    rw [hrun, (FlipperRules.apply_ok hok).1, ← hkey, RuleTable.get?_writeAll, hfor]
    simp [Rule.installed?, FlipperRules.directives_eq_nil hlast]
  · exact absurd h (hne wrote)

/-- Turning the rules off, if it goes well, leaves the rig safe. -/
theorem Fits.safe {s : Rig} (fits : s.Fits) {now : Span} {wrote : Bool}
    (h : (FlipperRules.setEnabled false now s).1 = .ok wrote) :
    Safe (FlipperRules.setEnabled false now s).2 := by
  obtain ⟨hok, hrun, hbare⟩ := bare_of_setEnabled h
  rw [hrun] at hbare ⊢
  refine ⟨hbare, fun n hn => ?_, rfl⟩
  obtain ⟨-, mid, hmid, houtputs⟩ := FlipperRules.apply_ok hok
  have hend : s.1.switchOutputs false now mid = (.ok (), (s.1.apply false now s.2).2) :=
    houtputs.trans (Prod.ext hok rfl)
  exact DriverBank.off_each (hmid ▸ fits.coherent) (hmid ▸ fits.has) hend n (.inl hn)

end Rig

/-- The rules made from a table fit the drivers made from it, on any bench. -/
theorem Rig.fits_of_resolve {c : TableConfig} {store : SwitchStore} {bank : DriverBank}
    {timing : FlipperTiming} {r : FlipperRules} (hbank : c.driverBank = .ok bank)
    (hrules : FlipperRules.resolve c store bank timing = .ok r) (b : Bench) :
    Rig.Fits (r, bank, b) := by
  have coherent := (TableConfig.driverBank_ok hbank).1
  have has {name : String} {d : Driver} (hfind : bank.find? name = some d) :
      bank.Has d.number := by
    have hmem := (coherent.find?_iff.mp hfind).1
    exact Option.isSome_iff_exists.mpr ⟨d, coherent.get?_iff.mpr ⟨hmem, rfl⟩⟩
  have resolved := FlipperRules.resolved_of_resolve hrules
  refine ⟨coherent, fun n hn => ?_⟩
  rcases List.mem_append.mp hn with hcoil | hrelay
  · obtain ⟨f, hf, hn⟩ := List.mem_flatMap.mp hcoil
    obtain ⟨name, -, hparts⟩ := resolved.flipper_iff.mp hf
    rcases List.mem_cons.mp hn with rfl | hhold
    · obtain ⟨d, hfind, hnumber⟩ := hparts.main
      exact hnumber ▸ has hfind
    · have hkind := hparts.hold
      rw [Option.mem_toList] at hhold
      split at hkind
      · obtain ⟨d, hfind, hnumber⟩ := hkind
        rw [hhold, Option.some.injEq] at hnumber
        exact hnumber ▸ has hfind
      · rw [hkind] at hhold
        cases hhold
  · have hrelation := resolved.relay
    rw [Option.mem_toList] at hrelay
    split at hrelation
    · obtain ⟨d, hfind, hnumber⟩ := hrelation
      rw [hrelay, Option.some.injEq] at hnumber
      exact hnumber ▸ has hfind
    · rw [hrelation] at hrelay
      cases hrelay

namespace Machine
variable {σ κ : Type}

/-- The rig of a machine. -/
def rig (m : Machine σ κ) : Rig := (m.engine.rules, m.cabinet.drivers, m.cabinet.bench)

theorem Built.rig_fits {m : Machine σ κ} (built : m.Built) : m.rig.Fits := by
  obtain ⟨c, settings, cabinet, memory, hook, catalogue, hbuild⟩ := built
  obtain ⟨_, -, hassemble⟩ := exists_of_bind hbuild
  obtain ⟨switches, -, hrest⟩ := exists_of_bind hassemble
  obtain ⟨drivers, hdrivers, hrest⟩ := exists_of_bind hrest
  obtain ⟨rules, hrules, hrest⟩ := exists_of_bind hrest
  cases hrest
  exact Rig.fits_of_resolve hdrivers hrules _

/-- For a machine that has been built, and after any history of its rig, turning the rules off, if
it goes well, takes every rule off the board that turns something on, makes the last call for every
flipper coil and the relay one that turns it off, leaves each of them off in the model, and leaves
the flag down. -/
theorem rules_off_safe {m : Machine σ κ} (built : m.Built) (history : List Deed) (now : Span)
    {wrote : Bool} (h : (FlipperRules.setEnabled false now (m.rig.after history)).1 = .ok wrote) :
    let rig : Rig := (FlipperRules.setEnabled false now (m.rig.after history)).2
    (∀ rule ∈ rig.1.compile true, rig.2.2.board.rules.get? (rule.switch, rule.trigger) = none) ∧
      (∀ n, (∃ f ∈ rig.1.flippers, n = f.main ∨ f.hold = some n) ∨ rig.1.relay = some n →
        DriverBank.lastCall? rig.2.2.board.calls n = some (.disable n) ∧
        ∃ d, rig.2.1.get? n = some d ∧ d.status = .off) ∧
      rig.1.enabled = false := by
  intro rig
  have fits : (m.rig.after history).Fits := built.rig_fits.of_design (m.rig.design_after history)
  have safe : rig.Safe := fits.safe h
  refine ⟨safe.bare, fun n hn => ?_, safe.flag⟩
  have houtput : n ∈ rig.1.outputs := by
    rcases hn with ⟨f, hf, hn⟩ | hrelay
    · refine List.mem_append_left _ (List.mem_flatMap.mpr ⟨f, hf, ?_⟩)
      rcases hn with rfl | hhold
      · exact List.mem_cons_self
      · exact List.mem_cons_of_mem _ (Option.mem_toList.mpr hhold)
    · exact List.mem_append_right _ (Option.mem_toList.mpr hrelay)
  exact ⟨(safe.off n houtput).last, (safe.off n houtput).status⟩

/-- The rules of a table come off after they went on, the relay was driven by hand and a first try
to take them off failed. -/
theorem flipper_rules_off_safe :
    ∃ (m : Machine Unit Unit) (history : List Deed), m.Built ∧ m.engine.rules.flippers ≠ [] ∧
      (m.rig.after history).ruling.1 ≠ [] ∧
      ∀ rule ∈ (FlipperRules.setEnabled false .zero (m.rig.after history)).2.1.compile true,
        (FlipperRules.setEnabled false .zero (m.rig.after history)).2.2.2.board.rules.get?
          (rule.switch, rule.trigger) = none := by
  let history : List Deed := [.setEnabled true .zero, .obey (.pulse "power" 40) .zero,
    .incident (.plan 1 (.fault .closed)), .setEnabled false .zero]
  obtain ⟨m, hbuild, hflippers, hrules, hoff⟩ := exists_of_seen
    (x := build flipperTable {} {} () (fun _ _ => .idle)
      fun (_ : Unit) _ => gateKeeper .zero .idle)
    (P := fun m => m.engine.rules.flippers ≠ [] ∧ (m.rig.after history).ruling.1 ≠ [] ∧
      (FlipperRules.setEnabled false .zero (m.rig.after history)).1 = .ok true) (by decide +kernel)
  have built : m.Built := ⟨_, _, _, _, _, _, hbuild⟩
  exact ⟨m, history, built, hflippers, hrules, (rules_off_safe built history .zero hoff).1⟩

end Machine

/-! ### Turning the rules on -/

namespace Rig

instance (s : Rig) : Decidable s.Live := inferInstanceAs (Decidable (RuleTable.Shows _ _))

/-- How the rules on the board relate to a time at which the board had counted `since` rule writes
and held all rules: they are as they were then, or something has been taken away since. -/
def Since (s : Rig) (since : Nat) : Prop :=
  s.ruling.2 = since ∧ s.Live ∨ since < s.ruling.2 ∧ s.Lacks

theorem Since.live_iff {s : Rig} {since : Nat} (h : s.Since since) :
    s.Live ↔ s.ruling.2 = since := by
  rcases h with ⟨hsame, live⟩ | ⟨hmore, lacks⟩
  · exact ⟨fun _ => hsame, fun _ => live⟩
  · exact ⟨fun live => absurd live lacks.not_live, fun hsame => absurd hsame (Nat.ne_of_gt hmore)⟩

theorem Since.of_eq {s t : Rig} {since : Nat} (h : s.Since since) (ruling : t.ruling = s.ruling)
    (rules : t.1.parts = s.1.parts) : t.Since since := by
  have hcompile : t.1.compile true = s.1.compile true := congrArg (·.compile true) rules
  have hboard : t.2.2.board.rules = s.2.2.board.rules := congrArg Prod.fst ruling
  have hwrites : t.2.2.board.ruleWrites = s.2.2.board.ruleWrites := congrArg Prod.snd ruling
  simpa only [Since, Live, Lacks, hcompile, hboard, hwrites] using h

/-- Turning the rules on, if that writes rules and goes well, puts them all on the board. -/
theorem live_of_setEnabled {s : Rig} {now : Span}
    (h : (FlipperRules.setEnabled true now s).1 = .ok true) :
    Live (FlipperRules.setEnabled true now s).2 := by
  rcases FlipperRules.setEnabled_cases true now s with ⟨-, -, hrun⟩ | ⟨-, ⟨hok, hrun⟩ | ⟨-, hne, -⟩⟩
  · rw [hrun] at h
    exact nomatch h
  · rw [hrun, Live, (FlipperRules.apply_ok hok).1]
    exact RuleTable.shows_writeAll _ fun rule => FlipperRules.directives_ne_nil
  · exact absurd h (hne true)

/-- An attempt to turn the rules off that fails part-way writes nothing, or takes a rule away. -/
theorem Since.apply_off {s : Rig} {since : Nat} (h : s.Since since) (now : Span) :
    Rig.Since (s.1, (s.1.apply false now s.2).2) since := by
  obtain ⟨written, rest, hsplit, -, hruling, -⟩ := s.1.apply_spec false now s.2
  cases written with
  | nil => exact h.of_eq hruling rfl
  | cons rule others =>
    have hmore : since < (s.1.apply false now s.2).2.2.board.ruleWrites := by
      have hwrites : (s.1.apply false now s.2).2.2.board.ruleWrites =
          s.2.2.board.ruleWrites + (rule :: others).length := congrArg Prod.snd hruling
      have hsince : since ≤ s.2.2.board.ruleWrites :=
        h.elim (fun h => Nat.le_of_eq h.1.symm) fun h => Nat.le_of_lt h.1
      rw [hwrites, List.length_cons]
      omega
    have hmem : rule ∈ s.1.compile false := hsplit ▸ List.mem_cons_self
    obtain ⟨rule', hrule', hkey⟩ := FlipperRules.exists_key (r := s.1) hmem true
    obtain ⟨last, hlast, -, hfor⟩ :=
      RuleTable.exists_lastFor (List.mem_cons_self (a := rule) (l := others))
    have hempty : last.directives = [] :=
      FlipperRules.directives_eq_nil (hsplit ▸ List.mem_append_left rest hlast)
    have hrules : (s.1.apply false now s.2).2.2.board.rules =
      s.2.2.board.rules.writeAll (rule :: others) := congrArg Prod.fst hruling
    refine .inr ⟨hmore, rule', hrule', ?_⟩
    rw [hrules, hkey, RuleTable.get?_writeAll, hfor]
    simp [Rule.installed?, hempty]

/-- While the rules count as on, a deed leaves them as they are or takes one away. -/
theorem Since.run {s : Rig} {since : Nat} (h : s.Since since) (on : s.enabled = true) (d : Deed)
    (still : (d.run s).enabled = true) : (d.run s).Since since := by
  by_cases hother : ∀ enable now, d ≠ .setEnabled enable now
  · obtain ⟨hruling, hrules⟩ := d.ruling_run hother s
    exact h.of_eq hruling (congrArg FlipperRules.parts hrules)
  · simp only [not_forall, not_not] at hother
    obtain ⟨enable, now, rfl⟩ := hother
    have hrun : (Deed.setEnabled enable now).run s = (FlipperRules.setEnabled enable now s).2 := rfl
    rw [hrun] at still ⊢
    rcases FlipperRules.setEnabled_cases enable now s with
      ⟨-, -, hset⟩ | ⟨hnot, ⟨-, hset⟩ | ⟨-, -, hset⟩⟩
    · rw [hset]
      exact h
    · have henable : enable = true := by rwa [hset] at still
      exact absurd ⟨henable, on⟩ hnot
    · have henable : enable = false := Bool.eq_false_iff.mpr fun henable => hnot ⟨henable, on⟩
      subst henable
      rw [hset]
      exact h.apply_off now

/-- Only a call that turns the rules on and writes them makes them count as on. -/
theorem exists_of_turned_on {d : Deed} {s : Rig} (off : s.enabled ≠ true)
    (on : (d.run s).enabled = true) :
    ∃ now, d = .setEnabled true now ∧ (FlipperRules.setEnabled true now s).1 = .ok true := by
  by_cases hother : ∀ enable now, d ≠ .setEnabled enable now
  · rw [Rig.enabled, (d.ruling_run hother s).2] at on
    exact absurd on off
  · simp only [not_forall, not_not] at hother
    obtain ⟨enable, now, rfl⟩ := hother
    have hrun : (Deed.setEnabled enable now).run s = (FlipperRules.setEnabled enable now s).2 := rfl
    rw [hrun] at on
    rcases FlipperRules.setEnabled_cases enable now s with
      ⟨-, hflag, -⟩ | ⟨-, ⟨-, hset⟩ | ⟨-, -, hset⟩⟩
    · exact absurd hflag off
    · have henable : enable = true := by rwa [hset] at on
      subst henable
      exact ⟨now, rfl, by rw [hset]⟩
    · rw [hset] at on
      exact absurd on off

/-- If the rules count as on, then at some time they were turned on and written, they have counted
as on ever since, and either nothing was written since or a rule was taken away. -/
theorem exists_since {start : Rig} (fresh : start.enabled = false) (history : List Deed)
    (on : (start.after history).enabled = true) :
    ∃ before now later, history = before ++ .setEnabled true now :: later ∧
      (FlipperRules.setEnabled true now (start.after before)).1 = .ok true ∧
      (∀ part, part <+: later →
        (start.after (before ++ .setEnabled true now :: part)).enabled = true) ∧
      (start.after history).Since (start.after (before ++ [.setEnabled true now])).ruling.2 := by
  induction history using List.reverseRecOn with
  | nil => exact nomatch fresh.symm.trans on
  | append_singleton history d ih =>
    have hafter : start.after (history ++ [d]) = d.run (start.after history) :=
      start.after_append history [d]
    rw [hafter] at on ⊢
    by_cases hwas : (start.after history).enabled = true
    · obtain ⟨before, now, later, rfl, hset, hon, hsince⟩ := ih hwas
      refine ⟨before, now, later ++ [d], by simp, hset, fun part hpart => ?_, hsince.run hwas d on⟩
      rcases List.prefix_concat_iff.mp hpart with rfl | hpart
      · rw [← List.cons_append, ← List.append_assoc, hafter]
        exact on
      · exact hon part hpart
    · obtain ⟨now, rfl, hset⟩ := exists_of_turned_on hwas on
      refine ⟨history, now, [], rfl, hset, fun part hpart => ?_, .inl ⟨?_, ?_⟩⟩
      · rw [List.prefix_nil.mp hpart, hafter]
        exact on
      · rw [hafter]
      · exact live_of_setEnabled hset

/-- Turning the rules on, after any history, either writes them and then the board holds them all,
or finds that they count as on and does nothing. Then they were turned on and written at some time,
have counted as on since, and the board holds them all just if no rule was written since; a call to
turn them off that failed part-way may have taken some away. -/
theorem rules_on_iff {start : Rig} (fresh : start.enabled = false) (history : List Deed)
    (now : Span) {wrote : Bool}
    (h : (FlipperRules.setEnabled true now (start.after history)).1 = .ok wrote) :
    let rig : Rig := (FlipperRules.setEnabled true now (start.after history)).2
    (wrote = true → rig.Live) ∧
      (wrote = false → rig = start.after history ∧
        ∃ before at' later, history = before ++ .setEnabled true at' :: later ∧
          (FlipperRules.setEnabled true at' (start.after before)).1 = .ok true ∧
          (∀ part, part <+: later →
            (start.after (before ++ .setEnabled true at' :: part)).enabled = true) ∧
          (rig.Live ↔ rig.2.2.board.ruleWrites =
            (start.after (before ++ [.setEnabled true at'])).2.2.board.ruleWrites)) := by
  intro rig
  refine ⟨fun hwrote => live_of_setEnabled (hwrote ▸ h), fun hwrote => ?_⟩
  subst hwrote
  rcases FlipperRules.setEnabled_cases true now (start.after history) with
    ⟨-, hon, hset⟩ | ⟨-, ⟨-, hset⟩ | ⟨-, hne, -⟩⟩
  · have hrig : rig = start.after history := congrArg Prod.snd hset
    obtain ⟨before, at', later, hsplit, hwrite, hsince, hlive⟩ := exists_since fresh history hon
    exact ⟨hrig, before, at', later, hsplit, hwrite, hsince, hrig ▸ hlive.live_iff⟩
  · rw [hset] at h
    exact nomatch h
  · exact absurd h (hne false)

/-- The rules of a table are all on the board after they went on for the second time, having been
turned off in between. -/
theorem flipper_rules_on :
    ∃ (start : Rig) (history : List Deed), flipperTable.rig ⟨34, 2, 18⟩ = .ok start ∧
      Live (FlipperRules.setEnabled true .zero (start.after history)).2 := by
  let history : List Deed := [.setEnabled true .zero, .setEnabled false .zero]
  obtain ⟨start, hstart, fresh, hon⟩ := exists_of_seen (x := flipperTable.rig ⟨34, 2, 18⟩)
    (P := fun s => s.enabled = false ∧
      (FlipperRules.setEnabled true .zero (s.after history)).1 = .ok true) (by decide +kernel)
  exact ⟨start, history, hstart, (rules_on_iff fresh history .zero hon).1 rfl⟩

/-- Rules that were turned off by a call that failed after its first write count as on, and turning
them on again reports success with a rule missing from the board. -/
theorem rules_on_missing :
    ∃ (start : Rig) (history : List Deed), flipperTable.rig ⟨34, 2, 18⟩ = .ok start ∧
      history = [.setEnabled true .zero, .incident (.plan 1 (.fault .closed)),
        .setEnabled false .zero] ∧
      (FlipperRules.setEnabled true .zero (start.after history)).1 = .ok false ∧
      ¬ Live (FlipperRules.setEnabled true .zero (start.after history)).2 := by
  let history : List Deed := [.setEnabled true .zero, .incident (.plan 1 (.fault .closed)),
    .setEnabled false .zero]
  obtain ⟨start, hstart, hon, hmissing⟩ := exists_of_seen (x := flipperTable.rig ⟨34, 2, 18⟩)
    (P := fun s => (FlipperRules.setEnabled true .zero (s.after history)).1 = .ok false ∧
      ¬ Live (FlipperRules.setEnabled true .zero (s.after history)).2) (by decide +kernel)
  exact ⟨start, history, hstart, rfl, hon, hmissing⟩

end Rig

end Playfield
