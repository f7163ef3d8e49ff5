import Mathlib.Data.List.Nodup
import Playfield.Proofs.Rig

/-!
# Outputs that rules can leave on

A rule leaves an output on if it holds it, by a pulse of no length, or switches it on and off in
turns. Flipper coils are made for that and are turned off with the rules. A bumper's coil is not:
its pulse must have a length. Acceptance sees to that for coils, and a bumper finds its driver among
coils and lamps, so bumpers pulse just if no bumper's lamp has a pulse of no length.
-/
namespace Playfield

/-- The directive can leave its driver on until it is turned off. -/
def Directive.leavesOn (d : Directive) : Bool :=
  match d.action with
  | .pulse ms => ms = 0
  | .disable => false
  | .patter _ _ _ => true

namespace TableConfig
variable {c : TableConfig}

/-- No lamp of a bumper has a pulse of no length. -/
def LampsPulse (c : TableConfig) : Prop :=
  ∀ lamp ∈ c.lamps, lamp.name ∈ c.bumpers → 0 < lamp.pulseMs

/-- The first coil of a name is the only one, if the names are all different. -/
theorem find?_coil (h : c.WellFormed) {coil : DriverEntry} (hcoil : coil ∈ c.coils) :
    (c.coils.find? fun other => other.name = coil.name) = some coil := by
  have hnames : (c.coils.map DriverEntry.name).Nodup := by
    have hall := h.drivers.1
    rw [drivers, List.map_append] at hall
    exact (List.nodup_append.mp hall).1
  obtain ⟨other, hother⟩ : ∃ other, (c.coils.find? fun other => other.name = coil.name) =
      some other := by
    refine Option.isSome_iff_exists.mp (List.find?_isSome.mpr ⟨coil, hcoil, by simp⟩)
  have hname : other.name = coil.name := by simpa using List.find?_some hother
  have hsame : other = coil :=
    List.inj_on_of_nodup_map hnames (List.mem_of_find?_eq_some hother) hcoil hname
  rw [hother, hsame]

/-- The driver of a bumper has a pulse of some length, unless it is a lamp that has not. -/
theorem pulse_of_bumper (h : c.WellFormed) {entry : DriverEntry} (hentry : entry ∈ c.drivers)
    (hname : entry.name ∈ c.bumpers) : 0 < entry.pulseMs ∨ entry ∈ c.lamps ∧ entry.pulseMs = 0 := by
  rcases List.mem_append.mp hentry with hcoil | hlamp
  · exact .inl (h.pulses entry.name hname entry (find?_coil h hcoil))
  · rcases Nat.eq_zero_or_pos entry.pulseMs.toNat with hzero | hpos
    · exact .inr ⟨hlamp, UInt8.toNat_inj.mp hzero⟩
    · exact .inl (UInt8.lt_iff_toNat_lt.mpr hpos)

theorem exists_rig (h : c.WellFormed) (timing : FlipperTiming) :
    ∃ store bank r, c.switchStore = .ok store ∧ c.driverBank = .ok bank ∧
      FlipperRules.resolve c store bank timing = .ok r ∧ c.rig timing = .ok (r, bank, {}) := by
  obtain ⟨store, hstore⟩ := h.exists_switchStore
  obtain ⟨bank, hbank⟩ := h.exists_driverBank
  obtain ⟨r, hr⟩ := h.exists_rules hstore hbank timing
  refine ⟨store, bank, r, hstore, hbank, hr, ?_⟩
  simp only [rig, hstore, hbank]
  exact congrArg (Except.map fun rules => ((rules, bank, {}) : Rig)) hr

end TableConfig

namespace FlipperRules
variable {c : TableConfig} {store : SwitchStore} {bank : DriverBank} {r : FlipperRules}

/-- A driver that a rule of a flipper can leave on is one of its coils. -/
theorem leavesOn_flipper {f : Flipper} (hf : f ∈ r.flippers) {rule : Rule}
    (hrule : rule ∈ r.flipperRules true f) {d : Directive} (hd : d ∈ rule.directives)
    (hon : d.leavesOn = true) : d.driver ∈ r.coils := by
  have hmain : f.main ∈ r.coils := List.mem_flatMap.mpr ⟨f, hf, List.mem_cons_self⟩
  have hhold {n : Nat} (hn : f.hold = some n) : n ∈ r.coils :=
    List.mem_flatMap.mpr ⟨f, hf, List.mem_cons_of_mem _ (Option.mem_toList.mpr hn)⟩
  simp only [flipperRules, if_true, List.mem_cons, List.not_mem_nil, or_false] at hrule
  rcases hrule with rfl | rfl
  · simp only [onClose] at hd
    split at hd
    · rename_i hold _ hn
      simp only [List.mem_cons, List.not_mem_nil, or_false] at hd
      rcases hd with rfl | rfl
      · exact hmain
      · exact hhold hn
    · rw [List.mem_singleton.mp hd]
      exact hmain
  · simp only [onOpen] at hd
    split at hd
    · simp only [List.mem_cons, List.not_mem_nil, or_false] at hd
      rcases hd with rfl | rfl <;> cases hon
    · rw [List.mem_singleton.mp hd] at hon
      cases hon

/-- The bumpers made from a table drive the table's drivers of their names. -/
theorem Resolved.pulse_iff (resolved : Resolved c store bank r) (wellFormed : c.WellFormed)
    (hstore : c.switchStore = .ok store) (hbank : c.driverBank = .ok bank) :
    (∀ b ∈ r.bumpers, 0 < b.pulseMs) ↔ c.LampsPulse := by
  constructor
  · intro all lamp hlamp hname
    obtain ⟨b, hb⟩ := wellFormed.exists_bumper hstore hbank hname
    have parts := resolveBumper_ok.mp hb
    have hpos := all b (resolved.bumper_iff.mpr ⟨lamp.name, hname, parts⟩)
    obtain ⟨d, hfind, -, hpulse⟩ := parts.coil
    have hlisted : lamp ∈ c.drivers := List.mem_append_right _ hlamp
    have hlamp' := (TableConfig.find?_driver hbank).mpr ⟨lamp, hlisted, rfl, rfl⟩
    rw [hlamp', Option.some.injEq] at hfind
    rw [← hpulse, ← hfind] at hpos
    exact UInt8.lt_iff_toNat_lt.mpr hpos
  · intro lamps b hb
    obtain ⟨name, hname, parts⟩ := resolved.bumper_iff.mp hb
    obtain ⟨d, hfind, -, hpulse⟩ := parts.coil
    obtain ⟨entry, hentry, rfl, rfl⟩ := (TableConfig.find?_driver hbank).mp hfind
    rw [← hpulse]
    rcases TableConfig.pulse_of_bumper wellFormed hentry hname with hpos | ⟨hlamp, -⟩
    · exact UInt8.lt_iff_toNat_lt.mp hpos
    · exact UInt8.lt_iff_toNat_lt.mp (lamps entry hlamp hname)

end FlipperRules

/-- A description that is accepted gives a rig, whatever the timing of its flippers. Its bumpers all
pulse for some length just if no bumper's lamp has a pulse of no length. If so, every driver that a
rule can leave on is turned off with the rules, after any history. -/
theorem TableConfig.bumpers_pulse_iff {c : TableConfig} (accepted : c.validate = .ok ())
    (timing : FlipperTiming) : ∃ start : Rig, c.rig timing = .ok start ∧
      ((∀ rule ∈ start.1.bumpers.map (FlipperRules.bumperRule true), ∀ d ∈ rule.directives,
          ∃ ms, d.action = .pulse ms ∧ 0 < ms) ↔
        ∀ lamp ∈ c.lamps, lamp.name ∈ c.bumpers → 0 < lamp.pulseMs) ∧
      ((∀ lamp ∈ c.lamps, lamp.name ∈ c.bumpers → 0 < lamp.pulseMs) →
        ∀ rule ∈ start.1.compile true, ∀ d ∈ rule.directives, d.leavesOn = true →
          d.driver ∈ start.1.coils ∧
          ∀ (history : List Deed) (now : Span) (wrote : Bool),
            (FlipperRules.setEnabled false now (start.after history)).1 = .ok wrote →
            DriverBank.Off (FlipperRules.setEnabled false now (start.after history)).2.2
              d.driver) := by
  have wellFormed := wellFormed_of_validate accepted
  obtain ⟨store, bank, r, hstore, hbank, hr, hrig⟩ := exists_rig wellFormed timing
  have hpulse := (FlipperRules.resolved_of_resolve hr).pulse_iff wellFormed hstore hbank
  refine ⟨(r, bank, {}), hrig, ?_, fun lamps rule hrule d hd hon => ?_⟩
  · refine Iff.trans ?_ hpulse
    simp [FlipperRules.bumperRule]
  · have hcoil : d.driver ∈ r.coils := by
      rcases FlipperRules.mem_compile.mp hrule with ⟨f, hf, hrule⟩ | ⟨b, hb, rfl⟩
      · exact FlipperRules.leavesOn_flipper hf hrule hd hon
      · rw [List.mem_singleton.mp hd] at hon
        exact absurd (of_decide_eq_true hon) (Nat.ne_of_gt (hpulse.mpr lamps b hb))
    refine ⟨hcoil, fun history now wrote hoff => ?_⟩
    have fits : Rig.Fits (r, bank, {}) := Rig.fits_of_resolve hbank hr {}
    have hdesign := Rig.design_after (r, bank, {}) history
    have hset := FlipperRules.design_setEnabled false now (Rig.after (r, bank, {}) history)
    refine ((fits.of_design hdesign).safe hoff).off _ ?_
    rw [Rig.outputs_of_design (hset.trans hdesign)]
    exact List.mem_append_left _ hcoil

/-- A table whose only bumper has a lamp for its driver, with a pulse of no length. -/
def lampBumperTable : TableConfig where
  machineType := .wpc
  switches := [{ name := "popTop", number := 9 }]
  lamps := [{ name := "popTop", number := 5, pulseMs := 0 }]
  bumpers := ["popTop"]

/-- The flipper table is accepted, and every driver that its rules can leave on is one of its
flipper coils. -/
theorem flipper_table_left_on :
    flipperTable.validate = .ok () ∧ ∃ start : Rig, flipperTable.rig ⟨34, 2, 18⟩ = .ok start ∧
      ∀ rule ∈ start.1.compile true, ∀ d ∈ rule.directives, d.leavesOn = true →
        d.driver ∈ start.1.coils := by
  have accepted : flipperTable.validate = .ok () := by decide +kernel
  obtain ⟨start, hstart, -, hleft⟩ := TableConfig.bumpers_pulse_iff accepted ⟨34, 2, 18⟩
  have lamps : ∀ lamp ∈ flipperTable.lamps, lamp.name ∈ flipperTable.bumpers →
      0 < lamp.pulseMs := by decide +kernel
  exact ⟨accepted, start, hstart, fun rule hrule d hd hon => (hleft lamps rule hrule d hd hon).1⟩

/-- A table is accepted whose bumper holds its driver on, and turning the rules off leaves the
driver alone. -/
theorem lamp_bumper_held_on :
    lampBumperTable.validate = .ok () ∧
      ∃ start : Rig, lampBumperTable.rig ⟨34, 2, 18⟩ = .ok start ∧
        start.1.compile true =
          [⟨9, .closedNondebounced, { reloadActive := true }, [⟨5, .pulse 0⟩]⟩] ∧
        5 ∉ start.1.outputs := by
  refine ⟨by decide +kernel, ?_⟩
  exact exists_of_seen (by decide +kernel)

end Playfield
