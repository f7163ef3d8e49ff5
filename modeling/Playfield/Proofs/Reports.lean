import Playfield.Machine
import Playfield.Proofs.Accepted

/-!
# What the check of a description reports

A description is gone through twice: `validate` lists everything wrong with it, and the switch
store, the driver bank and the flipper rules each report what stops them from being built. The two
agree. A store or a bank is built just if the check reports no number or name of its kind taken
twice, and the rules then report the missing switches and drivers of the check, in its order. So a
machine is built just if the check reports nothing.

The lists of clashes need not be equal: the check notes the number and name of every entry, and a
registry forgets an item it refuses. That both or neither are empty goes by way of the numbers and
names being all different.
-/
namespace Playfield

/-- The problem is a switch or a driver that is not there. -/
def Problem.isMissing : Problem → Bool
  | .missingSwitch _ _ | .missingDriver _ _ => true
  | _ => false

namespace TableConfig
variable {c : TableConfig} {store : SwitchStore} {bank : DriverBank}

theorem reported_validate : reported c.validate = c.problems := by
  simp only [validate]
  split
  · rename_i h
    exact h.symm
  · rfl

theorem validate_iff : c.validate = .ok () ↔ c.problems = [] := by
  simp only [validate]
  split <;> simp_all

/-! ### Clashes -/

/-- Items are registered without a clash just if their numbers and names are all different. -/
theorem registerAll_iff {α : Type} [Listed α] {items : List α} :
    (registerAll items .empty).1 = [] ↔
      (items.map Listed.name).Nodup ∧ (items.map Listed.number).Nodup := by
  constructor
  · intro h
    have coherent := coherent_registerAll items Registry.Coherent.empty
    have hitems : (registerAll items .empty).2.items = items := items_registerAll (Prod.ext h rfl)
    rw [hitems.symm]
    exact coherent.nodup.symm
  · rintro ⟨names, numbers⟩
    exact registerAll_nodup .empty numbers names

theorem exists_switchStore_iff : (∃ store, c.switchStore = .ok store) ↔
    (registerAll (c.switches.map SwitchEntry.toSwitch) .empty).1 = [] := by
  simp only [switchStore]
  split <;> simp_all

theorem exists_driverBank_iff : (∃ bank, c.driverBank = .ok bank) ↔
    (registerAll (c.drivers.map DriverEntry.toDriver) .empty).1 = [] := by
  simp only [driverBank]
  split <;> simp_all

/-- A problem with the names and numbers of a kind is no missing part, and no clash of another
kind. -/
theorem kind_of_clashes {kind : PartKind} {rows : List (String × Nat)} {names : List String}
    {numbers : List Nat} {p : Problem} (h : p ∈ clashes kind rows names numbers) :
    p.isMissing = false ∧ ∀ other ∈ p.clash?, other = kind := by
  induction rows generalizing names numbers with
  | nil => exact absurd h List.not_mem_nil
  | cons row rest ih =>
    simp only [clashes, List.mem_append, mem_require] at h
    obtain ((⟨-, rfl⟩ | ⟨-, rfl⟩) | ⟨-, rfl⟩) | hrest := h
    · simp [Problem.isMissing, Problem.clash?]
    · simp [Problem.isMissing, Problem.clash?]
    · simp [Problem.isMissing, Problem.clash?]
    · exact ih hrest

/-- What is reported after the names and numbers have been checked. -/
def laterProblems (c : TableConfig) : List Problem :=
  require (0 < c.game.numBalls) .noBalls ++ require (0 < c.game.ballsPerGame) .noBallsPerGame ++
    c.flippers.flatMap c.flipperProblems ++ c.bumpers.flatMap c.bumperProblems ++ c.relayProblems

theorem problems_eq : c.problems =
    clashes .switch (c.switches.map fun s => (s.name, s.number.toNat)) [] [] ++
      (clashes .driver (c.drivers.map fun d => (d.name, d.number.toNat)) [] [] ++
        c.laterProblems) := by
  simp only [problems, laterProblems, List.append_assoc]

theorem clash_of_later {p : Problem} (h : p ∈ c.laterProblems) : p.clash? = none := by
  simp only [laterProblems, flipperProblems, bumperProblems, relayProblems, needSwitch, needDriver,
    List.mem_append, List.mem_flatMap, mem_require] at h
  obtain (((⟨-, rfl⟩ | ⟨-, rfl⟩) | ⟨name, -, (⟨-, rfl⟩ | ⟨-, rfl⟩) | hhold⟩) |
    ⟨name, -, (⟨-, rfl⟩ | ⟨-, rfl⟩) | hpulse⟩) | hrelay := h
  any_goals rfl
  · split at hhold
    · rw [(mem_require.mp hhold).2]
      rfl
    · exact absurd hhold List.not_mem_nil
  · split at hpulse
    · rw [(mem_require.mp hpulse).2]
      rfl
    · exact absurd hpulse List.not_mem_nil
  · split at hrelay
    · rw [(mem_require.mp hrelay).2]
      rfl
    · exact absurd hrelay List.not_mem_nil

/-- The switch store is built just if the check reports no switch number or name taken twice. -/
theorem exists_switchStore_iff_clash :
    (∃ store, c.switchStore = .ok store) ↔ ∀ p ∈ c.problems, p.clash? ≠ some .switch := by
  have others : ∀ p ∈ clashes .driver (c.drivers.map fun d => (d.name, d.number.toNat)) [] [] ++
      c.laterProblems, p.clash? ≠ some .switch := by
    intro p hp hclash
    rcases List.mem_append.mp hp with hp | hp
    · exact nomatch (kind_of_clashes hp).2 _ hclash
    · exact nomatch (clash_of_later hp).symm.trans hclash
  rw [exists_switchStore_iff, registerAll_iff, problems_eq, List.forall_mem_append, clashes_iff]
  simp only [List.map_map]
  constructor
  · intro h
    exact ⟨⟨by simp, h⟩, others⟩
  · intro h
    exact h.1.2

/-- The driver bank is built just if the check reports no driver number or name taken twice. -/
theorem exists_driverBank_iff_clash :
    (∃ bank, c.driverBank = .ok bank) ↔ ∀ p ∈ c.problems, p.clash? ≠ some .driver := by
  have before : ∀ p ∈ clashes .switch (c.switches.map fun s => (s.name, s.number.toNat)) [] [],
      p.clash? ≠ some .driver := fun p hp hclash => nomatch (kind_of_clashes hp).2 _ hclash
  have later : ∀ p ∈ c.laterProblems, p.clash? ≠ some .driver := fun p hp hclash =>
    nomatch (clash_of_later hp).symm.trans hclash
  rw [exists_driverBank_iff, registerAll_iff, problems_eq, List.forall_mem_append,
    List.forall_mem_append, clashes_iff]
  simp only [List.map_map]
  constructor
  · intro h
    exact ⟨before, ⟨by simp, h⟩, later⟩
  · intro h
    exact h.2.1.2

/-! ### Missing parts -/

/-- The missing switches and drivers among the problems of a description. -/
theorem filter_missing : c.problems.filter Problem.isMissing =
    c.flippers.flatMap c.flipperProblems ++
      c.bumpers.flatMap (fun name =>
        c.needSwitch name (.bumper name) ++ c.needDriver name (.bumper name)) ++
      c.relayProblems := by
  have none_of {kind : PartKind} (rows : List (String × Nat)) :
      (clashes kind rows [] []).filter Problem.isMissing = [] := by
    rw [List.filter_eq_nil_iff]
    intro p hp
    simp [(kind_of_clashes hp).1]
  have switches (name : String) (referrer : Referrer) :
      (c.needSwitch name referrer).filter Problem.isMissing = c.needSwitch name referrer := by
    rw [List.filter_eq_self]
    intro p hp
    rw [(mem_require.mp hp).2]
    rfl
  have drivers (name : String) (referrer : Referrer) :
      (c.needDriver name referrer).filter Problem.isMissing = c.needDriver name referrer := by
    rw [List.filter_eq_self]
    intro p hp
    rw [(mem_require.mp hp).2]
    rfl
  have balls (ok : Bool) : (require ok .noBalls).filter Problem.isMissing = [] := by
    cases ok <;> rfl
  have ballsPerGame (ok : Bool) : (require ok .noBallsPerGame).filter Problem.isMissing = [] := by
    cases ok <;> rfl
  have flipper (name : String) :
      (c.flipperProblems name).filter Problem.isMissing = c.flipperProblems name := by
    simp only [flipperProblems, List.filter_append, switches, drivers]
    cases c.machineType.family
    · simp only [drivers]
    · rfl
  have bumper (name : String) : (c.bumperProblems name).filter Problem.isMissing =
      c.needSwitch name (.bumper name) ++ c.needDriver name (.bumper name) := by
    simp only [bumperProblems, List.filter_append, switches, drivers]
    cases c.coils.find? fun coil => coil.name = name with
    | none => simp
    | some coil => by_cases hpulse : 0 < coil.pulseMs <;> simp [require, hpulse, Problem.isMissing]
  have relay : c.relayProblems.filter Problem.isMissing = c.relayProblems := by
    simp only [relayProblems]
    cases c.flipperRelay with
    | none => rfl
    | some name => exact drivers name .relay
  simp only [problems, List.filter_append, List.filter_flatMap, none_of, balls, ballsPerGame,
    flipper, bumper, relay, List.nil_append]

end TableConfig

/-! ### The rules of a table -/

namespace FlipperRules
variable {c : TableConfig} {store : SwitchStore} {bank : DriverBank}

/-- A switch is missing from the store just if it is missing from the description. -/
theorem missing_switchNumber (hstore : c.switchStore = .ok store) (name : String)
    (referrer : Referrer) :
    missing (switchNumber store name referrer) = c.needSwitch name referrer := by
  by_cases hname : name ∈ c.switchNames
  · obtain ⟨s, hs⟩ := TableConfig.WellFormed.exists_switch hstore hname
    simp [switchNumber, hs, missing, TableConfig.needSwitch, TableConfig.require, hname]
  · have hnone : store.find? name = none := by
      refine Option.eq_none_iff_forall_ne_some.mpr fun s hs => hname ?_
      obtain ⟨entry, hentry, -, rfl⟩ := (TableConfig.find?_switch hstore).mp hs
      exact List.mem_map_of_mem hentry
    simp [switchNumber, hnone, missing, TableConfig.needSwitch, TableConfig.require, hname]

/-- A driver is missing from the bank just if it is missing from the description. -/
theorem missing_driverNamed (hbank : c.driverBank = .ok bank) (name : String)
    (referrer : Referrer) :
    missing (driverNamed bank name referrer) = c.needDriver name referrer := by
  by_cases hname : name ∈ c.driverNames
  · obtain ⟨d, hd⟩ := TableConfig.WellFormed.exists_driver hbank hname
    simp [driverNamed, hd, missing, TableConfig.needDriver, TableConfig.require, hname]
  · have hnone : bank.find? name = none := by
      refine Option.eq_none_iff_forall_ne_some.mpr fun d hd => hname ?_
      obtain ⟨entry, hentry, -, rfl⟩ := (TableConfig.find?_driver hbank).mp hd
      exact List.mem_map_of_mem hentry
    simp [driverNamed, hnone, missing, TableConfig.needDriver, TableConfig.require, hname]

theorem missing_map {α β : Type} (found : Found α) (f : α → β) :
    missing (found.map f) = missing found := by
  cases found <;> rfl

/-- A flipper misses what the check says it misses. -/
theorem reported_resolveFlipper (hstore : c.switchStore = .ok store)
    (hbank : c.driverBank = .ok bank) (name : String) :
    reported (resolveFlipper c.machineType.family store bank name) = c.flipperProblems name := by
  simp only [TableConfig.flipperProblems, ← missing_switchNumber hstore,
    ← missing_driverNamed hbank, resolveFlipper]
  cases c.machineType.family with
  | dualCoil =>
    rw [← missing_map (driverNamed bank (name ++ "Hold") (.flipper name))
      fun d : Driver => some d.number]
    split
    · rename_i hswitch hmain hhold
      simp only [hswitch, hmain, hhold]
      rfl
    · rfl
  | singleCoilPattern =>
    split
    · rename_i hswitch hmain hhold
      simp only [hswitch, hmain]
      rfl
    · rfl

/-- A bumper misses what the check says it misses. -/
theorem reported_resolveBumper (hstore : c.switchStore = .ok store)
    (hbank : c.driverBank = .ok bank) (name : String) :
    reported (resolveBumper store bank name) =
      c.needSwitch name (.bumper name) ++ c.needDriver name (.bumper name) := by
  simp only [← missing_switchNumber hstore, ← missing_driverNamed hbank, resolveBumper]
  split
  · rename_i hswitch hcoil
    simp only [hswitch, hcoil]
    rfl
  · rfl

/-- The rules report the missing parts of the check, and are resolved if there are none. -/
theorem reported_resolve (hstore : c.switchStore = .ok store) (hbank : c.driverBank = .ok bank)
    (timing : FlipperTiming) :
    reported (resolve c store bank timing) = c.problems.filter Problem.isMissing ∧
      ((∃ r, resolve c store bank timing = .ok r) ↔ c.problems.filter Problem.isMissing = []) := by
  have relay : ((c.flipperRelay.map fun name => driverNamed bank name .relay).map
      missing).getD [] = c.relayProblems := by
    simp only [TableConfig.relayProblems]
    cases c.flipperRelay with
    | none => rfl
    | some name => exact missing_driverNamed hbank name .relay
  simp only [resolve, fst_resolveAll, reported_resolveFlipper hstore hbank,
    reported_resolveBumper hstore hbank, relay, ← TableConfig.filter_missing, List.isEmpty_iff]
  by_cases hnone : c.problems.filter Problem.isMissing = []
  · simp [hnone, reported]
  · simp [hnone, reported]

end FlipperRules

namespace TableConfig
variable {σ κ : Type}

/-- A description without problems makes a machine. -/
theorem exists_assemble {c : TableConfig} (accepted : c.problems = []) (settings : LoopSettings)
    (cabinet : Cabinet) (memory : σ) (hook : GameHook → σ → Callback σ κ)
    (catalogue : κ → ModeId → Mode σ κ) :
    ∃ m, Machine.assemble c settings cabinet memory hook catalogue = .ok m := by
  have free (kind : PartKind) : ∀ p ∈ c.problems, p.clash? ≠ some kind := by simp [accepted]
  obtain ⟨store, hstore⟩ := exists_switchStore_iff_clash.mpr (free .switch)
  obtain ⟨bank, hbank⟩ := exists_driverBank_iff_clash.mpr (free .driver)
  obtain ⟨r, hr⟩ := (FlipperRules.reported_resolve hstore hbank settings.timing).2.mpr
    (by rw [accepted]; rfl)
  simp only [Machine.assemble, hstore, hbank, bind, Except.bind, hr]
  exact ⟨_, rfl⟩

/-- The two passes over a description agree. The switch store is built just if the check reports no
switch number or name taken twice, and the driver bank likewise. If both are built, what resolving
the rules reports is the missing switches and drivers of the check, in order, whatever the timing,
and the rules are resolved just if there are none. A machine is built just if the check reports
nothing, and then assembling it does not fail. -/
theorem checks_agree (c : TableConfig) :
    ((∃ store, c.switchStore = .ok store) ↔
        ∀ p ∈ reported c.validate, p.clash? ≠ some .switch) ∧
      ((∃ bank, c.driverBank = .ok bank) ↔
        ∀ p ∈ reported c.validate, p.clash? ≠ some .driver) ∧
      (∀ store bank timing, c.switchStore = .ok store → c.driverBank = .ok bank →
        reported (FlipperRules.resolve c store bank timing) =
            (reported c.validate).filter Problem.isMissing ∧
          ((∃ r, FlipperRules.resolve c store bank timing = .ok r) ↔
            (reported c.validate).filter Problem.isMissing = [])) ∧
      ∀ (settings : LoopSettings) (cabinet : Cabinet) (memory : σ)
        (hook : GameHook → σ → Callback σ κ) (catalogue : κ → ModeId → Mode σ κ),
        ((∃ m, Machine.build c settings cabinet memory hook catalogue = .ok m) ↔
          c.validate = .ok ()) ∧
        (c.validate = .ok () →
          ∃ m, Machine.assemble c settings cabinet memory hook catalogue = .ok m) := by
  rw [reported_validate]
  refine ⟨exists_switchStore_iff_clash, exists_driverBank_iff_clash,
    fun store bank timing hstore hbank => FlipperRules.reported_resolve hstore hbank timing,
    fun settings cabinet memory hook catalogue => ?_⟩
  have assembled : c.validate = .ok () →
      ∃ m, Machine.assemble c settings cabinet memory hook catalogue = .ok m := fun accepted =>
    exists_assemble (validate_iff.mp accepted) settings cabinet memory hook catalogue
  refine ⟨⟨fun hbuild => ?_, fun accepted => ?_⟩, assembled⟩
  · obtain ⟨m, hbuild⟩ := hbuild
    simp only [Machine.build] at hbuild
    cases hcheck : c.validate with
    | ok value => rfl
    | error ps =>
      rw [hcheck] at hbuild
      cases hbuild
  · obtain ⟨m, hm⟩ := assembled accepted
    exact ⟨m, by rw [Machine.build, accepted]; exact hm⟩

end TableConfig

end Playfield
