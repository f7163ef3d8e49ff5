import Playfield.Config.Check
import Playfield.FlipperRules
import Playfield.Proofs.Registry

/-!
# Accepted descriptions

A description that has nothing wrong with it can be built from: its switches and drivers go into
their registries without a clash, and every name its flippers, bumpers and relay use is found there.
The flipper rules made from it refer to switches and drivers of the table only.
-/
namespace Playfield

/-- The problems that a check or a construction ends with. -/
def reported {α : Type} : Except (List Problem) α → List Problem
  | .ok _ => []
  | .error ps => ps

/-- The kind of part whose number or name is taken twice, if that is the problem. -/
def Problem.clash? : Problem → Option PartKind
  | .duplicateName kind _ | .duplicateNumber kind _ => some kind
  | _ => none

namespace TableConfig

theorem require_eq_nil {ok : Bool} {p : Problem} : require ok p = [] ↔ ok = true := by
  cases ok <;> simp [require]

theorem mem_require {ok : Bool} {p q : Problem} : p ∈ require ok q ↔ ok = false ∧ p = q := by
  cases ok <;> simp [require]

/-- The check of some rows reports no clash just if their names and numbers are new and all
different. -/
theorem clashes_iff {kind : PartKind} {rows : List (String × Nat)} {names : List String}
    {numbers : List Nat} :
    (∀ p ∈ clashes kind rows names numbers, p.clash? ≠ some kind) ↔
      (∀ row ∈ rows, row.1 ∉ names ∧ row.2 ∉ numbers) ∧
        (rows.map Prod.fst).Nodup ∧ (rows.map Prod.snd).Nodup := by
  induction rows generalizing names numbers with
  | nil => simp [clashes]
  | cons row rest ih =>
    obtain ⟨name, number⟩ := row
    have hempty : ∀ p ∈ require (name ≠ "") (.emptyName kind number), p.clash? ≠ some kind := by
      simp [mem_require, Problem.clash?]
    have hname : (∀ p ∈ require (!names.contains name) (.duplicateName kind name),
        p.clash? ≠ some kind) ↔ name ∉ names := by
      simp [mem_require, Problem.clash?]
    have hnumber : (∀ p ∈ require (!numbers.contains number) (.duplicateNumber kind number),
        p.clash? ≠ some kind) ↔ number ∉ numbers := by
      simp [mem_require, Problem.clash?]
    simp only [clashes, List.forall_mem_append, hname, hnumber, ih, List.forall_mem_cons,
      List.map_cons, List.nodup_cons]
    simp only [List.mem_cons, not_or]
    -- What differs is where it says that the first row is none of the others.
    constructor
    · rintro ⟨⟨⟨-, hn⟩, hm⟩, hfresh, hnames, hnumbers⟩
      refine ⟨⟨⟨hn, hm⟩, fun row hrow => ⟨(hfresh row hrow).1.2, (hfresh row hrow).2.2⟩⟩,
        ⟨fun hin => ?_, hnames⟩, fun hin => ?_, hnumbers⟩
      · obtain ⟨row, hrow, heq⟩ := List.mem_map.mp hin
        exact (hfresh row hrow).1.1 heq
      · obtain ⟨row, hrow, heq⟩ := List.mem_map.mp hin
        exact (hfresh row hrow).2.1 heq
    · rintro ⟨⟨⟨hn, hm⟩, hfresh⟩, ⟨hname, hnames⟩, hnumber, hnumbers⟩
      refine ⟨⟨⟨hempty, hn⟩, hm⟩, fun row hrow => ⟨⟨fun heq => ?_, (hfresh row hrow).1⟩,
        fun heq => ?_, (hfresh row hrow).2⟩, hnames, hnumbers⟩
      · exact hname (heq ▸ List.mem_map_of_mem hrow)
      · exact hnumber (heq ▸ List.mem_map_of_mem hrow)

/-- Rows with nothing wrong have names and numbers that are all different. -/
theorem nodup_of_clashes {kind : PartKind} {rows : List (String × Nat)}
    (h : clashes kind rows [] [] = []) :
    (rows.map Prod.fst).Nodup ∧ (rows.map Prod.snd).Nodup := by
  have clear : ∀ p ∈ clashes kind rows [] [], p.clash? ≠ some kind := by simp [h]
  exact (clashes_iff.mp clear).2

/-- What the rules need of a description that is accepted. -/
structure WellFormed (c : TableConfig) : Prop where
  switches : (c.switches.map SwitchEntry.name).Nodup ∧
    (c.switches.map fun s => s.number.toNat).Nodup
  drivers : (c.drivers.map DriverEntry.name).Nodup ∧ (c.drivers.map fun d => d.number.toNat).Nodup
  flippers : ∀ name ∈ c.flippers, name ∈ c.switchNames ∧ name ++ "Main" ∈ c.driverNames ∧
    (c.machineType.family = .dualCoil → name ++ "Hold" ∈ c.driverNames)
  bumpers : ∀ name ∈ c.bumpers, name ∈ c.switchNames ∧ name ∈ c.driverNames
  relay : ∀ name ∈ c.flipperRelay, name ∈ c.driverNames
  /-- The first coil with a bumper's name has a pulse of some length. -/
  pulses : ∀ name ∈ c.bumpers, ∀ coil ∈ c.coils.find? fun coil => coil.name = name,
    0 < coil.pulseMs

theorem wellFormed_of_validate {c : TableConfig} (h : c.validate = .ok ()) : c.WellFormed := by
  have hnone : c.problems = [] := by
    simp only [validate] at h
    split at h
    · assumption
    · cases h
  simp only [problems, List.append_eq_nil_iff, List.flatMap_eq_nil_iff] at hnone
  obtain ⟨⟨⟨⟨⟨⟨hswitches, hdrivers⟩, -⟩, -⟩, hflippers⟩, hbumpers⟩, hrelay⟩ := hnone
  refine ⟨?_, ?_, fun name hname => ?_, fun name hname => ?_, fun name hname => ?_,
    fun name hname coil hcoil => ?_⟩
  · obtain ⟨hnames, hnumbers⟩ := nodup_of_clashes hswitches
    simp only [List.map_map] at hnames hnumbers
    exact ⟨hnames, hnumbers⟩
  · obtain ⟨hnames, hnumbers⟩ := nodup_of_clashes hdrivers
    simp only [List.map_map] at hnames hnumbers
    exact ⟨hnames, hnumbers⟩
  · have h := hflippers name hname
    simp only [flipperProblems, needSwitch, needDriver, List.append_eq_nil_iff, require_eq_nil,
      List.contains_iff_mem] at h
    refine ⟨h.1.1, h.1.2, fun hfamily => ?_⟩
    have hhold := h.2
    rw [hfamily] at hhold
    simpa only [require_eq_nil, List.contains_iff_mem] using hhold
  · have h := hbumpers name hname
    simp only [bumperProblems, needSwitch, needDriver, List.append_eq_nil_iff, require_eq_nil,
      List.contains_iff_mem] at h
    exact h.1
  · rw [Option.mem_def] at hname
    simpa only [relayProblems, hname, needDriver, require_eq_nil, List.contains_iff_mem]
      using hrelay
  · have h := (List.append_eq_nil_iff.mp (hbumpers name hname)).2
    rw [Option.mem_def] at hcoil
    simpa only [hcoil, require_eq_nil, decide_eq_true_eq] using h

/-! ### Registration -/

section Register
variable {α : Type} [Listed α]

/-- Registration without a clash puts the items in, in order. -/
theorem items_registerAll {items : List α} {r r' : Registry α}
    (h : registerAll items r = ([], r')) : r'.items = r.items ++ items := by
  induction items generalizing r with
  | nil =>
    cases h
    exact (List.append_nil _).symm
  | cons item rest ih =>
    simp only [registerAll] at h
    split at h
    · rename_i mid hinsert
      have hmid : mid.items = r.items ++ [item] := by
        simp only [Registry.insert] at hinsert
        split at hinsert
        · cases hinsert
        · split at hinsert
          · cases hinsert
          · cases hinsert
            rfl
      rw [ih h, hmid, List.append_assoc, List.singleton_append]
    · cases congrArg Prod.fst h

/-- Items whose numbers and names are all different are registered without a clash. -/
theorem registerAll_nodup {items : List α} {r : Registry α} (coherent : r.Coherent)
    (numbers : ((r.items ++ items).map Listed.number).Nodup)
    (names : ((r.items ++ items).map Listed.name).Nodup) : (registerAll items r).1 = [] := by
  induction items generalizing r with
  | nil => rfl
  | cons item rest ih =>
    have fresh {β : Type} (key : α → β) (hkeys : ((r.items ++ item :: rest).map key).Nodup) :
        ∀ old ∈ r.items, key old ≠ key item := by
      rw [List.map_append] at hkeys
      intro old hold
      exact (List.nodup_append.mp hkeys).2.2 _ (List.mem_map_of_mem hold) _ List.mem_cons_self
    have hnumber : r.slotOfNumber? (Listed.number item) = none := by
      refine Option.eq_none_iff_forall_ne_some.mpr fun slot hslot => ?_
      obtain ⟨old, hold, heq⟩ := (coherent.number_iff _ _).mp hslot
      exact fresh Listed.number numbers old (List.mem_of_getElem? hold) heq
    have hname : r.slotOfName? (Listed.name item) = none := by
      refine Option.eq_none_iff_forall_ne_some.mpr fun slot hslot => ?_
      obtain ⟨old, hold, heq⟩ := (coherent.name_iff _ _).mp hslot
      exact fresh Listed.name names old (List.mem_of_getElem? hold) heq
    obtain ⟨mid, hinsert, hitems⟩ : ∃ mid, r.insert item = .ok mid ∧
        mid.items = r.items ++ [item] := by
      simp only [Registry.insert, hnumber, hname]
      exact ⟨_, rfl, rfl⟩
    have hsplit : mid.items ++ rest = r.items ++ item :: rest := by
      rw [hitems, List.append_assoc, List.singleton_append]
    simp only [registerAll, hinsert]
    exact ih (coherent.insert hinsert) (hsplit ▸ numbers) (hsplit ▸ names)

end Register

variable {c : TableConfig}

theorem switchStore_ok {store : SwitchStore} (h : c.switchStore = .ok store) :
    store.Coherent ∧ store.toList = c.switches.map SwitchEntry.toSwitch := by
  have coherent := coherent_registerAll (c.switches.map SwitchEntry.toSwitch)
    Registry.Coherent.empty
  simp only [switchStore] at h
  split at h <;> rename_i hall
  · cases h
    rw [hall] at coherent
    exact ⟨coherent, items_registerAll hall⟩
  · cases h

theorem driverBank_ok {bank : DriverBank} (h : c.driverBank = .ok bank) :
    bank.drivers.Coherent ∧ bank.toList = c.drivers.map DriverEntry.toDriver := by
  have coherent := coherent_registerAll (c.drivers.map DriverEntry.toDriver)
    Registry.Coherent.empty
  simp only [driverBank] at h
  split at h <;> rename_i hall
  · cases h
    rw [hall] at coherent
    exact ⟨coherent, items_registerAll hall⟩
  · cases h

theorem find?_switch {store : SwitchStore} (h : c.switchStore = .ok store) {name : String}
    {s : Switch} : store.find? name = some s ↔
      ∃ entry ∈ c.switches, entry.toSwitch = s ∧ entry.name = name := by
  obtain ⟨coherent, hitems⟩ := switchStore_ok h
  rw [SwitchStore.find?, coherent.find?_iff, ← SwitchStore.toList, hitems, List.mem_map]
  constructor
  · rintro ⟨⟨entry, hentry, rfl⟩, hname⟩
    exact ⟨entry, hentry, rfl, hname⟩
  · rintro ⟨entry, hentry, rfl, hname⟩
    exact ⟨⟨entry, hentry, rfl⟩, hname⟩

theorem find?_driver {bank : DriverBank} (h : c.driverBank = .ok bank) {name : String}
    {d : Driver} : bank.find? name = some d ↔
      ∃ entry ∈ c.drivers, entry.toDriver = d ∧ entry.name = name := by
  obtain ⟨coherent, hitems⟩ := driverBank_ok h
  rw [DriverBank.find?, coherent.find?_iff, ← DriverBank.toList, hitems, List.mem_map]
  constructor
  · rintro ⟨⟨entry, hentry, rfl⟩, hname⟩
    exact ⟨entry, hentry, rfl, hname⟩
  · rintro ⟨entry, hentry, rfl, hname⟩
    exact ⟨⟨entry, hentry, rfl⟩, hname⟩

namespace WellFormed

theorem exists_switchStore (h : c.WellFormed) : ∃ store, c.switchStore = .ok store := by
  have hnone : (registerAll (c.switches.map SwitchEntry.toSwitch) .empty).1 = [] := by
    refine registerAll_nodup .empty ?_ ?_ <;>
      simp only [Registry.empty, List.nil_append, List.map_map]
    · exact h.switches.2
    · exact h.switches.1
  rcases hall : registerAll (c.switches.map SwitchEntry.toSwitch) .empty with ⟨problems, r⟩
  rw [hall] at hnone
  subst hnone
  exact ⟨⟨r⟩, by simp only [switchStore, hall]⟩

theorem exists_driverBank (h : c.WellFormed) : ∃ bank, c.driverBank = .ok bank := by
  have hnone : (registerAll (c.drivers.map DriverEntry.toDriver) .empty).1 = [] := by
    refine registerAll_nodup .empty ?_ ?_ <;>
      simp only [Registry.empty, List.nil_append, List.map_map]
    · exact h.drivers.2
    · exact h.drivers.1
  rcases hall : registerAll (c.drivers.map DriverEntry.toDriver) .empty with ⟨problems, r⟩
  rw [hall] at hnone
  subst hnone
  exact ⟨⟨r⟩, by simp only [driverBank, hall]⟩

theorem exists_switch {store : SwitchStore} (hstore : c.switchStore = .ok store) {name : String}
    (hname : name ∈ c.switchNames) : ∃ s, store.find? name = some s := by
  obtain ⟨entry, hentry, rfl⟩ := List.mem_map.mp hname
  exact ⟨entry.toSwitch, (find?_switch hstore).mpr ⟨entry, hentry, rfl, rfl⟩⟩

theorem exists_driver {bank : DriverBank} (hbank : c.driverBank = .ok bank) {name : String}
    (hname : name ∈ c.driverNames) : ∃ d, bank.find? name = some d := by
  obtain ⟨entry, hentry, rfl⟩ := List.mem_map.mp hname
  exact ⟨entry.toDriver, (find?_driver hbank).mpr ⟨entry, hentry, rfl, rfl⟩⟩

end WellFormed

end TableConfig

/-! ### The rules of a table -/

namespace FlipperRules
variable {store : SwitchStore} {bank : DriverBank} {name : String}

theorem switchNumber_ok (referrer : Referrer) {n : Nat} :
    switchNumber store name referrer = .ok n ↔ ∃ s, store.find? name = some s ∧ s.number = n := by
  simp only [switchNumber]
  cases store.find? name <;> simp

theorem driverNamed_ok (referrer : Referrer) {d : Driver} :
    driverNamed bank name referrer = .ok d ↔ bank.find? name = some d := by
  simp only [driverNamed]
  cases bank.find? name <;> simp

/-- The parts of a flipper are the switch of its name and the coils of its names. -/
structure IsFlipper (family : FlipperFamily) (store : SwitchStore) (bank : DriverBank)
    (name : String) (f : Flipper) : Prop where
  switch : ∃ s, store.find? name = some s ∧ s.number = f.switch
  main : ∃ d, bank.find? (name ++ "Main") = some d ∧ d.number = f.main
  hold : match family with
    | .dualCoil => ∃ d, bank.find? (name ++ "Hold") = some d ∧ some d.number = f.hold
    | .singleCoilPattern => f.hold = none

/-- The parts of a bumper are the switch and the driver of its name. -/
structure IsBumper (store : SwitchStore) (bank : DriverBank) (name : String) (b : Bumper) :
    Prop where
  switch : ∃ s, store.find? name = some s ∧ s.number = b.switch
  coil : ∃ d, bank.find? name = some d ∧ d.number = b.coil ∧ d.pulseMs = b.pulseMs

theorem resolveFlipper_ok {family : FlipperFamily} {f : Flipper} :
    resolveFlipper family store bank name = .ok f ↔ IsFlipper family store bank name f := by
  constructor
  · intro h
    simp only [resolveFlipper] at h
    split at h
    · rename_i switch main hold hswitch hmain hhold
      cases h
      refine ⟨(switchNumber_ok _).mp hswitch, ⟨main, (driverNamed_ok _).mp hmain, rfl⟩, ?_⟩
      cases family with
      | dualCoil =>
        cases hd : driverNamed bank (name ++ "Hold") (.flipper name) with
        | ok d =>
          simp only [hd] at hhold
          exact ⟨d, (driverNamed_ok _).mp hd, Except.ok.inj hhold⟩
        | error p =>
          simp only [hd] at hhold
          exact nomatch hhold
      | singleCoilPattern => exact (Except.ok.inj hhold).symm
    · cases h
  · intro h
    obtain ⟨switch, main, hold⟩ := f
    obtain ⟨hswitch, ⟨d, hd, rfl⟩, hhold⟩ := h
    have hswitch := (switchNumber_ok (.flipper name)).mpr hswitch
    have hmain := (driverNamed_ok (.flipper name)).mpr hd
    cases family with
    | dualCoil =>
      obtain ⟨d', hd', rfl⟩ := hhold
      have hhold := (driverNamed_ok (.flipper name)).mpr hd'
      simp only [resolveFlipper, hswitch, hmain, hhold]
      rfl
    | singleCoilPattern =>
      cases hhold
      simp only [resolveFlipper, hswitch, hmain]

theorem resolveBumper_ok {b : Bumper} :
    resolveBumper store bank name = .ok b ↔ IsBumper store bank name b := by
  constructor
  · intro h
    simp only [resolveBumper] at h
    split at h
    · rename_i switch coil hswitch hcoil
      cases h
      exact ⟨(switchNumber_ok _).mp hswitch, coil, (driverNamed_ok _).mp hcoil, rfl, rfl⟩
    · cases h
  · intro h
    obtain ⟨switch, coil, pulseMs⟩ := b
    obtain ⟨hswitch, d, hd, rfl, rfl⟩ := h
    have hswitch := (switchNumber_ok (.bumper name)).mpr hswitch
    have hcoil := (driverNamed_ok (.bumper name)).mpr hd
    simp only [resolveBumper, hswitch, hcoil]

/-- A part that was not found has a problem. -/
theorem missing_eq_nil {α : Type} {found : Found α} : missing found = [] ↔ ∃ a, found = .ok a := by
  cases found <;> simp [missing]

theorem resolveFlipper_ne (family : FlipperFamily) (name : String) :
    resolveFlipper family store bank name ≠ .error [] := by
  intro h
  simp only [resolveFlipper] at h
  split at h
  · cases h
  · rename_i notAll
    have hnil := Except.error.inj h
    simp only [List.append_eq_nil_iff, missing_eq_nil] at hnil
    obtain ⟨⟨⟨switch, hswitch⟩, main, hmain⟩, hold, hhold⟩ := hnil
    exact notAll switch main hold hswitch hmain hhold

theorem resolveBumper_ne (name : String) : resolveBumper store bank name ≠ .error [] := by
  intro h
  simp only [resolveBumper] at h
  split at h
  · cases h
  · rename_i notAll
    have hnil := Except.error.inj h
    simp only [List.append_eq_nil_iff, missing_eq_nil] at hnil
    obtain ⟨⟨switch, hswitch⟩, coil, hcoil⟩ := hnil
    exact notAll switch coil hswitch hcoil

/-- No problem is left just if every name was resolved; the parts then come in the order of the
names. -/
theorem resolveAll_ok {α : Type} {resolve : String → Except (List Problem) α}
    (proper : ∀ name, resolve name ≠ .error []) {names : List String} {found : List α} :
    resolveAll resolve names = ([], found) ↔ names.map resolve = found.map .ok := by
  induction names generalizing found with
  | nil =>
    simp only [resolveAll, Prod.mk.injEq, true_and, List.map_nil]
    exact ⟨fun h => h ▸ rfl, fun h => (List.map_eq_nil_iff.mp h.symm).symm⟩
  | cons name rest ih =>
    cases hname : resolve name with
    | error problems =>
      have hne : problems ≠ [] := fun h => proper name (h ▸ hname)
      cases found <;> simp [resolveAll, hname, hne]
    | ok a =>
      rcases hrest : resolveAll resolve rest with ⟨problems, others⟩
      simp only [resolveAll, hname, hrest, List.map_cons]
      cases found with
      | nil => simp
      | cons b found =>
        rw [List.map_cons, List.cons.injEq, ← ih, hrest, Except.ok.injEq]
        simp only [Prod.mk.injEq, List.cons.injEq]
        exact and_left_comm

/-- The problems of resolving some names are those of each name, in order. -/
theorem fst_resolveAll {α : Type} (resolve : String → Except (List Problem) α)
    (names : List String) :
    (resolveAll resolve names).1 = names.flatMap fun name => reported (resolve name) := by
  induction names with
  | nil => rfl
  | cons name rest ih =>
    rw [List.flatMap_cons, ← ih]
    cases hname : resolve name <;> simp [resolveAll, hname, reported]

/-- If every name can be resolved, no problem is left. -/
theorem resolveAll_fst {α : Type} {resolve : String → Except (List Problem) α} {names : List String}
    (found : ∀ name ∈ names, ∃ a, resolve name = .ok a) : (resolveAll resolve names).1 = [] := by
  rw [fst_resolveAll, List.flatMap_eq_nil_iff]
  intro name hname
  obtain ⟨a, ha⟩ := found name hname
  rw [ha]
  rfl

/-- The rules of a table as resolved from its switches and drivers. -/
structure Resolved (c : TableConfig) (store : SwitchStore) (bank : DriverBank)
    (r : FlipperRules) : Prop where
  family : r.family = c.machineType.family
  flippers : c.flippers.map (resolveFlipper c.machineType.family store bank) = r.flippers.map .ok
  bumpers : c.bumpers.map (resolveBumper store bank) = r.bumpers.map .ok
  relay : match c.flipperRelay with
    | some name => ∃ d, bank.find? name = some d ∧ r.relay = some d.number
    | none => r.relay = none
  enabled : r.enabled = false

variable {c : TableConfig} {timing : FlipperTiming} {r : FlipperRules}

theorem resolved_of_resolve (h : resolve c store bank timing = .ok r) :
    Resolved c store bank r := by
  simp only [resolve] at h
  split at h
  · rename_i hnone
    simp only [List.isEmpty_iff, List.append_eq_nil_iff] at hnone
    obtain ⟨⟨hflippers, hbumpers⟩, hrelay⟩ := hnone
    cases h
    refine ⟨rfl, ?_, ?_, ?_, rfl⟩
    · exact (resolveAll_ok (resolveFlipper_ne _)).mp (Prod.ext hflippers rfl)
    · exact (resolveAll_ok resolveBumper_ne).mp (Prod.ext hbumpers rfl)
    · cases hname : c.flipperRelay with
      | none => rfl
      | some name =>
        simp only [hname, Option.map_some, Option.getD_some, missing_eq_nil] at hrelay
        obtain ⟨d, hd⟩ := hrelay
        refine ⟨d, (driverNamed_ok _).mp hd, ?_⟩
        simp only [Option.map_some, Option.bind_some, hd]
        rfl
  · cases h

namespace Resolved

theorem flipper_iff (h : Resolved c store bank r) {f : Flipper} :
    f ∈ r.flippers ↔ ∃ name ∈ c.flippers, IsFlipper c.machineType.family store bank name f := by
  have hmem : f ∈ r.flippers ↔
      Except.ok f ∈ c.flippers.map (resolveFlipper c.machineType.family store bank) := by
    rw [h.flippers, List.mem_map]
    simp
  rw [hmem, List.mem_map]
  simp only [resolveFlipper_ok]

theorem bumper_iff (h : Resolved c store bank r) {b : Bumper} :
    b ∈ r.bumpers ↔ ∃ name ∈ c.bumpers, IsBumper store bank name b := by
  have hmem : b ∈ r.bumpers ↔ Except.ok b ∈ c.bumpers.map (resolveBumper store bank) := by
    rw [h.bumpers, List.mem_map]
    simp
  rw [hmem, List.mem_map]
  simp only [resolveBumper_ok]

end Resolved

end FlipperRules

namespace TableConfig.WellFormed
variable {c : TableConfig} {store : SwitchStore} {bank : DriverBank}

theorem exists_flipper (h : c.WellFormed) (hstore : c.switchStore = .ok store)
    (hbank : c.driverBank = .ok bank) {name : String} (hname : name ∈ c.flippers) :
    ∃ f, FlipperRules.resolveFlipper c.machineType.family store bank name = .ok f := by
  obtain ⟨hswitch, hmain, hhold⟩ := h.flippers name hname
  obtain ⟨s, hs⟩ := exists_switch hstore hswitch
  obtain ⟨d, hd⟩ := exists_driver hbank hmain
  cases hfamily : c.machineType.family with
  | dualCoil =>
    obtain ⟨d', hd'⟩ := exists_driver hbank (hhold hfamily)
    exact ⟨⟨s.number, d.number, some d'.number⟩, FlipperRules.resolveFlipper_ok.mpr
      ⟨⟨s, hs, rfl⟩, ⟨d, hd, rfl⟩, d', hd', rfl⟩⟩
  | singleCoilPattern =>
    exact ⟨⟨s.number, d.number, none⟩, FlipperRules.resolveFlipper_ok.mpr
      ⟨⟨s, hs, rfl⟩, ⟨d, hd, rfl⟩, rfl⟩⟩

theorem exists_bumper (h : c.WellFormed) (hstore : c.switchStore = .ok store)
    (hbank : c.driverBank = .ok bank) {name : String} (hname : name ∈ c.bumpers) :
    ∃ b, FlipperRules.resolveBumper store bank name = .ok b := by
  obtain ⟨hswitch, hcoil⟩ := h.bumpers name hname
  obtain ⟨s, hs⟩ := exists_switch hstore hswitch
  obtain ⟨d, hd⟩ := exists_driver hbank hcoil
  exact ⟨⟨s.number, d.number, d.pulseMs⟩, FlipperRules.resolveBumper_ok.mpr
    ⟨⟨s, hs, rfl⟩, d, hd, rfl, rfl⟩⟩

/-- The rules of an accepted description are resolved from what is built from it. -/
theorem exists_rules (h : c.WellFormed) (hstore : c.switchStore = .ok store)
    (hbank : c.driverBank = .ok bank) (timing : FlipperTiming) :
    ∃ r, FlipperRules.resolve c store bank timing = .ok r := by
  have hflippers := FlipperRules.resolveAll_fst fun _ => h.exists_flipper hstore hbank
  have hbumpers := FlipperRules.resolveAll_fst fun _ => h.exists_bumper hstore hbank
  have hrelay : ((c.flipperRelay.map fun name => FlipperRules.driverNamed bank name .relay).map
      FlipperRules.missing).getD [] = [] := by
    cases hname : c.flipperRelay with
    | none => rfl
    | some name =>
      obtain ⟨d, hd⟩ := exists_driver hbank (h.relay name hname)
      exact FlipperRules.missing_eq_nil.mpr ⟨d, (FlipperRules.driverNamed_ok _).mpr hd⟩
  refine ⟨_, if_pos ?_⟩
  rw [hflippers, hbumpers, hrelay]
  rfl

end TableConfig.WellFormed

end Playfield
