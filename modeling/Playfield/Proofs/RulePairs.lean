import Playfield.Proofs.BumperPulse

/-!
# One rule for each switch and trigger

The board keeps one rule for each switch and trigger, so of several rules compiled for one pair the
last is kept. A flipper has a rule for the closing and one for the opening of its switch, a bumper
one for the closing. Acceptance does not look for names that are listed more than once: the pairs
are all different just if no name occurs twice among the flippers and bumpers. A name repeated in
one list compiles to the same rules again and does no harm; a bumper with the name of a flipper
takes the place of the flipper's closing rule.
-/
namespace Playfield

namespace RuleTable

/-- Once some rules with directives have been written, the table holds each of them just if those
for the same pair are the same. -/
theorem holds_writeAll_iff (t : RuleTable) {rules : List Rule}
    (busy : ∀ r ∈ rules, r.directives ≠ []) :
    (∀ r ∈ rules, (t.writeAll rules).get? r.key = some ⟨r.options, r.directives⟩) ↔
      ∀ r ∈ rules, ∀ r' ∈ rules, r.key = r'.key → r = r' := by
  constructor
  · intro holds r hr r' hr' hkey
    have h := holds r hr
    rw [hkey, holds r' hr', Option.some.injEq, InstalledRule.mk.injEq] at h
    obtain ⟨hswitch, htrigger⟩ := Prod.mk.inj hkey
    obtain ⟨hoptions, hdirectives⟩ := h
    cases r
    cases r'
    rw [Rule.mk.injEq]
    exact ⟨hswitch, htrigger, hoptions.symm, hdirectives.symm⟩
  · intro agree r hr
    obtain ⟨last, hlast, hkey, hfor⟩ := exists_lastFor hr
    have hsame : last = r := agree last hlast r hr hkey
    rw [shows_writeAll t busy r hr, hfor, hsame]
    rfl

end RuleTable

namespace FlipperRules

/-- The pairs of a flipper's rules, by its switch. -/
def flipperPairs (switch : Nat) : List (Nat × Trigger) :=
  [(switch, .closedNondebounced), (switch, .openNondebounced)]

/-- The pair of a bumper's rule, by its switch. -/
def bumperPair (switch : Nat) : Nat × Trigger := (switch, .closedNondebounced)

theorem keys_eq (r : FlipperRules) (enable : Bool) : (r.compile enable).map Rule.key =
    (r.flippers.map Flipper.switch).flatMap flipperPairs ++
      (r.bumpers.map Bumper.switch).map bumperPair := by
  simp only [compile, List.map_append, List.map_flatMap, List.flatMap_map, List.map_map]
  rfl

/-- The pairs of some flippers and bumpers are all different just if their switches are. -/
theorem nodup_pairs_iff {flippers bumpers : List Nat} :
    (flippers.flatMap flipperPairs ++ bumpers.map bumperPair).Nodup ↔
      (flippers ++ bumpers).Nodup := by
  have hmem (n : Nat) (k : Nat × Trigger) : k ∈ flipperPairs n ↔
      k = (n, .closedNondebounced) ∨ k = (n, .openNondebounced) := by simp [flipperPairs]
  have hflippers : (flippers.flatMap flipperPairs).Nodup ↔ flippers.Nodup := by
    induction flippers with
    | nil => simp
    | cons n rest ih =>
      rw [List.flatMap_cons, List.nodup_append, ih, List.nodup_cons]
      constructor
      · rintro ⟨-, hrest, hfresh⟩
        refine ⟨fun hin => ?_, hrest⟩
        have hfirst : (n, .closedNondebounced) ∈ flipperPairs n := (hmem n _).mpr (.inl rfl)
        exact hfresh _ hfirst _ (List.mem_flatMap.mpr ⟨n, hin, hfirst⟩) rfl
      · rintro ⟨hfresh, hrest⟩
        refine ⟨by simp [flipperPairs], hrest, fun k hk k' hk' heq => hfresh ?_⟩
        obtain ⟨n', hn', hin⟩ := List.mem_flatMap.mp hk'
        have hsame : n = n' := by
          rcases (hmem n k).mp hk with rfl | rfl <;> rcases (hmem n' k').mp hin with rfl | rfl <;>
            exact congrArg Prod.fst heq
        exact hsame ▸ hn'
  have hbumpers : (bumpers.map bumperPair).Nodup ↔ bumpers.Nodup :=
    List.nodup_map_iff fun _ _ h => congrArg Prod.fst h
  rw [List.nodup_append, List.nodup_append, hflippers, hbumpers]
  refine and_congr_right fun _ => and_congr_right fun _ => ?_
  constructor
  · intro apart n hn n' hn' heq
    refine apart (n, .closedNondebounced) ?_ (bumperPair n') (List.mem_map_of_mem hn') ?_
    · exact List.mem_flatMap.mpr ⟨n, hn, (hmem n _).mpr (.inl rfl)⟩
    · rw [heq]
      rfl
  · intro apart k hk k' hk' heq
    obtain ⟨n, hn, hin⟩ := List.mem_flatMap.mp hk
    obtain ⟨n', hn', rfl⟩ := List.mem_map.mp hk'
    refine apart n hn n' hn' ?_
    rcases (hmem n k).mp hin with rfl | rfl <;> exact congrArg Prod.fst heq

variable {c : TableConfig} {store : SwitchStore} {bank : DriverBank} {r : FlipperRules}

/-- The number of the switch with a name. -/
def numberOf (store : SwitchStore) (name : String) : Option Nat :=
  (store.find? name).map Switch.number

theorem numberOf_eq_some {name : String} {n : Nat} :
    numberOf store name = some n ↔ ∃ s, store.find? name = some s ∧ s.number = n :=
  Option.map_eq_some_iff

/-- Switches with different names have different numbers. -/
theorem name_of_numberOf (coherent : store.Coherent) {name name' : String} {n : Nat}
    (h : numberOf store name = some n) (h' : numberOf store name' = some n) : name = name' := by
  obtain ⟨s, hs, hn⟩ := numberOf_eq_some.mp h
  obtain ⟨s', hs', hn'⟩ := numberOf_eq_some.mp h'
  obtain ⟨hmem, hname⟩ := coherent.find?_iff.mp hs
  obtain ⟨hmem', hname'⟩ := coherent.find?_iff.mp hs'
  have hget : store.get? n = some s := coherent.get?_iff.mpr ⟨hmem, hn⟩
  have hget' : store.get? n = some s' := coherent.get?_iff.mpr ⟨hmem', hn'⟩
  rw [hget, Option.some.injEq] at hget'
  rw [← hname, ← hname', hget']

/-- Lists that agree item by item agree in what follows for each item. -/
private theorem map_eq_map {α β γ δ : Type} {f : α → γ} {g : β → γ} {f' : α → δ} {g' : β → δ}
    (follows : ∀ a b, f a = g b → f' a = g' b) {as : List α} {bs : List β}
    (h : as.map f = bs.map g) : as.map f' = bs.map g' := by
  induction as generalizing bs with
  | nil => rw [List.map_eq_nil_iff.mp h.symm]; rfl
  | cons a as ih =>
    cases bs with
    | nil => exact nomatch h
    | cons b bs =>
      obtain ⟨hfirst, hrest⟩ := List.cons.inj h
      rw [List.map_cons, List.map_cons, follows a b hfirst, ih hrest]

/-- The names of flippers and bumpers are all different just if their switches are. -/
theorem Resolved.nodup_iff (h : Resolved c store bank r) (coherent : store.Coherent) :
    (r.flippers.map Flipper.switch ++ r.bumpers.map Bumper.switch).Nodup ↔
      (c.flippers ++ c.bumpers).Nodup := by
  have hnumbers : (c.flippers ++ c.bumpers).map (numberOf store) =
      (r.flippers.map Flipper.switch ++ r.bumpers.map Bumper.switch).map some := by
    rw [List.map_append, List.map_append, List.map_map, List.map_map]
    refine congrArg₂ _ (map_eq_map (fun name f hok => ?_) h.flippers)
      (map_eq_map (fun name b hok => ?_) h.bumpers)
    · exact numberOf_eq_some.mpr (resolveFlipper_ok.mp hok).switch
    · exact numberOf_eq_some.mpr (resolveBumper_ok.mp hok).switch
  rw [← List.nodup_map_iff (f := some) fun _ _ => Option.some.inj, ← hnumbers]
  constructor
  · exact List.Nodup.of_map _
  · refine List.Nodup.map_on fun name hname name' _ heq => ?_
    have hin := hnumbers ▸ List.mem_map_of_mem (f := numberOf store) hname
    obtain ⟨n, -, hn⟩ := List.mem_map.mp hin
    exact name_of_numberOf coherent hn.symm (heq.symm.trans hn.symm)

namespace Resolved

theorem exists_flipper (h : Resolved c store bank r) {name : String} (hname : name ∈ c.flippers) :
    ∃ f ∈ r.flippers, IsFlipper c.machineType.family store bank name f := by
  have hmem := h.flippers ▸ List.mem_map_of_mem hname
  obtain ⟨f, hf, hok⟩ := List.mem_map.mp hmem
  exact ⟨f, hf, resolveFlipper_ok.mp hok.symm⟩

theorem exists_bumper (h : Resolved c store bank r) {name : String} (hname : name ∈ c.bumpers) :
    ∃ b ∈ r.bumpers, IsBumper store bank name b := by
  have hmem := h.bumpers ▸ List.mem_map_of_mem hname
  obtain ⟨b, hb, hok⟩ := List.mem_map.mp hmem
  exact ⟨b, hb, resolveBumper_ok.mp hok.symm⟩

/-- Flippers with the same switch are the same. -/
theorem flipper_eq (h : Resolved c store bank r) (coherent : store.Coherent) {f f' : Flipper}
    (hf : f ∈ r.flippers) (hf' : f' ∈ r.flippers) (hswitch : f.switch = f'.switch) : f = f' := by
  obtain ⟨name, -, hparts⟩ := h.flipper_iff.mp hf
  obtain ⟨name', -, hparts'⟩ := h.flipper_iff.mp hf'
  have hname := name_of_numberOf coherent (numberOf_eq_some.mpr hparts.switch)
    (hswitch ▸ numberOf_eq_some.mpr hparts'.switch)
  have hok := resolveFlipper_ok.mpr hparts
  rw [hname, resolveFlipper_ok.mpr hparts'] at hok
  exact (Except.ok.inj hok).symm

/-- Bumpers with the same switch are the same. -/
theorem bumper_eq (h : Resolved c store bank r) (coherent : store.Coherent) {b b' : Bumper}
    (hb : b ∈ r.bumpers) (hb' : b' ∈ r.bumpers) (hswitch : b.switch = b'.switch) : b = b' := by
  obtain ⟨name, -, hparts⟩ := h.bumper_iff.mp hb
  obtain ⟨name', -, hparts'⟩ := h.bumper_iff.mp hb'
  have hname := name_of_numberOf coherent (numberOf_eq_some.mpr hparts.switch)
    (hswitch ▸ numberOf_eq_some.mpr hparts'.switch)
  have hok := resolveBumper_ok.mpr hparts
  rw [hname, resolveBumper_ok.mpr hparts'] at hok
  exact (Except.ok.inj hok).symm

/-- A flipper and a bumper share a switch just if some name is listed as both. -/
theorem share_iff (h : Resolved c store bank r) (coherent : store.Coherent) :
    (∃ f ∈ r.flippers, ∃ b ∈ r.bumpers, f.switch = b.switch) ↔
      ∃ name ∈ c.flippers, name ∈ c.bumpers := by
  constructor
  · rintro ⟨f, hf, b, hb, hswitch⟩
    obtain ⟨name, hname, hparts⟩ := h.flipper_iff.mp hf
    obtain ⟨name', hname', hparts'⟩ := h.bumper_iff.mp hb
    have hsame := name_of_numberOf coherent (numberOf_eq_some.mpr hparts.switch)
      (hswitch ▸ numberOf_eq_some.mpr hparts'.switch)
    exact ⟨name, hname, hsame ▸ hname'⟩
  · rintro ⟨name, hflipper, hbumper⟩
    obtain ⟨f, hf, hparts⟩ := h.exists_flipper hflipper
    obtain ⟨b, hb, hparts'⟩ := h.exists_bumper hbumper
    have hnumber := numberOf_eq_some.mpr hparts.switch
    rw [numberOf_eq_some.mpr hparts'.switch, Option.some.injEq] at hnumber
    exact ⟨f, hf, b, hb, hnumber.symm⟩

/-- Rules for the same pair are the same just if no name is listed as flipper and as bumper. -/
theorem agree_iff (h : Resolved c store bank r) (coherent : store.Coherent) :
    (∀ rule ∈ r.compile true, ∀ rule' ∈ r.compile true, rule.key = rule'.key → rule = rule') ↔
      ¬ ∃ name ∈ c.flippers, name ∈ c.bumpers := by
  rw [← h.share_iff coherent]
  constructor
  · rintro agree ⟨f, hf, b, hb, hswitch⟩
    have hclose : (⟨f.switch, .closedNondebounced, {}, r.onClose f⟩ : Rule) ∈ r.compile true :=
      mem_compile.mpr (.inl ⟨f, hf, List.mem_cons_self⟩)
    have hbump : bumperRule true b ∈ r.compile true := mem_compile.mpr (.inr ⟨b, hb, rfl⟩)
    have hsame := agree _ hclose _ hbump (congrArg (·, Trigger.closedNondebounced) hswitch)
    exact nomatch congrArg (fun rule => rule.options.reloadActive) hsame
  · intro apart rule hrule rule' hrule' hkey
    have hswitch : rule.switch = rule'.switch := congrArg Prod.fst hkey
    have htrigger : rule.trigger = rule'.trigger := congrArg Prod.snd hkey
    have of_flipper {f : Flipper} {rule : Rule} (hin : rule ∈ r.flipperRules true f) :
        rule.switch = f.switch ∧ rule = ⟨f.switch, rule.trigger, {},
          if rule.trigger = .closedNondebounced then r.onClose f else r.onOpen f⟩ := by
      simp only [flipperRules, if_true, List.mem_cons, List.not_mem_nil, or_false] at hin
      rcases hin with rfl | rfl <;> exact ⟨rfl, rfl⟩
    rcases mem_compile.mp hrule with ⟨f, hf, hin⟩ | ⟨b, hb, rfl⟩ <;>
      rcases mem_compile.mp hrule' with ⟨f', hf', hin'⟩ | ⟨b', hb', rfl⟩
    · obtain ⟨hfirst, heq⟩ := of_flipper hin
      obtain ⟨hsecond, heq'⟩ := of_flipper hin'
      have hsame : f = f' := h.flipper_eq coherent hf hf' (hfirst ▸ hsecond ▸ hswitch)
      rw [heq, heq', htrigger, hsame]
    · exact absurd ⟨f, hf, b', hb', (of_flipper hin).1 ▸ hswitch⟩ apart
    · exact absurd ⟨f', hf', b, hb, (of_flipper hin').1 ▸ hswitch.symm⟩ apart
    · rw [h.bumper_eq coherent hb hb' hswitch]

end Resolved

end FlipperRules

/-- The rules of an accepted description go to pairs that are all different just if no name occurs
twice among the flippers and bumpers. Whatever was on the board, after the rules have been turned on
it holds for each pair the last rule compiled for it; it holds every rule just as it was compiled
just if no flipper has the name of a bumper. -/
theorem TableConfig.rule_pairs_iff {c : TableConfig} (accepted : c.validate = .ok ())
    (timing : FlipperTiming) : ∃ start : Rig, c.rig timing = .ok start ∧
      (((start.1.compile true).map fun rule => (rule.switch, rule.trigger)).Nodup ↔
        (c.flippers ++ c.bumpers).Nodup) ∧
      ∀ (bank : DriverBank) (b : Bench) (now : Span) (wrote : Bool),
        (FlipperRules.setEnabled true now (start.1, bank, b)).1 = .ok wrote →
        let rules := (FlipperRules.setEnabled true now (start.1, bank, b)).2.2.2.board.rules
        (∀ pair, rules.get? pair =
          match RuleTable.lastFor? (start.1.compile true) pair with
          | some rule => some ⟨rule.options, rule.directives⟩
          | none => b.board.rules.get? pair) ∧
        ((∀ rule ∈ start.1.compile true,
            rules.get? (rule.switch, rule.trigger) = some ⟨rule.options, rule.directives⟩) ↔
          ¬ ∃ name ∈ c.flippers, name ∈ c.bumpers) := by
  have wellFormed := wellFormed_of_validate accepted
  obtain ⟨store, bank, r, hstore, hbank, hr, hrig⟩ := exists_rig wellFormed timing
  have resolved := FlipperRules.resolved_of_resolve hr
  have coherent := (switchStore_ok hstore).1
  have busy : ∀ rule ∈ r.compile true, rule.directives ≠ [] := fun rule =>
    FlipperRules.directives_ne_nil
  refine ⟨(r, bank, {}), hrig, ?_, fun bank b now wrote h => ?_⟩
  · have hkeys : ((r.compile true).map fun rule => (rule.switch, rule.trigger)) =
        (r.compile true).map Rule.key := rfl
    rw [hkeys, r.keys_eq, FlipperRules.nodup_pairs_iff]
    exact resolved.nodup_iff coherent
  · intro rules
    have hrules : rules = b.board.rules.writeAll (r.compile true) := by
      rcases FlipperRules.setEnabled_cases true now (r, bank, b) with
        ⟨-, hon, -⟩ | ⟨-, ⟨hok, hrun⟩ | ⟨-, hne, -⟩⟩
      · exact nomatch hon.symm.trans resolved.enabled
      · exact (congrArg (fun s : Rig => s.2.2.board.rules) (congrArg Prod.snd hrun)).trans
          (FlipperRules.apply_ok hok).1
      · exact absurd h (hne wrote)
    rw [hrules]
    refine ⟨fun pair => ?_, ?_⟩
    · rw [RuleTable.get?_writeAll]
      cases hlast : RuleTable.lastFor? (r.compile true) pair with
      | none => rfl
      | some rule =>
        have hmem := (List.mem_filter.mp (List.mem_of_getLast? hlast)).1
        simp [Rule.installed?, busy rule hmem]
    · exact (RuleTable.holds_writeAll_iff _ busy).trans (resolved.agree_iff coherent)

/-- A table with a flipper, and a bumper at another switch. -/
def slingTable : TableConfig where
  machineType := .wpc
  switches := [{ name := "left", number := 9 }, { name := "sling", number := 10 }]
  coils := [{ name := "leftMain", number := 5 }, { name := "leftHold", number := 6 },
    { name := "sling", number := 7 }]
  flippers := ["left"]
  bumpers := ["sling"]

/-- The rules of that table go to different pairs, and all are on a new board once they have been
turned on. -/
theorem sling_rules_apart :
    slingTable.validate = .ok () ∧ ∃ start : Rig, slingTable.rig ⟨34, 2, 18⟩ = .ok start ∧
      ((start.1.compile true).map fun rule => (rule.switch, rule.trigger)).Nodup ∧
      ∀ rule ∈ start.1.compile true,
        (FlipperRules.setEnabled true .zero start).2.2.2.board.rules.get?
          (rule.switch, rule.trigger) = some ⟨rule.options, rule.directives⟩ := by
  have accepted : slingTable.validate = .ok () := by decide +kernel
  obtain ⟨start, hstart, hpairs, hset⟩ := TableConfig.rule_pairs_iff accepted ⟨34, 2, 18⟩
  obtain ⟨other, hother, hon⟩ := exists_of_seen (x := slingTable.rig ⟨34, 2, 18⟩)
    (P := fun s => (FlipperRules.setEnabled true .zero s).1 = .ok true) (by decide +kernel)
  obtain rfl : start = other := Except.ok.inj (hstart.symm.trans hother)
  have apart : ¬ ∃ name ∈ slingTable.flippers, name ∈ slingTable.bumpers := by decide
  exact ⟨accepted, start, hstart, hpairs.mpr (by decide),
    (hset start.2.1 start.2.2 .zero true hon).2.mpr apart⟩

/-- A table is accepted whose bumper has the name of its flipper. Two rules are compiled for the
closing of their switch, and once the rules have been turned on the flipper's is not on the board.
-/
theorem flipper_rule_replaced :
    flipperTable.validate = .ok () ∧ ∃ start : Rig, flipperTable.rig ⟨34, 2, 18⟩ = .ok start ∧
      ¬ ((start.1.compile true).map fun rule => (rule.switch, rule.trigger)).Nodup ∧
      (FlipperRules.setEnabled true .zero start).1 = .ok true ∧
      ∃ rule ∈ start.1.compile true,
        (FlipperRules.setEnabled true .zero start).2.2.2.board.rules.get?
          (rule.switch, rule.trigger) ≠ some ⟨rule.options, rule.directives⟩ := by
  refine ⟨by decide +kernel, ?_⟩
  exact exists_of_seen (by decide +kernel)

end Playfield
