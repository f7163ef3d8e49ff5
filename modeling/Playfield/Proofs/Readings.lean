import Playfield.Proofs.Accepted
import Playfield.Proofs.Books
import Playfield.Proofs.Outputs

/-!
# What the switches tell

A switch event is a reading: it says which level a switch has, at the time it is dealt with. All
that a machine knows of its switches are the readings so far. A switch has the level of its last
reading, and has had it since the last reading that differed from the one before; the stack is
walked once for each such reading and for no other (`Machine.store_follows_events`).
-/
namespace Playfield

/-- A level of a switch as an event reported it. -/
structure Reading where
  number : Nat
  closed : Bool
  /-- When the event was dealt with. -/
  time : Span

namespace Reading

/-- The last level that readings report of a switch. It is open to begin with. -/
def levelOf (number : Nat) (rs : List Reading) : Bool :=
  (rs.filter fun r => r.number = number).getLast?.any Reading.closed

/-- The readings that differ from the level before, where others come before them all. -/
def changesFrom (before : List Reading) : List Reading → List Reading
  | [] => []
  | r :: rest =>
    (if levelOf r.number before = r.closed then [] else [r]) ++ changesFrom (before ++ [r]) rest

/-- The readings that differ from the level before. -/
def changes (rs : List Reading) : List Reading := changesFrom [] rs

/-- When the level of a switch last changed; zero if it never did. -/
def changedAt (number : Nat) (rs : List Reading) : Span :=
  ((changes rs).filter fun r => r.number = number).getLast?.elim .zero Reading.time

theorem levelOf_concat (number : Nat) (rs : List Reading) (r : Reading) :
    levelOf number (rs ++ [r]) = if r.number = number then r.closed else levelOf number rs := by
  by_cases h : r.number = number <;>
    simp [levelOf, List.filter_append, h]

theorem changesFrom_concat (before rs : List Reading) (r : Reading) :
    changesFrom before (rs ++ [r]) = changesFrom before rs ++
      if levelOf r.number (before ++ rs) = r.closed then [] else [r] := by
  induction rs generalizing before with
  | nil => simp only [List.nil_append, changesFrom, List.append_nil]
  | cons s rest ih =>
    rw [List.cons_append, changesFrom, ih, changesFrom, List.append_assoc, List.append_assoc,
      List.singleton_append]

theorem changes_concat (rs : List Reading) (r : Reading) :
    changes (rs ++ [r]) =
      changes rs ++ if levelOf r.number rs = r.closed then [] else [r] :=
  changesFrom_concat [] rs r

theorem changedAt_concat (number : Nat) (rs : List Reading) (r : Reading) :
    changedAt number (rs ++ [r]) =
      if r.number = number ∧ levelOf number rs ≠ r.closed then r.time else changedAt number rs := by
  rw [changedAt, changes_concat]
  by_cases hsame : levelOf r.number rs = r.closed
  · have hnot : ¬ (r.number = number ∧ levelOf number rs ≠ r.closed) := fun h =>
      h.2 (h.1 ▸ hsame)
    rw [if_pos hsame, if_neg hnot, List.append_nil]
    rfl
  · by_cases hnumber : r.number = number
    · have hyes : r.number = number ∧ levelOf number rs ≠ r.closed :=
        ⟨hnumber, hnumber ▸ hsame⟩
      rw [if_neg hsame, if_pos hyes]
      simp [List.filter_append, hnumber]
    · rw [if_neg hsame, if_neg fun h => hnumber h.1]
      simp [List.filter_append, hnumber, changedAt]

end Reading

/-- The level that a stage reports, if it deals with a switch event. -/
def Stage.reading? {σ κ : Type} : Stage σ κ → Option Reading
  | .event e now => e.kind.level?.map fun closed => ⟨e.value, closed, now⟩
  | _ => none

/-- What a reported level does to lookups by any number. -/
theorem SwitchStore.get?_report_eq {store : SwitchStore} (h : store.Coherent) (number : Nat)
    (closed : Bool) (now : Span) (other : Nat) :
    (store.report number closed now).2.get? other =
      (store.get? other).map fun s =>
        if other = number ∧ s.closed ≠ closed then reported s closed now else s := by
  by_cases hother : other = number
  · subst hother
    cases found : store.get? other with
    | none => rw [report_unknown found, found, Option.map_none]
    | some s =>
      by_cases same : s.closed = closed
      · rw [report_same found same, found, Option.map_some, if_neg fun h => h.2 same]
      · rw [get?_report found same, Option.map_some, if_pos ⟨rfl, same⟩]
  · have hsame : (store.report number closed now).2.get? other = store.get? other := by
      simp only [report]
      split
      · rfl
      · split
        · rfl
        · exact h.get?_modifyNumber_ne hother _
    simp only [hsame, hother, false_and, if_false, Option.map_id']

namespace Machine
variable {σ κ : Type}

/-- The machine has the switch of a reading. -/
def knows (m : Machine σ κ) (r : Reading) : Bool := (m.cabinet.switches.get? r.number).isSome

/-! ### One reading -/

section Reading
variable {m : Machine σ κ} {number : Nat} {closed : Bool} {now : Span}

/-- An event for an unknown switch is counted and remarked on, and that is all. -/
theorem switchChanged_unknown (unknown : m.cabinet.switches.get? number = none) :
    switchChanged number closed now m =
      (.ok (), { m with
        engine := { m.engine with stats := { m.engine.stats with
          switchEvents := m.engine.stats.switchEvents + 1 } }
        cabinet := { m.cabinet with
          bench := m.cabinet.bench.remark .warn
            ("event for unknown switch " ++ toString number) } }) := by
  rw [switchChanged_eq, noted, SwitchStore.report_unknown unknown]
  rfl

/-- An event that brings no change is counted twice and remarked on, and that is all. -/
theorem switchChanged_same {old : Switch} (found : m.cabinet.switches.get? number = some old)
    (same : old.closed = closed) : switchChanged number closed now m =
      (.ok (), { m with
        engine := { m.engine with stats := { m.engine.stats with
          switchEvents := m.engine.stats.switchEvents + 1
          duplicateEvents := m.engine.stats.duplicateEvents + 1 } }
        cabinet := { m.cabinet with
          bench := m.cabinet.bench.remark .trace
            ("switch " ++ toString number ++ " already " ++ levelText closed) } }) := by
  rw [switchChanged_eq, noted, SwitchStore.report_same found same]
  simp only [same, if_true]
  rfl

/-- A change of level is noted, remarked on and walked down the stack. -/
theorem switchChanged_walk {old : Switch} (found : m.cabinet.switches.get? number = some old)
    (changed : old.closed ≠ closed) : switchChanged number closed now m =
      inContext now (do
        Engine.log .debug (changeText (SwitchStore.reported old closed now))
        Engine.dispatch (SwitchStore.reported old closed now)) (m.noted number closed now) := by
  rw [switchChanged_change found changed]
  exact inContext_congr (handDown_eq ((m.noted number closed now).scene now)
    (SwitchStore.get?_report found changed) _)

end Reading

/-! ### All readings so far -/

/-- What a machine that began as another one has come to know by some readings. -/
structure Follows (m₀ m : Machine σ κ) (rs : List Reading) : Prop where
  coherent : m.cabinet.switches.Coherent
  switches : ∀ number, m.cabinet.switches.get? number =
    (m₀.cabinet.switches.get? number).map fun s =>
      { s with closed := Reading.levelOf number rs, lastChanged := Reading.changedAt number rs }
  events : m.engine.stats.switchEvents = rs.length
  walks : m.engine.stats.dispatches = ((Reading.changes rs).filter m₀.knows).length
  sum : m.engine.stats.duplicateEvents + m.engine.stats.dispatches = (rs.filter m₀.knows).length

namespace Follows
variable {m₀ m m' : Machine σ κ} {rs : List Reading}

theorem of_tally (h : m₀.Follows m rs) (htally : m'.tally = m.tally) : m₀.Follows m' rs := by
  simp only [tally, Stats.ofSwitches, Prod.mk.injEq] at htally
  obtain ⟨hswitches, hevents, hduplicates, hwalks⟩ := htally
  exact ⟨hswitches ▸ h.coherent, hswitches ▸ h.switches, hevents.trans h.events,
    hwalks.trans h.walks, by rw [hduplicates, hwalks, h.sum]⟩

theorem closed_eq (h : m₀.Follows m rs) {number : Nat} {old : Switch}
    (found : m.cabinet.switches.get? number = some old) :
    old.closed = Reading.levelOf number rs := by
  rw [h.switches, Option.map_eq_some_iff] at found
  obtain ⟨s, -, rfl⟩ := found
  rfl

theorem knows_iff (h : m₀.Follows m rs) (r : Reading) :
    m₀.knows r = (m.cabinet.switches.get? r.number).isSome := by
  rw [knows, h.switches, Option.isSome_map]

theorem store_switchChanged (number : Nat) (closed : Bool) (now : Span) (m : Machine σ κ) :
    (switchChanged number closed now m).2.cabinet.switches =
      (m.cabinet.switches.report number closed now).2 := by
  cases found : m.cabinet.switches.get? number with
  | none => rw [switchChanged_unknown found, SwitchStore.report_unknown found]
  | some old =>
    by_cases same : old.closed = closed
    · rw [switchChanged_same found same, SwitchStore.report_same found same]
    · rw [switchChanged_change found same]
      exact congrArg Prod.fst (books_handDown (SwitchStore.get?_report found same) now)

/-- What one more reading does to the counters. -/
theorem stats_switchChanged (h : m₀.Follows m rs) (number : Nat) (closed : Bool) (now : Span) :
    (switchChanged number closed now m).2.engine.stats.ofSwitches =
      (m.engine.stats.switchEvents + 1,
        m.engine.stats.duplicateEvents +
          (if m₀.knows ⟨number, closed, now⟩ ∧ Reading.levelOf number rs = closed then 1 else 0),
        m.engine.stats.dispatches +
          (if m₀.knows ⟨number, closed, now⟩ ∧ Reading.levelOf number rs ≠ closed then 1
            else 0)) := by
  have hknows := h.knows_iff ⟨number, closed, now⟩
  cases found : m.cabinet.switches.get? number with
  | none =>
    rw [switchChanged_unknown found]
    simp [hknows, found, Stats.ofSwitches]
  | some old =>
    have hlevel := h.closed_eq found
    by_cases same : old.closed = closed
    · rw [switchChanged_same found same]
      simp [hknows, found, Stats.ofSwitches, ← hlevel, same]
    · rw [switchChanged_change found same]
      have hbooks := books_handDown (m := m.noted number closed now)
        (SwitchStore.get?_report found same) now
      refine (congrArg (fun books => books.2.1) hbooks).trans ?_
      simp [hknows, found, ← hlevel, same, noted]

/-- One more reading. -/
theorem read (h : m₀.Follows m rs) (number : Nat) (closed : Bool) (now : Span) :
    m₀.Follows (switchChanged number closed now m).2 (rs ++ [⟨number, closed, now⟩]) := by
  have hstore := store_switchChanged number closed now m
  have hstats := h.stats_switchChanged number closed now
  simp only [Stats.ofSwitches, Prod.mk.injEq] at hstats
  obtain ⟨hevents, hduplicates, hwalks⟩ := hstats
  refine ⟨?_, fun other => ?_, ?_, ?_, ?_⟩
  · rw [hstore]
    exact SwitchStore.coherent_report h.coherent _ _ _
  · rw [hstore, SwitchStore.get?_report_eq h.coherent, h.switches, Option.map_map]
    refine congrArg (fun f => Option.map f _) (funext fun s => ?_)
    simp only [Function.comp_apply, Reading.levelOf_concat, Reading.changedAt_concat]
    by_cases hnumber : other = number
    · subst hnumber
      by_cases hsame : Reading.levelOf other rs = closed <;> simp [hsame, SwitchStore.reported]
    · simp [hnumber, Ne.symm hnumber]
  · rw [hevents, h.events, List.length_append]
    rfl
  · rw [hwalks, h.walks, Reading.changes_concat, List.filter_append, List.length_append]
    by_cases hsame : Reading.levelOf number rs = closed <;>
      by_cases hknown : m₀.knows ⟨number, closed, now⟩ <;> simp [hsame, hknown]
  · rw [List.filter_append, List.length_append, ← h.sum, hduplicates, hwalks]
    by_cases hsame : Reading.levelOf number rs = closed <;>
      by_cases hknown : m₀.knows ⟨number, closed, now⟩ <;> simp [hsame, hknown] <;> omega

/-- A stage adds its reading, if it has one. -/
theorem stage (h : m₀.Follows m rs) {st : Stage σ κ} (spares : st.Spares) :
    m₀.Follows (st.run m) (rs ++ st.reading?.toList) := by
  cases hread : st.reading? with
  | none =>
    have hother : ∀ e now, st = .event e now → e.kind.level? = none := by
      rintro e now rfl
      exact Option.map_eq_none_iff.mp hread
    rw [Option.toList_none, List.append_nil]
    exact h.of_tally (st.keeps_tally spares hother m)
  | some r =>
    cases st with
    | event e now =>
      obtain ⟨closed, hlevel, rfl⟩ := Option.map_eq_some_iff.mp hread
      simp only [Stage.run, Stage.act, handleEvent, hlevel]
      exact h.read e.value closed now
    | _ => cases hread

theorem stages (h : m₀.Follows m rs) {sts : List (Stage σ κ)} (spares : ∀ st ∈ sts, st.Spares) :
    m₀.Follows (m.afterStages sts) (rs ++ sts.filterMap Stage.reading?) := by
  induction sts generalizing m rs with
  | nil => exact (List.append_nil rs).symm ▸ h
  | cons st rest ih =>
    obtain ⟨hst, hrest⟩ := List.forall_mem_cons.mp spares
    have hsplit : (st :: rest).filterMap Stage.reading? =
        st.reading?.toList ++ rest.filterMap Stage.reading? := by
      rw [List.filterMap_cons]
      cases st.reading? <;> rfl
    rw [hsplit, ← List.append_assoc]
    exact ih (h.stage hst) hrest

end Follows

/-- A machine that has been built has read nothing yet. -/
theorem Built.follows {m : Machine σ κ} (h : m.Built) : m.Follows m [] := by
  obtain ⟨c, settings, cabinet, memory, hook, catalogue, hbuild⟩ := h
  obtain ⟨_, -, hassemble⟩ := exists_of_bind hbuild
  obtain ⟨switches, hswitches, hrest⟩ := exists_of_bind hassemble
  obtain ⟨drivers, -, hrest⟩ := exists_of_bind hrest
  obtain ⟨rules, -, hrest⟩ := exists_of_bind hrest
  cases hrest
  obtain ⟨coherent, hitems⟩ := TableConfig.switchStore_ok hswitches
  refine ⟨coherent, fun number => ?_, rfl, rfl, rfl⟩
  dsimp only
  cases found : switches.get? number with
  | none => rfl
  | some s =>
    have hmem : s ∈ switches.toList := (coherent.get?_iff.mp found).1
    rw [hitems, List.mem_map] at hmem
    obtain ⟨entry, -, rfl⟩ := hmem
    rfl

/-- At each point of whatever is done with a machine, every switch has the level of its last
reading, and the time of its last reading that brought a change; events, walks and changes are
counted right. An event for an unknown switch is only counted and remarked on, and so is one that
brings no change; every other switch event hands the switch as reported down the stack. -/
theorem store_follows_events {m₀ : Machine σ κ} (built : m₀.Built) (ops : List (Operation σ κ)) :
    (performAll ops m₀).2 = m₀.afterStages (m₀.stagesOf (callsOf ops m₀)) ∧
    ∀ before after, m₀.stagesOf (callsOf ops m₀) = before ++ after →
      let m := m₀.afterStages before
      let rs := before.filterMap Stage.reading?
      (∀ number, m.cabinet.switches.get? number =
        (m₀.cabinet.switches.get? number).map fun s => { s with
          closed := Reading.levelOf number rs, lastChanged := Reading.changedAt number rs }) ∧
      m.engine.stats.switchEvents = rs.length ∧
      m.engine.stats.dispatches = ((Reading.changes rs).filter m₀.knows).length ∧
      m.engine.stats.switchEvents = m.engine.stats.duplicateEvents + m.engine.stats.dispatches +
        (rs.filter fun r => !m₀.knows r).length ∧
      ∀ e now rest closed, after = .event e now :: rest → e.kind.level? = some closed →
        match m.cabinet.switches.get? e.value with
        | none => handleEvent e now m = (.ok (), { m with
            engine := { m.engine with stats := { m.engine.stats with
              switchEvents := m.engine.stats.switchEvents + 1 } }
            cabinet := { m.cabinet with
              bench := m.cabinet.bench.remark .warn
                ("event for unknown switch " ++ toString e.value) } })
        | some old =>
          if old.closed = closed then handleEvent e now m = (.ok (), { m with
            engine := { m.engine with stats := { m.engine.stats with
              switchEvents := m.engine.stats.switchEvents + 1
              duplicateEvents := m.engine.stats.duplicateEvents + 1 } }
            cabinet := { m.cabinet with
              bench := m.cabinet.bench.remark .trace
                ("switch " ++ toString e.value ++ " already " ++ levelText closed) } })
          else handleEvent e now m = inContext now (do
            Engine.log .debug (changeText (SwitchStore.reported old closed now))
            Engine.dispatch (SwitchStore.reported old closed now))
              (m.noted e.value closed now) := by
  refine ⟨(performAll_eq ops m₀).trans (afterCalls_eq _ _), fun before after hsplit => ?_⟩
  intro m rs
  have spares : ∀ st ∈ before, st.Spares := fun st hst =>
    spares_stagesOf (spares_callsOf ops m₀) m₀ st (hsplit ▸ List.mem_append_left after hst)
  have h : m₀.Follows m rs := built.follows.stages spares
  refine ⟨h.switches, h.events, h.walks, ?_, fun e now rest closed _ hlevel => ?_⟩
  · have hall := List.length_eq_length_filter_add (l := rs) m₀.knows
    rw [h.sum, h.events, hall]
  · simp only [handleEvent, hlevel]
    split
    · exact switchChanged_unknown ‹_›
    · split
      · exact switchChanged_same ‹_› ‹_›
      · exact switchChanged_walk ‹_› ‹_›

/-- The gate closes, is reported closed once more, and another switch is reported that is none. -/
theorem gate_followed :
    let ops : List (Operation Unit Unit) := [.processEvent ⟨.switchClosedDebounced, 7⟩,
      .processEvent ⟨.switchClosedNondebounced, 7⟩, .processEvent ⟨.switchOpenDebounced, 8⟩]
    ∃ m₀ : Machine Unit Unit, m₀.Built ∧
      let m := (performAll ops m₀).2
      (m.cabinet.switches.get? 7).map Switch.closed = some true ∧
        m.engine.stats.switchEvents = 3 ∧ m.engine.stats.dispatches = 1 ∧
        m.engine.stats.switchEvents =
          m.engine.stats.duplicateEvents + m.engine.stats.dispatches + 1 := by
  intro ops
  let rs (m : Machine Unit Unit) : List Reading :=
    (m.stagesOf (callsOf ops m)).filterMap Stage.reading?
  obtain ⟨m₀, built, hgate, hlevel, hlength, hchanges, hunknown⟩ := exists_gateMachine
    (P := fun m => (m.cabinet.switches.get? 7).isSome = true ∧
      Reading.levelOf 7 (rs m) = true ∧ (rs m).length = 3 ∧
      ((Reading.changes (rs m)).filter m.knows).length = 1 ∧
      ((rs m).filter fun r => !m.knows r).length = 1) {} (by decide +kernel)
  obtain ⟨hend, hfollows⟩ := store_follows_events built ops
  obtain ⟨hstore, hevents, hwalks, hsum, -⟩ := hfollows _ [] (List.append_nil _).symm
  refine ⟨m₀, built, ?_⟩
  rw [hend]
  refine ⟨?_, hevents.trans hlength, hwalks.trans hchanges, hsum.trans (congrArg _ hunknown)⟩
  obtain ⟨s, hs⟩ := Option.isSome_iff_exists.mp hgate
  rw [hstore, hs, Option.map_some, Option.map_some]
  exact congrArg some hlevel

end Machine

end Playfield
