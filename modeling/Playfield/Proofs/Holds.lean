import Mathlib.Data.List.Basic
import Playfield.Proofs.Bindings
import Playfield.Proofs.Registry
import Playfield.Proofs.Stack

/-!
# Held handlers wait for good reason

A stack is sound for a switch store if every held handler that waits belongs to a binding of a live
mode, waits once only, and has had its condition since it began to wait. A change of level that is
handed down the stack keeps it sound for the changed store: what waited on the switch is dropped,
and every matching held binding of the modes visited begins to wait. Removals take the held handlers
of the mode along, and a tick takes out what is due.
-/
namespace Playfield

/-- The obligation belongs to a binding of a live mode, and its condition holds since then. -/
structure Obligation.Backed {σ κ : Type} (store : SwitchStore) (slots : List (Slot σ κ))
    (o : Obligation) : Prop where
  bound : ∃ slot ∈ slots, slot.mode.id = o.mode ∧
    ⟨o.binding, o.switch, o.condition, some o.hold⟩ ∈ slot.mode.allBindings
  standing : ∃ switch, store.find? o.switch = some switch ∧ o.condition.holds switch = true ∧
    switch.lastChanged = o.createdAt

/-- Callbacks do not matter to it. -/
theorem Obligation.Backed.of_lineup {σ κ : Type} {store : SwitchStore} {o : Obligation}
    {slots slots' : List (Slot σ κ)} (h : o.Backed store slots)
    (hline : ModeStack.lineup slots' = ModeStack.lineup slots) : o.Backed store slots' := by
  obtain ⟨⟨slot, hslot, hid, hb⟩, hstanding⟩ := h
  obtain ⟨slot', hslot', hfix⟩ := ModeStack.exists_of_lineup hline hslot
  have hmode : slot'.mode.fixed = slot.mode.fixed := congrArg Prod.snd hfix
  refine ⟨⟨slot', hslot', ?_, ?_⟩, hstanding⟩
  · rw [Mode.id_eq_of_fixed hmode, hid]
  · rw [Mode.allBindings_eq_of_fixed hmode]
    exact hb

namespace ModeStack
variable {σ κ : Type}

/-- Every held handler that waits does so for good reason, and once only. -/
structure Sound (store : SwitchStore) (s : ModeStack σ κ) : Prop where
  ids : (idsOf s.slots).Nodup
  distinct : HoldQueue.Distinct s.holds.pending
  backed : ∀ o ∈ s.holds.pending, o.Backed store s.slots

theorem sound_empty (store : SwitchStore) (tolerance : Span) :
    (empty tolerance : ModeStack σ κ).Sound store where
  ids := List.nodup_nil
  distinct := .nil
  backed _ h := nomatch h

/-- Two slots that hold the same mode identity are the same. -/
theorem eq_of_id_eq {slots : List (Slot σ κ)} (h : (idsOf slots).Nodup) {a b : Slot σ κ}
    (ha : a ∈ slots) (hb : b ∈ slots) (hid : a.mode.id = b.mode.id) : a = b := by
  induction slots with
  | nil => exact nomatch ha
  | cons slot rest ih =>
    rw [idsOf_cons] at h
    obtain ⟨hnot, hrest⟩ := List.nodup_cons.mp h
    rcases List.mem_cons.mp ha with rfl | ha' <;> rcases List.mem_cons.mp hb with rfl | hb'
    · rfl
    · rw [hid] at hnot
      exact absurd (mem_idsOf hb') hnot
    · rw [← hid] at hnot
      exact absurd (mem_idsOf ha') hnot
    · exact ih hrest ha' hb'

namespace Sound
variable {store : SwitchStore} {s t : ModeStack σ κ}

/-- Soundness outlasts callbacks and the dropping of held handlers. -/
theorem of_lineup (h : s.Sound store) (hline : lineup t.slots = lineup s.slots)
    (hsub : t.holds.pending.Sublist s.holds.pending) : t.Sound store where
  ids := by
    rw [idsOf_eq_of_lineup hline]
    exact h.ids
  distinct := h.distinct.sublist hsub
  backed o ho := (h.backed o (hsub.mem ho)).of_lineup hline

theorem add (h : s.Sound store) (m : Mode σ κ) (scene : Scene κ) :
    (add m (s, scene)).2.1.Sound store := by
  by_cases hm : m.id ∈ idsOf s.slots
  · rw [(add_there hm scene).1]
    exact h
  · obtain ⟨m', hfix, hslots, hholds, -, -⟩ := add_new hm scene
    have hperm := insertSlot_perm ⟨s.nextSeq, m'⟩ s.slots
    refine ⟨?_, hholds ▸ h.distinct, fun o ho => ?_⟩
    · have hids : (idsOf (⟨s.nextSeq, m'⟩ :: s.slots)).Nodup := by
        rw [idsOf_cons, Mode.id_eq_of_fixed hfix]
        exact List.nodup_cons.mpr ⟨hm, h.ids⟩
      rw [hslots]
      exact (hperm.map _).nodup_iff.mpr hids
    · rw [hholds] at ho
      obtain ⟨⟨slot, hslot, hb⟩, hstanding⟩ := h.backed o ho
      rw [hslots]
      exact ⟨⟨slot, hperm.mem_iff.mpr (List.mem_cons_of_mem _ hslot), hb⟩, hstanding⟩

theorem remove (h : s.Sound store) (id : ModeId) (scene : Scene κ) :
    (remove id (s, scene)).2.1.Sound store := by
  by_cases hid : id ∈ idsOf s.slots
  · obtain ⟨hslots, hholds, -, -⟩ := remove_present hid scene
    refine ⟨?_, ?_, fun o ho => ?_⟩
    · rw [hslots]
      exact h.ids.sublist ((erase_sublist id s.slots).map _)
    · rw [hholds]
      exact h.distinct.sublist List.filter_sublist
    · rw [hholds] at ho
      obtain ⟨ho, hne⟩ := List.mem_filter.mp ho
      obtain ⟨⟨slot, hslot, hmode, hb⟩, hstanding⟩ := h.backed o ho
      have hother : slot.mode.id ≠ id := hmode ▸ of_decide_eq_true hne
      rw [hslots]
      exact ⟨⟨slot, mem_erase hslot hother, hmode, hb⟩, hstanding⟩
  · rw [remove_absent hid scene]
    exact h

end Sound

/-! ### A change of level -/

theorem mem_waits {switch : Switch} {now : Span} {mode : ModeId} {bs : List Binding}
    {o : Obligation} : o ∈ waits switch now mode bs ↔
      ∃ b ∈ bs, b.hold = some o.hold ∧ o.mode = mode ∧ o.binding = b.number ∧
        o.switch = switch.name ∧ o.condition = b.condition ∧ o.createdAt = now := by
  simp only [waits]
  rw [List.mem_filterMap]
  constructor
  · rintro ⟨b, hb, ho⟩
    obtain ⟨hold, hhold, rfl⟩ := Option.map_eq_some_iff.mp ho
    exact ⟨b, hb, hhold, rfl, rfl, rfl, rfl, rfl⟩
  · rintro ⟨b, hb, hhold, rfl, hbinding, hswitch, hcondition, rfl⟩
    refine ⟨b, hb, ?_⟩
    rw [hhold, Option.map_some, ← hbinding, ← hswitch, ← hcondition]

section Change
variable {store : SwitchStore} {s : ModeStack σ κ} {number : Nat} {old : Switch} {closed : Bool}
  {now : Span}

/-- What begins to wait belongs to a held binding whose condition the switch meets. -/
theorem mem_startedBy {switch : Switch} {slots : List (Slot σ κ)} {o : Obligation}
    (h : o ∈ startedBy switch now slots) :
    o.switch = switch.name ∧ o.createdAt = now ∧ o.condition.holds switch = true ∧
      ∃ slot ∈ slots, slot.mode.id = o.mode ∧
        ⟨o.binding, o.switch, o.condition, some o.hold⟩ ∈ slot.mode.allBindings := by
  obtain ⟨slot, hslot, ho⟩ := List.mem_flatMap.mp h
  obtain ⟨b, hb, hhold, hmode, hbinding, hswitch, hcondition, hnow⟩ := mem_waits.mp ho
  obtain ⟨hrow, hmeets⟩ := List.mem_filter.mp hb
  obtain ⟨hall, hname⟩ := Mode.mem_bindings.mp hrow
  have hb' : (⟨o.binding, o.switch, o.condition, some o.hold⟩ : Binding) = b := by
    rw [hbinding, hswitch, hcondition, ← hhold, ← hname]
  exact ⟨hswitch, hnow, hcondition ▸ hmeets, slot, hslot, hmode.symm, hb' ▸ hall⟩

/-- Nothing begins to wait twice. -/
theorem distinct_startedBy {switch : Switch} {slots : List (Slot σ κ)} (h : (idsOf slots).Nodup) :
    HoldQueue.Distinct (startedBy switch now slots) := by
  induction slots with
  | nil => exact .nil
  | cons slot rest ih =>
    rw [idsOf_cons] at h
    obtain ⟨hnot, hrest⟩ := List.nodup_cons.mp h
    refine List.pairwise_append.mpr ⟨?_, ih hrest, ?_⟩
    · refine List.pairwise_filterMap.mpr ?_
      refine ((slot.mode.bindings_pairwise switch.name).filter _).imp fun hlt o ho p hp hkey => ?_
      obtain ⟨_, -, rfl⟩ := Option.map_eq_some_iff.mp ho
      obtain ⟨_, -, rfl⟩ := Option.map_eq_some_iff.mp hp
      exact absurd (congrArg Prod.snd hkey) (Nat.ne_of_lt hlt)
    · intro o ho p hp hkey
      obtain ⟨b, -, -, hmode, -⟩ := mem_waits.mp ho
      obtain ⟨-, -, -, slot', hslot', hid, -⟩ := mem_startedBy hp
      refine hnot ?_
      rw [← hmode, show o.mode = p.mode from congrArg Prod.fst hkey, ← hid]
      exact mem_idsOf hslot'

/-- When a switch changes its level, every held handler that waits on it is dropped. -/
theorem Sound.pending_dropUnsatisfied (h : s.Sound store) (coherent : store.Coherent)
    (found : store.get? number = some old) (changed : old.closed ≠ closed) (now : Span) :
    (s.holds.dropUnsatisfied (SwitchStore.reported old closed now)).pending =
      s.holds.pending.filter fun o => o.switch ≠ old.name := by
  refine List.filter_congr ?_
  intro o ho
  by_cases hname : o.switch = old.name
  · obtain ⟨switch, hswitch, hholds, -⟩ := (h.backed o ho).standing
    rw [hname, SwitchStore.find?_of_get? coherent found] at hswitch
    cases hswitch
    have hnot := SwitchStore.holds_reported changed now o.condition
    rw [hholds] at hnot
    simp [hname, hnot]
  · simp [hname]

/-- What begins to wait on a switch is not waiting on another one. -/
theorem Sound.distinct_append (h : s.Sound store) (switch : Switch) (now : Span)
    {slots : List (Slot σ κ)} (hslots : slots.Sublist s.slots) :
    HoldQueue.Distinct ((s.holds.pending.filter fun o => o.switch ≠ switch.name) ++
      startedBy switch now slots) := by
  refine List.pairwise_append.mpr ⟨h.distinct.sublist List.filter_sublist,
    distinct_startedBy (h.ids.sublist (hslots.map _)), fun o ho p hp hkey => ?_⟩
  obtain ⟨ho, hother⟩ := List.mem_filter.mp ho
  obtain ⟨hname, -, -, slot', hslot', hid', hb'⟩ := mem_startedBy hp
  obtain ⟨slot, hslot, hid, hb⟩ := (h.backed o ho).bound
  have hmode : o.mode = p.mode := congrArg Prod.fst hkey
  have hbinding : o.binding = p.binding := congrArg Prod.snd hkey
  have hsame : slot = slot' :=
    eq_of_id_eq h.ids hslot (hslots.mem hslot') (by rw [hid, hid', hmode])
  rw [← hsame] at hb'
  have hb := Mode.eq_of_number_eq hb hb' hbinding
  have hswitch : o.switch = switch.name := (congrArg Binding.switch hb).trans hname
  exact absurd hswitch (of_decide_eq_true hother)

/-- After a change of level has been handed down, the held handlers on other switches wait as
before, and those of the modes visited begin to wait. -/
theorem Sound.pending_dispatch {ε : Type} (h : s.Sound store) (coherent : store.Coherent)
    (found : store.get? number = some old) (changed : old.closed ≠ closed) (scene : Scene κ) :
    let switch := SwitchStore.reported old closed scene.now
    (ModeStack.dispatch (ε := ε) switch (s, scene)).2.1.holds.pending =
      (s.holds.pending.filter fun o => o.switch ≠ old.name) ++
        startedBy switch scene.now (visited switch s scene) := by
  intro switch
  have hdrop := h.pending_dropUnsatisfied coherent found changed scene.now
  have hdistinct := h.distinct_append switch scene.now (visited_start switch s scene).sublist
  rw [holds_dispatch, HoldQueue.pending_registerAll, hdrop]
  rw [hdrop]
  exact hdistinct

/-- A stack stays sound when a change of level is handed down. -/
theorem Sound.dispatch {ε : Type} (h : s.Sound store) (coherent : store.Coherent)
    (found : store.get? number = some old) (changed : old.closed ≠ closed) (scene : Scene κ) :
    (dispatch (ε := ε) (SwitchStore.reported old closed scene.now) (s, scene)).2.1.Sound
      (store.report number closed scene.now).2 := by
  have hpending := h.pending_dispatch (ε := ε) coherent found changed scene
  have hslots := visited_start (SwitchStore.reported old closed scene.now) s scene
  have hline := lineup_dispatch (ε := ε) (SwitchStore.reported old closed scene.now) s scene
  have hfind := SwitchStore.find?_report coherent found changed scene.now
  have hdistinct := h.distinct_append (SwitchStore.reported old closed scene.now) scene.now
    hslots.sublist
  refine ⟨?_, ?_, fun o ho => Obligation.Backed.of_lineup ?_ hline⟩
  · rw [idsOf_eq_of_lineup hline]
    exact h.ids
  · rw [hpending]
    exact hdistinct
  · rw [hpending] at ho
    rcases List.mem_append.mp ho with ho | ho
    · obtain ⟨ho, hother⟩ := List.mem_filter.mp ho
      obtain ⟨hbound, hstanding⟩ := h.backed o ho
      refine ⟨hbound, ?_⟩
      rw [hfind, if_neg (of_decide_eq_true hother)]
      exact hstanding
    · obtain ⟨hname, hcreated, hholds, slot, hslot, hb⟩ := mem_startedBy ho
      refine ⟨⟨slot, hslots.mem hslot, hb⟩, SwitchStore.reported old closed scene.now, ?_, hholds,
        hcreated.symm⟩
      rw [hfind]
      exact if_pos hname

end Change

/-! ### A tick -/

/-- The start of the handler that an obligation calls. -/
def startOf (scene : Scene κ) (o : Obligation) : CallbackSite × Glimpse :=
  (.handler o.mode o.binding o.switch, scene.glimpseOf o.mode)

namespace Sound
variable {store : SwitchStore} {s : ModeStack σ κ}

theorem stands (h : s.Sound store) {o : Obligation} (ho : o ∈ s.holds.pending) :
    o.stands store = true := by
  obtain ⟨switch, hswitch, hholds, -⟩ := (h.backed o ho).standing
  rw [Obligation.stands, hswitch]
  exact hholds

theorem filter_isDue (h : s.Sound store) (now : Span) :
    s.holds.pending.filter (HoldQueue.isDue now store) =
      s.holds.pending.filter fun o => o.deadlineNanos ≤ now.nanos := by
  refine List.filter_congr ?_
  intro o ho
  rw [HoldQueue.isDue, h.stands ho, Bool.true_and]

theorem filter_isWaiting (h : s.Sound store) (now : Span) :
    s.holds.pending.filter (HoldQueue.isWaiting now store) =
      s.holds.pending.filter fun o => now.nanos < o.deadlineNanos := by
  refine List.filter_congr ?_
  intro o ho
  rw [HoldQueue.isWaiting, h.stands ho, Bool.true_and]

theorem due_perm (h : s.Sound store) (now : Span) :
    (s.holds.due now store).Perm
      (s.holds.pending.filter fun o => o.deadlineNanos ≤ now.nanos) := by
  rw [← h.filter_isDue]
  exact List.mergeSort_perm _ _

/-- What is due finds its switch and its mode. -/
theorem called_eq (h : s.Sound store) (coherent : store.Coherent) (scene : Scene κ)
    {o : Obligation} (ho : o ∈ s.holds.pending) :
    called store (idsOf s.slots) scene o = some (startOf scene o) := by
  obtain ⟨⟨slot, hslot, hid, -⟩, switch, hswitch, -⟩ := h.backed o ho
  have hlive : o.mode ∈ idsOf s.slots := hid ▸ mem_idsOf hslot
  simp only [called, hswitch, hlive, if_true, startOf,
    SwitchStore.name_of_find? coherent hswitch]

/-- So every handler that is due is called. -/
theorem filterMap_called (h : s.Sound store) (coherent : store.Coherent) (scene : Scene κ)
    (now : Span) : (s.holds.due now store).filterMap (called store (idsOf s.slots) scene) =
      (s.holds.due now store).map (startOf scene) := by
  refine List.filterMap_eq_map_iff_forall_eq_some.mpr ?_
  intro o ho
  exact h.called_eq coherent scene (HoldQueue.mem_due.mp ho).1

/-- A tick on a sound stack: unless it panics, just what has come due calls its handlers, and what
is to come goes on waiting. The stack stays sound. -/
theorem tick_cases {ε : Type} (h : s.Sound store) (coherent : store.Coherent) (scene : Scene κ)
    (hstore : scene.cabinet.switches = store) :
    ∃ s' scene', lineup s'.slots = lineup s.slots ∧ s'.Sound store ∧
      (tick (ε := ε) (s, scene) = (.panic Span.overflowMessage, s', scene') ∧
          s'.holds.pending = [] ∧ scene.Passes (hooksOf s.slots scene) scene' ∨
        (∃ report, tick (ε := ε) (s, scene) = (.ok report, s', scene')) ∧
          s'.holds.pending = (s.holds.pending.filter fun o => scene.now.nanos < o.deadlineNanos) ∧
          scene.Passes (hooksOf s.slots scene ++ (s.holds.due scene.now store).map (startOf scene))
            scene') := by
  obtain ⟨s', scene', hline, -, hcase⟩ := ModeStack.tick_cases (ε := ε) s scene
  rw [hstore, h.filter_isWaiting, h.filterMap_called coherent] at hcase
  refine ⟨s', scene', hline, h.of_lineup hline ?_, hcase⟩
  rcases hcase with ⟨-, hpending, -⟩ | ⟨-, hpending, -⟩ <;> rw [hpending]
  · exact List.nil_sublist _
  · exact List.filter_sublist

end Sound

end ModeStack

end Playfield
