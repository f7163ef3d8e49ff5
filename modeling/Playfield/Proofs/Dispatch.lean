import Playfield.Proofs.Bindings
import Playfield.Proofs.Stack

/-!
# Dispatch

The operations of the mode stack keep the modes in dispatch order: higher priorities first, equal
ones in order of arrival. On such a stack a dispatch goes from the highest priority down, and what
it does is what the reference walk says.
-/
namespace Playfield

/-- A slot comes before another on the stack. -/
def Slot.Before {σ κ : Type} (a b : Slot σ κ) : Prop :=
  b.mode.priority < a.mode.priority ∨ b.mode.priority = a.mode.priority ∧ a.seq < b.seq

namespace ModeStack
variable {σ κ : Type}

/-- The stack came about by its operations. -/
inductive Formed : ModeStack σ κ → Prop where
  | empty (tolerance : Span) : Formed (.empty tolerance)
  | add {s : ModeStack σ κ} (formed : Formed s) (m : Mode σ κ) (scene : Scene κ) :
    Formed (add m (s, scene)).2.1
  | remove {s : ModeStack σ κ} (formed : Formed s) (id : ModeId) (scene : Scene κ) :
    Formed (remove id (s, scene)).2.1
  | clear {s : ModeStack σ κ} (formed : Formed s) (scene : Scene κ) :
    Formed (clear (s, scene)).2.1
  | dispatch {s : ModeStack σ κ} (formed : Formed s) (switch : Switch) (scene : Scene κ) :
    Formed (dispatch (ε := Fault) switch (s, scene)).2.1
  | tick {s : ModeStack σ κ} (formed : Formed s) (scene : Scene κ) :
    Formed (tick (ε := Fault) (s, scene)).2.1

/-- The modes stand in dispatch order, and later ones get later numbers. -/
structure Ranked (s : ModeStack σ κ) : Prop where
  order : s.slots.Pairwise Slot.Before
  arrived : ∀ slot ∈ s.slots, slot.seq < s.nextSeq

theorem Ranked.of_lineup {s t : ModeStack σ κ} (h : s.Ranked)
    (hline : lineup t.slots = lineup s.slots) (hseq : t.nextSeq = s.nextSeq) : t.Ranked where
  order := by
    have key (slots : List (Slot σ κ)) : slots.Pairwise Slot.Before ↔
        (lineup slots).Pairwise fun a b =>
          b.2.priority < a.2.priority ∨ b.2.priority = a.2.priority ∧ a.1 < b.1 := by
      rw [lineup, List.pairwise_map]
      rfl
    rw [key, hline, ← key]
    exact h.order
  arrived slot hslot := by
    obtain ⟨old, hold, hfix⟩ := exists_of_lineup hline.symm hslot
    have hsame : old.seq = slot.seq := congrArg Prod.fst hfix
    rw [hseq, ← hsame]
    exact h.arrived old hold

/-- A new arrival is put behind all modes of its priority and before all lower ones. -/
theorem pairwise_insertSlot {slots : List (Slot σ κ)} {new : Slot σ κ}
    (order : slots.Pairwise Slot.Before) (arrived : ∀ slot ∈ slots, slot.seq < new.seq) :
    (insertSlot new slots).Pairwise Slot.Before := by
  induction slots with
  | nil => exact List.pairwise_singleton _ _
  | cons other rest ih =>
    obtain ⟨hother, hrest⟩ := List.pairwise_cons.mp order
    simp only [insertSlot]
    split
    · rename_i hlow
      refine List.pairwise_cons.mpr ⟨fun slot hslot => ?_, order⟩
      rcases List.mem_cons.mp hslot with rfl | hslot
      · exact .inl hlow
      · have := hother slot hslot
        simp only [Slot.Before] at this ⊢
        omega
    · rename_i hhigh
      have hrest := ih hrest fun slot hslot => arrived slot (List.mem_cons_of_mem _ hslot)
      refine List.pairwise_cons.mpr ⟨fun slot hslot => ?_, hrest⟩
      rcases List.mem_cons.mp ((insertSlot_perm new rest).mem_iff.mp hslot) with rfl | hslot
      · have := arrived other List.mem_cons_self
        simp only [Slot.Before]
        omega
      · exact hother slot hslot

/-- A mode that joins gets the next number and stands in its place. -/
theorem Ranked.join {s t : ModeStack σ κ} (h : s.Ranked) {mode : Mode σ κ}
    (slots : t.slots = insertSlot ⟨s.nextSeq, mode⟩ s.slots) (nextSeq : t.nextSeq = s.nextSeq + 1) :
    t.Ranked where
  order := by
    rw [slots]
    exact pairwise_insertSlot h.order h.arrived
  arrived slot hslot := by
    rw [slots, (insertSlot_perm _ _).mem_iff] at hslot
    rw [nextSeq]
    rcases List.mem_cons.mp hslot with rfl | hslot
    · exact Nat.lt_succ_self _
    · exact Nat.lt_succ_of_lt (h.arrived slot hslot)

theorem Ranked.leave {s t : ModeStack σ κ} (h : s.Ranked) {id : ModeId}
    (slots : t.slots = erase id s.slots) (nextSeq : t.nextSeq = s.nextSeq) : t.Ranked where
  order := by
    rw [slots]
    exact h.order.sublist (erase_sublist id s.slots)
  arrived slot hslot := by
    rw [slots] at hslot
    rw [nextSeq]
    exact h.arrived slot ((erase_sublist id s.slots).mem hslot)

theorem ranked_add {s : ModeStack σ κ} (h : s.Ranked) (m : Mode σ κ) (scene : Scene κ) :
    (add m (s, scene)).2.1.Ranked := by
  by_cases hm : m.id ∈ idsOf s.slots
  · rw [(add_there hm scene).1]
    exact h
  · obtain ⟨m', -, hslots, -, hseq, -⟩ := add_new hm scene
    exact h.join hslots hseq

theorem ranked_remove (id : ModeId) :
    (remove (σ := σ) (κ := κ) id).Within fun s t => s.1.Ranked → t.1.Ranked := by
  intro state h
  obtain ⟨s, scene⟩ := state
  by_cases hid : id ∈ idsOf s.slots
  · obtain ⟨hslots, -, hseq, -⟩ := remove_present hid scene
    exact h.leave hslots hseq
  · rw [remove_absent hid scene]
    exact h

/-- Every operation keeps the dispatch order. -/
theorem Formed.ranked {s : ModeStack σ κ} (h : s.Formed) : s.Ranked := by
  induction h with
  | empty tolerance => exact ⟨.nil, by simp [ModeStack.empty]⟩
  | add _ m scene ih => exact ranked_add ih m scene
  | remove _ id scene ih => exact ranked_remove id (_, scene) ih
  | clear _ scene ih => exact clear_within ranked_remove (_, scene) ih
  | dispatch _ switch scene ih =>
    refine ih.of_lineup (lineup_dispatch switch _ scene) ?_
    rw [dispatch_eq]
  | @tick s _ scene ih =>
    obtain ⟨s', scene', hline, hseq, hcase⟩ := tick_cases (ε := Fault) s scene
    refine ih.of_lineup ?_ ?_ <;>
      rcases hcase with ⟨htick, -⟩ | ⟨⟨report, htick⟩, -⟩ <;> rw [htick] <;> assumption

/-- A dispatch does what the reference walk does, from the highest priority down to the first mode
one of whose handlers says stop. Its report, the modes it leaves, the held handlers that wait after
it and the scene are read off the visits of the walk. -/
theorem dispatch_eq_walk {ε : Type} (switch : Switch) (s : ModeStack σ κ) (scene : Scene κ) :
    (s.Formed → s.slots.Pairwise Slot.Before) ∧
    ∃ vs scene', visits switch s.slots (noteCancelled switch s.holds scene) = (vs, scene') ∧
      dispatch (ε := ε) switch (s, scene) =
        (.ok {
            invoked := (vs.flatMap Visit.endings).length
            scheduled := (vs.flatMap (Visit.started switch scene.now)).length
            stoppedBy := stopper vs
            faults := vs.flatMap (Visit.faults switch) },
          { s with
            slots := vs.map Visit.after ++ s.slots.drop vs.length
            holds := (vs.flatMap (Visit.started switch scene.now)).foldl HoldQueue.register
              (s.holds.dropUnsatisfied switch)
            faultCount := s.faultCount + (vs.flatMap (Visit.faults switch)).length },
          scene') ∧
      vs.map Visit.found <+: s.slots ∧
      (∀ v ∈ vs.dropLast, v.stops = false) ∧
      (vs.length < s.slots.length → ∃ v, vs.getLast? = some v ∧ v.stops = true) ∧
      (∀ v ∈ vs, v.endings.length = (immediate switch v.found.mode).length ∧
        v.left.fixed = v.found.mode.fixed ∧
        (matching switch v.found.mode).Pairwise fun b c => b.number < c.number) ∧
      scene.Passes (vs.flatMap (Visit.began switch scene)) scene' := by
  refine ⟨fun h => h.ranked.order, ?_⟩
  have hdispatch := dispatch_eq (ε := ε) switch s scene
  have hfound := visits_found switch s.slots (noteCancelled switch s.holds scene)
  obtain ⟨hgo, hend⟩ := visits_end switch s.slots (noteCancelled switch s.holds scene)
  have hendings := visits_endings switch s.slots (noteCancelled switch s.holds scene)
  have hpass := passes_visits_noted switch s scene
  generalize visits switch s.slots (noteCancelled switch s.holds scene) = walk
    at hdispatch hfound hgo hend hendings hpass
  obtain ⟨vs, scene'⟩ := walk
  refine ⟨vs, scene', rfl, hdispatch, hfound, hgo, hend, fun v hv => ?_, hpass⟩
  obtain ⟨hlen, hfix⟩ := hendings v hv
  exact ⟨hlen, hfix, (v.found.mode.bindings_pairwise switch.name).filter _⟩

end ModeStack

end Playfield
