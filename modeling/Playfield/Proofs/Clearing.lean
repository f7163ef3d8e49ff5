import Playfield.Proofs.Arrivals
import Playfield.Proofs.Escalation

/-!
# Clearing the stack

The modes leave one by one in dispatch order, and the last hook of each runs as it leaves. No ending
of a hook keeps the next one from running: a fault of the board is kept until all modes have left,
and any other failure is counted and remarked on. In the end the stack is empty, and so is the list
of handlers that wait, since each of them waits for a live mode.

`ModeStack.partings` are the last hooks with their endings; what clearing does is read off them.
-/
namespace Playfield

/-- The callback failed, and not by a fault of the board. -/
def Ended.passedOver (c : Ended) : Bool :=
  match c.ending with
  | .ok _ => false
  | .error reason => reason.boardFault?.isNone

namespace ModeStack
variable {σ κ : Type}

/-! ### The last hooks -/

/-- The scene after the last hook of a mode has ended: a failure that is passed over is remarked
on. -/
def parted (ending : Except FaultReason Verdict) (scene : Scene κ) : Scene κ :=
  match ending with
  | .ok _ | .error (.error (.board _)) => scene
  | .error reason => scene.remark .error ("mode lifecycle hook faulted: " ++ reason.message)

/-- The last hooks of some modes that leave in turn, with their endings, and the scene they lead
to. -/
def partings : List (Slot σ κ) → Scene κ → List Ended × Scene κ
  | [], scene => ([], scene)
  | slot :: rest, scene =>
    match Mode.guarded (.hook slot.mode.id .stopped) (Mode.runHook .stopped) slot.mode
        (scene.remark .debug ("removing mode '" ++ slot.mode.name ++ "'")) with
    | (ending, _, after) =>
      match partings rest (parted ending after) with
      | (ended, last) => (⟨.hook slot.mode.id .stopped, ending⟩ :: ended, last)

theorem passes_parted (ending : Except FaultReason Verdict) (scene : Scene κ) :
    scene.Passes [] (parted ending scene) := by
  simp only [parted]
  split
  · exact .refl scene
  · exact .refl scene
  · exact scene.passes_remark _ _

/-- The last hooks begin one by one, in order, and nothing else does. -/
theorem partings_spec (slots : List (Slot σ κ)) (scene : Scene κ) :
    (partings slots scene).1.map Ended.site = (idsOf slots).map (CallbackSite.hook · .stopped) ∧
      scene.Passes ((idsOf slots).map fun id => (.hook id .stopped, scene.glimpseOf id))
        (partings slots scene).2 := by
  induction slots generalizing scene with
  | nil => exact ⟨rfl, .refl scene⟩
  | cons slot rest ih =>
    have hremark := scene.passes_remark .debug ("removing mode '" ++ slot.mode.name ++ "'")
    simp only [partings]
    generalize scene.remark .debug _ = noted at hremark ⊢
    have hpass := Mode.passes_guarded (Mode.plays_runHook .stopped) (.hook slot.mode.id .stopped)
      slot.mode noted
    rw [hremark.glimpseOf] at hpass
    generalize Mode.guarded (.hook slot.mode.id .stopped) (Mode.runHook .stopped) slot.mode
      noted = g at hpass ⊢
    obtain ⟨ending, m, after⟩ := g
    have hfirst : scene.Passes [(.hook slot.mode.id .stopped, scene.glimpseOf slot.mode.id)]
        (parted ending after) := hremark.quiet_trans (hpass.trans (passes_parted ending after))
    obtain ⟨hsites, hrest⟩ := ih (parted ending after)
    simp only [hfirst.glimpseOf] at hrest
    exact ⟨congrArg (_ :: ·) hsites, hfirst.trans hrest⟩

/-! ### Leaving in turn -/

theorem settleHook_eq (ending : Except FaultReason Verdict) (s : ModeStack σ κ) (scene : Scene κ)
    (site : CallbackSite) :
    settleHook ending (s, scene) =
      ((match Ended.faultIn? ending with
        | some f => .error f
        | none => .ok ()),
        { s with
          faultCount := s.faultCount + ([Ended.mk site ending].filter Ended.passedOver).length },
        parted ending scene) := by
  cases ending with
  | ok verdict => rfl
  | error reason =>
    cases reason with
    | error error => cases error <;> rfl
    | panicked message => rfl

/-- The first mode leaves with what waits for it. A fault of the board in its last hook is
answered. -/
theorem remove_first {s : ModeStack σ κ} {slot : Slot σ κ} {rest : List (Slot σ κ)}
    (first : s.slots = slot :: rest) {scene noted after : Scene κ} {m : Mode σ κ}
    {ending : Except FaultReason Verdict}
    (hnoted : scene.remark .debug ("removing mode '" ++ slot.mode.name ++ "'") = noted)
    (hhook : Mode.guarded (.hook slot.mode.id .stopped) (Mode.runHook .stopped) slot.mode noted =
      (ending, m, after)) :
    remove slot.mode.id (s, scene) =
      ((match Ended.faultIn? ending with
        | some f => .error f
        | none => .ok true),
        { s with
          slots := rest
          holds := s.holds.cancelMode slot.mode.id
          faultCount := s.faultCount +
            ([Ended.mk (.hook slot.mode.id .stopped) ending].filter Ended.passedOver).length },
        parted ending after) := by
  have hfind : s.find? slot.mode.id = some slot := by
    rw [find?, first]
    exact List.find?_cons_of_pos (decide_eq_true rfl)
  have herase : erase slot.mode.id s.slots = rest := by
    rw [first, erase, if_pos rfl]
  simp only [remove, hfind, hnoted, hhook, herase,
    settleHook_eq ending _ after (.hook slot.mode.id .stopped)]
  cases Ended.faultIn? ending <;> rfl

/-- A stack once all its modes have left, with what waits for them. Failures that were passed over
are counted. -/
def emptied (s : ModeStack σ κ) (ended : List Ended) : ModeStack σ κ :=
  { s with
    slots := []
    holds := { s.holds with pending := s.holds.pending.filter fun o => o.mode ∉ idsOf s.slots }
    faultCount := s.faultCount + (ended.filter Ended.passedOver).length }

/-- A stack without its first mode is emptied by what is left to do. -/
theorem emptied_cons {s : ModeStack σ κ} {slot : Slot σ κ} {rest : List (Slot σ κ)}
    (first : s.slots = slot :: rest) (c : Ended) (ended : List Ended) :
    emptied { s with
      slots := rest
      holds := s.holds.cancelMode slot.mode.id
      faultCount := s.faultCount + ([c].filter Ended.passedOver).length } ended =
      s.emptied (c :: ended) := by
  have hpending : ((s.holds.cancelMode slot.mode.id).pending.filter fun o => o.mode ∉ idsOf rest) =
      s.holds.pending.filter fun o => o.mode ∉ idsOf s.slots := by
    rw [HoldQueue.cancelMode, List.filter_filter, first]
    refine List.filter_congr fun o _ => ?_
    simp [idsOf_cons, Bool.and_comm]
  have hcount : s.faultCount + ([c].filter Ended.passedOver).length +
      (ended.filter Ended.passedOver).length =
      s.faultCount + ((c :: ended).filter Ended.passedOver).length := by
    rw [Nat.add_assoc, ← List.length_append, ← List.filter_append, List.singleton_append]
  simp only [emptied, hpending, hcount]
  rfl

/-- Removing the modes of a stack in turn: the first fault of the board is kept, and all modes leave
with what waits for them. -/
theorem removeAll_eq {slots : List (Slot σ κ)} {s : ModeStack σ κ} (h : s.slots = slots)
    (first : Option Fault) (scene : Scene κ) :
    removeAll (idsOf slots) first (s, scene) =
      (first.or (Ended.first? (partings slots scene).1), s.emptied (partings slots scene).1,
        (partings slots scene).2) := by
  induction slots generalizing first s scene with
  | nil =>
    have hall : (s.holds.pending.filter fun o => o.mode ∉ idsOf s.slots) = s.holds.pending := by
      rw [h]
      exact List.filter_eq_self.mpr fun _ _ => rfl
    have hsame : s.emptied [] = s := by
      simp only [emptied, hall, ← h]
      rfl
    simp only [partings, hsame]
    cases first <;> rfl
  | cons slot rest ih =>
    rcases hhook : Mode.guarded (.hook slot.mode.id .stopped) (Mode.runHook .stopped) slot.mode
      (scene.remark .debug ("removing mode '" ++ slot.mode.name ++ "'")) with ⟨ending, m, after⟩
    have hremove := remove_first h rfl hhook
    simp only [idsOf_cons, removeAll, hremove, partings, hhook, Ended.first?_cons,
      ← emptied_cons h, Ended.boardFault?]
    cases Ended.faultIn? ending with
    | none => exact ih rfl first (parted ending after)
    | some f =>
      refine (ih rfl (some (first.getD f)) (parted ending after)).trans ?_
      cases first <;> rfl

/-- Clearing a stack runs the last hooks of its modes. It answers the first fault of the board in
which one ended. -/
theorem clear_eq (s : ModeStack σ κ) (scene : Scene κ) :
    clear (s, scene) =
      ((match Ended.first? (partings s.slots scene).1 with
        | some f => .error f
        | none => .ok ()),
        s.emptied (partings s.slots scene).1, (partings s.slots scene).2) := by
  have hall := removeAll_eq (rfl : s.slots = s.slots) none scene
  have hids : s.ids = idsOf s.slots := rfl
  simp only [clear, hids, hall, Option.none_or]
  cases Ended.first? (partings s.slots scene).1 <;> rfl

/-! ### What waits, waits for a live mode -/

/-- Everything that waits waits for a live mode. -/
def Housed (s : ModeStack σ κ) : Prop := ∀ o ∈ s.holds.pending, o.mode ∈ idsOf s.slots

theorem mem_of_registerAll {q : HoldQueue} {os : List Obligation} {o : Obligation}
    (h : o ∈ (os.foldl HoldQueue.register q).pending) : o ∈ q.pending ∨ o ∈ os := by
  induction os generalizing q with
  | nil => exact .inl h
  | cons p rest ih =>
    rcases ih h with hold | hrest
    · simp only [HoldQueue.register] at hold
      split at hold
      · exact .inl hold
      · rcases List.mem_append.mp hold with hold | hnew
        · exact .inl hold
        · exact .inr (List.mem_singleton.mp hnew ▸ List.mem_cons_self)
    · exact .inr (List.mem_cons_of_mem p hrest)

namespace Housed
variable {s : ModeStack σ κ}

theorem remove (id : ModeId) :
    (ModeStack.remove (σ := σ) (κ := κ) id).Within fun s t => s.1.Housed → t.1.Housed := by
  intro state h o ho
  obtain ⟨s, scene⟩ := state
  by_cases hid : id ∈ idsOf s.slots
  · obtain ⟨hslots, hholds, -⟩ := remove_present hid scene
    rw [hholds] at ho
    obtain ⟨hwaits, hother⟩ := List.mem_filter.mp ho
    obtain ⟨slot, hslot, hmode⟩ := List.mem_map.mp (h o hwaits)
    have hne : slot.mode.id ≠ id := hmode ▸ of_decide_eq_true hother
    rw [hslots, ← hmode]
    exact mem_idsOf (mem_erase hslot hne)
  · rw [remove_absent hid scene] at ho ⊢
    exact h o ho

theorem on (h : s.Housed) (change : Change σ κ) (scene : Scene κ) : (change.on s scene).Housed := by
  intro o ho
  cases change with
  | add m =>
    by_cases hm : m.id ∈ idsOf s.slots
    · rw [Change.on, (add_there hm scene).1] at ho ⊢
      exact h o ho
    · obtain ⟨m', -, hslots, hholds, -⟩ := add_new hm scene
      rw [Change.on, hholds] at ho
      rw [Change.on, hslots, idsOf, ((insertSlot_perm _ _).map _).mem_iff]
      exact List.mem_cons_of_mem _ (h o ho)
  | remove id => exact remove id (s, scene) h o ho
  | clear => exact clear_within remove (s, scene) h o ho
  | dispatch switch =>
    rw [Change.on, idsOf_eq_of_lineup (lineup_dispatch switch s scene)]
    rw [Change.on, holds_dispatch] at ho
    rcases mem_of_registerAll ho with hold | hnew
    · exact h o (List.mem_filter.mp hold).1
    · obtain ⟨-, -, -, slot, hslot, hmode, -⟩ := mem_startedBy hnew
      rw [← hmode]
      exact mem_idsOf ((visited_start switch s scene).sublist.mem hslot)
  | tick =>
    obtain ⟨t, after, hline, -, hcase⟩ := tick_cases (ε := Fault) s scene
    have htick : Change.tick.on s scene = t := by
      rcases hcase with ⟨htick, -⟩ | ⟨⟨report, htick⟩, -⟩ <;> rw [Change.on, htick]
    rw [htick, idsOf_eq_of_lineup hline]
    rw [htick] at ho
    rcases hcase with ⟨-, hnone, -⟩ | ⟨-, hwaiting, -⟩
    · rw [hnone] at ho
      exact absurd ho List.not_mem_nil
    · rw [hwaiting] at ho
      exact h o (List.mem_filter.mp ho).1

theorem changed (h : s.Housed) (changes : List (Change σ κ × Scene κ)) :
    (s.changed changes).Housed := by
  induction changes generalizing s with
  | nil => exact h
  | cons change rest ih => exact ih (h.on change.1 change.2)

end Housed

/-- Clearing a stack, whatever was done with it before, runs the last hook of every live mode once,
in dispatch order, whatever these hooks do and however they end. It leaves no mode on the stack and
no handler waiting, counts the failures that were passed over, and answers the first fault of the
board in which a hook ended, if there is one. -/
theorem clear_finishes (tolerance : Span) (changes : List (Change σ κ × Scene κ))
    (scene : Scene κ) :
    let s := (ModeStack.empty tolerance).changed changes
    let hooks := (partings s.slots scene).1
    let last := (partings s.slots scene).2
    clear (s, scene) =
        ((match hooks.findSome? Ended.boardFault? with
          | some f => .error f
          | none => .ok ()),
          { s with
            slots := []
            holds := { s.holds with pending := [] }
            faultCount := s.faultCount + (hooks.filter Ended.passedOver).length },
          last) ∧
      hooks.map Ended.site = s.ids.map (CallbackSite.hook · .stopped) ∧ s.ids.Nodup ∧
      s.slots.Pairwise Slot.Before ∧
      scene.Passes (s.ids.map fun id => (.hook id .stopped, scene.glimpseOf id)) last := by
  intro s hooks last
  have start : (ModeStack.empty (σ := σ) (κ := κ) tolerance).Listed {} :=
    ⟨.of_none rfl, .refl _, .nil, rfl⟩
  have orderly : s.Orderly := (listed_changed start changes).orderly
  have hempty : (ModeStack.empty (σ := σ) (κ := κ) tolerance).Housed :=
    fun _ ho => absurd ho List.not_mem_nil
  have housed : s.Housed := hempty.changed changes
  obtain ⟨hsites, hpass⟩ := partings_spec s.slots scene
  refine ⟨?_, hsites, orderly.ids, orderly.order, hpass⟩
  have hnone : (s.holds.pending.filter fun o => o.mode ∉ idsOf s.slots) = [] :=
    List.filter_eq_nil_iff.mpr fun o ho => by simpa using housed o ho
  rw [clear_eq, emptied, hnone]
  rfl

end ModeStack

end Playfield
