import Playfield.Proofs.HoldQueue
import Playfield.Proofs.Walk

/-!
# What happens to the stack

Each operation on the mode stack, told by what it does to the line-up, to the held handlers and to
the scene. The line-up is the modes in dispatch order with the numbers of their arrival and without
their memories. Walks and ticks leave it as it is; a mode that joins is put in its place, and one
that leaves is taken out.
-/
namespace Playfield

/-- A slot without the memory of its mode. -/
def Slot.fixed {σ κ : Type} (slot : Slot σ κ) : Nat × ModeParts σ κ := (slot.seq, slot.mode.fixed)

namespace ModeStack
variable {σ κ : Type}

/-- The slots without the memories of their modes. -/
def lineup (slots : List (Slot σ κ)) : List (Nat × ModeParts σ κ) := slots.map Slot.fixed

/-- The identities of the modes in some slots. -/
def idsOf (slots : List (Slot σ κ)) : List ModeId := slots.map fun slot => slot.mode.id

theorem idsOf_cons (slot : Slot σ κ) (slots : List (Slot σ κ)) :
    idsOf (slot :: slots) = slot.mode.id :: idsOf slots := rfl

theorem mem_idsOf {slots : List (Slot σ κ)} {slot : Slot σ κ} (h : slot ∈ slots) :
    slot.mode.id ∈ idsOf slots := List.mem_map_of_mem h

theorem idsOf_eq_of_lineup {slots slots' : List (Slot σ κ)} (h : lineup slots' = lineup slots) :
    idsOf slots' = idsOf slots := by
  have key (l : List (Slot σ κ)) : idsOf l = (lineup l).map fun parts => parts.2.id := by
    simp only [idsOf, lineup, List.map_map]
    rfl
  rw [key, key, h]

/-- A slot has its like in any slots of the same line-up. -/
theorem exists_of_lineup {slots slots' : List (Slot σ κ)} (h : lineup slots' = lineup slots)
    {slot : Slot σ κ} (hs : slot ∈ slots) : ∃ slot' ∈ slots', slot'.fixed = slot.fixed := by
  have hmem : slot.fixed ∈ lineup slots' := h ▸ List.mem_map_of_mem hs
  exact List.mem_map.mp hmem

theorem find?_isSome_iff {slots : List (Slot σ κ)} {id : ModeId} :
    (slots.find? fun slot => slot.mode.id = id).isSome ↔ id ∈ idsOf slots := by
  simp [idsOf, List.find?_isSome]

theorem id_of_find? {slots : List (Slot σ κ)} {id : ModeId} {slot : Slot σ κ}
    (h : (slots.find? fun slot => slot.mode.id = id) = some slot) : slot.mode.id = id := by
  simpa using List.find?_some h

theorem contains_iff (s : ModeStack σ κ) (id : ModeId) :
    s.contains id = true ↔ id ∈ idsOf s.slots := by
  simp [contains, idsOf]

/-! ### Joining and leaving -/

theorem insertSlot_perm (slot : Slot σ κ) (slots : List (Slot σ κ)) :
    (insertSlot slot slots).Perm (slot :: slots) := by
  induction slots with
  | nil => exact .refl _
  | cons other rest ih =>
    simp only [insertSlot]
    split
    · exact .refl _
    · exact (ih.cons other).trans (.swap slot other rest)

theorem erase_sublist (id : ModeId) (slots : List (Slot σ κ)) : (erase id slots).Sublist slots := by
  induction slots with
  | nil => exact .refl _
  | cons slot rest ih =>
    simp only [erase]
    split
    · exact List.sublist_cons_self _ _
    · exact ih.cons_cons _

theorem mem_erase {id : ModeId} {slots : List (Slot σ κ)} {slot : Slot σ κ} (h : slot ∈ slots)
    (hid : slot.mode.id ≠ id) : slot ∈ erase id slots := by
  induction slots with
  | nil => exact h
  | cons other rest ih =>
    simp only [erase]
    rcases List.mem_cons.mp h with rfl | h
    · rw [if_neg hid]
      exact List.mem_cons_self
    · split
      · exact h
      · exact List.mem_cons_of_mem _ (ih h)

/-- However a hook ends, settling it changes no mode and no held handler. -/
theorem settleHook_frame (outcome : Except FaultReason Verdict) (s : ModeStack σ κ)
    (scene : Scene κ) :
    (settleHook outcome (s, scene)).2.1.slots = s.slots ∧
      (settleHook outcome (s, scene)).2.1.holds = s.holds ∧
      (settleHook outcome (s, scene)).2.1.nextSeq = s.nextSeq ∧
      scene.Passes [] (settleHook outcome (s, scene)).2.2 := by
  simp only [settleHook]
  split
  · exact ⟨rfl, rfl, rfl, .refl scene⟩
  · exact ⟨rfl, rfl, rfl, .refl scene⟩
  · exact ⟨rfl, rfl, rfl, scene.passes_remark _ _⟩

theorem add_there {s : ModeStack σ κ} {m : Mode σ κ} (h : m.id ∈ idsOf s.slots) (scene : Scene κ) :
    (add m (s, scene)).2.1 = s ∧ scene.Passes [] (add m (s, scene)).2.2 := by
  have hc := (s.contains_iff m.id).mpr h
  simp only [add, hc, if_true]
  exact ⟨trivial, scene.passes_remark _ _⟩

/-- A mode that joins is put in its place, and its first hook runs. -/
theorem add_new {s : ModeStack σ κ} {m : Mode σ κ} (h : m.id ∉ idsOf s.slots) (scene : Scene κ) :
    ∃ m' : Mode σ κ, m'.fixed = m.fixed ∧
      (add m (s, scene)).2.1.slots = insertSlot ⟨s.nextSeq, m'⟩ s.slots ∧
      (add m (s, scene)).2.1.holds = s.holds ∧
      (add m (s, scene)).2.1.nextSeq = s.nextSeq + 1 ∧
      scene.Passes [(.hook m.id .started, scene.glimpseOf m.id)] (add m (s, scene)).2.2 := by
  have hnot : ¬ s.contains m.id = true := fun hc => h ((s.contains_iff m.id).mp hc)
  simp only [add, hnot, Bool.false_eq_true, if_false]
  have hremark := scene.passes_remark .debug
    ("adding mode '" ++ m.name ++ "' at priority " ++ toString m.priority)
  generalize scene.remark .debug _ = noted at hremark ⊢
  have hfix := Mode.fixed_guarded (Mode.plays_runHook .started) (.hook m.id .started) m noted
  have hpass := Mode.passes_guarded (Mode.plays_runHook .started) (.hook m.id .started) m noted
  rw [hremark.glimpseOf] at hpass
  generalize Mode.guarded (.hook m.id .started) (Mode.runHook .started) m noted = g at hfix hpass ⊢
  obtain ⟨outcome, m', after⟩ := g
  obtain ⟨hslots, hholds, hseq, hsettle⟩ := settleHook_frame outcome
    { s with slots := insertSlot ⟨s.nextSeq, m'⟩ s.slots, nextSeq := s.nextSeq + 1 } after
  exact ⟨m', hfix, hslots, hholds, hseq, hremark.quiet_trans (hpass.trans hsettle)⟩

theorem remove_absent {s : ModeStack σ κ} {id : ModeId} (h : id ∉ idsOf s.slots) (scene : Scene κ) :
    remove id (s, scene) = (.ok false, s, scene) := by
  have hnone : s.find? id = none := by
    rw [find?, ← Option.not_isSome_iff_eq_none, find?_isSome_iff]
    exact h
  simp only [remove, hnone]

/-- A mode that leaves is taken out with its held handlers, and its last hook runs. -/
theorem remove_present {s : ModeStack σ κ} {id : ModeId} (h : id ∈ idsOf s.slots)
    (scene : Scene κ) :
    (remove id (s, scene)).2.1.slots = erase id s.slots ∧
      (remove id (s, scene)).2.1.holds = s.holds.cancelMode id ∧
      (remove id (s, scene)).2.1.nextSeq = s.nextSeq ∧
      scene.Passes [(.hook id .stopped, scene.glimpseOf id)] (remove id (s, scene)).2.2 := by
  obtain ⟨slot, hslot⟩ := Option.isSome_iff_exists.mp (find?_isSome_iff.mpr h)
  have hid := id_of_find? hslot
  have hfind : s.find? id = some slot := hslot
  simp only [remove, hfind]
  have hremark := scene.passes_remark .debug ("removing mode '" ++ slot.mode.name ++ "'")
  generalize scene.remark .debug _ = noted at hremark ⊢
  have hpass := Mode.passes_guarded (Mode.plays_runHook .stopped) (.hook id .stopped) slot.mode
    noted
  rw [hremark.glimpseOf, hid] at hpass
  generalize Mode.guarded (.hook id .stopped) (Mode.runHook .stopped) slot.mode noted = g
    at hpass ⊢
  obtain ⟨outcome, m', after⟩ := g
  obtain ⟨hslots, hholds, hseq, hsettle⟩ := settleHook_frame outcome
    { s with slots := erase id s.slots, holds := s.holds.cancelMode id } after
  exact ⟨hslots, hholds, hseq, hremark.quiet_trans (hpass.trans hsettle)⟩

/-- Whatever a relation says of each removal, it says of removing modes in turn. -/
theorem removeAll_within {R : ModeStack σ κ × Scene κ → ModeStack σ κ × Scene κ → Prop} [Composes R]
    (h : ∀ id, (remove id).Within R) (ids : List ModeId) (first : Option Fault)
    (s : ModeStack σ κ × Scene κ) : R s (removeAll ids first s).2 := by
  induction ids generalizing first s with
  | nil => exact Composes.refl s
  | cons id rest ih =>
    have hid := h id s
    simp only [removeAll]
    split <;> rename_i hr <;> rw [hr] at hid <;> exact Composes.trans hid (ih _ _)

theorem clear_within {R : ModeStack σ κ × Scene κ → ModeStack σ κ × Scene κ → Prop} [Composes R]
    (h : ∀ id, (remove id).Within R) : (clear (σ := σ) (κ := κ)).Within R := by
  intro state
  obtain ⟨s, scene⟩ := state
  have hall := removeAll_within h s.ids none (s, scene)
  simp only [clear]
  split <;> rename_i hr <;> rw [hr] at hall <;> exact hall

/-! ### Walking down -/

/-- A walk leaves the line-up as it is. -/
theorem lineup_visits (switch : Switch) (slots : List (Slot σ κ)) (scene : Scene κ) :
    lineup ((visits switch slots scene).1.map Visit.after ++
      slots.drop (visits switch slots scene).1.length) = lineup slots := by
  have hfound := visits_found switch slots scene
  have hleft := visits_endings switch slots scene
  generalize (visits switch slots scene).1 = vs at hfound hleft ⊢
  have hafter : (vs.map Visit.after).map Slot.fixed = (vs.map Visit.found).map Slot.fixed := by
    rw [List.map_map, List.map_map]
    exact List.map_congr_left fun v hv => Prod.ext rfl (hleft v hv).2
  obtain ⟨rest, hrest⟩ := hfound
  rw [lineup, List.map_append, hafter, ← List.map_append, ← hrest]
  congr 1
  have hlen : vs.length = (vs.map Visit.found).length := (List.length_map _).symm
  rw [hlen, List.drop_left]

theorem lineup_dispatch {ε : Type} (switch : Switch) (s : ModeStack σ κ) (scene : Scene κ) :
    lineup (dispatch (ε := ε) switch (s, scene)).2.1.slots = lineup s.slots := by
  rw [dispatch_eq]
  exact lineup_visits switch s.slots _

/-! ### Ticking -/

/-- The pass hooks that begin in a tick. -/
def hooksOf (slots : List (Slot σ κ)) (scene : Scene κ) : List (CallbackSite × Glimpse) :=
  (idsOf slots).map fun id => (.hook id .tick, scene.glimpseOf id)

/-- Every pass hook begins once, in order. The line-up and the held handlers stay. -/
theorem tickModes_spec (slots : List (Slot σ κ)) (w : Walk κ) :
    lineup (tickModes slots w).1 = lineup slots ∧ (tickModes slots w).2.holds = w.holds ∧
      w.scene.Passes (hooksOf slots w.scene) (tickModes slots w).2.scene := by
  induction slots generalizing w with
  | nil => exact ⟨rfl, rfl, .refl w.scene⟩
  | cons slot rest ih =>
    have hfix := Mode.fixed_guarded (Mode.plays_runHook .tick) (.hook slot.mode.id .tick) slot.mode
      w.scene
    have hpass := Mode.passes_guarded (Mode.plays_runHook .tick) (.hook slot.mode.id .tick)
      slot.mode w.scene
    simp only [tickModes]
    generalize Mode.guarded (.hook slot.mode.id .tick) (Mode.runHook .tick) slot.mode w.scene = g
      at hfix hpass ⊢
    obtain ⟨outcome, m, scene⟩ := g
    have step (w' : Walk κ) (hholds : w'.holds = w.holds)
        (hw : w.scene.Passes [(.hook slot.mode.id .tick, w.scene.glimpseOf slot.mode.id)]
          w'.scene) :
        lineup (({ slot with mode := m } : Slot σ κ) :: (tickModes rest w').1) =
            lineup (slot :: rest) ∧ (tickModes rest w').2.holds = w.holds ∧
          w.scene.Passes (hooksOf (slot :: rest) w.scene) (tickModes rest w').2.scene := by
      obtain ⟨hline, hkeep, hrest⟩ := ih w'
      refine ⟨?_, hkeep.trans hholds, ?_⟩
      · exact List.cons_eq_cons.mpr ⟨Prod.ext rfl hfix, hline⟩
      · have hsame : hooksOf rest w'.scene = hooksOf rest w.scene := by
          simp only [hooksOf, hw.glimpseOf]
        rw [hsame] at hrest
        exact hw.trans hrest
    cases outcome with
    | ok _ => exact step { w with scene } rfl hpass
    | error reason =>
      exact step (Walk.fail { w with scene } ⟨m.name, none, reason⟩) rfl
        (hpass.trans (Scene.passes_remark _ _ _))

/-- The handler that an obligation calls, if its switch and its mode are there. -/
def called (store : SwitchStore) (ids : List ModeId) (scene : Scene κ) (o : Obligation) :
    Option (CallbackSite × Glimpse) :=
  match store.find? o.switch with
  | some switch =>
    if o.mode ∈ ids then
      some (.handler o.mode o.binding switch.name, scene.glimpseOf o.mode)
    else none
  | none => none

theorem lineup_replace {slots : List (Slot σ κ)} {slot : Slot σ κ} {m : Mode σ κ}
    (h : (slots.find? fun slot => slot.mode.id = m.id) = some slot)
    (hfix : m.fixed = slot.mode.fixed) : lineup (replace m slots) = lineup slots := by
  induction slots with
  | nil => rfl
  | cons other rest ih =>
    rw [List.find?_cons] at h
    simp only [replace]
    by_cases hid : other.mode.id = m.id
    · simp only [hid, decide_true, Option.some.injEq] at h
      rw [if_pos hid]
      exact List.cons_eq_cons.mpr ⟨Prod.ext rfl (h ▸ hfix), rfl⟩
    · simp only [hid, decide_false] at h
      rw [if_neg hid]
      exact List.cons_eq_cons.mpr ⟨rfl, ih h⟩

/-- Due obligations call their handlers in turn. The line-up and the held handlers stay. -/
theorem fireDue_spec (due : List Obligation) (slots : List (Slot σ κ)) (w : Walk κ) :
    lineup (fireDue due slots w).1 = lineup slots ∧ (fireDue due slots w).2.holds = w.holds ∧
      w.scene.Passes (due.filterMap (called w.scene.cabinet.switches (idsOf slots) w.scene))
        (fireDue due slots w).2.scene := by
  induction due generalizing slots w with
  | nil => exact ⟨rfl, rfl, .refl w.scene⟩
  | cons o rest ih =>
    have skip (h : called w.scene.cabinet.switches (idsOf slots) w.scene o = none)
        (hf : fireDue (o :: rest) slots w = fireDue rest slots w) :
        lineup (fireDue (o :: rest) slots w).1 = lineup slots ∧
          (fireDue (o :: rest) slots w).2.holds = w.holds ∧
          w.scene.Passes ((o :: rest).filterMap
            (called w.scene.cabinet.switches (idsOf slots) w.scene))
            (fireDue (o :: rest) slots w).2.scene := by
      rw [hf, List.filterMap_cons, h]
      exact ih slots w
    cases hsw : w.scene.cabinet.switches.find? o.switch with
    | none => exact skip (by simp only [called, hsw]) (by simp only [fireDue, hsw])
    | some switch =>
      cases hslot : slots.find? fun slot => slot.mode.id = o.mode with
      | none =>
        have hnot : o.mode ∉ idsOf slots := by
          rw [← find?_isSome_iff, hslot]
          exact Bool.false_ne_true
        refine skip ?_ ?_
        · simp only [called, hsw, hnot, if_false]
        · simp only [fireDue, hsw, hslot]
      | some slot =>
        have hin : o.mode ∈ idsOf slots := find?_isSome_iff.mp (by rw [hslot]; rfl)
        have hid := id_of_find? hslot
        have hcalled : called w.scene.cabinet.switches (idsOf slots) w.scene o =
            some (.handler o.mode o.binding switch.name, w.scene.glimpseOf o.mode) := by
          simp only [called, hsw, hin, if_true]
        have hfix := Mode.fixed_guarded (Mode.plays_handle o.binding switch)
          (.handler o.mode o.binding switch.name) slot.mode w.scene
        have hpass := Mode.passes_guarded (Mode.plays_handle o.binding switch)
          (.handler o.mode o.binding switch.name) slot.mode w.scene
        simp only [fireDue, hsw, hslot, List.filterMap_cons, hcalled]
        generalize Mode.guarded (.handler o.mode o.binding switch.name)
          (Mode.handle o.binding switch) slot.mode w.scene = g at hfix hpass ⊢
        obtain ⟨outcome, m, scene⟩ := g
        rw [hid] at hpass
        have hline : lineup (replace m slots) = lineup slots := by
          refine lineup_replace ?_ hfix
          rwa [Mode.id_eq_of_fixed hfix, hid]
        have step (w' : Walk κ) (hholds : w'.holds = w.holds)
            (hw : w.scene.Passes [(.handler o.mode o.binding switch.name,
              w.scene.glimpseOf o.mode)] w'.scene) :
            lineup (fireDue rest (replace m slots) w').1 = lineup slots ∧
              (fireDue rest (replace m slots) w').2.holds = w.holds ∧
              w.scene.Passes
                ((.handler o.mode o.binding switch.name, w.scene.glimpseOf o.mode) ::
                  rest.filterMap (called w.scene.cabinet.switches (idsOf slots) w.scene))
                (fireDue rest (replace m slots) w').2.scene := by
          obtain ⟨hlast, hkeep, hrest⟩ := ih (replace m slots) w'
          have hsame : called w'.scene.cabinet.switches (idsOf (replace m slots)) w'.scene =
              called w.scene.cabinet.switches (idsOf slots) w.scene := by
            funext p
            simp only [called, hw.switches, idsOf_eq_of_lineup hline, hw.glimpseOf]
          rw [hsame] at hrest
          exact ⟨hlast.trans hline, hkeep.trans hholds, hw.trans hrest⟩
        cases outcome with
        | ok _ =>
          dsimp only
          exact step _ rfl hpass
        | error reason =>
          dsimp only
          exact step _ rfl (hpass.trans (Scene.passes_remark _ _ _))

/-- A tick as its three parts: the pass hooks, the look for what is due, and the calls. -/
theorem tick_eq {ε : Type} (s : ModeStack σ κ) (scene : Scene κ) :
    tick (ε := ε) (s, scene) =
      match tickModes s.slots { holds := s.holds, faultCount := s.faultCount, scene } with
      | (slots, w) =>
        match onHolds (ε := ε) (HoldQueue.takeDue w.scene.now w.scene.cabinet.switches)
            ({ s with slots, faultCount := w.faultCount }, w.scene) with
        | (.ok due, s, scene) =>
          match fireDue due s.slots
              { holds := s.holds, faultCount := s.faultCount, report := w.report, scene } with
          | (slots, w) => (.ok w.report, { s with slots, faultCount := w.faultCount }, w.scene)
        | (.error e, t) => (.error e, t)
        | (.panic message, t) => (.panic message, t) := by
  generalize htick : tickModes s.slots { holds := s.holds, faultCount := s.faultCount, scene } = g
  obtain ⟨slots, w⟩ := g
  refine (Act.bind_ok (a := w.report)
    (t := ({ s with slots, faultCount := w.faultCount }, w.scene)) ?_).trans ?_
  · simp only [htick]
  · dsimp only
    generalize hlook : onHolds _ _ = looked
    obtain ⟨due | _ | _, s, scene⟩ := looked
    · exact (Act.bind_ok hlook)
    · exact (Act.bind_error hlook)
    · exact (Act.bind_panic hlook)

/-- A tick runs every pass hook. Then either the look for what is due panics and drops everything
that waits, or what is due calls its handlers and what is to come goes on waiting. -/
theorem tick_cases {ε : Type} (s : ModeStack σ κ) (scene : Scene κ) :
    ∃ s' scene', lineup s'.slots = lineup s.slots ∧ s'.nextSeq = s.nextSeq ∧
      (tick (ε := ε) (s, scene) = (.panic Span.overflowMessage, s', scene') ∧
          s'.holds.pending = [] ∧ scene.Passes (hooksOf s.slots scene) scene' ∨
        (∃ report, tick (ε := ε) (s, scene) = (.ok report, s', scene')) ∧
          s'.holds.pending =
            s.holds.pending.filter (HoldQueue.isWaiting scene.now scene.cabinet.switches) ∧
          scene.Passes (hooksOf s.slots scene ++
            (s.holds.due scene.now scene.cabinet.switches).filterMap
              (called scene.cabinet.switches (idsOf s.slots) scene)) scene') := by
  have hhooks := tickModes_spec s.slots { holds := s.holds, faultCount := s.faultCount, scene }
  rw [tick_eq]
  generalize tickModes s.slots { holds := s.holds, faultCount := s.faultCount, scene } = g
    at hhooks ⊢
  obtain ⟨slots, w⟩ := g
  obtain ⟨hline, -, hpass⟩ := hhooks
  dsimp only at hline hpass ⊢
  have hnow : w.scene.now = scene.now := hpass.now
  have hstore : w.scene.cabinet.switches = scene.cabinet.switches := hpass.switches
  rw [hnow, hstore]
  rcases HoldQueue.takeDue_cases (ε := ε) scene.now scene.cabinet.switches s.holds
    w.scene.cabinet.bench with htake | ⟨q, b, htake, hpending, hstarts⟩
  · simp only [onHolds, Act.zoom, htake]
    refine ⟨_, _, hline, ?_, .inl ⟨rfl, rfl, hpass⟩⟩
    rfl
  · simp only [onHolds, Act.zoom, htake]
    let looked : Scene κ := { w.scene with cabinet := { w.scene.cabinet with bench := b } }
    have hlook : scene.Passes (hooksOf s.slots scene) looked :=
      { hpass with starts := hstarts.trans hpass.starts }
    obtain ⟨hlast, -, hfire⟩ := fireDue_spec (s.holds.due scene.now scene.cabinet.switches) slots
      { holds := q, faultCount := w.faultCount, report := w.report, scene := looked }
    have hcalled : called looked.cabinet.switches (idsOf slots) looked =
        called scene.cabinet.switches (idsOf s.slots) scene := by
      funext o
      simp only [called, hlook.switches, idsOf_eq_of_lineup hline, hlook.glimpseOf]
    rw [hcalled] at hfire
    refine ⟨_, _, hlast.trans hline, ?_, .inr ⟨⟨_, rfl⟩, hpending, hlook.trans hfire⟩⟩
    rfl

end ModeStack

end Playfield
