import Playfield.ModeStack
import Playfield.Proofs.Mended.Callback

/-!
# Mode stacks whose callbacks are mended

On twin stacks a mode joins and leaves alike, and walks and ticks go alike: they call the same
handlers, let the same held handlers wait, and stop at the same mode. Only the failures that were
mended are missing from the reports.
-/
namespace Playfield

variable {σ τ κ ι : Type} {M : σ → τ → Prop} {K : κ → ι → Prop}

/-! ### Reports and walks -/

namespace Report

/-- Apart from failures that are no faults of the board the reports are the same. -/
structure Alike (r r' : Report) : Prop where
  invoked : r.invoked = r'.invoked
  scheduled : r.scheduled = r'.scheduled
  fired : r.fired = r'.fired
  stoppedBy : r.stoppedBy = r'.stoppedBy
  boardFault : r.boardFault? = r'.boardFault?

theorem Alike.refl (r : Report) : r.Alike r := ⟨rfl, rfl, rfl, rfl, rfl⟩

theorem Alike.check {r r' : Report} (h : r.Alike r') : r.check = r'.check := by
  rw [Report.check, Report.check, h.boardFault]

end Report

/-- Apart from failures that are no faults of the board the walks are the same. -/
structure Walk.Alike (K : κ → ι → Prop) (w : Walk κ) (v : Walk ι) : Prop where
  holds : w.holds = v.holds
  report : w.report.Alike v.report
  scene : w.scene.Alike K v.scene

namespace Walk.Alike
variable {w : Walk κ} {v : Walk ι}

theorem withScene (h : w.Alike K v) {s : Scene κ} {t : Scene ι} (hs : s.Alike K t) :
    Alike K { w with scene := s } { v with scene := t } :=
  ⟨h.holds, h.report, hs⟩

theorem invoke (h : w.Alike K v) :
    Alike K { w with report := { w.report with invoked := w.report.invoked + 1 } }
      { v with report := { v.report with invoked := v.report.invoked + 1 } } :=
  ⟨h.holds, ⟨congrArg (· + 1) h.report.invoked, h.report.scheduled, h.report.fired,
    h.report.stoppedBy, h.report.boardFault⟩, h.scene⟩

theorem fire (h : w.Alike K v) :
    Alike K { w with report := { w.report with fired := w.report.fired + 1 } }
      { v with report := { v.report with fired := v.report.fired + 1 } } :=
  ⟨h.holds, ⟨h.report.invoked, h.report.scheduled, congrArg (· + 1) h.report.fired,
    h.report.stoppedBy, h.report.boardFault⟩, h.scene⟩

theorem stop (h : w.Alike K v) (mode : ModeId) (severity : Severity) (text : String) :
    Alike K
      { w with
        report := { w.report with stoppedBy := some mode }
        scene := w.scene.remark severity text }
      { v with
        report := { v.report with stoppedBy := some mode }
        scene := v.scene.remark severity text } :=
  ⟨h.holds, ⟨h.report.invoked, h.report.scheduled, h.report.fired, rfl, h.report.boardFault⟩,
    h.scene.remark severity text⟩

theorem schedule (h : w.Alike K v) (mode : ModeId) (switch : Switch) (b : Binding) (hold : Span) :
    (w.schedule mode switch b hold).Alike K (v.schedule mode switch b hold) := by
  refine ⟨?_, ⟨h.report.invoked, congrArg (· + 1) h.report.scheduled, h.report.fired,
    h.report.stoppedBy, h.report.boardFault⟩, h.scene⟩
  simp only [Walk.schedule, h.holds, h.scene.now]

theorem fail (h : w.Alike K v) (f : HandlerFault) : (w.fail f).Alike K (v.fail f) := by
  refine ⟨h.holds, ⟨h.report.invoked, h.report.scheduled, h.report.fired, h.report.stoppedBy, ?_⟩,
    h.scene.remark _ _⟩
  simp only [Walk.fail, Report.boardFault?_fail, h.report.boardFault]

/-- A failure may be missing, if it is no fault of the board. -/
theorem fail_spared (h : w.Alike K v) {f : HandlerFault} (harmless : f.reason.boardFault? = none) :
    (w.fail f).Alike K v := by
  refine ⟨h.holds, ⟨h.report.invoked, h.report.scheduled, h.report.fired, h.report.stoppedBy, ?_⟩,
    h.scene.remark_error _⟩
  simp only [Walk.fail, Report.boardFault?_fail, harmless, Option.or_none, h.report.boardFault]

end Walk.Alike

/-! ### Stacks -/

/-- Twin modes that arrived alike. -/
structure Slot.Twin (M : σ → τ → Prop) (K : κ → ι → Prop) (a : Slot σ κ) (b : Slot τ ι) : Prop where
  seq : a.seq = b.seq
  mode : a.mode.Twin M K b.mode

theorem Slot.Twin.withMode {a : Slot σ κ} {b : Slot τ ι} (h : a.Twin M K b) {m : Mode σ κ}
    {m' : Mode τ ι} (hm : m.Twin M K m') :
    Twin M K { a with mode := m } { b with mode := m' } :=
  ⟨h.seq, hm⟩

namespace ModeStack

/-- Twin modes in the same order. -/
abbrev TwinSlots (M : σ → τ → Prop) (K : κ → ι → Prop) : List (Slot σ κ) → List (Slot τ ι) → Prop :=
  List.Forall₂ (Slot.Twin M K)

/-- Twin modes in the same order, and the same held handlers that wait. -/
structure Twin (M : σ → τ → Prop) (K : κ → ι → Prop) (s : ModeStack σ κ) (t : ModeStack τ ι) :
    Prop where
  slots : TwinSlots M K s.slots t.slots
  nextSeq : s.nextSeq = t.nextSeq
  holds : s.holds = t.holds

/-- Twin stacks, with scenes that are alike. -/
abbrev TwinIn (M : σ → τ → Prop) (K : κ → ι → Prop) :
    ModeStack σ κ × Scene κ → ModeStack τ ι × Scene ι → Prop :=
  Pairwise₂ (Twin M K) (Scene.Alike K)

/-- Twin modes, with walks that are alike. -/
abbrev TwinWalk (M : σ → τ → Prop) (K : κ → ι → Prop) :
    List (Slot σ κ) × Walk κ → List (Slot τ ι) × Walk ι → Prop :=
  Pairwise₂ (TwinSlots M K) (Walk.Alike K)

section slots
variable {as : List (Slot σ κ)} {bs : List (Slot τ ι)} {a : Slot σ κ} {b : Slot τ ι}

theorem ids_of_twin (h : TwinSlots M K as bs) :
    (as.map fun slot => slot.mode.id) = bs.map fun slot => slot.mode.id := by
  induction h with
  | nil => rfl
  | cons hab _ ih => rw [List.map_cons, List.map_cons, hab.mode.id, ih]

theorem contains_of_twin {s : ModeStack σ κ} {t : ModeStack τ ι} (h : TwinSlots M K s.slots t.slots)
    (id : ModeId) : s.contains id = t.contains id := by
  have hany := congrArg (fun ids => ids.any fun other => decide (other = id)) (ids_of_twin h)
  rwa [List.any_map, List.any_map] at hany

/-- A mode is found in both or in neither. -/
theorem find_twin (h : TwinSlots M K as bs) (id : ModeId) :
    ((as.find? fun slot => slot.mode.id = id) = none ∧
        (bs.find? fun slot => slot.mode.id = id) = none) ∨
      ∃ a b, (as.find? fun slot => slot.mode.id = id) = some a ∧
        (bs.find? fun slot => slot.mode.id = id) = some b ∧ a.Twin M K b := by
  induction h with
  | nil => exact .inl ⟨rfl, rfl⟩
  | @cons a b as bs hab _ ih =>
    rw [List.find?_cons, List.find?_cons, hab.mode.id]
    by_cases hid : b.mode.id = id
    · exact .inr ⟨a, b, by simp [hid], by simp [hid], hab⟩
    · simpa [hid] using ih

theorem twin_insertSlot (hab : a.Twin M K b) (h : TwinSlots M K as bs) :
    TwinSlots M K (insertSlot a as) (insertSlot b bs) := by
  induction h with
  | nil => exact .cons hab .nil
  | cons hfirst hrest ih =>
    simp only [insertSlot, hfirst.mode.priority, hab.mode.priority]
    split
    · exact .cons hab (.cons hfirst hrest)
    · exact .cons hfirst ih

theorem twin_erase (id : ModeId) (h : TwinSlots M K as bs) :
    TwinSlots M K (erase id as) (erase id bs) := by
  induction h with
  | nil => exact .nil
  | cons hfirst hrest ih =>
    simp only [erase, hfirst.mode.id]
    split
    · exact hrest
    · exact .cons hfirst ih

theorem twin_replace {m : Mode σ κ} {m' : Mode τ ι} (hm : m.Twin M K m')
    (h : TwinSlots M K as bs) : TwinSlots M K (replace m as) (replace m' bs) := by
  induction h with
  | nil => exact .nil
  | cons hfirst hrest ih =>
    simp only [replace, hfirst.mode.id, hm.id]
    split
    · exact .cons (hfirst.withMode hm) hrest
    · exact .cons hfirst ih

end slots

/-! ### Joining and leaving -/

/-- A joining or leaving hook that was mended counts like the one that failed. -/
theorem mirrors_settleHook {r r' : Except FaultReason Verdict} (h : FaultReason.Spared r r') :
    (settleHook r).Mirrors (TwinIn M K) Eq (settleHook r') := by
  rintro ⟨s, scene⟩ ⟨t, scene'⟩ ⟨htwin, hscene⟩
  have hfailed (n n' : Nat) : Twin M K { s with faultCount := n } { t with faultCount := n' } :=
    ⟨htwin.slots, htwin.nextSeq, htwin.holds⟩
  cases h with
  | same =>
    rcases r with reason | verdict
    · simp only [settleHook]
      split
      · exact ⟨.ok rfl, htwin, hscene⟩
      · exact ⟨.error _, htwin, hscene⟩
      · exact ⟨.ok rfl, hfailed _ _, hscene.remark _ _⟩
    · exact ⟨.ok rfl, htwin, hscene⟩
  | mended harmless =>
    rename_i reason
    simp only [settleHook]
    split
    · exact ⟨.ok rfl, htwin, hscene⟩
    · rename_i heq
      cases heq
      simp [FaultReason.boardFault?] at harmless
    · exact ⟨.ok rfl, hfailed _ t.faultCount, hscene.remark_error _⟩

/-- A mode and its twin join alike. -/
theorem mirrors_add {m : Mode σ κ} {m' : Mode τ ι} (hm : m.Twin M K m') :
    (add m).Mirrors (TwinIn M K) Eq (add m') := by
  rintro ⟨s, scene⟩ ⟨t, scene'⟩ ⟨htwin, hscene⟩
  have htwin : s.Twin M K t := htwin
  have hscene : scene.Alike K scene' := hscene
  simp only [add, contains_of_twin htwin.slots, hm.id, hm.name, hm.priority, hscene.cabinet.ids,
    htwin.nextSeq]
  split
  · exact ⟨.ok rfl, htwin, hscene.remark _ _⟩
  · obtain ⟨r, r', n, n', after, after', hl, hr, hresult, hn, hafter⟩ :=
      Mode.mended_guarded (Mode.mended_runHook .started) (.hook m'.id .started) hm
        (hscene.remark .debug
          ("adding mode '" ++ m'.name ++ "' at priority " ++ toString m'.priority))
    rw [hl, hr]
    refine mirrors_settleHook hresult ⟨⟨?_, rfl, htwin.holds⟩, hafter⟩
    exact twin_insertSlot ⟨rfl, hn⟩ htwin.slots

/-- A mode leaves alike. -/
theorem mirrors_remove (id : ModeId) :
    (remove (σ := σ) (κ := κ) id).Mirrors (TwinIn M K) Eq (remove (σ := τ) (κ := ι) id) := by
  rintro ⟨s, scene⟩ ⟨t, scene'⟩ ⟨htwin, hscene⟩
  have htwin : s.Twin M K t := htwin
  have hscene : scene.Alike K scene' := hscene
  simp only [remove, find?]
  rcases find_twin htwin.slots id with ⟨hl, hr⟩ | ⟨a, b, hl, hr, hab⟩
  · rw [hl, hr]
    exact ⟨.ok rfl, htwin, hscene⟩
  · rw [hl, hr]
    dsimp only
    obtain ⟨r, r', n, n', after, after', hl, hr, hresult, -, hafter⟩ :=
      Mode.mended_guarded (Mode.mended_runHook .stopped) (.hook id .stopped) hab.mode
        (hscene.remark .debug ("removing mode '" ++ b.mode.name ++ "'"))
    rw [hab.mode.name, hl, hr]
    have hleft : Twin M K { s with slots := erase id s.slots, holds := s.holds.cancelMode id }
        { t with slots := erase id t.slots, holds := t.holds.cancelMode id } :=
      ⟨twin_erase id htwin.slots, htwin.nextSeq, congrArg (·.cancelMode id) htwin.holds⟩
    obtain ⟨hend, hstate⟩ := mirrors_settleHook hresult (s := (_, after)) (t := (_, after'))
      ⟨hleft, hafter⟩
    refine ⟨?_, hstate⟩
    dsimp only
    rw [hend.eq]
    exact .refl (fun _ => rfl) _

theorem mirrors_removeAll (ids : List ModeId) (first : Option Fault)
    {s : ModeStack σ κ × Scene κ} {t : ModeStack τ ι × Scene ι} (h : TwinIn M K s t) :
    (removeAll ids first s).1 = (removeAll ids first t).1 ∧
      TwinIn M K (removeAll ids first s).2 (removeAll ids first t).2 := by
  induction ids generalizing first s t with
  | nil => exact ⟨rfl, h⟩
  | cons id rest ih =>
    obtain ⟨o, o', s', t', hl, hr, hend, hstate⟩ := (mirrors_remove id).run h
    simp only [removeAll, hl, hr]
    cases hend with
    | ok _ => exact ih first hstate
    | error f => exact ih (some (first.getD f)) hstate
    | panic message => exact ih first hstate

theorem mirrors_clear :
    (clear (σ := σ) (κ := κ)).Mirrors (TwinIn M K) Eq (clear (σ := τ) (κ := ι)) := by
  rintro ⟨s, scene⟩ ⟨t, scene'⟩ h
  obtain ⟨hfault, hstate⟩ := mirrors_removeAll s.ids none h
  have hids : s.ids = t.ids := ids_of_twin h.first.slots
  simp only [clear, ← hids]
  generalize removeAll s.ids none (s, scene) = p at hfault hstate ⊢
  generalize removeAll s.ids none (t, scene') = q at hfault hstate ⊢
  obtain ⟨fault, p⟩ := p
  obtain ⟨fault', q⟩ := q
  cases hfault
  cases fault with
  | none => exact ⟨.ok rfl, hstate⟩
  | some f => exact ⟨.error f, hstate⟩

/-! ### Walks and ticks -/

/-- A mode's handlers run alike, and say alike whether to stop. -/
theorem alike_walkBindings (switch : Switch) (bs : List Binding) {m : Mode σ κ} {m' : Mode τ ι}
    (hm : m.Twin M K m') {w : Walk κ} {v : Walk ι} (hw : w.Alike K v) :
    Pairwise₂ Eq (Pairwise₂ (Mode.Twin M K) (Walk.Alike K)) (walkBindings switch bs m w)
      (walkBindings switch bs m' v) := by
  induction bs generalizing m m' w v with
  | nil => exact ⟨rfl, hm, hw⟩
  | cons b rest ih =>
    simp only [walkBindings]
    cases b.hold with
    | some hold =>
      rw [hm.id]
      exact ih hm (hw.schedule _ _ _ _)
    | none =>
      obtain ⟨r, r', n, n', after, after', hl, hr, hresult, hn, hafter⟩ :=
        Mode.mended_guarded (Mode.mended_handle b.number switch)
          (.handler m'.id b.number switch.name) hm hw.scene
      have hran := hw.invoke.withScene hafter
      dsimp only
      rw [hm.id, hl, hr]
      -- A failed handler says no more about stopping than one that carries on, so the rest of the
      -- row is walked in either case.
      cases hresult with
      | same =>
        rcases r with reason | verdict | verdict
        · dsimp only
          rw [hn.name]
          exact ih hn (hran.fail _)
        · exact ih hn hran
        · exact ⟨rfl, (ih hn hran).second⟩
      | mended harmless => exact ih hn (hran.fail_spared harmless)

theorem alike_walkModes (switch : Switch) {as : List (Slot σ κ)} {bs : List (Slot τ ι)}
    (h : TwinSlots M K as bs) {w : Walk κ} {v : Walk ι} (hw : w.Alike K v) :
    TwinWalk M K (walkModes switch as w) (walkModes switch bs v) := by
  induction h generalizing w v with
  | nil => exact ⟨.nil, hw⟩
  | @cons a b as bs hab hrest ih =>
    simp only [walkModes, hab.mode.bindings]
    have hmode := alike_walkBindings switch
      ((b.mode.bindings switch.name).filter fun b => b.condition.holds switch) hab.mode hw
    generalize walkBindings switch _ a.mode w = p at hmode ⊢
    generalize walkBindings switch _ b.mode v = q at hmode ⊢
    obtain ⟨said, m, w⟩ := p
    obtain ⟨said', m', v⟩ := q
    obtain ⟨rfl, hm, hw⟩ := hmode
    have hm : m.Twin M K m' := hm
    have hw : w.Alike K v := hw
    cases said with
    | true =>
      dsimp only
      rw [hm.id, hm.name]
      exact ⟨.cons (hab.withMode hm) hrest, hw.stop _ _ _⟩
    | false => exact ⟨.cons (hab.withMode hm) (ih hw).first, (ih hw).second⟩

theorem mirrors_onHolds {ε α : Type} {x : Act ε (HoldQueue × Bench) α}
    (hx : x.Mirrors HoldQueue.Alike Eq x) :
    (onHolds x).Mirrors (TwinIn M K) Eq (onHolds x) :=
  hx.zoom (fun _ _ h => ⟨h.first.holds, h.second.cabinet.bench⟩) fun _ _ _ _ h hq =>
    ⟨⟨h.first.slots, h.first.nextSeq, hq.first⟩, h.second.withBench hq.second⟩

/-- A walk begins with nothing on its report. -/
theorem Twin.walk {s : ModeStack σ κ} {t : ModeStack τ ι} (h : s.Twin M K t) {r r' : Report}
    (hr : r.Alike r') {scene : Scene κ} {scene' : Scene ι} (hs : scene.Alike K scene') :
    Walk.Alike K { holds := s.holds, faultCount := s.faultCount, report := r, scene }
      { holds := t.holds, faultCount := t.faultCount, report := r', scene := scene' } :=
  ⟨h.holds, hr, hs⟩

/-- A switch is handed down alike. -/
theorem mirrors_dispatch {ε : Type} (switch : Switch) :
    (dispatch switch : Act ε (ModeStack σ κ × Scene κ) Report).Mirrors (TwinIn M K) Report.Alike
      (dispatch switch) := by
  refine (mirrors_onHolds (HoldQueue.mirrors_cancelUnsatisfied switch)).next fun _ => ?_
  rintro ⟨s, scene⟩ ⟨t, scene'⟩ ⟨htwin, hscene⟩
  have hwalk := alike_walkModes switch htwin.slots (htwin.walk (.refl {}) hscene)
  exact ⟨.ok hwalk.second.report, ⟨hwalk.first, htwin.nextSeq, hwalk.second.holds⟩,
    hwalk.second.scene⟩

theorem alike_tickModes {as : List (Slot σ κ)} {bs : List (Slot τ ι)} (h : TwinSlots M K as bs)
    {w : Walk κ} {v : Walk ι} (hw : w.Alike K v) :
    TwinWalk M K (tickModes as w) (tickModes bs v) := by
  induction h generalizing w v with
  | nil => exact ⟨.nil, hw⟩
  | @cons a b as bs hab hrest ih =>
    obtain ⟨r, r', n, n', after, after', hl, hr, hresult, hn, hafter⟩ :=
      Mode.mended_guarded (Mode.mended_runHook .tick) (.hook b.mode.id .tick) hab.mode hw.scene
    simp only [tickModes, hab.mode.id]
    rw [hl, hr]
    have hran := hw.withScene hafter
    have hrest {u : Walk κ} {u' : Walk ι} (hu : u.Alike K u') :
        TwinWalk M K ({ a with mode := n } :: (tickModes as u).1, (tickModes as u).2)
          ({ b with mode := n' } :: (tickModes bs u').1, (tickModes bs u').2) :=
      ⟨.cons (hab.withMode hn) (ih hu).first, (ih hu).second⟩
    cases hresult with
    | same =>
      cases r with
      | error reason =>
        rw [hn.name]
        exact hrest (hran.fail _)
      | ok verdict => exact hrest hran
    | mended harmless => exact hrest (hran.fail_spared harmless)

theorem alike_fireDue (due : List Obligation) {as : List (Slot σ κ)} {bs : List (Slot τ ι)}
    (h : TwinSlots M K as bs) {w : Walk κ} {v : Walk ι} (hw : w.Alike K v) :
    TwinWalk M K (fireDue due as w) (fireDue due bs v) := by
  induction due generalizing as bs w v with
  | nil => exact ⟨h, hw⟩
  | cons o rest ih =>
    simp only [fireDue, hw.scene.cabinet.switches]
    cases v.scene.cabinet.switches.find? o.switch with
    | none => exact ih h hw
    | some switch =>
      rcases find_twin h o.mode with ⟨hl, hr⟩ | ⟨a, b, hl, hr, hab⟩
      · rw [hl, hr]
        exact ih h hw
      · rw [hl, hr]
        obtain ⟨r, r', n, n', after, after', hl, hr, hresult, hn, hafter⟩ :=
          Mode.mended_guarded (Mode.mended_handle o.binding switch)
            (.handler o.mode o.binding switch.name) hab.mode hw.scene
        dsimp only
        rw [hl, hr]
        have hran := hw.fire.withScene hafter
        cases hresult with
        | same =>
          cases r with
          | error reason =>
            dsimp only
            rw [hn.name]
            exact ih (twin_replace hn h) (hran.fail _)
          | ok verdict => exact ih (twin_replace hn h) hran
        | mended harmless => exact ih (twin_replace hn h) (hran.fail_spared harmless)

/-- Ticks go alike. -/
theorem mirrors_tick {ε : Type} :
    (tick : Act ε (ModeStack σ κ × Scene κ) Report).Mirrors (TwinIn M K) Report.Alike tick := by
  refine Act.Mirrors.bind (Q := Report.Alike) ?_ fun report report' hreport =>
    .next ?_ fun due => ?_
  · rintro ⟨s, scene⟩ ⟨t, scene'⟩ ⟨htwin, hscene⟩
    have hwalk := alike_tickModes htwin.slots (htwin.walk (.refl {}) hscene)
    exact ⟨.ok hwalk.second.report, ⟨hwalk.first, htwin.nextSeq, htwin.holds⟩, hwalk.second.scene⟩
  · rintro ⟨s, scene⟩ ⟨t, scene'⟩ h
    have hscene : scene.Alike K scene' := h.second
    dsimp only
    rw [hscene.now, hscene.cabinet.switches]
    exact mirrors_onHolds (HoldQueue.mirrors_takeDue _ _) h
  · rintro ⟨s, scene⟩ ⟨t, scene'⟩ ⟨htwin, hscene⟩
    have hwalk := alike_fireDue due htwin.slots (htwin.walk hreport hscene)
    exact ⟨.ok hwalk.second.report, ⟨hwalk.first, htwin.nextSeq, htwin.holds⟩, hwalk.second.scene⟩

end ModeStack

end Playfield
