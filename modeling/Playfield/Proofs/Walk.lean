import Playfield.ModeStack
import Playfield.Proofs.Callback

/-!
# The walk down the stack

The reference walk calls immediate handlers only, and keeps a record of each mode it comes to: the
mode as it was found, the mode as its handlers left it, and how they ended. Everything else about a
dispatch is read off these records: the counts of the report, the mode that ended the walk, the
failures, and the held handlers that start to wait. `walkModes_eq` says that the walk that runs is
the reference walk with those books kept along the way.
-/
namespace Playfield

namespace ModeStack
variable {σ κ : Type}

/-- The bindings of a mode that fit a switch at its present level. -/
def matching (switch : Switch) (m : Mode σ κ) : List Binding :=
  (m.bindings switch.name).filter fun b => b.condition.holds switch

/-- Those without a hold, whose handlers are called at once. -/
def immediate (switch : Switch) (m : Mode σ κ) : List Binding :=
  (matching switch m).filter fun b => b.hold.isNone

/-- What bindings with a hold have to wait for from a time on. -/
def waits (switch : Switch) (now : Span) (mode : ModeId) (bs : List Binding) : List Obligation :=
  bs.filterMap fun b => b.hold.map fun hold =>
    ⟨mode, b.number, switch.name, b.condition, hold, now⟩

/-- The ending of a handler says that modes below shall not see the transition. -/
def saysStop : Except FaultReason Verdict → Bool
  | .ok .stop => true
  | _ => false

/-- The failures among the endings of a mode's handlers. -/
def failures (switch : Switch) (name : String) (endings : List (Except FaultReason Verdict)) :
    List HandlerFault :=
  endings.filterMap fun
    | .ok _ => none
    | .error reason => some ⟨name, some switch.name, reason⟩

/-- Call a handler, and remark on it if it fails. -/
def call (switch : Switch) (b : Binding) (m : Mode σ κ) (scene : Scene κ) :
    Except FaultReason Verdict × Mode σ κ × Scene κ :=
  match Mode.guarded (.handler m.id b.number switch.name) (Mode.handle b.number switch) m scene with
  | (.ok verdict, m, scene) => (.ok verdict, m, scene)
  | (.error reason, m, scene) =>
    (.error reason, m,
      scene.remark .error (HandlerFault.message ⟨m.name, some switch.name, reason⟩))

/-- Call handlers one after another, whatever they say. -/
def callAll (switch : Switch) :
    List Binding → Mode σ κ → Scene κ → List (Except FaultReason Verdict) × Mode σ κ × Scene κ
  | [], m, scene => ([], m, scene)
  | b :: rest, m, scene =>
    match call switch b m scene with
    | (ending, m, scene) =>
      match callAll switch rest m scene with
      | (endings, m, scene) => (ending :: endings, m, scene)

/-- What the walk did at a mode. -/
structure Visit (σ κ : Type) where
  /-- The mode as the walk found it. -/
  found : Slot σ κ
  /-- The mode as its handlers left it. -/
  left : Mode σ κ
  /-- How its immediate handlers ended, in order. -/
  endings : List (Except FaultReason Verdict)

namespace Visit

/-- The walk ends after this mode. -/
def stops (v : Visit σ κ) : Bool := v.endings.any saysStop

/-- The mode in its place, as its handlers left it. -/
def after (v : Visit σ κ) : Slot σ κ := { v.found with mode := v.left }

/-- The failures of its handlers. -/
def faults (switch : Switch) (v : Visit σ κ) : List HandlerFault :=
  failures switch v.left.name v.endings

/-- The held handlers that start to wait at this mode. -/
def started (switch : Switch) (now : Span) (v : Visit σ κ) : List Obligation :=
  waits switch now v.found.mode.id (matching switch v.found.mode)

/-- The callbacks that began at this mode. -/
def began (switch : Switch) (scene : Scene κ) (v : Visit σ κ) : List (CallbackSite × Glimpse) :=
  (immediate switch v.found.mode).map fun b =>
    (.handler v.found.mode.id b.number switch.name, scene.glimpseOf v.found.mode.id)

end Visit

/-- The reference walk: from the top of the stack to the first mode that says stop. -/
def visits (switch : Switch) : List (Slot σ κ) → Scene κ → List (Visit σ κ) × Scene κ
  | [], scene => ([], scene)
  | slot :: rest, scene =>
    match callAll switch (immediate switch slot.mode) slot.mode scene with
    | (endings, m, scene) =>
      if endings.any saysStop then
        ([⟨slot, m, endings⟩],
          scene.remark .trace ("'" ++ switch.name ++ "' stopped by mode '" ++ m.name ++ "'"))
      else
        match visits switch rest scene with
        | (vs, scene) => (⟨slot, m, endings⟩ :: vs, scene)

/-! ### Calling the handlers of one mode -/

theorem fixed_call (switch : Switch) (b : Binding) (m : Mode σ κ) (scene : Scene κ) :
    (call switch b m scene).2.1.fixed = m.fixed := by
  have h := Mode.fixed_guarded (Mode.plays_handle b.number switch)
    (.handler m.id b.number switch.name) m scene
  simp only [call]
  split <;> rename_i hg <;> rw [hg] at h <;> exact h

theorem passes_call (switch : Switch) (b : Binding) (m : Mode σ κ) (scene : Scene κ) :
    scene.Passes [(.handler m.id b.number switch.name, scene.glimpseOf m.id)]
      (call switch b m scene).2.2 := by
  have h := Mode.passes_guarded (Mode.plays_handle b.number switch)
    (.handler m.id b.number switch.name) m scene
  simp only [call]
  split <;> rename_i hg <;> rw [hg] at h
  · exact h
  · exact h.trans (Scene.passes_remark _ _ _)

theorem fixed_callAll (switch : Switch) (bs : List Binding) (m : Mode σ κ) (scene : Scene κ) :
    (callAll switch bs m scene).2.1.fixed = m.fixed := by
  induction bs generalizing m scene with
  | nil => rfl
  | cons b rest ih => exact (ih _ _).trans (fixed_call switch b m scene)

/-- Each handler begins once, in order. -/
theorem passes_callAll (switch : Switch) (bs : List Binding) (m : Mode σ κ) (scene : Scene κ) :
    scene.Passes (bs.map fun b => (.handler m.id b.number switch.name, scene.glimpseOf m.id))
      (callAll switch bs m scene).2.2 := by
  induction bs generalizing m scene with
  | nil => exact .refl scene
  | cons b rest ih =>
    have h := passes_call switch b m scene
    have hr := ih (call switch b m scene).2.1 (call switch b m scene).2.2
    rw [Mode.id_eq_of_fixed (fixed_call switch b m scene), h.glimpseOf] at hr
    exact h.trans hr

theorem length_callAll (switch : Switch) (bs : List Binding) (m : Mode σ κ) (scene : Scene κ) :
    (callAll switch bs m scene).1.length = bs.length := by
  induction bs generalizing m scene with
  | nil => rfl
  | cons b rest ih => exact congrArg Nat.succ (ih _ _)

/-- The books kept while the handlers of a mode are called. -/
def Walk.enterCalls (w : Walk κ) (switch : Switch) (started : List Obligation) (name : String)
    (endings : List (Except FaultReason Verdict)) (scene : Scene κ) : Walk κ where
  holds := started.foldl HoldQueue.register w.holds
  faultCount := w.faultCount + (failures switch name endings).length
  report := { w.report with
    invoked := w.report.invoked + endings.length
    scheduled := w.report.scheduled + started.length
    faults := w.report.faults ++ failures switch name endings }
  scene := scene

/-- Going through the bindings of a mode is calling the immediate ones, with the books kept. -/
theorem walkBindings_eq (switch : Switch) (bs : List Binding) (m : Mode σ κ) (w : Walk κ) :
    walkBindings switch bs m w =
      match callAll switch (bs.filter fun b => b.hold.isNone) m w.scene with
      | (endings, m', scene) =>
        (endings.any saysStop, m',
          Walk.enterCalls w switch (waits switch w.scene.now m.id bs) m.name endings scene) := by
  induction bs generalizing m w with
  | nil => simp [walkBindings, callAll, waits, failures, Walk.enterCalls]
  | cons b rest ih =>
    cases hb : b.hold with
    | some hold =>
      simp only [walkBindings, hb, ih, List.filter_cons, Option.isNone_some, Bool.false_eq_true,
        if_false, Walk.schedule]
      simp only [Walk.enterCalls, waits, List.filterMap_cons, hb, Option.map_some, List.foldl_cons,
        List.length_cons, Nat.add_assoc, Nat.add_comm 1]
    | none =>
      have hfix := Mode.fixed_guarded (Mode.plays_handle b.number switch)
        (.handler m.id b.number switch.name) m w.scene
      have hpass := Mode.passes_guarded (Mode.plays_handle b.number switch)
        (.handler m.id b.number switch.name) m w.scene
      simp only [walkBindings, hb, List.filter_cons, Option.isNone_none, if_true, callAll, call]
      generalize Mode.guarded (.handler m.id b.number switch.name) (Mode.handle b.number switch) m
        w.scene = g at hfix hpass ⊢
      obtain ⟨outcome, m', scene⟩ := g
      have hid : m'.id = m.id := Mode.id_eq_of_fixed hfix
      have hname : m'.name = m.name := Mode.name_eq_of_fixed hfix
      have hnow : scene.now = w.scene.now := hpass.now
      have hwaits : waits switch w.scene.now m.id (b :: rest) =
          waits switch w.scene.now m.id rest := by simp [waits, hb]
      rcases outcome with reason | verdict
      · simp only [ih, Walk.fail]
        simp [Walk.enterCalls, saysStop, failures, hid, hname, hnow, hwaits, Scene.remark,
          Nat.add_assoc, Nat.add_comm 1]
      · cases verdict with
        | carryOn =>
          simp only [ih]
          simp [Walk.enterCalls, saysStop, failures, hid, hname, hnow, hwaits, Nat.add_assoc,
            Nat.add_comm 1]
        | stop =>
          simp only [ih]
          simp [Walk.enterCalls, saysStop, failures, hid, hname, hnow, hwaits, Nat.add_assoc,
            Nat.add_comm 1]

/-! ### Going down the modes -/

theorem visits_cons_stop {switch : Switch} {slot : Slot σ κ} {rest : List (Slot σ κ)}
    {scene scene' : Scene κ} {endings : List (Except FaultReason Verdict)} {m : Mode σ κ}
    (hc : callAll switch (immediate switch slot.mode) slot.mode scene = (endings, m, scene'))
    (hs : endings.any saysStop = true) : visits switch (slot :: rest) scene =
      ([⟨slot, m, endings⟩],
        scene'.remark .trace ("'" ++ switch.name ++ "' stopped by mode '" ++ m.name ++ "'")) := by
  simp [visits, hc, hs]

theorem visits_cons_carryOn {switch : Switch} {slot : Slot σ κ} {rest : List (Slot σ κ)}
    {scene scene' : Scene κ} {endings : List (Except FaultReason Verdict)} {m : Mode σ κ}
    (hc : callAll switch (immediate switch slot.mode) slot.mode scene = (endings, m, scene'))
    (hs : endings.any saysStop = false) : visits switch (slot :: rest) scene =
      (⟨slot, m, endings⟩ :: (visits switch rest scene').1, (visits switch rest scene').2) := by
  simp [visits, hc, hs]

/-- The modes visited are the first ones of the stack. -/
theorem visits_found (switch : Switch) (slots : List (Slot σ κ)) (scene : Scene κ) :
    (visits switch slots scene).1.map Visit.found <+: slots := by
  induction slots generalizing scene with
  | nil => exact List.prefix_rfl
  | cons slot rest ih =>
    rcases hc : callAll switch (immediate switch slot.mode) slot.mode scene
      with ⟨endings, m, scene'⟩
    cases hs : endings.any saysStop with
    | true =>
      rw [visits_cons_stop hc hs]
      exact List.cons_prefix_cons.mpr ⟨rfl, List.nil_prefix⟩
    | false =>
      rw [visits_cons_carryOn hc hs]
      exact List.cons_prefix_cons.mpr ⟨rfl, ih scene'⟩

/-- The walk goes on below a mode that does not say stop, to the last mode if none does. -/
theorem visits_end (switch : Switch) (slots : List (Slot σ κ)) (scene : Scene κ) :
    (∀ v ∈ (visits switch slots scene).1.dropLast, v.stops = false) ∧
      ((visits switch slots scene).1.length < slots.length →
        ∃ v, (visits switch slots scene).1.getLast? = some v ∧ v.stops = true) := by
  induction slots generalizing scene with
  | nil => simp [visits]
  | cons slot rest ih =>
    rcases hc : callAll switch (immediate switch slot.mode) slot.mode scene
      with ⟨endings, m, scene'⟩
    cases hs : endings.any saysStop with
    | true =>
      rw [visits_cons_stop hc hs]
      exact ⟨by simp, fun _ => ⟨_, rfl, hs⟩⟩
    | false =>
      rw [visits_cons_carryOn hc hs]
      obtain ⟨hgo, hend⟩ := ih scene'
      cases hv : (visits switch rest scene').1 with
      | nil =>
        rw [hv] at hend
        refine ⟨by simp, fun h => ?_⟩
        obtain ⟨v, hl, _⟩ := hend (by simpa using h)
        exact nomatch hl
      | cons w ws =>
        rw [hv] at hgo hend
        refine ⟨?_, fun h => ?_⟩
        · intro v hmem
          rw [List.dropLast_cons_cons, List.mem_cons] at hmem
          rcases hmem with rfl | hmem
          · exact hs
          · exact hgo v hmem
        · rw [List.getLast?_cons_cons]
          exact hend (by simpa using h)

/-- Each visit calls all immediate handlers of its mode. -/
theorem visits_endings (switch : Switch) (slots : List (Slot σ κ)) (scene : Scene κ) :
    ∀ v ∈ (visits switch slots scene).1,
      v.endings.length = (immediate switch v.found.mode).length ∧
        v.left.fixed = v.found.mode.fixed := by
  induction slots generalizing scene with
  | nil => simp [visits]
  | cons slot rest ih =>
    have hlen := length_callAll switch (immediate switch slot.mode) slot.mode scene
    have hfix := fixed_callAll switch (immediate switch slot.mode) slot.mode scene
    rcases hc : callAll switch (immediate switch slot.mode) slot.mode scene
      with ⟨endings, m, scene'⟩
    rw [hc] at hlen hfix
    cases hs : endings.any saysStop with
    | true =>
      rw [visits_cons_stop hc hs]
      simpa using ⟨hlen, hfix⟩
    | false =>
      rw [visits_cons_carryOn hc hs]
      exact List.forall_mem_cons.mpr ⟨⟨hlen, hfix⟩, ih scene'⟩

/-- The callbacks that begin are the immediate handlers of the modes visited, in order. -/
theorem passes_visits (switch : Switch) (slots : List (Slot σ κ)) (scene : Scene κ) :
    scene.Passes ((visits switch slots scene).1.flatMap (Visit.began switch scene))
      (visits switch slots scene).2 := by
  induction slots generalizing scene with
  | nil => exact .refl scene
  | cons slot rest ih =>
    have h := passes_callAll switch (immediate switch slot.mode) slot.mode scene
    rcases hc : callAll switch (immediate switch slot.mode) slot.mode scene
      with ⟨endings, m, scene'⟩
    rw [hc] at h
    cases hs : endings.any saysStop with
    | true =>
      rw [visits_cons_stop hc hs]
      simpa [Visit.began] using h.trans (Scene.passes_remark _ _ _)
    | false =>
      rw [visits_cons_carryOn hc hs]
      have hr := ih scene'
      have hbegan : Visit.began switch scene' = Visit.began (σ := σ) switch scene :=
        funext fun v => by simp [Visit.began, h.glimpseOf]
      rw [hbegan] at hr
      exact h.trans hr

/-- The mode that ended the walk. -/
def stopper (vs : List (Visit σ κ)) : Option ModeId :=
  (vs.find? Visit.stops).map fun v => v.found.mode.id

/-- The books kept while modes are visited. -/
def Walk.enterVisits (w : Walk κ) (switch : Switch) (vs : List (Visit σ κ)) (scene : Scene κ) :
    Walk κ where
  holds := (vs.flatMap (Visit.started switch w.scene.now)).foldl HoldQueue.register w.holds
  faultCount := w.faultCount + (vs.flatMap (Visit.faults switch)).length
  report := { w.report with
    invoked := w.report.invoked + (vs.flatMap Visit.endings).length
    scheduled := w.report.scheduled + (vs.flatMap (Visit.started switch w.scene.now)).length
    stoppedBy := (stopper vs).or w.report.stoppedBy
    faults := w.report.faults ++ vs.flatMap (Visit.faults switch) }
  scene := scene

theorem enterVisits_cons {switch : Switch} {v : Visit σ κ} {vs : List (Visit σ κ)} {w : Walk κ}
    {between scene : Scene κ} (hv : v.stops = false) (hname : v.left.name = v.found.mode.name)
    (hnow : between.now = w.scene.now) :
    Walk.enterVisits (Walk.enterCalls w switch (v.started switch w.scene.now) v.found.mode.name
      v.endings between) switch vs scene = Walk.enterVisits w switch (v :: vs) scene := by
  simp [Walk.enterVisits, Walk.enterCalls, stopper, hv, hnow, Visit.faults, hname, Nat.add_assoc,
    List.append_assoc]

theorem enterVisits_single {switch : Switch} {v : Visit σ κ} {w : Walk κ}
    {between scene : Scene κ} (hv : v.stops = true) (hname : v.left.name = v.found.mode.name)
    (hid : v.left.id = v.found.mode.id) :
    let done := Walk.enterCalls w switch (v.started switch w.scene.now) v.found.mode.name
      v.endings between
    { done with report := { done.report with stoppedBy := some v.left.id }, scene } =
      Walk.enterVisits w switch [v] scene := by
  simp [Walk.enterVisits, Walk.enterCalls, stopper, hv, Visit.faults, hname, hid]

/-- The walk that runs is the reference walk, with the books kept along the way. -/
theorem walkModes_eq (switch : Switch) (slots : List (Slot σ κ)) (w : Walk κ) :
    walkModes switch slots w =
      match visits switch slots w.scene with
      | (vs, scene) =>
        (vs.map Visit.after ++ slots.drop vs.length, Walk.enterVisits w switch vs scene) := by
  induction slots generalizing w with
  | nil => simp [walkModes, visits, Walk.enterVisits, stopper]
  | cons slot rest ih =>
    have hfix := fixed_callAll switch (immediate switch slot.mode) slot.mode w.scene
    have hpass := passes_callAll switch (immediate switch slot.mode) slot.mode w.scene
    have hwalk := walkBindings_eq switch (matching switch slot.mode) slot.mode w
    rcases hc : callAll switch (immediate switch slot.mode) slot.mode w.scene with
      ⟨endings, m, scene⟩
    have hc' := hc
    simp only [immediate] at hc'
    rw [hc'] at hwalk
    rw [hc] at hfix hpass
    have hid : m.id = slot.mode.id := Mode.id_eq_of_fixed hfix
    have hname : m.name = slot.mode.name := Mode.name_eq_of_fixed hfix
    simp only [matching] at hwalk
    simp only [walkModes, hwalk]
    cases hs : endings.any saysStop with
    | true =>
      rw [visits_cons_stop hc hs]
      simp only [List.map_cons, List.map_nil, List.length_singleton, List.drop_one, List.tail_cons,
        List.singleton_append, Visit.after]
      refine Prod.ext rfl ?_
      exact enterVisits_single (v := ⟨slot, m, endings⟩) hs hname hid
    | false =>
      rw [visits_cons_carryOn hc hs]
      simp only [ih, List.map_cons, List.length_cons, List.drop_succ_cons, List.cons_append,
        Visit.after]
      refine Prod.ext rfl ?_
      exact enterVisits_cons (v := ⟨slot, m, endings⟩) hs hname hpass.now

/-! ### The whole dispatch -/

/-- The remark on the held handlers that a transition has cancelled, if there are any. -/
def noteCancelled (switch : Switch) (q : HoldQueue) (scene : Scene κ) : Scene κ :=
  let count := q.pending.length - (q.dropUnsatisfied switch).pending.length
  if count = 0 then scene
  else scene.remark .debug
    ("cancelled " ++ toString count ++ " held handler(s) on '" ++ switch.name ++ "'")

theorem passes_noteCancelled (switch : Switch) (q : HoldQueue) (scene : Scene κ) :
    scene.Passes [] (noteCancelled switch q scene) := by
  unfold noteCancelled
  dsimp only
  split
  · exact .refl scene
  · exact scene.passes_remark _ _

/-- A dispatch is the reference walk: its report, the modes it leaves behind, the held handlers that
wait after it and the scene are all read off the visits. -/
theorem dispatch_eq {ε : Type} (switch : Switch) (s : ModeStack σ κ) (scene : Scene κ) :
    dispatch (ε := ε) switch (s, scene) =
      match visits switch s.slots (noteCancelled switch s.holds scene) with
      | (vs, scene') =>
        (.ok {
            invoked := (vs.flatMap Visit.endings).length
            scheduled := (vs.flatMap (Visit.started switch scene.now)).length
            stoppedBy := stopper vs
            faults := vs.flatMap (Visit.faults switch) },
          { s with
            slots := vs.map Visit.after ++ s.slots.drop vs.length
            holds := (vs.flatMap (Visit.started switch scene.now)).foldl HoldQueue.register
              (s.holds.dropUnsatisfied switch)
            faultCount := s.faultCount + (vs.flatMap (Visit.faults switch)).length },
          scene') := by
  have hnow := (passes_noteCancelled switch s.holds scene).now
  have hcancel : onHolds (HoldQueue.cancelUnsatisfied switch) (s, scene) =
      ((.ok (s.holds.pending.length - (s.holds.dropUnsatisfied switch).pending.length),
        { s with holds := s.holds.dropUnsatisfied switch },
        noteCancelled switch s.holds scene) : Outcome ε Nat × ModeStack σ κ × Scene κ) := by
    simp only [onHolds, Act.zoom, HoldQueue.cancelUnsatisfied, noteCancelled]
    split <;> rfl
  refine (Act.bind_ok hcancel).trans ?_
  simp [walkModes_eq, Walk.enterVisits, hnow]

/-- The modes a dispatch comes to. -/
def visited (switch : Switch) (s : ModeStack σ κ) (scene : Scene κ) : List (Slot σ κ) :=
  (visits switch s.slots (noteCancelled switch s.holds scene)).1.map Visit.found

theorem visited_start (switch : Switch) (s : ModeStack σ κ) (scene : Scene κ) :
    visited switch s scene <+: s.slots :=
  visits_found switch s.slots _

/-- The immediate handlers that begin when modes are visited. -/
def begunBy (switch : Switch) (scene : Scene κ) (slots : List (Slot σ κ)) :
    List (CallbackSite × Glimpse) :=
  slots.flatMap fun slot => (immediate switch slot.mode).map fun b =>
    (.handler slot.mode.id b.number switch.name, scene.glimpseOf slot.mode.id)

/-- The held handlers that begin to wait when modes are visited. -/
def startedBy (switch : Switch) (now : Span) (slots : List (Slot σ κ)) : List Obligation :=
  slots.flatMap fun slot => waits switch now slot.mode.id (matching switch slot.mode)

/-- Whether held handlers were cancelled before does not matter to what begins in a walk. -/
theorem passes_visits_noted (switch : Switch) (s : ModeStack σ κ) (scene : Scene κ) :
    scene.Passes
      ((visits switch s.slots (noteCancelled switch s.holds scene)).1.flatMap
        (Visit.began switch scene))
      (visits switch s.slots (noteCancelled switch s.holds scene)).2 := by
  have hnote := passes_noteCancelled switch s.holds scene
  have hbegan : Visit.began switch (noteCancelled switch s.holds scene) =
      Visit.began (σ := σ) switch scene := by
    funext v
    simp only [Visit.began, hnote.glimpseOf]
  have hwalk := passes_visits switch s.slots (noteCancelled switch s.holds scene)
  rw [hbegan] at hwalk
  exact hnote.quiet_trans hwalk

/-- The callbacks that begin in a dispatch are the immediate handlers of the modes visited. -/
theorem passes_dispatch {ε : Type} (switch : Switch) (s : ModeStack σ κ) (scene : Scene κ) :
    scene.Passes (begunBy switch scene (visited switch s scene))
      (dispatch (ε := ε) switch (s, scene)).2.2 := by
  rw [dispatch_eq, begunBy, visited, List.flatMap_map]
  exact passes_visits_noted switch s scene

/-- The held handlers that wait after a dispatch: those of its switch whose condition is gone are
dropped, and those of the modes visited are registered. -/
theorem holds_dispatch {ε : Type} (switch : Switch) (s : ModeStack σ κ) (scene : Scene κ) :
    (dispatch (ε := ε) switch (s, scene)).2.1.holds =
      (startedBy switch scene.now (visited switch s scene)).foldl HoldQueue.register
        (s.holds.dropUnsatisfied switch) := by
  rw [dispatch_eq, startedBy, visited, List.flatMap_map]
  rfl

end ModeStack

end Playfield
