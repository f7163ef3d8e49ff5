import Playfield.Proofs.Contained
import Playfield.Proofs.Requests

/-!
# Faults of the board escalate

A callback that meets a fault of the board does not keep others from running: the walk goes on as if
the callback had merely failed, and what was asked for is done. Only then does the fault end the
operation, and it gives way to one that was met while that was done (`Machine.Escalates`). Nothing
else ends an operation with a fault: one that ends the doing of what was asked for was met in it.

`Ended` is a callback with its ending. The endings of a walk are those of its visits, and the ones
of a tick are told by `ModeStack.tickEnded`.
-/
namespace Playfield

/-- A callback that was called, and how it ended. -/
structure Ended where
  site : CallbackSite
  ending : Except FaultReason Verdict

namespace Ended

/-- The fault of the board in an ending. -/
def faultIn? : Except FaultReason Verdict → Option Fault
  | .ok _ => none
  | .error reason => reason.boardFault?

/-- The fault of the board in which a callback ended. -/
def boardFault? (c : Ended) : Option Fault := faultIn? c.ending

/-- The first fault of the board in which any of some callbacks ended. -/
def first? (cs : List Ended) : Option Fault := cs.findSome? boardFault?

theorem first?_append (cs ds : List Ended) : first? (cs ++ ds) = (first? cs).or (first? ds) :=
  List.findSome?_append

theorem first?_cons (c : Ended) (cs : List Ended) :
    first? (c :: cs) = c.boardFault?.or (first? cs) := by
  rw [first?, List.findSome?_cons]
  cases c.boardFault? <;> rfl

end Ended

/-- From one scene to another just the given callbacks begin, in order. -/
def Scene.Calls {κ : Type} (cs : List Ended) (s t : Scene κ) : Prop :=
  t.starts.map Prod.fst = s.starts.map Prod.fst ++ cs.map Ended.site

theorem Scene.Passes.calls {κ : Type} {s t : Scene κ} {began : List (CallbackSite × Glimpse)}
    {cs : List Ended} (h : s.Passes began t) (sites : cs.map Ended.site = began.map Prod.fst) :
    s.Calls cs t := by
  rw [Scene.Calls, h.starts, List.map_append, sites]

namespace ModeStack
variable {σ κ : Type}

/-! ### Endings in a walk -/

/-- The handlers called at a mode, with their endings. -/
def Visit.ended (switch : Switch) (v : Visit σ κ) : List Ended :=
  ((immediate switch v.found.mode).zip v.endings).map fun called =>
    ⟨.handler v.found.mode.id called.1.number switch.name, called.2⟩

/-- A walk that no failure cuts short: it goes down from the top of the stack, calls all immediate
handlers of each mode it comes to, and ends above the last mode only if a handler said stop. -/
structure Uncut (switch : Switch) (slots : List (Slot σ κ)) (vs : List (Visit σ κ)) : Prop where
  found : vs.map Visit.found <+: slots
  every : ∀ v ∈ vs, (v.ended switch).map Ended.site =
    (immediate switch v.found.mode).map fun b => .handler v.found.mode.id b.number switch.name
  onward : ∀ v ∈ vs.dropLast, .ok .stop ∉ v.endings
  down : vs.length < slots.length → ∃ v, vs.getLast? = some v ∧ .ok .stop ∈ v.endings

theorem Visit.stops_iff (v : Visit σ κ) : v.stops = true ↔ .ok .stop ∈ v.endings := by
  have hstop (ending : Except FaultReason Verdict) :
      saysStop ending = true ↔ ending = .ok .stop := by
    rcases ending with _ | (_ | _) <;> simp [saysStop]
  simp only [stops, List.any_eq_true, hstop, exists_eq_right]

section Walk
variable {switch : Switch} {v : Visit σ κ} {vs : List (Visit σ κ)}

theorem Visit.sites_ended (all : v.endings.length = (immediate switch v.found.mode).length) :
    (v.ended switch).map Ended.site =
      (immediate switch v.found.mode).map fun b =>
        .handler v.found.mode.id b.number switch.name := by
  conv_rhs => rw [← List.map_fst_zip (Nat.le_of_eq all.symm), List.map_map]
  rw [ended, List.map_map]
  rfl

theorem Visit.first?_ended (all : v.endings.length = (immediate switch v.found.mode).length) :
    Ended.first? (v.ended switch) = (v.faults switch).findSome? fun f => f.reason.boardFault? := by
  have hfaults (endings : List (Except FaultReason Verdict)) :
      (failures switch v.left.name endings).findSome? (fun f => f.reason.boardFault?) =
        endings.findSome? Ended.faultIn? := by
    induction endings with
    | nil => rfl
    | cons ending rest ih =>
      rw [List.findSome?_cons, ← ih]
      cases ending with
      | ok _ => rfl
      | error reason => exact List.findSome?_cons
  rw [faults, hfaults, Ended.first?, ended, List.findSome?_map]
  conv_rhs => rw [← List.map_snd_zip (Nat.le_of_eq all), List.findSome?_map]
  rfl

theorem first?_walk
    (all : ∀ v ∈ vs, v.endings.length = (immediate switch v.found.mode).length) :
    Ended.first? (vs.flatMap (Visit.ended switch)) =
      (vs.flatMap (Visit.faults switch)).findSome? fun f => f.reason.boardFault? := by
  induction vs with
  | nil => rfl
  | cons v rest ih =>
    obtain ⟨hv, hrest⟩ := List.forall_mem_cons.mp all
    rw [List.flatMap_cons, List.flatMap_cons, Ended.first?_append, List.findSome?_append,
      Visit.first?_ended hv, ih hrest]

/-- A dispatch is a walk that no failure cuts short. It reports the first fault of the board in
which a handler ended. -/
theorem dispatch_uncut (switch : Switch) (s : ModeStack σ κ) (scene : Scene κ) :
    let vs := (visits switch s.slots (noteCancelled switch s.holds scene)).1
    Uncut switch s.slots vs ∧
      ∃ report t, dispatch (ε := Fault) switch (s, scene) = (.ok report, t) ∧
        report.boardFault? = Ended.first? (vs.flatMap (Visit.ended switch)) ∧
        scene.Calls (vs.flatMap (Visit.ended switch)) t.2 := by
  intro vs
  obtain ⟨honward, hdown⟩ := visits_end switch s.slots (noteCancelled switch s.holds scene)
  have hall : ∀ v ∈ vs, v.endings.length = (immediate switch v.found.mode).length :=
    fun v hv => (visits_endings switch s.slots _ v hv).1
  refine ⟨⟨visits_found switch s.slots _, fun v hv => v.sites_ended (hall v hv),
    fun v hv hstop => ?_, fun h => ?_⟩, _, _, dispatch_eq switch s scene,
    (first?_walk hall).symm, (passes_visits_noted switch s scene).calls ?_⟩
  · have hgo := honward v hv
    rw [v.stops_iff.mpr hstop] at hgo
    exact nomatch hgo
  · obtain ⟨v, hlast, hstops⟩ := hdown h
    exact ⟨v, hlast, v.stops_iff.mp hstops⟩
  · rw [List.map_flatMap, List.map_flatMap]
    refine List.flatMap_congr fun v hv => ?_
    rw [v.sites_ended (hall v hv), Visit.began, List.map_map]
    rfl

end Walk

/-! ### Endings in a tick -/

/-- The scene after a callback has ended: a failure is remarked on. -/
def heard (mode : String) (switch : Option String) (ending : Except FaultReason Verdict)
    (scene : Scene κ) : Scene κ :=
  match ending with
  | .ok _ => scene
  | .error reason => scene.remark .error (HandlerFault.message ⟨mode, switch, reason⟩)

/-- The pass hooks of some modes, with their endings. -/
def hooksEnded : List (Slot σ κ) → Scene κ → List Ended
  | [], _ => []
  | slot :: rest, scene =>
    match Mode.guarded (.hook slot.mode.id .tick) (Mode.runHook .tick) slot.mode scene with
    | (ending, m, scene) =>
      ⟨.hook slot.mode.id .tick, ending⟩ :: hooksEnded rest (heard m.name none ending scene)

/-- The held handlers that are called because they are due, with their endings. -/
def dueEnded : List Obligation → List (Slot σ κ) → Scene κ → List Ended
  | [], _, _ => []
  | o :: rest, slots, scene =>
    match scene.cabinet.switches.find? o.switch, slots.find? fun slot => slot.mode.id = o.mode with
    | some switch, some slot =>
      match Mode.guarded (.handler o.mode o.binding switch.name) (Mode.handle o.binding switch)
          slot.mode scene with
      | (ending, m, scene) =>
        ⟨.handler o.mode o.binding switch.name, ending⟩ ::
          dueEnded rest (replace m slots) (heard m.name (some o.switch) ending scene)
    | _, _ => dueEnded rest slots scene

/-- The callbacks of a tick with their endings: the pass hooks, then what is due. -/
def tickEnded (s : ModeStack σ κ) (scene : Scene κ) : List Ended :=
  match tickModes s.slots { holds := s.holds, faultCount := s.faultCount, scene } with
  | (slots, w) =>
    hooksEnded s.slots scene ++
      match onHolds (ε := Fault) (HoldQueue.takeDue w.scene.now w.scene.cabinet.switches)
          ({ s with slots, faultCount := w.faultCount }, w.scene) with
      | (.ok due, s, scene) => dueEnded due s.slots scene
      | _ => []

theorem sites_hooksEnded (slots : List (Slot σ κ)) (scene : Scene κ) :
    (hooksEnded slots scene).map Ended.site = slots.map fun slot => .hook slot.mode.id .tick := by
  induction slots generalizing scene with
  | nil => rfl
  | cons slot rest ih => exact congrArg (_ :: ·) (ih _)

theorem boardFault?_tickModes (slots : List (Slot σ κ)) (w : Walk κ) :
    (tickModes slots w).2.report.boardFault? =
      w.report.boardFault?.or (Ended.first? (hooksEnded slots w.scene)) := by
  induction slots generalizing w with
  | nil => exact (Option.or_none).symm
  | cons slot rest ih =>
    simp only [tickModes, hooksEnded]
    generalize Mode.guarded (.hook slot.mode.id .tick) (Mode.runHook .tick) slot.mode w.scene = g
    obtain ⟨ending, m, scene⟩ := g
    cases ending with
    | ok _ => exact ih _
    | error reason =>
      refine (ih _).trans ?_
      rw [Ended.first?_cons, ← Option.or_assoc]
      exact congrArg (Option.or · _) (Report.boardFault?_fail _ _)

/-- The handlers called are those that the look has found due. The first fault of the board in which
one ended is reported. -/
theorem dueEnded_spec (due : List Obligation) (slots : List (Slot σ κ)) (w : Walk κ) :
    (dueEnded due slots w.scene).map Ended.site =
        (due.filterMap (called w.scene.cabinet.switches (idsOf slots) w.scene)).map Prod.fst ∧
      (fireDue due slots w).2.report.boardFault? =
        w.report.boardFault?.or (Ended.first? (dueEnded due slots w.scene)) := by
  induction due generalizing slots w with
  | nil => exact ⟨rfl, (Option.or_none).symm⟩
  | cons o rest ih =>
    cases hsw : w.scene.cabinet.switches.find? o.switch with
    | none =>
      have hcalled : called w.scene.cabinet.switches (idsOf slots) w.scene o = none := by
        simp only [called, hsw]
      simp only [dueEnded, fireDue, hsw, List.filterMap_cons, hcalled]
      exact ih slots w
    | some switch =>
      cases hslot : slots.find? fun slot => slot.mode.id = o.mode with
      | none =>
        have hnot : o.mode ∉ idsOf slots := by
          rw [← find?_isSome_iff, hslot]
          exact Bool.false_ne_true
        have hcalled : called w.scene.cabinet.switches (idsOf slots) w.scene o = none := by
          simp only [called, hsw, hnot, if_false]
        simp only [dueEnded, fireDue, hsw, hslot, List.filterMap_cons, hcalled]
        exact ih slots w
      | some slot =>
        have hin : o.mode ∈ idsOf slots := find?_isSome_iff.mp (by rw [hslot]; rfl)
        have hid := id_of_find? hslot
        have hcalled : called w.scene.cabinet.switches (idsOf slots) w.scene o =
            some (.handler o.mode o.binding switch.name, w.scene.glimpseOf o.mode) := by
          simp only [called, hsw, hin, if_true]
        have hfix := Mode.fixed_guarded (Mode.plays_handle o.binding switch)
          (.handler o.mode o.binding switch.name) slot.mode w.scene
        have hpass := Mode.passes_guarded (Mode.plays_handle o.binding switch)
          (.handler o.mode o.binding switch.name) slot.mode w.scene
        simp only [dueEnded, fireDue, hsw, hslot, List.filterMap_cons, hcalled]
        generalize Mode.guarded (.handler o.mode o.binding switch.name)
          (Mode.handle o.binding switch) slot.mode w.scene = g at hfix hpass ⊢
        obtain ⟨ending, m, scene⟩ := g
        have hline : lineup (replace m slots) = lineup slots := by
          refine lineup_replace ?_ hfix
          rwa [Mode.id_eq_of_fixed hfix, hid]
        have later (w' : Walk κ) {began : List (CallbackSite × Glimpse)}
            (hw : w.scene.Passes began w'.scene) :
            (dueEnded rest (replace m slots) w'.scene).map Ended.site =
              (rest.filterMap (called w.scene.cabinet.switches (idsOf slots) w.scene)).map
                Prod.fst := by
          have hsame : called w'.scene.cabinet.switches (idsOf (replace m slots)) w'.scene =
              called w.scene.cabinet.switches (idsOf slots) w.scene := by
            funext p
            simp only [called, hw.switches, idsOf_eq_of_lineup hline, hw.glimpseOf]
          rw [(ih (replace m slots) w').1, hsame]
        cases ending with
        | ok _ =>
          refine ⟨congrArg (_ :: ·) (later { w with scene } hpass), ?_⟩
          exact (ih (replace m slots) _).2
        | error reason =>
          have hremark := hpass.trans (Scene.passes_remark .error
            (HandlerFault.message ⟨m.name, some o.switch, reason⟩) scene)
          refine ⟨congrArg (_ :: ·) (later { w with scene := scene.remark .error _ } hremark), ?_⟩
          refine (ih (replace m slots) _).2.trans ?_
          rw [Ended.first?_cons, ← Option.or_assoc]
          exact congrArg (Option.or · _) (Report.boardFault?_fail _ _)

/-- A tick that does not panic calls every pass hook and then what is due. It reports the first
fault of the board in which one of them ended. -/
theorem tick_ended {s : ModeStack σ κ} {scene : Scene κ} {report : Report}
    {t : ModeStack σ κ × Scene κ} (ticked : tick (ε := Fault) (s, scene) = (.ok report, t)) :
    (tickEnded s scene).map Ended.site =
        (s.slots.map fun slot => .hook slot.mode.id .tick) ++
          ((s.holds.due scene.now scene.cabinet.switches).filterMap
            (called scene.cabinet.switches (idsOf s.slots) scene)).map Prod.fst ∧
      report.boardFault? = Ended.first? (tickEnded s scene) := by
  obtain ⟨hline, -, hpass⟩ :=
    tickModes_spec s.slots { holds := s.holds, faultCount := s.faultCount, scene }
  have hhooks := boardFault?_tickModes s.slots
    { holds := s.holds, faultCount := s.faultCount, scene }
  rw [tick_eq] at ticked
  simp only [tickEnded]
  generalize tickModes s.slots { holds := s.holds, faultCount := s.faultCount, scene } = g
    at ticked hline hpass hhooks ⊢
  obtain ⟨slots, w⟩ := g
  dsimp only at ticked hline hpass hhooks ⊢
  have hnow : w.scene.now = scene.now := hpass.now
  have hstore : w.scene.cabinet.switches = scene.cabinet.switches := hpass.switches
  rw [hnow, hstore] at ticked ⊢
  rcases HoldQueue.takeDue_cases (ε := Fault) scene.now scene.cabinet.switches s.holds
    w.scene.cabinet.bench with htake | ⟨q, b, htake, -, hstarts⟩
  · simp only [onHolds, Act.zoom, htake] at ticked
    cases ticked
  · simp only [onHolds, Act.zoom, htake] at ticked ⊢
    cases ticked
    let looked : Scene κ := { w.scene with cabinet := { w.scene.cabinet with bench := b } }
    have hlook : scene.Passes (hooksOf s.slots scene) looked :=
      { hpass with starts := hstarts.trans hpass.starts }
    obtain ⟨hsites, hfault⟩ := dueEnded_spec (s.holds.due scene.now scene.cabinet.switches) slots
      { holds := q, faultCount := w.faultCount, report := w.report, scene := looked }
    have hcalled : called looked.cabinet.switches (idsOf slots) looked =
        called scene.cabinet.switches (idsOf s.slots) scene := by
      funext o
      simp only [called, hlook.switches, idsOf_eq_of_lineup hline, hlook.glimpseOf]
    refine ⟨?_, ?_⟩
    · rw [List.map_append, sites_hooksEnded, ← hcalled]
      exact congrArg _ hsites
    · rw [Ended.first?_append]
      refine hfault.trans ?_
      rw [hhooks]
      exact congrArg (Option.or · _) Option.none_or

end ModeStack

/-! ### Settling -/

namespace Engine
variable {σ κ : Type}

/-- All the settling in a scene. If doing what was asked for fails, what has been asked for since is
done too, and the first failure stands. -/
def settleFully : Step σ κ Unit := fun s =>
  match settle s with
  | (.error f, t) =>
    match settle t with
    | (.panic message, u) => (.panic message, u)
    | (_, u) => (.error f, u)
  | settled => settled

theorem settle_of_settleFully {s t : Engine σ κ × Scene κ} (h : settleFully s = (.ok (), t)) :
    settle s = (.ok (), t) := by
  simp only [settleFully] at h
  split at h
  · split at h <;> cases h
  · exact h

/-- What the stack reports of a walk or a tick, and the scene that it leaves, is that of the
engine. -/
theorem onStack_ran {x : Act Fault (ModeStack σ κ × Scene κ) Report} {e : Engine σ κ}
    {scene : Scene κ} {report : Report} {t : ModeStack σ κ × Scene κ}
    (ran : x (e.stack, scene) = (.ok report, t)) :
    (onStack x >>= fun report => record report >>= fun _ => pure report : Step σ κ Report)
        (e, scene) =
      (.ok report,
        { e with
          stack := t.1
          stats := { e.stats with
            handlerFaults := e.stats.handlerFaults + report.faults.length } }, t.2) := by
  have hstack : (onStack x : Step σ κ Report) (e, scene) =
      (.ok report, { e with stack := t.1 }, t.2) := by
    simp only [onStack, Act.zoom, ran]
  exact Act.bind_ok hstack

/-- A fault that ends all the settling was met in it. -/
theorem tells_settleFully : Scene.Tells some (settleFully : Step σ κ Unit) := by
  have hsettle := tells_settle (σ := σ) (κ := κ)
  have hboth (s : Engine σ κ × Scene κ) :
      s.2.cabinet.bench.Extends (settleFully s).2.2.cabinet.bench ∧
        ∀ f, (settleFully s).1 = .error f →
          s.2.cabinet.bench.MeetsFault f (settleFully s).2.2.cabinet.bench := by
    have hgrows := hsettle.grows s
    simp only [settleFully]
    split
    · rename_i f t hfirst
      have hmet := hsettle.met hfirst (rfl : some f = some f)
      have hagain := hsettle.grows t
      rw [hfirst] at hgrows
      split <;> rename_i u hu <;> rw [hu] at hagain
      · exact ⟨Composes.trans (R := Bench.Extends) hgrows hagain, fun _ h => nomatch h⟩
      · refine ⟨Composes.trans (R := Bench.Extends) hgrows hagain, fun g hg => ?_⟩
        cases hg
        exact hmet.grow hagain
    · exact ⟨hgrows, fun f hf => hsettle.met (Prod.ext hf rfl) rfl⟩
  exact .of_ending (fun s => (hboth s).1) fun s => (hboth s).2

theorem struck_settleFully : (settleFully : Step σ κ Unit).PanicsIn Struck := by
  intro s message t h
  simp only [settleFully] at h
  split at h
  · split at h <;> rename_i hagain <;> cases h
    exact struck_settle hagain
  · exact struck_settle h

end Engine

namespace Machine
variable {σ κ : Type}

/-- After callbacks have run, what was asked for is done. Then the operation fails just if that
failed, and with the same fault, or if a callback ended in a fault of the board, and with the first
such fault. What was asked for fails only with a fault that was met while it was done: a call to the
board failed with it, or a callback ended in it. The operation panics only if the board panicked
while that was done. -/
structure Escalates (calls : List Ended) (s : Engine σ κ × Scene κ) (m : Machine σ κ)
    (result : Outcome Fault Unit × Machine σ κ) : Prop where
  state : result.2 = { m with
    engine := (Engine.settleFully s).2.1, cabinet := (Engine.settleFully s).2.2.cabinet }
  settled : (Engine.settleFully s).1 = .ok () →
    ∃ asked served dropped, Engine.Settled s (Engine.settleFully s).2 asked served dropped
  met : ∀ f, (Engine.settleFully s).1 = .error f →
    s.2.cabinet.bench.MeetsFault f (Engine.settleFully s).2.2.cabinet.bench
  error_iff : ∀ f, result.1 = .error f ↔
    (Engine.settleFully s).1 = .error f ∨
      (Engine.settleFully s).1 = .ok () ∧ Ended.first? calls = some f
  ok_iff : result.1 = .ok () ↔ (Engine.settleFully s).1 = .ok () ∧ Ended.first? calls = none
  panic_iff : ∀ message, result.1 = .panic message ↔ (Engine.settleFully s).1 = .panic message
  struck : ∀ message, result.1 = .panic message → result.2.Struck

variable {m : Machine σ κ} {now : Span} {opening : Engine.Step σ κ Report} {report : Report}
  {s : Engine σ κ × Scene κ}

/-- Once what was asked for is done, the second settling of a scene finds nothing; otherwise it is
the rest of the first one. -/
theorem inContext_settleFully (ran : opening (m.engine, m.scene now) = (.ok report, s)) :
    inContext now (opening >>= fun report => Engine.settle >>= fun _ => .finish report.check) m =
      (match (Engine.settleFully s).1 with
        | .ok () => report.check
        | failed => failed,
        { m with
          engine := (Engine.settleFully s).2.1
          cabinet := (Engine.settleFully s).2.2.cabinet }) := by
  rcases hsettle : Engine.settle s with ⟨settled, t⟩
  cases settled with
  | ok _ =>
    obtain ⟨_, _, _, hsettled⟩ := Engine.settle_settled hsettle
    have hbody : (opening >>= fun report => Engine.settle >>= fun _ => .finish report.check :
        Engine.Step σ κ Unit) (m.engine, m.scene now) = (report.check, t) :=
      (Act.bind_ok ran).trans (Act.bind_ok hsettle)
    have hagain : Engine.settle t = (.ok (), t) := Engine.settle_idle hsettled.none_left
    cases hcheck : report.check with
    | panic message =>
      simp only [Report.check] at hcheck
      split at hcheck <;> cases hcheck
    | ok _ => simp only [inContext, hbody, Engine.settleFully, hsettle, hcheck, hagain]
    | error f => simp only [inContext, hbody, Engine.settleFully, hsettle, hcheck, hagain]
  | error f =>
    have hbody : (opening >>= fun report => Engine.settle >>= fun _ => .finish report.check :
        Engine.Step σ κ Unit) (m.engine, m.scene now) = (.error f, t) :=
      (Act.bind_ok ran).trans (Act.bind_error hsettle)
    simp only [inContext, hbody, Engine.settleFully, hsettle]
    rcases Engine.settle t with ⟨again, u⟩
    cases again <;> rfl
  | panic message =>
    have hbody : (opening >>= fun report => Engine.settle >>= fun _ => .finish report.check :
        Engine.Step σ κ Unit) (m.engine, m.scene now) = (.panic message, t) :=
      (Act.bind_ok ran).trans (Act.bind_panic hsettle)
    simp only [inContext, hbody, Engine.settleFully, hsettle]

theorem escalates_inContext {calls : List Ended}
    (ran : opening (m.engine, m.scene now) = (.ok report, s))
    (first : report.boardFault? = Ended.first? calls) :
    Escalates calls s m (inContext now
      (opening >>= fun report => Engine.settle >>= fun _ => .finish report.check) m) := by
  have hstruck (message : String) (h : (Engine.settleFully s).1 = .panic message) :
      (Engine.settleFully s).2.2.cabinet.bench.Struck :=
    Engine.struck_settleFully (Prod.ext h rfl)
  have hserved (h : (Engine.settleFully s).1 = .ok ()) :=
    Engine.settle_settled
      (Engine.settle_of_settleFully (t := (Engine.settleFully s).2) (Prod.ext h rfl))
  have hmet (f : Fault) (h : (Engine.settleFully s).1 = .error f) :
      s.2.cabinet.bench.MeetsFault f (Engine.settleFully s).2.2.cabinet.bench :=
    Engine.tells_settleFully.met (Prod.ext h rfl) rfl
  rw [inContext_settleFully ran, Report.check, first]
  cases hsettled : (Engine.settleFully s).1 with
  | ok _ =>
    refine ⟨rfl, hserved, hmet, ?_, ?_, ?_, ?_⟩ <;> cases Ended.first? calls <;> simp [hsettled]
  | error f => refine ⟨rfl, hserved, hmet, ?_, ?_, ?_, ?_⟩ <;> simp [hsettled]
  | panic message =>
    refine ⟨rfl, hserved, hmet, ?_, ?_, ?_, fun _ _ => hstruck message hsettled⟩ <;> simp [hsettled]

/-! ### Changes of level -/

/-- The scene in which a switch that has changed its level is handed down the stack. -/
def walkScene (m : Machine σ κ) (number : Nat) (old : Switch) (closed : Bool) (now : Span) :
    Scene κ :=
  ((m.noted number closed now).scene now).remark .debug
    (changeText (SwitchStore.reported old closed now))

/-- The modes that the walk comes to, each with the endings of its handlers. -/
def walkVisits (m : Machine σ κ) (number : Nat) (old : Switch) (closed : Bool) (now : Span) :
    List (ModeStack.Visit σ κ) :=
  (ModeStack.visits (SwitchStore.reported old closed now) m.engine.stack.slots
    (ModeStack.noteCancelled (SwitchStore.reported old closed now) m.engine.stack.holds
      (m.walkScene number old closed now))).1

/-- The handlers that the walk calls, with their endings. -/
def walkEnded (m : Machine σ κ) (number : Nat) (old : Switch) (closed : Bool) (now : Span) :
    List Ended :=
  (m.walkVisits number old closed now).flatMap
    (ModeStack.Visit.ended (SwitchStore.reported old closed now))

/-- Where the walk leads. What was asked for in it is not done yet. -/
def walked (m : Machine σ κ) (number : Nat) (old : Switch) (closed : Bool) (now : Span) :
    Engine σ κ × Scene κ :=
  (Engine.walkDown (SwitchStore.reported old closed now)
    ((m.noted number closed now).engine, m.walkScene number old closed now)).2

theorem escalates_change {number : Nat} {old : Switch} {closed : Bool}
    (found : m.cabinet.switches.get? number = some old) (changed : old.closed ≠ closed)
    (now : Span) :
    ModeStack.Uncut (SwitchStore.reported old closed now) m.engine.stack.slots
        (m.walkVisits number old closed now) ∧
      (m.walkScene number old closed now).Calls (m.walkEnded number old closed now)
        (m.walked number old closed now).2 ∧
      Escalates (m.walkEnded number old closed now) (m.walked number old closed now)
        (m.noted number closed now) (switchChanged number closed now m) := by
  let switch := SwitchStore.reported old closed now
  let noted := m.noted number closed now
  let scene := m.walkScene number old closed now
  obtain ⟨huncut, report, t, hdispatch, hfirst, hcalls⟩ :=
    ModeStack.dispatch_uncut switch m.engine.stack scene
  have hwalk := Engine.onStack_ran (e := { noted.engine with stats :=
    { noted.engine.stats with dispatches := noted.engine.stats.dispatches + 1 } }) hdispatch
  have hending : (Engine.walkDown switch (noted.engine, scene)).1 = .ok report :=
    congrArg Prod.fst hwalk
  have hscene : (m.walked number old closed now).2 = t.2 := congrArg (fun ran => ran.2.2) hwalk
  have hran : (Engine.log .debug (changeText switch) >>= fun _ => Engine.walkDown switch :
      Engine.Step σ κ Report) (noted.engine, noted.scene now) =
      (.ok report, m.walked number old closed now) := Prod.ext hending rfl
  have hhanded : switchChanged number closed now m = inContext now
      ((Engine.log .debug (changeText switch) >>= fun _ => Engine.walkDown switch) >>=
        fun report => Engine.settle >>= fun _ => .finish report.check) noted := by
    rw [switchChanged_change found changed]
    refine inContext_congr ?_
    rw [handDown_eq (noted.scene now) (SwitchStore.get?_report found changed), Engine.dispatch_eq,
      Act.bind_assoc]
  refine ⟨huncut, hscene ▸ hcalls, ?_⟩
  rw [hhanded]
  exact escalates_inContext hran hfirst

/-! ### Ticks -/

/-- The callbacks that a tick calls, with their endings. -/
def tickEnded (m : Machine σ κ) (now : Span) : List Ended :=
  m.engine.stack.tickEnded (m.scene now)

/-- The pass hooks of all modes, and the held handlers that are due. -/
def tickSites (m : Machine σ κ) (now : Span) : List CallbackSite :=
  (m.engine.stack.slots.map fun slot => .hook slot.mode.id .tick) ++
    (m.engine.stack.holds.due now m.cabinet.switches).map
      fun o => .handler o.mode o.binding o.switch

theorem Sound.escalates_tick (h : m.Sound) (now : Span)
    (intime : ¬ m.engine.stack.holds.Overflows m.cabinet.switches) :
    (m.tickEnded now).map Ended.site = m.tickSites now ∧
      (m.scene now).Calls (m.tickEnded now) (m.ticked now).2 ∧
      Escalates (m.tickEnded now) (m.ticked now) m (inContext now Engine.tick m) := by
  obtain ⟨s', scene', -, -, ⟨hpanic, -, -⟩ | ⟨⟨report, hok⟩, -, hpass⟩⟩ :=
    h.stack.tick_cases (ε := Fault) h.coherent (m.scene now) rfl
  · refine absurd ((ModeStack.tick_panics_iff (ε := Fault) _ (m.scene now)).mp ?_) intime
    exact ⟨_, congrArg Prod.fst hpanic⟩
  · obtain ⟨hsites, hfirst⟩ := ModeStack.tick_ended hok
    have hstarts := h.stack.filterMap_called h.coherent (m.scene now) now
    have hall : (m.tickEnded now).map Ended.site = m.tickSites now := by
      refine hsites.trans (congrArg _ ?_)
      refine (congrArg (List.map Prod.fst) hstarts).trans ?_
      rw [List.map_map]
      rfl
    have htick := Engine.onStack_ran (e := m.engine) hok
    have hscene : (m.ticked now).2 = scene' := congrArg (fun ran => ran.2.2) htick
    have hran : Engine.passOnce (m.engine, m.scene now) = (.ok report, m.ticked now) :=
      Prod.ext (congrArg (fun ran => ran.1) htick) rfl
    refine ⟨hall, hscene ▸ hpass.calls ?_, ?_⟩
    · rw [hall, tickSites, List.map_append, List.map_map, ModeStack.hooksOf, List.map_map,
        ModeStack.idsOf, List.map_map]
      rfl
    · rw [Engine.tick_eq]
      exact escalates_inContext hran hfirst

/-- A held handler that waits is due once its deadline has come. -/
theorem Sound.mem_tickSites (h : m.Sound) {o : Obligation} (waits : o ∈ m.waiting)
    (late : o.deadlineNanos ≤ now.nanos) :
    .handler o.mode o.binding o.switch ∈ m.tickSites now := by
  have hdue : o ∈ m.engine.stack.holds.due now m.cabinet.switches :=
    (h.stack.due_perm now).mem_iff.mpr (List.mem_filter.mpr ⟨waits, decide_eq_true late⟩)
  exact List.mem_append_right _ (List.mem_map_of_mem hdue)

/-- A tick that fails has not met a deadline past the last time there is, and its failure ends the
pass. -/
theorem step_of_tick_error {f : Fault} {n t : Machine σ κ} (before : front m = (.ok now, n))
    (failed : inContext now Engine.tick n = (.error f, t)) :
    ¬ n.engine.stack.holds.Overflows n.cabinet.switches ∧ step m = (.error f, t) := by
  constructor
  · intro hover
    obtain ⟨message, t', hpanic⟩ := tick_panics_of_overflows now hover
    rw [failed] at hpanic
    cases hpanic
  · rw [step_eq_front, Act.bind_ok before]
    exact Act.bind_error failed

/-- Faults of the board escalate after the walk. When a switch changes its level, no failure cuts
the walk short, then what was asked for is done, and then the operation fails if that did or if a
handler ended in a fault of the board. The same holds of the tick of a pass: all pass hooks and all
that is due are called first. A tick that fails is the last thing in its pass. -/
theorem board_faults_escalate {m₀ : Machine σ κ} (built : m₀.Built) (ops : List (Operation σ κ)) :
    let m := (performAll ops m₀).2
    (∀ (e : Event) (closed : Bool) (old : Switch), e.kind.level? = some closed →
      m.cabinet.switches.get? e.value = some old → old.closed ≠ closed →
      ModeStack.Uncut (SwitchStore.reported old closed m.now) m.engine.stack.slots
          (m.walkVisits e.value old closed m.now) ∧
        (m.walkScene e.value old closed m.now).Calls (m.walkEnded e.value old closed m.now)
          (m.walked e.value old closed m.now).2 ∧
        Escalates (m.walkEnded e.value old closed m.now) (m.walked e.value old closed m.now)
          (m.noted e.value closed m.now) (processEvent e m)) ∧
    ∀ now n, front m = (.ok now, n) →
      (¬ n.engine.stack.holds.Overflows n.cabinet.switches →
        (∀ slot ∈ n.engine.stack.slots, .hook slot.mode.id .tick ∈ n.tickSites now) ∧
        (∀ o ∈ n.waiting, o.deadlineNanos ≤ now.nanos →
          .handler o.mode o.binding o.switch ∈ n.tickSites now) ∧
        (n.tickEnded now).map Ended.site = n.tickSites now ∧
        (n.scene now).Calls (n.tickEnded now) (n.ticked now).2 ∧
        Escalates (n.tickEnded now) (n.ticked now) n (inContext now Engine.tick n)) ∧
      ∀ f t, inContext now Engine.tick n = (.error f, t) →
        ¬ n.engine.stack.holds.Overflows n.cabinet.switches ∧ step m = (.error f, t) := by
  intro m
  have hsound : m.Sound := built.sound_performAll ops
  refine ⟨fun e closed old level found changed => ?_, fun now n before =>
    ⟨fun intime => ?_, fun f t => step_of_tick_error before⟩⟩
  · have hevent : processEvent e m = switchChanged e.value closed m.now m := by
      have hhandle : processEvent e m = handleEvent e m.now m := rfl
      simp only [hhandle, handleEvent, level]
    rw [hevent]
    exact escalates_change found changed m.now
  · have hn : n.Sound := by
      have hs := hsound.front
      rwa [before] at hs
    exact ⟨fun slot hslot => List.mem_append_left _ (List.mem_map_of_mem hslot),
      fun o => hn.mem_tickSites, hn.escalates_tick now intime⟩

/-- A keeper of the gate whose handler and whose pass hook end in faults of the board. -/
def faultingKeeper : Mode Unit Unit :=
  Mode.on { partingKeeper .idle with
      hook := fun h _ => if h = .tick then .done (.error (.board .closed)) else .idle }
    "gate" .closed none fun _ _ => .done (.error (.board (.unresponsive "gate")))

/-- The faults of the keeper's handler and of its pass hook are answered. -/
theorem faulty_keeper_escalates :
    ∃ (m₀ : Machine Unit Unit) (ops : List (Operation Unit Unit)), m₀.Built ∧
      let m := (performAll ops m₀).2
      (m.cabinet.switches.get? 7).map Switch.closed = some false ∧
        (processEvent ⟨.switchClosedDebounced, 7⟩ m).1 = .error (.unresponsive "gate") ∧
        (step m).1 = .error .closed := by
  let ops : List (Operation Unit Unit) := [.addMode faultingKeeper]
  let old : Switch := { number := 7, name := "gate" }
  obtain ⟨m₀, built, found, hwalk, hfirst, hfront, hnone, htick, hclosed⟩ := exists_gateMachine
    (P := fun m₀ =>
      let m := (performAll ops m₀).2
      m.cabinet.switches.get? 7 = some old ∧
        (Engine.settleFully (m.walked 7 old true m.now)).1 = .ok () ∧
        Ended.first? (m.walkEnded 7 old true m.now) = some (.unresponsive "gate") ∧
        (front m).1 = .ok m.now ∧ (front m).2.waiting = [] ∧
        (Engine.settleFully ((front m).2.ticked m.now)).1 = .ok () ∧
        Ended.first? ((front m).2.tickEnded m.now) = some .closed)
    {} (by decide +kernel)
  let m := (performAll ops m₀).2
  obtain ⟨hevent, hpass⟩ := board_faults_escalate built ops
  obtain ⟨-, -, hescalates⟩ :=
    hevent ⟨.switchClosedDebounced, 7⟩ true old rfl found Bool.false_ne_true
  obtain ⟨hticks, hends⟩ := hpass m.now (front m).2 (Prod.ext hfront rfl)
  have intime : ¬ (front m).2.engine.stack.holds.Overflows (front m).2.cabinet.switches := by
    rintro ⟨o, ho, -⟩
    have hwaits : o ∈ (front m).2.waiting := ho
    rw [hnone] at hwaits
    exact nomatch hwaits
  obtain ⟨-, -, -, -, hfails⟩ := hticks intime
  have hfailed := (hfails.error_iff .closed).mpr (.inr ⟨htick, hclosed⟩)
  obtain ⟨-, hstep⟩ := hends .closed _ (Prod.ext hfailed rfl)
  exact ⟨m₀, ops, built, congrArg (Option.map Switch.closed) found,
    (hescalates.error_iff _).mpr (.inr ⟨hwalk, hfirst⟩), congrArg Prod.fst hstep⟩

/-- A mode that asks for the flippers when its switch closes. -/
def flipperKeeper : Mode Unit Unit :=
  (partingKeeper .idle).on "left" .closed none fun _ _ => .ask (.flippers true) .idle

/-- An event need not end well although neither its callbacks nor what they asked for met a fault of
the board: the board panics as the flippers are turned on. -/
theorem panicking_rules_escape :
    ¬ ∀ (m₀ : Machine Unit Unit), m₀.Built →
      ∀ (ops : List (Operation Unit Unit)) (e : Event) (closed : Bool) (old : Switch),
        let m := (performAll ops m₀).2
        e.kind.level? = some closed → m.cabinet.switches.get? e.value = some old →
        old.closed ≠ closed →
        Ended.first? (m.walkEnded e.value old closed m.now) = none →
        (∀ f, (Engine.settleFully (m.walked e.value old closed m.now)).1 ≠ .error f) →
        (processEvent e m).1 = .ok () := by
  intro hall
  let ops : List (Operation Unit Unit) :=
    [.addMode flipperKeeper, .bench (.plan 0 (.panic "board gone"))]
  let old : Switch := { number := 9, name := "left" }
  obtain ⟨m₀, hbuild, found, hfirst, hsettled, hevent⟩ := exists_of_seen
    (x := build flipperTable {} {} () (fun _ _ => .idle) fun (_ : Unit) _ => flipperKeeper)
    (P := fun m₀ =>
      let m := (performAll ops m₀).2
      m.cabinet.switches.get? 9 = some old ∧
        Ended.first? (m.walkEnded 9 old true m.now) = none ∧
        (Engine.settleFully (m.walked 9 old true m.now)).1 = .panic "board gone" ∧
        (processEvent ⟨.switchClosedDebounced, 9⟩ m).1 = .panic "board gone")
    (by decide +kernel)
  have built : m₀.Built := ⟨_, _, _, _, _, _, hbuild⟩
  have hok := hall m₀ built ops ⟨.switchClosedDebounced, 9⟩ true old rfl found Bool.false_ne_true
    hfirst (fun f hf => nomatch hsettled.symm.trans hf)
  exact nomatch hevent.symm.trans hok

end Machine

end Playfield
