import Playfield.Proofs.Budget

/-!
# Held handlers over whole runs

A machine that has been built is sound, and every stage of every call keeps it so, whatever the
callbacks do and the board does. From this follows what holds for every run: a held handler waits
and fires only while its condition lasts, it fires once for each time its switch reaches the
condition, and no tick misses one that is due.
-/
namespace Playfield

namespace Machine
variable {σ κ : Type}

/-- The machine has just been built. -/
def Built (m : Machine σ κ) : Prop :=
  ∃ (c : TableConfig) (settings : LoopSettings) (cabinet : Cabinet) (memory : σ)
    (hook : GameHook → σ → Callback σ κ) (catalogue : κ → ModeId → Mode σ κ),
    build c settings cabinet memory hook catalogue = .ok m

/-- A sequence of checks that goes well got there from its first part. -/
theorem exists_of_bind {ε α β : Type} {x : Except ε α} {f : α → Except ε β} {b : β}
    (h : (x >>= f) = .ok b) : ∃ a, x = .ok a ∧ f a = .ok b := by
  cases x with
  | error e => exact nomatch h
  | ok a => exact ⟨a, rfl, h⟩

theorem coherent_switchStore {c : TableConfig} {store : SwitchStore}
    (h : c.switchStore = .ok store) : store.Coherent := by
  have hall := TableConfig.coherent_registerAll (c.switches.map SwitchEntry.toSwitch)
    Registry.Coherent.empty
  simp only [TableConfig.switchStore] at h
  split at h <;> rename_i hr
  · rw [hr] at hall
    cases h
    exact hall
  · cases h

/-- No held handler waits in a new machine. -/
theorem Built.sound {m : Machine σ κ} (h : m.Built) : m.Sound := by
  obtain ⟨c, settings, cabinet, memory, hook, catalogue, hbuild⟩ := h
  obtain ⟨_, -, hassemble⟩ := exists_of_bind hbuild
  obtain ⟨switches, hswitches, hrest⟩ := exists_of_bind hassemble
  obtain ⟨drivers, -, hrest⟩ := exists_of_bind hrest
  obtain ⟨rules, -, hrest⟩ := exists_of_bind hrest
  cases hrest
  exact ⟨coherent_switchStore hswitches, ModeStack.sound_empty _ _⟩

/-- A table with one switch and nothing else. -/
def gateTable : TableConfig where
  machineType := .wpc
  switches := [{ name := "gate", number := 7 }]

/-- A mode that waits for the gate to stay closed for a while, and has a pass hook. -/
def gateKeeper (hold : Span) (onTick : Callback Unit Unit) : Mode Unit Unit :=
  Mode.on {
      id := ⟨0⟩, name := "keeper", priority := 1, memory := ()
      hook := fun h _ => if h = .tick then onTick else .idle }
    "gate" .closed (some hold) fun _ _ => .idle

/-- A mode that does something as it leaves. -/
def partingKeeper (last : Callback Unit Unit) : Mode Unit Unit where
  id := ⟨0⟩
  name := "keeper"
  priority := 1
  memory := ()
  hook := fun h _ => if h = .stopped then last else .idle

/-- The machine of that table, switched on at some time. -/
def gateMachine (clock : Clock) : Except (List Problem) (Machine Unit Unit) :=
  build gateTable {} { clock } () (fun _ _ => .idle) fun _ _ => gateKeeper .zero .idle

/-- What can be seen of the machine of that table holds of a machine that has been built. -/
theorem exists_gateMachine {P : Machine Unit Unit → Prop} [DecidablePred P] (clock : Clock)
    (seen : (gateMachine clock).map (fun m => decide (P m)) = .ok true) : ∃ m, m.Built ∧ P m := by
  rcases hbuild : gateMachine clock with problems | m
  · rw [hbuild] at seen
    exact nomatch seen
  · rw [hbuild] at seen
    refine ⟨m, ⟨_, _, _, _, _, _, hbuild⟩, ?_⟩
    exact of_decide_eq_true (Except.ok.inj seen)

theorem Sound.afterStages {m : Machine σ κ} (h : m.Sound) (stages : List (Stage σ κ)) :
    (m.afterStages stages).Sound := by
  induction stages generalizing m with
  | nil => exact h
  | cons st rest ih => exact ih (st.moves h).2

/-- A handler of a live mode began at a time when its switch had met the condition of its binding
for as long as the binding says. The switch is taken from the machine after the stage: callbacks
change no switch. -/
def Justified (m m' : Machine σ κ) (start : CallbackSite × Glimpse) : Prop :=
  ∃ slot ∈ m.engine.stack.slots, ∃ b ∈ slot.mode.allBindings, ∃ switch,
    start.1 = .handler slot.mode.id b.number b.switch ∧
    m'.cabinet.switches.find? b.switch = some switch ∧ b.condition.holds switch = true ∧
    ∀ hold, b.hold = some hold → hold ≤ switch.heldFor start.2.now

variable {m m' : Machine σ κ}

/-- Whatever handlers begin in a move, they begin justly. -/
theorem Moves.justified (h : m.Sound) (move : m.Moves m') :
    ∃ begun, m'.handlerStarts = m.handlerStarts ++ begun ∧
      ∀ start ∈ begun, m.Justified m' start := by
  cases move with
  | quiet _ handlers _ =>
    exact ⟨[], handlers.trans (List.append_nil _).symm, fun _ hstart => nomatch hstart⟩
  | change number old closed scene slots found changed visited switches handlers _ =>
    refine ⟨_, handlers, fun start hstart => ?_⟩
    obtain ⟨slot, hslot, hs⟩ := List.mem_flatMap.mp hstart
    obtain ⟨b, hb, rfl⟩ := List.mem_map.mp hs
    obtain ⟨hmatching, hnone⟩ := List.mem_filter.mp hb
    obtain ⟨hrow, hholds⟩ := List.mem_filter.mp hmatching
    obtain ⟨hall, hname⟩ := Mode.mem_bindings.mp hrow
    refine ⟨slot, visited.sublist.mem hslot, b, hall,
      SwitchStore.reported old closed scene.now, by rw [hname], ?_, hholds, ?_⟩
    · rw [switches, SwitchStore.find?_report h.coherent found changed]
      exact if_pos hname
    · intro hold hhold
      rw [hhold] at hnone
      exact nomatch hnone
  | tick scene switches handlers _ =>
    refine ⟨_, handlers, fun start hstart => ?_⟩
    obtain ⟨o, ho, rfl⟩ := List.mem_map.mp hstart
    obtain ⟨hpending, hdue⟩ := List.mem_filter.mp ((h.stack.due_perm scene.now).mem_iff.mp ho)
    obtain ⟨⟨slot, hslot, hid, hb⟩, switch, hfind, hholds, hsince⟩ := h.stack.backed o hpending
    refine ⟨slot, hslot, _, hb, switch, ?_, ?_, hholds, ?_⟩
    · rw [hid]
      rfl
    · rw [switches]
      exact hfind
    · intro hold hhold
      cases hhold
      have hlate : o.createdAt.nanos + o.hold.nanos ≤ scene.now.nanos := of_decide_eq_true hdue
      change o.hold.nanos ≤ scene.now.nanos - switch.lastChanged.nanos
      rw [hsince]
      omega

/-- In every run of a new machine: at every point between two calls, what waits belongs to a binding
of a live mode, no handler waits twice, and the condition has held since the wait began. The run is
a sequence of stages, and every handler that begins in one of them begins justly: a held handler
neither early, nor after its switch has left the condition, nor for a mode that is gone. -/
theorem held_handlers_justified {m₀ : Machine σ κ} (built : m₀.Built) (calls : List (Call σ κ)) :
    let m := m₀.afterCalls calls
    (ModeStack.idsOf m.engine.stack.slots).Nodup ∧
    (∀ o ∈ m.waiting,
      (∃ slot ∈ m.engine.stack.slots, slot.mode.id = o.mode ∧
        ⟨o.binding, o.switch, o.condition, some o.hold⟩ ∈ slot.mode.allBindings) ∧
      o.hold ≠ .zero ∧
      ∃ switch, m.cabinet.switches.find? o.switch = some switch ∧
        o.condition.holds switch = true ∧ o.createdAt = switch.lastChanged) ∧
    (m.waiting.Pairwise fun o p => (o.mode, o.binding) ≠ (p.mode, p.binding)) ∧
    m = m₀.afterStages (m₀.stagesOf calls) ∧
    ∀ before st after, m₀.stagesOf calls = before ++ st :: after →
      ∃ begun, (st.run (m₀.afterStages before)).handlerStarts =
          (m₀.afterStages before).handlerStarts ++ begun ∧
        ∀ start ∈ begun,
          (m₀.afterStages before).Justified (st.run (m₀.afterStages before)) start := by
  intro m
  have hstages : m = m₀.afterStages (m₀.stagesOf calls) := m₀.afterCalls_eq calls
  have hsound : m.Sound := hstages ▸ built.sound.afterStages _
  refine ⟨hsound.stack.ids, fun o ho => ?_, hsound.stack.distinct, hstages,
    fun before st after _ => ?_⟩
  · obtain ⟨⟨slot, hslot, hid, hb⟩, switch, hfind, hholds, hsince⟩ := hsound.stack.backed o ho
    refine ⟨⟨slot, hslot, hid, hb⟩, ?_, switch, hfind, hholds, hsince.symm⟩
    intro hzero
    exact Mode.hold_ne_zero hb (congrArg some hzero)
  · have hbefore := built.sound.afterStages before
    exact (st.moves hbefore).1.justified hbefore

/-- The keeper's handler waits once the gate has closed, and the gate is closed. -/
theorem gate_waits_justly :
    ∃ (m₀ : Machine Unit Unit) (calls : List (Call Unit Unit)), m₀.Built ∧
      (m₀.afterCalls calls).waiting.length = 1 ∧
      ∀ o ∈ (m₀.afterCalls calls).waiting, ∃ switch,
        (m₀.afterCalls calls).cabinet.switches.find? o.switch = some switch ∧
        o.condition.holds switch = true ∧ o.createdAt = switch.lastChanged := by
  let calls : List (Call Unit Unit) :=
    [.addMode (gateKeeper (.ofMillis 5) .idle), .processEvent ⟨.switchClosedDebounced, 7⟩]
  obtain ⟨m₀, built, hwaits⟩ := exists_gateMachine
    (P := fun m => (m.afterCalls calls).waiting.length = 1) {} (by decide +kernel)
  refine ⟨m₀, calls, built, hwaits, fun o ho => ?_⟩
  exact ((held_handlers_justified built calls).2.1 o ho).2.2

/-! ### Once, and not missed -/

/-- A handler that waits once is found by its key alone. -/
theorem filter_key {pending : List Obligation} (distinct : HoldQueue.Distinct pending)
    {o : Obligation} (ho : o ∈ pending) : (pending.filter fun p => p.key = o.key) = [o] := by
  induction pending with
  | nil => exact nomatch ho
  | cons p rest ih =>
    obtain ⟨hp, hrest⟩ := List.pairwise_cons.mp distinct
    rcases List.mem_cons.mp ho with rfl | ho
    · have hnone : (rest.filter fun p => p.key = o.key) = [] :=
        List.filter_eq_nil_iff.mpr fun q hq => by simpa using (hp q hq).symm
      rw [List.filter_cons_of_pos (by simp), hnone]
    · rw [List.filter_cons_of_neg (by simpa using hp o ho)]
      exact ih hrest ho

/-- A change of level handed down the stack starts one wait for each matching held binding of each
mode visited, and drops what waited on the switch before. -/
theorem Sound.waits_of_change (h : m.Sound) {number : Nat} {old : Switch} {closed : Bool}
    (found : m.cabinet.switches.get? number = some old) (changed : old.closed ≠ closed)
    (scene : Scene κ) {switch : Switch}
    (hswitch : switch = SwitchStore.reported old closed scene.now) {pending : List Obligation}
    (hpending : pending = (ModeStack.dispatch (ε := Fault) switch
      (m.engine.stack, scene)).2.1.holds.pending) :
    pending = (m.waiting.filter fun o => o.switch ≠ old.name) ++
        ModeStack.startedBy switch scene.now (ModeStack.visited switch m.engine.stack scene) ∧
      ∀ slot ∈ ModeStack.visited switch m.engine.stack scene,
        ∀ b ∈ ModeStack.matching switch slot.mode, ∀ hold, b.hold = some hold →
          (pending.filter fun o => o.key = (slot.mode.id, b.number)) =
            [⟨slot.mode.id, b.number, old.name, b.condition, hold, scene.now⟩] := by
  subst hswitch
  have hall := h.stack.pending_dispatch (ε := Fault) h.coherent found changed scene
  have hsound := h.stack.dispatch (ε := Fault) h.coherent found changed scene
  refine ⟨hpending.trans hall, fun slot hslot b hb hold hhold => ?_⟩
  subst hpending
  have hmem : (⟨slot.mode.id, b.number, old.name, b.condition, hold, scene.now⟩ : Obligation) ∈
      (ModeStack.dispatch (ε := Fault) (SwitchStore.reported old closed scene.now)
        (m.engine.stack, scene)).2.1.holds.pending := by
    rw [hall]
    refine List.mem_append_right _ (List.mem_flatMap.mpr ⟨slot, hslot, ?_⟩)
    exact ModeStack.mem_waits.mpr ⟨b, hb, hhold, rfl, rfl, rfl, rfl, rfl⟩
  exact filter_key hsound.distinct hmem

/-- While its switch keeps its level, a handler begins only by ceasing to wait. -/
theorem Sound.budget_along (h : m.Sound) (stages : List (Stage σ κ)) (id : ModeId) (number : Nat)
    {name : String} (same : ∀ part, part <+: stages →
      (m.afterStages part).level? name = m.level? name) :
    (m.afterStages stages).timesBegun (.handler id number name) +
        (m.afterStages stages).timesWaiting (.handler id number name) ≤
      m.timesBegun (.handler id number name) + m.timesWaiting (.handler id number name) := by
  induction stages generalizing m with
  | nil => exact Nat.le_refl _
  | cons st rest ih =>
    obtain ⟨move, hnext⟩ := st.moves h
    have hfirst := same [st] (List.cons_prefix_cons.mpr ⟨rfl, List.nil_prefix⟩)
    have hstep := move.budget_same h id number hfirst
    have hrest := ih hnext fun part hpart =>
      (same (st :: part) (List.cons_prefix_cons.mpr ⟨rfl, hpart⟩)).trans hfirst.symm
    exact Nat.le_trans hrest hstep

/-- From a stage on in which a switch may change its level, and as long as it keeps the level it
then has, each of its handlers begins at most once. -/
theorem Sound.begins_once (h : m.Sound) (st : Stage σ κ) (during : List (Stage σ κ))
    (id : ModeId) (number : Nat) {name : String}
    (same : ∀ part, part <+: during →
      (m.afterStages (st :: part)).level? name = (st.run m).level? name) :
    (m.afterStages (st :: during)).timesBegun (.handler id number name) ≤
      m.timesBegun (.handler id number name) + 1 := by
  obtain ⟨move, hnext⟩ := st.moves h
  have hfirst := move.budget h (.handler id number name)
  have hrest := hnext.budget_along during id number same
  exact Nat.le_trans (Nat.le_add_right _ _) (Nat.le_trans hrest hfirst)

/-- A tick that does not panic calls just the handlers that are due, in order of their deadlines
and equal deadlines in order of registration. The others go on waiting. -/
theorem Sound.fires (h : m.Sound) (now : Span)
    (calm : ∀ message, (ModeStack.tick (ε := Fault) (m.engine.stack, m.scene now)).1 ≠
      .panic message) :
    ∃ (fired : List Obligation) (report : Report) (t : ModeStack σ κ) (scene : Scene κ),
      ModeStack.tick (m.engine.stack, m.scene now) =
        ((.ok report, t, scene) : Outcome Fault Report × _) ∧
      fired.Perm (m.waiting.filter fun o => o.deadlineNanos ≤ now.nanos) ∧
      (fired.Pairwise fun o p => o.deadlineNanos ≤ p.deadlineNanos) ∧
      (∀ deadline, (fired.filter fun o => o.deadlineNanos = deadline) =
        (m.waiting.filter fun o => o.deadlineNanos ≤ now.nanos).filter fun o =>
          o.deadlineNanos = deadline) ∧
      scene.handlerStarts = m.handlerStarts ++ fired.map (ModeStack.startOf (m.scene now)) ∧
      (∀ o ∈ fired, ∃ slot ∈ m.engine.stack.slots, slot.mode.id = o.mode ∧
        ∃ handler, slot.mode.handlers[o.binding]? = some handler) ∧
      t.holds.pending = m.waiting.filter fun o => now.nanos < o.deadlineNanos := by
  obtain ⟨t, scene, -, -, hcase⟩ := h.stack.tick_cases (ε := Fault) h.coherent (m.scene now) rfl
  rcases hcase with ⟨hpanic, -⟩ | ⟨⟨report, hok⟩, hpending, hpass⟩
  · rw [hpanic] at calm
    exact absurd rfl (calm _)
  · refine ⟨m.engine.stack.holds.due now m.cabinet.switches, report, t, scene, hok,
      h.stack.due_perm now, HoldQueue.due_pairwise _ _ _, fun deadline => ?_, ?_, fun o ho => ?_,
      hpending⟩
    · rw [HoldQueue.due_stable, h.stack.filter_isDue]
      rfl
    · rw [Scene.handlerStarts_of_starts hpass.starts, List.filter_append, ModeStack.filter_hooksOf,
        ModeStack.filter_map_startOf]
      rfl
    · have hwaits := (List.mem_filter.mp ((h.stack.due_perm now).mem_iff.mp ho)).1
      obtain ⟨⟨slot, hslot, hid, hb⟩, -⟩ := h.stack.backed o hwaits
      exact ⟨slot, hslot, hid, Mode.exists_handler hb⟩

/-- At every point of every run of a new machine: a change of level starts one wait for each
matching held binding of each mode the walk visits; from then on, while the switch keeps its level,
each of its handlers begins at most once; and a tick that does not panic calls every handler that is
due, once and in order, and leaves just those whose deadlines are to come. -/
theorem held_handlers_fire_once {m₀ : Machine σ κ} (built : m₀.Built) (calls : List (Call σ κ)) :
    ∀ before after, m₀.stagesOf calls = before ++ after →
    let m := m₀.afterStages before
    (∀ number old closed (scene : Scene κ), m.cabinet.switches.get? number = some old →
      old.closed ≠ closed →
      let switch := SwitchStore.reported old closed scene.now
      let visited := ModeStack.visited switch m.engine.stack scene
      let pending := (ModeStack.dispatch (ε := Fault) switch
        (m.engine.stack, scene)).2.1.holds.pending
      pending = (m.waiting.filter fun o => o.switch ≠ old.name) ++
          ModeStack.startedBy switch scene.now visited ∧
        ∀ slot ∈ visited, ∀ b ∈ ModeStack.matching switch slot.mode, ∀ hold, b.hold = some hold →
          (pending.filter fun o => o.key = (slot.mode.id, b.number)) =
            [⟨slot.mode.id, b.number, old.name, b.condition, hold, scene.now⟩]) ∧
    (∀ st during rest, after = st :: during ++ rest → ∀ id number name,
      (∀ part, part <+: during →
        (m.afterStages (st :: part)).level? name = (st.run m).level? name) →
      (m.afterStages (st :: during)).timesBegun (.handler id number name) ≤
        m.timesBegun (.handler id number name) + 1) ∧
    ∀ now, (∀ message, (ModeStack.tick (ε := Fault) (m.engine.stack, m.scene now)).1 ≠
        .panic message) →
      ∃ (fired : List Obligation) (report : Report) (t : ModeStack σ κ) (scene : Scene κ),
        ModeStack.tick (m.engine.stack, m.scene now) =
          ((.ok report, t, scene) : Outcome Fault Report × _) ∧
        fired.Perm (m.waiting.filter fun o => o.deadlineNanos ≤ now.nanos) ∧
        (fired.Pairwise fun o p => o.deadlineNanos ≤ p.deadlineNanos) ∧
        (∀ deadline, (fired.filter fun o => o.deadlineNanos = deadline) =
          (m.waiting.filter fun o => o.deadlineNanos ≤ now.nanos).filter fun o =>
            o.deadlineNanos = deadline) ∧
        scene.handlerStarts = m.handlerStarts ++ fired.map (ModeStack.startOf (m.scene now)) ∧
        (∀ o ∈ fired, ∃ slot ∈ m.engine.stack.slots, slot.mode.id = o.mode ∧
          ∃ handler, slot.mode.handlers[o.binding]? = some handler) ∧
        t.holds.pending = m.waiting.filter fun o => now.nanos < o.deadlineNanos := by
  intro before after _ m
  have hsound : m.Sound := built.sound.afterStages before
  refine ⟨fun number old closed scene found changed => ?_,
    fun st during rest _ id number name same => hsound.begins_once st during id number same,
    fun now calm => hsound.fires now calm⟩
  exact hsound.waits_of_change found changed scene rfl rfl

/-- Closing the gate starts one wait of the keeper's handler. -/
theorem gate_waits_once :
    ∃ (m₀ : Machine Unit Unit) (calls : List (Call Unit Unit)) (old : Switch), m₀.Built ∧
      let m := m₀.afterCalls calls
      m.cabinet.switches.get? 7 = some old ∧ old.closed = false ∧
      ∀ scene : Scene Unit,
        let switch := SwitchStore.reported old true scene.now
        ∀ slot ∈ ModeStack.visited switch m.engine.stack scene,
          ∀ b ∈ ModeStack.matching switch slot.mode, ∀ hold, b.hold = some hold →
            ((ModeStack.dispatch (ε := Fault) switch
              (m.engine.stack, scene)).2.1.holds.pending.filter fun o =>
                o.key = (slot.mode.id, b.number)) =
              [⟨slot.mode.id, b.number, old.name, b.condition, hold, scene.now⟩] := by
  let calls : List (Call Unit Unit) := [.addMode (gateKeeper (.ofMillis 5) .idle)]
  obtain ⟨m₀, built, hgate⟩ := exists_gateMachine
    (P := fun m => ((m.afterCalls calls).cabinet.switches.get? 7).map Switch.closed = some false) {}
    (by decide +kernel)
  obtain ⟨old, hfound, hopen⟩ := Option.map_eq_some_iff.mp hgate
  refine ⟨m₀, calls, old, built, hfound, hopen, fun scene => ?_⟩
  rw [m₀.afterCalls_eq calls] at hfound ⊢
  have honce := held_handlers_fire_once built calls (m₀.stagesOf calls) [] (List.append_nil _).symm
  exact (honce.1 7 old true scene hfound (by simp [hopen])).2

end Machine

end Playfield
