import Playfield.Proofs.Requests

/-!
# Turns

Whatever the engine does in a stage of a call comes down to turns, one after another: a mode joins
or leaves, a switch is handed down the stack, the pass hooks run, the frame callback runs, or one
thing is done that was asked for. `Stage.turns` lists them, each with the state in which it is
taken. Nothing happens between them that concerns callbacks (`Stage.along`), so that what is kept by
a turn is kept by a stage, and by every run of stages.
-/
namespace Playfield

/-- A thing that the engine does in one go. -/
inductive Turn (σ κ : Type) where
  | join (mode : Mode σ κ)
  | leave (id : ModeId)
  /-- A switch is handed down the stack. -/
  | walk (switch : Switch)
  /-- Pass hooks run, and held handlers that are due. -/
  | pass
  | frame
  /-- A request is carried out. -/
  | serve (request : Request κ)

/-- What is done in a turn. -/
def Turn.act {σ κ : Type} : Turn σ κ → Engine.Step σ κ Unit
  | .join mode => Engine.onStack (ModeStack.add mode)
  | .leave id => do
    let _ ← Engine.onStack (ModeStack.remove id)
    return ()
  | .walk switch => do
    let _ ← Engine.walkDown switch
    return ()
  | .pass => do
    let _ ← Engine.passOnce
    return ()
  | .frame => Engine.frameOnce
  | .serve r => Engine.apply r

/-- What a turn asks of the game. -/
def Turn.game? {σ κ : Type} : Turn σ κ → Option GameRequest
  | .serve (.game request) => some request
  | _ => none

/-- The request that is carried out in a turn. -/
def Turn.request? {σ κ : Type} : Turn σ κ → Option (Request κ)
  | .serve r => some r
  | _ => none

/-- A turn with the state in which it is taken. -/
structure Taken (σ κ : Type) where
  turn : Turn σ κ
  start : Engine σ κ × Scene κ

namespace Taken
variable {σ κ : Type}

/-- Where the turn leads, however it ends. -/
def next (k : Taken σ κ) : Engine σ κ × Scene κ := (k.turn.act k.start).2

/-- The callbacks that begin in the turn, in order. -/
def began (k : Taken σ κ) : List CallbackSite :=
  (k.next.2.starts.drop k.start.2.starts.length).map Prod.fst

/-- What is asked for in the turn, in order. -/
def asked (k : Taken σ κ) : List (Request κ) := k.next.2.requests.drop k.start.2.requests.length

/-- The requests that are carried out in some turns, in order. -/
def served (ks : List (Taken σ κ)) : List (Request κ) := ks.filterMap fun k => k.turn.request?

theorem served_append (ks ls : List (Taken σ κ)) : served (ks ++ ls) = served ks ++ served ls :=
  List.filterMap_append

theorem began_eq {k : Taken σ κ} {begun : List (CallbackSite × Glimpse)}
    (h : k.next.2.starts = k.start.2.starts ++ begun) : k.began = begun.map Prod.fst := by
  rw [began, h, List.drop_left]

end Taken

/-! ### Turns in a row -/

namespace Engine
variable {σ κ : Type}

/-- Nothing has happened that concerns callbacks: there may be other requests, remarks, counts and
levels of switches. -/
structure Still (s t : Engine σ κ × Scene κ) : Prop where
  stack : t.1.stack = s.1.stack
  game : t.1.game = s.1.game
  rules : t.1.rules = s.1.rules
  now : t.2.now = s.2.now
  running : t.2.running = s.2.running
  shown : t.2.game = s.2.game
  flippers : t.2.flippers = s.2.flippers
  starts : t.2.starts = s.2.starts

instance : Composes (Still (σ := σ) (κ := κ)) where
  refl _ := ⟨rfl, rfl, rfl, rfl, rfl, rfl, rfl, rfl⟩
  trans h h' := ⟨h'.stack.trans h.stack, h'.game.trans h.game, h'.rules.trans h.rules,
    h'.now.trans h.now, h'.running.trans h.running, h'.shown.trans h.shown,
    h'.flippers.trans h.flippers, h'.starts.trans h.starts⟩

theorem still_remark (severity : Severity) (text : String) (e : Engine σ κ) (scene : Scene κ) :
    Still (e, scene) (e, scene.remark severity text) :=
  ⟨rfl, rfl, rfl, rfl, rfl, rfl, rfl, (scene.passes_remark severity text).starts.trans
    (List.append_nil _)⟩

/-- The turns lead from one state to another, and nothing happens between them. -/
def Along : Engine σ κ × Scene κ → List (Taken σ κ) → Engine σ κ × Scene κ → Prop
  | s, [], t => Still s t
  | s, k :: rest, t => Still s k.start ∧ Along k.next rest t

namespace Along
variable {s t u : Engine σ κ × Scene κ} {ks ls : List (Taken σ κ)}

theorem still_left (h : Still s t) (h' : Along t ks u) : Along s ks u := by
  cases ks with
  | nil => exact Composes.trans h h'
  | cons k rest => exact ⟨Composes.trans h h'.1, h'.2⟩

theorem append (h : Along s ks t) (h' : Along t ls u) : Along s (ks ++ ls) u := by
  induction ks generalizing s with
  | nil => exact still_left h h'
  | cons k rest ih => exact ⟨h.1, ih h.2⟩

theorem single (k : Taken σ κ) : Along k.start [k] k.next :=
  ⟨Composes.refl k.start, Composes.refl k.next⟩

/-- What is true of the turns so far and the state after them stays true, if it does so whenever
nothing happens and whenever a turn is taken. -/
theorem fold {P : List (Taken σ κ) → Engine σ κ × Scene κ → Prop}
    (still : ∀ {past s t}, Still s t → P past s → P past t)
    (turn : ∀ k ∈ ks, ∀ {past}, P past k.start → P (past ++ [k]) k.next)
    (h : Along s ks t) {past : List (Taken σ κ)} (hs : P past s) : P (past ++ ks) t := by
  induction ks generalizing s past with
  | nil =>
    rw [List.append_nil]
    exact still h hs
  | cons k rest ih =>
    rw [List.append_cons]
    exact ih (fun k' hk' => turn k' (List.mem_cons_of_mem k hk')) h.2
      (turn k List.mem_cons_self (still h.1 hs))

end Along

/-! ### Doing what was asked for -/

/-- The turns of carrying out requests, up to the first that fails. -/
def serving : List (Request κ) → Engine σ κ × Scene κ → List (Taken σ κ)
  | [], _ => []
  | r :: rest, s =>
    ⟨.serve r, s⟩ ::
      match apply r s with
      | (.ok _, t) => serving rest t
      | _ => []

/-- The turns of so many rounds of requests. -/
def servings : Nat → Engine σ κ × Scene κ → List (Taken σ κ)
  | 0, _ => []
  | rounds + 1, (e, scene) =>
    serving scene.requests (e, { scene with requests := [] }) ++
      match Act.each apply scene.requests (e, { scene with requests := [] }) with
      | (.ok _, t) => servings rounds t
      | _ => []

/-- The turns of doing what was asked for. -/
def settling (s : Engine σ κ × Scene κ) : List (Taken σ κ) := servings maxRounds s

theorem serve_of_mem_serving {requests : List (Request κ)} {s : Engine σ κ × Scene κ}
    {k : Taken σ κ} (h : k ∈ serving requests s) : ∃ r, k.turn = .serve r := by
  induction requests generalizing s with
  | nil => exact nomatch h
  | cons r rest ih =>
    rcases List.mem_cons.mp h with rfl | h
    · exact ⟨r, rfl⟩
    · split at h
      · exact ih h
      · exact nomatch h

theorem serve_of_mem_servings {rounds : Nat} {s : Engine σ κ × Scene κ} {k : Taken σ κ}
    (h : k ∈ servings rounds s) : ∃ r, k.turn = .serve r := by
  induction rounds generalizing s with
  | zero => exact nomatch h
  | succ rounds ih =>
    rcases List.mem_append.mp h with h | h
    · exact serve_of_mem_serving h
    · split at h
      · exact ih h
      · exact nomatch h

theorem along_serving (requests : List (Request κ)) (s : Engine σ κ × Scene κ) :
    Along s (serving requests s) (Act.each apply requests s).2 := by
  induction requests generalizing s with
  | nil => exact Composes.refl s
  | cons r rest ih =>
    refine ⟨Composes.refl s, ?_⟩
    change Along (apply r s).2 _ _
    rw [Act.each_cons]
    rcases h : apply r s with ⟨outcome, t⟩
    cases outcome with
    | ok _ =>
      rw [Act.bind_ok h]
      exact ih t
    | _ =>
      simp only [Act.bind_apply, h]
      exact Composes.refl t

theorem servings_idle (rounds : Nat) {s : Engine σ κ × Scene κ} (h : s.2.requests = []) :
    servings rounds s = [] := by
  induction rounds generalizing s with
  | zero => rfl
  | succ rounds ih =>
    obtain ⟨e, scene⟩ := s
    have hnone : scene.requests = [] := h
    simp only [servings, hnone, serving, Act.each_nil, Act.pure_apply, List.nil_append]
    exact ih rfl

theorem still_take (e : Engine σ κ) (scene : Scene κ) :
    Still (e, scene) (e, { scene with requests := [] }) :=
  ⟨rfl, rfl, rfl, rfl, rfl, rfl, rfl, rfl⟩

theorem still_noteDropped (dropped : List (Request κ × Nat)) (e : Engine σ κ) (scene : Scene κ) :
    Still (e, scene) (e, noteDropped dropped scene) := by
  rw [noteDropped]
  split
  · exact Composes.refl (e, scene)
  · exact still_remark _ _ e scene

theorem along_servings (rounds : Nat) (s : Engine σ κ × Scene κ) :
    Along s (servings rounds s) (settleRounds rounds s).2 := by
  induction rounds generalizing s with
  | zero =>
    obtain ⟨e, scene⟩ := s
    rw [settleRounds_zero e scene 0]
    exact Composes.trans (still_take e scene) (still_noteDropped _ e _)
  | succ rounds ih =>
    obtain ⟨e, scene⟩ := s
    rw [settleRounds_succ]
    split
    · rename_i hnone
      rw [servings_idle _ hnone]
      exact Composes.refl (e, scene)
    · -- The requests of the round are taken out before it, which callbacks cannot see.
      have hround := (along_serving scene.requests (e, { scene with requests := [] })).still_left
        (still_take e scene)
      simp only [servings]
      rcases heach : Act.each apply scene.requests (e, { scene with requests := [] })
        with ⟨outcome, t⟩
      rw [heach] at hround
      cases outcome with
      | ok _ =>
        rw [Act.bind_ok heach]
        exact hround.append (ih t)
      | _ =>
        simp only [Act.bind_apply, heach]
        exact hround.append (Composes.refl t)

/-! ### What comes before -/

/-- A turn, and what follows it if it goes well. -/
def opening (turn : Turn σ κ) (s : Engine σ κ × Scene κ) : List (Taken σ κ) :=
  ⟨turn, s⟩ ::
    match turn.act s with
    | (.ok _, t) => settling t
    | _ => []

/-- The turns in which modes leave one after another, whatever their hooks do. -/
def leaving : List ModeId → Engine σ κ × Scene κ → List (Taken σ κ)
  | [], _ => []
  | id :: rest, s => ⟨.leave id, s⟩ :: leaving rest ((Turn.leave id).act s).2

/-- The turns of doing what was asked for after a computation, unless that panicked. -/
def settlingAfter {α : Type} : Outcome Fault α × Engine σ κ × Scene κ → List (Taken σ κ)
  | (.panic _, _) => []
  | (_, s) => settling s

theorem serve_of_mem_settlingAfter {α : Type} {x : Outcome Fault α × Engine σ κ × Scene κ}
    {k : Taken σ κ} (h : k ∈ settlingAfter x) : ∃ r, k.turn = .serve r := by
  obtain ⟨outcome, s⟩ := x
  cases outcome with
  | panic message => exact nomatch h
  | _ => exact serve_of_mem_servings h

section Opening
variable {α β : Type}

theorem settlingAfter_discard (x : Step σ κ α) (s : Engine σ κ × Scene κ) :
    settlingAfter ((x >>= fun _ => pure () : Step σ κ Unit) s) = settlingAfter (x s) := by
  rw [Act.bind_apply]
  split <;> rename_i h <;> rw [h] <;> rfl

variable {first : Step σ κ α} {rest : α → Step σ κ β}

theorem along_opening {turn : Turn σ κ} (hturn : turn.act = first >>= fun _ => pure ())
    (hrest : ∀ a s, (rest a s).2 = (settle s).2) (s : Engine σ κ × Scene κ) :
    Along s (opening turn s) ((first >>= rest) s).2 := by
  refine ⟨Composes.refl s, ?_⟩
  change Along (turn.act s).2 _ _
  rw [hturn]
  rcases h : first s with ⟨outcome, t⟩
  cases outcome with
  | ok a =>
    rw [Act.bind_ok h, Act.bind_ok h, hrest]
    exact along_servings maxRounds t
  | _ =>
    simp only [Act.bind_apply, h]
    exact Composes.refl t

theorem state_settle_finish (o : Outcome Fault β) (s : Engine σ κ × Scene κ) :
    ((settle >>= fun _ => Act.finish o) s).2 = (settle s).2 := by
  rw [Act.bind_apply]
  split <;> rename_i h <;> rw [h]
  rfl

theorem along_dispatch (switch : Switch) (s : Engine σ κ × Scene κ) :
    Along s (opening (.walk switch) s) (dispatch switch s).2 := by
  rw [dispatch_eq]
  exact along_opening rfl (fun _ => state_settle_finish _) s

theorem along_tick (s : Engine σ κ × Scene κ) : Along s (opening .pass s) (tick s).2 := by
  rw [tick_eq]
  exact along_opening rfl (fun _ => state_settle_finish _) s

theorem along_frame {s : Engine σ κ × Scene κ} (h : s.2.requests = []) :
    Along s (opening .frame s) (frame s).2 := by
  rw [frame_eq h]
  exact along_opening (Act.bind_pure_unit _).symm (fun _ _ => rfl) s

/-- No request is carried out while modes leave one after another. -/
theorem served_leaving (ids : List ModeId) (s : Engine σ κ × Scene κ) :
    Taken.served (leaving ids s) = [] := by
  induction ids generalizing s with
  | nil => rfl
  | cons id rest ih => exact ih _

/-- Where it leads if modes leave one after another. -/
def left (ids : List ModeId) (s : Engine σ κ × Scene κ) : Engine σ κ × Scene κ :=
  ids.foldl (fun s id => ((Turn.leave id).act s).2) s

theorem along_leaving (ids : List ModeId) (s : Engine σ κ × Scene κ) :
    Along s (leaving ids s) (left ids s) := by
  induction ids generalizing s with
  | nil => exact Composes.refl s
  | cons id rest ih => exact ⟨Composes.refl s, ih _⟩

theorem left_eq_removeAll (ids : List ModeId) (first : Option Fault) (e : Engine σ κ)
    (scene : Scene κ) : left ids (e, scene) =
      ({ e with stack := (ModeStack.removeAll ids first (e.stack, scene)).2.1 },
        (ModeStack.removeAll ids first (e.stack, scene)).2.2) := by
  induction ids generalizing first e scene with
  | nil => rfl
  | cons id rest ih =>
    have hact : ((Turn.leave id).act (e, scene)).2 =
        ({ e with stack := (ModeStack.remove id (e.stack, scene)).2.1 },
          (ModeStack.remove id (e.stack, scene)).2.2) := Act.state_discard _ _
    rw [left, List.foldl_cons, hact]
    simp only [ModeStack.removeAll]
    split <;> rename_i hr <;> rw [hr] <;> exact ih _ _ _

theorem state_clear (s : Engine σ κ × Scene κ) :
    (onStack ModeStack.clear s).2 = left s.1.stack.ids s := by
  obtain ⟨e, scene⟩ := s
  have hstate : (ModeStack.clear (e.stack, scene)).2 =
      (ModeStack.removeAll e.stack.ids none (e.stack, scene)).2 := by
    simp only [ModeStack.clear]
    split <;> rename_i hr <;> rw [hr]
  rw [left_eq_removeAll e.stack.ids none e scene, ← hstate]
  rfl

theorem along_clear (s : Engine σ κ × Scene κ) :
    Along s (leaving s.1.stack.ids s) (onStack ModeStack.clear s).2 := by
  rw [state_clear]
  exact along_leaving _ s

end Opening

end Engine

/-! ### Stages -/

namespace Stage
variable {σ κ : Type}

/-- The time of a stage in which callbacks may run. -/
def time? : Stage σ κ → Option Span
  | .event _ now | .tick now | .join _ now | .leave _ now | .clear now | .ask _ now => some now
  | .aside _ => none

/-- The turns of dealing with an event. Only changes of level and frames call callbacks. -/
def turnsOfEvent (e : Event) (now : Span) (m : Machine σ κ) : List (Taken σ κ) :=
  match e.kind.level? with
  | some closed =>
    match m.cabinet.switches.get? e.value with
    | some old =>
      if old.closed = closed then []
      else
        let switch := SwitchStore.reported old closed now
        let noted := m.noted e.value closed now
        let s := (noted.engine, (noted.scene now).remark .debug (Machine.changeText switch))
        Engine.opening (.walk switch) s ++ Engine.settlingAfter (Engine.dispatch switch s)
    | none => []
  | none =>
    if e.kind = .frameDisplayed then
      let s := (m.engine, m.scene now)
      Engine.opening .frame s ++ Engine.settlingAfter (Engine.frame s)
    else []

/-- The turns of a stage. -/
def turns (m : Machine σ κ) : Stage σ κ → List (Taken σ κ)
  | .event e now => turnsOfEvent e now m
  | .tick now =>
    let s := (m.engine, m.scene now)
    Engine.opening .pass s ++ Engine.settlingAfter (Engine.tick s)
  | .join mode now =>
    let s := (m.engine, m.scene now)
    ⟨.join mode, s⟩ :: Engine.settlingAfter ((Turn.join mode).act s)
  | .leave id now =>
    let s := (m.engine, m.scene now)
    ⟨.leave id, s⟩ :: Engine.settlingAfter ((Turn.leave id).act s)
  | .clear now =>
    let s := (m.engine, m.scene now)
    Engine.leaving m.engine.stack.ids s ++ Engine.settlingAfter (Engine.onStack ModeStack.clear s)
  | .ask request now =>
    let s := (m.engine, m.scene now)
    ⟨.serve (.game request), s⟩ :: Engine.settlingAfter ((Turn.serve (.game request)).act s)
  | .aside _ => []

/-- The turns lead from a machine to another one, from a fresh scene at a time on. -/
def Leads (now : Span) (m : Machine σ κ) (ks : List (Taken σ κ)) (m' : Machine σ κ) : Prop :=
  ∃ scene, Engine.Along (m.engine, m.scene now) ks (m'.engine, scene) ∧
    scene.cabinet = m'.cabinet

variable {m m' : Machine σ κ} {now : Span}

/-- In a fresh scene the turns of a computation are followed by those of doing what was asked
for. -/
theorem leads_inContext {α : Type} {body : Engine.Step σ κ α} {ks : List (Taken σ κ)}
    (h : Engine.Along (m.engine, m.scene now) ks (body (m.engine, m.scene now)).2) :
    Leads now m (ks ++ Engine.settlingAfter (body (m.engine, m.scene now)))
      (Machine.inContext now body m).2 := by
  simp only [Machine.inContext]
  rcases hbody : body (m.engine, m.scene now) with ⟨outcome, s⟩
  rw [hbody] at h
  cases outcome with
  | panic message => exact ⟨s.2, h.append (Composes.refl s), rfl⟩
  | ok a => exact ⟨_, h.append (Engine.along_servings Engine.maxRounds s), rfl⟩
  | error f => exact ⟨_, h.append (Engine.along_servings Engine.maxRounds s), rfl⟩

/-- What concerns no callback takes no turn. -/
theorem leads_quiet (hkept : m'.kept = m.kept) (hgame : m'.engine.game = m.engine.game)
    (hrules : m'.engine.rules = m.engine.rules) : Leads now m [] m' := by
  refine ⟨{ m.scene now with cabinet := m'.cabinet }, ?_, rfl⟩
  have hstack : m'.engine.stack = m.engine.stack := congrArg Prod.fst hkept
  have hstarts : m'.cabinet.bench.starts = m.cabinet.bench.starts := congrArg (fun k => k.2.2) hkept
  exact ⟨hstack, hgame, hrules, rfl, rfl, rfl, rfl, hstarts⟩

/-- A change of level is a walk down the stack. -/
theorem leads_change {number : Nat} {old : Switch} {closed : Bool}
    (found : m.cabinet.switches.get? number = some old) (changed : old.closed ≠ closed) :
    let switch := SwitchStore.reported old closed now
    let noted := m.noted number closed now
    let s := (noted.engine, (noted.scene now).remark .debug (Machine.changeText switch))
    Leads now m (Engine.opening (.walk switch) s ++ Engine.settlingAfter (Engine.dispatch switch s))
      (Machine.switchChanged number closed now m).2 := by
  intro switch noted s
  have hdown : Machine.handDown number (noted.engine, noted.scene now) =
      Engine.dispatch switch s := by
    rw [Machine.handDown_eq (noted.scene now) (SwitchStore.get?_report found changed) noted.engine]
    exact Act.bind_ok rfl
  have hremark : Engine.Still (noted.engine, noted.scene now) s := Engine.still_remark _ _ _ _
  have hwalk := (Engine.along_dispatch switch s).still_left hremark
  rw [← hdown] at hwalk ⊢
  rw [Machine.switchChanged_change found changed]
  change Leads now m _ (Machine.inContext now (Machine.handDown number) noted).2
  obtain ⟨scene, halong, hcabinet⟩ := leads_inContext hwalk
  have hnoted : Engine.Still (m.engine, m.scene now) (noted.engine, noted.scene now) :=
    ⟨rfl, rfl, rfl, rfl, rfl, rfl, rfl, rfl⟩
  exact ⟨scene, halong.still_left hnoted, hcabinet⟩

theorem leads_event (e : Event) (now : Span) (m : Machine σ κ) :
    Leads now m (turnsOfEvent e now m) (Machine.handleEvent e now m).2 := by
  simp only [Machine.handleEvent, turnsOfEvent]
  cases e.kind.level? with
  | some closed =>
    dsimp only
    cases found : m.cabinet.switches.get? e.value with
    | none =>
      have hkept : (Machine.switchChanged e.value closed now m).2.kept = m.kept :=
        Machine.kept_switchChanged_unknown found
      refine leads_quiet hkept ?_ ?_ <;>
        rw [Machine.switchChanged_eq, SwitchStore.report_unknown found] <;> rfl
    | some old =>
      dsimp only
      by_cases same : old.closed = closed
      · rw [if_pos same]
        have hkept : (Machine.switchChanged e.value closed now m).2.kept = m.kept :=
          Machine.kept_switchChanged_same found same
        refine leads_quiet hkept ?_ ?_ <;>
          rw [Machine.switchChanged_eq, SwitchStore.report_same found same] <;>
          simp only [same, if_true] <;> rfl
      · rw [if_neg same]
        exact leads_change found same
  | none =>
    generalize e.kind = kind
    cases kind with
    | frameDisplayed => exact leads_inContext (Engine.along_frame rfl)
    | _ => exact leads_quiet (Machine.keeps_log _ _ m) rfl rfl

/-- A stage leads where its turns lead. -/
theorem along {st : Stage σ κ} (h : st.time? = some now) (m : Machine σ κ) :
    Leads now m (st.turns m) (st.run m) := by
  cases st with
  | event e _ =>
    cases h
    exact leads_event e now m
  | tick _ =>
    cases h
    exact leads_inContext (Engine.along_tick _)
  | join mode _ =>
    cases h
    exact leads_inContext (.single ⟨.join mode, (m.engine, m.scene now)⟩)
  | leave id _ =>
    cases h
    have hleave := Engine.Along.single ⟨.leave id, (m.engine, m.scene now)⟩
    rw [Taken.next, Turn.act, Act.state_discard] at hleave
    rw [turns, Turn.act, Engine.settlingAfter_discard, run, act, Act.state_discard]
    exact leads_inContext hleave
  | clear _ =>
    cases h
    exact leads_inContext (Engine.along_clear _)
  | ask request _ =>
    cases h
    exact leads_inContext (.single ⟨.serve (.game request), (m.engine, m.scene now)⟩)
  | aside a => cases h

/-- Where no callback may run nothing changes that concerns callbacks. -/
theorem kept_aside {st : Stage σ κ} (h : st.time? = none) (m : Machine σ κ) :
    (st.run m).kept = m.kept ∧ st.turns m = [] := by
  cases st with
  | aside a => exact ⟨a.keeps m, rfl⟩
  | _ => cases h

/-- A tick is one pass, and what was asked for is done after it. -/
theorem turns_tick (now : Span) (m : Machine σ κ) :
    ∃ rest, (Stage.tick now).turns m = ⟨.pass, m.engine, m.scene now⟩ :: rest ∧
      ∀ k ∈ rest, ∃ r, k.turn = .serve r := by
  refine ⟨_, rfl, fun k hk => ?_⟩
  rcases List.mem_append.mp hk with hk | hk
  · split at hk
    · exact Engine.serve_of_mem_servings hk
    · exact nomatch hk
  · exact Engine.serve_of_mem_settlingAfter hk

end Stage

/-! ### Calls and runs -/

namespace Machine
variable {σ κ : Type}

/-- The turns of some stages, one after another. -/
def turnsAlong : List (Stage σ κ) → Machine σ κ → List (Taken σ κ)
  | [], _ => []
  | st :: rest, m => st.turns m ++ turnsAlong rest (st.run m)

/-- What is true of the turns so far, the stack and the callbacks that have begun stays true over
stages if it does so whenever a turn is taken. -/
theorem fold_turnsAlong
    {P : List (Taken σ κ) → ModeStack σ κ → List (CallbackSite × Glimpse) → Prop}
    (turn : ∀ {past} k, P past k.start.1.stack k.start.2.starts →
      P (past ++ [k]) k.next.1.stack k.next.2.starts)
    (stages : List (Stage σ κ)) (m : Machine σ κ) {past : List (Taken σ κ)}
    (hm : P past m.engine.stack m.cabinet.bench.starts) :
    P (past ++ turnsAlong stages m) (m.afterStages stages).engine.stack
      (m.afterStages stages).cabinet.bench.starts := by
  induction stages generalizing m past with
  | nil =>
    rw [turnsAlong, List.append_nil]
    exact hm
  | cons st rest ih =>
    have hst : P (past ++ st.turns m) (st.run m).engine.stack (st.run m).cabinet.bench.starts := by
      cases htime : st.time? with
      | none =>
        obtain ⟨hkept, hnone⟩ := Stage.kept_aside htime m
        have hstack : (st.run m).engine.stack = m.engine.stack := congrArg Prod.fst hkept
        have hstarts : (st.run m).cabinet.bench.starts = m.cabinet.bench.starts :=
          congrArg (fun k => k.2.2) hkept
        rw [hnone, List.append_nil, hstack, hstarts]
        exact hm
      | some now =>
        obtain ⟨scene, halong, hcabinet⟩ := Stage.along htime m
        have hend := halong.fold (P := fun past s => P past s.1.stack s.2.starts)
          (fun hstill hs => by
            rw [hstill.stack, hstill.starts]
            exact hs) (fun k _ => turn k) hm
        rw [← hcabinet]
        exact hend
    rw [turnsAlong, ← List.append_assoc]
    exact ih (st.run m) hst

/-- What `fold_turnsAlong` says of the end holds before each turn as well, of the turns up to it. -/
theorem holds_at_turn
    {P : List (Taken σ κ) → ModeStack σ κ → List (CallbackSite × Glimpse) → Prop}
    (turn : ∀ {past} k, P past k.start.1.stack k.start.2.starts →
      P (past ++ [k]) k.next.1.stack k.next.2.starts)
    {stages : List (Stage σ κ)} {m : Machine σ κ}
    (hm : P [] m.engine.stack m.cabinet.bench.starts)
    {before after : List (Taken σ κ)} {k : Taken σ κ}
    (h : turnsAlong stages m = before ++ k :: after) :
    P before k.start.1.stack k.start.2.starts := by
  -- Carried along with `P`: that it held before each of the turns so far.
  let Q (past : List (Taken σ κ)) (stack : ModeStack σ κ)
      (starts : List (CallbackSite × Glimpse)) : Prop :=
    P past stack starts ∧ ∀ before k after, past = before ++ k :: after →
      P before k.start.1.stack k.start.2.starts
  have hbegin : Q [] m.engine.stack m.cabinet.bench.starts :=
    ⟨hm, fun before k after hsplit => absurd hsplit.symm (by simp)⟩
  have hstep {past : List (Taken σ κ)} (k : Taken σ κ)
      (hs : Q past k.start.1.stack k.start.2.starts) :
      Q (past ++ [k]) k.next.1.stack k.next.2.starts := by
    refine ⟨turn k hs.1, fun before k' after hsplit => ?_⟩
    rcases List.eq_nil_or_concat after with rfl | ⟨after', last, rfl⟩
    · obtain ⟨rfl, hk⟩ := List.append_inj' hsplit rfl
      cases hk
      exact hs.1
    · rw [List.concat_eq_append, ← List.cons_append, ← List.append_assoc] at hsplit
      exact hs.2 before k' after' (List.append_inj' hsplit rfl).1
  exact (fold_turnsAlong hstep stages m hbegin).2 before k after h

end Machine

namespace Call
variable {σ κ : Type}

/-- The turns of a call. -/
def turns (c : Call σ κ) (m : Machine σ κ) : List (Taken σ κ) := m.turnsAlong (c.stages m)

/-- The time of a call: what the clock reads at its start, or right after the poll of a pass. -/
def time (c : Call σ κ) (m : Machine σ κ) : Span :=
  match c with
  | .step =>
    (Machine.onCabinet (Cabinet.onBench (Bench.poll m.settings.includeFrameEvents)) m).2.now
  | _ => m.now

/-- Whatever happens in the stages of a call, they all go by one time. -/
theorem time_of_stage {c : Call σ κ} {m : Machine σ κ} {st : Stage σ κ} {now : Span}
    (h : st ∈ c.stages m) (htime : st.time? = some now) : now = c.time m := by
  have hplan : st ∈ c.plan m := (Act.tried_prefix _ _).subset h
  cases c with
  | step =>
    simp only [plan] at hplan
    split at hplan <;> rename_i hpoll
    · simp only [List.cons_append, List.mem_cons, List.mem_append, List.mem_map, List.not_mem_nil,
        or_false] at hplan
      rw [time, hpoll]
      rcases hplan with rfl | ⟨event, -, rfl⟩ | rfl | rfl | rfl | rfl | rfl <;> cases htime <;> rfl
    · rw [List.mem_singleton.mp hplan] at htime
      cases htime
  | reset =>
    simp only [plan, List.mem_cons, List.not_mem_nil, or_false] at hplan
    rcases hplan with rfl | rfl | rfl | rfl <;> cases htime
    rfl
  | _ =>
    rw [List.mem_singleton.mp hplan] at htime
    cases htime
    try rfl

end Call

end Playfield
