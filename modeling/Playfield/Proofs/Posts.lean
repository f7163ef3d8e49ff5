import Playfield.Proofs.Moves

/-!
# What is posted

Anyone may post commands at any time, callbacks among them. Whatever a machine does apart from
taking the whole queue, all that happens to the queue is that commands are posted, one after
another: those for which there is room are put at the end in order, and the others are refused.
-/
namespace Playfield

namespace CommandQueue

/-- The queue after a command has been posted, whether it was refused or not. -/
def offer (q : CommandQueue) (c : Command) : CommandQueue :=
  match q.enqueue c with
  | .ok q => q
  | .error _ => q

/-- The queue after commands have been posted one after another. -/
def offerAll (q : CommandQueue) (cs : List Command) : CommandQueue := cs.foldl offer q

/-- How many commands there is room for. -/
def room (q : CommandQueue) : Nat := q.capacity - q.size

/-- At capacity a command is refused, and nothing changes. -/
theorem offer_full {q : CommandQueue} (h : q.capacity ≤ q.size) (c : Command) : q.offer c = q := by
  simp only [offer, enqueue, h, if_true]

/-- Below capacity a command is put at the end. -/
theorem offer_room {q : CommandQueue} (h : q.size < q.capacity) (c : Command) :
    q.offer c = { q with commands := q.commands ++ [c] } := by
  simp only [offer, enqueue, Nat.not_le.mpr h, if_false]

/-- Of commands that are posted in turn those are accepted for which there is room. -/
theorem offerAll_eq (q : CommandQueue) (cs : List Command) :
    q.offerAll cs = { q with commands := q.commands ++ cs.take q.room } := by
  induction cs generalizing q with
  | nil => simp [offerAll]
  | cons c rest ih =>
    have hcons : q.offerAll (c :: rest) = (q.offer c).offerAll rest := rfl
    rw [hcons, ih]
    by_cases hfull : q.capacity ≤ q.size
    · have hroom : q.room = 0 := Nat.sub_eq_zero_of_le hfull
      rw [offer_full hfull, hroom, List.take_zero, List.take_zero]
    · have hlt : q.size < q.capacity := Nat.lt_of_not_le hfull
      have hroom : q.room = (q.offer c).room + 1 := by
        rw [offer_room hlt]
        simp only [room, size, List.length_append, List.length_singleton] at hlt ⊢
        omega
      rw [hroom, List.take_succ_cons, offer_room hlt, List.append_assoc, List.singleton_append]

/-- The queue became another one by posts. -/
def Fed (q q' : CommandQueue) : Prop := ∃ cs, q' = q.offerAll cs

theorem Fed.refl (q : CommandQueue) : q.Fed q := ⟨[], rfl⟩

theorem Fed.trans {q q' q'' : CommandQueue} (h : q.Fed q') (h' : q'.Fed q'') : q.Fed q'' := by
  obtain ⟨cs, rfl⟩ := h
  obtain ⟨ds, rfl⟩ := h'
  exact ⟨cs ++ ds, List.foldl_append.symm⟩

theorem Fed.of_eq {q q' : CommandQueue} (h : q' = q) : q.Fed q' := h ▸ .refl q

theorem fed_enqueue {q q' : CommandQueue} {c : Command} (h : q.enqueue c = .ok q') : q.Fed q' :=
  ⟨[c], by simp [offerAll, offer, h]⟩

theorem Fed.capacity {q q' : CommandQueue} (h : q.Fed q') : q'.capacity = q.capacity := by
  obtain ⟨cs, rfl⟩ := h
  rw [offerAll_eq]

theorem Fed.commands {q q' : CommandQueue} (h : q.Fed q') :
    q'.commands = q.commands ++ q'.commands.drop q.size := by
  obtain ⟨cs, rfl⟩ := h
  rw [offerAll_eq, size, List.drop_left]

theorem Fed.size_le {q q' : CommandQueue} (h : q.Fed q') (hsize : q.size ≤ q.capacity) :
    q'.size ≤ q'.capacity := by
  obtain ⟨cs, rfl⟩ := h
  rw [offerAll_eq]
  simp only [size, List.length_append, List.length_take, room] at hsize ⊢
  omega

end CommandQueue

/-- Posting a command feeds the queue. -/
theorem Cabinet.fed_enqueue (command : Command) (c : Cabinet) :
    c.queue.Fed (c.enqueue command).2.queue := by
  simp only [enqueue]
  split
  · rename_i hq
    exact CommandQueue.fed_enqueue hq
  · exact .refl _

theorem Cabinet.queue_perform (a : BenchAct) (c : Cabinet) : (c.perform a).queue = c.queue := by
  cases a <;> rfl

/-! ### Callbacks -/

/-- What a callback posts, in order. -/
def Callback.posts {σ κ : Type} : Callback σ κ → σ × Scene κ → List Command
  | .done _, _ => []
  | .remember memory next, (_, scene) => next.posts (memory, scene)
  | .look next, (m, scene) => (next scene.view).posts (m, scene)
  | .order o next, (m, scene) =>
    match Scene.onCabinet (Cabinet.onDrivers (DriverBank.obey o scene.now)) scene with
    | (answer, scene) => (next answer).posts (m, scene)
  | .ask request next, (m, scene) =>
    next.posts (m, { scene with requests := scene.requests ++ [request] })
  | .issue tag next, (m, scene) =>
    match scene.cabinet.ids.issue tag with
    | (id, ids) => (next id).posts (m, { scene with cabinet := { scene.cabinet with ids } })
  | .enqueue command next, (m, scene) =>
    match scene.cabinet.enqueue command with
    | (answer, cabinet) => command :: (next answer).posts (m, { scene with cabinet })
  | .act a next, (m, scene) =>
    next.posts (m, { scene with cabinet := scene.cabinet.perform a })

theorem Cabinet.queue_enqueue (command : Command) (c : Cabinet) :
    (c.enqueue command).2.queue = c.queue.offer command := by
  simp only [enqueue, CommandQueue.offer]
  cases c.queue.enqueue command <;> rfl

/-- What a callback posts is all that happens to the queue while it runs. -/
theorem Callback.queue_play {σ κ : Type} (c : Callback σ κ) (m : σ) (scene : Scene κ) :
    (c.play (m, scene)).2.2.cabinet.queue = scene.cabinet.queue.offerAll (c.posts (m, scene)) := by
  induction c generalizing m scene with
  | done ending => rfl
  | remember memory next ih => exact ih memory scene
  | look next ih => exact ih scene.view m scene
  | order o next ih => exact ih _ m _
  | ask request next ih => exact ih m _
  | issue tag next ih => exact ih _ m _
  | enqueue command next ih =>
    simp only [play, posts]
    rw [ih, scene.cabinet.queue_enqueue]
    rfl
  | act a next ih =>
    simp only [play, posts]
    rw [ih, scene.cabinet.queue_perform]

namespace Scene
variable {κ : Type}

/-- All that happens to the queue is that commands are posted. -/
def Feeds (s t : Scene κ) : Prop := s.cabinet.queue.Fed t.cabinet.queue

theorem Feeds.refl (s : Scene κ) : s.Feeds s := CommandQueue.Fed.refl _

theorem Feeds.trans {s t u : Scene κ} (h : s.Feeds t) (h' : t.Feeds u) : s.Feeds u :=
  CommandQueue.Fed.trans h h'

theorem feeds_of_eq {s t : Scene κ} (h : t.cabinet.queue = s.cabinet.queue) : s.Feeds t := .of_eq h

end Scene

theorem Callback.feeds_play {σ κ : Type} (c : Callback σ κ) (m : σ) (scene : Scene κ) :
    scene.Feeds (c.play (m, scene)).2.2 := ⟨_, c.queue_play m scene⟩

namespace Mode
variable {σ κ : Type}

theorem feeds_play (c : Callback σ κ) (s : Mode σ κ × Scene κ) : s.2.Feeds (play c s).2.2 :=
  c.feeds_play s.1.memory s.2

theorem feeds_handle (binding : Nat) (switch : Switch) (s : Mode σ κ × Scene κ) :
    s.2.Feeds (handle binding switch s).2.2 := by
  simp only [handle]
  split
  · exact feeds_play _ _
  · exact .refl s.2

theorem feeds_runHook (h : ModeHook) (s : Mode σ κ × Scene κ) : s.2.Feeds (runHook h s).2.2 :=
  feeds_play _ s

theorem feeds_guarded {x : Act HandlerError (Mode σ κ × Scene κ) Verdict}
    (hx : ∀ s : Mode σ κ × Scene κ, s.2.Feeds (x s).2.2)
    (site : CallbackSite) (m : Mode σ κ) (scene : Scene κ) :
    scene.Feeds (guarded site x m scene).2.2 :=
  hx (m, { scene with running := some m.id }.begin site)

end Mode

/-! ### The mode stack -/

namespace Walk
variable {κ : Type}

theorem feeds_fail (w : Walk κ) (f : HandlerFault) : w.scene.Feeds (w.fail f).scene :=
  Scene.feeds_of_eq rfl

end Walk

namespace ModeStack
variable {σ κ : Type}

/-- All that happens to the queue is that commands are posted. -/
abbrev Feeds (s t : ModeStack σ κ × Scene κ) : Prop := s.2.Feeds t.2

instance : Composes (Feeds (σ := σ) (κ := κ)) where
  refl s := .refl s.2
  trans := Scene.Feeds.trans

theorem feeds_settleHook (outcome : Except FaultReason Verdict) :
    (settleHook (σ := σ) (κ := κ) outcome).Within Feeds := by
  intro s
  simp only [settleHook]
  split <;> exact Scene.feeds_of_eq rfl

theorem feeds_add (m : Mode σ κ) : (add m).Within Feeds := by
  intro state
  simp only [add]
  split
  · exact Scene.feeds_of_eq rfl
  · have hhook (scene : Scene κ) := Mode.feeds_guarded (Mode.feeds_runHook .started)
      (.hook m.id .started) m scene
    refine Scene.Feeds.trans ?_ (feeds_settleHook _ _)
    exact Scene.Feeds.trans (Scene.feeds_of_eq rfl) (hhook _)

theorem feeds_remove (id : ModeId) : (remove (σ := σ) (κ := κ) id).Within Feeds := by
  intro state
  simp only [remove]
  split
  · exact .refl _
  · rename_i slot _
    have hhook (scene : Scene κ) := Mode.feeds_guarded (Mode.feeds_runHook .stopped)
      (.hook id .stopped) slot.mode scene
    refine Scene.Feeds.trans ?_ (feeds_settleHook _ _)
    exact Scene.Feeds.trans (Scene.feeds_of_eq rfl) (hhook _)

theorem feeds_clear : (clear (σ := σ) (κ := κ)).Within Feeds := clear_within feeds_remove

theorem feeds_walkBindings (switch : Switch) (bs : List Binding) (m : Mode σ κ) (w : Walk κ) :
    w.scene.Feeds (walkBindings switch bs m w).2.2.scene := by
  induction bs generalizing m w with
  | nil => exact .refl _
  | cons b rest ih =>
    simp only [walkBindings]
    split
    · exact ih _ _
    · have hcall := Mode.feeds_guarded (Mode.feeds_handle b.number switch)
        (.handler m.id b.number switch.name) m w.scene
      split
      · exact hcall.trans (ih _ _)
      · exact hcall.trans (ih _ _)
      · exact hcall.trans ((Walk.feeds_fail _ _).trans (ih _ _))

theorem feeds_walkModes (switch : Switch) (slots : List (Slot σ κ)) (w : Walk κ) :
    w.scene.Feeds (walkModes switch slots w).2.scene := by
  induction slots generalizing w with
  | nil => exact .refl _
  | cons slot rest ih =>
    have hmode := feeds_walkBindings switch
      ((slot.mode.bindings switch.name).filter fun b => b.condition.holds switch) slot.mode w
    simp only [walkModes]
    split <;> rename_i hw <;> rw [hw] at hmode
    · exact hmode
    · exact hmode.trans (ih _)

theorem feeds_onHolds {ε α : Type} (x : Act ε (HoldQueue × Bench) α) :
    (onHolds (σ := σ) (κ := κ) x).Within Feeds := fun _ => Scene.feeds_of_eq rfl

theorem feeds_dispatch {ε : Type} (switch : Switch) :
    (dispatch switch : Act ε (ModeStack σ κ × Scene κ) Report).Within Feeds :=
  .bind (feeds_onHolds _) fun _ _ => feeds_walkModes switch _ _

theorem feeds_tickModes (slots : List (Slot σ κ)) (w : Walk κ) :
    w.scene.Feeds (tickModes slots w).2.scene := by
  induction slots generalizing w with
  | nil => exact .refl _
  | cons slot rest ih =>
    have hhook := Mode.feeds_guarded (Mode.feeds_runHook .tick) (.hook slot.mode.id .tick) slot.mode
      w.scene
    simp only [tickModes]
    split
    · exact hhook.trans (ih _)
    · exact hhook.trans ((Walk.feeds_fail _ _).trans (ih _))

theorem feeds_fireDue (due : List Obligation) (slots : List (Slot σ κ)) (w : Walk κ) :
    w.scene.Feeds (fireDue due slots w).2.scene := by
  induction due generalizing slots w with
  | nil => exact .refl _
  | cons o rest ih =>
    simp only [fireDue]
    split
    · rename_i switch slot _ _
      have hcall := Mode.feeds_guarded (Mode.feeds_handle o.binding switch)
        (.handler o.mode o.binding switch.name) slot.mode w.scene
      split
      · exact hcall.trans (ih _ _)
      · exact hcall.trans ((Walk.feeds_fail _ _).trans (ih _ _))
    · exact ih _ _

theorem feeds_tick {ε : Type} :
    (tick : Act ε (ModeStack σ κ × Scene κ) Report).Within Feeds :=
  .bind (fun _ => feeds_tickModes _ _) fun _ => .bind (fun _ => Scene.feeds_of_eq rfl)
    fun _ _ => feeds_fireDue _ _ _

end ModeStack

/-! ### The game -/

namespace Game
variable {σ κ : Type}

/-- All that happens to the queue is that commands are posted. -/
abbrev Feeds (s t : Game σ κ × Scene κ) : Prop := s.2.Feeds t.2

instance : Composes (Feeds (σ := σ) (κ := κ)) where
  refl s := .refl s.2
  trans := Scene.Feeds.trans

theorem feeds_notify (h : GameHook) : (notify h : Step σ κ Unit).Within Feeds := by
  intro state
  have hplay (scene : Scene κ) := (state.1.hook h state.1.memory).feeds_play state.1.memory scene
  simp only [notify]
  split <;> exact Scene.Feeds.trans (Scene.feeds_of_eq rfl) (hplay _)

theorem spans_feeds : Spans (Feeds (σ := σ) (κ := κ)) where
  log _ _ := fun _ => Scene.feeds_of_eq rfl
  update _ := fun _ => Scene.feeds_of_eq rfl
  updateBanks _ := fun _ => Scene.feeds_of_eq rfl
  reveal := fun _ => Scene.feeds_of_eq rfl
  notify := feeds_notify

end Game

/-! ### The engine -/

namespace Engine
variable {σ κ : Type} {α : Type}

/-- All that happens to the queue is that commands are posted. -/
abbrev Feeds (s t : Engine σ κ × Scene κ) : Prop := s.2.Feeds t.2

instance : Composes (Feeds (σ := σ) (κ := κ)) where
  refl s := .refl s.2
  trans := Scene.Feeds.trans

theorem feeds_onStack {x : Act Fault (ModeStack σ κ × Scene κ) α}
    (hx : x.Within ModeStack.Feeds) : (onStack x).Within Feeds := hx.zoom fun _ _ h => h

theorem feeds_onGame {x : Act Fault (Game σ κ × Scene κ) α} (hx : x.Within Game.Feeds) :
    (onGame x).Within Feeds := hx.zoom fun _ _ h => h

theorem feeds_inScene {f : Engine σ κ → Scene κ → Scene κ}
    (hf : ∀ e scene, (f e scene).cabinet.queue = scene.cabinet.queue) :
    (inScene f).Within Feeds := .modify fun s => Scene.feeds_of_eq (hf s.1 s.2)

theorem feeds_count (f : Stats → Stats) : (count f : Step σ κ Unit).Within Feeds :=
  .modify fun s => .refl s.2

theorem feeds_log (severity : Severity) (text : String) :
    (log severity text : Step σ κ Unit).Within Feeds := fun _ => Scene.feeds_of_eq rfl

theorem feeds_apply (r : Request κ) : (apply r : Step σ κ Unit).Within Feeds := by
  cases r with
  | addMode id kind => exact .bind .get fun _ => feeds_onStack (ModeStack.feeds_add _)
  | removeMode id =>
    exact .bind (feeds_onStack (ModeStack.feeds_remove id)) fun _ =>
      .ite (.bind .get fun _ => feeds_log _ _) (.pure ())
  | game request =>
    exact .bind (feeds_onGame (Game.spans_feeds.apply request)) fun _ =>
      feeds_inScene fun _ _ => rfl
  | flippers enable =>
    exact .bind .get fun _ => .bind (fun _ => Scene.feeds_of_eq rfl) fun _ =>
      feeds_inScene fun _ _ => rfl

theorem feeds_settle : (settle : Step σ κ Unit).Within Feeds :=
  settle_within (feeds_inScene fun _ _ => rfl) feeds_log feeds_apply

theorem feeds_dispatch (switch : Switch) : (dispatch switch : Step σ κ Unit).Within Feeds :=
  .bind (feeds_count _) fun _ => .bind (feeds_onStack (ModeStack.feeds_dispatch switch)) fun _ =>
    .bind (feeds_count _) fun _ => .bind feeds_settle fun _ => .finish _

theorem feeds_tick : (tick : Step σ κ Unit).Within Feeds :=
  .bind (feeds_onStack ModeStack.feeds_tick) fun _ =>
    .bind (feeds_count _) fun _ => .bind feeds_settle fun _ => .finish _

theorem feeds_frame : (frame : Step σ κ Unit).Within Feeds := by
  have failed (text : String) : (failFrame text : Step σ κ Unit).Within Feeds :=
    .bind (feeds_count _) fun _ => feeds_log _ _
  refine .bind (feeds_count _) fun _ => .bind .get fun (e, _) => ?_
  dsimp only
  split
  · exact .pure ()
  · rename_i handler _
    refine .bind (feeds_inScene fun _ _ => rfl) fun _ => .bind (fun s => ?_) fun outcome => ?_
    · exact (handler.run handler.memory).feeds_play handler.memory s.2
    · split
      · exact feeds_settle
      · exact .bind (.fail _) fun _ => feeds_settle
      · exact .bind (failed _) fun _ => feeds_settle
      · exact .bind (failed _) fun _ => feeds_settle

end Engine

/-! ### The machine -/

namespace Machine
variable {σ κ : Type} {ε α : Type}

/-- All that happens to the queue is that commands are posted. -/
def Feeds (m m' : Machine σ κ) : Prop := m.cabinet.queue.Fed m'.cabinet.queue

instance : Composes (Feeds (σ := σ) (κ := κ)) where
  refl _ := .refl _
  trans := CommandQueue.Fed.trans

theorem feeds_of_eq {m m' : Machine σ κ} (h : m'.cabinet.queue = m.cabinet.queue) : m.Feeds m' :=
  .of_eq h

theorem feeds_inContext (now : Span) {body : Engine.Step σ κ α} (hbody : body.Within Engine.Feeds) :
    (inContext now body).Within Feeds := by
  intro m
  obtain ⟨t, hrest, hstate⟩ := inContext_leads Engine.feeds_settle now body m
  rw [hstate]
  exact Scene.Feeds.trans (hbody (m.engine, m.scene now)) hrest

theorem feeds_handDown (number : Nat) :
    (handDown number : Engine.Step σ κ Unit).Within Engine.Feeds := by
  refine .bind .get fun (_, scene) => ?_
  dsimp only
  split
  · exact .bind (Engine.feeds_log _ _) fun _ => Engine.feeds_dispatch _
  · exact .pure ()

theorem feeds_switchChanged (number : Nat) (closed : Bool) (now : Span) :
    (switchChanged number closed now : Step σ κ Unit).Within Feeds := by
  intro m
  rw [switchChanged_eq]
  split
  · exact feeds_of_eq rfl
  · split
    · exact feeds_of_eq rfl
    · exact feeds_inContext now (feeds_handDown number) (m.noted number closed now)

theorem feeds_handleEvent (e : Event) (now : Span) :
    (handleEvent e now : Step σ κ Unit).Within Feeds := by
  simp only [handleEvent]
  split
  · exact feeds_switchChanged _ _ _
  · split
    · exact feeds_inContext now Engine.feeds_frame
    · exact fun _ => feeds_of_eq rfl

end Machine

end Playfield
