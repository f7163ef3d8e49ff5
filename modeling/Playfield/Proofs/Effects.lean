import Playfield.Proofs.Dispatch
import Playfield.Proofs.GamePlay
import Playfield.Proofs.Rig
import Playfield.Proofs.Turns

/-!
# What a turn does

Each turn does one of a few things. Callbacks of modes run, and the stack stays as it is, or one
mode joins or leaves (`ModeStack.Shift`); or the frame callback runs; or the game serves a request;
or flippers are turned on or off. `Taken.does` says of each of them which callbacks begin, what they
see, and what becomes of the stack, the game and the rules. What holds of every turn follows from it
by cases.
-/
namespace Playfield

namespace CallbackSite

/-- The mode whose callback it is. -/
def mode? : CallbackSite → Option ModeId
  | .handler mode _ _ => some mode
  | .hook mode _ => some mode
  | .lifecycle _ => none
  | .frame => none

/-- The callback is a pass hook or a switch handler of the mode. -/
def Runs (mode : ModeId) (site : CallbackSite) : Prop :=
  site = .hook mode .tick ∨ ∃ binding switch, site = .handler mode binding switch

theorem Runs.mode?_eq {mode : ModeId} {site : CallbackSite} (h : site.Runs mode) :
    site.mode? = some mode := by
  rcases h with rfl | ⟨binding, switch, rfl⟩ <;> rfl

end CallbackSite

namespace Scene
variable {κ : Type}

/-- The start of a callback that sees the scene as it is, and its own mode as the one that runs. -/
def startAt (s : Scene κ) (site : CallbackSite) : CallbackSite × Glimpse :=
  (site, ⟨s.now, site.mode?, s.game, s.flippers⟩)

theorem map_startAt {s : Scene κ} {begun : List (CallbackSite × Glimpse)}
    (h : ∀ start ∈ begun, s.startAt start.1 = start) :
    (begun.map Prod.fst).map s.startAt = begun := by
  rw [List.map_map]
  exact (List.map_congr_left h).trans (List.map_id _)

end Scene

namespace ModeStack
variable {σ κ : Type}

/-- What becomes of the stack in a turn in which callbacks of modes begin at some sites. -/
inductive Shift (s t : ModeStack σ κ) : List CallbackSite → Prop where
  /-- Pass hooks and switch handlers run, and the modes stay. -/
  | stay {sites : List CallbackSite} (lineup : lineup t.slots = lineup s.slots)
    (nextSeq : t.nextSeq = s.nextSeq)
    (runs : ∀ site ∈ sites, ∃ slot ∈ s.slots, site.Runs slot.mode.id) : Shift s t sites
  | join (mode : Mode σ κ) (new : mode.id ∉ idsOf s.slots)
    (slots : t.slots = insertSlot ⟨s.nextSeq, mode⟩ s.slots)
    (nextSeq : t.nextSeq = s.nextSeq + 1) : Shift s t [.hook mode.id .started]
  | leave (slot : Slot σ κ) (present : slot ∈ s.slots)
    (slots : t.slots = erase slot.mode.id s.slots) (nextSeq : t.nextSeq = s.nextSeq) :
    Shift s t [.hook slot.mode.id .stopped]

theorem Shift.still {s t : ModeStack σ κ} (h : t.slots = s.slots) (hseq : t.nextSeq = s.nextSeq) :
    Shift s t [] :=
  .stay (by rw [h]) hseq fun _ hsite => nomatch hsite

theorem exists_of_mem_idsOf {slots : List (Slot σ κ)} {id : ModeId} (h : id ∈ idsOf slots) :
    ∃ slot ∈ slots, slot.mode.id = id := List.mem_map.mp h

theorem shift_add (m : Mode σ κ) (s : ModeStack σ κ) (scene : Scene κ) :
    ∃ sites, Shift s (add m (s, scene)).2.1 sites ∧
      scene.Passes (sites.map scene.startAt) (add m (s, scene)).2.2 := by
  by_cases hm : m.id ∈ idsOf s.slots
  · obtain ⟨hstack, hpass⟩ := add_there hm scene
    exact ⟨[], .still (by rw [hstack]) (by rw [hstack]), hpass⟩
  · obtain ⟨m', hfix, hslots, -, hseq, hpass⟩ := add_new hm scene
    have hid := Mode.id_eq_of_fixed hfix
    refine ⟨[.hook m'.id .started], .join m' (hid ▸ hm) hslots hseq, ?_⟩
    rw [hid]
    exact hpass

theorem shift_remove (id : ModeId) (s : ModeStack σ κ) (scene : Scene κ) :
    ∃ sites, Shift s (remove id (s, scene)).2.1 sites ∧
      scene.Passes (sites.map scene.startAt) (remove id (s, scene)).2.2 := by
  by_cases hid : id ∈ idsOf s.slots
  · obtain ⟨hslots, -, hseq, hpass⟩ := remove_present hid scene
    obtain ⟨slot, hslot, rfl⟩ := exists_of_mem_idsOf hid
    exact ⟨_, .leave slot hslot hslots hseq, hpass⟩
  · rw [remove_absent hid scene]
    exact ⟨[], .still rfl rfl, .refl scene⟩

theorem shift_dispatch (switch : Switch) (s : ModeStack σ κ) (scene : Scene κ) :
    ∃ sites, Shift s (dispatch (ε := Fault) switch (s, scene)).2.1 sites ∧
      scene.Passes (sites.map scene.startAt) (dispatch (ε := Fault) switch (s, scene)).2.2 := by
  have hpass := passes_dispatch (ε := Fault) switch s scene
  have hline := lineup_dispatch (ε := Fault) switch s scene
  have hseq : (dispatch (ε := Fault) switch (s, scene)).2.1.nextSeq = s.nextSeq := by
    rw [dispatch_eq]
  refine ⟨(begunBy switch scene (visited switch s scene)).map Prod.fst, .stay hline hseq ?_, ?_⟩
  · intro site hsite
    obtain ⟨start, hstart, rfl⟩ := List.mem_map.mp hsite
    obtain ⟨slot, hslot, hstart⟩ := List.mem_flatMap.mp hstart
    obtain ⟨b, -, rfl⟩ := List.mem_map.mp hstart
    exact ⟨slot, (visited_start switch s scene).mem hslot, .inr ⟨_, _, rfl⟩⟩
  · rw [Scene.map_startAt]
    · exact hpass
    · intro start hstart
      obtain ⟨slot, -, hstart⟩ := List.mem_flatMap.mp hstart
      obtain ⟨b, -, rfl⟩ := List.mem_map.mp hstart
      rfl

/-- A held handler that is called belongs to a mode on the stack and sees the scene as it is. -/
theorem exists_of_called {store : SwitchStore} {live : List ModeId} {scene : Scene κ}
    {o : Obligation} {start : CallbackSite × Glimpse}
    (h : called store live scene o = some start) :
    ∃ id ∈ live, ∃ binding switch, start = scene.startAt (.handler id binding switch) := by
  simp only [called] at h
  split at h
  · rename_i switch _
    split at h
    · rename_i hlive
      exact ⟨o.mode, hlive, o.binding, switch.name, (Option.some.inj h).symm⟩
    · cases h
  · cases h

/-- The callbacks of a tick: every pass hook, then the handlers that are due. -/
def tickSites (s : ModeStack σ κ) (due : List CallbackSite) : List CallbackSite :=
  s.ids.map (fun id => .hook id .tick) ++ due

theorem shift_tick (s : ModeStack σ κ) (scene : Scene κ) :
    ∃ due, (∀ site ∈ due, site.isHandler = true) ∧
      Shift s (tick (ε := Fault) (s, scene)).2.1 (s.tickSites due) ∧
      scene.Passes ((s.tickSites due).map scene.startAt)
        (tick (ε := Fault) (s, scene)).2.2 := by
  obtain ⟨t, after, hline, hseq, hcase⟩ := tick_cases (ε := Fault) s scene
  have hhooks : (s.ids.map fun id => CallbackSite.hook id .tick).map scene.startAt =
      hooksOf s.slots scene := by
    rw [List.map_map]
    rfl
  have runs {due : List CallbackSite}
      (hdue : ∀ site ∈ due, ∃ slot ∈ s.slots, site.Runs slot.mode.id) :
      ∀ site ∈ s.tickSites due, ∃ slot ∈ s.slots, site.Runs slot.mode.id := by
    refine List.forall_mem_append.mpr ⟨fun site hsite => ?_, hdue⟩
    obtain ⟨id, hid, rfl⟩ := List.mem_map.mp hsite
    obtain ⟨slot, hslot, rfl⟩ := exists_of_mem_idsOf hid
    exact ⟨slot, hslot, .inl rfl⟩
  rcases hcase with ⟨htick, -, hpass⟩ | ⟨⟨report, htick⟩, -, hpass⟩ <;> rw [htick]
  · have nothing : ∀ site ∈ ([] : List CallbackSite), ∃ slot ∈ s.slots, site.Runs slot.mode.id :=
      List.forall_mem_nil _
    refine ⟨[], List.forall_mem_nil _, .stay hline hseq (runs nothing), ?_⟩
    rw [tickSites, List.append_nil, hhooks]
    exact hpass
  · let store := scene.cabinet.switches
    let calls := (s.holds.due scene.now store).filterMap (called store (idsOf s.slots) scene)
    have hcalls (start : CallbackSite × Glimpse) (h : start ∈ calls) :
        ∃ id ∈ idsOf s.slots, ∃ binding switch,
          start = scene.startAt (.handler id binding switch) := by
      obtain ⟨o, -, ho⟩ := List.mem_filterMap.mp h
      exact exists_of_called ho
    refine ⟨calls.map Prod.fst, fun site hsite => ?_, .stay hline hseq (runs fun site hsite => ?_),
      ?_⟩
    · obtain ⟨start, hstart, rfl⟩ := List.mem_map.mp hsite
      obtain ⟨id, -, binding, switch, rfl⟩ := hcalls start hstart
      rfl
    · obtain ⟨start, hstart, rfl⟩ := List.mem_map.mp hsite
      obtain ⟨id, hid, binding, switch, rfl⟩ := hcalls start hstart
      obtain ⟨slot, hslot, rfl⟩ := exists_of_mem_idsOf hid
      exact ⟨slot, hslot, .inr ⟨binding, switch, rfl⟩⟩
    · rw [tickSites, List.map_append, hhooks, Scene.map_startAt]
      · exact hpass
      · intro start hstart
        obtain ⟨id, -, binding, switch, rfl⟩ := hcalls start hstart
        rfl

end ModeStack

/-! ### What stays as it is besides the stack -/

namespace Engine
variable {σ κ : Type}

/-- Only the scene changes, and no callback begins. -/
structure Mute (s t : Engine σ κ × Scene κ) : Prop where
  stack : t.1.stack = s.1.stack
  game : t.1.game = s.1.game
  rules : t.1.rules = s.1.rules
  passes : s.2.Passes [] t.2

instance : Composes (Mute (σ := σ) (κ := κ)) where
  refl s := ⟨rfl, rfl, rfl, .refl s.2⟩
  trans h h' := ⟨h'.stack.trans h.stack, h'.game.trans h.game, h'.rules.trans h.rules,
    h.passes.trans h'.passes⟩

theorem mute_count (f : Stats → Stats) : (count f : Step σ κ Unit).Within Mute :=
  .modify fun s => ⟨rfl, rfl, rfl, .refl s.2⟩

theorem mute_log (severity : Severity) (text : String) :
    (log severity text : Step σ κ Unit).Within Mute :=
  fun s => ⟨rfl, rfl, rfl, s.2.passes_remark severity text⟩

theorem mute_record (r : Report) : (record r : Step σ κ Unit).Within Mute := mute_count _

theorem mute_failFrame (text : String) : (failFrame text : Step σ κ Unit).Within Mute :=
  .bind (mute_count _) fun _ => mute_log _ _

/-- A walk is a dispatch on the stack, and counting. -/
theorem mute_walkDown (switch : Switch) (s : Engine σ κ × Scene κ) :
    Mute (onStack (ModeStack.dispatch (ε := Fault) switch) s).2 (walkDown switch s).2 := by
  let counted : Engine σ κ × Scene κ :=
    ({ s.1 with stats := { s.1.stats with dispatches := s.1.stats.dispatches + 1 } }, s.2)
  have hafter : Mute (onStack (ModeStack.dispatch switch) counted).2 (walkDown switch s).2 :=
    Act.Within.after (R := Mute) (fun report => .bind (mute_record report) fun _ => .pure report)
      (onStack (ModeStack.dispatch switch)) counted
  exact ⟨hafter.stack, hafter.game, hafter.rules, hafter.passes⟩

/-- A pass is a tick of the stack, and counting. -/
theorem mute_passOnce (s : Engine σ κ × Scene κ) :
    Mute (onStack (ModeStack.tick (ε := Fault)) s).2 (passOnce s).2 :=
  Act.Within.after (R := Mute) (fun report => .bind (mute_record report) fun _ => .pure report)
    (onStack ModeStack.tick) s

/-- To carry out a request to remove a mode is to remove it, and to remark if it was not there. -/
theorem mute_removeMode (id : ModeId) (s : Engine σ κ × Scene κ) :
    Mute (onStack (ModeStack.remove id) s).2 (apply (.removeMode id) s).2 :=
  Act.Within.after (R := Mute) (fun _ => .ite (.bind .get fun _ => mute_log _ _) (.pure ()))
    (onStack (ModeStack.remove id)) s

/-- What follows the beginning of the frame callback. -/
def runFrame (handler : FrameHandler σ κ) : Step σ κ Unit := do
  let outcome ← fun (e, scene) =>
    match (handler.run handler.memory).play (handler.memory, scene) with
    | (o, memory, scene) =>
      (.ok o, { e with frameHandler := some { handler with memory } }, scene)
  match outcome with
  | .ok _ => pure ()
  | .error (.board f) => .fail f
  | .error e => failFrame ("frame handler failed: " ++ e.message)
  | .panic m => failFrame ("frame handler panicked: " ++ m)

theorem mute_runFrame (handler : FrameHandler σ κ) :
    (runFrame handler : Step σ κ Unit).Within Mute := by
  refine .bind (fun s => ?_) fun outcome => ?_
  · exact ⟨rfl, rfl, rfl, (handler.run handler.memory).play_passes handler.memory s.2⟩
  · split
    · exact .pure ()
    · exact .fail _
    · exact mute_failFrame _
    · exact mute_failFrame _

/-- Without a frame callback nothing happens. Otherwise it begins, and nothing but the scene changes
from then on. -/
theorem mute_frameOnce (e : Engine σ κ) (scene : Scene κ) :
    Mute (e, scene) (frameOnce (e, scene)).2 ∨
      Mute (e, scene.begin .frame) (frameOnce (e, scene)).2 := by
  let counted : Engine σ κ := { e with stats := { e.stats with frames := e.stats.frames + 1 } }
  cases hf : e.frameHandler with
  | none =>
    left
    simp only [frameOnce, Act.bind_apply, count, Act.modify, Act.get, hf]
    exact ⟨rfl, rfl, rfl, .refl scene⟩
  | some handler =>
    right
    have hrun : frameOnce (e, scene) = runFrame handler (counted, scene.begin .frame) := by
      simp only [frameOnce, Act.bind_apply, count, Act.modify, Act.get, inScene, hf]
      rfl
    have hrest := mute_runFrame handler (counted, scene.begin .frame)
    rw [hrun]
    exact ⟨hrest.stack, hrest.game, hrest.rules, hrest.passes⟩

end Engine

/-! ### Turns -/

namespace Taken
variable {σ κ : Type}

/-- What a turn does. -/
inductive Does (k : Taken σ κ) : Prop where
  /-- Callbacks of modes run, each of which sees the scene as it is. -/
  | modes (other : k.turn.game? = none) (sites : List CallbackSite)
    (shift : k.start.1.stack.Shift k.next.1.stack sites)
    (passes : k.start.2.Passes (sites.map k.start.2.startAt) k.next.2)
    (game : k.next.1.game = k.start.1.game) (rules : k.next.1.rules = k.start.1.rules)
  /-- The frame callback runs. -/
  | frame (other : k.turn.game? = none) (stack : k.next.1.stack = k.start.1.stack)
    (passes : k.start.2.Passes
      [(.frame, ⟨k.start.2.now, k.start.2.running, k.start.2.game, k.start.2.flippers⟩)] k.next.2)
    (game : k.next.1.game = k.start.1.game) (rules : k.next.1.rules = k.start.1.rules)
  /-- The game serves a request, or begins to. -/
  | game (request : GameRequest) (turn : k.turn.game? = some request)
    (stack : k.next.1.stack = k.start.1.stack) (shown : List (GameHook × GameStatus))
    (first : shown <+: (k.start.1.game.standing.after request k.start.2.now).1)
    (runs : k.start.2.Runs shown k.next.2)
    (status : k.start.2.game = k.start.1.game.status → k.next.2.game = k.next.1.game.status)
    (rules : k.next.1.rules = k.start.1.rules)
  /-- Flippers are turned on or off, or that fails and they stay as they are. -/
  | flippers (other : k.turn.game? = none) (stack : k.next.1.stack = k.start.1.stack)
    (game : k.next.1.game = k.start.1.game) (now : k.next.2.now = k.start.2.now)
    (running : k.next.2.running = k.start.2.running) (status : k.next.2.game = k.start.2.game)
    (starts : k.next.2.starts = k.start.2.starts)
    (requests : k.next.2.requests = k.start.2.requests)
    (flag : k.next.1.rules.enabled = k.start.1.rules.enabled ∧
        k.next.2.flippers = k.start.2.flippers ∨
      k.next.2.flippers = k.next.1.rules.enabled)

/-- The callbacks that begin are those that see the scene as it is. -/
theorem began_of_passes {k : Taken σ κ} {sites : List CallbackSite}
    (h : k.start.2.Passes (sites.map k.start.2.startAt) k.next.2) : k.began = sites := by
  have hbegan := began_eq h.starts
  rw [List.map_map] at hbegan
  exact hbegan.trans (List.map_id _)

theorem began_of_runs {k : Taken σ κ} {shown : List (GameHook × GameStatus)}
    (h : k.start.2.Runs shown k.next.2) : k.began = shown.map fun x => .lifecycle x.1 := by
  rw [began_eq h.starts, List.map_map]
  rfl

theorem began_of_same {k : Taken σ κ} (h : k.next.2.starts = k.start.2.starts) : k.began = [] :=
  began_eq (h.trans (List.append_nil _).symm)

/-- A turn that works on the stack, and only remarks and counts afterwards. -/
theorem does_modes {k : Taken σ κ} (other : k.turn.game? = none) {x : ModeStack σ κ × Scene κ}
    {sites : List CallbackSite} (shift : k.start.1.stack.Shift x.1 sites)
    (passes : k.start.2.Passes (sites.map k.start.2.startAt) x.2)
    (after : Engine.Mute ({ k.start.1 with stack := x.1 }, x.2) k.next) : k.Does := by
  have hpass := passes.trans after.passes
  rw [List.append_nil] at hpass
  exact .modes other sites (after.stack ▸ shift) hpass after.game after.rules

theorem does_frame (e : Engine σ κ) (scene : Scene κ) : (⟨.frame, e, scene⟩ : Taken σ κ).Does := by
  rcases Engine.mute_frameOnce e scene with h | h
  · exact .modes rfl [] (.still (congrArg ModeStack.slots h.stack)
      (congrArg ModeStack.nextSeq h.stack)) h.passes h.game h.rules
  · have hbegin : scene.Passes [(.frame, ⟨scene.now, scene.running, scene.game, scene.flippers⟩)]
        (scene.begin .frame) :=
      ⟨rfl, rfl, rfl, rfl, rfl, scene.starts_begin .frame, List.prefix_rfl⟩
    exact .frame rfl h.stack (hbegin.trans h.passes) h.game h.rules

/-- Whatever becomes of a request to the game, its callbacks are the first ones of the rules. -/
theorem exists_shown {request : GameRequest} {s : Game σ κ × Scene κ}
    {t : Outcome Fault Unit × Game σ κ × Scene κ} (h : Game.Served request s t) :
    ∃ shown, shown <+: (s.1.standing.after request s.2.now).1 ∧ s.2.Runs shown t.2.2 ∧
      (s.2.game = s.1.status → t.2.2.game = t.2.1.status) := by
  cases h with
  | done leads => exact ⟨_, List.prefix_rfl, leads.runs, leads.shown⟩
  | cut ball playing failed leads =>
    refine ⟨_, ?_, leads.runs, leads.shown⟩
    have hplaying : s.1.standing.status.inProgress = true := playing
    rw [ball, Standing.after, if_pos hplaying]
    exact List.cons_prefix_cons.mpr ⟨rfl, List.nil_prefix⟩

theorem does_game (request : GameRequest) (e : Engine σ κ) (scene : Scene κ) :
    (⟨.serve (.game request), e, scene⟩ : Taken σ κ).Does := by
  have hserved := Game.served request (e.game, scene)
  rcases happly : Game.apply request (e.game, scene) with ⟨o, g, after⟩
  rw [happly] at hserved
  obtain ⟨shown, first, runs, status⟩ := exists_shown hserved
  have hgame : Engine.onGame (Game.apply request) (e, scene) =
      (o, { e with game := g }, after) := by
    simp only [Engine.onGame, Act.zoom, happly]
  cases o with
  | ok _ =>
    have hnext : (⟨.serve (.game request), e, scene⟩ : Taken σ κ).next =
        ({ e with game := g }, { after with game := g.status }) :=
      congrArg Prod.snd (Act.bind_ok hgame)
    refine .game request rfl ?_ shown first ?_ ?_ ?_ <;> rw [hnext]
    · exact ⟨runs.now, runs.running, runs.flippers, runs.starts⟩
    · exact fun _ => rfl
  | _ =>
    have hnext : (⟨.serve (.game request), e, scene⟩ : Taken σ κ).next =
        ({ e with game := g }, after) := by
      simp only [next, Turn.act, Engine.apply, Act.bind_apply, hgame]
    refine .game request rfl ?_ shown first ?_ ?_ ?_ <;> rw [hnext]
    · exact runs
    · exact status

theorem does_flippers (enable : Bool) (e : Engine σ κ) (scene : Scene κ) :
    (⟨.serve (.flippers enable), e, scene⟩ : Taken σ κ).Does := by
  have hstarts := FlipperRules.keeps_starts_setEnabled enable scene.now
    (e.rules, scene.cabinet.drivers, scene.cabinet.bench)
  have hcases := FlipperRules.setEnabled_cases enable scene.now
    (e.rules, scene.cabinet.drivers, scene.cabinet.bench)
  rcases hset : FlipperRules.setEnabled enable scene.now
    (e.rules, scene.cabinet.drivers, scene.cabinet.bench) with ⟨o, rules, drivers, bench⟩
  rw [hset] at hstarts hcases
  let after : Scene κ := { scene with cabinet := { scene.cabinet with drivers, bench } }
  have hrules : Engine.onRules (FlipperRules.setEnabled enable scene.now) (e, scene) =
      (o, { e with rules }, after) := by
    simp only [Engine.onRules, Act.zoom, hset, after]
  have hfirst : (⟨.serve (.flippers enable), e, scene⟩ : Taken σ κ).next =
      ((Engine.onRules (FlipperRules.setEnabled enable scene.now) >>= fun _ =>
        Engine.inScene fun _ scene => { scene with flippers := enable } :
          Engine.Step σ κ Unit) (e, scene)).2 := rfl
  -- The rules stay as they are in the endings that the scene does not learn of.
  have failed (hne : ∀ wrote, o ≠ .ok wrote) : rules.enabled = e.rules.enabled := by
    rcases hcases with ⟨-, -, heq⟩ | ⟨-, ⟨-, heq⟩ | ⟨-, -, heq⟩⟩
    · exact absurd (congrArg Prod.fst heq) (hne false)
    · exact absurd (congrArg Prod.fst heq) (hne true)
    · exact congrArg (fun x => x.1.enabled) heq
  cases o with
  | ok wrote =>
    have hflag : rules.enabled = enable := by
      rcases hcases with ⟨rfl, hon, heq⟩ | ⟨-, ⟨-, heq⟩ | ⟨-, hne, -⟩⟩
      · exact (congrArg (fun x => x.2.1.enabled) heq).trans hon
      · exact congrArg (fun x => x.2.1.enabled) heq
      · exact absurd rfl (hne wrote)
    have hnext : (⟨.serve (.flippers enable), e, scene⟩ : Taken σ κ).next =
        ({ e with rules }, { after with flippers := enable }) :=
      hfirst.trans (congrArg Prod.snd (Act.bind_ok hrules))
    refine .flippers rfl ?_ ?_ ?_ ?_ ?_ ?_ ?_ (.inr ?_) <;> rw [hnext]
    · exact hstarts
    · exact hflag.symm
  | _ =>
    have hnext : (⟨.serve (.flippers enable), e, scene⟩ : Taken σ κ).next =
        ({ e with rules }, after) := by
      rw [hfirst]
      simp only [Act.bind_apply, hrules]
    refine .flippers rfl ?_ ?_ ?_ ?_ ?_ ?_ ?_ (.inl ⟨?_, ?_⟩) <;> rw [hnext]
    · exact hstarts
    · exact failed (by simp)

theorem does (k : Taken σ κ) : k.Does := by
  obtain ⟨turn, e, scene⟩ := k
  cases turn with
  | join mode =>
    obtain ⟨sites, hshift, hpass⟩ := ModeStack.shift_add mode e.stack scene
    exact .modes rfl sites hshift hpass rfl rfl
  | leave id =>
    obtain ⟨sites, hshift, hpass⟩ := ModeStack.shift_remove id e.stack scene
    exact does_modes rfl hshift hpass
      (Act.Within.after (R := Engine.Mute) (fun _ => .pure ())
        (Engine.onStack (ModeStack.remove id)) (e, scene))
  | walk switch =>
    obtain ⟨sites, hshift, hpass⟩ := ModeStack.shift_dispatch switch e.stack scene
    have hwalk := Engine.mute_walkDown switch (e, scene)
    rw [← Act.state_discard (Engine.walkDown switch)] at hwalk
    exact does_modes rfl hshift hpass hwalk
  | pass =>
    obtain ⟨due, -, hshift, hpass⟩ := ModeStack.shift_tick e.stack scene
    have htick := Engine.mute_passOnce (e, scene)
    rw [← Act.state_discard Engine.passOnce] at htick
    exact does_modes rfl hshift hpass htick
  | frame => exact does_frame e scene
  | serve r =>
    cases r with
    | addMode id kind =>
      obtain ⟨sites, hshift, hpass⟩ :=
        ModeStack.shift_add { e.catalogue kind id with id } e.stack scene
      exact .modes rfl sites hshift hpass rfl rfl
    | removeMode id =>
      obtain ⟨sites, hshift, hpass⟩ := ModeStack.shift_remove id e.stack scene
      exact does_modes rfl hshift hpass (Engine.mute_removeMode id (e, scene))
    | game request => exact does_game request e scene
    | flippers enable => exact does_flippers enable e scene

/-- The callbacks that have begun stay on record, and those of the turn are put behind them. -/
theorem starts_next (k : Taken σ κ) :
    k.next.2.starts.map Prod.fst = k.start.2.starts.map Prod.fst ++ k.began := by
  have appended {begun : List (CallbackSite × Glimpse)}
      (h : k.next.2.starts = k.start.2.starts ++ begun) :
      k.next.2.starts.map Prod.fst = k.start.2.starts.map Prod.fst ++ k.began := by
    rw [began_eq h, h, List.map_append]
  cases k.does with
  | modes _ _ _ passes => exact appended passes.starts
  | frame _ _ passes => exact appended passes.starts
  | game _ _ _ _ _ runs => exact appended runs.starts
  | flippers _ _ _ _ _ _ starts => exact appended (starts.trans (List.append_nil _).symm)

/-- What waited before the turn still waits, and what is asked for in it waits behind. -/
theorem requests_next (k : Taken σ κ) :
    k.next.2.requests = k.start.2.requests ++ k.asked := by
  have hprefix : k.start.2.requests <+: k.next.2.requests := by
    cases k.does with
    | modes _ _ _ passes => exact passes.asked
    | frame _ _ passes => exact passes.asked
    | game request turn =>
      obtain ⟨turn', s⟩ := k
      cases turn' with
      | serve r => exact (Engine.calm_apply r s).scene.asked
      | _ => cases turn
    | flippers _ _ _ _ _ _ _ requests => exact requests ▸ List.prefix_rfl
  obtain ⟨new, hnew⟩ := hprefix
  rw [asked, ← hnew, List.drop_left]

end Taken

end Playfield
