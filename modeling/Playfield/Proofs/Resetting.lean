import Playfield.Proofs.Lives

/-!
# Resetting a machine

A reset that goes well takes every mode off, and with them every held handler that waits; it ends
any game, and it takes down the flipper rules, whatever the last hooks of the modes ask for. But
what they ask for is done after the modes have left, so a mode that is asked for then is there to
stay, unless it is asked to leave later on. `Machine.reset_leaves` says just which modes a reset
leaves on the stack.
-/
namespace Playfield

namespace ModeStack
variable {σ κ : Type}

/-- Each mode of a stack that is removed in turn is the first one when its turn comes. -/
theorem slots_removeAll {ids : List ModeId} (first : Option Fault) {s : ModeStack σ κ}
    (scene : Scene κ) (h : s.ids = ids) : (removeAll ids first (s, scene)).2.1.slots = [] := by
  induction ids generalizing first s scene with
  | nil => exact List.map_eq_nil_iff.mp h
  | cons id rest ih =>
    have hid : id ∈ s.ids := h ▸ List.mem_cons_self
    have hslots := (remove_present hid scene).1
    have hrest : (remove id (s, scene)).2.1.ids = rest := by
      obtain ⟨slot, slots, hcons, rfl, hids⟩ := List.map_eq_cons_iff.mp h
      rw [hcons, erase, if_pos rfl] at hslots
      rw [ids, hslots]
      exact hids
    simp only [removeAll]
    split <;> rename_i hr <;> rw [hr] at hrest <;> exact ih _ _ hrest

theorem slots_clear (s : ModeStack σ κ) (scene : Scene κ) : (clear (s, scene)).2.1.slots = [] := by
  have hall := slots_removeAll none scene (rfl : s.ids = s.ids)
  simp only [clear]
  split <;> rename_i hr <;> rw [hr] at hall <;> exact hall

theorem slots_eq_nil_iff {s : ModeStack σ κ} : s.slots = [] ↔ ∀ id, id ∉ s.ids := by
  rw [← List.eq_nil_iff_forall_not_mem]
  exact List.map_eq_nil_iff.symm

/-- Nothing waits on an empty stack. -/
theorem Sound.waiting_nil {store : SwitchStore} {s : ModeStack σ κ} (h : s.Sound store)
    (none : s.slots = []) : s.holds.pending = [] := by
  refine List.eq_nil_iff_forall_not_mem.mpr fun o ho => ?_
  obtain ⟨slot, hslot, -⟩ := (h.backed o ho).bound
  rw [none] at hslot
  exact nomatch hslot

theorem mem_ids_add {m : Mode σ κ} {s : ModeStack σ κ} (scene : Scene κ) {id : ModeId} :
    id ∈ (add m (s, scene)).2.1.ids ↔ id = m.id ∨ id ∈ s.ids := by
  by_cases hm : m.id ∈ s.ids
  · rw [(add_there hm scene).1]
    refine ⟨.inr, fun h => h.elim (fun hid => ?_) fun hid => hid⟩
    rw [hid]
    exact hm
  · obtain ⟨m', hfix, hslots, -⟩ := add_new hm scene
    rw [ids, hslots, ((insertSlot_perm _ _).map _).mem_iff, List.map_cons, List.mem_cons,
      Mode.id_eq_of_fixed hfix]
    rfl

theorem mem_ids_remove {s : ModeStack σ κ} (distinct : s.ids.Nodup) (other : ModeId)
    (scene : Scene κ) {id : ModeId} :
    id ∈ (remove other (s, scene)).2.1.ids ↔ id ≠ other ∧ id ∈ s.ids := by
  by_cases hother : other ∈ s.ids
  · rw [ids, (remove_present hother scene).1]
    constructor
    · intro h
      obtain ⟨slot, hslot, rfl⟩ := exists_of_mem_idsOf h
      exact ⟨id_ne_of_mem_erase distinct hslot, mem_idsOf ((erase_sublist other s.slots).mem hslot)⟩
    · rintro ⟨hne, h⟩
      obtain ⟨slot, hslot, rfl⟩ := exists_of_mem_idsOf h
      exact mem_idsOf (mem_erase hslot hne)
  · rw [remove_absent hother scene]
    refine ⟨fun h => ⟨fun hid => ?_, h⟩, And.right⟩
    rw [hid] at h
    exact hother h

end ModeStack

/-! ### Which modes requests leave -/

/-- Among some requests there is one to add the mode, and none to remove it comes later. -/
def AddedLast {κ : Type} (id : ModeId) (requests : List (Request κ)) : Prop :=
  ∃ before kind after, requests = before ++ .addMode id kind :: after ∧ .removeMode id ∉ after

/-- No mode is added last just if each one that is added is removed later on. -/
theorem not_addedLast_iff {κ : Type} {requests : List (Request κ)} :
    (∀ id, ¬ AddedLast id requests) ↔ ∀ before id kind after,
      requests = before ++ .addMode id kind :: after → .removeMode id ∈ after := by
  constructor
  · intro hno before id kind after hsplit
    by_contra hnot
    exact hno id ⟨before, kind, after, hsplit, hnot⟩
  · intro hall id hadded
    obtain ⟨before, kind, after, hsplit, hnot⟩ := hadded
    exact hnot (hall before id kind after hsplit)

theorem addedLast_concat {κ : Type} {id : ModeId} {requests : List (Request κ)} {r : Request κ} :
    AddedLast id (requests ++ [r]) ↔
      (∃ kind, r = .addMode id kind) ∨ r ≠ .removeMode id ∧ AddedLast id requests := by
  constructor
  · rintro ⟨before, kind, after, hsplit, hnot⟩
    rcases List.eq_nil_or_concat after with rfl | ⟨after, last, rfl⟩
    · exact .inl ⟨kind, List.singleton_inj.mp (List.append_inj' hsplit rfl).2⟩
    · rw [List.concat_eq_append, ← List.cons_append, ← List.append_assoc] at hsplit
      obtain ⟨rfl, hlast⟩ := List.append_inj' hsplit rfl
      rw [← List.singleton_inj.mp hlast, List.concat_eq_append, List.mem_append, not_or,
        List.mem_singleton] at hnot
      exact .inr ⟨fun h => hnot.2 h.symm, before, kind, after, rfl, hnot.1⟩
  · rintro (⟨kind, rfl⟩ | ⟨hother, before, kind, after, rfl, hnot⟩)
    · exact ⟨requests, kind, [], rfl, List.not_mem_nil⟩
    · refine ⟨before, kind, after ++ [r], by rw [List.append_assoc, List.cons_append], ?_⟩
      rw [List.mem_append, not_or, List.mem_singleton]
      exact ⟨hnot, fun h => hother h.symm⟩

namespace Taken
variable {σ κ : Type}

/-- A request to add or remove a mode does so, and no other one changes which modes there are. -/
theorem mem_ids_next {k : Taken σ κ} {r : Request κ} (h : k.turn = .serve r)
    (orderly : k.start.1.stack.Orderly) (id : ModeId) :
    id ∈ k.next.1.stack.ids ↔
      (∃ kind, r = .addMode id kind) ∨ r ≠ .removeMode id ∧ id ∈ k.start.1.stack.ids := by
  obtain ⟨turn, e, scene⟩ := k
  cases h
  have same (hstack : (⟨.serve r, e, scene⟩ : Taken σ κ).next.1.stack = e.stack)
      (hadd : ∀ kind, r ≠ .addMode id kind) (hremove : r ≠ .removeMode id) :
      id ∈ (⟨.serve r, e, scene⟩ : Taken σ κ).next.1.stack.ids ↔
        (∃ kind, r = .addMode id kind) ∨ r ≠ .removeMode id ∧ id ∈ e.stack.ids := by
    rw [hstack]
    constructor
    · intro hid
      exact .inr ⟨hremove, hid⟩
    · rintro (⟨kind, hr⟩ | ⟨-, hid⟩)
      · exact absurd hr (hadd kind)
      · exact hid
  cases r with
  | addMode other kind =>
    let mode : Mode σ κ := { e.catalogue kind other with id := other }
    have hadd : id ∈ (ModeStack.add mode (e.stack, scene)).2.1.ids ↔
        id = other ∨ id ∈ e.stack.ids := ModeStack.mem_ids_add scene
    refine Iff.trans hadd ?_
    simp [eq_comm]
  | removeMode other =>
    have hstack : (⟨.serve (.removeMode other), e, scene⟩ : Taken σ κ).next.1.stack =
        (ModeStack.remove other (e.stack, scene)).2.1 :=
      (Engine.mute_removeMode other (e, scene)).stack
    rw [hstack, ModeStack.mem_ids_remove orderly.ids]
    simp [eq_comm]
  | game request =>
    have hstack : (Engine.apply (.game request) : Engine.Step σ κ Unit).Keeps
      fun s => s.1.stack := .bind (fun _ => rfl) fun _ => fun _ => rfl
    exact same (hstack (e, scene)) (by simp) (by simp)
  | flippers enable =>
    have hstack : (Engine.apply (.flippers enable) : Engine.Step σ κ Unit).Keeps
      fun s => s.1.stack := .bind .get fun _ => .bind (fun _ => rfl) fun _ => fun _ => rfl
    exact same (hstack (e, scene)) (by simp) (by simp)

end Taken

/-- Where every mode has been taken off the stack is empty, and no held handler waits. -/
theorem Engine.empty_of_clear {σ κ : Type} {store : SwitchStore} {s t : Engine σ κ × Scene κ}
    (h : onStack ModeStack.clear s = (.ok (), t)) (sound : s.1.stack.Sound store) :
    t.1.stack.slots = [] ∧ t.1.stack.holds.pending = [] := by
  have hslots : (onStack ModeStack.clear s).2.1.stack.slots = [] :=
    ModeStack.slots_clear s.1.stack s.2
  have hcleared := Engine.quiet_of_calm (Engine.calm_onStack ModeStack.calm_clear) s
  rw [h] at hslots hcleared
  exact ⟨hslots, (hcleared.sound store sound).waiting_nil hslots⟩

/-- Doing what was asked for leaves those modes on an empty stack that were added last. -/
theorem Engine.mem_ids_settle {σ κ : Type} {s : Engine σ κ × Scene κ} (none : s.1.stack.slots = [])
    (id : ModeId) :
    id ∈ (settle s).2.1.stack.ids ↔
      AddedLast id (Taken.served (settling s)) := by
  -- Carried along the turns: the modes are those that the requests so far added last.
  let P (past : List (Taken σ κ)) (t : Engine σ κ × Scene κ) : Prop :=
    t.1.stack.Orderly ∧ (id ∈ t.1.stack.ids ↔ AddedLast id (Taken.served past))
  have hbegin : P [] s := by
    refine ⟨.of_none none, ?_⟩
    have hids : s.1.stack.ids = [] := List.map_eq_nil_iff.mpr none
    rw [hids]
    refine ⟨fun h => (nomatch h), fun h => ?_⟩
    obtain ⟨before, kind, after, hsplit, -⟩ := h
    exact absurd hsplit (by simp [Taken.served])
  have hend : P ([] ++ settling s) (settle s).2 := by
    refine (along_servings maxRounds s).fold (P := P) ?_ ?_ hbegin
    · intro past t u hstill ht
      simp only [P, hstill.stack]
      exact ht
    · intro k hk past ht
      obtain ⟨r, hr⟩ := serve_of_mem_servings hk
      obtain ⟨sites, hshift, -⟩ := k.exists_shift
      refine ⟨ht.1.shift hshift, ?_⟩
      have hlast : Taken.served [k] = [r] := by
        simp only [Taken.served, List.filterMap_cons, List.filterMap_nil, hr, Turn.request?]
      rw [k.mem_ids_next hr ht.1, Taken.served_append, hlast, addedLast_concat, ht.2]
  exact hend.2

namespace Machine
variable {σ κ : Type}

/-- A reset that goes well is a clearing of the stack, what was asked for meanwhile, the end of the
game and the flippers turned off. -/
theorem reset_ok {m m' : Machine σ κ} (h : reset m = (.ok (), m')) :
    ∃ (cleared settled : Engine σ κ × Scene κ) (wrote : Bool),
      let logged := m.remark .info "resetting machine"
      let rig : Rig := (settled.1.rules, settled.2.cabinet.drivers, settled.2.cabinet.bench)
      Engine.onStack ModeStack.clear (logged.engine, logged.scene m.now) = (.ok (), cleared) ∧
      Engine.settle cleared = (.ok (), settled) ∧
      (FlipperRules.setEnabled false settled.2.cabinet.clock.now rig).1 = .ok wrote ∧
      m'.engine.stack = settled.1.stack ∧ m'.engine.game = settled.1.game.reset ∧
      m'.rig = (FlipperRules.setEnabled false settled.2.cabinet.clock.now rig).2 := by
  obtain ⟨_, logged, hlog, h⟩ := Act.bind_eq_ok h
  cases hlog
  obtain ⟨_, _, hget, h⟩ := Act.bind_eq_ok h
  cases hget
  obtain ⟨_, m₁, hcontext, h⟩ := Act.bind_eq_ok h
  obtain ⟨e, scene, e', scene', hclear, hsettle, rfl⟩ := inContext_ok hcontext
  obtain ⟨_, _, hgame, h⟩ := Act.bind_eq_ok h
  cases hgame
  obtain ⟨wrote, m₂, hset, h⟩ := Act.bind_eq_ok h
  cases h
  refine ⟨(e, scene), (e', scene'), wrote, hclear, hsettle, ?_⟩
  simp only [enableFlippers, Prod.mk.injEq] at hset
  obtain ⟨hvalue, rfl⟩ := hset
  exact ⟨hvalue, rfl, rfl, rfl⟩

/-- The requests that are carried out in a reset that goes well are those that the last hooks of the
modes lead to. -/
theorem served_reset {m : Machine σ κ} {cleared settled : Engine σ κ × Scene κ}
    (hclear : Engine.onStack ModeStack.clear ((m.remark .info "resetting machine").engine,
      (m.remark .info "resetting machine").scene m.now) = (.ok (), cleared))
    (hsettle : Engine.settle cleared = (.ok (), settled)) :
    Taken.served (Call.reset.turns m) = Taken.served (Engine.settling cleared) := by
  let logged := m.remark .info "resetting machine"
  have hlog : Stage.act (.aside (.log .info "resetting machine")) m = (.ok (), logged) := rfl
  have hstage : ∃ m₁, Stage.act (.clear m.now) logged = (.ok (), m₁) := by
    simp only [Stage.act, inContext, logged, hclear, hsettle]
    exact ⟨_, rfl⟩
  obtain ⟨m₁, hstage⟩ := hstage
  have hgame : ∃ m₂, Stage.act (.aside .resetGame) m₁ = (.ok (), m₂) := ⟨_, rfl⟩
  obtain ⟨m₂, hgame⟩ := hgame
  have hstages : Call.reset.stages m = Call.plan .reset m := by
    simp only [Call.stages, Call.plan]
    rw [Act.tried_ok hlog, Act.tried_ok hstage, Act.tried_ok hgame]
    simp only [Act.tried]
    split <;> rfl
  have hturns : Call.reset.turns m = (Stage.clear m.now).turns logged := by
    rw [Call.turns, hstages]
    simp only [Call.plan, turnsAlong, Stage.turns, List.nil_append, List.append_nil]
    rfl
  rw [hturns, Stage.turns, Taken.served_append, Engine.served_leaving, List.nil_append, hclear]
  rfl

/-- After any run of a new machine, a reset that goes well leaves no held handler waiting, no game
in progress and no extra ball, and it leaves the flippers off and none of their rules on the board.
The modes it leaves on the stack are those that were asked for meanwhile and not asked to leave
later, so the stack is empty just if every mode that was asked for was asked to leave later on. -/
theorem reset_leaves {m₀ : Machine σ κ} (built : m₀.Built) (ops : List (Operation σ κ))
    {m' : Machine σ κ} (h : reset (performAll ops m₀).2 = (.ok (), m')) :
    let served := Taken.served (Call.reset.turns (performAll ops m₀).2)
    m'.waiting = [] ∧ m'.engine.game.status.inProgress = false ∧
    (∀ player, m'.engine.game.extraBalls player = 0) ∧ m'.engine.rules.enabled = false ∧
    (∀ rule ∈ m'.engine.rules.compile true,
      m'.cabinet.bench.board.rules.get? (rule.switch, rule.trigger) = none) ∧
    (∀ id, id ∈ m'.engine.stack.ids ↔ ∃ before kind after,
      served = before ++ .addMode id kind :: after ∧ .removeMode id ∉ after) ∧
    (m'.engine.stack.slots = [] ↔ ∀ before id kind after,
      served = before ++ .addMode id kind :: after → .removeMode id ∈ after) := by
  generalize hm : (performAll ops m₀).2 = m at h ⊢
  intro served
  obtain ⟨cleared, settled, wrote, hclear, hsettle, hset, hstack, hgame, hrig⟩ := reset_ok h
  have hserved : served = Taken.served (Engine.settling cleared) := served_reset hclear hsettle
  have hsound : m.Sound := by
    rw [← hm, performAll_eq, afterCalls_eq]
    exact built.sound.afterStages _
  obtain ⟨hnone, hidle⟩ := Engine.empty_of_clear hclear hsound.stack
  have hsettled := Engine.quiet_settle cleared
  rw [hsettle] at hsettled
  have hids (id : ModeId) : id ∈ m'.engine.stack.ids ↔ AddedLast id served := by
    have hmem := Engine.mem_ids_settle hnone id
    rw [hsettle] at hmem
    rw [hstack, hserved]
    exact hmem
  obtain ⟨-, hrun, hbare⟩ := Rig.bare_of_setEnabled hset
  rw [← hrig] at hrun hbare
  have hrules : m'.engine.rules = { settled.1.rules with enabled := false } :=
    congrArg Prod.fst hrun
  refine ⟨?_, ?_, ?_, ?_, ?_, hids, ?_⟩
  · rw [waiting, hstack, ← List.sublist_nil, ← hidle]
    exact hsettled.waiting
  · rw [hgame]
    rfl
  · rw [hgame]
    intro player
    rfl
  · rw [hrules]
  · rw [hrules]
    exact hbare
  · rw [ModeStack.slots_eq_nil_iff, ← not_addedLast_iff]
    exact forall_congr' fun id => not_congr (hids id)

/-- A keeper, a game and the flippers are gone after a reset. -/
theorem keeper_gone_after_reset :
    ∃ (m₀ : Machine Unit Unit) (ops : List (Operation Unit Unit)) (m' : Machine Unit Unit),
      m₀.Built ∧ (performAll ops m₀).2.engine.stack.slots.length = 1 ∧
      (performAll ops m₀).2.engine.game.status.inProgress = true ∧
      (performAll ops m₀).2.engine.rules.enabled = true ∧
      reset (performAll ops m₀).2 = (.ok (), m') ∧
      m'.engine.stack.slots = [] ∧ m'.engine.game.status.inProgress = false ∧
      m'.engine.rules.enabled = false := by
  let ops : List (Operation Unit Unit) := [.addMode (gateKeeper (.ofMillis 5) .idle),
    .requestGame .startGame, .enableFlippers true]
  obtain ⟨m₀, hbuild, hmode, hgame, hflippers, hreset, hserved⟩ := exists_of_seen
    (x := build flipperTable {} {} () (fun _ _ => .idle)
      fun (_ : Unit) _ => gateKeeper .zero .idle)
    (P := fun m₀ => (performAll ops m₀).2.engine.stack.slots.length = 1 ∧
      (performAll ops m₀).2.engine.game.status.inProgress = true ∧
      (performAll ops m₀).2.engine.rules.enabled = true ∧
      (reset (performAll ops m₀).2).1 = .ok () ∧
      (Taken.served (Call.reset.turns (performAll ops m₀).2)).length = 0) (by decide +kernel)
  have built : m₀.Built := ⟨_, _, _, _, _, _, hbuild⟩
  have hok : reset (performAll ops m₀).2 = (.ok (), (reset (performAll ops m₀).2).2) :=
    Prod.ext hreset rfl
  obtain ⟨-, hover, -, hoff, -, -, hempty⟩ := reset_leaves built ops hok
  refine ⟨m₀, ops, _, built, hmode, hgame, hflippers, hok, hempty.mpr ?_, hover, hoff⟩
  intro before id kind after hsplit
  rw [List.length_eq_zero_iff.mp hserved] at hsplit
  exact absurd hsplit (by simp)

/-- A mode that asks for another one as it leaves. -/
def successorKeeper : Mode Unit Unit := partingKeeper (.ask (.addMode ⟨1⟩ ()) .idle)

/-- Not every reset that goes well leaves the stack empty: the mode that its last hook asked for is
on it. -/
theorem successor_stays_after_reset :
    ¬ ∀ m₀ : Machine Unit Unit, m₀.Built →
      ∀ (ops : List (Operation Unit Unit)) (m' : Machine Unit Unit),
        reset (performAll ops m₀).2 = (.ok (), m') → m'.engine.stack.slots = [] := by
  intro hall
  obtain ⟨m₀, built, hok, hleft⟩ := exists_gateMachine
    (P := fun m₀ => (reset (performAll [.addMode successorKeeper] m₀).2).1 = .ok () ∧
      (reset (performAll [.addMode successorKeeper] m₀).2).2.engine.stack.ids = [⟨1⟩])
    {} (by decide +kernel)
  have hslots := hall m₀ built [.addMode successorKeeper] _ (Prod.ext hok rfl)
  rw [ModeStack.ids, hslots] at hleft
  exact nomatch hleft

end Machine

end Playfield
