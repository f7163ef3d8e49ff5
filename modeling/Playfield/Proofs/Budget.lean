import Playfield.Proofs.Moves

/-!
# No handler begins more often than it may

A change of level lets each handler either begin at once or wait, and each at most once. A handler
that waits begins at most once before it is registered anew. So, counted together, the starts of a
handler and its waits do not grow while its switch keeps its level, and reach at most one more than
the starts before.
-/
namespace Playfield

/-- The handler that an obligation calls. -/
def Obligation.site (o : Obligation) : CallbackSite := .handler o.mode o.binding o.switch

namespace ModeStack
variable {σ κ : Type}

/-- The handlers that fit a switch at its level, in the modes of some slots. -/
def matchedSites (switch : Switch) (slots : List (Slot σ κ)) : List CallbackSite :=
  slots.flatMap fun slot => (matching switch slot.mode).map fun b =>
    .handler slot.mode.id b.number switch.name

theorem name_of_matched {switch : Switch} {slots : List (Slot σ κ)} {id : ModeId} {number : Nat}
    {name : String} (h : .handler id number name ∈ matchedSites switch slots) :
    name = switch.name := by
  obtain ⟨slot, -, hs⟩ := List.mem_flatMap.mp h
  obtain ⟨b, -, heq⟩ := List.mem_map.mp hs
  injection heq with _ _ hname
  exact hname.symm

theorem nodup_matchedSites (switch : Switch) {slots : List (Slot σ κ)} (h : (idsOf slots).Nodup) :
    (matchedSites switch slots).Nodup := by
  refine List.pairwise_flatMap.mpr ⟨fun slot _ => ?_, ?_⟩
  · refine List.pairwise_map.mpr ?_
    refine ((slot.mode.bindings_pairwise switch.name).filter _).imp fun hlt heq => ?_
    injection heq with _ hnumber _
    exact Nat.ne_of_lt hlt hnumber
  · refine (List.pairwise_map.mp h).imp fun hne x hx y hy heq => ?_
    obtain ⟨_, -, rfl⟩ := List.mem_map.mp hx
    obtain ⟨_, -, rfl⟩ := List.mem_map.mp hy
    injection heq with hid _ _
    exact hne hid

/-- Of the bindings of one mode that fit, those without a hold begin and the others wait. -/
theorem count_waits (switch : Switch) (now : Span) (mode : ModeId) (bs : List Binding)
    (site : CallbackSite) :
    ((bs.filter fun b => b.hold.isNone).map fun b =>
        CallbackSite.handler mode b.number switch.name).count site +
      ((waits switch now mode bs).map Obligation.site).count site =
    (bs.map fun b => CallbackSite.handler mode b.number switch.name).count site := by
  induction bs with
  | nil => rfl
  | cons b rest ih =>
    cases hb : b.hold with
    | none =>
      have hwaits : waits switch now mode (b :: rest) = waits switch now mode rest := by
        simp [waits, hb]
      simp only [List.filter_cons, hb, Option.isNone_none, if_true, hwaits, List.map_cons,
        List.count_cons]
      omega
    | some hold =>
      have hwaits : waits switch now mode (b :: rest) =
          ⟨mode, b.number, switch.name, b.condition, hold, now⟩ :: waits switch now mode rest := by
        simp [waits, hb]
      simp only [List.filter_cons, hb, Option.isNone_some, Bool.false_eq_true, if_false, hwaits,
        List.map_cons, List.count_cons, Obligation.site]
      omega

theorem count_startedBy (switch : Switch) (scene : Scene κ) (slots : List (Slot σ κ))
    (site : CallbackSite) :
    ((begunBy switch scene slots).map Prod.fst).count site +
      ((startedBy switch scene.now slots).map Obligation.site).count site =
    (matchedSites switch slots).count site := by
  induction slots with
  | nil => rfl
  | cons slot rest ih =>
    have hslot := count_waits switch scene.now slot.mode.id (matching switch slot.mode) site
    have hbegun : (begunBy switch scene (slot :: rest)).map Prod.fst =
        ((immediate switch slot.mode).map fun b =>
          CallbackSite.handler slot.mode.id b.number switch.name) ++
        (begunBy switch scene rest).map Prod.fst := by
      simp [begunBy]
    have hstarted : startedBy switch scene.now (slot :: rest) =
        waits switch scene.now slot.mode.id (matching switch slot.mode) ++
          startedBy switch scene.now rest := rfl
    have hmatched : matchedSites switch (slot :: rest) =
        ((matching switch slot.mode).map fun b =>
          CallbackSite.handler slot.mode.id b.number switch.name) ++ matchedSites switch rest := rfl
    rw [hbegun, hstarted, hmatched, List.map_append, List.count_append, List.count_append,
      List.count_append, ← ih, ← hslot, immediate]
    omega

end ModeStack

namespace Machine
variable {σ κ : Type} {m m' : Machine σ κ}

/-- How often a handler has begun. -/
def timesBegun (m : Machine σ κ) (site : CallbackSite) : Nat :=
  (m.handlerStarts.map Prod.fst).count site

/-- How often a handler waits. -/
def timesWaiting (m : Machine σ κ) (site : CallbackSite) : Nat :=
  (m.waiting.map Obligation.site).count site

/-- The level of a switch, if it is there. -/
def level? (m : Machine σ κ) (name : String) : Option Bool :=
  (m.cabinet.switches.find? name).map Switch.closed

/-- No handler waits twice. -/
theorem Sound.timesWaiting_le (h : m.Sound) (site : CallbackSite) : m.timesWaiting site ≤ 1 := by
  refine List.nodup_iff_count.mp ?_ site
  refine List.pairwise_map.mpr (h.stack.distinct.imp fun hne heq => hne ?_)
  injection heq with hmode hbinding _
  exact Prod.ext hmode hbinding

/-- Waiting handlers that are dropped change no count for the worse. -/
theorem timesWaiting_le_of_sublist {os : List Obligation} (h : m'.waiting.Sublist os)
    (site : CallbackSite) : m'.timesWaiting site ≤ (os.map Obligation.site).count site :=
  (h.map Obligation.site).count_le site

theorem budget_quiet (handlers : m'.handlerStarts = m.handlerStarts)
    (waiting : m'.waiting.Sublist m.waiting) (site : CallbackSite) :
    m'.timesBegun site + m'.timesWaiting site ≤ m.timesBegun site + m.timesWaiting site := by
  have hwaiting := timesWaiting_le_of_sublist waiting site
  rw [timesBegun, handlers]
  exact Nat.add_le_add_left hwaiting _

/-- In a tick handlers begin by ceasing to wait. -/
theorem budget_tick (h : m.Sound) (scene : Scene κ)
    (handlers : m'.handlerStarts = m.handlerStarts ++
      (m.engine.stack.holds.due scene.now m.cabinet.switches).map (ModeStack.startOf scene))
    (waiting : m'.waiting.Sublist (m.waiting.filter fun o => scene.now.nanos < o.deadlineNanos))
    (site : CallbackSite) :
    m'.timesBegun site + m'.timesWaiting site ≤ m.timesBegun site + m.timesWaiting site := by
  have hwaiting := timesWaiting_le_of_sublist waiting site
  have hbegun : m'.timesBegun site = m.timesBegun site +
      ((m.engine.stack.holds.due scene.now m.cabinet.switches).map Obligation.site).count site := by
    rw [timesBegun, handlers, List.map_append, List.count_append, List.map_map]
    rfl
  have hdue := ((h.stack.due_perm scene.now).map Obligation.site).count_eq site
  have hlater : m.waiting.filter (fun o => decide (scene.now.nanos < o.deadlineNanos)) =
      m.waiting.filter fun o => !decide (o.deadlineNanos ≤ scene.now.nanos) := by
    refine List.filter_congr ?_
    intro o _
    rw [← decide_not]
    exact decide_eq_decide.mpr Nat.not_le.symm
  have hsplit := ((List.filter_append_perm
    (fun o : Obligation => decide (o.deadlineNanos ≤ scene.now.nanos)) m.waiting).map
      Obligation.site).count_eq site
  rw [List.map_append, List.count_append, ← hlater] at hsplit
  have hall : m.timesWaiting site = (m.waiting.map Obligation.site).count site := rfl
  have hdue' : ((m.engine.stack.holds.due scene.now m.cabinet.switches).map
      Obligation.site).count site = ((m.waiting.filter fun o =>
        o.deadlineNanos ≤ scene.now.nanos).map Obligation.site).count site := hdue
  omega

/-- In a change of level a handler that fits the switch begins or waits at most once, and no other
handler begins. -/
theorem budget_change (h : m.Sound) {old : Switch} {closed : Bool} {scene : Scene κ}
    {slots : List (Slot σ κ)} (visited : slots <+: m.engine.stack.slots)
    (handlers : m'.handlerStarts = m.handlerStarts ++
      ModeStack.begunBy (SwitchStore.reported old closed scene.now) scene slots)
    (waiting : m'.waiting.Sublist ((m.waiting.filter fun o => o.switch ≠ old.name) ++
      ModeStack.startedBy (SwitchStore.reported old closed scene.now) scene.now slots))
    (site : CallbackSite) :
    m'.timesBegun site + m'.timesWaiting site ≤ m.timesBegun site +
      if site ∈ ModeStack.matchedSites (SwitchStore.reported old closed scene.now) slots then 1
      else m.timesWaiting site := by
  have hids : (ModeStack.idsOf slots).Nodup := h.stack.ids.sublist (visited.sublist.map _)
  have hmatched := ModeStack.count_startedBy (SwitchStore.reported old closed scene.now) scene slots
    site
  have hwaiting := timesWaiting_le_of_sublist waiting site
  rw [List.map_append, List.count_append] at hwaiting
  have hbegun : m'.timesBegun site = m.timesBegun site + ((ModeStack.begunBy
      (SwitchStore.reported old closed scene.now) scene slots).map Prod.fst).count site := by
    rw [timesBegun, handlers, List.map_append, List.count_append]
    rfl
  have hkept : ((m.waiting.filter fun o => o.switch ≠ old.name).map
      Obligation.site).count site ≤ m.timesWaiting site :=
    (List.filter_sublist.map Obligation.site).count_le site
  split
  · rename_i hmem
    have hone := List.nodup_iff_count.mp
      (ModeStack.nodup_matchedSites (SwitchStore.reported old closed scene.now) hids) site
    have hgone : ((m.waiting.filter fun o => o.switch ≠ old.name).map
        Obligation.site).count site = 0 := by
      refine List.count_eq_zero.mpr ?_
      intro hw
      obtain ⟨o, ho, rfl⟩ := List.mem_map.mp hw
      have hname : o.switch = (SwitchStore.reported old closed scene.now).name :=
        ModeStack.name_of_matched hmem
      exact of_decide_eq_true (List.mem_filter.mp ho).2 hname
    omega
  · rename_i hmem
    have hnone := List.count_eq_zero.mpr hmem
    omega

/-- While its switch keeps its level, a handler begins only by ceasing to wait. -/
theorem Moves.budget_same (h : m.Sound) (move : m.Moves m') (id : ModeId) (number : Nat)
    {name : String} (same : m'.level? name = m.level? name) :
    m'.timesBegun (.handler id number name) + m'.timesWaiting (.handler id number name) ≤
      m.timesBegun (.handler id number name) + m.timesWaiting (.handler id number name) := by
  cases move with
  | quiet _ handlers waiting => exact budget_quiet handlers waiting _
  | tick scene _ handlers waiting => exact budget_tick h scene handlers waiting _
  | change n old closed scene slots found changed visited switches handlers waiting =>
    have hother : old.name ≠ name := by
      rintro rfl
      rw [level?, level?, switches, SwitchStore.find?_report h.coherent found changed, if_pos rfl,
        SwitchStore.find?_of_get? h.coherent found] at same
      exact changed (Option.some.inj same).symm
    have hnot : .handler id number name ∉
        ModeStack.matchedSites (SwitchStore.reported old closed scene.now) slots := by
      intro hmem
      have hname : name = (SwitchStore.reported old closed scene.now).name :=
        ModeStack.name_of_matched hmem
      exact hother hname.symm
    have hbudget := budget_change h visited handlers waiting (.handler id number name)
    rwa [if_neg hnot] at hbudget

/-- Whatever happens, a handler that begins or waits does so once. -/
theorem Moves.budget (h : m.Sound) (move : m.Moves m') (site : CallbackSite) :
    m'.timesBegun site + m'.timesWaiting site ≤ m.timesBegun site + 1 := by
  have hone := h.timesWaiting_le site
  cases move with
  | quiet _ handlers waiting =>
    have := budget_quiet handlers waiting site
    omega
  | tick scene _ handlers waiting =>
    have := budget_tick h scene handlers waiting site
    omega
  | change n old closed scene slots found changed visited switches handlers waiting =>
    have := budget_change h visited handlers waiting site
    split at this <;> omega

end Machine

end Playfield
