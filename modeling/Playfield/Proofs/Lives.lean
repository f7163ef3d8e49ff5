import Playfield.Proofs.Calls
import Playfield.Proofs.Effects
import Playfield.Proofs.HeldHandlers

/-!
# Lives of modes

A mode that joins the stack comes under a number of its own. The callbacks that run under a number
make up a life: the first hook as the mode joins, then pass hooks and switch handlers as long as it
is on the stack, then the last hook as it leaves, and nothing after that (`ModeStack.Life`). One
shift of the stack carries every life on (`ModeStack.Life.shift`), so in every run each mode that is
handed to a machine either never runs or lives such a life (`Machine.modes_live_once`).
-/
namespace Playfield

namespace ModeStack
variable {σ κ : Type}

/-- No two modes share an identity or a number, and they stand in dispatch order. -/
structure Orderly (s : ModeStack σ κ) : Prop extends Ranked s where
  ids : (idsOf s.slots).Nodup
  numbers : (s.slots.map Slot.seq).Nodup

/-- The number of the mode of an identity. One that is about to join gets the next number. -/
def numberOf (s : ModeStack σ κ) (id : ModeId) : Nat := ((s.find? id).map Slot.seq).getD s.nextSeq

/-- Callbacks of modes with the numbers of their modes. -/
def numbered (s : ModeStack σ κ) (sites : List CallbackSite) : List (Nat × CallbackSite) :=
  sites.filterMap fun site => site.mode?.map fun id => (s.numberOf id, site)

/-- What ran under a number. -/
def lifeOf (number : Nat) (log : List (Nat × CallbackSite)) : List CallbackSite :=
  log.filterMap fun entry => if entry.1 = number then some entry.2 else none

/-- What has run under a number, as the stack stands. -/
inductive Life (s : ModeStack σ κ) (number : Nat) : List CallbackSite → Prop where
  /-- No mode has come under this number yet. -/
  | ahead (free : s.nextSeq ≤ number) : Life s number []
  /-- The mode is on the stack. -/
  | present (slot : Slot σ κ) (mem : slot ∈ s.slots) (seq : slot.seq = number)
    (between : List CallbackSite) (runs : ∀ site ∈ between, site.Runs slot.mode.id) :
    Life s number (.hook slot.mode.id .started :: between)
  /-- The mode has left. -/
  | left (given : number < s.nextSeq) (gone : ∀ slot ∈ s.slots, slot.seq ≠ number) (id : ModeId)
    (between : List CallbackSite) (runs : ∀ site ∈ between, site.Runs id) :
    Life s number (.hook id .started :: (between ++ [.hook id .stopped]))

variable {s t : ModeStack σ κ} {number : Nat}

theorem lifeOf_append (number : Nat) (log log' : List (Nat × CallbackSite)) :
    lifeOf number (log ++ log') = lifeOf number log ++ lifeOf number log' := List.filterMap_append

theorem lifeOf_singleton (number other : Nat) (site : CallbackSite) :
    lifeOf number [(other, site)] = if other = number then [site] else [] := by
  simp only [lifeOf, List.filterMap_cons, List.filterMap_nil]
  split <;> rename_i h <;> split at h <;> simp_all

theorem numberOf_absent {id : ModeId} (h : id ∉ idsOf s.slots) : s.numberOf id = s.nextSeq := by
  have hnone : s.find? id = none := by
    rw [find?, ← Option.not_isSome_iff_eq_none, find?_isSome_iff]
    exact h
  rw [numberOf, hnone]
  rfl

/-- Among distinct identities the one that is taken out is gone. -/
theorem id_ne_of_mem_erase {id : ModeId} {slots : List (Slot σ κ)} (h : (idsOf slots).Nodup)
    {slot : Slot σ κ} (hslot : slot ∈ erase id slots) : slot.mode.id ≠ id := by
  induction slots with
  | nil => exact nomatch hslot
  | cons other rest ih =>
    rw [idsOf_cons] at h
    obtain ⟨hnot, hrest⟩ := List.nodup_cons.mp h
    simp only [erase] at hslot
    split at hslot
    · rename_i hid
      intro hsame
      exact hnot (hid.trans hsame.symm ▸ mem_idsOf hslot)
    · rename_i hother
      rcases List.mem_cons.mp hslot with rfl | hslot
      · exact hother
      · exact ih hrest hslot

namespace Orderly

theorem of_none (h : s.slots = []) : s.Orderly where
  order := h ▸ .nil
  arrived slot hslot := by
    rw [h] at hslot
    exact nomatch hslot
  ids := by
    rw [h]
    exact List.nodup_nil
  numbers := by
    rw [h]
    exact List.nodup_nil

/-- Two slots of the same number are the same. -/
theorem eq_of_seq_eq (h : s.Orderly) {a b : Slot σ κ} (ha : a ∈ s.slots) (hb : b ∈ s.slots)
    (hseq : a.seq = b.seq) : a = b := List.inj_on_of_nodup_map h.numbers ha hb hseq

theorem numberOf_mem (h : s.Orderly) {slot : Slot σ κ} (hslot : slot ∈ s.slots) :
    s.numberOf slot.mode.id = slot.seq := by
  obtain ⟨found, hfound⟩ := Option.isSome_iff_exists.mp (find?_isSome_iff.mpr (mem_idsOf hslot))
  have hsame : found = slot :=
    eq_of_id_eq h.ids (List.mem_of_find?_eq_some hfound) hslot (id_of_find? hfound)
  rw [numberOf, find?, hfound, hsame]
  rfl

/-- Once a mode has been taken out no slot has its number. -/
theorem gone_of_erase (h : s.Orderly) {slot : Slot σ κ} (hslot : slot ∈ s.slots) :
    ∀ other ∈ erase slot.mode.id s.slots, other.seq ≠ slot.seq := by
  intro other hother hseq
  have hsame := h.eq_of_seq_eq ((erase_sublist slot.mode.id s.slots).mem hother) hslot hseq
  exact id_ne_of_mem_erase h.ids hother (congrArg (fun slot => slot.mode.id) hsame)

/-- Whatever shifts the stack, identities and numbers stay distinct and the order stays. -/
theorem shift (h : s.Orderly) {sites : List CallbackSite} (shift : s.Shift t sites) :
    t.Orderly := by
  cases shift with
  | stay line seq _ =>
    have hnumbers : t.slots.map Slot.seq = s.slots.map Slot.seq := by
      have key (slots : List (Slot σ κ)) : slots.map Slot.seq = (lineup slots).map Prod.fst := by
        rw [lineup, List.map_map]
        rfl
      rw [key, line, ← key]
    refine { h.toRanked.of_lineup line seq with ids := ?_, numbers := ?_ }
    · rw [idsOf_eq_of_lineup line]
      exact h.ids
    · rw [hnumbers]
      exact h.numbers
  | join mode new slots seq =>
    have hperm := insertSlot_perm ⟨s.nextSeq, mode⟩ s.slots
    refine { h.toRanked.join slots seq with ids := ?_, numbers := ?_ }
    · rw [slots, idsOf, (hperm.map _).nodup_iff]
      exact List.nodup_cons.mpr ⟨new, h.ids⟩
    · rw [slots, (hperm.map _).nodup_iff]
      refine List.nodup_cons.mpr ⟨fun hmem => ?_, h.numbers⟩
      obtain ⟨slot, hslot, hseq⟩ := List.mem_map.mp hmem
      exact Nat.ne_of_lt (h.arrived slot hslot) hseq
  | leave slot present slots seq =>
    have hsub := erase_sublist slot.mode.id s.slots
    refine { h.toRanked.leave slots seq with ids := ?_, numbers := ?_ }
    · rw [slots]
      exact h.ids.sublist (hsub.map _)
    · rw [slots]
      exact h.numbers.sublist (hsub.map _)

end Orderly

/-! ### One shift -/

/-- Under a number run only callbacks of the mode that has it. -/
theorem runs_of_mem_lifeOf (h : s.Orderly) {sites : List CallbackSite}
    (runs : ∀ site ∈ sites, ∃ slot ∈ s.slots, site.Runs slot.mode.id) :
    ∀ site ∈ lifeOf number (s.numbered sites),
      ∃ slot ∈ s.slots, slot.seq = number ∧ site.Runs slot.mode.id := by
  intro site hsite
  obtain ⟨⟨other, site'⟩, hentry, hnumber⟩ := List.mem_filterMap.mp hsite
  obtain ⟨site'', hmem, hlog⟩ := List.mem_filterMap.mp hentry
  obtain ⟨slot, hslot, hruns⟩ := runs site'' hmem
  rw [hruns.mode?_eq, Option.map_some, h.numberOf_mem hslot] at hlog
  cases hlog
  split at hnumber
  · cases hnumber
    exact ⟨slot, hslot, ‹_›, hruns⟩
  · cases hnumber

namespace Life
variable {life : List CallbackSite}

/-- What runs while the modes stay belongs to the lives of those that are there. -/
theorem stay (hlife : s.Life number life) (h : s.Orderly) {sites : List CallbackSite}
    (line : lineup t.slots = lineup s.slots) (seq : t.nextSeq = s.nextSeq)
    (runs : ∀ site ∈ sites, ∃ slot ∈ s.slots, site.Runs slot.mode.id) :
    t.Life number (life ++ lifeOf number (s.numbered sites)) := by
  have hruns : ∀ site ∈ lifeOf number (s.numbered sites),
      ∃ slot ∈ s.slots, slot.seq = number ∧ site.Runs slot.mode.id := runs_of_mem_lifeOf h runs
  have nothing (hno : ∀ slot ∈ s.slots, slot.seq ≠ number) :
      lifeOf number (s.numbered sites) = [] := by
    refine List.eq_nil_iff_forall_not_mem.mpr fun site hsite => ?_
    obtain ⟨slot, hslot, hseq, -⟩ := hruns site hsite
    exact hno slot hslot hseq
  cases hlife with
  | ahead free =>
    have hno : ∀ slot ∈ s.slots, slot.seq ≠ number := by
      intro slot hslot
      have := h.arrived slot hslot
      omega
    rw [nothing hno]
    exact .ahead (seq ▸ free)
  | present slot hslot hseq between hbetween =>
    obtain ⟨slot', hslot', hfix⟩ := exists_of_lineup line hslot
    have hid : slot'.mode.id = slot.mode.id := Mode.id_eq_of_fixed (congrArg Prod.snd hfix)
    rw [← hid, List.cons_append]
    refine .present slot' hslot' ((congrArg Prod.fst hfix).trans hseq) _ ?_
    refine List.forall_mem_append.mpr ⟨hid ▸ hbetween, fun site hsite => ?_⟩
    obtain ⟨other, hother, hnumber, hrun⟩ := hruns site hsite
    rw [hid, ← h.eq_of_seq_eq hother hslot (hnumber.trans hseq.symm)]
    exact hrun
  | left given gone id between hbetween =>
    rw [nothing gone, List.append_nil]
    refine .left (seq ▸ given) (fun slot hslot => ?_) id between hbetween
    obtain ⟨slot', hslot', hfix⟩ := exists_of_lineup line.symm hslot
    have hsame : slot'.seq = slot.seq := congrArg Prod.fst hfix
    exact hsame ▸ gone slot' hslot'

/-- The first hook of a mode that joins begins the life under the next number. -/
theorem join (hlife : s.Life number life) (h : s.Orderly) (mode : Mode σ κ)
    (new : mode.id ∉ idsOf s.slots) (slots : t.slots = insertSlot ⟨s.nextSeq, mode⟩ s.slots)
    (seq : t.nextSeq = s.nextSeq + 1) :
    t.Life number (life ++ lifeOf number (s.numbered [.hook mode.id .started])) := by
  have hmem (slot : Slot σ κ) : slot ∈ t.slots ↔ slot = ⟨s.nextSeq, mode⟩ ∨ slot ∈ s.slots := by
    rw [slots, (insertSlot_perm ⟨s.nextSeq, mode⟩ s.slots).mem_iff, List.mem_cons]
  have hlog : s.numbered [.hook mode.id .started] = [(s.nextSeq, .hook mode.id .started)] := by
    simp only [numbered, List.filterMap_cons, List.filterMap_nil, CallbackSite.mode?,
      Option.map_some, numberOf_absent new]
  rw [hlog, lifeOf_singleton]
  cases hlife with
  | ahead free =>
    by_cases hnow : s.nextSeq = number
    · rw [if_pos hnow]
      exact .present ⟨s.nextSeq, mode⟩ ((hmem _).mpr (.inl rfl)) hnow [] (List.forall_mem_nil _)
    · rw [if_neg hnow]
      exact .ahead (by omega)
  | present slot hslot hseq between hbetween =>
    have := h.arrived slot hslot
    rw [if_neg (by omega), List.append_nil]
    exact .present slot ((hmem slot).mpr (.inr hslot)) hseq between hbetween
  | left given gone id between hbetween =>
    rw [if_neg (by omega), List.append_nil]
    refine .left (by omega) (fun slot hslot => ?_) id between hbetween
    rcases (hmem slot).mp hslot with rfl | hslot
    · exact Nat.ne_of_gt given
    · exact gone slot hslot

/-- The last hook of a mode that leaves ends its life. -/
theorem leave (hlife : s.Life number life) (h : s.Orderly) {slot : Slot σ κ}
    (present : slot ∈ s.slots) (slots : t.slots = erase slot.mode.id s.slots)
    (seq : t.nextSeq = s.nextSeq) :
    t.Life number (life ++ lifeOf number (s.numbered [.hook slot.mode.id .stopped])) := by
  have hlog : s.numbered [.hook slot.mode.id .stopped] =
      [(slot.seq, .hook slot.mode.id .stopped)] := by
    simp only [numbered, List.filterMap_cons, List.filterMap_nil, CallbackSite.mode?,
      Option.map_some, h.numberOf_mem present]
  have harrived := h.arrived slot present
  rw [hlog, lifeOf_singleton]
  cases hlife with
  | ahead free =>
    rw [if_neg (by omega)]
    exact .ahead (seq ▸ free)
  | present other hother hseq between hbetween =>
    -- The life is that of the mode that leaves, or of one that stays.
    by_cases hthis : slot.seq = number
    · cases h.eq_of_seq_eq present hother (hthis.trans hseq.symm)
      rw [if_pos hthis]
      refine .left (by omega) (fun other hother => ?_) slot.mode.id between hbetween
      rw [← hthis]
      exact h.gone_of_erase present other (slots ▸ hother)
    · rw [if_neg hthis, List.append_nil]
      refine .present other (slots ▸ mem_erase hother fun hid => hthis ?_) hseq between hbetween
      rw [← eq_of_id_eq h.ids hother present hid]
      exact hseq
  | left given gone id between hbetween =>
    rw [if_neg (gone slot present), List.append_nil]
    refine .left (seq ▸ given) (fun other hother => gone other ?_) id between hbetween
    rw [slots] at hother
    exact (erase_sublist slot.mode.id s.slots).mem hother

/-- What runs in a shift carries the life under each number on. -/
theorem shift (hlife : s.Life number life) (h : s.Orderly) {sites : List CallbackSite}
    (shift : s.Shift t sites) : t.Life number (life ++ lifeOf number (s.numbered sites)) := by
  cases shift with
  | stay line seq runs => exact hlife.stay h line seq runs
  | join mode new slots seq => exact hlife.join h mode new slots seq
  | leave slot present slots seq => exact hlife.leave h present slots seq

end Life

end ModeStack

/-! ### Turns -/

namespace Taken
variable {σ κ : Type}

/-- The callbacks of modes that begin in a turn, with the numbers of their modes. -/
def log (k : Taken σ κ) : List (Nat × CallbackSite) := k.start.1.stack.numbered k.began

/-- The mode that is handed to the stack in a turn. -/
def handed? (k : Taken σ κ) : Option (Mode σ κ) :=
  match k with
  | ⟨.join mode, _⟩ => some mode
  | ⟨.serve (.addMode id kind), e, _⟩ => some { e.catalogue kind id with id }
  | _ => none

/-- A turn shifts the stack, and what it logs is what runs in the shift. -/
theorem exists_shift (k : Taken σ κ) : ∃ sites,
    k.start.1.stack.Shift k.next.1.stack sites ∧ k.log = k.start.1.stack.numbered sites := by
  have aside (stack : k.next.1.stack = k.start.1.stack)
      (other : ∀ site ∈ k.began, site.mode? = none) : ∃ sites,
      k.start.1.stack.Shift k.next.1.stack sites ∧ k.log = k.start.1.stack.numbered sites := by
    refine ⟨[], .still (congrArg _ stack) (congrArg _ stack), ?_⟩
    refine List.filterMap_eq_nil_iff.mpr fun site hsite => ?_
    rw [other site hsite, Option.map_none]
  cases k.does with
  | modes _ sites shift passes _ _ => exact ⟨sites, shift, by rw [log, began_of_passes passes]⟩
  | frame _ stack passes _ _ =>
    refine aside stack ?_
    rw [began_eq passes.starts]
    intro site hsite
    rw [List.mem_singleton.mp hsite]
    rfl
  | game _ _ stack _ _ runs _ _ =>
    refine aside stack ?_
    rw [began_of_runs runs]
    intro site hsite
    obtain ⟨x, -, rfl⟩ := List.mem_map.mp hsite
    rfl
  | flippers _ stack _ _ _ _ starts _ _ =>
    refine aside stack ?_
    rw [began_of_same starts]
    exact List.forall_mem_nil _

/-- A mode whose identity is on the stack is turned away and nothing of it runs. Any other one joins
under the next number. -/
theorem handed_spec {k : Taken σ κ} {mode : Mode σ κ} (h : k.handed? = some mode) :
    mode.id ∈ k.start.1.stack.ids ∧ k.began = [] ∧ k.next.1.stack = k.start.1.stack ∨
    mode.id ∉ k.start.1.stack.ids ∧ k.began = [.hook mode.id .started] ∧
      k.next.1.stack.nextSeq = k.start.1.stack.nextSeq + 1 ∧
      ∃ slot ∈ k.next.1.stack.slots, slot.seq = k.start.1.stack.nextSeq ∧
        slot.mode.fixed = mode.fixed := by
  have hnext : k.next.1.stack = (ModeStack.add mode (k.start.1.stack, k.start.2)).2.1 ∧
      k.next.2 = (ModeStack.add mode (k.start.1.stack, k.start.2)).2.2 := by
    obtain ⟨turn, e, scene⟩ := k
    cases turn with
    | join _ =>
      cases h
      exact ⟨rfl, rfl⟩
    | serve r =>
      cases r with
      | addMode id kind =>
        cases h
        exact ⟨rfl, rfl⟩
      | _ => cases h
    | _ => cases h
  obtain ⟨hstack, hscene⟩ := hnext
  by_cases hid : mode.id ∈ k.start.1.stack.ids
  · obtain ⟨hsame, hpass⟩ := ModeStack.add_there hid k.start.2
    rw [← hscene] at hpass
    exact .inl ⟨hid, began_eq hpass.starts, hstack.trans hsame⟩
  · obtain ⟨mode', hfix, hslots, -, hseq, hpass⟩ := ModeStack.add_new hid k.start.2
    rw [← hstack] at hslots hseq
    rw [← hscene] at hpass
    refine .inr ⟨hid, began_eq hpass.starts, hseq, ⟨_, mode'⟩, ?_, rfl, hfix⟩
    rw [hslots]
    exact (ModeStack.insertSlot_perm _ _).mem_iff.mpr List.mem_cons_self

/-- In a pass every pass hook begins once, in dispatch order, and then held handlers do. -/
theorem began_pass {k : Taken σ κ} (h : k.turn = .pass) : ∃ due,
    (∀ site ∈ due, site.isHandler = true) ∧
      k.began = (k.start.1.stack.ids.map fun id => .hook id .tick) ++ due := by
  obtain ⟨turn, e, scene⟩ := k
  cases h
  obtain ⟨due, hdue, -, hpass⟩ := ModeStack.shift_tick e.stack scene
  have htick := Engine.mute_passOnce (e, scene)
  rw [← Act.state_discard Engine.passOnce] at htick
  have hwhole := hpass.trans htick.passes
  rw [List.append_nil] at hwhole
  exact ⟨due, hdue, began_of_passes (k := ⟨.pass, e, scene⟩) hwhole⟩

end Taken

/-! ### Whole runs -/

namespace Machine
variable {σ κ : Type}

/-- The turns of a run. -/
def turnsOf (ops : List (Operation σ κ)) (m : Machine σ κ) : List (Taken σ κ) :=
  turnsAlong (m.stagesOf (callsOf ops m)) m

/-- The callbacks that have begun are those of the turns so far, and they make up lives. -/
structure Chronicle (m₀ : Machine σ κ) (past : List (Taken σ κ)) (stack : ModeStack σ κ)
    (starts : List (CallbackSite × Glimpse)) : Prop where
  orderly : stack.Orderly
  lives : ∀ number, stack.Life number (ModeStack.lifeOf number (past.flatMap Taken.log))
  starts : starts.map Prod.fst =
    m₀.cabinet.bench.starts.map Prod.fst ++ past.flatMap Taken.began

theorem Built.chronicle {m₀ : Machine σ κ} (built : m₀.Built) :
    m₀.Chronicle [] m₀.engine.stack m₀.cabinet.bench.starts := by
  obtain ⟨c, settings, cabinet, memory, hook, catalogue, hbuild⟩ := built
  obtain ⟨_, -, hassemble⟩ := exists_of_bind hbuild
  obtain ⟨switches, -, hrest⟩ := exists_of_bind hassemble
  obtain ⟨drivers, -, hrest⟩ := exists_of_bind hrest
  obtain ⟨rules, -, hrest⟩ := exists_of_bind hrest
  cases hrest
  exact ⟨.of_none rfl, fun number => .ahead (Nat.zero_le number), (List.append_nil _).symm⟩

theorem Chronicle.turn {m₀ : Machine σ κ} {past : List (Taken σ κ)} (k : Taken σ κ)
    (h : m₀.Chronicle past k.start.1.stack k.start.2.starts) :
    m₀.Chronicle (past ++ [k]) k.next.1.stack k.next.2.starts := by
  obtain ⟨sites, hshift, hlog⟩ := k.exists_shift
  refine ⟨h.orderly.shift hshift, fun number => ?_, ?_⟩
  · rw [List.flatMap_append, List.flatMap_singleton, ModeStack.lifeOf_append, hlog]
    exact (h.lives number).shift h.orderly hshift
  · rw [k.starts_next, h.starts, List.flatMap_append, List.flatMap_singleton, List.append_assoc]

theorem Built.chronicle_performAll {m₀ : Machine σ κ} (built : m₀.Built)
    (ops : List (Operation σ κ)) :
    m₀.Chronicle (turnsOf ops m₀) (performAll ops m₀).2.engine.stack
      (performAll ops m₀).2.cabinet.bench.starts := by
  have hfold := fold_turnsAlong (P := m₀.Chronicle) Chronicle.turn
    (m₀.stagesOf (callsOf ops m₀)) m₀ built.chronicle
  rw [List.nil_append, ← afterCalls_eq, ← performAll_eq] at hfold
  exact hfold

/-- In every run of a new machine, whatever is done with it and however callbacks end, the callbacks
that begin are those of its turns. At every turn and at the end, what has run under a number is
nothing, or the first hook of one mode, its pass hooks and handlers, and its last hook just if it
has left the stack. A mode that is handed to the stack is turned away, and nothing runs, or it gets
the next number. A pass runs the pass hook of each mode on the stack once, in dispatch order, and
then held handlers; and a tick is one pass, followed by what was asked for. -/
theorem modes_live_once {m₀ : Machine σ κ} (built : m₀.Built) (ops : List (Operation σ κ)) :
    let turns := turnsOf ops m₀
    let m := (performAll ops m₀).2
    m.cabinet.bench.starts.map Prod.fst =
      m₀.cabinet.bench.starts.map Prod.fst ++ turns.flatMap Taken.began ∧
    (∀ number, m.engine.stack.Life number
      (ModeStack.lifeOf number (turns.flatMap Taken.log))) ∧
    (∀ before k after, turns = before ++ k :: after →
      let s := k.start.1.stack
      (∀ number, s.Life number (ModeStack.lifeOf number (before.flatMap Taken.log))) ∧
      (∀ number, k.next.1.stack.Life number
        (ModeStack.lifeOf number ((before ++ [k]).flatMap Taken.log))) ∧
      s.ids.Nodup ∧ s.slots.Pairwise Slot.Before ∧
      (∀ mode, k.handed? = some mode →
        mode.id ∈ s.ids ∧ k.began = [] ∧ k.next.1.stack = s ∨
        mode.id ∉ s.ids ∧ k.began = [.hook mode.id .started] ∧
          k.next.1.stack.nextSeq = s.nextSeq + 1 ∧
          ∃ slot ∈ k.next.1.stack.slots, slot.seq = s.nextSeq ∧ slot.mode.fixed = mode.fixed) ∧
      (k.turn = .pass → ∃ due, (∀ site ∈ due, site.isHandler = true) ∧
        k.began = (s.ids.map fun id => .hook id .tick) ++ due)) ∧
    ∀ (now : Span) (m : Machine σ κ), ∃ rest,
      (Stage.tick now).turns m = ⟨.pass, m.engine, m.scene now⟩ :: rest ∧
        ∀ k ∈ rest, ∃ r, k.turn = .serve r := by
  intro turns m
  have hend : m₀.Chronicle turns m.engine.stack m.cabinet.bench.starts :=
    built.chronicle_performAll ops
  refine ⟨hend.starts, hend.lives, fun before k after hsplit => ?_, Stage.turns_tick⟩
  have hbefore : m₀.Chronicle before k.start.1.stack k.start.2.starts :=
    holds_at_turn (P := m₀.Chronicle) Chronicle.turn built.chronicle hsplit
  exact ⟨hbefore.lives, (hbefore.turn k).lives, hbefore.orderly.ids, hbefore.orderly.order,
    fun _ => Taken.handed_spec, Taken.began_pass⟩

/-- A keeper is added twice, and runs under one number from its first hook to its last. -/
theorem keeper_lives_once :
    ∃ (m₀ : Machine Unit Unit) (ops : List (Operation Unit Unit)), m₀.Built ∧
      let log := (turnsOf ops m₀).flatMap Taken.log
      ModeStack.lifeOf 0 log =
        [.hook ⟨0⟩ .started, .hook ⟨0⟩ .tick, .hook ⟨0⟩ .tick, .hook ⟨0⟩ .stopped] ∧
      ∀ number, (performAll ops m₀).2.engine.stack.Life number (ModeStack.lifeOf number log) := by
  let keeper := gateKeeper (.ofMillis 5) .idle
  let ops : List (Operation Unit Unit) :=
    [.addMode keeper, .step, .addMode keeper, .step, .removeMode ⟨0⟩, .step]
  obtain ⟨m₀, built, hlife⟩ := exists_gateMachine
    (P := fun m => ModeStack.lifeOf 0 ((turnsOf ops m).flatMap Taken.log) =
      [.hook ⟨0⟩ .started, .hook ⟨0⟩ .tick, .hook ⟨0⟩ .tick, .hook ⟨0⟩ .stopped])
    {} (by decide +kernel)
  exact ⟨m₀, ops, built, hlife, (modes_live_once built ops).2.1⟩

end Machine

end Playfield
