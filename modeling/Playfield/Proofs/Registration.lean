import Playfield.Cabinet
import Playfield.ModeBuilder
import Playfield.Proofs.Bindings
import Playfield.Proofs.HoldQueue

/-!
# Registering handlers

A mode keeps its bindings in rows, one for each switch, and its handlers in a list beside them. The
rows put back together are a plain list of the bindings in order of registration, numbered from 0
on, and the row of a switch is what a scan of that list finds for it. The number of a binding leads
to the handler that was registered with it.

A builder registers its handlers only if all of them are sound and there is a name. It then builds
what registering them one by one leads to.
-/
namespace Playfield

/-! ### Rows and the plain list -/

namespace BindingRows

/-- All bindings of the rows by number. -/
def sorted (rows : BindingRows) : List Binding :=
  rows.all.mergeSort fun a b => a.number ≤ b.number

theorem mem_sorted {rows : BindingRows} {b : Binding} : b ∈ rows.sorted ↔ b ∈ rows.all :=
  List.mem_mergeSort

theorem sorted_pairwise (rows : BindingRows) :
    rows.sorted.Pairwise fun a b => a.number ≤ b.number :=
  pairwise_mergeSort_key Binding.number _

namespace Grown
variable {rows : BindingRows} {n : Nat}

/-- A binding that is added comes last of all. -/
theorem sorted_insert {b : Binding} (grown : Grown rows b.number) (hold : b.hold ≠ some .zero) :
    (BindingRows.insert b rows).sorted = rows.sorted ++ [b] := by
  have hlast : (rows.sorted ++ [b]).Pairwise fun a c => a.number ≤ c.number := by
    refine List.pairwise_append.mpr ⟨rows.sorted_pairwise, List.pairwise_singleton _ _, ?_⟩
    intro a ha c hc
    rw [List.mem_singleton.mp hc]
    exact Nat.le_of_lt (grown.number_lt (mem_sorted.mp ha))
  have hperm : (BindingRows.insert b rows).sorted.Perm (rows.sorted ++ [b]) :=
    (List.mergeSort_perm _ _).trans <| (all_insert_perm b rows).trans <|
      ((List.mergeSort_perm rows.all _).symm.cons b).trans (List.perm_append_singleton b _).symm
  refine hperm.eq_of_pairwise (fun a c ha hc hac hca => ?_) (sorted_pairwise _) hlast
  exact (grown.insert hold).number_inj (mem_sorted.mp ha) (mem_sorted.mp (hperm.mem_iff.mpr hc))
    (Nat.le_antisymm hac hca)

/-- The row of a switch is what a scan of the plain list finds for it. -/
theorem row_eq_filter (grown : Grown rows n) (switch : String) :
    rows.row switch = rows.sorted.filter fun b => b.switch = switch := by
  induction grown with
  | empty => simp [row, sorted, all]
  | @insert rows b grown hold ih =>
    rw [row_insert, grown.sorted_insert hold, List.filter_append, ← ih]
    by_cases h : switch = b.switch
    · simp [h]
    · simp [h, Ne.symm h]

end Grown

end BindingRows

/-- The binding of a handler that is registered under a number. A hold of no time is no hold. -/
def PendingHandler.binding {σ κ : Type} (number : Nat) (h : PendingHandler σ κ) : Binding :=
  ⟨number, h.switch, h.condition, if h.hold = some .zero then none else h.hold⟩

namespace Mode
variable {σ κ : Type}

/-- A new mode has neither bindings nor handlers. -/
theorem handled_new :
    ([] : List (σ → Switch → Callback σ κ)).length = ({} : BindingTable).size := rfl

/-- The bindings of a switch are what a scan of all bindings finds for it. -/
theorem bindings_eq_filter (m : Mode σ κ) (switch : String) :
    m.bindings switch = m.allBindings.filter fun b => b.switch = switch :=
  m.table.grown.row_eq_filter switch

/-- A handler that is registered has the next number and comes last. -/
theorem allBindings_on (m : Mode σ κ) (h : PendingHandler σ κ) :
    (m.on h.switch h.condition h.hold h.run).allBindings =
      m.allBindings ++ [h.binding m.handlers.length] := by
  have hhold : (h.hold.filter fun t => t ≠ .zero) =
      if h.hold = some .zero then none else h.hold := by
    cases h.hold with
    | none => rfl
    | some t => by_cases ht : t = .zero <;> simp [ht]
  have hnot : (h.hold.filter fun t => t ≠ .zero) ≠ some .zero := by
    rw [hhold]
    split
    · simp
    · assumption
  rw [PendingHandler.binding, ← hhold, m.handled]
  exact m.table.grown.sorted_insert (b := ⟨m.table.size, h.switch, h.condition, _⟩) hnot

end Mode

namespace ModeBuilder
variable {σ κ : Type}

theorem handlers_register (m : Mode σ κ) (hs : List (PendingHandler σ κ)) :
    (register m hs).handlers = m.handlers ++ hs.map PendingHandler.run := by
  induction hs generalizing m with
  | nil => exact (List.append_nil _).symm
  | cons h rest ih =>
    refine (ih (m.on h.switch h.condition h.hold h.run)).trans ?_
    rw [Mode.on, List.append_assoc]
    rfl

/-- Handlers that are registered in turn are numbered on and come last, in order. -/
theorem allBindings_register (m : Mode σ κ) (hs : List (PendingHandler σ κ)) :
    (register m hs).allBindings =
      m.allBindings ++ hs.mapIdx fun i h => h.binding (m.handlers.length + i) := by
  induction hs generalizing m with
  | nil => exact (List.append_nil _).symm
  | cons h rest ih =>
    have hlength : (m.on h.switch h.condition h.hold h.run).handlers.length =
        m.handlers.length + 1 := List.length_append
    refine (ih (m.on h.switch h.condition h.hold h.run)).trans ?_
    rw [Mode.allBindings_on, hlength, List.append_assoc, List.mapIdx_cons, List.singleton_append]
    simp only [Nat.add_zero, Nat.add_assoc, Nat.add_comm 1]

/-! ### Sound descriptions -/

/-- The handler can be registered by a builder. -/
def Sound (h : PendingHandler σ κ) : Prop := h.switch ≠ "" ∧ h.hold ≠ some .zero

/-- What is wrong with a handler that cannot be registered. -/
def errorOf (mode : String) (index : Nat) (h : PendingHandler σ κ) : BuildError :=
  if h.switch = "" then .emptySwitchName mode index else .zeroHold h.switch

theorem firstError_cons_sound {mode : String} {index : Nat} {h : PendingHandler σ κ}
    (sound : Sound h) (rest : List (PendingHandler σ κ)) :
    firstError mode index (h :: rest) = firstError mode (index + 1) rest := by
  rw [firstError, if_neg sound.1, if_neg sound.2]

theorem firstError_cons_unsound {mode : String} {index : Nat} {h : PendingHandler σ κ}
    (unsound : ¬ Sound h) (rest : List (PendingHandler σ κ)) :
    firstError mode index (h :: rest) = some (errorOf mode index h) := by
  rw [firstError, errorOf]
  by_cases hswitch : h.switch = ""
  · rw [if_pos hswitch, if_pos hswitch]
  · have hhold : h.hold = some .zero :=
      Decidable.byContradiction fun hne => unsound ⟨hswitch, hne⟩
    rw [if_neg hswitch, if_neg hswitch, if_pos hhold]

theorem firstError_eq_none_iff {mode : String} {index : Nat} {hs : List (PendingHandler σ κ)} :
    firstError mode index hs = none ↔ ∀ h ∈ hs, Sound h := by
  induction hs generalizing index with
  | nil => simp [firstError]
  | cons h rest ih =>
    rw [List.forall_mem_cons]
    by_cases sound : Sound h
    · rw [firstError_cons_sound sound, ih]
      exact ⟨fun hrest => ⟨sound, hrest⟩, And.right⟩
    · rw [firstError_cons_unsound sound]
      exact ⟨fun hnone => (nomatch hnone), fun hall => absurd hall.1 sound⟩

/-- The error is that of the first handler that is not sound. -/
theorem firstError_append {mode : String} {index : Nat} {before : List (PendingHandler σ κ)}
    (sound : ∀ h ∈ before, Sound h) {h : PendingHandler σ κ} (unsound : ¬ Sound h)
    (after : List (PendingHandler σ κ)) :
    firstError mode index (before ++ h :: after) =
      some (errorOf mode (index + before.length) h) := by
  induction before generalizing index with
  | nil => exact firstError_cons_unsound unsound after
  | cons first rest ih =>
    obtain ⟨hfirst, hrest⟩ := List.forall_mem_cons.mp sound
    rw [List.cons_append, firstError_cons_sound hfirst, ih hrest, List.length_cons,
      Nat.add_assoc, Nat.add_comm 1]

/-! ### Building -/

/-- The builder has been given a name that is not blank. -/
def Named (b : ModeBuilder σ κ) (name : String) : Prop :=
  b.name = some name ∧ ∃ c ∈ name.toList, Text.isBlank c = false

theorem filter_name_iff {b : ModeBuilder σ κ} {name : String} :
    (b.name.filter fun name => !Text.isAllBlank name) = some name ↔ b.Named name := by
  rw [Option.filter_eq_some_iff, Named]
  simp [Text.isAllBlank]

/-- The mode that registering the handlers of a builder one by one leads to. -/
def direct (b : ModeBuilder σ κ) (id : ModeId) (name : String) : Mode σ κ :=
  register
    { id, name, priority := b.priority, memory := b.memory, hook := b.hook
      handled := Mode.handled_new } b.handlers

theorem build_named {b : ModeBuilder σ κ} {name : String} (named : b.Named name) (id : ModeId) :
    b.build id = match firstError name 0 b.handlers with
      | some e => .error e
      | none => .ok (b.direct id name) := by
  rw [build, filter_name_iff.mpr named]
  rfl

theorem build_unnamed {b : ModeBuilder σ κ} (unnamed : ∀ name, ¬ b.Named name) (id : ModeId) :
    b.build id = .error .missingName := by
  have hnone : (b.name.filter fun name => !Text.isAllBlank name) = none := by
    refine Option.eq_none_iff_forall_ne_some.mpr fun name hname => ?_
    exact unnamed name (filter_name_iff.mp hname)
  rw [build, hnone]

/-- What comes of a builder. -/
theorem build_eq_ok_iff {b : ModeBuilder σ κ} {id : ModeId} {m : Mode σ κ} :
    b.build id = .ok m ↔
      ∃ name, b.Named name ∧ (∀ h ∈ b.handlers, Sound h) ∧ b.direct id name = m := by
  constructor
  · intro hbuild
    by_cases hnamed : ∃ name, b.Named name
    · obtain ⟨name, named⟩ := hnamed
      rw [build_named named] at hbuild
      split at hbuild
      · cases hbuild
      · rename_i hnone
        exact ⟨name, named, firstError_eq_none_iff.mp hnone, Except.ok.inj hbuild⟩
    · rw [build_unnamed (not_exists.mp hnamed)] at hbuild
      cases hbuild
  · rintro ⟨name, named, sound, rfl⟩
    rw [build_named named, firstError_eq_none_iff.mpr sound]

/-- Registering handlers on a new mode lists them all in order, numbered from 0 on and without holds
of no time. What is found for a switch is what a scan of that list finds, and a number leads to the
handler that was registered with it. A builder succeeds just if it has a name that is not blank and
all its handlers are sound. It fails without such a name, and else with what is wrong with the first
handler that is not sound. What it builds has the bindings and handlers that registering them one by
one leads to. -/
theorem modes_as_registered (b : ModeBuilder σ κ) (id : ModeId) (name : String) :
    let m := b.direct id name
    (m.allBindings = b.handlers.mapIdx fun i h => ⟨i, h.switch, h.condition,
      if h.hold = some .zero then none else h.hold⟩) ∧
    (∀ switch, m.bindings switch = m.allBindings.filter fun binding => binding.switch = switch) ∧
    (∀ i (hi : i < b.handlers.length) (memory : σ) (switch : Switch) (scene : Scene κ),
      Mode.handle i switch ({ m with memory }, scene) =
        Mode.play (b.handlers[i].run memory switch) ({ m with memory }, scene)) ∧
    ((∃ built, b.build id = .ok built) ↔
      (∃ given, b.name = some given ∧ ∃ c ∈ given.toList, Text.isBlank c = false) ∧
        ∀ h ∈ b.handlers, h.switch ≠ "" ∧ h.hold ≠ some .zero) ∧
    ((¬ ∃ given, b.name = some given ∧ ∃ c ∈ given.toList, Text.isBlank c = false) →
      b.build id = .error .missingName) ∧
    (∀ given, (b.name = some given ∧ ∃ c ∈ given.toList, Text.isBlank c = false) →
      ∀ before h after, b.handlers = before ++ h :: after →
        (∀ h ∈ before, h.switch ≠ "" ∧ h.hold ≠ some .zero) →
        ¬ (h.switch ≠ "" ∧ h.hold ≠ some .zero) →
        b.build id = .error
          (if h.switch = "" then .emptySwitchName given before.length else .zeroHold h.switch)) ∧
    (∀ built, b.build id = .ok built → built.allBindings = m.allBindings ∧
      (∀ switch, built.bindings switch = m.bindings switch) ∧ built.handlers = m.handlers) := by
  intro m
  have hall (name : String) : (b.direct id name).allBindings =
      b.handlers.mapIdx fun i h => h.binding i := by
    refine (allBindings_register _ b.handlers).trans ?_
    simp [Mode.allBindings, BindingTable.toList]
  have hhandlers (name : String) :
      (b.direct id name).handlers = b.handlers.map PendingHandler.run :=
    handlers_register _ b.handlers
  refine ⟨hall name, m.bindings_eq_filter, fun i hi memory switch scene => ?_, ?_,
    fun unnamed => ?_, fun given named before h after hsplit sound unsound => ?_,
    fun built hbuild => ?_⟩
  · have hhandler : m.handlers[i]? = some b.handlers[i].run := by
      rw [hhandlers name, List.getElem?_map, List.getElem?_eq_getElem hi, Option.map_some]
    simp only [Mode.handle, hhandler]
  · constructor
    · rintro ⟨built, hbuild⟩
      obtain ⟨given, named, sound, -⟩ := build_eq_ok_iff.mp hbuild
      exact ⟨⟨given, named⟩, sound⟩
    · rintro ⟨⟨given, named⟩, sound⟩
      exact ⟨_, build_eq_ok_iff.mpr ⟨given, named, sound, rfl⟩⟩
  · exact build_unnamed (not_exists.mp unnamed) id
  · have herror : firstError given 0 (before ++ h :: after) =
        some (errorOf given (0 + before.length) h) := firstError_append sound unsound after
    rw [build_named named, hsplit, herror, Nat.zero_add]
    rfl
  · obtain ⟨given, -, -, rfl⟩ := build_eq_ok_iff.mp hbuild
    have hsame : (b.direct id given).allBindings = m.allBindings :=
      (hall given).trans (hall name).symm
    refine ⟨hsame, fun switch => ?_, (hhandlers given).trans (hhandlers name).symm⟩
    rw [Mode.bindings_eq_filter, Mode.bindings_eq_filter, hsame]

end ModeBuilder

end Playfield
