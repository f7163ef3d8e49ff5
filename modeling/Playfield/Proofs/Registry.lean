import Mathlib.Data.List.Nodup
import Playfield.Config
import Playfield.Switch

/-!
# Registries whose indices fit

A registry is coherent if its indices lead to exactly the items that have the number or name. Then
lookups by number and by name give the same items, and no two items share a number or a name.
Registration keeps a registry coherent, and so does changing items in place. Of a switch store this
says what reporting a level does to later lookups.
-/
namespace Playfield

namespace Registry
variable {α : Type} [Listed α]

/-- The indices lead to the items that have the number or name, and to no others. -/
structure Coherent (r : Registry α) : Prop where
  number_iff : ∀ number slot, r.slotOfNumber? number = some slot ↔
    ∃ item, r.items[slot]? = some item ∧ Listed.number item = number
  name_iff : ∀ name slot, r.slotOfName? name = some slot ↔
    ∃ item, r.items[slot]? = some item ∧ Listed.name item = name

omit [Listed α] in
private theorem getElem?_push (items : List α) (item i : α) (slot : Nat) :
    (items ++ [item])[slot]? = some i ↔
      items[slot]? = some i ∨ slot = items.length ∧ i = item := by
  rw [List.getElem?_append]
  split
  · constructor
    · exact .inl
    · rintro (h | ⟨h, _⟩)
      · exact h
      · omega
  · rename_i hlt
    rw [List.getElem?_eq_none (Nat.le_of_not_lt hlt), List.getElem?_singleton]
    by_cases h : slot = items.length
    · simp [h, eq_comm]
    · have : slot - items.length ≠ 0 := by omega
      simp [h, this]

omit [Listed α] in
/-- An index entry for the end of the list fits if the key of the new item was free. -/
private theorem index_push {κ : Type} [DecidableEq κ] (key : α → κ) (index : List (κ × Nat))
    (items : List α) (item : α)
    (fits : ∀ k slot, index.lookup k = some slot ↔ ∃ i, items[slot]? = some i ∧ key i = k)
    (free : index.lookup (key item) = none) (k : κ) (slot : Nat) :
    ((key item, items.length) :: index).lookup k = some slot ↔
      ∃ i, (items ++ [item])[slot]? = some i ∧ key i = k := by
  have old (i : α) (h : items[slot]? = some i) : key i ≠ key item := by
    intro he
    have := (fits (key item) slot).mpr ⟨i, h, he⟩
    rw [free] at this
    exact nomatch this
  simp only [getElem?_push]
  by_cases hk : k = key item
  · simp only [List.lookup_cons, hk, beq_self_eq_true, Option.some.injEq]
    constructor
    · intro h
      exact ⟨item, .inr ⟨h.symm, rfl⟩, rfl⟩
    · rintro ⟨i, h | ⟨h, _⟩, he⟩
      · exact absurd he (old i h)
      · exact h.symm
  · have hne : (k == key item) = false := beq_false_of_ne hk
    simp only [List.lookup_cons, hne, fits]
    constructor
    · rintro ⟨i, hi, he⟩
      exact ⟨i, .inl hi, he⟩
    · rintro ⟨i, h | ⟨_, rfl⟩, he⟩
      · exact ⟨i, h, he⟩
      · exact absurd he.symm hk

omit [Listed α] in
/-- A change of the item with a number shows in lookups by number. -/
theorem get?_modifyNumber {r : Registry α} {number : Nat} {item : α}
    (hi : r.get? number = some item) (f : α → α) :
    (r.modifyNumber number f).get? number = some (f item) := by
  obtain ⟨slot, hs, hslot⟩ := Option.bind_eq_some_iff.mp hi
  have hindex : (r.modifyNumber number f).get? number = (r.items.modify slot f)[slot]? := by
    have hs' : (r.modify slot f).slotOfNumber? number = some slot := hs
    rw [modifyNumber, hs, Registry.get?, hs']; rfl
  rw [hindex, List.getElem?_modify, hslot]
  simp

/-- What lookups go by: the indices, and the number and name in each slot. -/
def plan (r : Registry α) : List (Nat × Nat) × List (String × Nat) × List (Nat × String) :=
  (r.byNumber, r.byName, r.items.map fun item => (Listed.number item, Listed.name item))

theorem plan_slot {r r' : Registry α} (h : r'.plan = r.plan) (slot : Nat) :
    (r'.items[slot]?).map (fun item => (Listed.number item, Listed.name item)) =
      (r.items[slot]?).map fun item => (Listed.number item, Listed.name item) := by
  have hitems := congrArg (fun p => p.2.2[slot]?) h
  simpa only [plan, List.getElem?_map] using hitems

theorem plan_modify (r : Registry α) (slot : Nat) (f : α → α)
    (keeps : ∀ item, r.items[slot]? = some item →
      Listed.number (f item) = Listed.number item ∧ Listed.name (f item) = Listed.name item) :
    (r.modify slot f).plan = r.plan := by
  have hitems : ((r.items.modify slot f).map fun item => (Listed.number item, Listed.name item)) =
      r.items.map fun item => (Listed.number item, Listed.name item) := by
    refine List.ext_getElem? fun at' => ?_
    rw [List.getElem?_map, List.getElem?_map, List.getElem?_modify]
    by_cases hat : slot = at'
    · subst hat
      cases hitem : r.items[slot]? with
      | none => rfl
      | some item =>
        obtain ⟨hnumber, hname⟩ := keeps item hitem
        simp [hnumber, hname]
    · cases r.items[at']? <;> simp [hat]
  simp only [plan, modify, hitems]

/-- A number that leads to an item leads to one after a change that keeps the plan. -/
theorem isSome_get?_of_plan {r r' : Registry α} (h : r'.plan = r.plan) {number : Nat}
    (hsome : (r.get? number).isSome) : (r'.get? number).isSome := by
  obtain ⟨item, hitem⟩ := Option.isSome_iff_exists.mp hsome
  obtain ⟨slot, hslot, hat⟩ := Option.bind_eq_some_iff.mp hitem
  have hslot' : r'.slotOfNumber? number = some slot :=
    (congrArg (fun p => p.1.lookup number) h).trans hslot
  have hat' := plan_slot h slot
  rw [hat] at hat'
  obtain ⟨item', hitem', -⟩ := Option.map_eq_some_iff.mp hat'
  rw [Registry.get?, hslot', Option.bind_some, hitem']
  rfl

namespace Coherent
variable {r : Registry α}

theorem empty : (Registry.empty : Registry α).Coherent where
  number_iff := by simp [Registry.empty, slotOfNumber?]
  name_iff := by simp [Registry.empty, slotOfName?]

/-- Registration keeps a registry coherent. -/
theorem insert (h : r.Coherent) {item : α} {r' : Registry α} (hr : r.insert item = .ok r') :
    r'.Coherent := by
  simp only [Registry.insert] at hr
  split at hr
  · cases hr
  · split at hr
    · cases hr
    · rename_i hnumber hname
      cases hr
      exact ⟨index_push Listed.number _ _ item h.number_iff
          (Option.not_isSome_iff_eq_none.mp hnumber),
        index_push Listed.name _ _ item h.name_iff (Option.not_isSome_iff_eq_none.mp hname)⟩

/-- So does changing an item in place, if its number and name stay. -/
theorem modify (h : r.Coherent) (slot : Nat) {f : α → α}
    (number : ∀ i, Listed.number (f i) = Listed.number i)
    (name : ∀ i, Listed.name (f i) = Listed.name i) : (r.modify slot f).Coherent := by
  have keeps {β : Type} (key : α → β) (hkey : ∀ i, key (f i) = key i) (k : β) (at' : Nat) :
      (∃ i, r.items[at']? = some i ∧ key i = k) ↔
        ∃ i, (r.items.modify slot f)[at']? = some i ∧ key i = k := by
    rw [List.getElem?_modify]
    cases r.items[at']? with
    | none => simp
    | some i => by_cases hs : slot = at' <;> simp [hs, hkey]
  exact ⟨fun n at' => (h.number_iff n at').trans (keeps _ number n at'),
    fun n at' => (h.name_iff n at').trans (keeps _ name n at')⟩

theorem get?_iff (h : r.Coherent) {number : Nat} {item : α} :
    r.get? number = some item ↔ item ∈ r.items ∧ Listed.number item = number := by
  rw [Registry.get?, Option.bind_eq_some_iff]
  constructor
  · rintro ⟨slot, hs, hi⟩
    obtain ⟨i, hi', hn⟩ := (h.number_iff number slot).mp hs
    rw [hi] at hi'
    cases hi'
    exact ⟨List.mem_of_getElem? hi, hn⟩
  · intro state
    obtain ⟨hi, hn⟩ := state
    obtain ⟨slot, hs⟩ := List.mem_iff_getElem?.mp hi
    exact ⟨slot, (h.number_iff number slot).mpr ⟨item, hs, hn⟩, hs⟩

theorem find?_iff (h : r.Coherent) {name : String} {item : α} :
    r.find? name = some item ↔ item ∈ r.items ∧ Listed.name item = name := by
  rw [Registry.find?, Option.bind_eq_some_iff]
  constructor
  · rintro ⟨slot, hs, hi⟩
    obtain ⟨i, hi', hn⟩ := (h.name_iff name slot).mp hs
    rw [hi] at hi'
    cases hi'
    exact ⟨List.mem_of_getElem? hi, hn⟩
  · intro state
    obtain ⟨hi, hn⟩ := state
    obtain ⟨slot, hs⟩ := List.mem_iff_getElem?.mp hi
    exact ⟨slot, (h.name_iff name slot).mpr ⟨item, hs, hn⟩, hs⟩

omit [Listed α] in
/-- Items that are each found in one slot only by a key have different keys. -/
private theorem nodup_of_fits {κ : Type} {items : List α} {key : α → κ} {slotOf : κ → Option Nat}
    (fits : ∀ k slot, slotOf k = some slot ↔ ∃ item, items[slot]? = some item ∧ key item = k) :
    (items.map key).Nodup := by
  rw [List.nodup_iff_getElem?_ne_getElem?]
  intro i j hij hj heq
  rw [List.length_map] at hj
  have hi : i < items.length := by omega
  simp only [List.getElem?_map, List.getElem?_eq_getElem hi, List.getElem?_eq_getElem hj,
    Option.map_some, Option.some.injEq] at heq
  have hfirst := (fits (key items[i]) i).mpr ⟨_, List.getElem?_eq_getElem hi, rfl⟩
  have hsecond := (fits (key items[i]) j).mpr ⟨_, List.getElem?_eq_getElem hj, heq.symm⟩
  rw [hfirst, Option.some.injEq] at hsecond
  omega

/-- No number and no name is registered twice. -/
theorem nodup (h : r.Coherent) :
    (r.items.map Listed.number).Nodup ∧ (r.items.map Listed.name).Nodup :=
  ⟨nodup_of_fits h.number_iff, nodup_of_fits h.name_iff⟩

/-- A change of the item with a number shows in lookups by its name, and in no others. -/
theorem find?_modifyNumber (h : r.Coherent) {number : Nat} {item : α}
    (hi : r.get? number = some item) (f : α → α) (name : String) :
    (r.modifyNumber number f).find? name =
      if name = Listed.name item then some (f item) else r.find? name := by
  obtain ⟨slot, hs, hslot⟩ := Option.bind_eq_some_iff.mp hi
  have hindex : (r.modifyNumber number f).find? name =
      (r.slotOfName? name).bind fun at' => (r.items.modify slot f)[at']? := by
    rw [modifyNumber, hs]; rfl
  rw [hindex]
  split
  · rename_i heq
    rw [(h.name_iff name slot).mpr ⟨item, hslot, heq.symm⟩, Option.bind_some,
      List.getElem?_modify, hslot]
    simp
  · rename_i hne
    rw [Registry.find?]
    cases hn : r.slotOfName? name with
    | none => rfl
    | some at' =>
      have hat : slot ≠ at' := by
        rintro rfl
        obtain ⟨i, hi', he⟩ := (h.name_iff name slot).mp hn
        rw [hslot] at hi'
        cases hi'
        exact hne he.symm
      rw [Option.bind_some, Option.bind_some, List.getElem?_modify]
      simp [hat]

theorem of_plan (h : r.Coherent) {r' : Registry α} (hplan : r'.plan = r.plan) : r'.Coherent := by
  have keeps {β : Type} (key : Nat × String → β) (k : β) (slot : Nat) :
      (∃ item, r.items[slot]? = some item ∧ key (Listed.number item, Listed.name item) = k) ↔
        ∃ item, r'.items[slot]? = some item ∧ key (Listed.number item, Listed.name item) = k := by
    have hread (o : Option α) :
        (∃ item, o = some item ∧ key (Listed.number item, Listed.name item) = k) ↔
          (o.map fun item => (Listed.number item, Listed.name item)).map key = some k := by
      cases o <;> simp
    rw [hread, hread, plan_slot hplan slot]
  refine ⟨fun number slot => ?_, fun name slot => ?_⟩
  · have hindex : r'.slotOfNumber? number = r.slotOfNumber? number :=
      congrArg (fun p => p.1.lookup number) hplan
    rw [hindex]
    exact (h.number_iff number slot).trans (keeps Prod.fst number slot)
  · have hindex : r'.slotOfName? name = r.slotOfName? name :=
      congrArg (fun p => p.2.1.lookup name) hplan
    rw [hindex]
    exact (h.name_iff name slot).trans (keeps Prod.snd name slot)

/-- A change of the item with a number does not show in lookups by other numbers. -/
theorem get?_modifyNumber_ne (h : r.Coherent) {number other : Nat} (hne : other ≠ number)
    (f : α → α) : (r.modifyNumber number f).get? other = r.get? other := by
  simp only [modifyNumber]
  cases hslot : r.slotOfNumber? number with
  | none => rfl
  | some slot =>
    have hindex : (r.modify slot f).get? other =
        (r.slotOfNumber? other).bind fun at' => (r.items.modify slot f)[at']? := rfl
    rw [hindex, Registry.get?]
    cases hother : r.slotOfNumber? other with
    | none => rfl
    | some at' =>
      have hat : slot ≠ at' := by
        rintro rfl
        obtain ⟨item, hitem, hnumber⟩ := (h.number_iff number slot).mp hslot
        obtain ⟨item', hitem', hnumber'⟩ := (h.number_iff other slot).mp hother
        rw [hitem] at hitem'
        cases hitem'
        exact hne (hnumber'.symm.trans hnumber)
      rw [Option.bind_some, Option.bind_some, List.getElem?_modify]
      simp [hat]

end Coherent

end Registry

/-- Registering items in turn keeps a registry coherent. -/
theorem TableConfig.coherent_registerAll {α : Type} [Listed α] (items : List α) {r : Registry α}
    (h : r.Coherent) : (registerAll items r).2.Coherent := by
  induction items generalizing r with
  | nil => exact h
  | cons item rest ih =>
    simp only [registerAll]
    split
    · rename_i hr
      exact ih (h.insert hr)
    · exact ih h

namespace SwitchStore

/-- The store's lookups fit its switches. -/
abbrev Coherent (store : SwitchStore) : Prop := store.switches.Coherent

variable {store : SwitchStore}

theorem name_of_find? (h : store.Coherent) {name : String} {s : Switch}
    (hs : store.find? name = some s) : s.name = name :=
  (h.find?_iff.mp hs).2

theorem find?_of_get? (h : store.Coherent) {number : Nat} {s : Switch}
    (hs : store.get? number = some s) : store.find? s.name = some s :=
  h.find?_iff.mpr ⟨(h.get?_iff.mp hs).1, rfl⟩

/-- A switch whose level was reported at a time. -/
def reported (s : Switch) (closed : Bool) (now : Span) : Switch :=
  { s with closed, lastChanged := now }

@[simp] theorem name_reported (s : Switch) (closed : Bool) (now : Span) :
    (reported s closed now).name = s.name := rfl

variable {number : Nat} {s : Switch} {closed : Bool} {now : Span}

theorem report_unknown (hs : store.get? number = none) :
    store.report number closed now = (none, store) := by
  simp [report, hs]

theorem report_same (hs : store.get? number = some s) (hc : s.closed = closed) :
    store.report number closed now = (some s.closed, store) := by
  simp [report, hs, hc]

theorem report_fst (hs : store.get? number = some s) :
    (store.report number closed now).1 = some s.closed := by
  simp only [report]
  rw [hs]
  dsimp only
  split <;> rfl

theorem coherent_report (h : store.Coherent) (number : Nat) (closed : Bool) (now : Span) :
    (store.report number closed now).2.Coherent := by
  simp only [report]
  split
  · exact h
  · split
    · exact h
    · simp only [Registry.modifyNumber]
      split
      · exact h.modify _ (fun _ => rfl) fun _ => rfl
      · exact h

/-- After a change of level the number leads to the switch as reported. -/
theorem get?_report (hs : store.get? number = some s) (hc : s.closed ≠ closed) :
    (store.report number closed now).2.get? number = some (reported s closed now) := by
  simp only [report, hs, hc, if_false]
  exact Registry.get?_modifyNumber hs _

/-- After a change of level its name leads to the switch as reported, and other names lead where
they led before. -/
theorem find?_report (h : store.Coherent) (hs : store.get? number = some s) (hc : s.closed ≠ closed)
    (now : Span) (name : String) : (store.report number closed now).2.find? name =
      if name = s.name then some (reported s closed now) else store.find? name := by
  simp only [report, hs, hc, if_false]
  exact h.find?_modifyNumber hs _ name

/-- A condition that held of the level before a change does not hold of the level after it. -/
theorem holds_reported (hc : s.closed ≠ closed) (now : Span) (c : Condition) :
    c.holds (reported s closed now) = !c.holds s := by
  have hb : closed = !s.closed := by cases closed <;> cases h : s.closed <;> simp_all
  cases c <;> cases hw : s.wiring <;> simp [Condition.holds, reported, Switch.isActive, hw, hb]

end SwitchStore

end Playfield
