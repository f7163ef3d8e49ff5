import Playfield.Proofs.Registry

/-!
# The life of a registry

Items are registered one after another and changed in place, through their number, through their
name or all at once. As long as a change keeps the number and name of what it changes, every entry
of the indices leads to the item it is for, the lookups by number and by name find every item, and
no number or name is there twice. The items stand in the order in which they were accepted. One is
refused just if its number or its name is taken, and that changes nothing.
-/
namespace Playfield

namespace Registry
variable {α : Type} [Listed α]

/-- What an item is looked up by. -/
abbrev label (item : α) : Nat × String := (Listed.number item, Listed.name item)

/-- One thing done with a registry. -/
inductive Use (α : Type) where
  | insert (item : α)
  | changeNumber (number : Nat) (f : α → α)
  | changeName (name : String) (f : α → α)
  | changeAll (f : α → α)

namespace Use

/-- The registry after one thing was done with it. -/
def run (r : Registry α) : Use α → Registry α
  | .insert item =>
    match r.insert item with
    | .ok r' => r'
    | .error _ => r
  | .changeNumber number f => r.modifyNumber number f
  | .changeName name f => r.modifyName name f
  | .changeAll f => r.modifyAll f

/-- The item that is registered by this, if one is. -/
def accepted? (r : Registry α) : Use α → Option α
  | .insert item =>
    match r.insert item with
    | .ok _ => some item
    | .error _ => none
  | _ => none

/-- What is changed keeps its number and name. -/
def Keeps (r : Registry α) : Use α → Prop
  | .insert _ => True
  | .changeNumber number f => ∀ item, r.get? number = some item → label (f item) = label item
  | .changeName name f => ∀ item, r.find? name = some item → label (f item) = label item
  | .changeAll f => ∀ item ∈ r.items, label (f item) = label item

end Use

/-- The registry after things were done with it in turn. -/
def after (r : Registry α) (uses : List (Use α)) : Registry α := uses.foldl Use.run r

/-- The items registered along the way, in order. -/
def accepted (r : Registry α) : List (Use α) → List α
  | [] => []
  | u :: rest => (u.accepted? r).toList ++ accepted (u.run r) rest

/-- Everything done along the way keeps numbers and names. -/
def Keeping (r : Registry α) : List (Use α) → Prop
  | [] => True
  | u :: rest => u.Keeps r ∧ Keeping (u.run r) rest

/-- Why an item cannot join some others: its number is taken, or else its name is. -/
def clash? (items : List α) (item : α) : Option Clash :=
  if ∃ other ∈ items, Listed.number other = Listed.number item then
    some (.number (Listed.number item))
  else if ∃ other ∈ items, Listed.name other = Listed.name item then
    some (.name (Listed.name item))
  else none

/-- Every entry of the indices leads to an item with the number or name it is for. -/
structure Grounded (r : Registry α) : Prop where
  number : ∀ entry ∈ r.byNumber,
    ∃ item, r.items[entry.2]? = some item ∧ Listed.number item = entry.1
  name : ∀ entry ∈ r.byName,
    ∃ item, r.items[entry.2]? = some item ∧ Listed.name item = entry.1

/-! ### Registration -/

/-- Registration refuses, or puts the item at the end and an entry for it into each index. -/
theorem insert_cases (r : Registry α) (item : α) :
    (∃ clash, r.insert item = .error clash) ∨
      r.insert item = .ok {
        items := r.items ++ [item]
        byNumber := (Listed.number item, r.size) :: r.byNumber
        byName := (Listed.name item, r.size) :: r.byName } := by
  simp only [insert]
  split
  · exact .inl ⟨_, rfl⟩
  · split
    · exact .inl ⟨_, rfl⟩
    · exact .inr rfl

theorem run_refused {r : Registry α} {item : α} {clash : Clash}
    (h : r.insert item = .error clash) :
    (Use.insert item).run r = r ∧ (Use.insert item).accepted? r = none := by
  simp only [Use.run, Use.accepted?, h, and_self]

theorem run_accepted {r r' : Registry α} {item : α} (h : r.insert item = .ok r') :
    (Use.insert item).run r = r' ∧ (Use.insert item).accepted? r = some item := by
  simp only [Use.run, Use.accepted?, h, and_self]

omit [Listed α] in
private theorem leads_push {κ : Type} {key : α → κ} {items : List α} {index : List (κ × Nat)}
    (grounded : ∀ entry ∈ index, ∃ item, items[entry.2]? = some item ∧ key item = entry.1)
    (item : α) : ∀ entry ∈ (key item, items.length) :: index,
      ∃ i, (items ++ [item])[entry.2]? = some i ∧ key i = entry.1 := by
  intro entry hentry
  rcases List.mem_cons.mp hentry with rfl | hold
  · exact ⟨item, List.getElem?_concat_length, rfl⟩
  · obtain ⟨i, hi, hkey⟩ := grounded entry hold
    obtain ⟨hlt, -⟩ := List.getElem?_eq_some_iff.mp hi
    exact ⟨i, (List.getElem?_append_left hlt).trans hi, hkey⟩

omit [Listed α] in
private theorem isSome_of_fits {κ : Type} {items : List α} {key : α → κ} {slotOf : κ → Option Nat}
    (fits : ∀ k slot, slotOf k = some slot ↔ ∃ item, items[slot]? = some item ∧ key item = k)
    (k : κ) : (slotOf k).isSome ↔ ∃ item ∈ items, key item = k := by
  simp only [Option.isSome_iff_exists, fits, List.mem_iff_getElem?]
  exact ⟨fun ⟨slot, item, hi, hk⟩ => ⟨item, ⟨slot, hi⟩, hk⟩,
    fun ⟨item, ⟨slot, hi⟩, hk⟩ => ⟨slot, item, hi, hk⟩⟩

/-- An item is refused just for a clash with one that is there. -/
theorem Coherent.insert_eq_error_iff {r : Registry α} (h : r.Coherent) (item : α) (clash : Clash) :
    r.insert item = .error clash ↔ clash? r.items item = some clash := by
  simp only [Registry.insert, clash?, isSome_of_fits h.number_iff, isSome_of_fits h.name_iff]
  split
  · simp
  · split <;> simp

/-! ### Changes -/

/-- What lookups go by stays if the item in the slot that was found, if one was, keeps its label. -/
private theorem plan_modify_found {r : Registry α} {slot? : Option Nat} {f : α → α}
    (keeps : ∀ item, (slot?.bind fun slot => r.items[slot]?) = some item →
      label (f item) = label item) :
    (match slot? with
      | some slot => r.modify slot f
      | none => r).plan = r.plan := by
  cases slot? with
  | none => rfl
  | some slot => exact plan_modify r slot f fun item hitem => Prod.mk.inj (keeps item hitem)

theorem plan_modifyAll {r : Registry α} {f : α → α} (keeps : (Use.changeAll f).Keeps r) :
    (r.modifyAll f).plan = r.plan := by
  have hlabels : (r.items.map f).map label = r.items.map label := by
    rw [List.map_map]
    exact List.map_congr_left keeps
  simp only [plan, modifyAll, hlabels]

/-- Nothing but a registration changes what lookups go by. -/
theorem Use.plan_run {r : Registry α} {u : Use α} (keeps : u.Keeps r)
    (other : ∀ item, u ≠ .insert item) : (u.run r).plan = r.plan ∧ u.accepted? r = none := by
  cases u with
  | insert item => exact absurd rfl (other item)
  | changeNumber number f => exact ⟨plan_modify_found keeps, rfl⟩
  | changeName name f => exact ⟨plan_modify_found keeps, rfl⟩
  | changeAll f => exact ⟨plan_modifyAll keeps, rfl⟩

theorem labels_of_plan {r r' : Registry α} (h : r'.plan = r.plan) :
    r'.items.map label = r.items.map label :=
  congrArg (fun p => p.2.2) h

theorem Grounded.of_plan {r r' : Registry α} (h : r.Grounded) (hplan : r'.plan = r.plan) :
    r'.Grounded := by
  have leads {κ : Type} (key : Nat × String → κ) {slot : Nat} {k : κ}
      (hold : ∃ item, r.items[slot]? = some item ∧ key (label item) = k) :
      ∃ item, r'.items[slot]? = some item ∧ key (label item) = k := by
    obtain ⟨item, hitem, hkey⟩ := hold
    have hslot := plan_slot hplan slot
    rw [hitem, Option.map_some] at hslot
    obtain ⟨item', hitem', hlabel⟩ := Option.map_eq_some_iff.mp hslot
    exact ⟨item', hitem', (congrArg key hlabel).trans hkey⟩
  constructor
  · intro entry hentry
    have hindex : r'.byNumber = r.byNumber := congrArg Prod.fst hplan
    exact leads Prod.fst (h.number entry (hindex ▸ hentry))
  · intro entry hentry
    have hindex : r'.byName = r.byName := congrArg (fun p => p.2.1) hplan
    exact leads Prod.snd (h.name entry (hindex ▸ hentry))

/-- The number and the name of an item lead to the same slot, so a change through one of them is a
change through the other. -/
theorem Coherent.modifyName_eq {r : Registry α} (h : r.Coherent) {item : α} (hi : item ∈ r.items)
    (f : α → α) : r.modifyName (Listed.name item) f = r.modifyNumber (Listed.number item) f := by
  obtain ⟨slot, hslot⟩ := List.mem_iff_getElem?.mp hi
  have hnumber : r.slotOfNumber? (Listed.number item) = some slot :=
    (h.number_iff _ slot).mpr ⟨item, hslot, rfl⟩
  have hname : r.slotOfName? (Listed.name item) = some slot :=
    (h.name_iff _ slot).mpr ⟨item, hslot, rfl⟩
  rw [modifyName, modifyNumber, hnumber, hname]

omit [Listed α] in
/-- A change of all items shows in every lookup. -/
theorem lookups_modifyAll (r : Registry α) (f : α → α) (number : Nat) (name : String) :
    (r.modifyAll f).get? number = (r.get? number).map f ∧
      (r.modifyAll f).find? name = (r.find? name).map f := by
  constructor
  · change (r.slotOfNumber? number).bind (fun slot => (r.items.map f)[slot]?) = _
    simp only [get?, List.getElem?_map, Option.map_bind, Function.comp_def]
  · change (r.slotOfName? name).bind (fun slot => (r.items.map f)[slot]?) = _
    simp only [find?, List.getElem?_map, Option.map_bind, Function.comp_def]

/-! ### The whole life -/

/-- Each thing done keeps the indices in order, and only what is accepted is added to the items. -/
theorem Use.run_spec {r : Registry α} (coherent : r.Coherent) (grounded : r.Grounded) {u : Use α}
    (keeps : u.Keeps r) :
    (u.run r).Coherent ∧ (u.run r).Grounded ∧
      (u.run r).items.map label = r.items.map label ++ (u.accepted? r).toList.map label := by
  by_cases hinsert : ∃ item, u = .insert item
  · obtain ⟨item, rfl⟩ := hinsert
    rcases r.insert_cases item with ⟨clash, hrefused⟩ | haccepted
    · obtain ⟨hrun, hnone⟩ := run_refused hrefused
      rw [hrun, hnone]
      exact ⟨coherent, grounded, (List.append_nil _).symm⟩
    · obtain ⟨hrun, hsome⟩ := run_accepted haccepted
      rw [hrun, hsome]
      exact ⟨coherent.insert haccepted,
        ⟨leads_push grounded.number item, leads_push grounded.name item⟩, List.map_append⟩
  · obtain ⟨hplan, hnone⟩ := u.plan_run keeps fun item h => hinsert ⟨item, h⟩
    rw [hnone]
    exact ⟨coherent.of_plan hplan, grounded.of_plan hplan,
      (labels_of_plan hplan).trans (List.append_nil _).symm⟩

theorem after_spec {r : Registry α} (coherent : r.Coherent) (grounded : r.Grounded)
    {uses : List (Use α)} (keeping : Keeping r uses) :
    (r.after uses).Coherent ∧ (r.after uses).Grounded ∧
      (r.after uses).items.map label = r.items.map label ++ (accepted r uses).map label := by
  induction uses generalizing r with
  | nil => exact ⟨coherent, grounded, (List.append_nil _).symm⟩
  | cons u rest ih =>
    obtain ⟨hkeeps, hrest⟩ := keeping
    obtain ⟨hcoherent, hgrounded, hlabels⟩ := Use.run_spec coherent grounded hkeeps
    obtain ⟨hcoherent', hgrounded', hlabels'⟩ := ih hcoherent hgrounded hrest
    refine ⟨hcoherent', hgrounded', ?_⟩
    have hafter : (r.after (u :: rest)).items.map label =
        (u.run r).items.map label ++ (accepted (u.run r) rest).map label := hlabels'
    rw [hafter, hlabels, List.append_assoc, accepted, List.map_append]

/-- Along the life of a registry in which changes keep numbers and names: every entry of the indices
leads to an item with its number or name; each item, and nothing else, is found by its number and by
its name; a change through one of them is a change through the other and shows in both lookups; no
number or name is there twice; the items stand in the order in which they were accepted; and an item
is refused just for a clash, of its number first, which changes nothing. -/
theorem indices_kept (uses : List (Use α)) (keeping : Keeping empty uses) :
    let r : Registry α := empty.after uses
    (∀ entry ∈ r.byNumber, entry.2 < r.size ∧
      ∃ item, r.items[entry.2]? = some item ∧ Listed.number item = entry.1) ∧
    (∀ entry ∈ r.byName, entry.2 < r.size ∧
      ∃ item, r.items[entry.2]? = some item ∧ Listed.name item = entry.1) ∧
    (∀ number item, r.get? number = some item ↔ item ∈ r.items ∧ Listed.number item = number) ∧
    (∀ name item, r.find? name = some item ↔ item ∈ r.items ∧ Listed.name item = name) ∧
    (∀ item ∈ r.items, ∀ f,
      r.modifyName (Listed.name item) f = r.modifyNumber (Listed.number item) f ∧
      (r.modifyNumber (Listed.number item) f).get? (Listed.number item) = some (f item) ∧
      (r.modifyNumber (Listed.number item) f).find? (Listed.name item) = some (f item) ∧
      (r.modifyAll f).get? (Listed.number item) = some (f item) ∧
      (r.modifyAll f).find? (Listed.name item) = some (f item)) ∧
    (r.items.map Listed.number).Nodup ∧ (r.items.map Listed.name).Nodup ∧
    r.items.map label = (accepted empty uses).map label ∧
    ∀ item clash, (r.insert item = .error clash ↔ clash? r.items item = some clash) ∧
      (r.insert item = .error clash → empty.after (uses ++ [.insert item]) = r) := by
  intro r
  have hstart : (empty : Registry α).Grounded := ⟨List.forall_mem_nil _, List.forall_mem_nil _⟩
  obtain ⟨coherent, grounded, hlabels⟩ := after_spec .empty hstart keeping
  have inRange {slot : Nat} {item : α} (hitem : r.items[slot]? = some item) : slot < r.size :=
    (List.getElem?_eq_some_iff.mp hitem).1
  refine ⟨fun entry hentry => ?_, fun entry hentry => ?_, fun _ _ => coherent.get?_iff,
    fun _ _ => coherent.find?_iff, fun item hitem f => ?_, coherent.nodup.1, coherent.nodup.2,
    hlabels, fun item clash => ⟨coherent.insert_eq_error_iff item clash, fun hrefused => ?_⟩⟩
  · obtain ⟨item, hitem, hnumber⟩ := grounded.number entry hentry
    exact ⟨inRange hitem, item, hitem, hnumber⟩
  · obtain ⟨item, hitem, hname⟩ := grounded.name entry hentry
    exact ⟨inRange hitem, item, hitem, hname⟩
  · have hget : r.get? (Listed.number item) = some item := coherent.get?_iff.mpr ⟨hitem, rfl⟩
    have hfind : r.find? (Listed.name item) = some item := coherent.find?_iff.mpr ⟨hitem, rfl⟩
    obtain ⟨hgetAll, hfindAll⟩ := r.lookups_modifyAll f (Listed.number item) (Listed.name item)
    refine ⟨coherent.modifyName_eq hitem f, get?_modifyNumber hget f, ?_, ?_, ?_⟩
    · rw [coherent.find?_modifyNumber hget, if_pos rfl]
    · rw [hgetAll, hget, Option.map_some]
    · rw [hfindAll, hfind, Option.map_some]
  · have hlast : empty.after (uses ++ [.insert item]) = (Use.insert item).run r := by
      rw [after, List.foldl_append]
      rfl
    rw [hlast, (run_refused hrefused).1]

/-- Of four switches two are refused. A level reported by name is found by number, and the other way
round. -/
theorem gate_and_lane_found :
    let gate : Switch := { number := 7, name := "gate" }
    let lane : Switch := { number := 8, name := "lane" }
    let close (s : Switch) : Switch := { s with closed := true }
    let uses := [.insert gate, .insert lane, .insert { gate with name := "spare" },
      .insert { lane with number := 9 }, .changeName "gate" close, .changeNumber 8 close]
    let r := empty.after uses
    Keeping empty uses ∧ r.items.map label = [(7, "gate"), (8, "lane")] ∧
      r.get? 7 = some (close gate) ∧ r.find? "lane" = some (close lane) := by
  intro gate lane close uses r
  have keeping : Keeping empty uses :=
    ⟨trivial, trivial, trivial, trivial, fun _ _ => rfl, fun _ _ => rfl, trivial⟩
  obtain ⟨-, -, hget, hfind, -, -, -, hlabels, -⟩ := indices_kept uses keeping
  have haccepted : (accepted empty uses).map label = [(7, "gate"), (8, "lane")] := by
    decide +kernel
  have hitems : r.items = [close gate, close lane] := by decide +kernel
  refine ⟨keeping, hlabels.trans haccepted, (hget 7 _).mpr ⟨?_, rfl⟩,
    (hfind "lane" _).mpr ⟨?_, rfl⟩⟩
  · exact hitems ▸ List.mem_cons_self
  · exact hitems ▸ List.mem_cons_of_mem _ List.mem_cons_self

end Registry

end Playfield
