import Mathlib.Data.List.Forall2
import Playfield.Config.Document
import Playfield.Proofs.Json.RoundTrip

/-!
# Table descriptions are read back

A description is read back from the document it is written as. The same holds of a document in which
members are left out that have their default values, be it members of the description itself or of
its switches, coils and lamps (`TableConfig.Document`).
-/
namespace Playfield

open Json (Record)

namespace Json

/-- Some members are left out of others, each of them with the value that its name has by
default. -/
inductive Omits (defaults : List (String × Json)) :
    List (String × Json) → List (String × Json) → Prop where
  | nil : Omits defaults [] []
  | keep (m : String × Json) {ms ns : List (String × Json)} (rest : Omits defaults ms ns) :
    Omits defaults (m :: ms) (m :: ns)
  | drop {m : String × Json} (default : m ∈ defaults) {ms ns : List (String × Json)}
    (rest : Omits defaults ms ns) : Omits defaults (m :: ms) ns

/-- An object from which members with default values may have been left out. -/
def Abridged (defaults : List (String × Json)) (whole short : Json) : Prop :=
  ∃ ms ns, Omits defaults ms ns ∧ whole = .obj ms ∧ short = .obj ns

theorem obj_injective {ms ns : List (String × Json)} (h : obj ms = obj ns) : ms = ns := by
  have hmap : ms.map (fun m => (some m.1, m.2)) = ns.map fun m => (some m.1, m.2) :=
    Json.object.inj h
  refine (List.map_inj_right fun _ _ hmn => ?_).mp hmap
  obtain ⟨hname, hvalue⟩ := Prod.mk.inj hmn
  exact Prod.ext (Option.some.inj hname) hvalue

theorem Abridged.members {defaults ms : List (String × Json)} {j : Json}
    (h : Abridged defaults (.obj ms) j) : ∃ ns, Omits defaults ms ns ∧ j = .obj ns := by
  obtain ⟨ms', ns, homits, hwhole, hshort⟩ := h
  obtain rfl := obj_injective hwhole
  exact ⟨ns, homits, hshort⟩

theorem lookup_eq_none {ms : List (String × Json)} {name : String}
    (h : name ∉ ms.map Prod.fst) : ms.lookup name = none :=
  List.lookup_eq_none_iff.mpr fun _ hm =>
    bne_iff_ne.mpr fun heq => h (heq ▸ List.mem_map_of_mem hm)

/-- Members with distinct names of a record are all found. -/
theorem fieldsOf?_of_sublist {names : List String} (distinct : names.Nodup)
    {ms : List (String × Json)} (sub : (ms.map Prod.fst).Sublist names) :
    fieldsOf? names false (ms.map fun m => (some m.1, m.2)) = some ms := by
  induction ms with
  | nil => rfl
  | cons m rest ih =>
    have hname : m.1 ∈ names := sub.mem List.mem_cons_self
    have hnone : rest.lookup m.1 = none :=
      lookup_eq_none (List.nodup_cons.mp (distinct.sublist sub)).1
    have hrest := ih ((List.sublist_cons_self _ _).trans sub)
    simp only [List.map_cons, fieldsOf?, hname, if_true, hrest, hnone, Option.isSome_none,
      Bool.false_eq_true, if_false]

namespace Omits
variable {defaults ms ns : List (String × Json)} {name : String} {v : Json}

theorem refl (defaults ms : List (String × Json)) : Omits defaults ms ms := by
  induction ms with
  | nil => exact .nil
  | cons m rest ih => exact .keep m ih

/-- Where every member has its default value, all may be left out. -/
theorem all (h : ∀ m ∈ ms, m ∈ defaults) : Omits defaults ms [] := by
  induction ms with
  | nil => exact .nil
  | cons m rest ih =>
    obtain ⟨hm, hrest⟩ := List.forall_mem_cons.mp h
    exact .drop hm (ih hrest)

theorem sublist (h : Omits defaults ms ns) : ns.Sublist ms := by
  induction h with
  | nil => exact .refl _
  | keep m _ ih => exact ih.cons_cons m
  | drop _ _ ih => exact ih.cons _

/-- A member is still there, or it had its default value. -/
theorem lookup (h : Omits defaults ms ns) (distinct : (ms.map Prod.fst).Nodup)
    (mem : (name, v) ∈ ms) :
    ns.lookup name = some v ∨ ns.lookup name = none ∧ (name, v) ∈ defaults := by
  induction h with
  | nil => exact nomatch mem
  | keep m rest ih =>
    obtain ⟨hnot, hrest⟩ := List.nodup_cons.mp distinct
    rcases List.mem_cons.mp mem with rfl | mem
    · exact .inl List.lookup_cons_self
    · have hne : name ≠ m.1 := fun heq => hnot (heq ▸ List.mem_map_of_mem mem)
      rw [List.lookup_cons, beq_false_of_ne hne]
      exact ih hrest mem
  | @drop m default ms ns rest ih =>
    obtain ⟨hnot, hrest⟩ := List.nodup_cons.mp distinct
    rcases List.mem_cons.mp mem with rfl | mem
    · refine .inr ⟨lookup_eq_none fun hname => hnot ?_, default⟩
      exact (rest.sublist.map _).mem hname
    · exact ih hrest mem

/-- The members that are left are the fields of a record. -/
theorem record? {names : List String} (h : Omits defaults ms ns) (all : ms.map Prod.fst = names)
    (distinct : names.Nodup) : (obj ns).record? names false = some ⟨false, ns⟩ := by
  have hfields := fieldsOf?_of_sublist distinct (all ▸ h.sublist.map Prod.fst)
  rw [obj, Json.record?, hfields]
  rfl

section Fields
variable {α : Type} {decode : Json → Option α} {a : α}

/-- A field that has no default is read as if nothing were left out. -/
theorem required? (h : Omits defaults ms ns) (distinct : (ms.map Prod.fst).Nodup)
    (decoded : decode v = some a) (mem : (name, v) ∈ ms) (needed : (name, v) ∉ defaults) :
    (⟨false, ns⟩ : Record).required? name decode = some a := by
  rcases h.lookup distinct mem with hthere | ⟨-, hdefault⟩
  · simp only [Record.required?, hthere, Option.bind_some, decoded]
  · exact absurd hdefault needed

/-- So is a field whose default is what it is read as when it is left out. -/
theorem getD? (h : Omits defaults ms ns) (distinct : (ms.map Prod.fst).Nodup)
    (decoded : decode v = some a) (mem : (name, v) ∈ ms) {w : Json} {default : α}
    (agrees : (name, v) ∈ defaults → v = w) (standard : decode w = some default) :
    (⟨false, ns⟩ : Record).getD? name decode default = some a := by
  rcases h.lookup distinct mem with hthere | ⟨hnone, hdefault⟩
  · simp only [Record.getD?, hthere, decoded]
  · simp only [Record.getD?, hnone, ← standard, ← agrees hdefault, decoded]

end Fields

end Omits

theorem nullable?_ofOption (o : Option String) :
    Record.nullable? str? (ofOption str o) = some o := by
  cases o <;> rfl

theorem str?_str (s : String) : str? (.str s) = some s := rfl

theorem bool?_bool (b : Bool) : bool? (.bool b) = some b := rfl

theorem uint16?_nat (n : UInt16) : uint16? (nat n.toNat) = some n := by
  have hbound : 0 ≤ Int.ofNat n.toNat ∧ Int.ofNat n.toNat < (UInt16.size : Int) :=
    ⟨Int.natCast_nonneg _, Int.ofNat_lt.mpr n.toNat_lt⟩
  simp only [uint16?, half?, nat, natBelow?, hbound, and_self, if_true, Option.map_some]
  exact congrArg some UInt16.ofNat_toNat

theorem uint8?_nat (n : UInt8) : uint8? (nat n.toNat) = some n := by
  have hbound : 0 ≤ Int.ofNat n.toNat ∧ Int.ofNat n.toNat < (UInt8.size : Int) :=
    ⟨Int.natCast_nonneg _, Int.ofNat_lt.mpr n.toNat_lt⟩
  simp only [uint8?, byte?, nat, natBelow?, hbound, and_self, if_true, Option.map_some]
  exact congrArg some UInt8.ofNat_toNat

theorem list?_of_forall₂ {α : Type} {item? : Json → Option α} {as : List α} {js : List Json}
    (h : List.Forall₂ (fun a j => item? j = some a) as js) : list? item? (.array js) = some as := by
  rw [list?]
  induction h with
  | nil => rfl
  | cons hitem _ ih => simp only [List.mapM_cons, hitem, ih, Option.bind_eq_bind, Option.bind_some,
      Option.pure_def]

theorem list?_strs (l : List String) : list? str? (strs l) = some l := by
  refine list?_of_forall₂ ?_
  induction l with
  | nil => exact .nil
  | cons s rest ih => exact .cons rfl ih

end Json

namespace Wiring

theorem decode?_encode (w : Wiring) : decode? w.encode = some w := by
  cases w <;> rfl

end Wiring

namespace MachineType

theorem decode?_encode (t : MachineType) : decode? t.encode = some t := by
  cases t <;> rfl

end MachineType

/-! ### Entries -/

namespace SwitchEntry

/-- The members that may be left out, with their default values. -/
def defaults : List (String × Json) :=
  [("wiring", Wiring.normallyOpen.encode), ("tags", .strs [])]

theorem decode?_abridged {e : SwitchEntry} {j : Json} (h : Json.Abridged defaults e.encode j) :
    decode? j = some e := by
  obtain ⟨ns, homits, rfl⟩ := h.members
  have distinct : ["name", "number", "wiring", "tags"].Nodup := by decide
  have hrecord : (Json.obj ns).record? ["name", "number", "wiring", "tags"] false =
      some ⟨false, ns⟩ := homits.record? rfl distinct
  have hname : (⟨false, ns⟩ : Record).required? "name" Json.str? = some e.name :=
    homits.required? distinct (Json.str?_str e.name) (by simp) (by simp [defaults])
  have hnumber : (⟨false, ns⟩ : Record).required? "number" Json.uint16? = some e.number :=
    homits.required? distinct (Json.uint16?_nat e.number) (by simp) (by simp [defaults])
  have hwiring : (⟨false, ns⟩ : Record).getD? "wiring" Wiring.decode? .normallyOpen =
      some e.wiring :=
    homits.getD? distinct (Wiring.decode?_encode e.wiring) (by simp) (by simp [defaults])
      (Wiring.decode?_encode .normallyOpen)
  have htags : (⟨false, ns⟩ : Record).getD? "tags" (Json.list? Json.str?) [] = some e.tags :=
    homits.getD? distinct (Json.list?_strs e.tags) (by simp) (by simp [defaults])
      (Json.list?_strs [])
  simp only [decode?, hrecord, hname, hnumber, hwiring, htags, Option.bind_eq_bind,
    Option.bind_some]

end SwitchEntry

namespace DriverEntry

/-- The members that may be left out, with their default values. -/
def defaults : List (String × Json) := [("pulse_ms", .nat 30), ("virtual", .bool false)]

theorem decode?_abridged {e : DriverEntry} {j : Json} (h : Json.Abridged defaults e.encode j) :
    decode? j = some e := by
  obtain ⟨ns, homits, rfl⟩ := h.members
  have distinct : ["name", "number", "pulse_ms", "virtual"].Nodup := by decide
  have hrecord : (Json.obj ns).record? ["name", "number", "pulse_ms", "virtual"] false =
      some ⟨false, ns⟩ := homits.record? rfl distinct
  have hname : (⟨false, ns⟩ : Record).required? "name" Json.str? = some e.name :=
    homits.required? distinct (Json.str?_str e.name) (by simp) (by simp [defaults])
  have hnumber : (⟨false, ns⟩ : Record).required? "number" Json.uint16? = some e.number :=
    homits.required? distinct (Json.uint16?_nat e.number) (by simp) (by simp [defaults])
  have hpulse : (⟨false, ns⟩ : Record).getD? "pulse_ms" Json.uint8? 30 = some e.pulseMs :=
    homits.getD? distinct (Json.uint8?_nat e.pulseMs) (by simp) (by simp [defaults])
      (Json.uint8?_nat 30)
  have hvirtual : (⟨false, ns⟩ : Record).getD? "virtual" Json.bool? false =
      some e.isVirtual :=
    homits.getD? distinct (Json.bool?_bool e.isVirtual) (by simp) (by simp [defaults])
      (Json.bool?_bool false)
  simp only [decode?, hrecord, hname, hnumber, hpulse, hvirtual, Option.bind_eq_bind,
    Option.bind_some]

end DriverEntry

namespace GameSettings

theorem decode?_encode (g : GameSettings) : decode? g.encode = some g := by
  have homits := Json.Omits.refl []
    [("num_balls", Json.nat g.numBalls.toNat), ("balls_per_game", .nat g.ballsPerGame.toNat)]
  have distinct : ["num_balls", "balls_per_game"].Nodup := by decide
  have hrecord : g.encode.record? ["num_balls", "balls_per_game"] false = some ⟨false, _⟩ :=
    homits.record? rfl distinct
  have hballs := homits.required? distinct (Json.uint8?_nat g.numBalls) List.mem_cons_self
    List.not_mem_nil
  have hturns := homits.required? distinct (Json.uint8?_nat g.ballsPerGame)
    (List.mem_cons_of_mem _ List.mem_cons_self) List.not_mem_nil
  simp only [decode?, hrecord, hballs, hturns, Option.bind_eq_bind, Option.bind_some]

end GameSettings

/-! ### Descriptions -/

namespace TableConfig

/-- The members that may be left out, with their default values. -/
def defaults : List (String × Json) :=
  [("switches", .array []), ("coils", .array []), ("lamps", .array []), ("flippers", .strs []),
    ("bumpers", .strs []), ("flipper_relay", .null), ("game", GameSettings.encode {})]

/-- The members of a description, its switches, coils and lamps as given. -/
def members (c : TableConfig) (switches coils lamps : List Json) : List (String × Json) :=
  [("machine_type", c.machineType.encode),
    ("switches", .array switches),
    ("coils", .array coils),
    ("lamps", .array lamps),
    ("flippers", .strs c.flippers),
    ("bumpers", .strs c.bumpers),
    ("flipper_relay", .ofOption Json.str c.flipperRelay),
    ("game", c.game.encode)]

/-- A document of a description: what it is written as, where members with default values may have
been left out at the top and in each of the switches, coils and lamps. -/
def Document (c : TableConfig) (j : Json) : Prop :=
  ∃ switches coils lamps : List Json,
    List.Forall₂ (fun e => Json.Abridged SwitchEntry.defaults e.encode) c.switches switches ∧
    List.Forall₂ (fun e => Json.Abridged DriverEntry.defaults e.encode) c.coils coils ∧
    List.Forall₂ (fun e => Json.Abridged DriverEntry.defaults e.encode) c.lamps lamps ∧
    Json.Abridged defaults (.obj (c.members switches coils lamps)) j

theorem decode?_document {c : TableConfig} {j : Json} (h : c.Document j) : decode? j = some c := by
  obtain ⟨switches, coils, lamps, hswitches, hcoils, hlamps, hshort⟩ := h
  obtain ⟨ns, homits, rfl⟩ := hshort.members
  have distinct : fieldNames.Nodup := by decide
  have hrecord : (Json.obj ns).record? fieldNames false = some ⟨false, ns⟩ :=
    homits.record? rfl distinct
  have hmachine : (⟨false, ns⟩ : Record).required? "machine_type" MachineType.decode? =
      some c.machineType :=
    homits.required? distinct (MachineType.decode?_encode c.machineType) (by simp [members])
      (by simp [defaults])
  have hreadSwitches : (⟨false, ns⟩ : Record).getD? "switches" (Json.list? SwitchEntry.decode?) [] =
      some c.switches :=
    homits.getD? distinct
      (Json.list?_of_forall₂ (hswitches.imp fun _ _ => SwitchEntry.decode?_abridged))
      (by simp [members]) (by simp [defaults]) (Json.list?_of_forall₂ .nil)
  have hreadCoils : (⟨false, ns⟩ : Record).getD? "coils" (Json.list? DriverEntry.decode?) [] =
      some c.coils :=
    homits.getD? distinct
      (Json.list?_of_forall₂ (hcoils.imp fun _ _ => DriverEntry.decode?_abridged))
      (by simp [members]) (by simp [defaults]) (Json.list?_of_forall₂ .nil)
  have hreadLamps : (⟨false, ns⟩ : Record).getD? "lamps" (Json.list? DriverEntry.decode?) [] =
      some c.lamps :=
    homits.getD? distinct
      (Json.list?_of_forall₂ (hlamps.imp fun _ _ => DriverEntry.decode?_abridged))
      (by simp [members]) (by simp [defaults]) (Json.list?_of_forall₂ .nil)
  have hflippers : (⟨false, ns⟩ : Record).getD? "flippers" (Json.list? Json.str?) [] =
      some c.flippers :=
    homits.getD? distinct (Json.list?_strs c.flippers) (by simp [members]) (by simp [defaults])
      (Json.list?_strs [])
  have hbumpers : (⟨false, ns⟩ : Record).getD? "bumpers" (Json.list? Json.str?) [] =
      some c.bumpers :=
    homits.getD? distinct (Json.list?_strs c.bumpers) (by simp [members]) (by simp [defaults])
      (Json.list?_strs [])
  have hrelay : (⟨false, ns⟩ : Record).getD? "flipper_relay" (Record.nullable? Json.str?) none =
      some c.flipperRelay :=
    homits.getD? distinct (Json.nullable?_ofOption c.flipperRelay) (by simp [members])
      (by simp [defaults, Json.ofOption]) (Json.nullable?_ofOption none)
  have hgame : (⟨false, ns⟩ : Record).getD? "game" GameSettings.decode? {} = some c.game :=
    homits.getD? distinct (GameSettings.decode?_encode c.game) (by simp [members])
      (by simp [defaults]) (GameSettings.decode?_encode {})
  simp only [decode?, hrecord, hmachine, hreadSwitches, hreadCoils, hreadLamps, hflippers, hbumpers,
    hrelay, hgame, Option.bind_eq_bind, Option.bind_some]

end TableConfig

/-! ### The text of a document -/

namespace Json

theorem plain_str (s : String) : (str s).Plain := .text (some s)

theorem plain_nat (n : Nat) : (nat n).Plain := .number (Int.ofNat n)

theorem plain_strs (l : List String) : (strs l).Plain :=
  .array (List.forall_mem_map.mpr fun s _ => plain_str s)

theorem plain_ofOption (o : Option String) : (ofOption str o).Plain := by
  cases o with
  | none => exact .null
  | some s => exact plain_str s

theorem plain_obj {ms : List (String × Json)} : (obj ms).Plain ↔ ∀ m ∈ ms, m.2.Plain := by
  constructor
  · rintro (_ | _ | _ | _ | _ | hmembers) m hm
    exact hmembers _ (List.mem_map_of_mem hm)
  · exact fun h => .object (List.forall_mem_map.mpr h)

/-- What is left of a plain object is plain. -/
theorem Abridged.plain {defaults : List (String × Json)} {whole short : Json}
    (h : Abridged defaults whole short) (plain : whole.Plain) : short.Plain := by
  obtain ⟨ms, ns, homits, rfl, rfl⟩ := h
  exact plain_obj.mpr fun m hm => plain_obj.mp plain m (homits.sublist.mem hm)

/-- Nothing need be left out of a list of objects. -/
theorem forall₂_abridged {α : Type} {encode : α → Json} {defaults : List (String × Json)}
    (isObject : ∀ a, ∃ ms, encode a = .obj ms) (as : List α) :
    List.Forall₂ (fun a => Abridged defaults (encode a)) as (as.map encode) := by
  induction as with
  | nil => exact .nil
  | cons a rest ih =>
    obtain ⟨ms, hms⟩ := isObject a
    exact .cons ⟨ms, ms, .refl _ ms, hms, hms⟩ ih

theorem plain_array_of_forall₂ {α : Type} {encode : α → Json} {defaults : List (String × Json)}
    (plain : ∀ a, (encode a).Plain) {as : List α} {js : List Json}
    (h : List.Forall₂ (fun a => Abridged defaults (encode a)) as js) : (array js).Plain := by
  refine .array ?_
  induction h with
  | nil => exact List.forall_mem_nil _
  | cons hitem _ ih => exact List.forall_mem_cons.mpr ⟨hitem.plain (plain _), ih⟩

end Json

theorem SwitchEntry.plain_encode (e : SwitchEntry) : e.encode.Plain := by
  simp [encode, Json.plain_obj, Wiring.encode, Json.plain_str, Json.plain_nat, Json.plain_strs]

theorem DriverEntry.plain_encode (e : DriverEntry) : e.encode.Plain := by
  simp [encode, Json.plain_obj, Json.plain_str, Json.plain_nat, Json.Plain.bool]

theorem GameSettings.plain_encode (g : GameSettings) : g.encode.Plain := by
  simp [encode, Json.plain_obj, Json.plain_nat]

namespace TableConfig

theorem Document.plain {c : TableConfig} {j : Json} (h : c.Document j) : j.Plain := by
  obtain ⟨switches, coils, lamps, hswitches, hcoils, hlamps, hshort⟩ := h
  have plainSwitches := Json.plain_array_of_forall₂ SwitchEntry.plain_encode hswitches
  have plainCoils := Json.plain_array_of_forall₂ DriverEntry.plain_encode hcoils
  have plainLamps := Json.plain_array_of_forall₂ DriverEntry.plain_encode hlamps
  refine hshort.plain ?_
  simp [members, Json.plain_obj, MachineType.encode, plainSwitches, plainCoils, plainLamps,
    Json.plain_str, Json.plain_strs, Json.plain_ofOption, GameSettings.plain_encode]

/-- What a description is written as, with nothing left out, is a document of it. -/
theorem document_encode (c : TableConfig) : c.Document c.encode :=
  have hswitches := Json.forall₂_abridged (fun _ => ⟨_, rfl⟩) c.switches
  have hcoils := Json.forall₂_abridged (fun _ => ⟨_, rfl⟩) c.coils
  have hlamps := Json.forall₂_abridged (fun _ => ⟨_, rfl⟩) c.lamps
  ⟨_, _, _, hswitches, hcoils, hlamps, _, _, .refl _ _, rfl, rfl⟩

/-- A description is read back from its text, and from the text of every document of it. -/
theorem documents_read_back (c : TableConfig) :
    parse? c.print = some c ∧ ∀ j, c.Document j → parse? j.print = some c := by
  have hread (j : Json) (h : c.Document j) : parse? j.print = some c := by
    rw [parse?, Json.parse_print h.plain, Option.bind_some, decode?_document h]
  exact ⟨hread _ c.document_encode, hread⟩

/-- A document that leaves out whatever it can. -/
theorem short_document_read_back :
    parse? (Json.obj [("machine_type", .str "SternSam"),
        ("switches", .array [.obj [("name", .str "trough0"), ("number", .nat 32),
          ("tags", .strs ["trough"])]]),
        ("coils", .array [.obj [("name", .str "strobe"), ("number", .nat 6),
          ("virtual", .bool true)]])]).print =
      some {
        machineType := .sternSam
        switches := [{ name := "trough0", number := 32, tags := ["trough"] }]
        coils := [{ name := "strobe", number := 6, isVirtual := true }] } := by
  have hswitch : Json.Abridged SwitchEntry.defaults
      (SwitchEntry.encode { name := "trough0", number := 32, tags := ["trough"] })
      (.obj [("name", .str "trough0"), ("number", .nat 32), ("tags", .strs ["trough"])]) :=
    ⟨_, _, .keep _ (.keep _ (.drop List.mem_cons_self (.keep _ .nil))), rfl, rfl⟩
  have hcoil : Json.Abridged DriverEntry.defaults
      (DriverEntry.encode { name := "strobe", number := 6, isVirtual := true })
      (.obj [("name", .str "strobe"), ("number", .nat 6), ("virtual", .bool true)]) :=
    ⟨_, _, .keep _ (.keep _ (.drop List.mem_cons_self (.keep _ .nil))), rfl, rfl⟩
  have hrest : Json.Omits defaults (defaults.drop 2) [] := .all (List.drop_subset 2 defaults)
  exact (documents_read_back _).2 _ ⟨_, _, _, .cons hswitch .nil, .cons hcoil .nil, .nil,
    _, _, .keep _ (.keep _ (.keep _ hrest)), rfl, rfl⟩

end TableConfig

end Playfield
