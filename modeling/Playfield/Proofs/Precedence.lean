import Playfield.Proofs.Calls
import Playfield.Proofs.Effects

/-!
# Requests and faults

A board fault ends a round of requests. The ones behind it in the round are lost, but what was asked
for during the round still waits, and is done if there is another settling. There is one after a
dispatch or a frame, which settle by themselves first, and none after what the host asks for. So
what the host asks for never gets a request done after an earlier one was lost; an event does so
just if its first settling fails in a round that had more to do and in which something new was asked
for (`Call.requests_in_order`).
-/
namespace Playfield

/-- What became of something that was asked for: it was carried out, or it was lost. -/
structure Fate (κ : Type) where
  request : Request κ
  done : Bool

namespace Fate
variable {κ : Type}

/-- In the order in which things were asked for, those that were carried out come first. -/
def InOrder (fates : List (Fate κ)) : Prop := fates.filter Fate.done <+: fates

/-- All of it is lost. -/
def lost (requests : List (Request κ)) : List (Fate κ) := requests.map fun r => ⟨r, false⟩

theorem done_of_mem_lost {requests : List (Request κ)} {x : Fate κ} (h : x ∈ lost requests) :
    x.done = false := by
  obtain ⟨r, -, rfl⟩ := List.mem_map.mp h
  rfl

theorem requests_lost (requests : List (Request κ)) :
    (lost requests).map Fate.request = requests := by
  rw [lost, List.map_map]
  exact List.map_id _

theorem filter_lost (requests : List (Request κ)) : (lost requests).filter Fate.done = [] :=
  List.filter_eq_nil_iff.mpr fun _ hx => by simp [done_of_mem_lost hx]

/-- Nothing is carried out after something that was lost. -/
theorem inOrder_iff {fates : List (Fate κ)} :
    InOrder fates ↔ fates.Pairwise fun x y => y.done = true → x.done = true := by
  induction fates with
  | nil => exact ⟨fun _ => .nil, fun _ => List.prefix_rfl⟩
  | cons x rest ih =>
    rw [List.pairwise_cons, ← ih, InOrder, InOrder]
    by_cases hx : x.done = true
    · rw [List.filter_cons_of_pos hx, List.cons_prefix_cons]
      exact ⟨fun h => ⟨fun _ _ _ => hx, h.2⟩, fun h => ⟨rfl, h.2⟩⟩
    · rw [List.filter_cons_of_neg hx]
      have none (h : rest.filter Fate.done = []) : ∀ y ∈ rest, y.done = true → x.done = true :=
        fun y hy hdone => absurd hdone (List.filter_eq_nil_iff.mp h y hy)
      constructor
      · intro h
        -- What is carried out would have to come first, and `x` does.
        have hnone : rest.filter Fate.done = [] := by
          cases hfilter : rest.filter Fate.done with
          | nil => rfl
          | cons y ys =>
            rw [hfilter] at h
            obtain ⟨rfl, -⟩ := List.cons_prefix_cons.mp h
            have hy : y ∈ rest.filter Fate.done := hfilter ▸ List.mem_cons_self
            exact absurd (List.of_mem_filter hy) hx
        rw [hnone]
        exact ⟨none hnone, List.nil_prefix⟩
      · intro h
        have hnone : rest.filter Fate.done = [] :=
          List.filter_eq_nil_iff.mpr fun y hy hdone => hx (h.1 y hy hdone)
        rw [hnone]
        exact List.nil_prefix

theorem InOrder.pairwise_done {fates : List (Fate κ)} (h : InOrder fates) :
    (fates.map Fate.done).Pairwise fun x y => y = true → x = true :=
  List.pairwise_map.mpr (inOrder_iff.mp h)

theorem inOrder_append {xs ys : List (Fate κ)} : InOrder (xs ++ ys) ↔
    InOrder xs ∧ InOrder ys ∧ ∀ x ∈ xs, ∀ y ∈ ys, y.done = true → x.done = true := by
  rw [inOrder_iff, List.pairwise_append, ← inOrder_iff, ← inOrder_iff]

theorem inOrder_lost (requests : List (Request κ)) : InOrder (lost requests) := by
  rw [InOrder, filter_lost]
  exact List.nil_prefix

theorem InOrder.append_lost {xs : List (Fate κ)} (h : InOrder xs) (requests : List (Request κ)) :
    InOrder (xs ++ lost requests) := by
  refine inOrder_append.mpr ⟨h, inOrder_lost requests, fun x _ y hy hdone => ?_⟩
  rw [done_of_mem_lost hy] at hdone
  exact nomatch hdone

/-- What comes after things that were all carried out may be what it is. -/
theorem InOrder.after_done {xs ys : List (Fate κ)} (h : InOrder ys)
    (all : ∀ x ∈ xs, x.done = true) : InOrder (xs ++ ys) := by
  have hself : xs.filter Fate.done = xs := List.filter_eq_self.mpr all
  exact inOrder_append.mpr ⟨⟨[], (List.append_nil _).trans hself⟩, h, fun x hx _ _ _ => all x hx⟩

end Fate

/-! ### Rounds -/

namespace Engine
variable {σ κ : Type}

/-- What becomes of the requests of a round: those behind the first that fails are lost. -/
def roundFates : List (Request κ) → Engine σ κ × Scene κ → List (Fate κ)
  | [], _ => []
  | r :: rest, s =>
    ⟨r, true⟩ ::
      match apply r s with
      | (.ok _, t) => roundFates rest t
      | _ => Fate.lost rest

/-- What becomes of the requests that wait and of those asked for meanwhile, up to the end of so
many rounds or the round that fails. -/
def fates : Nat → Engine σ κ × Scene κ → List (Fate κ)
  | 0, s => Fate.lost s.2.requests
  | rounds + 1, (e, scene) =>
    roundFates scene.requests (e, { scene with requests := [] }) ++
      match Act.each apply scene.requests (e, { scene with requests := [] }) with
      | (.ok _, t) => fates rounds t
      | _ => []

theorem requests_roundFates (requests : List (Request κ)) (s : Engine σ κ × Scene κ) :
    (roundFates requests s).map Fate.request = requests := by
  induction requests generalizing s with
  | nil => rfl
  | cons r rest ih =>
    simp only [roundFates, List.map_cons]
    split
    · rw [ih]
    · rw [Fate.requests_lost]

theorem done_roundFates (requests : List (Request κ)) (s : Engine σ κ × Scene κ) :
    ((roundFates requests s).filter Fate.done).map Fate.request =
      Taken.served (serving requests s) := by
  induction requests generalizing s with
  | nil => rfl
  | cons r rest ih =>
    rcases h : apply r s with ⟨outcome, t⟩
    cases outcome with
    | ok _ =>
      simp only [roundFates, serving, h, List.filter_cons_of_pos, List.map_cons, ih t]
      rfl
    | _ =>
      simp only [roundFates, serving, h, List.filter_cons_of_pos, List.map_cons, Fate.filter_lost]
      rfl

theorem inOrder_roundFates (requests : List (Request κ)) (s : Engine σ κ × Scene κ) :
    Fate.InOrder (roundFates requests s) := by
  induction requests generalizing s with
  | nil => exact List.prefix_rfl
  | cons r rest ih =>
    have hfirst : ∀ x ∈ [(⟨r, true⟩ : Fate κ)], x.done = true := by simp
    simp only [roundFates]
    split
    · exact (ih _).after_done hfirst
    · exact (Fate.inOrder_lost rest).after_done hfirst

theorem roundFates_done {requests : List (Request κ)} {s t : Engine σ κ × Scene κ}
    (h : Act.each apply requests s = (.ok (), t)) : ∀ x ∈ roundFates requests s, x.done = true := by
  induction requests generalizing s with
  | nil => exact fun x hx => nomatch hx
  | cons r rest ih =>
    obtain ⟨_, u, hfirst, hrest⟩ := Act.bind_eq_ok h
    simp only [roundFates, hfirst]
    exact List.forall_mem_cons.mpr ⟨rfl, ih hrest⟩

/-- After a round there waits what was asked for in its turns. -/
theorem requests_each (requests : List (Request κ)) (s : Engine σ κ × Scene κ) :
    (Act.each apply requests s).2.2.requests =
      s.2.requests ++ (serving requests s).flatMap Taken.asked := by
  induction requests generalizing s with
  | nil => exact (List.append_nil _).symm
  | cons r rest ih =>
    have hnext := (⟨.serve r, s⟩ : Taken σ κ).requests_next
    simp only [serving, List.flatMap_cons]
    rw [← List.append_assoc, ← hnext]
    simp only [Taken.next, Turn.act]
    rw [Act.each_cons]
    rcases h : apply r s with ⟨outcome, t⟩
    cases outcome with
    | ok _ =>
      rw [Act.bind_ok h]
      exact ih t
    | _ =>
      simp only [Act.bind_apply, h]
      exact (List.append_nil _).symm

/-! ### Settlings -/

/-- Where nothing waits there is nothing to do, and no request meets a fate. -/
theorem fates_idle (rounds : Nat) {s : Engine σ κ × Scene κ} (h : s.2.requests = []) :
    fates rounds s = [] := by
  induction rounds generalizing s with
  | zero => rw [fates, h, Fate.lost, List.map_nil]
  | succ rounds ih =>
    obtain ⟨e, scene⟩ := s
    have hnone : scene.requests = [] := h
    simp only [fates, hnone, roundFates, Act.each_nil, Act.pure_apply, List.nil_append]
    exact ih rfl

/-- Each request that waits in a settling, or is asked for in it, meets its fate or is left over. -/
theorem requests_fates (rounds : Nat) (s : Engine σ κ × Scene κ) :
    (fates rounds s).map Fate.request ++ (settleRounds rounds s).2.2.requests =
      s.2.requests ++ (servings rounds s).flatMap Taken.asked := by
  induction rounds generalizing s with
  | zero =>
    obtain ⟨e, scene⟩ := s
    have hnone : (settleRounds 0 (e, scene)).2.2.requests = [] := by
      rw [settleRounds_zero e scene 0, noteDropped]
      split <;> rfl
    rw [fates, Fate.requests_lost, hnone, servings]
    rfl
  | succ rounds ih =>
    obtain ⟨e, scene⟩ := s
    rw [settleRounds_succ]
    split
    · rename_i hnone
      rw [servings_idle _ hnone, fates_idle _ hnone]
      exact (List.append_nil _).symm
    · have hround := requests_each scene.requests (e, { scene with requests := [] })
      rw [List.nil_append] at hround
      -- What is asked for in the turns of the round is what waits for the next one.
      simp only [fates, servings, List.map_append, requests_roundFates, List.flatMap_append]
      rcases heach : Act.each apply scene.requests (e, { scene with requests := [] })
        with ⟨outcome, t⟩
      rw [heach] at hround
      rw [List.append_assoc, ← hround]
      congr 1
      cases outcome with
      | ok _ =>
        rw [Act.bind_ok heach]
        exact ih t
      | _ =>
        simp only [Act.bind_apply, heach]
        exact (List.append_nil _).symm

theorem done_fates (rounds : Nat) (s : Engine σ κ × Scene κ) :
    ((fates rounds s).filter Fate.done).map Fate.request =
      Taken.served (servings rounds s) := by
  induction rounds generalizing s with
  | zero =>
    rw [fates, Fate.filter_lost]
    rfl
  | succ rounds ih =>
    obtain ⟨e, scene⟩ := s
    simp only [fates, servings, List.filter_append, List.map_append, done_roundFates,
      Taken.served_append]
    congr 1
    rcases Act.each apply scene.requests (e, { scene with requests := [] }) with ⟨outcome, t⟩
    cases outcome with
    | ok _ => exact ih t
    | _ => rfl

theorem inOrder_fates (rounds : Nat) (s : Engine σ κ × Scene κ) :
    Fate.InOrder (fates rounds s) := by
  induction rounds generalizing s with
  | zero => exact Fate.inOrder_lost _
  | succ rounds ih =>
    obtain ⟨e, scene⟩ := s
    simp only [fates]
    split
    · rename_i heach
      exact (ih _).after_done (roundFates_done heach)
    · rw [List.append_nil]
      exact inOrder_roundFates _ _

/-- The first request that waits is carried out. -/
theorem exists_fates_cons {rounds : Nat} {s : Engine σ κ × Scene κ} {r : Request κ}
    {rest : List (Request κ)} (h : s.2.requests = r :: rest) :
    ∃ others, fates (rounds + 1) s = ⟨r, true⟩ :: others := by
  obtain ⟨e, scene⟩ := s
  have hrequests : scene.requests = r :: rest := h
  rw [fates, hrequests, roundFates, List.cons_append]
  exact ⟨_, rfl⟩

/-- A settling that goes well leaves nothing over. -/
theorem requests_of_settle_ok {s t : Engine σ κ × Scene κ} (h : settle s = (.ok (), t)) :
    t.2.requests = [] := by
  obtain ⟨_, _, _, hsettled⟩ := settle_settled h
  exact hsettled.none_left

/-! ### Before and after -/

/-- The fates in the settling that follows a turn if the turn goes well. -/
def openingFates (turn : Turn σ κ) (s : Engine σ κ × Scene κ) : List (Fate κ) :=
  match turn.act s with
  | (.ok _, t) => fates maxRounds t
  | _ => []

/-- The fates in the last settling of a stage. What is left over is lost. -/
def closingFates {α : Type} : Outcome Fault α × Engine σ κ × Scene κ → List (Fate κ)
  | (.panic _, s) => Fate.lost s.2.requests
  | (.ok _, s) | (.error _, s) => fates maxRounds s ++ Fate.lost (settle s).2.2.requests

section Closing
variable {α β : Type} (x : Outcome Fault α × Engine σ κ × Scene κ)

theorem requests_closing : (closingFates x).map Fate.request =
    x.2.2.requests ++ (settlingAfter x).flatMap Taken.asked := by
  obtain ⟨outcome, s⟩ := x
  have hsettling := requests_fates maxRounds s
  cases outcome with
  | panic message =>
    rw [closingFates, Fate.requests_lost]
    exact (List.append_nil _).symm
  | _ =>
    rw [closingFates, List.map_append, Fate.requests_lost]
    exact hsettling

theorem done_closing : ((closingFates x).filter Fate.done).map Fate.request =
    Taken.served (settlingAfter x) := by
  obtain ⟨outcome, s⟩ := x
  cases outcome with
  | panic message =>
    rw [closingFates, Fate.filter_lost]
    rfl
  | _ =>
    rw [closingFates, List.filter_append, Fate.filter_lost, List.append_nil]
    exact done_fates maxRounds s

theorem inOrder_closing : Fate.InOrder (closingFates x) := by
  obtain ⟨outcome, s⟩ := x
  cases outcome with
  | panic message => exact Fate.inOrder_lost _
  | _ => exact (inOrder_fates maxRounds s).append_lost _

variable {x}

theorem closing_idle (h : x.2.2.requests = []) : closingFates x = [] := by
  obtain ⟨outcome, s⟩ := x
  have hidle : s.2.requests = [] := h
  cases outcome with
  | panic message => rw [closingFates, hidle, Fate.lost, List.map_nil]
  | _ =>
    have hsettle : settle s = (.ok (), s) := settle_idle hidle
    rw [closingFates, fates_idle _ hidle, hsettle, hidle, Fate.lost, List.map_nil, List.append_nil]

/-- Every request of a turn and of the settling after it meets its fate. -/
theorem requests_single (turn : Turn σ κ) (s : Engine σ κ × Scene κ) :
    (closingFates (turn.act s)).map Fate.request =
      s.2.requests ++ (⟨turn, s⟩ :: settlingAfter (turn.act s)).flatMap Taken.asked := by
  have hnext := (⟨turn, s⟩ : Taken σ κ).requests_next
  simp only [Taken.next] at hnext
  rw [requests_closing, hnext, List.flatMap_cons, List.append_assoc]

/-- Modes that leave one after another ask for what waits afterwards. -/
theorem requests_left (ids : List ModeId) (s : Engine σ κ × Scene κ) :
    (left ids s).2.requests = s.2.requests ++ (leaving ids s).flatMap Taken.asked := by
  induction ids generalizing s with
  | nil => exact (List.append_nil _).symm
  | cons id rest ih =>
    have hnext := (⟨.leave id, s⟩ : Taken σ κ).requests_next
    have hrest := ih ((Turn.leave id).act s).2
    simp only [Taken.next] at hnext
    rw [hnext, List.append_assoc] at hrest
    exact hrest

variable {turn : Turn σ κ} {first : Step σ κ α} {rest : α → Step σ κ β}

/-- Every request of a computation that settles by itself meets its fate or still waits after it. -/
theorem requests_opening (hturn : turn.act = first >>= fun _ => pure ())
    (hrest : ∀ a, ∃ o, rest a = settle >>= fun _ => .finish o) (s : Engine σ κ × Scene κ) :
    (openingFates turn s).map Fate.request ++ ((first >>= rest) s).2.2.requests =
      s.2.requests ++ (opening turn s).flatMap Taken.asked := by
  have hnext := (⟨turn, s⟩ : Taken σ κ).requests_next
  simp only [Taken.next] at hnext
  rw [opening, List.flatMap_cons, ← List.append_assoc, ← hnext, openingFates, hturn]
  rcases h : first s with ⟨outcome, t⟩
  cases outcome with
  | ok a =>
    obtain ⟨o, ho⟩ := hrest a
    rw [Act.bind_ok h, Act.bind_ok h, ho, state_settle_finish]
    exact requests_fates maxRounds t
  | _ =>
    simp only [Act.bind_apply, h]
    exact (List.append_nil _).symm

theorem done_opening (none : turn.request? = none) (s : Engine σ κ × Scene κ) :
    ((openingFates turn s).filter Fate.done).map Fate.request =
      Taken.served (opening turn s) := by
  simp only [opening, openingFates, Taken.served, List.filterMap_cons, none]
  rcases turn.act s with ⟨outcome, t⟩
  cases outcome with
  | ok _ => exact done_fates maxRounds t
  | _ => rfl

/-- Every request of a computation that settles by itself, and then is settled after, meets its
fate. -/
theorem requests_whole (hturn : turn.act = first >>= fun _ => pure ())
    (hrest : ∀ a, ∃ o, rest a = settle >>= fun _ => .finish o) (s : Engine σ κ × Scene κ) :
    (openingFates turn s ++ closingFates ((first >>= rest) s)).map Fate.request = s.2.requests ++
      (opening turn s ++ settlingAfter ((first >>= rest) s)).flatMap Taken.asked := by
  rw [List.map_append, requests_closing, ← List.append_assoc, requests_opening hturn hrest,
    List.flatMap_append, List.append_assoc]

theorem done_whole (none : turn.request? = none) (s : Engine σ κ × Scene κ) :
    ((openingFates turn s ++ closingFates ((first >>= rest) s)).filter Fate.done).map Fate.request =
      Taken.served (opening turn s ++ settlingAfter ((first >>= rest) s)) := by
  rw [List.filter_append, List.map_append, done_opening none, done_closing, Taken.served_append]

/-- After a settling that met a fault, what was asked for in the round of the fault is done in the
next one, whatever that round lost. -/
theorem inOrder_after_fault {t u : Engine σ κ × Scene κ} (f : Fault) :
    Fate.InOrder (fates maxRounds t ++ closingFates ((.error f, u) : Outcome Fault α × _)) ↔
      (∀ x ∈ fates maxRounds t, x.done = true) ∨ u.2.requests = [] := by
  constructor
  · intro h
    cases hrequests : u.2.requests with
    | nil => exact .inr rfl
    | cons r more =>
      obtain ⟨others, hfates⟩ : ∃ others, fates maxRounds u = ⟨r, true⟩ :: others :=
        exists_fates_cons hrequests
      have hmem : ⟨r, true⟩ ∈ closingFates ((.error f, u) : Outcome Fault α × _) := by
        rw [closingFates, hfates]
        exact List.mem_cons_self
      exact .inl fun x hx => (Fate.inOrder_append.mp h).2.2 x hx ⟨r, true⟩ hmem rfl
  · intro h
    rcases h with hall | hnone
    · exact (inOrder_closing _).after_done hall
    · rw [closing_idle hnone, List.append_nil]
      exact inOrder_fates maxRounds t

/-- A computation that settles by itself, and then is settled after, gets requests done out of order
just if a fault ends its own settling in a round that had more to do and in which something was
asked for. -/
theorem inOrder_opening_iff (hturn : turn.act = first >>= fun _ => pure ())
    (hrest : ∀ a, ∃ o, rest a = settle >>= fun _ => .finish o) (s : Engine σ κ × Scene κ) :
    Fate.InOrder (openingFates turn s ++ closingFates ((first >>= rest) s)) ↔
      ∀ t f u, turn.act s = (.ok (), t) → settle t = (.error f, u) →
        (∀ x ∈ fates maxRounds t, x.done = true) ∨ u.2.requests = [] := by
  rw [openingFates, hturn]
  rcases h : first s with ⟨outcome, t⟩
  cases outcome with
  | ok a =>
    have hact : (first >>= fun _ => pure ()) s = ((.ok (), t) : Outcome Fault Unit × _) :=
      Act.bind_ok h
    obtain ⟨o, ho⟩ := hrest a
    rw [hact, Act.bind_ok h, ho]
    -- The first settling leaves requests over only if a fault ends it.
    rcases hsettle : settle t with ⟨settled, u⟩
    cases settled with
    | ok _ =>
      have hend : (settle >>= fun _ => Act.finish o) t = (o, u) := Act.bind_ok hsettle
      rw [hend, closing_idle (requests_of_settle_ok hsettle), List.append_nil]
      refine iff_of_true (inOrder_fates maxRounds t) fun t' f u' ht hfault => ?_
      cases ht
      exact nomatch hsettle.symm.trans hfault
    | error f =>
      rw [Act.bind_error hsettle, inOrder_after_fault]
      constructor
      · intro hfates t' f' u' ht hfault
        cases ht
        cases hsettle.symm.trans hfault
        exact hfates
      · intro hall
        exact hall t f u rfl hsettle
    | panic message =>
      rw [Act.bind_panic hsettle]
      refine iff_of_true ((inOrder_fates maxRounds t).append_lost _) fun t' f u' ht hfault => ?_
      cases ht
      exact nomatch hsettle.symm.trans hfault
  | _ =>
    simp only [Act.bind_apply, h, List.nil_append]
    exact iff_of_true (inOrder_closing _) fun t' f u' ht => nomatch ht

end Closing

end Engine

/-! ### Stages and calls -/

namespace Stage
variable {σ κ : Type}

/-- What becomes of the requests of an event, in the order in which they are asked for. -/
def fatesOfEvent (e : Event) (now : Span) (m : Machine σ κ) : List (Fate κ) :=
  match e.kind.level? with
  | some closed =>
    match m.cabinet.switches.get? e.value with
    | some old =>
      if old.closed = closed then []
      else
        let switch := SwitchStore.reported old closed now
        let noted := m.noted e.value closed now
        let s := (noted.engine, (noted.scene now).remark .debug (Machine.changeText switch))
        Engine.openingFates (.walk switch) s ++ Engine.closingFates (Engine.dispatch switch s)
    | none => []
  | none =>
    if e.kind = .frameDisplayed then
      let s := (m.engine, m.scene now)
      Engine.openingFates .frame s ++ Engine.closingFates (Engine.frame s)
    else []

/-- What becomes of the requests of a stage, in the order in which they are asked for. -/
def fates (m : Machine σ κ) : Stage σ κ → List (Fate κ)
  | .event e now => fatesOfEvent e now m
  | .tick now =>
    let s := (m.engine, m.scene now)
    Engine.openingFates .pass s ++ Engine.closingFates (Engine.tick s)
  | .join mode now => Engine.closingFates ((Turn.join mode).act (m.engine, m.scene now))
  | .leave id now => Engine.closingFates ((Turn.leave id).act (m.engine, m.scene now))
  | .clear now => Engine.closingFates (Engine.onStack ModeStack.clear (m.engine, m.scene now))
  | .ask request now =>
    Engine.closingFates ((Turn.serve (.game request)).act (m.engine, m.scene now))
  | .aside _ => []

/-- An event takes no turn, or it takes one in a fresh scene that settles by itself. -/
theorem event_cases (e : Event) (now : Span) (m : Machine σ κ) :
    turnsOfEvent e now m = [] ∧ fatesOfEvent e now m = [] ∨
    ∃ (α : Type) (turn : Turn σ κ) (first : Engine.Step σ κ α) (rest : α → Engine.Step σ κ Unit)
      (s : Engine σ κ × Scene κ),
      turn.act = (first >>= fun _ => pure ()) ∧ turn.request? = none ∧
      (∀ a, ∃ o, rest a = Engine.settle >>= fun _ => .finish o) ∧ s.2.requests = [] ∧
      turnsOfEvent e now m =
        Engine.opening turn s ++ Engine.settlingAfter ((first >>= rest) s) ∧
      fatesOfEvent e now m =
        Engine.openingFates turn s ++ Engine.closingFates ((first >>= rest) s) := by
  simp only [turnsOfEvent, fatesOfEvent]
  cases e.kind.level? with
  | some closed =>
    dsimp only
    cases m.cabinet.switches.get? e.value with
    | none => exact .inl ⟨rfl, rfl⟩
    | some old =>
      dsimp only
      by_cases same : old.closed = closed
      · rw [if_pos same, if_pos same]
        exact .inl ⟨rfl, rfl⟩
      · rw [if_neg same, if_neg same, Engine.dispatch_eq]
        exact .inr ⟨Report, .walk _, _, _, _, rfl, rfl, fun report => ⟨report.check, rfl⟩, rfl, rfl,
          rfl⟩
  | none =>
    dsimp only
    by_cases hframe : e.kind = .frameDisplayed
    · rw [if_pos hframe, if_pos hframe]
      refine .inr ⟨Unit, .frame, Engine.frameOnce, fun _ => Engine.settle, (m.engine, m.scene now),
        (Act.bind_pure_unit _).symm, rfl, fun _ => ⟨.ok (), ?_⟩, rfl, ?_, ?_⟩
      · exact (Act.bind_pure_unit _).symm
      · rw [Engine.frame_eq rfl]
      · rw [Engine.frame_eq rfl]
    · rw [if_neg hframe, if_neg hframe]
      exact .inl ⟨rfl, rfl⟩

/-- The fates are those of all that is asked for in the turns of the stage, in that order. -/
theorem requests_fates (st : Stage σ κ) (m : Machine σ κ) :
    (st.fates m).map Fate.request = (st.turns m).flatMap Taken.asked := by
  cases st with
  | event e now =>
    rcases event_cases e now m with ⟨hturns, hfates⟩ |
      ⟨_, _, _, _, _, hturn, -, hrest, hnone, hturns, hfates⟩
    · rw [fates, turns, hturns, hfates]
      rfl
    · rw [fates, turns, hturns, hfates, Engine.requests_whole hturn hrest, hnone, List.nil_append]
  | tick now =>
    have hpass : (Turn.pass : Turn σ κ).act = Engine.passOnce >>= fun _ => pure () := rfl
    simp only [fates, turns, Engine.tick_eq]
    exact Engine.requests_whole hpass (fun report => ⟨report.check, rfl⟩) (m.engine, m.scene now)
  | join mode now => exact Engine.requests_single _ _
  | leave id now => exact Engine.requests_single _ _
  | clear now =>
    rw [fates, turns, Engine.requests_closing, Engine.state_clear, Engine.requests_left,
      List.flatMap_append]
    rfl
  | ask request now => exact Engine.requests_single _ _
  | aside a => rfl

/-- What the stage itself asks the game for. -/
def own : Stage σ κ → List (Request κ)
  | .ask request _ => [.game request]
  | _ => []

/-- What is carried out is what the stage asks for by itself, and the requests that are not lost. -/
theorem done_fates (st : Stage σ κ) (m : Machine σ κ) :
    st.own ++ ((st.fates m).filter Fate.done).map Fate.request = Taken.served (st.turns m) := by
  cases st with
  | event e now =>
    rcases event_cases e now m with ⟨hturns, hfates⟩ |
      ⟨_, _, _, _, _, -, hnone, -, -, hturns, hfates⟩
    · rw [fates, turns, hturns, hfates]
      rfl
    · rw [fates, turns, hturns, hfates]
      exact Engine.done_whole hnone _
  | tick now =>
    simp only [fates, turns, own, List.nil_append, Engine.tick_eq]
    exact Engine.done_whole rfl (m.engine, m.scene now)
  | join mode now => exact Engine.done_closing _
  | leave id now => exact Engine.done_closing _
  | clear now =>
    rw [turns, Taken.served_append, Engine.served_leaving]
    exact Engine.done_closing _
  | ask request now => exact congrArg (List.cons _) (Engine.done_closing _)
  | aside a => rfl

end Stage

/-- The fates of a stage are those of its requests, in the order in which they are asked for, and
the requests that are carried out are those of its turns. In what the host asks for, no request is
carried out after one that was lost. In an event one is, just if a board fault ends its first
settling in a round that had more to do and in which something was asked for. -/
theorem Call.requests_in_order {σ κ : Type} (m : Machine σ κ) :
    (∀ st : Stage σ κ, (st.fates m).map Fate.request = (st.turns m).flatMap Taken.asked ∧
      st.own ++ ((st.fates m).filter Fate.done).map Fate.request = Taken.served (st.turns m)) ∧
    (∀ mode, (Call.addMode mode).stages m = [.join mode m.now] ∧
      Fate.InOrder ((Stage.join mode m.now).fates m)) ∧
    (∀ id, (Call.removeMode id).stages m = [.leave id m.now] ∧
      Fate.InOrder ((Stage.leave id m.now).fates m)) ∧
    (∀ request, (Call.requestGame request).stages m = [.ask request m.now] ∧
      Fate.InOrder ((Stage.ask request m.now).fates m)) ∧
    ∀ event, (Call.processEvent event).stages m = [.event event m.now] ∧
      (Fate.InOrder ((Stage.event event m.now).fates m) ↔ ∀ k rest s f t,
        (Stage.event event m.now).turns m = k :: rest → k.turn.act k.start = (.ok (), s) →
        Engine.settle s = (.error f, t) →
        (∀ x ∈ Engine.fates Engine.maxRounds s, x.done = true) ∨ t.2.requests = []) := by
  have single (st : Stage σ κ) : Act.tried Stage.act [st] m = [st] := by
    simp only [Act.tried]
    split <;> rfl
  refine ⟨fun st => ⟨st.requests_fates m, st.done_fates m⟩, fun mode => ⟨single _, ?_⟩,
    fun id => ⟨single _, ?_⟩, fun request => ⟨single _, ?_⟩, fun event => ⟨single _, ?_⟩⟩
  · exact Engine.inOrder_closing _
  · exact Engine.inOrder_closing _
  · exact Engine.inOrder_closing _
  · rcases Stage.event_cases event m.now m with ⟨hturns, hfates⟩ |
      ⟨_, turn, _, _, s, hturn, -, hrest, -, hturns, hfates⟩
    · rw [Stage.fates, Stage.turns, hturns, hfates]
      exact iff_of_true List.prefix_rfl fun _ _ _ _ _ h => absurd h (by simp)
    · rw [Stage.fates, Stage.turns, hturns, hfates, Engine.inOrder_opening_iff hturn hrest]
      constructor
      · intro h k rest s' f t hsplit hact
        cases hsplit
        exact h s' f t hact
      · intro h s' f t hact
        exact h ⟨turn, s⟩ _ s' f t rfl hact

namespace Machine

/-- A mode that asks to leave and for another mode to join when the gate closes. As it leaves it
asks for a game and meets a board fault. -/
def faultyKeeper : Mode Unit Unit :=
  (partingKeeper (.ask (.game .startGame) (.done (.error (.board .closed))))).on "gate" .closed none
    fun _ _ => .ask (.removeMode ⟨0⟩) (.ask (.addMode ⟨1⟩ ()) .idle)

/-- Not every event keeps its requests in order: the fault loses the mode that was to join, and the
game that was asked for after it starts. -/
theorem game_starts_past_lost_mode :
    ¬ ∀ m₀ : Machine Unit Unit, m₀.Built → ∀ (ops : List (Operation Unit Unit)) (event : Event),
      Fate.InOrder ((Stage.event event (performAll ops m₀).2.now).fates (performAll ops m₀).2) := by
  intro hall
  let ops : List (Operation Unit Unit) := [.addMode faultyKeeper]
  obtain ⟨m₀, built, hfates⟩ := exists_gateMachine (P := fun m₀ =>
    ((Stage.event ⟨.switchClosedDebounced, 7⟩ (performAll ops m₀).2.now).fates
      (performAll ops m₀).2).map Fate.done = [true, false, true]) {} (by decide +kernel)
  have hdone := (hall m₀ built ops ⟨.switchClosedDebounced, 7⟩).pairwise_done
  rw [hfates] at hdone
  exact absurd hdone (by decide)

end Machine

end Playfield
