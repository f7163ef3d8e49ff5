import Playfield.FlipperRules
import Playfield.HoldQueue
import Playfield.Proofs.Within

/-!
# Nothing looks back

The journal and the counter of frames are only ever added to, and a stop that has been asked for is
looked at between passes only: nothing else that a machine does depends on them. So it does the same
after any past. With entries in front of the journal, frames counted before, and a stop asked for, a
computation ends as it ends without them, and leaves the same state behind that past
(`Machine.commutes_step`).
-/
namespace Playfield

namespace Act
variable {ε δ S T α β : Type}

/-- A pair whose second half is changed. -/
def mapState (f : S → S) (r : β × S) : β × S := (r.1, f r.2)

/-- Changing the state first and then computing is computing first and then changing the state. -/
def Commutes (f : S → S) (x : Act ε S α) : Prop := ∀ s, x (f s) = mapState f (x s)

namespace Commutes
variable {f : S → S}

theorem pure (a : α) : Commutes f (Pure.pure a : Act ε S α) := fun _ => rfl

theorem fail (e : ε) : Commutes f (Act.fail e : Act ε S α) := fun _ => rfl

theorem finish (o : Outcome ε α) : Commutes f (Act.finish o) := fun _ => rfl

theorem modify {g : S → S} (h : ∀ s, g (f s) = f (g s)) :
    Commutes f (Act.modify g : Act ε S Unit) :=
  fun s => congrArg (Prod.mk _) (h s)

theorem bind {x : Act ε S α} {k : α → Act ε S β} (hx : Commutes f x)
    (hk : ∀ a, Commutes f (k a)) : Commutes f (x >>= k) := by
  intro s
  rw [bind_apply, bind_apply, hx s]
  rcases x s with ⟨outcome, t⟩
  cases outcome with
  | ok a => exact hk a t
  | error e => rfl
  | panic message => rfl

/-- Reading the state before going on, if what is read of it is not changed. -/
theorem read {k : S → Act ε S α} (same : ∀ s, k (f s) = k s) (hk : ∀ t, Commutes f (k t)) :
    Commutes f (Act.get >>= k) := fun s =>
  (congrFun (same s) (f s)).trans (hk s s)

theorem ite {c : Prop} [Decidable c] {x y : Act ε S α} (hx : Commutes f x) (hy : Commutes f y) :
    Commutes f (if c then x else y) := by
  split
  · exact hx
  · exact hy

theorem each {k : α → Act ε S Unit} (hk : ∀ a, Commutes f (k a)) (as : List α) :
    Commutes f (Act.each k as) := by
  induction as with
  | nil => exact pure ()
  | cons a rest ih => exact bind (hk a) fun _ => ih

theorem mapError {x : Act ε S α} (hx : Commutes f x) (g : ε → δ) : Commutes f (x.mapError g) := by
  intro s
  simp only [Act.mapError, hx s]
  rfl

theorem zoom {g : T → T} {part : S → T} {put : T → S → S} {x : Act ε T α} (hx : Commutes g x)
    (parts : ∀ s, part (f s) = g (part s)) (puts : ∀ s t, put (g t) (f s) = f (put t s)) :
    Commutes f (Act.zoom part put x) := by
  intro s
  simp only [Act.zoom, parts, hx (part s)]
  exact congrArg (Prod.mk _) (puts _ _)

theorem second {g : T → T} {x : Act ε T α} (hx : Commutes g x) :
    Commutes (mapState g) (Act.second x : Act ε (S × T) α) :=
  hx.zoom (fun _ => rfl) fun _ _ => rfl

end Commutes

end Act

/-- What happened before: the journal, the counter of frames, and whether a stop was asked for. -/
structure Past where
  entries : Array Entry := #[]
  frames : Nat := 0
  stop : Bool := false

variable (p : Past)

/-! ### The bench and the drivers -/

namespace Bench

/-- The bench with a past before its own. -/
def after (b : Bench) : Bench := { b with journal := p.entries ++ b.journal }

theorem enter_after (e : Entry) (b : Bench) : (b.after p).enter e = (b.enter e).after p := by
  simp only [enter, after, Array.append_push]

/-- Something beside a bench with a past before its own. -/
abbrev beside {τ : Type} : τ × Bench → τ × Bench := Act.mapState (after p)

variable {ε α : Type}

theorem commutes_log (severity : Severity) (text : String) :
    (log severity text : Act ε Bench Unit).Commutes (after p) :=
  .modify fun b => enter_after p _ b

theorem commutes_run (c : BoardCall) (reply : α → Reply) (onBoard : Act Fault Board α) :
    Act.Commutes (after p) (call.run c reply onBoard) := by
  intro b
  have hboard : (b.after p).board = b.board := rfl
  simp only [call.run, hboard]
  rcases onBoard b.board with ⟨outcome, board⟩
  cases outcome <;> exact congrArg (Prod.mk _) (enter_after p _ { b with board })

theorem commutes_call (c : BoardCall) (reply : α → Reply) (onBoard : Act Fault Board α) :
    (call c reply onBoard).Commutes (after p) := by
  intro b
  have hmishaps : (b.after p).mishaps = b.mishaps := rfl
  simp only [call, hmishaps]
  rcases due b.mishaps with ⟨mishap, mishaps⟩
  cases mishap with
  | none => exact commutes_run p c reply onBoard { b with mishaps }
  | some mishap =>
    cases mishap with
    | panic message => exact congrArg (Prod.mk _) (enter_after p _ { b with mishaps })
    | fault f => exact commutes_run p c reply onBoard { b with board := b.board.inject f, mishaps }

theorem commutes_drive (c : DriverCall) : (drive c).Commutes (after p) := commutes_call p _ _ _

end Bench

namespace Driver

theorem commutes_send (c : DriverCall) (f : Driver → Driver) :
    (send c f).Commutes (Bench.beside p) := by
  rintro ⟨d, b⟩
  have hdrive := Bench.commutes_drive p c b
  simp only [send, Act.mapState, hdrive]
  rcases Bench.drive c b with ⟨outcome, b'⟩
  cases outcome <;> rfl

theorem commutes_pulse (ms : Nat) (now : Span) : (pulse ms now).Commutes (Bench.beside p) := by
  rintro ⟨d, b⟩
  simp only [pulse]
  split
  · exact commutes_send p _ _ (d, b)
  · split
    · exact commutes_send p _ _ (d, b)
    · have hsend :=
        commutes_send p (.pulse d.number ms) (fun d => { d with schedule := none }) (d, b)
      simp only [Act.mapState] at hsend
      simp only [Act.mapState, hsend]
      rcases send (.pulse d.number ms) (fun d => { d with schedule := none }) (d, b) with
        ⟨outcome, s⟩
      cases outcome <;> rfl

theorem commutes_disable (now : Span) : (disable now).Commutes (Bench.beside p) := by
  rintro ⟨d, b⟩
  simp only [disable]
  exact commutes_send p _ _ (d, b)

theorem commutes_patter (onMs offMs firstMs : Nat) (now : Span) :
    (patter onMs offMs firstMs now).Commutes (Bench.beside p) := by
  rintro ⟨d, b⟩
  simp only [patter]
  exact commutes_send p _ _ (d, b)

theorem commutes_setOutput (on : Bool) (now : Span) :
    (setOutput on now).Commutes (Bench.beside p) := by
  rintro ⟨d, b⟩
  simp only [setOutput]
  exact commutes_send p _ _ (d, b)

theorem commutes_tick (now : Span) : (tick now).Commutes (Bench.beside p) := by
  rintro ⟨d, b⟩
  simp only [tick, Act.mapState]
  split
  · rfl
  · split
    · rfl
    · split
      · exact commutes_disable p now (d, b)
      · split
        · exact commutes_setOutput p _ now (d, b)
        · rfl

end Driver

theorem Order.commutes_act (o : Order) (now : Span) : (o.act now).Commutes (Bench.beside p) := by
  cases o with
  | pulse _ ms => exact (Driver.commutes_pulse p ms now).mapError _
  | pulseDefault _ => exact fun s => (Driver.commutes_pulse p s.1.pulseMs now).mapError _ s
  | disable _ => exact (Driver.commutes_disable p now).mapError _
  | patter _ onMs offMs firstMs =>
    exact (Driver.commutes_patter p onMs offMs firstMs now).mapError _
  | schedule _ mask cycles =>
    rintro ⟨d, b⟩
    simp only [act, Act.mapState]
    cases d.startSchedule mask cycles now <;> rfl

namespace DriverBank

theorem commutes_obey (o : Order) (now : Span) : (obey o now).Commutes (Bench.beside p) := by
  rintro ⟨bank, b⟩
  simp only [obey, Act.mapState]
  split
  · rename_i slot d _ _
    have hact := o.commutes_act p now (d, b)
    simp only [Act.mapState] at hact
    simp only [hact]
  · rfl

theorem commutes_byNumber {x : Act Fault (Driver × Bench) Unit} (hx : x.Commutes (Bench.beside p))
    (number : Nat) (c : DriverCall) : (byNumber number x c).Commutes (Bench.beside p) := by
  rintro ⟨bank, b⟩
  simp only [byNumber, Act.mapState]
  split
  · rename_i slot d _ _
    have hact := hx (d, b)
    simp only [Act.mapState] at hact
    simp only [hact]
  · have hdrive := Bench.commutes_drive p c b
    simp only [Act.mapState] at hdrive
    simp only [hdrive]

theorem commutes_holdNumber (number : Nat) (now : Span) :
    (holdNumber number now).Commutes (Bench.beside p) :=
  commutes_byNumber p (Driver.commutes_pulse p 0 now) _ _

theorem commutes_disableNumber (number : Nat) (now : Span) :
    (disableNumber number now).Commutes (Bench.beside p) :=
  commutes_byNumber p (Driver.commutes_disable p now) _ _

theorem tickList_after (now : Span) (ds : List Driver) (b : Bench) :
    tickList now ds (b.after p) = Act.mapState (Bench.beside p) (tickList now ds b) := by
  induction ds generalizing b with
  | nil => rfl
  | cons d rest ih =>
    have htick := Driver.commutes_tick p now (d, b)
    simp only [Act.mapState] at htick
    simp only [tickList, htick]
    rcases Driver.tick now (d, b) with ⟨outcome, d', b'⟩
    cases outcome with
    | ok _ => simp only [Act.mapState, ih]
    | error e => rfl
    | panic message => rfl

theorem commutes_tick (now : Span) : (tick now).Commutes (Bench.beside p) := by
  rintro ⟨bank, b⟩
  simp only [tick, Act.mapState, tickList_after]

end DriverBank

/-! ### Flipper rules and held handlers -/

namespace FlipperRules

theorem commutes_apply (r : FlipperRules) (enable : Bool) (now : Span) :
    (r.apply enable now).Commutes (Bench.beside p) := by
  have install : (installAll (r.compile enable)).Commutes (Bench.beside p) :=
    .each (fun rule => (Bench.commutes_call p _ _ _).second) _
  have coils : (Act.each (fun coil => DriverBank.disableNumber coil now) r.coils).Commutes
      (Bench.beside p) :=
    .each (fun coil => DriverBank.commutes_disableNumber p coil now) _
  refine (Bench.commutes_log p _ _).second.bind fun _ => install.bind fun _ =>
    .ite (coils.bind fun _ => ?_) ?_
  all_goals
    dsimp only
    cases r.relay with
    | none => exact .pure ()
    | some relay =>
      exact .ite (DriverBank.commutes_holdNumber p relay now)
        (DriverBank.commutes_disableNumber p relay now)

theorem commutes_setEnabled (enable : Bool) (now : Span) :
    (setEnabled enable now).Commutes (Act.mapState (Bench.beside p)) := by
  rintro ⟨r, s⟩
  have happly := r.commutes_apply p enable now s
  simp only [setEnabled, Act.mapState]
  split
  · rfl
  · simp only [Act.mapState] at happly
    simp only [happly]
    rcases r.apply enable now s with ⟨outcome, t⟩
    cases outcome <;> rfl

end FlipperRules

namespace HoldQueue
variable {ε : Type}

theorem commutes_cancelUnsatisfied (s : Switch) :
    (cancelUnsatisfied s : Act ε _ _).Commutes (Bench.beside p) := by
  rintro ⟨q, b⟩
  simp only [cancelUnsatisfied, Act.mapState, Bench.remark, Bench.enter_after]
  split <;> rfl

theorem noteLateness_after (now : Span) (o : Obligation) (s : HoldQueue × Bench) :
    noteLateness now o (Bench.beside p s) = Bench.beside p (noteLateness now o s) := by
  obtain ⟨q, b⟩ := s
  simp only [noteLateness, Act.mapState, Bench.remark, Bench.enter_after]
  split
  · rfl
  · split <;> rfl

theorem foldl_noteLateness_after (now : Span) (due : List Obligation) (s : HoldQueue × Bench) :
    due.foldl (fun s o => noteLateness now o s) (Bench.beside p s) =
      Bench.beside p (due.foldl (fun s o => noteLateness now o s) s) := by
  induction due generalizing s with
  | nil => rfl
  | cons o rest ih => rw [List.foldl_cons, noteLateness_after, ih, List.foldl_cons]

theorem commutes_takeDue (now : Span) (store : SwitchStore) :
    (takeDue now store : Act ε _ _).Commutes (Bench.beside p) := by
  rintro ⟨q, b⟩
  by_cases hpast : (q.pending.any fun o => o.stands store && o.deadline?.isNone) = true
  · simp only [takeDue, Act.mapState, hpast, if_true]
  · simp only [takeDue, Act.mapState, hpast]
    exact congrArg (Prod.mk _) (foldl_noteLateness_after p now _ (_, b))

end HoldQueue

end Playfield
