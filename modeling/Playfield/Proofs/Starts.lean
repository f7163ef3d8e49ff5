import Playfield.FlipperRules
import Playfield.HoldQueue
import Playfield.Proofs.Within

/-!
# Callbacks that have begun

The journal of the bench records the start of every callback. `Bench.starts` reads these records off
it. Nothing the host does with the board, the drivers or the flipper rules begins a callback, so all
of it leaves this view as it is.
-/
namespace Playfield

/-- The callback is a switch handler. -/
def CallbackSite.isHandler : CallbackSite → Bool
  | .handler _ _ _ => true
  | _ => false

/-- The start of a callback that an entry of the journal records. -/
def Entry.start? : Entry → Option (CallbackSite × Glimpse)
  | .began site glimpse => some (site, glimpse)
  | _ => none

namespace Bench

/-- The callbacks that have begun, in order, each with what it could see then. -/
def starts (b : Bench) : List (CallbackSite × Glimpse) := b.journal.toList.filterMap Entry.start?

/-- The switch handlers that have begun, in order. -/
def handlerStarts (b : Bench) : List (CallbackSite × Glimpse) :=
  b.starts.filter fun start => start.1.isHandler

theorem starts_enter (e : Entry) (b : Bench) :
    (b.enter e).starts = b.starts ++ e.start?.toList := by
  cases h : e.start? <;> simp [starts, enter, List.filterMap_append, h]

@[simp] theorem starts_remark (severity : Severity) (text : String) (b : Bench) :
    (b.remark severity text).starts = b.starts := by
  simp [remark, starts_enter, Entry.start?]

@[simp] theorem starts_note (text : String) (b : Bench) :
    (b.enter (.note text)).starts = b.starts := by
  simp [starts_enter, Entry.start?]

@[simp] theorem starts_call_entry (c : BoardCall) (reply : Reply) (b : Bench) :
    (b.enter (.call c reply)).starts = b.starts := by
  simp [starts_enter, Entry.start?]

@[simp] theorem starts_began (site : CallbackSite) (glimpse : Glimpse) (b : Bench) :
    (b.enter (.began site glimpse)).starts = b.starts ++ [(site, glimpse)] := by
  simp [starts_enter, Entry.start?]

@[simp] theorem starts_ended (fault : Option Fault) (b : Bench) :
    (b.enter (.ended fault)).starts = b.starts := by
  simp [starts_enter, Entry.start?]

theorem starts_eq_of_journal {b c : Bench} (h : c.journal = b.journal) : c.starts = b.starts := by
  rw [starts, h, starts]

variable {α : Type}

theorem keeps_starts_run (c : BoardCall) (reply : α → Reply) (onBoard : Act Fault Board α)
    (b : Bench) : (call.run c reply onBoard b).2.starts = b.starts := by
  simp only [call.run]
  split <;> rw [starts_call_entry] <;> rfl

/-- A call to the board begins no callback. -/
theorem keeps_starts_call (c : BoardCall) (reply : α → Reply) (onBoard : Act Fault Board α) :
    (call c reply onBoard).Keeps starts := by
  intro b
  simp only [call]
  split
  · rw [starts_call_entry]; rfl
  · exact keeps_starts_run c reply onBoard _
  · exact keeps_starts_run c reply onBoard _

theorem keeps_starts_poll (frames : Bool) : (poll frames).Keeps starts := keeps_starts_call _ _ _

theorem keeps_starts_install (r : Rule) (driveNow : Bool) : (install r driveNow).Keeps starts :=
  keeps_starts_call _ _ _

theorem keeps_starts_drive (c : DriverCall) : (drive c).Keeps starts := keeps_starts_call _ _ _

theorem keeps_starts_tickle : tickle.Keeps starts := keeps_starts_call _ _ _

end Bench

/-! ### Drivers -/

namespace Driver

/-- The callbacks that have begun, read off a driver on the bench. -/
abbrev startsOf (s : Driver × Bench) : List (CallbackSite × Glimpse) := s.2.starts

theorem keeps_starts_send (c : DriverCall) (f : Driver → Driver) : (send c f).Keeps startsOf := by
  intro state
  obtain ⟨d, b⟩ := state
  have h := Bench.keeps_starts_drive c b
  simp only [send]
  split <;> rename_i hd <;> rw [hd] at h <;> exact h

theorem keeps_starts_pulse (ms : Nat) (now : Span) : (pulse ms now).Keeps startsOf := by
  intro state
  obtain ⟨d, b⟩ := state
  simp only [pulse]
  split
  · exact keeps_starts_send _ _ (d, b)
  · split
    · exact keeps_starts_send _ _ (d, b)
    · have h := keeps_starts_send (.pulse d.number ms) (fun d => { d with schedule := none }) (d, b)
      split
      · rename_i hs; rw [hs] at h; exact h
      · exact h

theorem keeps_starts_disable (now : Span) : (disable now).Keeps startsOf :=
  fun (d, b) => keeps_starts_send _ _ (d, b)

theorem keeps_starts_patter (onMs offMs firstMs : Nat) (now : Span) :
    (patter onMs offMs firstMs now).Keeps startsOf :=
  fun (d, b) => keeps_starts_send _ _ (d, b)

theorem keeps_starts_tick (now : Span) : (tick now).Keeps startsOf := by
  intro state
  obtain ⟨d, b⟩ := state
  simp only [tick]
  split
  · rfl
  · split
    · rfl
    · split
      · exact keeps_starts_disable now (d, b)
      · split
        · exact keeps_starts_send _ _ (d, b)
        · rfl

end Driver

theorem Order.keeps_starts_act (o : Order) (now : Span) : (o.act now).Keeps Driver.startsOf := by
  cases o with
  | pulse _ ms => exact (Driver.keeps_starts_pulse ms now).mapError _
  | pulseDefault _ =>
    exact fun (d, b) => (Driver.keeps_starts_pulse d.pulseMs now).mapError _ (d, b)
  | disable _ => exact (Driver.keeps_starts_disable now).mapError _
  | patter _ onMs offMs firstMs =>
    exact (Driver.keeps_starts_patter onMs offMs firstMs now).mapError _
  | schedule _ mask cycles =>
    intro state
    obtain ⟨d, b⟩ := state
    simp only [Order.act]
    split <;> rfl

namespace DriverBank

/-- The callbacks that have begun, read off the drivers on the bench. -/
abbrev startsOf (s : DriverBank × Bench) : List (CallbackSite × Glimpse) := s.2.starts

/-- An order to a driver begins no callback. -/
theorem keeps_starts_obey (o : Order) (now : Span) : (obey o now).Keeps startsOf := by
  intro state
  obtain ⟨bank, b⟩ := state
  simp only [obey]
  split
  · rename_i slot d _ _
    exact o.keeps_starts_act now (d, b)
  · rfl

theorem keeps_starts_byNumber {x : Act Fault (Driver × Bench) Unit} (hx : x.Keeps Driver.startsOf)
    (number : Nat) (c : DriverCall) : (byNumber number x c).Keeps startsOf := by
  intro state
  obtain ⟨bank, b⟩ := state
  simp only [byNumber]
  split
  · rename_i slot d _ _
    exact hx (d, b)
  · exact Bench.keeps_starts_drive c b

theorem keeps_starts_tickList (now : Span) (ds : List Driver) (b : Bench) :
    (tickList now ds b).2.2.starts = b.starts := by
  induction ds generalizing b with
  | nil => rfl
  | cons d rest ih =>
    have h := Driver.keeps_starts_tick now (d, b)
    simp only [tickList]
    split <;> rename_i hd
    · rw [hd] at h
      exact (ih _).trans h
    · rw [hd] at h
      exact h

theorem keeps_starts_tick (now : Span) : (tick now).Keeps startsOf :=
  fun (bank, b) => keeps_starts_tickList now bank.toList b

end DriverBank

namespace FlipperRules

theorem keeps_starts_second {ε α : Type} {x : Act ε Bench α} (hx : x.Keeps Bench.starts) :
    (Act.second x : Act ε (DriverBank × Bench) α).Keeps DriverBank.startsOf :=
  hx.zoom fun _ _ h => h

theorem keeps_starts_apply (r : FlipperRules) (enable : Bool) (now : Span) :
    (r.apply enable now).Keeps DriverBank.startsOf := by
  have log : (Act.second (Bench.log .debug ("setting flippers enabled to " ++ toString enable)) :
      Act Fault (DriverBank × Bench) Unit).Keeps DriverBank.startsOf :=
    keeps_starts_second (.modify fun b => b.starts_remark _ _)
  have install : (installAll (r.compile enable)).Keeps DriverBank.startsOf :=
    .each (fun rule => keeps_starts_second (Bench.keeps_starts_install rule false)) _
  have disable (n : Nat) : (DriverBank.disableNumber n now).Keeps DriverBank.startsOf :=
    DriverBank.keeps_starts_byNumber (Driver.keeps_starts_disable now) _ _
  have hold (n : Nat) : (DriverBank.holdNumber n now).Keeps DriverBank.startsOf :=
    DriverBank.keeps_starts_byNumber (Driver.keeps_starts_pulse 0 now) _ _
  refine .bind log fun _ => .bind install fun _ => .ite (.bind (.each disable _) fun _ => ?_) ?_
  all_goals
    dsimp only
    cases r.relay with
    | none => exact .pure ()
    | some relay => exact .ite (hold relay) (disable relay)

/-- Turning the flippers on or off begins no callback. -/
theorem keeps_starts_setEnabled (enable : Bool) (now : Span) :
    (setEnabled enable now).Keeps fun s => s.2.2.starts := by
  intro state
  obtain ⟨r, s⟩ := state
  have h := keeps_starts_apply r enable now s
  simp only [setEnabled]
  split
  · rfl
  · split <;> rename_i hs <;> rw [hs] at h <;> exact h

end FlipperRules

namespace HoldQueue

theorem starts_noteLateness (now : Span) (o : Obligation) (s : HoldQueue × Bench) :
    (noteLateness now o s).2.starts = s.2.starts := by
  obtain ⟨q, b⟩ := s
  simp only [noteLateness]
  split
  · rfl
  · split <;> exact b.starts_remark _ _

theorem starts_foldl_noteLateness (now : Span) (due : List Obligation) (s : HoldQueue × Bench) :
    (due.foldl (fun s o => noteLateness now o s) s).2.starts = s.2.starts := by
  induction due generalizing s with
  | nil => rfl
  | cons o rest ih => exact (ih _).trans (starts_noteLateness now o s)

end HoldQueue

end Playfield
