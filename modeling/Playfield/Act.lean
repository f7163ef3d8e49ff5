/-!
# Stateful computations that may fail or panic

`Act ε S α` is a computation on a state of type `S`. It has three endings: a value, an error with
a cause of type `ε`, and a panic with a message. The state reached is kept in every ending, so
whatever was done before a failure stays done. `zoom` runs a computation on a part of a larger
state.
-/
namespace Playfield

/-- How a computation ended. -/
inductive Outcome (ε α : Type) where
  /-- It delivered a value. -/
  | ok (value : α)
  /-- It failed for a stated cause. -/
  | error (cause : ε)
  /-- It was abandoned half-way with a message. -/
  | panic (message : String)
  deriving DecidableEq, Repr, Inhabited

namespace Outcome
variable {ε δ α β : Type}

/-- Change the value, leaving failures as they are. -/
def map (f : α → β) : Outcome ε α → Outcome ε β
  | ok a => ok (f a)
  | error e => error e
  | panic m => panic m

/-- Change the cause of a failure, leaving values and panics as they are. -/
def mapError (f : ε → δ) : Outcome ε α → Outcome δ α
  | ok a => ok a
  | error e => error (f e)
  | panic m => panic m

end Outcome

/-- A computation on a state that ends in an `Outcome` and keeps the state in each of them. -/
def Act (ε S α : Type) : Type := S → Outcome ε α × S

namespace Act
variable {ε δ S T α β : Type}

/-- Deliver a value and leave the state alone. -/
def pure (a : α) : Act ε S α := fun s => (.ok a, s)

/-- Run the second computation on the value and state of the first, if that delivered a value. -/
def bind (x : Act ε S α) (f : α → Act ε S β) : Act ε S β := fun s =>
  match x s with
  | (.ok a, t) => f a t
  | (.error e, t) => (.error e, t)
  | (.panic m, t) => (.panic m, t)

instance : Monad (Act ε S) where
  pure := Act.pure
  bind := Act.bind

theorem pure_apply (a : α) (s : S) : (Pure.pure a : Act ε S α) s = (.ok a, s) := rfl

theorem bind_apply (x : Act ε S α) (f : α → Act ε S β) (s : S) :
    (x >>= f) s = match x s with
      | (.ok a, t) => f a t
      | (.error e, t) => (.error e, t)
      | (.panic m, t) => (.panic m, t) := rfl

/-- The current state. -/
def get : Act ε S S := fun s => (.ok s, s)

/-- A value read off the current state. -/
def gets (f : S → α) : Act ε S α := fun s => (.ok (f s), s)

/-- Change the state. -/
def modify (f : S → S) : Act ε S Unit := fun s => (.ok (), f s)

/-- Fail for a stated cause. -/
def fail (e : ε) : Act ε S α := fun s => (.error e, s)

/-- End in a known outcome. -/
def finish (o : Outcome ε α) : Act ε S α := fun s => (o, s)

/-- Run a computation on the part of the state that `part` reads and `put` writes back. -/
def zoom (part : S → T) (put : T → S → S) (x : Act ε T α) : Act ε S α := fun s =>
  match x (part s) with
  | (o, t) => (o, put t s)

/-- Run a computation on the first half of a pair. -/
def first (x : Act ε S α) : Act ε (S × T) α := zoom Prod.fst (fun s p => (s, p.2)) x

/-- Run a computation on the second half of a pair. -/
def second (x : Act ε T α) : Act ε (S × T) α := zoom Prod.snd (fun t p => (p.1, t)) x

/-- Change the cause of a failure. -/
def mapError (f : ε → δ) (x : Act ε S α) : Act δ S α := fun s =>
  match x s with
  | (o, t) => (o.mapError f, t)

/-- Run a computation to its ending, whichever it is, and deliver that ending as a value. -/
def attempt (x : Act ε S α) : Act δ S (Outcome ε α) := fun s =>
  match x s with
  | (o, t) => (.ok o, t)

/-- Run a computation on each item in turn, up to the first failure. -/
def each (f : α → Act ε S Unit) : List α → Act ε S Unit
  | [] => pure ()
  | a :: rest => bind (f a) fun _ => each f rest

end Act

end Playfield
