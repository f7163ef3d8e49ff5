import Mathlib.Data.List.Forall2
import Playfield.Proofs.Within

/-!
# Two computations that go alike

`Act.Mirrors R Q x y` says that from states related by `R` the computations `x` and `y` end alike,
with values related by `Q` or with the same error or panic, and leave states that are again related.
The property passes through sequencing, loops and `zoom`, so it has to be shown of the primitive
steps only. The two computations may work on states of different types.
-/
namespace Playfield

/-- Two endings are alike: values that are related, the same error, or the same panic. -/
inductive Outcome.Alike {ε α β : Type} (Q : α → β → Prop) : Outcome ε α → Outcome ε β → Prop where
  | ok {a : α} {b : β} (related : Q a b) : Alike Q (.ok a) (.ok b)
  | error (e : ε) : Alike Q (.error e) (.error e)
  | panic (message : String) : Alike Q (.panic message) (.panic message)

namespace Outcome.Alike
variable {ε δ α β : Type} {Q : α → β → Prop}

theorem refl {Q : α → α → Prop} (hQ : ∀ a, Q a a) (o : Outcome ε α) : Alike Q o o := by
  cases o with
  | ok a => exact .ok (hQ a)
  | error e => exact .error e
  | panic message => exact .panic message

theorem eq {o o' : Outcome ε α} (h : Alike Eq o o') : o = o' := by
  cases h with
  | ok related => rw [related]
  | error e => rfl
  | panic message => rfl

theorem mapError {o : Outcome ε α} {o' : Outcome ε β} (h : Alike Q o o') (f : ε → δ) :
    Alike Q (o.mapError f) (o'.mapError f) := by
  cases h with
  | ok related => exact .ok related
  | error e => exact .error (f e)
  | panic message => exact .panic message

end Outcome.Alike

/-- Both halves of two pairs are related. -/
structure Pairwise₂ {A A' B B' : Type} (R : A → A' → Prop) (S : B → B' → Prop) (p : A × B)
    (q : A' × B') : Prop where
  first : R p.1 q.1
  second : S p.2 q.2

namespace Act
variable {ε δ S T S₀ T₀ α β γ η : Type}

/-- From related states the computations end alike, and leave related states. -/
def Mirrors (R : S → T → Prop) (Q : α → β → Prop) (x : Act ε S α) (y : Act ε T β) : Prop :=
  ∀ ⦃s t⦄, R s t → (x s).1.Alike Q (y t).1 ∧ R (x s).2 (y t).2

namespace Mirrors
variable {R : S → T → Prop} {Q : α → β → Prop} {P : γ → η → Prop}

/-- Where two computations that go alike lead from related states. -/
theorem run {x : Act ε S α} {y : Act ε T β} (h : Mirrors R Q x y) {s : S} {t : T} (hs : R s t) :
    ∃ o o' s' t', x s = (o, s') ∧ y t = (o', t') ∧ o.Alike Q o' ∧ R s' t' :=
  ⟨_, _, _, _, rfl, rfl, h hs⟩

theorem pure {a : α} {b : β} (h : Q a b) :
    Mirrors R Q (Pure.pure a : Act ε S α) (Pure.pure b : Act ε T β) :=
  fun _ _ hs => ⟨.ok h, hs⟩

theorem get : Mirrors R R (Act.get : Act ε S S) (Act.get : Act ε T T) :=
  fun _ _ hs => ⟨.ok hs, hs⟩

theorem gets {f : S → α} {g : T → β} (h : ∀ s t, R s t → Q (f s) (g t)) :
    Mirrors R Q (Act.gets f : Act ε S α) (Act.gets g) :=
  fun s t hs => ⟨.ok (h s t hs), hs⟩

theorem modify {f : S → S} {g : T → T} (h : ∀ s t, R s t → R (f s) (g t)) :
    Mirrors R Eq (Act.modify f : Act ε S Unit) (Act.modify g) :=
  fun s t hs => ⟨.ok rfl, h s t hs⟩

theorem fail (e : ε) : Mirrors R Q (Act.fail e : Act ε S α) (Act.fail e) :=
  fun _ _ hs => ⟨.error e, hs⟩

theorem finish {o : Outcome ε α} {o' : Outcome ε β} (h : o.Alike Q o') :
    Mirrors R Q (Act.finish o) (Act.finish o') :=
  fun _ _ hs => ⟨h, hs⟩

theorem bind {x : Act ε S α} {y : Act ε T β} {f : α → Act ε S γ} {g : β → Act ε T η}
    (hx : Mirrors R Q x y) (hf : ∀ a b, Q a b → Mirrors R P (f a) (g b)) :
    Mirrors R P (x >>= f) (y >>= g) := by
  intro s t hs
  obtain ⟨o, o', s', t', hxs, hyt, hend, hstate⟩ := hx.run hs
  rw [bind_apply, bind_apply, hxs, hyt]
  cases hend with
  | ok related => exact hf _ _ related hstate
  | error e => exact ⟨.error e, hstate⟩
  | panic message => exact ⟨.panic message, hstate⟩

/-- Sequencing after equal values. -/
theorem next {x : Act ε S α} {y : Act ε T α} {f : α → Act ε S γ} {g : α → Act ε T η}
    (hx : Mirrors R Eq x y) (hf : ∀ a, Mirrors R P (f a) (g a)) :
    Mirrors R P (x >>= f) (y >>= g) :=
  hx.bind fun a _ h => h ▸ hf a

/-- A step of the first computation only, after which the states are still related. -/
theorem extra {x : Act ε S Unit} {f : Unit → Act ε S γ} {y : Act ε T η}
    (hx : ∀ s t, R s t → ∃ s', x s = (.ok (), s') ∧ R s' t) (hf : Mirrors R P (f ()) y) :
    Mirrors R P (x >>= f) y := by
  intro s t hs
  obtain ⟨s', hrun, hs'⟩ := hx s t hs
  rw [bind_apply, hrun]
  exact hf hs'

theorem ite {c : Prop} [Decidable c] {x x' : Act ε S α} {y y' : Act ε T β}
    (hx : Mirrors R Q x y) (hx' : Mirrors R Q x' y') :
    Mirrors R Q (if c then x else x') (if c then y else y') := by
  split
  · exact hx
  · exact hx'

theorem each {f : α → Act ε S Unit} {g : β → Act ε T Unit} {as : List α} {bs : List β}
    (hall : List.Forall₂ Q as bs) (hf : ∀ a b, Q a b → Mirrors R Eq (f a) (g b)) :
    Mirrors R Eq (Act.each f as) (Act.each g bs) := by
  induction hall with
  | nil => exact pure rfl
  | cons hab _ ih => exact (hf _ _ hab).next fun _ => ih

/-- A loop over the same list. -/
theorem each_same {f : α → Act ε S Unit} {g : α → Act ε T Unit} (as : List α)
    (hf : ∀ a, Mirrors R Eq (f a) (g a)) : Mirrors R Eq (Act.each f as) (Act.each g as) :=
  each (List.forall₂_same.mpr fun _ _ => rfl) fun a _ h => h ▸ hf a

theorem zoom {R₀ : S₀ → T₀ → Prop} {part : S → S₀} {put : S₀ → S → S} {part' : T → T₀}
    {put' : T₀ → T → T} {x : Act ε S₀ α} {y : Act ε T₀ β} (hx : Mirrors R₀ Q x y)
    (parts : ∀ s t, R s t → R₀ (part s) (part' t))
    (puts : ∀ s t s₀ t₀, R s t → R₀ s₀ t₀ → R (put s₀ s) (put' t₀ t)) :
    Mirrors R Q (Act.zoom part put x) (Act.zoom part' put' y) := by
  intro s t hs
  obtain ⟨hend, hstate⟩ := hx (parts s t hs)
  exact ⟨hend, puts s t _ _ hs hstate⟩

theorem second {R₀ : S₀ → T₀ → Prop} {x : Act ε S₀ α} {y : Act ε T₀ β} (hx : Mirrors R₀ Q x y) :
    Mirrors (Pairwise₂ R R₀) Q (Act.second x) (Act.second y) :=
  hx.zoom (fun _ _ h => h.second) fun _ _ _ _ h h₀ => ⟨h.first, h₀⟩

theorem mapError {x : Act ε S α} {y : Act ε T β} (hx : Mirrors R Q x y) (f : ε → δ) :
    Mirrors R Q (x.mapError f) (y.mapError f) := by
  intro s t hs
  obtain ⟨hend, hstate⟩ := hx hs
  exact ⟨hend.mapError f, hstate⟩

end Mirrors

end Act

end Playfield
