import Playfield.Act

/-!
# What a computation does to its state

`Act.Within R x` says that `x` moves the state along the relation `R` in each of its endings. For a
relation that is reflexive and transitive the property passes through sequencing, loops and `zoom`,
so it has to be shown of the primitive steps only. `Act.Keeps` is the case of a view of the state
that stays as it is.
-/
namespace Playfield

/-- A relation that holds of no step at all, and of two steps if it holds of each. -/
class Composes {S : Type} (R : S → S → Prop) : Prop where
  refl : ∀ s, R s s
  trans : ∀ {s t u}, R s t → R t u → R s u

instance {S β : Type} (view : S → β) : Composes fun s t => view t = view s where
  refl _ := rfl
  trans h h' := h'.trans h

/-- What stays true once it is true. -/
instance {S : Type} (P : S → Prop) : Composes fun s t => P s → P t where
  refl _ := id
  trans h h' hp := h' (h hp)

/-- What is true stays true, and if so a log grows by entries of some kind only. -/
def Grows {S β : Type} (P : S → Prop) (log : S → List β) (Q : β → Prop) (s t : S) : Prop :=
  P s → P t ∧ ∃ new, log t = log s ++ new ∧ ∀ entry ∈ new, Q entry

theorem Grows.of_same {S β : Type} {P : S → Prop} {log : S → List β} {Q : β → Prop} {s t : S}
    (hP : P s → P t) (hlog : log t = log s) : Grows P log Q s t :=
  fun h => ⟨hP h, [], hlog.trans (List.append_nil _).symm, fun _ hentry => nomatch hentry⟩

instance {S β : Type} (P : S → Prop) (log : S → List β) (Q : β → Prop) :
    Composes (Grows P log Q) where
  refl _ := .of_same id rfl
  trans h h' hs := by
    obtain ⟨ht, new, hnew, hfirst⟩ := h hs
    obtain ⟨hu, later, hlater, hrest⟩ := h' ht
    refine ⟨hu, new ++ later, ?_, List.forall_mem_append.mpr ⟨hfirst, hrest⟩⟩
    rw [hlater, hnew, List.append_assoc]

namespace Outcome
variable {ε δ α : Type} {o : Outcome ε α} {f : ε → δ}

theorem mapError_eq_ok {a : α} : o.mapError f = .ok a ↔ o = .ok a := by
  cases o <;> simp [mapError]

theorem mapError_eq_error {e : δ} :
    o.mapError f = .error e ↔ ∃ cause, o = .error cause ∧ f cause = e := by
  cases o <;> simp [mapError]

end Outcome

namespace Act
variable {ε δ S T α β : Type}

theorem bind_ok {x : Act ε S α} {f : α → Act ε S β} {s t : S} {a : α} (h : x s = (.ok a, t)) :
    (x >>= f) s = f a t := by
  rw [bind_apply, h]

theorem bind_error {x : Act ε S α} {f : α → Act ε S β} {s t : S} {e : ε}
    (h : x s = (.error e, t)) : (x >>= f) s = (.error e, t) := by
  rw [bind_apply, h]

theorem bind_panic {x : Act ε S α} {f : α → Act ε S β} {s t : S} {message : String}
    (h : x s = (.panic message, t)) : (x >>= f) s = (.panic message, t) := by
  rw [bind_apply, h]

/-- A sequence that delivers a value got there from a value of its first part. -/
theorem bind_eq_ok {x : Act ε S α} {f : α → Act ε S β} {s u : S} {b : β}
    (h : (x >>= f) s = (.ok b, u)) : ∃ a t, x s = (.ok a, t) ∧ f a t = (.ok b, u) := by
  rw [bind_apply] at h
  split at h
  · rename_i a t hx
    exact ⟨a, t, hx, h⟩
  · cases h
  · cases h

/-- A sequence that fails does so in its first or in its second part. -/
theorem bind_eq_error {x : Act ε S α} {f : α → Act ε S β} {s u : S} {e : ε}
    (h : (x >>= f) s = (.error e, u)) :
    x s = (.error e, u) ∨ ∃ a t, x s = (.ok a, t) ∧ f a t = (.error e, u) := by
  rw [bind_apply] at h
  split at h
  · rename_i a t hx
    exact .inr ⟨a, t, hx, h⟩
  · rename_i hx
    cases h
    exact .inl hx
  · cases h

theorem pure_bind (a : α) (f : α → Act ε S β) : ((Pure.pure a : Act ε S α) >>= f) = f a := rfl

theorem bind_assoc {γ : Type} (x : Act ε S α) (f : α → Act ε S β) (g : β → Act ε S γ) :
    x >>= f >>= g = x >>= fun a => f a >>= g := by
  funext s
  simp only [bind_apply]
  generalize x s = r
  obtain ⟨outcome, t⟩ := r
  cases outcome <;> rfl

/-- Whatever its ending, the computation moves the state along the relation. -/
def Within (R : S → S → Prop) (x : Act ε S α) : Prop := ∀ s, R s (x s).2

/-- Whatever its ending, the computation leaves a view of the state as it is. -/
abbrev Keeps (view : S → β) (x : Act ε S α) : Prop := Within (fun s t => view t = view s) x

namespace Within
variable {R : S → S → Prop}

section Composes
variable [Composes R]

theorem pure (a : α) : Within R (Pure.pure a : Act ε S α) := fun s => Composes.refl s

theorem get : Within R (Act.get : Act ε S S) := fun s => Composes.refl s

theorem fail (e : ε) : Within R (Act.fail e : Act ε S α) := fun s => Composes.refl s

theorem finish (o : Outcome ε α) : Within R (Act.finish o) := fun s => Composes.refl s

theorem bind {x : Act ε S α} {f : α → Act ε S β} (hx : Within R x) (hf : ∀ a, Within R (f a)) :
    Within R (x >>= f) := by
  intro s
  rw [bind_apply]
  have h := hx s
  split <;> rename_i t hs <;> rw [hs] at h
  · exact Composes.trans h (hf _ t)
  · exact h
  · exact h

/-- What comes after the first part moves the state along from where that part left it. -/
theorem after {f : α → Act ε S β} (hf : ∀ a, Within R (f a)) (x : Act ε S α) (s : S) :
    R (x s).2 ((x >>= f) s).2 := by
  rw [bind_apply]
  split <;> rename_i t hs <;> rw [hs]
  · exact hf _ t
  · exact Composes.refl t
  · exact Composes.refl t

theorem each {f : α → Act ε S Unit} (hf : ∀ a, Within R (f a)) (as : List α) :
    Within R (Act.each f as) := by
  induction as with
  | nil => exact pure ()
  | cons a rest ih => exact bind (hf a) fun _ => ih

end Composes

theorem modify {f : S → S} (hf : ∀ s, R s (f s)) : Within R (Act.modify f : Act ε S Unit) := hf

theorem mapError {x : Act ε S α} (hx : Within R x) (f : ε → δ) : Within R (x.mapError f) := hx

theorem ite {c : Prop} [Decidable c] {x y : Act ε S α} (hx : Within R x) (hy : Within R y) :
    Within R (if c then x else y) := by
  split
  · exact hx
  · exact hy

theorem zoom {Q : T → T → Prop} {part : S → T} {put : T → S → S} {x : Act ε T α}
    (hx : Within Q x) (lift : ∀ s t, Q (part s) t → R s (put t s)) :
    Within R (Act.zoom part put x) := fun s => lift s _ (hx (part s))

end Within

/-! ### Loops -/

section Loops
variable {f : α → Act ε S Unit}

theorem bind_pure_unit (x : Act ε S Unit) : (x >>= fun _ => Pure.pure ()) = x := by
  funext s
  rw [bind_apply]
  split <;> rename_i h <;> rw [h]
  rfl

/-- Not looking at the value of a computation does not change where it leads. -/
theorem state_discard (x : Act ε S β) (s : S) :
    ((x >>= fun _ => Pure.pure ()) s : Outcome ε Unit × S).2 = (x s).2 := by
  rw [bind_apply]
  split <;> rename_i h <;> rw [h]
  rfl

theorem each_nil : each f [] = Pure.pure () := rfl

theorem each_cons (a : α) (rest : List α) : each f (a :: rest) = f a >>= fun _ => each f rest := rfl

theorem each_singleton (a : α) : each f [a] = f a := by
  rw [each_cons, each_nil, bind_pure_unit]

theorem each_append (as bs : List α) : each f (as ++ bs) = each f as >>= fun _ => each f bs := by
  induction as with
  | nil => rfl
  | cons a rest ih =>
    rw [List.cons_append, each_cons, each_cons, ih, bind_assoc]

theorem each_map (g : β → α) (bs : List β) : each f (bs.map g) = each (fun b => f (g b)) bs := by
  induction bs with
  | nil => rfl
  | cons b rest ih => rw [List.map_cons, each_cons, each_cons, ih]

/-- The items a loop comes to: all of them, or those up to the first that fails. -/
def tried (f : α → Act ε S Unit) : List α → S → List α
  | [], _ => []
  | a :: rest, s =>
    match f a s with
    | (.ok _, t) => a :: tried f rest t
    | _ => [a]

theorem tried_ok {a : α} {s t : S} (h : f a s = (.ok (), t)) (rest : List α) :
    tried f (a :: rest) s = a :: tried f rest t := by
  simp only [tried, h]

theorem tried_failed {a : α} {s : S} (h : ∀ t, f a s ≠ (.ok (), t)) (rest : List α) :
    tried f (a :: rest) s = [a] := by
  simp only [tried]
  split
  · rename_i t ht
    exact absurd ht (h t)
  · rfl

/-- The items a loop comes to are the first ones. -/
theorem tried_prefix (as : List α) (s : S) : tried f as s <+: as := by
  induction as generalizing s with
  | nil => exact List.prefix_rfl
  | cons a rest ih =>
    simp only [tried]
    split
    · exact List.cons_prefix_cons.mpr ⟨rfl, ih _⟩
    · exact List.cons_prefix_cons.mpr ⟨rfl, List.nil_prefix⟩

/-- A loop moves the state by the items it comes to, one after another. -/
theorem each_state (as : List α) (s : S) :
    (each f as s).2 = (tried f as s).foldl (fun s a => (f a s).2) s := by
  induction as generalizing s with
  | nil => rfl
  | cons a rest ih =>
    rw [each_cons]
    rcases h : f a s with ⟨outcome, t⟩
    have hgo : (f a s).2 = t := congrArg Prod.snd h
    cases outcome with
    | ok _ => rw [bind_ok h, tried_ok h, List.foldl_cons, hgo, ih]
    | error e =>
      rw [bind_error h, tried_failed (by simp [h]), List.foldl_cons, hgo, List.foldl_nil]
    | panic message =>
      rw [bind_panic h, tried_failed (by simp [h]), List.foldl_cons, hgo, List.foldl_nil]

/-- A loop comes to an item after one that went well only. -/
theorem tried_split {as before after : List α} {a : α} {s : S}
    (h : tried f as s = before ++ a :: after) :
    after = [] ∨ ∃ t, f a (before.foldl (fun s a => (f a s).2) s) = (.ok (), t) := by
  induction as generalizing before s with
  | nil => simp [tried] at h
  | cons b rest ih =>
    by_cases hb : ∃ t, f b s = (.ok (), t)
    · obtain ⟨t, hok⟩ := hb
      have hgo : (f b s).2 = t := congrArg Prod.snd hok
      rw [tried_ok hok] at h
      rcases List.cons_eq_append_iff.mp h with ⟨rfl, hafter⟩ | ⟨before', rfl, hrest⟩
      · cases hafter
        exact .inr ⟨t, hok⟩
      · rw [List.foldl_cons, hgo]
        exact ih hrest
    · rw [tried_failed (not_exists.mp hb)] at h
      rcases List.cons_eq_append_iff.mp h with ⟨-, hafter⟩ | ⟨before', -, hrest⟩
      · cases hafter
        exact .inl rfl
      · simp at hrest

end Loops

end Act

end Playfield
