import Helpdesk.Library.Transaction

/-! # Weakest preconditions for transactions

`wp x Q E s` says how `x` ends from the store `s`: if it returns `a` and leaves `s'`, then `Q a s'`;
if it raises `e`, then `E e`. The store that a raise leaves behind is not spoken of, since it is
rolled back.

The simp lemmas compute `wp` along a `do` block, so a specification of a handler is proved by
`simp` up to the handlers it calls, and **`wp_mono`** puts their specifications in. -/

namespace Tx

variable {σ ε α β : Type} {x : Tx σ ε α} {Q Q' : α → σ → Prop} {E E' : ε → Prop} {s s' : σ}

/-- How `x` ends from `s`. It is irreducible, so that no unifier starts to run a handler. -/
@[irreducible] def wp (x : Tx σ ε α) (Q : α → σ → Prop) (E : ε → Prop) (s : σ) : Prop :=
  match exec x s with
  | (.ok a, s') => Q a s'
  | (.error e, _) => E e

theorem wp_of_ok {a : α} (h : exec x s = (.ok a, s')) : wp x Q E s ↔ Q a s' := by
  simp [wp, h]

theorem wp_of_error {e : ε} (h : exec x s = (.error e, s')) : wp x Q E s ↔ E e := by
  simp [wp, h]

/-- Use what is known of a handler that returned. -/
theorem wp_ok {a : α} (hwp : wp x Q E s) (h : exec x s = (.ok a, s')) : Q a s' :=
  (wp_of_ok h).mp hwp

/-- Use what is known of a handler that raised. -/
theorem wp_error {e : ε} (hwp : wp x Q E s) (h : exec x s = (.error e, s')) : E e :=
  (wp_of_error h).mp hwp

/-- To say how a handler ends that returns, look at the runs that do. -/
theorem wp_of_forall_ok (h : ∀ a s', exec x s = (.ok a, s') → Q a s') :
    wp x Q (fun _ => True) s := by
  unfold wp
  split
  next a s' hx => exact h a s' hx
  next => trivial

/-! ## Rules

One rule for each thing that a handler is made of. They are equivalences, and simp lemmas: computing `wp` loses
nothing. `wp_mono` and `wp_of_returns` are the rules of consequence, which do. -/

@[simp] theorem wp_pure (a : α) : wp (pure a : Tx σ ε α) Q E s ↔ Q a s := by
  simp [wp]

@[simp] theorem wp_store {Q : σ → σ → Prop} : wp (store : Tx σ ε σ) Q E s ↔ Q s s := by
  simp [wp]

@[simp] theorem wp_write {Q : Unit → σ → Prop} :
    wp (write s' : Tx σ ε Unit) Q E s ↔ Q () s' := by
  simp [wp]

@[simp] theorem wp_raise (e : ε) : wp (raise e : Tx σ ε α) Q E s ↔ E e := by
  simp [wp]

/-- **Sequencing**: the first part has to end where the second one can start. -/
@[simp] theorem wp_bind {f : α → Tx σ ε β} {R : β → σ → Prop} :
    wp (x >>= f) R E s ↔ wp x (fun a s' => wp (f a) R E s') E s := by
  unfold wp
  rw [exec_bind]
  rcases exec x s with ⟨_ | a, s'⟩ <;> rfl

@[simp] theorem wp_map {f : α → β} {R : β → σ → Prop} :
    wp (f <$> x) R E s ↔ wp x (fun a s' => R (f a) s') E s := by
  unfold wp
  rw [exec_map]
  rcases exec x s with ⟨_ | a, s'⟩ <;> rfl

@[simp] theorem wp_ite {c : Prop} [Decidable c] {y : Tx σ ε α} :
    wp (if c then x else y) Q E s ↔ (c → wp x Q E s) ∧ (¬ c → wp y Q E s) := by
  split
  next h => simp [h]
  next h => simp [h]

@[simp] theorem wp_when {c : Prop} [Decidable c] {x : Tx σ ε Unit} {Q : Unit → σ → Prop} :
    wp (when c x) Q E s ↔ (c → wp x Q E s) ∧ (¬ c → Q () s) := by
  simp [when]

@[simp] theorem wp_orRaise {o : Option α} {e : ε} :
    wp (orRaise o e) Q E s ↔ (∀ a, o = some a → Q a s) ∧ (o = none → E e) := by
  cases o with
  | none => simp [orRaise]
  | some a => simp [orRaise]

@[simp] theorem wp_mapError {ε' : Type} {f : ε → ε'} {E : ε' → Prop} :
    wp (mapError f x) Q E s ↔ wp x Q (fun e => E (f e)) s := by
  unfold wp
  rw [exec_mapError]
  rcases exec x s with ⟨_ | a, s'⟩ <;> rfl

/-- **Consequence**: a specification gives all that follows from it. -/
theorem wp_mono (h : wp x Q E s) (hQ : ∀ a s', Q a s' → Q' a s') (hE : ∀ e, E e → E' e) :
    wp x Q' E' s := by
  unfold wp at h ⊢
  split
  next a s' hx =>
    rw [hx] at h
    exact hQ a s' h
  next e s' hx =>
    rw [hx] at h
    exact hE e h

/-- **Consequence** for a handler that returns: whatever is asked of its errors. -/
theorem wp_of_returns (hx : ∃ a s', exec x s = (.ok a, s')) (h : wp x Q E s)
    (hQ : ∀ a s', Q a s' → Q' a s') : wp x Q' E' s := by
  obtain ⟨a, s', hexec⟩ := hx
  exact (wp_of_ok hexec).mpr (hQ a s' (wp_ok h hexec))

/-- What a settled transaction that returned leaves behind. -/
theorem wp_settle (h : wp x Q E s) :
    (∃ a, settle x s = (.ok a, (settle x s).2) ∧ Q a (settle x s).2) ∨
      (∃ e, settle x s = (.error e, s) ∧ E e) := by
  cases hx : exec x s with
  | mk out s' =>
    cases out with
    | ok a =>
      rw [settle_of_ok hx]
      exact .inl ⟨a, rfl, wp_ok h hx⟩
    | error e =>
      rw [settle_of_error hx]
      exact .inr ⟨e, rfl, wp_error h hx⟩

/-- What a transaction establishes when it returns, and held before, holds after settling. -/
theorem settle_post {P : σ → Prop} (h : wp x (fun _ s' => P s') (fun _ => True) s) (hs : P s) :
    P (settle x s).2 := by
  rcases wp_settle h with ⟨a, -, hP⟩ | ⟨e, herror, -⟩
  · exact hP
  · rwa [herror]

end Tx
