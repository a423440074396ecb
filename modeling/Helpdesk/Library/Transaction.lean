import Mathlib.Data.List.Basic

/-! # Transactions

A handler works on a store `σ`, may raise an error `ε`, and its writes up to the raise are in the
store it leaves behind. Whether they last is decided by whoever runs it: `Tx.settle` commits what a
handler that returned has written and rolls a handler that raised back.

The monad is `ExceptT ε (StateM σ)`; the simp lemmas about `exec` read a handler as a function of
the store, so that a proof never unfolds the transformers.

For a proof that goes backward through a handler that returned, or raised, `bind_ok` and `bind_error` peel off
its first part. -/

/-- A computation over the store `σ` that may raise `ε`. -/
abbrev Tx (σ ε α : Type) := ExceptT ε (StateM σ) α

namespace Tx

variable {σ ε α β : Type}

/-- Run a handler: its outcome, and the store with all it has written so far. -/
def exec (x : Tx σ ε α) (s : σ) : Except ε α × σ := (ExceptT.run x).run s

/-- Commit a handler that returns, roll back one that raises. -/
def settle (x : Tx σ ε α) (s : σ) : Except ε α × σ :=
  match exec x s with
  | (.ok a, s') => (.ok a, s')
  | (.error e, _) => (.error e, s)

/-- The whole store. -/
def store : Tx σ ε σ := get

/-- Replace the store. -/
def write (s : σ) : Tx σ ε Unit := set s

/-- Raise `e`. -/
def raise (e : ε) : Tx σ ε α := throw e

/-- `none` raises `e`. -/
def orRaise (o : Option α) (e : ε) : Tx σ ε α :=
  match o with
  | some a => pure a
  | none => raise e

/-- `x`, if `c` holds. -/
def when (c : Prop) [Decidable c] (x : Tx σ ε Unit) : Tx σ ε Unit := if c then x else pure ()

/-- Go on with what `handler` makes of an error that it knows; what has been written stays. -/
def recover (x : Tx σ ε α) (handler : ε → Option α) : Tx σ ε α :=
  tryCatch x fun e => orRaise (handler e) e

/-- Raise `f e` where `x` raises `e`. -/
def mapError {ε' : Type} (f : ε → ε') (x : Tx σ ε α) : Tx σ ε' α :=
  ExceptT.adapt f x

@[simp] theorem exec_pure (a : α) (s : σ) : exec (pure a : Tx σ ε α) s = (.ok a, s) := rfl

@[simp] theorem exec_store (s : σ) : exec (store : Tx σ ε σ) s = (.ok s, s) := rfl

@[simp] theorem exec_write (s s' : σ) : exec (write s' : Tx σ ε Unit) s = (.ok (), s') := rfl

@[simp] theorem exec_raise (e : ε) (s : σ) : exec (raise e : Tx σ ε α) s = (.error e, s) := rfl

@[simp] theorem exec_orRaise_some (a : α) (e : ε) (s : σ) :
    exec (orRaise (some a) e : Tx σ ε α) s = (.ok a, s) := rfl

@[simp] theorem exec_orRaise_none (e : ε) (s : σ) :
    exec (orRaise none e : Tx σ ε α) s = (.error e, s) := rfl

/-- **Sequencing**: the second part runs on what the first one returned and wrote, and not at all
    when the first one raised. -/
@[simp] theorem exec_bind (x : Tx σ ε α) (f : α → Tx σ ε β) (s : σ) :
    exec (x >>= f) s = match exec x s with
      | (.ok a, s') => exec (f a) s'
      | (.error e, s') => (.error e, s') := by
  show (ExceptT.bindCont f (exec x s).1).run (exec x s).2 = _
  rcases exec x s with ⟨_ | a, s'⟩ <;> rfl

/-- Peel a sequence that returned. -/
theorem bind_ok {x : Tx σ ε α} {f : α → Tx σ ε β} {s s'' : σ} {b : β} :
    exec (x >>= f) s = (.ok b, s'') ↔
      ∃ a s', exec x s = (.ok a, s') ∧ exec (f a) s' = (.ok b, s'') := by
  rw [exec_bind]
  rcases exec x s with ⟨_ | a, s'⟩ <;> simp

/-- Peel a sequence that raised: the first part did, or it returned and the second part did. -/
theorem bind_error {x : Tx σ ε α} {f : α → Tx σ ε β} {s s'' : σ} {e : ε} :
    exec (x >>= f) s = (.error e, s'') ↔
      exec x s = (.error e, s'') ∨
        ∃ a s', exec x s = (.ok a, s') ∧ exec (f a) s' = (.error e, s'') := by
  rw [exec_bind]
  rcases exec x s with ⟨_ | a, s'⟩ <;> simp

@[simp] theorem exec_map (f : α → β) (x : Tx σ ε α) (s : σ) :
    exec (f <$> x) s = ((exec x s).1.map f, (exec x s).2) := by
  show exec (x >>= fun a => pure (f a)) s = _
  rw [exec_bind]
  rcases exec x s with ⟨_ | a, s'⟩ <;> rfl

@[simp] theorem exec_mapError {ε' : Type} (f : ε → ε') (x : Tx σ ε α) (s : σ) :
    exec (mapError f x) s = ((exec x s).1.mapError f, (exec x s).2) := by
  show (ExceptT.adapt f x).run.run s = _
  rw [ExceptT.run_adapt]
  rfl

/-- **Handling**: a part that returned is left alone, and so is an error that the handler does not
    know. -/
@[simp] theorem exec_recover (x : Tx σ ε α) (handler : ε → Option α) (s : σ) :
    exec (recover x handler) s = match exec x s with
      | (.ok a, s') => (.ok a, s')
      | (.error e, s') => exec (orRaise (handler e) e) s' := by
  show (match (exec x s).1 with
    | .ok a => (pure (Except.ok a) : StateM σ (Except ε α))
    | .error e => (orRaise (handler e) e : Tx σ ε α).run).run (exec x s).2 = _
  rcases exec x s with ⟨_ | a, s'⟩ <;> rfl

@[simp] theorem exec_ite {c : Prop} [Decidable c] (x y : Tx σ ε α) (s : σ) :
    exec (if c then x else y) s = if c then exec x s else exec y s := by
  split <;> rfl

/-! ## Committing and rolling back

`settle` is the only place where it matters how a handler has ended. What it returns is what the handler has
returned; the store is the handler's, or the one before. -/

theorem settle_of_ok {x : Tx σ ε α} {s s' : σ} {a : α} (h : exec x s = (.ok a, s')) :
    settle x s = (.ok a, s') := by
  rw [settle, h]

theorem settle_of_error {x : Tx σ ε α} {s s' : σ} {e : ε} (h : exec x s = (.error e, s')) :
    settle x s = (.error e, s) := by
  rw [settle, h]

/-- A first part that has written nothing. -/
theorem settle_bind_of_ok {x : Tx σ ε α} {f : α → Tx σ ε β} {s : σ} {a : α}
    (h : exec x s = (.ok a, s)) : settle (x >>= f) s = settle (f a) s := by
  rw [settle, settle, exec_bind, h]

theorem settle_map {x : Tx σ ε α} {f : α → β} {s : σ} :
    (settle (f <$> x) s).2 = (settle x s).2 := by
  rw [settle, settle, exec_map]
  rcases exec x s with ⟨_ | a, s'⟩ <;> rfl

theorem settle_eq_ok {x : Tx σ ε α} {s s' : σ} {a : α} :
    settle x s = (.ok a, s') ↔ exec x s = (.ok a, s') := by
  refine ⟨fun h => ?_, settle_of_ok⟩
  unfold settle at h
  split at h
  next hx => rwa [hx]
  next => cases h

/-- What a settled transaction returned, its handler returned. -/
theorem settle_ok {x : Tx σ ε α} {s : σ} {a : α} (h : (settle x s).1 = .ok a) :
    ∃ s', exec x s = (.ok a, s') := by
  unfold settle at h
  split at h
  next a' s' hx =>
    cases h
    exact ⟨s', hx⟩
  · cases h

/-- A settled transaction that did not return has left the store alone. -/
theorem settle_store_of_error {x : Tx σ ε α} {s : σ} {e : ε} (h : (settle x s).1 = .error e) :
    (settle x s).2 = s := by
  unfold settle at h ⊢
  split <;> simp_all

end Tx
