import Helpdesk.Library.Run
import Helpdesk.Library.Weakest

/-! # Transactions on a projection of the store

`Simulates f x y s`: on the image of `s` under `f`, `y` does what `x` does on `s`, and leaves the image of what
`x` leaves. Where a handler reads the whole store, `x` and `y` are what has become of it on the two stores.

* The rules for `Simulates` follow the `do` block, and each lookup brings what it has found along.
* `Spares f x s` is the case in which the projection sees nothing of `x`: it is left as it was.
* **`observed_purged`** is the rule for runs. An observer who owns some of the inputs is put out the same
  in the run and in the run of these inputs alone, on the image: this is noninterference, by purging. -/

namespace Tx

variable {σ τ ε α β : Type} {f : σ → τ} {s s' : σ}

def Simulates (f : σ → τ) (x : Tx σ ε α) (y : Tx τ ε α) (s : σ) : Prop :=
  exec y (f s) = ((exec x s).1, f (exec x s).2)

namespace Simulates

variable {x : Tx σ ε α} {y : Tx τ ε α} {g : α → Tx σ ε β} {h : α → Tx τ ε β}

theorem pure (a : α) : Simulates f (pure a : Tx σ ε α) (pure a) s := rfl

theorem raise (e : ε) : Simulates f (Tx.raise e : Tx σ ε α) (Tx.raise e) s := rfl

theorem write (s' : σ) : Simulates f (Tx.write s' : Tx σ ε Unit) (Tx.write (f s')) s := rfl

theorem orRaise (o : Option α) (e : ε) : Simulates f (Tx.orRaise o e : Tx σ ε α) (Tx.orRaise o e) s := by
  cases o with
  | none => exact raise e
  | some a => exact pure a

/-- **Sequencing** -/
theorem bind (hx : Simulates f x y s) (hg : ∀ a s', exec x s = (.ok a, s') → Simulates f (g a) (h a) s') :
    Simulates f (x >>= g) (y >>= h) s := by
  unfold Simulates at hx ⊢
  rw [exec_bind, exec_bind, hx]
  rcases hexec : exec x s with ⟨_ | a, s'⟩
  · rfl
  · exact hg a s' hexec

/-- The store itself is read, and the rest goes on with it. -/
theorem store_bind {g : σ → Tx σ ε β} {h : τ → Tx τ ε β} (hg : Simulates f (g s) (h (f s)) s) :
    Simulates f (Tx.store >>= g) (Tx.store >>= h) s := by
  unfold Simulates at hg ⊢
  rw [exec_bind, exec_bind, exec_store, exec_store]
  exact hg

/-- The two parts of the stores are both there. -/
theorem orRaise_bind {γ δ : Type} {o : Option γ} {o' : Option δ} {e : ε} {g : γ → Tx σ ε β} {h : δ → Tx τ ε β}
    {a : γ} {b : δ} (ho : o = some a) (ho' : o' = some b) (hg : Simulates f (g a) (h b) s) :
    Simulates f (Tx.orRaise o e >>= g) (Tx.orRaise o' e >>= h) s := by
  subst ho ho'
  exact hg

theorem write_of {t : τ} (h : f s' = t) : Simulates f (Tx.write s' : Tx σ ε Unit) (Tx.write t) s := by
  subst h
  exact write s'

theorem write_bind {t : τ} {g : Unit → Tx σ ε β} {h : Unit → Tx τ ε β} (hwrite : f s' = t)
    (hg : Simulates f (g ()) (h ()) s') : Simulates f (Tx.write s' >>= g) (Tx.write t >>= h) s := by
  subst hwrite
  exact hg

theorem map (k : α → β) (hx : Simulates f x y s) : Simulates f (k <$> x) (k <$> y) s := by
  unfold Simulates at hx ⊢
  rw [exec_map, exec_map, hx]

theorem mapError {ε' : Type} (k : ε → ε') (hx : Simulates f x y s) :
    Simulates f (Tx.mapError k x) (Tx.mapError k y) s := by
  unfold Simulates at hx ⊢
  rw [exec_mapError, exec_mapError, hx]

theorem ite {c c' : Prop} [Decidable c] [Decidable c'] {x' : Tx σ ε α} {y' : Tx τ ε α} (hc : c ↔ c')
    (hx : c → Simulates f x y s) (hx' : ¬ c → Simulates f x' y' s) :
    Simulates f (if c then x else x') (if c' then y else y') s := by
  by_cases h : c
  · rw [if_pos h, if_pos (hc.mp h)]
    exact hx h
  · rw [if_neg h, if_neg fun h' => h (hc.mpr h')]
    exact hx' h

theorem when {c : Prop} [Decidable c] {x : Tx σ ε Unit} {y : Tx τ ε Unit} (hx : c → Simulates f x y s) :
    Simulates f (Tx.when c x) (Tx.when c y) s :=
  ite Iff.rfl hx fun _ => pure ()

/-- The two transactions, settled. -/
theorem settle (hx : Simulates f x y s) : Tx.settle y (f s) = ((Tx.settle x s).1, f (Tx.settle x s).2) := by
  unfold Simulates at hx
  unfold Tx.settle
  rw [hx]
  rcases exec x s with ⟨_ | a, s'⟩ <;> rfl

end Simulates

/-! ## What is not in the projection

A handler that writes elsewhere. Only the store is spoken of, so there is one handler and not two, and a
lookup need not bring along what it has found. -/

/-- `x`, if it returns, leaves the projection as it was. -/
def Spares (f : σ → τ) (x : Tx σ ε α) (s : σ) : Prop := wp x (fun _ s' => f s' = f s) (fun _ => True) s

namespace Spares

variable {x y : Tx σ ε α} {g : α → Tx σ ε β}

theorem pure (a : α) : Spares f (pure a : Tx σ ε α) s := (wp_pure _).mpr rfl

theorem raise (e : ε) : Spares f (Tx.raise e : Tx σ ε α) s := (wp_raise _).mpr trivial

theorem orRaise_bind {γ : Type} {o : Option γ} {e : ε} {g : γ → Tx σ ε β} (hg : ∀ a, Spares f (g a) s) :
    Spares f (Tx.orRaise o e >>= g) s := by
  cases o with
  | none => exact raise e
  | some a => exact hg a

theorem write (h : f s' = f s) : Spares f (Tx.write s' : Tx σ ε Unit) s := wp_write.mpr h

theorem store_bind {g : σ → Tx σ ε β} (hg : Spares f (g s) s) : Spares f (Tx.store >>= g) s := by
  unfold Spares
  rw [wp_bind, wp_store]
  exact hg

theorem bind (hx : Spares f x s) (hg : ∀ a s', Spares f (g a) s') : Spares f (x >>= g) s := by
  unfold Spares
  rw [wp_bind]
  refine wp_mono hx (fun a s' hsame => ?_) fun _ _ => trivial
  exact wp_mono (hg a s') (fun _ s'' h => h.trans hsame) fun _ _ => trivial

theorem ite {c : Prop} [Decidable c] (hx : Spares f x s) (hy : Spares f y s) :
    Spares f (if c then x else y) s := by
  split
  · exact hx
  · exact hy

theorem map (k : α → β) (hx : Spares f x s) : Spares f (k <$> x) s := wp_map.mpr hx

theorem mapError {ε' : Type} (k : ε → ε') (hx : Spares f x s) : Spares f (Tx.mapError k x) s :=
  wp_mapError.mpr hx

theorem settle (h : Spares f x s) : f (Tx.settle x s).2 = f s :=
  settle_post (P := fun s' => f s' = f s) h rfl

end Spares

end Tx

/-! ## Runs

`own` says which inputs the observer owns. At these a step is simulated, with what it puts out; at the others
it spares the projection. `I` is whatever the two facts need of the states that are gone through. -/

namespace Run

variable {σ τ α ω : Type} {f : σ → τ} {step : σ → α → σ} {step' : τ → α → τ} {I : σ → Prop} {G : σ → α → Prop}
  {own : α → Bool} {out : σ → α → ω} {out' : τ → α → ω}

/-- What is put out at the inputs that an observer owns. -/
def observed (own : α → Bool) (step : σ → α → σ) (out : σ → α → ω) : σ → List α → List ω
  | _, [] => []
  | s, x :: xs => if own x then out s x :: observed own step out (step s x) xs else observed own step out (step s x) xs

/-- **The image of a run** is the run of the image, without the inputs of others. `I` is an invariant of the steps
    that meet `G`. -/
theorem run_purged (hown : ∀ s x, I s → G s x → own x = true → f (step s x) = step' (f s) x)
    (hother : ∀ s x, I s → G s x → own x = false → f (step s x) = f s)
    (hinv : ∀ s x, I s → G s x → I (step s x)) {s : σ} {xs : List α} (hI : I s) (hG : AllSteps step G s xs) :
    f (run step s xs) = run step' (f s) (xs.filter own) := by
  induction xs generalizing s with
  | nil => rfl
  | cons x xs ih =>
    rw [run_cons, ih (hinv s x hI hG.1) hG.2]
    cases h : own x with
    | true => rw [List.filter_cons_of_pos h, run_cons, hown s x hI hG.1 h]
    | false => rw [List.filter_cons_of_neg (by simp [h]), hother s x hI hG.1 h]

/-- **Purging**: the observer cannot tell the run from the one without the inputs of others. -/
theorem observed_purged (hown : ∀ s x, I s → G s x → own x = true → f (step s x) = step' (f s) x)
    (hout : ∀ s x, I s → G s x → own x = true → out s x = out' (f s) x)
    (hother : ∀ s x, I s → G s x → own x = false → f (step s x) = f s)
    (hinv : ∀ s x, I s → G s x → I (step s x)) {s : σ} {xs : List α} (hI : I s) (hG : AllSteps step G s xs) :
    observed own step out s xs = observed own step' out' (f s) (xs.filter own) := by
  induction xs generalizing s with
  | nil => rfl
  | cons x xs ih =>
    have hrest := ih (hinv s x hI hG.1) hG.2
    cases h : own x with
    | true =>
      rw [List.filter_cons_of_pos h, observed, if_pos h, observed, if_pos h, hout s x hI hG.1 h, hrest,
        hown s x hI hG.1 h]
    | false =>
      rw [List.filter_cons_of_neg (by simp [h]), observed, if_neg (by simp [h]), hrest, hother s x hI hG.1 h]

end Run
