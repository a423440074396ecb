import Helpdesk.Library.Weakest

/-! # What a transaction may do to the store

`Tx.Does R x` says that `x`, if it returns, has taken the store along `R`. For a reflexive and
transitive `R` it is closed under everything that a `do` block is made of, so a handler does what each
of its parts does. What a raise leaves behind is not spoken of: it is rolled back.

Three judgements share this shape:

* `Does R x`: a returning `x` takes the store along `R`;
* `Ends R E x`: and what it raises instead is one of `E`; `Raises E x` is the part about the errors;
* `Completes x s`: from the store `s`, `x` does return. `completes_bind` takes a sequence apart. -/

namespace Tx

variable {σ ε α β : Type} {R S : σ → σ → Prop} {x y : Tx σ ε α} {f : α → Tx σ ε β} {s : σ}

/-- Whatever store it starts from, `x` raises or takes the store along `R`. -/
def Does (R : σ → σ → Prop) (x : Tx σ ε α) : Prop :=
  ∀ s, wp x (fun _ s' => R s s') (fun _ => True) s

namespace Does

theorem raise (e : ε) : Does R (Tx.raise e : Tx σ ε α) := by
  intro s
  rw [wp_raise]
  trivial

theorem mono (h : Does R x) (hRS : ∀ s s', R s s' → S s s') : Does S x :=
  fun s => wp_mono (h s) (fun _ s' hR => hRS s s' hR) (fun _ _ => trivial)

theorem ite {c : Prop} [Decidable c] (hx : Does R x) (hy : Does R y) :
    Does R (if c then x else y) := by
  split
  · exact hx
  · exact hy

/-- What has been returned, and where that leaves the store. -/
theorem of_ok (h : Does R x) {a : α} {s' : σ} (hx : exec x s = (.ok a, s')) : R s s' :=
  (wp_of_ok hx).mp (h s)

section
variable [Std.Refl R]

theorem pure (a : α) : Does R (pure a : Tx σ ε α) := by
  intro s
  rw [wp_pure]
  exact Std.Refl.refl s

theorem store : Does R (Tx.store : Tx σ ε σ) := by
  intro s
  rw [wp_store]
  exact Std.Refl.refl s

theorem orRaise (o : Option α) (e : ε) : Does R (Tx.orRaise o e : Tx σ ε α) := by
  cases o with
  | none => exact raise e
  | some a => exact pure a

/-- The store after settling. -/
theorem settle (h : Does R x) (s : σ) : R s (settle x s).2 :=
  settle_post (P := R s) (h s) (Std.Refl.refl s)

end

/-- **Sequencing**. -/
theorem bind [IsTrans σ R] (hx : Does R x) (hf : ∀ a, Does R (f a)) : Does R (x >>= f) := by
  intro s
  rw [wp_bind]
  apply wp_mono (hx s)
  · intro a s' hR
    exact wp_mono (hf a s') (fun _ s'' hR' => IsTrans.trans s s' s'' hR hR') (fun _ _ => trivial)
  · exact fun _ _ => trivial

end Does

/-! ## With an account of what is raised

The same closure rules, with the errors followed along. A rule that can raise asks that its error be one
of `E`, so the parameter is fixed where the judgement is first stated and then only passed on. -/

/-- Whatever store it starts from, `x` takes the store along `R`, or raises one of `E`. -/
def Ends (R : σ → σ → Prop) (E : ε → Prop) (x : Tx σ ε α) : Prop :=
  ∀ s, wp x (fun _ s' => R s s') E s

namespace Ends

variable {E : ε → Prop}

theorem raise {e : ε} (he : E e) : Ends R E (Tx.raise e : Tx σ ε α) := by
  intro s
  rwa [wp_raise]

theorem ite {c : Prop} [Decidable c] (hx : Ends R E x) (hy : Ends R E y) :
    Ends R E (if c then x else y) := by
  split
  · exact hx
  · exact hy

theorem map {g : α → β} (h : Ends R E x) : Ends R E (g <$> x) := by
  intro s
  rw [wp_map]
  exact h s

theorem pure [Std.Refl R] (a : α) : Ends R E (pure a : Tx σ ε α) := by
  intro s
  rw [wp_pure]
  exact Std.Refl.refl s

/-- **Sequencing**. -/
theorem bind [IsTrans σ R] (hx : Ends R E x) (hf : ∀ a, Ends R E (f a)) : Ends R E (x >>= f) := by
  intro s
  rw [wp_bind]
  apply wp_mono (hx s)
  · intro a s' hR
    exact wp_mono (hf a s') (fun _ s'' hR' => IsTrans.trans s s' s'' hR hR') (fun _ he => he)
  · exact fun _ he => he

theorem store [Std.Refl R] : Ends R E (Tx.store : Tx σ ε σ) := by
  intro s
  rw [wp_store]
  exact Std.Refl.refl s

theorem orRaise [Std.Refl R] (o : Option α) {e : ε} (he : E e) :
    Ends R E (Tx.orRaise o e : Tx σ ε α) := by
  cases o with
  | none => exact raise he
  | some a => exact pure a

end Ends

/-! ## What is raised, whatever is written

For handlers that write, but of which only the errors are asked: `R` is the relation that holds always. -/

def AnyChange (_ _ : σ) : Prop := True

instance : Std.Refl (AnyChange : σ → σ → Prop) := ⟨fun _ => trivial⟩

instance : IsTrans σ AnyChange := ⟨fun _ _ _ _ _ => trivial⟩

/-- Whatever `x` raises is one of `E`. -/
abbrev Raises (E : ε → Prop) (x : Tx σ ε α) : Prop := Ends AnyChange E x

theorem Raises.write {E : ε → Prop} (s' : σ) : Raises E (Tx.write s' : Tx σ ε Unit) := by
  intro s
  rw [wp_write]
  trivial

theorem Raises.error {E : ε → Prop} (h : Raises E x) {e : ε} {s' : σ}
    (hx : exec x s = (.error e, s')) : E e :=
  (wp_of_error hx).mp (h s)

/-! ## Whether it returns

Here the store matters, since whether a lookup finds its row depends on it. `completes_bind` is an
equivalence, so that a proof can be followed in both directions: to show that a handler returns, and to find
out why one did not. -/

/-- From `s`, `x` returns. -/
def Completes (x : Tx σ ε α) (s : σ) : Prop := ∃ a s', exec x s = (.ok a, s')

section
variable {s' : σ}

theorem completes_pure (a : α) (s : σ) : Completes (pure a : Tx σ ε α) s := ⟨a, s, rfl⟩

theorem not_completes_raise (e : ε) (s : σ) : ¬ Completes (Tx.raise e : Tx σ ε α) s := by
  rintro ⟨_, _, h⟩
  cases h

theorem completes_orRaise {o : Option α} {e : ε} : Completes (Tx.orRaise o e : Tx σ ε α) s ↔ o ≠ none := by
  cases o with
  | none => exact iff_of_false (not_completes_raise e s) (by simp)
  | some a => exact iff_of_true (completes_pure a s) (by simp)

/-- **Sequencing**. -/
theorem completes_bind : Completes (x >>= f) s ↔ ∃ a s', exec x s = (.ok a, s') ∧ Completes (f a) s' := by
  constructor
  · rintro ⟨b, s'', h⟩
    obtain ⟨a, s', hx, hf⟩ := bind_ok.mp h
    exact ⟨a, s', hx, b, s'', hf⟩
  · rintro ⟨a, s', hx, b, s'', hf⟩
    exact ⟨b, s'', bind_ok.mpr ⟨a, s', hx, hf⟩⟩

theorem completes_bind_of_ok {a : α} (h : exec x s = (.ok a, s')) :
    Completes (x >>= f) s ↔ Completes (f a) s' := by
  rw [completes_bind]
  constructor
  · rintro ⟨a', s'', hx, hf⟩
    rw [h] at hx
    cases hx
    exact hf
  · exact fun hf => ⟨a, s', h, hf⟩

theorem completes_store_bind {g : σ → Tx σ ε β} : Completes (Tx.store >>= g) s ↔ Completes (g s) s :=
  completes_bind_of_ok rfl

theorem Completes.of_bind (h : Completes (x >>= f) s) : Completes x s := by
  obtain ⟨a, s', hx, -⟩ := completes_bind.mp h
  exact ⟨a, s', hx⟩

theorem completes_bind_of_not (h : ¬ Completes x s) : ¬ Completes (x >>= f) s := fun hbind => h hbind.of_bind

end

end Tx
