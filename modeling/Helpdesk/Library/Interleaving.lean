import Helpdesk.Library.Run
import Mathlib.Logic.Function.Basic

/-! # Interleaved transactions

Transactions work on one shared state, each with a state of its own that no other one sees. An event
belongs to one of them, and acts on the shared state and on that transaction's own.

**`inv_of_act`**: an invariant of the shared state and one of each transaction hold after every run, if an
event keeps them for its own transaction and does not break the second one for the others. Which transaction
an event belongs to is part of the event, so the rule covers every order of their steps. -/

namespace Interleaving

structure System (ι σ τ : Type) where
  shared : σ
  own : ι → τ

variable {ι σ τ ε : Type} [DecidableEq ι] {act : ε → σ → τ → σ × τ}

def step (act : ε → σ → τ → σ × τ) (w : System ι σ τ) (e : ι × ε) : System ι σ τ where
  shared := (act e.2 w.shared (w.own e.1)).1
  own := Function.update w.own e.1 (act e.2 w.shared (w.own e.1)).2

theorem step_own (w : System ι σ τ) (e : ι × ε) (n : ι) :
    (step act w e).own n = if n = e.1 then (act e.2 w.shared (w.own e.1)).2 else w.own n := by
  show Function.update _ _ _ n = _
  rw [Function.update_apply]

/-! ## Invariants -/

/-- `I` of the shared state, and `T` of each transaction, after a run whose events all meet `G`. -/
theorem inv_of_act {I : σ → Prop} {T : σ → τ → Prop} {G : ε → σ → τ → Prop}
    (hact : ∀ e s t, G e s t → I s → T s t → I (act e s t).1 ∧ T (act e s t).1 (act e s t).2)
    (hother : ∀ e s t t', G e s t → I s → T s t → T s t' → T (act e s t).1 t')
    {w : System ι σ τ} {events : List (ι × ε)} (hI : I w.shared) (hT : ∀ n, T w.shared (w.own n))
    (hG : Run.AllSteps (step act) (fun w e => G e.2 w.shared (w.own e.1)) w events) :
    I (Run.run (step act) w events).shared ∧
      ∀ n, T (Run.run (step act) w events).shared ((Run.run (step act) w events).own n) := by
  refine Run.inv_of_preserved (I := fun w => I w.shared ∧ ∀ n, T w.shared (w.own n)) ?_ ⟨hI, hT⟩ hG
  rintro w ⟨n, e⟩ ⟨hI, hT⟩ hG
  obtain ⟨hI', hT'⟩ := hact e w.shared (w.own n) hG hI (hT n)
  refine ⟨hI', fun m => ?_⟩
  rw [step_own]
  split
  · exact hT'
  · exact hother e w.shared (w.own n) (w.own m) hG hI (hT n) (hT m)

end Interleaving
