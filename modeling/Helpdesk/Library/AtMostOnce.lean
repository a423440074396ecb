import Mathlib.Data.List.Count
import Mathlib.Logic.Function.Basic
import Helpdesk.Library.Run

/-! # Check, then act

Attempts to do something for a key, each of which checks first whether it has been done. An attempt
that passes the check is *pending* until it acts or is dropped; what has been done is kept in a log.
Check and act are two steps, so another attempt may come in between.

An attempt is `Unclaimed` when it passes the check if nothing has been done for its key and no other
attempt for the key is pending.

* `once_start`, `once_drop` and `once_act` say what each of the three actions keeps, and `once_step` puts
  them together: starts have to be `Guarded`, the other two are free.
* **`once_run`** is the result: where all attempts start unclaimed, each key is done at most once. It is
  stated for a system of its own, of whose states `abs` is a view, so that a user proves nothing but that
  each of its steps is one of the actions, or none. -/

namespace AtMostOnce

variable {ρ κ : Type} [DecidableEq ρ] [DecidableEq κ]

structure State (ρ κ : Type) where
  /-- the key of a pending attempt -/
  pending : ρ → Option κ
  done : List κ

inductive Action (ρ κ : Type) where
  /-- the attempt passes the check -/
  | start (r : ρ) (k : κ)
  | act (r : ρ)
  | drop (r : ρ)
  /-- nothing that concerns an attempt -/
  | skip

def Action.step (s : State ρ κ) : Action ρ κ → State ρ κ
  | .start r k => { s with pending := Function.update s.pending r (some k) }
  | .act r =>
    match s.pending r with
    | some k => ⟨Function.update s.pending r none, k :: s.done⟩
    | none => s
  | .drop r => { s with pending := Function.update s.pending r none }
  | .skip => s

/-- Nothing is done for `k`, and nothing is about to be. -/
def Unclaimed (s : State ρ κ) (k : κ) : Prop := k ∉ s.done ∧ ∀ r, s.pending r ≠ some k

/-- Each key is done at most once, and by at most one attempt. -/
structure Once (s : State ρ κ) : Prop where
  done_once : ∀ k, s.done.countP (fun k' => k' = k) ≤ 1
  not_done : ∀ r k, s.pending r = some k → k ∉ s.done
  unique : ∀ r r' k, s.pending r = some k → s.pending r' = some k → r = r'

variable {s : State ρ κ} {r : ρ} {k : κ}

theorem once_start (h : Once s) (hk : Unclaimed s k) : Once ((Action.start r k).step s) where
  done_once := h.done_once
  not_done := by
    intro r' k' hr'
    by_cases heq : r' = r
    · subst heq
      obtain rfl : k = k' := by simpa [Action.step] using hr'
      exact hk.1
    · exact h.not_done r' k' (by simpa [Action.step, heq] using hr')
  unique := by
    intro r₁ r₂ k' h₁ h₂
    by_cases heq₁ : r₁ = r
    · by_cases heq₂ : r₂ = r
      · rw [heq₁, heq₂]
      · -- the other attempt was pending before
        obtain rfl : k = k' := by simpa [Action.step, heq₁] using h₁
        exact absurd (by simpa [Action.step, heq₂] using h₂) (hk.2 r₂)
    · by_cases heq₂ : r₂ = r
      · obtain rfl : k = k' := by simpa [Action.step, heq₂] using h₂
        exact absurd (by simpa [Action.step, heq₁] using h₁) (hk.2 r₁)
      · exact h.unique r₁ r₂ k' (by simpa [Action.step, heq₁] using h₁)
          (by simpa [Action.step, heq₂] using h₂)

omit [DecidableEq κ] in
/-- What is pending after an attempt is gone was pending before. -/
theorem pending_of_update {r' : ρ} (h : Function.update s.pending r none r' = some k) :
    r' ≠ r ∧ s.pending r' = some k := by
  by_cases heq : r' = r
  · simp [heq] at h
  · exact ⟨heq, by simpa [heq] using h⟩

theorem once_drop (h : Once s) : Once ((Action.drop r).step s) where
  done_once := h.done_once
  not_done := fun r' k hr' => h.not_done r' k (pending_of_update hr').2
  unique := fun r₁ r₂ k h₁ h₂ =>
    h.unique r₁ r₂ k (pending_of_update h₁).2 (pending_of_update h₂).2

theorem once_act (h : Once s) : Once ((Action.act r).step s) := by
  cases hr : s.pending r with
  | none =>
    rw [Action.step, hr]
    exact h
  | some k =>
    rw [Action.step, hr]
    have hfresh := h.not_done r k hr
    constructor
    · intro k'
      by_cases heq : k' = k
      · subst heq
        have hzero : s.done.countP (fun k'' => k'' = k') = 0 := by
          rw [List.countP_eq_zero]
          intro k'' hmem heq
          exact hfresh (of_decide_eq_true heq ▸ hmem)
        simp [hzero]
      · simpa [List.countP_cons, Ne.symm heq] using h.done_once k'
    · intro r' k' hr'
      obtain ⟨hne, hold⟩ := pending_of_update hr'
      -- another attempt for `k` would have been the same attempt
      have hk : k' ≠ k := fun heq => hne (h.unique r' r k (heq ▸ hold) hr)
      simp [hk, h.not_done r' k' hold]
    · intro r₁ r₂ k' h₁ h₂
      exact h.unique r₁ r₂ k' (pending_of_update h₁).2 (pending_of_update h₂).2

/-- An attempt starts unclaimed. -/
def Guarded (s : State ρ κ) : Action ρ κ → Prop
  | .start _ k => Unclaimed s k
  | .act _ | .drop _ | .skip => True

theorem once_step (a : Action ρ κ) (h : Once s) (ha : Guarded s a) : Once (a.step s) := by
  cases a with
  | start r k => exact once_start h ha
  | act r => exact once_act h
  | drop r => exact once_drop h
  | skip => exact h

/-- **At most once**, for a system whose steps are actions on what is pending and done (`abs`). -/
theorem once_run {σ α : Type} {step : σ → α → σ} {abs : σ → State ρ κ} {G : σ → α → Prop}
    (hsim : ∀ w e, G w e → ∃ a : Action ρ κ, Guarded (abs w) a ∧ abs (step w e) = a.step (abs w))
    {w : σ} {es : List α} (hstart : Once (abs w)) (hG : Run.AllSteps step G w es) :
    Once (abs (Run.run step w es)) := by
  apply Run.inv_of_preserved (I := fun w => Once (abs w)) _ hstart hG
  intro w e hw he
  obtain ⟨a, ha, heq⟩ := hsim w e he
  rw [heq]
  exact once_step a hw ha

end AtMostOnce
