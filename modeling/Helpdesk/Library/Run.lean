import Mathlib.Data.List.Induction

/-! # Runs of a transition function

A sequential system is a step function `σ → α → σ`; a *run* folds it over a list of inputs. Two
things are said about runs throughout:

* `AllSteps step P s xs`: every step of the run satisfies `P`, a predicate on the state *before*
  the step and the input of the step;
* **`inv_of_preserved`** and **`allSteps_of_inv`**: an invariant kept by each step that meets a
  side condition `G` holds at the end, and in front of every step, of each run whose steps all
  meet `G`.
-/

namespace Run

variable {σ α : Type}

/-- The state after the inputs `xs`, from `s`. -/
def run (step : σ → α → σ) (s : σ) (xs : List α) : σ := xs.foldl step s

/-- Every step of the run from `s` over `xs` satisfies `P`. -/
def AllSteps (step : σ → α → σ) (P : σ → α → Prop) : σ → List α → Prop
  | _, [] => True
  | s, x :: xs => P s x ∧ AllSteps step P (step s x) xs

instance decidableAllSteps (step : σ → α → σ) (P : σ → α → Prop) [∀ s x, Decidable (P s x)] :
    (s : σ) → (xs : List α) → Decidable (AllSteps step P s xs)
  | _, [] => .isTrue trivial
  | s, x :: xs =>
    have := decidableAllSteps step P (step s x) xs
    inferInstanceAs (Decidable (P s x ∧ AllSteps step P (step s x) xs))

variable {step : σ → α → σ} {P Q G : σ → α → Prop} {I : σ → Prop}

@[simp] theorem run_nil (s : σ) : run step s [] = s := rfl

@[simp] theorem run_cons (s : σ) (x : α) (xs : List α) :
    run step s (x :: xs) = run step (step s x) xs := rfl

theorem run_append (s : σ) (xs ys : List α) :
    run step s (xs ++ ys) = run step (run step s xs) ys := by
  simp [run]

@[simp] theorem allSteps_nil (s : σ) : AllSteps step P s [] := trivial

@[simp] theorem allSteps_cons {s : σ} {x : α} {xs : List α} :
    AllSteps step P s (x :: xs) ↔ P s x ∧ AllSteps step P (step s x) xs := Iff.rfl

theorem allSteps_append {s : σ} {xs ys : List α} :
    AllSteps step P s (xs ++ ys) ↔ AllSteps step P s xs ∧ AllSteps step P (run step s xs) ys := by
  induction xs generalizing s with
  | nil => simp
  | cons x xs ih => simp [ih, and_assoc]

/-- `AllSteps` as a statement about every position of the run. -/
theorem allSteps_iff {s : σ} {xs : List α} :
    AllSteps step P s xs ↔ ∀ pre x post, xs = pre ++ x :: post → P (run step s pre) x := by
  constructor
  · rintro h pre x post rfl
    exact (allSteps_append.mp h).2.1
  · intro h
    induction xs generalizing s with
    | nil => trivial
    | cons x xs ih =>
      refine ⟨h [] x xs rfl, ih fun pre y post hxs => ?_⟩
      exact h (x :: pre) y post (by rw [hxs, List.cons_append])

theorem AllSteps.mono {s : σ} {xs : List α} (hPQ : ∀ s x, P s x → Q s x)
    (h : AllSteps step P s xs) : AllSteps step Q s xs := by
  induction xs generalizing s with
  | nil => trivial
  | cons x xs ih => exact ⟨hPQ s x h.1, ih h.2⟩

theorem AllSteps.and {s : σ} {xs : List α} (hP : AllSteps step P s xs)
    (hQ : AllSteps step Q s xs) : AllSteps step (fun s x => P s x ∧ Q s x) s xs := by
  induction xs generalizing s with
  | nil => trivial
  | cons x xs ih => exact ⟨⟨hP.1, hQ.1⟩, ih hP.2 hQ.2⟩

/-! ## The invariant rules

An induction over a run is made here once. A user gives what each step keeps; the side condition `G` is
what the run is promised about its steps, and it is checked in front of each step. -/

/-- **Run rule**: what every step satisfying `G` preserves, a run of such steps preserves. -/
theorem inv_of_preserved (hstep : ∀ s x, I s → G s x → I (step s x)) {s : σ} {xs : List α}
    (hI : I s) (hG : AllSteps step G s xs) : I (run step s xs) := by
  induction xs generalizing s with
  | nil => exact hI
  | cons x xs ih => exact ih (hstep s x hI hG.1) hG.2

/-- The invariant also holds in front of every step, together with that step's side condition. -/
theorem allSteps_of_inv (hstep : ∀ s x, I s → G s x → I (step s x)) {s : σ} {xs : List α}
    (hI : I s) (hG : AllSteps step G s xs) : AllSteps step (fun s x => I s ∧ G s x) s xs := by
  induction xs generalizing s with
  | nil => trivial
  | cons x xs ih => exact ⟨⟨hI, hG.1⟩, ih (hstep s x hI hG.1) hG.2⟩

/-- Two predicates that agree under an invariant hold along the same runs. -/
theorem allSteps_iff_of_inv (hiff : ∀ s x, I s → (P s x ↔ Q s x)) (hstep : ∀ s x, I s → Q s x → I (step s x))
    {s : σ} {xs : List α} (hI : I s) : AllSteps step P s xs ↔ AllSteps step Q s xs := by
  induction xs generalizing s with
  | nil => exact Iff.rfl
  | cons x xs ih =>
    rw [allSteps_cons, allSteps_cons, hiff s x hI]
    exact and_congr_right fun hQ => ih (hstep s x hI hQ)

/-- Every step of a run satisfies a predicate that holds of all states and inputs. -/
theorem allSteps_of_forall (h : ∀ s x, P s x) (s : σ) (xs : List α) : AllSteps step P s xs := by
  induction xs generalizing s with
  | nil => trivial
  | cons x xs ih => exact ⟨h s x, ih _⟩

/-- Every input of a run is one of the run. -/
theorem allSteps_mem (s : σ) (xs : List α) : AllSteps step (fun _ x => x ∈ xs) s xs :=
  allSteps_iff.mpr fun pre x post heq => by
    rw [heq]
    exact List.mem_append_right _ List.mem_cons_self

/-- The run rule without a side condition. -/
theorem inv_of_always (hstep : ∀ s x, I s → I (step s x)) {s : σ} (hI : I s) (xs : List α) :
    I (run step s xs) :=
  inv_of_preserved (G := fun _ _ => True) (fun s x h _ => hstep s x h) hI
    (allSteps_of_forall (fun _ _ => trivial) s xs)

/-- Once `J` holds it holds to the end, of every run whose steps all meet `G`. -/
theorem inv_from {J : σ → Prop} (hstep : ∀ s x, J s → G s x → J (step s x)) {s : σ}
    {pre post : List α} (hG : AllSteps step G s (pre ++ post)) (hJ : J (run step s pre)) :
    J (run step s (pre ++ post)) := by
  rw [run_append]
  exact inv_of_preserved hstep hJ (allSteps_append.mp hG).2

/-- The run rule for an invariant that speaks of the inputs there have been. -/
theorem inv_of_history {I : List α → σ → Prop} {s : σ} (hnil : I [] s)
    (hstep : ∀ past x, I past (run step s past) → I (past ++ [x]) (step (run step s past) x))
    (xs : List α) : I xs (run step s xs) := by
  induction xs using List.reverseRecOn with
  | nil => exact hnil
  | append_singleton xs x ih =>
    rw [run_append]
    exact hstep xs x ih

/-! ## The last step of a kind

Some properties hold because of the last time that something was done. `exists_lastStep` finds this step,
and says what has held since. -/

/-- The step `x` after `pre` is a `P`, and the last one of the run. -/
def LastStep (step : σ → α → σ) (P : σ → α → Prop) (s : σ) (xs pre : List α) (x : α) : Prop :=
  ∃ post, xs = pre ++ x :: post ∧ P (run step s pre) x ∧
    AllSteps step (fun s x => ¬ P s x) (run step s (pre ++ [x])) post

theorem lastStep_concat {s : σ} {xs : List α} {x : α} (h : P (run step s xs) x) :
    LastStep step P s (xs ++ [x]) xs x :=
  ⟨[], rfl, h, trivial⟩

theorem LastStep.concat {s : σ} {xs pre : List α} {x y : α} (h : LastStep step P s xs pre x)
    (hy : ¬ P (run step s xs) y) : LastStep step P s (xs ++ [y]) pre x := by
  obtain ⟨post, rfl, hx, hpost⟩ := h
  refine ⟨post ++ [y], by simp, hx, allSteps_append.mpr ⟨hpost, ?_, trivial⟩⟩
  show ¬ P (run step (run step s (pre ++ [x])) post) y
  rwa [← run_append, List.append_assoc, List.singleton_append]

/-- **Since the last `P`**: what holds between the state before a `P` and the state after it, and is
    kept by all other steps, holds between the state before the last `P` and the state reached. `H`
    says that there has been a `P`. -/
theorem exists_lastStep {H : σ → Prop} {F : σ → σ → Prop} {s : σ} {xs : List α} (hs : ¬ H s)
    (hset : ∀ s x, G s x → P s x → H (step s x) → F s (step s x))
    (hkeep : ∀ s x, G s x → ¬ P s x → H (step s x) → H s ∧ ∀ s₀, F s₀ s → F s₀ (step s x))
    (hG : AllSteps step G s xs) (hH : H (run step s xs)) :
    ∃ pre x, LastStep step P s xs pre x ∧ F (run step s pre) (run step s xs) := by
  induction xs using List.reverseRecOn with
  | nil => exact absurd hH hs
  | append_singleton xs y ih =>
    obtain ⟨hGxs, hGy, -⟩ := allSteps_append.mp hG
    rw [run_append, run_cons, run_nil] at hH ⊢
    by_cases hy : P (run step s xs) y
    · exact ⟨xs, y, lastStep_concat hy, hset _ y hGy hy hH⟩
    · obtain ⟨hH', hF⟩ := hkeep _ y hGy hy hH
      obtain ⟨pre, x, hlast, hx⟩ := ih hGxs hH'
      exact ⟨pre, x, hlast.concat hy, hF _ hx⟩

/-! ## Things that happen at most once

The first `P` leaves something behind (`J`) that lasts and that a second `P` would contradict. -/

/-- No two steps of the run are both a `P`. -/
def AtMostOnce (step : σ → α → σ) (P : σ → α → Prop) (s : σ) (xs : List α) : Prop :=
  ∀ pre x mid y post, xs = pre ++ x :: (mid ++ y :: post) →
    P (run step s pre) x → ¬ P (run step s (pre ++ x :: mid)) y

/-- **Once**: a `P` leaves behind something that lasts and that excludes a `P`. -/
theorem atMostOnce_of {J : σ → Prop} (hdone : ∀ s x, P s x → G s x → J (step s x))
    (hkeep : ∀ s x, J s → G s x → J (step s x)) (hexcl : ∀ s x, J s → ¬ P s x) {s : σ}
    {xs : List α} (hG : AllSteps step G s xs) : AtMostOnce step P s xs := by
  rintro pre x mid y post rfl hx hy
  have hGx := (allSteps_append.mp hG).2
  have hJ : J (run step (step (run step s pre) x) mid) :=
    inv_of_preserved hkeep (hdone _ x hx hGx.1) (allSteps_append.mp hGx.2).1
  refine hexcl _ y ?_ hy
  rw [run_append, run_cons]
  exact hJ

end Run
