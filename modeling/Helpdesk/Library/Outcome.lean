import Mathlib.Data.List.Basic

/-! # Computations that return or raise

Rules for `Except`: what is known of the parts of a computation that returned. A proof about a
checker peels the checks off one by one with `bind_eq_ok` instead of unfolding the monad.

A traversal stops at the first item that raises. `mapM_eq_ok` and `mapM_eq_error` say what that means for the
items: it has returned on all of them, or on all those before the one that raised. Loops that return nothing are
traversals (`forM_eq_mapM`), so their rules are the same ones. -/

namespace Outcome

variable {ε α β : Type}

@[simp] theorem pure_eq_ok (a b : α) : (pure a : Except ε α) = .ok b ↔ a = b := by
  simp [pure, Except.pure]

@[simp] theorem throw_ne_ok (e : ε) (b : α) : (throw e : Except ε α) ≠ .ok b := by
  simp [throw, throwThe, MonadExceptOf.throw]

/-- What has returned goes on with its value. -/
theorem ok_bind (a : α) (f : α → Except ε β) : (Except.ok a : Except ε α) >>= f = f a := rfl

/-- A sequence returns if and only if both parts do. -/
theorem bind_eq_ok {x : Except ε α} {f : α → Except ε β} {b : β} :
    x >>= f = .ok b ↔ ∃ a, x = .ok a ∧ f a = .ok b := by
  cases x with
  | error e => simp [bind, Except.bind]
  | ok a => simp [bind, Except.bind]

/-- A sequence raises what one of its parts raises. -/
theorem bind_eq_error {x : Except ε α} {f : α → Except ε β} {e : ε} :
    x >>= f = .error e ↔ x = .error e ∨ ∃ a, x = .ok a ∧ f a = .error e := by
  cases x with
  | error e' => simp [bind, Except.bind]
  | ok a => simp [bind, Except.bind]

@[simp] theorem pure_ne_error (a : α) (e : ε) : (pure a : Except ε α) ≠ .error e := by
  simp [pure, Except.pure]

/-! ## Traversals

The inductions are on the list: its head has returned, or the traversal is over. -/

/-- A traversal that returns has returned on each item, in order. -/
theorem mapM_eq_ok {f : α → Except ε β} {xs : List α} {ys : List β} :
    xs.mapM f = .ok ys ↔ List.Forall₂ (fun x y => f x = .ok y) xs ys := by
  induction xs generalizing ys with
  | nil =>
    constructor
    · intro h
      obtain rfl := (pure_eq_ok _ _).mp h
      exact .nil
    · intro h
      cases h
      rfl
  | cons x xs ih =>
    rw [List.mapM_cons, bind_eq_ok]
    constructor
    · rintro ⟨y, hy, h⟩
      obtain ⟨ys', hys, h⟩ := bind_eq_ok.mp h
      rw [pure_eq_ok] at h
      subst h
      exact .cons hy (ih.mp hys)
    · intro h
      cases h with
      | cons hy hys =>
        exact ⟨_, hy, bind_eq_ok.mpr ⟨_, ih.mpr hys, rfl⟩⟩

/-- A traversal of calls that return is a map. -/
theorem mapM_ok {f : α → Except ε β} {g : α → β} (h : ∀ x, f x = .ok (g x)) (xs : List α) :
    xs.mapM f = .ok (xs.map g) := by
  induction xs with
  | nil => rfl
  | cons x xs ih =>
    rw [List.mapM_cons, h, ih]
    rfl

theorem exists_of_mapM_eq_ok {f : α → Except ε β} {xs : List α} {ys : List β}
    (h : xs.mapM f = .ok ys) {x : α} (hx : x ∈ xs) : ∃ y ∈ ys, f x = .ok y := by
  have hall := mapM_eq_ok.mp h
  clear h
  induction hall with
  | nil => simp at hx
  | cons hy _ ih =>
    rcases List.mem_cons.mp hx with rfl | hx
    · exact ⟨_, List.mem_cons_self, hy⟩
    · obtain ⟨y, hy', h⟩ := ih hx
      exact ⟨y, List.mem_cons_of_mem _ hy', h⟩

theorem exists_item_of_mapM_eq_ok {f : α → Except ε β} {xs : List α} {ys : List β}
    (h : xs.mapM f = .ok ys) {y : β} (hy : y ∈ ys) : ∃ x ∈ xs, f x = .ok y := by
  have hall := mapM_eq_ok.mp h
  clear h
  induction hall with
  | nil => simp at hy
  | cons hx _ ih =>
    rcases List.mem_cons.mp hy with rfl | hy
    · exact ⟨_, List.mem_cons_self, hx⟩
    · obtain ⟨x, hx', h⟩ := ih hy
      exact ⟨x, List.mem_cons_of_mem _ hx', h⟩

/-- A traversal raises what it raises on the first item that it does not get past. -/
theorem mapM_eq_error {f : α → Except ε β} {xs : List α} {e : ε} :
    xs.mapM f = .error e ↔
      ∃ pre x post, xs = pre ++ x :: post ∧ (∀ y ∈ pre, ∃ b, f y = .ok b) ∧ f x = .error e := by
  induction xs with
  | nil =>
    constructor
    · intro h
      cases h
    · rintro ⟨pre, x, post, h, -⟩
      simp at h
  | cons x xs ih =>
    rw [List.mapM_cons]
    cases hx : f x with
    | error e' =>
      constructor
      · intro h
        obtain rfl : e' = e := Except.error.inj h
        exact ⟨[], x, xs, rfl, by simp, hx⟩
      · rintro ⟨pre, y, post, h, hpre, hy⟩
        cases pre with
        | nil =>
          obtain ⟨rfl, -⟩ := List.cons.inj h
          rw [← hx, hy]
          rfl
        | cons z pre =>
          obtain ⟨rfl, -⟩ := List.cons.inj h
          obtain ⟨b, hb⟩ := hpre x List.mem_cons_self
          rw [hx] at hb
          cases hb
    | ok b =>
      have hrest : (Except.ok b >>= fun b => xs.mapM f >>= fun bs => pure (b :: bs)) = .error e ↔
          xs.mapM f = .error e := by
        show (xs.mapM f >>= fun bs => pure (b :: bs)) = .error e ↔ _
        cases xs.mapM f with
        | error e' => exact Iff.rfl
        | ok bs => exact iff_of_false (fun h => by cases h) fun h => by cases h
      rw [hrest, ih]
      constructor
      · rintro ⟨pre, y, post, rfl, hpre, hy⟩
        refine ⟨x :: pre, y, post, rfl, fun z hz => ?_, hy⟩
        rcases List.mem_cons.mp hz with rfl | hz
        · exact ⟨b, hx⟩
        · exact hpre z hz
      · rintro ⟨pre, y, post, h, hpre, hy⟩
        cases pre with
        | nil =>
          obtain ⟨rfl, -⟩ := List.cons.inj h
          rw [hx] at hy
          cases hy
        | cons z pre =>
          obtain ⟨rfl, rfl⟩ := List.cons.inj h
          exact ⟨pre, y, post, rfl, fun w hw => hpre w (List.mem_cons_of_mem _ hw), hy⟩

/-- A traversal returns if it returns on each item. -/
theorem exists_mapM_eq_ok {f : α → Except ε β} {xs : List α} (h : ∀ x ∈ xs, ∃ y, f x = .ok y) :
    ∃ ys, xs.mapM f = .ok ys := by
  cases hmap : xs.mapM f with
  | ok ys => exact ⟨ys, rfl⟩
  | error e =>
    obtain ⟨pre, x, post, rfl, -, hx⟩ := mapM_eq_error.mp hmap
    obtain ⟨y, hy⟩ := h x (by simp)
    rw [hx] at hy
    cases hy

/-- A loop over the items is a traversal. -/
theorem forM_eq_mapM (f : α → Except ε Unit) (xs : List α) :
    forM xs f = (xs.mapM f >>= fun _ => pure ()) := by
  induction xs with
  | nil => rfl
  | cons x xs ih =>
    rw [List.forM_cons, List.mapM_cons, ih]
    cases f x with
    | error e => rfl
    | ok u => cases xs.mapM f <;> rfl

theorem forM_eq_ok {f : α → Except ε Unit} {xs : List α} :
    forM xs f = .ok () ↔ ∀ x ∈ xs, f x = .ok () := by
  induction xs with
  | nil => simp [pure, Except.pure]
  | cons x xs ih =>
    rw [List.forM_cons, bind_eq_ok, List.forall_mem_cons]
    constructor
    · rintro ⟨_, hx, h⟩
      exact ⟨hx, ih.mp h⟩
    · rintro ⟨hx, h⟩
      exact ⟨_, hx, ih.mpr h⟩

theorem forM_eq_error {f : α → Except ε Unit} {xs : List α} {e : ε} :
    forM xs f = .error e ↔
      ∃ pre x post, xs = pre ++ x :: post ∧ (∀ y ∈ pre, f y = .ok ()) ∧ f x = .error e := by
  have hmapM : forM xs f = .error e ↔ xs.mapM f = .error e := by
    rw [forM_eq_mapM, bind_eq_error]
    simp
  have hunit : ∀ y, (∃ b, f y = .ok b) ↔ f y = .ok () := fun y => ⟨fun ⟨_, h⟩ => h, fun h => ⟨_, h⟩⟩
  rw [hmapM, mapM_eq_error]
  simp only [hunit]

end Outcome
