import Mathlib.Data.Int.Interval
import Mathlib.Order.Interval.Finset.Basic
import Mathlib.Data.Finset.Card
import Mathlib.Order.Bounds.Basic
import Mathlib.Tactic.Linarith

/-! # A clock that runs only part of the time

A timeline of discrete instants, and a predicate `p` that says at which of them a clock runs.
`elapsed p a b` is how long it has run between two instants, and `IsDue p a h t` says that `t` is
the first instant at which it has run for `h` since `a`.

`drain` spends a budget on a list of intervals, in the order in which they are listed.

* `le_elapsed_of_drain`: the instant it arrives at is never early.
* **`isDue_drain_iff`**: it arrives at the due instant exactly if the list is `Clean`, that is, no
  interval it comes to is listed after the clock has already run past its start.

The two come from one induction, `slack_drain`, which keeps account of the running time that an interval in the
wrong place leaves unused. -/

namespace Timeline

variable {p : ℤ → Prop} [DecidablePred p] {a b c t h r : ℤ}

/-- How long the clock runs in `[a, b)`. -/
def elapsed (p : ℤ → Prop) [DecidablePred p] (a b : ℤ) : ℤ :=
  -- of the ways that lead to the order of the integers, one that computes
  letI : Preorder ℤ := Int.instLinearOrder.toPreorder
  ((Finset.Ico a b).filter p).card

/-- `t` is the first instant at or after `a` at which the clock has run for `h`. -/
def IsDue (p : ℤ → Prop) [DecidablePred p] (a h t : ℤ) : Prop :=
  IsLeast {t | a ≤ t ∧ elapsed p a t = h} t

/-! ## Elapsed time

How long the clock runs is the number of instants at which it does, so these are facts about counting: it is
additive over adjacent stretches and monotone in the end. -/

theorem elapsed_nonneg (a b : ℤ) : 0 ≤ elapsed p a b := by
  simp [elapsed]

theorem elapsed_self (a : ℤ) : elapsed p a a = 0 := by
  simp [elapsed]

theorem elapsed_add (hab : a ≤ b) (hbc : b ≤ c) : elapsed p a b + elapsed p b c = elapsed p a c := by
  unfold elapsed
  rw [← Finset.Ico_union_Ico_eq_Ico hab hbc, Finset.filter_union, Finset.card_union_of_disjoint]
  · push_cast
    rfl
  · exact Finset.disjoint_filter_filter (Finset.Ico_disjoint_Ico_consecutive a b c)

theorem elapsed_mono (hab : a ≤ b) (hbc : b ≤ c) : elapsed p a b ≤ elapsed p a c := by
  have h1 := elapsed_add (p := p) hab hbc
  have h2 := elapsed_nonneg (p := p) b c
  linarith

theorem elapsed_eq_zero_iff : elapsed p a b = 0 ↔ ∀ x, a ≤ x → x < b → ¬ p x := by
  unfold elapsed
  rw [Int.natCast_eq_zero, Finset.card_eq_zero, Finset.filter_eq_empty_iff]
  constructor
  · intro h x hax hxb
    exact h (Finset.mem_Ico.mpr ⟨hax, hxb⟩)
  · intro h x hx
    obtain ⟨hax, hxb⟩ := Finset.mem_Ico.mp hx
    exact h x hax hxb

/-- Where the clock runs all the time, it counts the instants. -/
theorem elapsed_of_running (hab : a ≤ b) (hp : ∀ x, a ≤ x → x < b → p x) :
    elapsed p a b = b - a := by
  unfold elapsed
  rw [Finset.filter_true_of_mem, Int.card_Ico, Int.toNat_of_nonneg (by omega)]
  intro x hx
  obtain ⟨hax, hxb⟩ := Finset.mem_Ico.mp hx
  exact hp x hax hxb

/-- The clock has run for `h` at `t`, and was running just before: no earlier instant will do. -/
theorem isDue_of_running (hab : a ≤ b) (hbt : b < t) (hp : ∀ x, b ≤ x → x < t → p x)
    (ht : elapsed p a t = h) : IsDue p a h t := by
  refine ⟨⟨by omega, ht⟩, ?_⟩
  rintro t' ⟨hat', ht'⟩
  by_contra hlt
  have hle : t' ≤ t - 1 := by omega
  have hlast : elapsed p (t - 1) t = 1 := by
    rw [elapsed_of_running (by omega) fun x h1 h2 => hp x (by omega) h2]
    omega
  have h1 := elapsed_mono (p := p) hat' hle
  have h2 := elapsed_add (p := p) (show a ≤ t - 1 by omega) (show t - 1 ≤ t by omega)
  omega

/-! ## Draining a list of intervals

The cursor `c` only goes forward. An interval that ends before it is passed over, one that begins before it is
cut, and the budget is spent on what is left. An interval may therefore come too late in the list: then the part
of it behind the cursor is lost, and the clock has run while nothing was spent. -/

/-- Spend the budget `r` on the intervals `[s, e)` of the list, from the cursor `c` on: an interval
    that ends before the cursor is skipped, one that has enough room left is the last one, and any
    other moves the cursor to its end. -/
def drain : List (ℤ × ℤ) → ℤ → ℤ → Option ℤ
  | [], _, _ => none
  | (s, e) :: ws, c, r =>
    if e ≤ c then drain ws c r
    else if r ≤ e - max c s then some (max c s + r)
    else drain ws e (r - (e - max c s))

/-- The cursor once all of `ws` have been passed. -/
def passed (c : ℤ) (ws : List (ℤ × ℤ)) : ℤ := ws.foldl (fun c w => max c w.2) c

/-- The list is in order as far as the first `h` of running time need it: an interval that is
    reached (it ends after the cursor `c`, and there is still time to spend) is not upside down, and
    the clock does not run between the cursor and its start. -/
def Clean (p : ℤ → Prop) [DecidablePred p] (a h : ℤ) : ℤ → List (ℤ × ℤ) → Prop
  | _, [] => True
  | c, (s, e) :: ws =>
    (c < e → elapsed p a c < h → s ≤ e ∧ ∀ x, c ≤ x → x < s → ¬ p x) ∧ Clean p a h (max c e) ws

@[simp] theorem passed_nil (c : ℤ) : passed c [] = c := rfl

@[simp] theorem passed_cons (c : ℤ) (w : ℤ × ℤ) (ws : List (ℤ × ℤ)) :
    passed c (w :: ws) = passed (max c w.2) ws := rfl

theorem le_passed (c : ℤ) (ws : List (ℤ × ℤ)) : c ≤ passed c ws := by
  induction ws generalizing c with
  | nil => exact le_rfl
  | cons w ws ih => exact (le_max_left c w.2).trans (ih _)

theorem le_passed_of_mem {w : ℤ × ℤ} {ws : List (ℤ × ℤ)} (hw : w ∈ ws) (c : ℤ) :
    w.2 ≤ passed c ws := by
  induction ws generalizing c with
  | nil => simp at hw
  | cons v ws ih =>
    rcases List.mem_cons.mp hw with rfl | hw
    · exact (le_max_right c w.2).trans (le_passed _ ws)
    · exact ih hw _

/-- What lies before all the ends and before `m` is passed by `m`. -/
theorem passed_le {ws : List (ℤ × ℤ)} {m : ℤ} (hc : c ≤ m) (hws : ∀ w ∈ ws, w.2 ≤ m) :
    passed c ws ≤ m := by
  induction ws generalizing c with
  | nil => exact hc
  | cons w ws ih =>
    exact ih (max_le hc (hws w List.mem_cons_self)) fun v hv => hws v (List.mem_cons_of_mem _ hv)

theorem clean_append {ws ws' : List (ℤ × ℤ)} :
    Clean p a h c (ws ++ ws') ↔ Clean p a h c ws ∧ Clean p a h (passed c ws) ws' := by
  induction ws generalizing c with
  | nil => simp [Clean]
  | cons w ws ih => simp [Clean, ih, and_assoc]

/-- `Clean` as a statement about every position of the list. -/
theorem clean_iff {ws : List (ℤ × ℤ)} :
    Clean p a h c ws ↔ ∀ pre w post, ws = pre ++ w :: post → passed c pre < w.2 →
      elapsed p a (passed c pre) < h →
      w.1 ≤ w.2 ∧ ∀ x, passed c pre ≤ x → x < w.1 → ¬ p x := by
  constructor
  · rintro hcl pre w post rfl
    exact (clean_append.mp hcl).2.1
  · intro hall
    induction ws generalizing c with
    | nil => trivial
    | cons w ws ih =>
      refine ⟨hall [] w ws rfl, ih fun pre v post hws => ?_⟩
      exact hall (w :: pre) v post (by rw [hws, List.cons_append])

/-- Once the budget is spent, the rest of the list does not matter. -/
theorem clean_of_spent (hac : a ≤ c) (hspent : h ≤ elapsed p a c) (ws : List (ℤ × ℤ)) :
    Clean p a h c ws := by
  induction ws generalizing c with
  | nil => trivial
  | cons w ws ih =>
    refine ⟨fun _ hlt => absurd hlt (not_lt.mpr hspent), ih ?_ ?_⟩
    · exact hac.trans (le_max_left _ _)
    · exact hspent.trans (elapsed_mono hac (le_max_left _ _))

/-- `drain` never goes beyond the ends of the list. -/
theorem drain_le {ws : List (ℤ × ℤ)} (hd : drain ws c r = some t) : t ≤ passed c ws := by
  induction ws generalizing c r with
  | nil => simp [drain] at hd
  | cons w ws ih =>
    obtain ⟨s, e⟩ := w
    rw [drain] at hd
    rw [passed_cons]
    split at hd
    next hec =>
      rw [max_eq_left hec]
      exact ih hd
    next hec =>
      have hle := le_passed (max c e) ws
      split at hd
      · have := Option.some.inj hd
        dsimp only
        omega
      · have := ih hd
        rwa [max_eq_right (not_le.mp hec).le]

/-- **Slack lemma**: with at least `h` run or left to spend at the cursor, `drain` arrives after the
    cursor and with at least `h` run; with more than `h`, with more than `h` run. -/
theorem slack_drain {ws : List (ℤ × ℤ)} (hws : ∀ w ∈ ws, ∀ x, w.1 ≤ x → x < w.2 → p x)
    (hac : a ≤ c) (hr : 0 < r) (hd : drain ws c r = some t) :
    c < t ∧ elapsed p a c + r ≤ elapsed p a t := by
  induction ws generalizing c r with
  | nil => simp [drain] at hd
  | cons w ws ih =>
    obtain ⟨s, e⟩ := w
    have hrun : ∀ x, s ≤ x → x < e → p x := hws (s, e) List.mem_cons_self
    have htail : ∀ w ∈ ws, ∀ x, w.1 ≤ x → x < w.2 → p x :=
      fun w hw => hws w (List.mem_cons_of_mem _ hw)
    rw [drain] at hd
    split at hd
    · exact ih htail hac hr hd
    next hce =>
      have hstart : elapsed p a c ≤ elapsed p a (max c s) := elapsed_mono hac (le_max_left _ _)
      split at hd
      next hroom =>
        -- the last interval: the rest of the budget is all running time
        obtain rfl := Option.some.inj hd
        have hfull : elapsed p (max c s) (max c s + r) = r := by
          rw [elapsed_of_running (by omega) fun x h1 h2 => hrun x (by omega) (by omega)]
          omega
        have hsum := elapsed_add (p := p) (show a ≤ max c s by omega)
          (show max c s ≤ max c s + r by omega)
        omega
      next hroom =>
        -- the cursor moves to the end `e`, over at least the room that is subtracted
        have hroomLe : elapsed p a (max c s) + (e - max c s) ≤ elapsed p a e ∨ e < max c s := by
          rcases le_or_gt (max c s) e with hle | hlt
          · left
            have hfull : elapsed p (max c s) e = e - max c s :=
              elapsed_of_running hle fun x h1 h2 => hrun x (by omega) h2
            have hsum := elapsed_add (p := p) (show a ≤ max c s by omega) hle
            omega
          · exact .inr hlt
        have hce' : elapsed p a c ≤ elapsed p a e := elapsed_mono hac (by omega)
        obtain ⟨h1, h2⟩ := ih htail (by omega) (by omega) hd
        omega

/-- The instant `drain` arrives at is never early. -/
theorem le_elapsed_of_drain {ws : List (ℤ × ℤ)} (hws : ∀ w ∈ ws, ∀ x, w.1 ≤ x → x < w.2 → p x)
    (hr : 0 < r) (hd : drain ws a r = some t) : r ≤ elapsed p a t := by
  have hslack := (slack_drain hws le_rfl hr hd).2
  rwa [elapsed_self, zero_add] at hslack

/-- An interval that is reached costs exactly the running time it contains if and only if it is
    clean. -/
theorem elapsed_end_eq_iff {s e : ℤ} (hrun : ∀ x, s ≤ x → x < e → p x) (hac : a ≤ c) (hce : c < e) :
    elapsed p a c + (e - max c s) = elapsed p a e ↔ s ≤ e ∧ ∀ x, c ≤ x → x < s → ¬ p x := by
  rcases le_or_gt s e with hse | hse
  · have hfull : elapsed p (max c s) e = e - max c s :=
      elapsed_of_running (by omega) fun x h1 h2 => hrun x (by omega) h2
    have h1 := elapsed_add (p := p) hac (le_max_left c s)
    have h2 := elapsed_add (p := p) (show a ≤ max c s by omega) (show max c s ≤ e by omega)
    have hzero : elapsed p c (max c s) = 0 ↔ ∀ x, c ≤ x → x < s → ¬ p x := by
      rw [elapsed_eq_zero_iff]
      exact forall_congr' fun x => forall_congr' fun hcx => by
        rw [show x < max c s ↔ x < s by omega]
    rw [← hzero]
    omega
  · have h1 := elapsed_mono (p := p) hac hce.le
    constructor
    · intro heq
      omega
    · rintro ⟨hle, -⟩
      omega

/-- **When draining is exact.** If the intervals lie where the clock runs, `drain` arrives at the
    due instant exactly if the list is clean. -/
theorem isDue_drain_iff {ws : List (ℤ × ℤ)} (hws : ∀ w ∈ ws, ∀ x, w.1 ≤ x → x < w.2 → p x)
    (hac : a ≤ c) (hr : 0 < r) (hexact : elapsed p a c + r = h) (hd : drain ws c r = some t) :
    IsDue p a h t ↔ Clean p a h c ws := by
  induction ws generalizing c r with
  | nil => simp [drain] at hd
  | cons w ws ih =>
    obtain ⟨s, e⟩ := w
    have hrun : ∀ x, s ≤ x → x < e → p x := hws (s, e) List.mem_cons_self
    have htail : ∀ w ∈ ws, ∀ x, w.1 ≤ x → x < w.2 → p x :=
      fun w hw => hws w (List.mem_cons_of_mem _ hw)
    rw [drain] at hd
    split at hd
    next hec =>
      -- a skipped interval
      rw [Clean, max_eq_left hec, ih htail hac hr hexact hd]
      exact ⟨fun hcl => ⟨fun hlt => absurd hec (not_le.mpr hlt), hcl⟩, fun hcl => hcl.2⟩
    next hec =>
      rw [not_le] at hec
      have hhead := elapsed_end_eq_iff hrun hac hec
      have hneed : elapsed p a c < h := by omega
      rw [Clean, max_eq_right hec.le]
      split at hd
      next hroom =>
        -- the last interval
        obtain rfl := Option.some.inj hd
        have hfull : elapsed p (max c s) (max c s + r) = r := by
          rw [elapsed_of_running (by omega) fun x h1 h2 => hrun x (by omega) (by omega)]
          omega
        have hfull' : elapsed p (max c s) e = e - max c s :=
          elapsed_of_running (by omega) fun x h1 h2 => hrun x (by omega) h2
        have h1 := elapsed_add (p := p) (show a ≤ max c s by omega)
          (show max c s ≤ max c s + r by omega)
        have h2 := elapsed_add (p := p) (show a ≤ max c s by omega) (show max c s ≤ e by omega)
        have h3 := elapsed_mono (p := p) hac (le_max_left c s)
        have hspent : h ≤ elapsed p a e := by omega
        constructor
        · intro hdue
          have := hdue.1.2
          exact ⟨fun _ _ => hhead.mp (by omega), clean_of_spent (by omega) hspent ws⟩
        · intro hcl
          have := hhead.mpr (hcl.1 hec hneed)
          exact isDue_of_running (show a ≤ max c s by omega) (by omega)
            (fun x h1 h2 => hrun x (by omega) (by omega)) (by omega)
      next hroom =>
        rw [not_le] at hroom
        have hr' : 0 < r - (e - max c s) := by omega
        by_cases hclean : s ≤ e ∧ ∀ x, c ≤ x → x < s → ¬ p x
        · have := hhead.mpr hclean
          rw [ih htail (by omega) hr' (by omega) hd]
          exact ⟨fun hcl => ⟨fun _ _ => hclean, hcl⟩, fun hcl => hcl.2⟩
        · -- time has been lost, and the rest of the list cannot win it back
          have hslack := (slack_drain (a := a) htail (by omega) hr' hd).2
          have hlost : h < elapsed p a e + (r - (e - max c s)) := by
            have hne : elapsed p a c + (e - max c s) ≠ elapsed p a e := fun heq =>
              hclean (hhead.mp heq)
            rcases le_or_gt s e with hse | hse
            · have hfull : elapsed p (max c s) e = e - max c s :=
                elapsed_of_running (by omega) fun x h1 h2 => hrun x (by omega) h2
              have h1 := elapsed_mono (p := p) hac (le_max_left c s)
              have h2 := elapsed_add (p := p) (show a ≤ max c s by omega) (show max c s ≤ e by omega)
              omega
            · have := elapsed_mono (p := p) hac hec.le
              omega
          constructor
          · intro hdue
            have := hdue.1.2
            omega
          · exact fun hcl => absurd (hcl.1 hec hneed) hclean

end Timeline
