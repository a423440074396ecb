import Mathlib.Data.List.Sort

/-! # The last entries of an ordered list

`latest n xs` keeps the last `n` entries of `xs`. In a list that is strictly ordered by `r`, an entry
is among them exactly if fewer than `n` entries come after it.

* `latest_concat_suffix`: a list that is cut to its last entries whenever it has got one more is, at any time, cut
  to its last entries.
* `greatest` is the entry that `ORDER BY key DESC LIMIT 1` selects;
* **`ordered_eq_iff`**: ordering a list by keys changes nothing exactly if the keys increase. -/

namespace Window

variable {α : Type} {r : α → α → Prop} [DecidableRel r]

/-- The last `n` entries. -/
def latest (n : ℕ) (xs : List α) : List α := xs.drop (xs.length - n)

/-- The head of an ordered list leaves the window once `n` entries follow it. -/
theorem latest_cons_of_le {n : ℕ} {x : α} {xs : List α} (h : n ≤ xs.length) :
    latest n (x :: xs) = latest n xs := by
  unfold latest
  rw [List.length_cons, Nat.sub_add_comm h, List.drop_succ_cons]

theorem latest_of_length_le {n : ℕ} {xs : List α} (h : xs.length ≤ n) : latest n xs = xs := by
  unfold latest
  rw [Nat.sub_eq_zero_of_le h, List.drop_zero]

theorem length_latest (n : ℕ) (xs : List α) : (latest n xs).length = min n xs.length := by
  rw [latest, List.length_drop]
  omega

theorem latest_suffix (n : ℕ) (xs : List α) : latest n xs <:+ xs := List.drop_suffix _ _

/-- A short end of a list is an end of its window. -/
theorem suffix_latest {n : ℕ} {xs ys : List α} (h : xs <:+ ys) (hlength : xs.length ≤ n) :
    xs <:+ latest n ys := by
  refine List.suffix_of_suffix_length_le h (latest_suffix n ys) ?_
  rw [length_latest]
  exact Nat.le_min.mpr ⟨hlength, h.length_le⟩

/-- **One more entry**: a list that ends with the window of another one still does after both have
    got the entry, even if it is cut to as many entries. -/
theorem latest_concat_suffix {n : ℕ} {xs ys : List α} {x : α} (h : latest n xs <:+ ys) :
    latest n (xs ++ [x]) <:+ latest n (ys ++ [x]) := by
  have hshort : (latest n (xs ++ [x])).length ≤ n := by
    rw [length_latest]
    exact Nat.min_le_left _ _
  have hends : latest n xs ++ [x] <:+ ys ++ [x] := List.suffix_append_self_iff.mpr h
  have hwindow : latest n (xs ++ [x]) <:+ latest n xs ++ [x] := by
    refine List.suffix_of_suffix_length_le (latest_suffix n _)
      (List.suffix_append_self_iff.mpr (latest_suffix n xs)) ?_
    simp only [length_latest, List.length_append, List.length_singleton]
    omega
  exact suffix_latest (hwindow.trans hends) hshort

theorem getLast?_latest_concat {n : ℕ} (hn : 0 < n) (xs : List α) (x : α) :
    (latest n (xs ++ [x])).getLast? = some x := by
  unfold latest
  rw [List.drop_append_of_le_length (by rw [List.length_append, List.length_singleton]; omega)]
  exact List.getLast?_concat

theorem mem_latest (hirrefl : ∀ a, ¬ r a a) (hasymm : ∀ a b, r a b → ¬ r b a) {xs : List α}
    (hxs : xs.Pairwise r) {x : α} {n : ℕ} :
    x ∈ latest n xs ↔ x ∈ xs ∧ xs.countP (fun y => r x y) < n := by
  induction xs with
  | nil => simp [latest]
  | cons y ys ih =>
    obtain ⟨hy, hys⟩ := List.pairwise_cons.mp hxs
    by_cases hn : n ≤ ys.length
    · rw [latest_cons_of_le hn, ih hys]
      constructor
      · rintro ⟨hx, hcount⟩
        refine ⟨List.mem_cons_of_mem _ hx, ?_⟩
        rwa [List.countP_cons_of_neg]
        simpa using hasymm y x (hy x hx)
      · rintro ⟨hx, hcount⟩
        rcases List.mem_cons.mp hx with rfl | hx
        · -- all of `ys` comes after the head
          have hall : ys.countP (fun z => r x z) = ys.length := by
            rw [List.countP_eq_length]
            intro z hz
            simpa using hy z hz
          rw [List.countP_cons_of_neg (by simpa using hirrefl x), hall] at hcount
          omega
        · refine ⟨hx, ?_⟩
          rwa [List.countP_cons_of_neg] at hcount
          simpa using hasymm y x (hy x hx)
    · rw [latest_of_length_le (by simp only [List.length_cons]; omega)]
      refine ⟨fun hx => ⟨hx, ?_⟩, fun h => h.1⟩
      -- an entry does not come after itself
      have hlt : (y :: ys).countP (fun z => r x z) < (y :: ys).length := by
        apply Nat.lt_of_le_of_ne List.countP_le_length
        intro heq
        have hself := List.countP_eq_length.mp heq x hx
        simp [hirrefl x] at hself
      simp only [List.length_cons] at hlt
      omega

/-! ## The greatest entry

Which one of several entries with the greatest key is selected depends on the order of the list; the lemmas
do not say. -/

section
variable {β : Type} [LinearOrder β] {key : α → β} {xs : List α} {x : α}

/-- The entry with the greatest key, as `ORDER BY key DESC LIMIT 1` selects it. -/
def greatest (key : α → β) (xs : List α) : Option α :=
  (xs.insertionSort fun x y => key y ≤ key x).head?

theorem greatest_eq_none : greatest key xs = none ↔ xs = [] := by
  unfold greatest
  rw [List.head?_eq_none_iff, ← List.length_eq_zero_iff, List.length_insertionSort,
    List.length_eq_zero_iff]

theorem greatest_mem (h : greatest key xs = some x) : x ∈ xs :=
  (List.mem_insertionSort _).mp (List.mem_of_head? h)

theorem le_greatest (h : greatest key xs = some x) {y : α} (hy : y ∈ xs) : key y ≤ key x := by
  unfold greatest at h
  have : Std.Total fun x y : α => key y ≤ key x := ⟨fun x y => le_total _ _⟩
  have : IsTrans α fun x y => key y ≤ key x := ⟨fun _ _ _ hxy hyz => hyz.trans hxy⟩
  have hsorted := List.pairwise_insertionSort (fun x y => key y ≤ key x) xs
  have hmem : y ∈ xs.insertionSort fun x y => key y ≤ key x := (List.mem_insertionSort _).mpr hy
  cases hs : xs.insertionSort fun x y => key y ≤ key x with
  | nil =>
    rw [hs] at h
    cases h
  | cons z zs =>
    rw [hs] at h hsorted hmem
    cases h
    rcases List.mem_cons.mp hmem with rfl | hmem
    · exact le_refl _
    · exact List.rel_of_pairwise_cons hsorted hmem

end

/-! ## Entries in the order of their keys

Here the keys are different, so there is one order and it does not matter how the entries were listed. -/

section
variable {β : Type} [LinearOrder β] {key : α → β} {xs ys : List α}

theorem pairwise_ordered (key : α → β) (xs : List α) :
    (xs.insertionSort fun x y => key x ≤ key y).Pairwise fun x y => key x ≤ key y := by
  have : Std.Total fun x y : α => key x ≤ key y := ⟨fun x y => le_total _ _⟩
  have : IsTrans α fun x y => key x ≤ key y := ⟨fun _ _ _ => le_trans⟩
  exact List.pairwise_insertionSort _ xs

/-- **Ordering changes nothing** exactly if the keys increase. -/
theorem ordered_eq_iff (hkeys : (xs.map key).Nodup) (hperm : xs.Perm ys) :
    (xs.insertionSort fun x y => key x ≤ key y) = ys ↔ ys.Pairwise fun x y => key x < key y := by
  have hnodup : ys.Pairwise fun x y => key x ≠ key y := List.pairwise_map.mp ((hperm.map key).nodup_iff.mp hkeys)
  constructor
  · rintro rfl
    exact ((pairwise_ordered key xs).and hnodup).imp fun h => lt_of_le_of_ne h.1 h.2
  · intro hys
    have hsorted : (xs.insertionSort fun x y => key x ≤ key y).Perm ys := (List.perm_insertionSort _ xs).trans hperm
    refine List.Perm.eq_of_pairwise ?_ (pairwise_ordered key xs) (hys.imp le_of_lt) hsorted
    intro x y hx hy hxy hyx
    exact List.inj_on_of_nodup_map hkeys (hperm.mem_iff.mpr (hsorted.mem_iff.mp hx)) (hperm.mem_iff.mpr hy)
      (le_antisymm hxy hyx)

/-- Entries with different keys have one order. -/
theorem ordered_congr (hkeys : (xs.map key).Nodup) (hperm : xs.Perm ys) :
    (xs.insertionSort fun x y => key x ≤ key y) = ys.insertionSort fun x y => key x ≤ key y := by
  have hys : (ys.map key).Nodup := (hperm.map key).nodup_iff.mp hkeys
  have hsorted : ys.Perm (ys.insertionSort fun x y => key x ≤ key y) := (List.perm_insertionSort _ ys).symm
  exact (ordered_eq_iff hkeys (hperm.trans hsorted)).mpr ((ordered_eq_iff hys hsorted).mp rfl)

end

end Window
