import Helpdesk.Library.Table

/-! # Journals

A table that is written entry after entry. What it holds under a key is what the last entry under the key has put
there (**`lookup_writeAll`**), or what has been there before.

A journal is mostly not given as one list but made of parts, which are written one after another, so the other
lemmas find the last entry in such a journal: in the last part that has one (`lastOf_flatMap`), or in the only
part that can have one (`lastOf_flatMap_of_mem`). -/

namespace Table

variable {κ α ι : Type} [DecidableEq κ] {k : κ}

/-- The last entry under the key. -/
def lastOf (k : κ) (journal : List (κ × α)) : Option α :=
  ((journal.filter fun e => e.1 = k).getLast?).map (·.2)

/-- Write one entry after another. -/
def writeAll (t : Table κ α) (journal : List (κ × α)) : Table κ α :=
  journal.foldl (fun t e => AList.insert e.1 e.2 t) t

@[simp] theorem lastOf_nil : lastOf k ([] : List (κ × α)) = none := rfl

@[simp] theorem writeAll_nil (t : Table κ α) : writeAll t [] = t := rfl

theorem writeAll_append (t : Table κ α) (xs ys : List (κ × α)) :
    writeAll t (xs ++ ys) = writeAll (writeAll t xs) ys :=
  List.foldl_append

theorem lastOf_append (xs ys : List (κ × α)) : lastOf k (xs ++ ys) = (lastOf k ys).or (lastOf k xs) := by
  unfold lastOf
  rw [List.filter_append, List.getLast?_append]
  cases (ys.filter fun e => e.1 = k).getLast? <;> rfl

theorem lastOf_singleton (e : κ × α) : lastOf k [e] = if e.1 = k then some e.2 else none := by
  unfold lastOf
  by_cases h : e.1 = k
  · simp [h]
  · simp [h]

theorem lastOf_eq_none {journal : List (κ × α)} (h : ∀ e ∈ journal, e.1 ≠ k) : lastOf k journal = none := by
  have hnone : (journal.filter fun e => e.1 = k) = [] := by
    simpa [List.filter_eq_nil_iff] using h
  rw [lastOf, hnone]
  rfl

/-- **What the table holds** -/
theorem lookup_writeAll (t : Table κ α) (journal : List (κ × α)) :
    (writeAll t journal).lookup k = (lastOf k journal).or (t.lookup k) := by
  induction journal generalizing t with
  | nil => rfl
  | cons e rest ih =>
    show (writeAll (AList.insert e.1 e.2 t) rest).lookup k = _
    rw [ih, lookup_insert, show e :: rest = [e] ++ rest from rfl, lastOf_append, lastOf_singleton, Option.or_assoc]
    congr 1
    by_cases h : e.1 = k
    · rw [if_pos h, if_pos h.symm]
      rfl
    · rw [if_neg h, if_neg (Ne.symm h)]
      rfl

/-- Parts written one after another. -/
theorem writeAll_flatMap (t : Table κ α) (parts : List ι) (f : ι → List (κ × α)) :
    parts.foldl (fun t i => writeAll t (f i)) t = writeAll t (parts.flatMap f) := by
  induction parts generalizing t with
  | nil => rfl
  | cons i rest ih => rw [List.foldl_cons, ih, List.flatMap_cons, writeAll_append]

/-- The last of the parts that have something under the key. -/
theorem lastOf_flatMap (parts : List ι) (f : ι → List (κ × α)) :
    lastOf k (parts.flatMap f) = (parts.filterMap fun i => lastOf k (f i)).getLast? := by
  induction parts using List.reverseRecOn with
  | nil => rfl
  | append_singleton parts i ih =>
    rw [List.flatMap_append, List.flatMap_singleton, lastOf_append, ih, List.filterMap_append,
      List.getLast?_append]
    cases h : lastOf k (f i) <;> simp [h]

/-- No part has an entry under the key. -/
theorem lastOf_flatMap_eq_none {parts : List ι} {f : ι → List (κ × α)} (h : ∀ i ∈ parts, lastOf k (f i) = none) :
    lastOf k (parts.flatMap f) = none := by
  rw [lastOf_flatMap, List.filterMap_eq_nil_iff.mpr h]
  rfl

/-- Only one part has entries under the key. -/
theorem lastOf_flatMap_of_mem {parts : List ι} {f : ι → List (κ × α)} {i : ι} (hi : i ∈ parts)
    (h : ∀ j ∈ parts, j ≠ i → lastOf k (f j) = none) : lastOf k (parts.flatMap f) = lastOf k (f i) := by
  induction parts with
  | nil => cases hi
  | cons j rest ih =>
    have hrest : ∀ j' ∈ rest, j' ≠ i → lastOf k (f j') = none := fun j' hj' => h j' (List.mem_cons_of_mem _ hj')
    rw [List.flatMap_cons, lastOf_append]
    by_cases hmem : i ∈ rest
    · rw [ih hmem hrest]
      by_cases heq : j = i
      · rw [heq, Option.or_self]
      · rw [h j List.mem_cons_self heq, Option.or_none]
    · obtain rfl := (List.mem_cons.mp hi).resolve_right hmem
      rw [lastOf_flatMap_eq_none fun j' hj' => hrest j' hj' fun heq => hmem (heq ▸ hj'), Option.none_or]

end Table
