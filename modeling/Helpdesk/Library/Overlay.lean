import Helpdesk.Library.Table

/-! # Uncommitted rows

A transaction that is open under read committed sees its own rows over those that others have
committed. `overlay own base` is the table it sees; after a statement has run on that table, `changes`
reads its own rows off again. A commit puts them over whatever is committed by then.

No operation here deletes a row. So a row that is seen afterwards, and is not as it is committed, is the
transaction's own: **`lookup_changes_grown`**. The other two lemmas are its instances for a statement that
writes nothing and for an insert. -/

namespace Table

variable {κ α : Type} [DecidableEq κ] {own base t : Table κ α} {k : κ} {a : α}

/-- The rows of `own`, and those of `base` under other keys. -/
def overlay (own base : Table κ α) : Table κ α := own ∪ base

/-- The rows of `t` that `base` does not have. -/
def changes [DecidableEq α] (base t : Table κ α) : Table κ α :=
  keepRows (fun k a => base.lookup k ≠ some a) t

@[simp] theorem lookup_overlay (own base : Table κ α) (k : κ) :
    (overlay own base).lookup k = (own.lookup k).or (base.lookup k) := by
  unfold overlay
  cases h : own.lookup k with
  | some a =>
    rw [AList.lookup_union_left (Table.mem_iff_lookup.mpr ⟨a, h⟩), h]
    rfl
  | none =>
    rw [AList.lookup_union_right (AList.lookup_eq_none.mp h)]
    rfl

theorem lookup_overlay_eq_some :
    (overlay own base).lookup k = some a ↔
      own.lookup k = some a ∨ own.lookup k = none ∧ base.lookup k = some a := by
  rw [lookup_overlay, Option.or_eq_some_iff]

section
variable [DecidableEq α]

theorem lookup_changes_eq_some :
    (changes base t).lookup k = some a ↔ t.lookup k = some a ∧ base.lookup k ≠ some a := by
  simp [changes, Option.filter_eq_some_iff]

/-- **Reading off**: where no row has gone from what the transaction saw, its own rows are those it
    had and those that are new. -/
theorem lookup_changes_grown (hdisjoint : ∀ k, own.lookup k ≠ none → base.lookup k = none)
    (hgrown : ∀ k a, (overlay own base).lookup k = some a → t.lookup k = some a) :
    (changes base t).lookup k = some a ↔
      own.lookup k = some a ∨ (overlay own base).lookup k = none ∧ t.lookup k = some a := by
  rw [lookup_changes_eq_some]
  constructor
  · rintro ⟨ht, hbase⟩
    cases hseen : (overlay own base).lookup k with
    | none => exact .inr ⟨rfl, ht⟩
    | some b =>
      obtain rfl : a = b := Option.some.inj (ht.symm.trans (hgrown k b hseen))
      rcases lookup_overlay_eq_some.mp hseen with hown | ⟨-, hbase'⟩
      · exact .inl hown
      · exact absurd hbase' hbase
  · rintro (hown | ⟨hseen, ht⟩)
    · refine ⟨hgrown k a (lookup_overlay_eq_some.mpr (.inl hown)), ?_⟩
      rw [hdisjoint k (by simp [hown])]
      simp
    · rw [lookup_overlay, Option.or_eq_none_iff] at hseen
      refine ⟨ht, ?_⟩
      rw [hseen.2]
      simp

/-- What is read off after nothing has been written is what was there. -/
theorem lookup_changes_overlay (hdisjoint : ∀ k, own.lookup k ≠ none → base.lookup k = none) :
    (changes base (overlay own base)).lookup k = own.lookup k := by
  apply Option.ext
  intro a
  show (changes base (overlay own base)).lookup k = some a ↔ own.lookup k = some a
  rw [lookup_changes_grown hdisjoint fun _ _ h => h]
  constructor
  · rintro (hown | ⟨hnone, hsome⟩)
    · exact hown
    · rw [hnone] at hsome
      cases hsome
  · exact .inl

/-- What is read off after a row has been inserted under a new key. -/
theorem lookup_changes_insert (hdisjoint : ∀ k, own.lookup k ≠ none → base.lookup k = none)
    (hfresh : (overlay own base).lookup k = none) (k' : κ) :
    (changes base (AList.insert k a (overlay own base))).lookup k' =
      if k' = k then some a else own.lookup k' := by
  have hgrown : ∀ k' b, (overlay own base).lookup k' = some b →
      (AList.insert k a (overlay own base)).lookup k' = some b := by
    intro k' b h
    rw [AList.lookup_insert_ne (by rintro rfl; simp [hfresh] at h)]
    exact h
  apply Option.ext
  intro b
  show (changes base _).lookup k' = some b ↔ _
  rw [lookup_changes_grown hdisjoint hgrown, lookup_insert]
  have hown : own.lookup k = none := by
    rw [lookup_overlay, Option.or_eq_none_iff] at hfresh
    exact hfresh.1
  by_cases heq : k' = k
  · subst heq
    rw [hown, if_pos rfl, if_pos rfl]
    simp [hfresh]
  · rw [if_neg heq, if_neg heq]
    constructor
    · rintro (h | ⟨hnone, hsome⟩)
      · exact h
      · rw [hnone] at hsome
        cases hsome
    · exact .inl

end

end Table
