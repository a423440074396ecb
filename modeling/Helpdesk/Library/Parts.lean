import Helpdesk.Library.Table

/-! # Parts of a table

`keepRows p` is the part of a table that belongs to somebody. A write to a row of the part is the same write
to the part; a write to another row leaves the part as it was.

For each kind of write there are therefore two lemmas: `keepRows_insert`, `keepRows_modify` and `keepRows_erase`
for rows of the part, and the ones that end in `_of_other` for the rows of others. An update must not move a row
from one part to another; that is the hypothesis of `keepRows_modify`. -/

namespace Table

variable {κ α : Type} [DecidableEq κ] {p q : κ → α → Bool} {t : Table κ α} {k : κ} {a : α}

theorem entries_keepRows : (keepRows p t).entries = t.entries.filter fun e => p e.1 e.2 := by
  unfold keepRows
  rfl

theorem entries_modify {f : α → α} :
    (modify t k f).entries = t.entries.map fun e => ⟨e.1, if e.1 = k then f e.2 else e.2⟩ := by
  unfold modify mapRows
  rfl

/-- Two parts with the same rows. -/
theorem keepRows_congr (h : ∀ k a, t.lookup k = some a → p k a = q k a) : keepRows p t = keepRows q t := by
  apply AList.ext
  rw [entries_keepRows, entries_keepRows]
  refine List.filter_congr fun e he => ?_
  exact h e.1 e.2 (mem_entries.mp he)

theorem mem_keepRows : k ∈ keepRows p t ↔ ∃ a, t.lookup k = some a ∧ p k a = true := by
  rw [mem_iff_lookup]
  refine exists_congr fun a => ?_
  rw [lookup_keepRows, Option.filter_eq_some_iff]

/-- A row of the part is found in the part. -/
theorem lookup_keepRows_of (h : t.lookup k = some a) (hp : p k a = true) : (keepRows p t).lookup k = some a := by
  rw [lookup_keepRows, h, Option.filter_some_pos hp]

/-- Where a row is one of the part, the key is in the part as it is in the table. -/
theorem mem_keepRows_iff (h : ∀ a, t.lookup k = some a → p k a = true) : k ∈ keepRows p t ↔ k ∈ t := by
  rw [mem_keepRows, mem_iff_lookup]
  exact exists_congr fun a => and_iff_left_of_imp (h a)

/-- What a test selects of the part is what another one selects of the table. -/
theorem select_keepRows_congr {q' : κ → α → Bool}
    (h : ∀ k a, t.lookup k = some a → (p k a && q' k a) = q k a) : select q' (keepRows p t) = select q t := by
  rw [select_keepRows]
  unfold select
  congr 1
  exact List.filter_congr fun e he => h e.1 e.2 (mem_entries.mp he)

/-- What is selected of the part is selected of the table, if it is in the part. -/
theorem select_keepRows_of (h : ∀ k a, t.lookup k = some a → q k a = true → p k a = true) :
    select q (keepRows p t) = select q t :=
  select_keepRows_congr fun k a ha => Bool.and_eq_right_iff_imp.mpr (h k a ha)

/-! ## Deletes -/

theorem filter_kerase {β : Type} {f : (Sigma fun _ : κ => β) → Bool} {l : List (Sigma fun _ : κ => β)}
    (hl : l.NodupKeys) : (l.kerase k).filter f = (l.filter f).kerase k := by
  induction l with
  | nil => rfl
  | cons e l ih =>
    obtain ⟨hnotMem, hl⟩ := List.nodupKeys_cons.mp hl
    by_cases hk : k = e.1
    · have hfree : (l.filter f).kerase k = l.filter f :=
        List.kerase_of_notMem_keys fun hmem => hnotMem (hk ▸ (List.filter_sublist.map _).subset hmem)
      rw [List.kerase_cons_eq hk]
      by_cases hf : f e = true
      · rw [List.filter_cons_of_pos hf, List.kerase_cons_eq hk]
      · rw [List.filter_cons_of_neg hf, hfree]
    · rw [List.kerase_cons_ne hk]
      by_cases hf : f e = true
      · rw [List.filter_cons_of_pos hf, List.filter_cons_of_pos hf, List.kerase_cons_ne hk, ih hl]
      · rw [List.filter_cons_of_neg hf, List.filter_cons_of_neg hf, ih hl]

theorem keepRows_erase : keepRows p (t.erase k) = (keepRows p t).erase k := by
  apply AList.ext
  show _ = (keepRows p t).entries.kerase k
  rw [entries_keepRows, entries_keepRows]
  exact filter_kerase t.nodupKeys

/-- A row of somebody else is deleted. -/
theorem keepRows_erase_of_other (h : ∀ a, t.lookup k = some a → p k a = false) :
    keepRows p (t.erase k) = keepRows p t := by
  have hfree : k ∉ keepRows p t := by
    rw [mem_keepRows]
    rintro ⟨a, ha, hp⟩
    rw [h a ha] at hp
    cases hp
  rw [keepRows_erase]
  apply AList.ext
  exact List.kerase_of_notMem_keys hfree

/-! ## Inserts -/

theorem keepRows_insert (hp : p k a = true) : keepRows p (AList.insert k a t) = AList.insert k a (keepRows p t) := by
  apply AList.ext
  rw [entries_keepRows, AList.entries_insert, AList.entries_insert, entries_keepRows,
    List.filter_cons_of_pos (by exact hp), filter_kerase t.nodupKeys]

/-- A row of somebody else is written. -/
theorem keepRows_insert_of_other (hp : p k a = false) (h : ∀ old, t.lookup k = some old → p k old = false) :
    keepRows p (AList.insert k a t) = keepRows p t := by
  have herase := congrArg AList.entries (keepRows_erase_of_other h)
  rw [entries_keepRows] at herase
  apply AList.ext
  rw [entries_keepRows, AList.entries_insert, List.filter_cons_of_neg (by simp [hp])]
  exact herase

/-- A new key is new to a part. -/
theorem insertNew_keepRows (h : t.lookup k = none) :
    insertNew (keepRows p t) k a = some (AList.insert k a (keepRows p t)) := by
  apply insertNew_of_fresh
  rw [lookup_keepRows, h, Option.filter_none]

/-! ## Updates -/

theorem mem_modify {k' : κ} {f : α → α} : k' ∈ modify t k f ↔ k' ∈ t := by
  rw [← AList.lookup_isSome, ← AList.lookup_isSome, lookup_modify]
  split
  · rw [Option.isSome_map]
  · rfl

theorem keepRows_modify {f : α → α} (h : ∀ a, t.lookup k = some a → p k (f a) = p k a) :
    keepRows p (modify t k f) = modify (keepRows p t) k f := by
  apply AList.ext
  rw [entries_keepRows, entries_modify, entries_modify, entries_keepRows, List.filter_map]
  congr 1
  refine List.filter_congr fun e he => ?_
  have hrow := mem_entries.mp he
  by_cases hk : e.1 = k
  · subst hk
    simpa using h e.2 hrow
  · simp [hk]

/-- A row of somebody else is written. -/
theorem keepRows_modify_of_other {f : α → α} (h : ∀ a, t.lookup k = some a → p k a = false ∧ p k (f a) = false) :
    keepRows p (modify t k f) = keepRows p t := by
  rw [keepRows_modify fun a ha => (h a ha).2.trans (h a ha).1.symm]
  apply AList.ext
  rw [entries_modify, entries_keepRows]
  refine (List.map_congr_left fun e he => ?_).trans (List.map_id _)
  obtain ⟨he, hp⟩ := List.mem_filter.mp he
  by_cases hk : e.1 = k
  · subst hk
    rw [(h e.2 (mem_entries.mp he)).1] at hp
    cases hp
  · simp [hk]

end Table
