import Mathlib.Data.List.AList
import Mathlib.Data.Fintype.EquivFin
import Mathlib.Logic.Function.Basic

/-! # Database tables

A table maps primary keys to rows. It is Mathlib's `AList`, so that two rows with one key cannot be
built; this file adds what a relational store does on top: an insert that refuses a key already
present, a bulk update, a bulk delete, and a select.

**Key results**: each operation's effect on `lookup`, and `mem_select`, which reads a select back
as lookups. Rows come out of a `select` in no particular order that the lemmas here promise. -/

/-- A table with primary keys in `κ` and rows in `α`. -/
abbrev Table (κ α : Type) [DecidableEq κ] := AList (fun _ : κ => α)

namespace Table

variable {κ α : Type} [DecidableEq κ]

/-- Insert a row under a new key; a key already present is a constraint violation. -/
def insertNew (t : Table κ α) (k : κ) (a : α) : Option (Table κ α) :=
  if k ∈ t then none else some (AList.insert k a t)

/-- Rewrite every row; keys stay. -/
def mapRows (f : κ → α → α) (t : Table κ α) : Table κ α where
  entries := t.entries.map fun e => ⟨e.1, f e.1 e.2⟩
  nodupKeys := by
    have h := t.nodupKeys
    unfold List.NodupKeys at h ⊢
    simpa [List.keys, Function.comp_def] using h

/-- Rewrite the row under `k`, if there is one. -/
def modify (t : Table κ α) (k : κ) (f : α → α) : Table κ α :=
  mapRows (fun k' a => if k' = k then f a else a) t

/-- Keep the rows that satisfy `p`. -/
def keepRows (p : κ → α → Bool) (t : Table κ α) : Table κ α where
  entries := t.entries.filter fun e => p e.1 e.2
  nodupKeys := List.Nodup.sublist (List.Sublist.map _ List.filter_sublist) t.nodupKeys

/-- Make a row of another table of each row that `f` accepts, under the same key. -/
def filterMapRows {β : Type} (f : κ → α → Option β) (t : Table κ α) : Table κ β where
  entries := t.entries.filterMap fun e => (f e.1 e.2).map fun b => ⟨e.1, b⟩
  nodupKeys := by
    have h := t.nodupKeys
    unfold List.NodupKeys List.keys at h ⊢
    rw [List.map_filterMap]
    refine List.Nodup.sublist ?_ h
    induction t.entries with
    | nil => exact .slnil
    | cons e rest ih =>
      cases hf : f e.1 e.2 with
      | none => simpa [hf] using ih.cons e.1
      | some b => simpa [hf] using ih

/-- The rows that satisfy `p`, with their keys. -/
def select (p : κ → α → Bool) (t : Table κ α) : List (κ × α) :=
  (t.entries.filter fun e => p e.1 e.2).map fun e => (e.1, e.2)

/-! ## Membership in the entries is `lookup`

An `AList` has no two entries with one key, so an entry of the list and the result of a lookup are the same
thing. Lemmas about lists of entries are turned into lemmas about lookups here, and used in that form. -/

theorem mem_entries {t : Table κ α} {k : κ} {a : α} :
    (⟨k, a⟩ : Sigma fun _ : κ => α) ∈ t.entries ↔ t.lookup k = some a :=
  AList.mem_lookup_iff.symm

theorem mem_iff_lookup {t : Table κ α} {k : κ} : k ∈ t ↔ ∃ a, t.lookup k = some a := by
  rw [← AList.lookup_isSome, Option.isSome_iff_exists]

/-- A table is determined on a key by the pairs it holds there. -/
theorem lookup_eq_of_mem_iff {t : Table κ α} {k : κ} {o : Option α}
    (h : ∀ a, (⟨k, a⟩ : Sigma fun _ : κ => α) ∈ t.entries ↔ o = some a) : t.lookup k = o := by
  apply Option.ext
  intro a
  rw [← mem_entries]
  exact h a

/-! ## Select

Only the rows that come out of a select are spoken of, and how often they do, never in which order. -/

@[simp] theorem mem_select {p : κ → α → Bool} {t : Table κ α} {k : κ} {a : α} :
    (k, a) ∈ select p t ↔ t.lookup k = some a ∧ p k a = true := by
  rw [← mem_entries]
  simp only [select, List.mem_map, List.mem_filter, Prod.mk.injEq]
  constructor
  · rintro ⟨⟨k', a'⟩, h, rfl, rfl⟩
    exact h
  · intro h
    exact ⟨⟨k, a⟩, h, rfl, rfl⟩

theorem select_keys_nodup (p : κ → α → Bool) (t : Table κ α) :
    ((select p t).map Prod.fst).Nodup := by
  have h := t.nodupKeys
  unfold select
  rw [List.map_map]
  exact List.Nodup.sublist (List.Sublist.map _ List.filter_sublist) h

/-- Two tables that agree on the rows that are selected of each. -/
theorem select_perm {p q : κ → α → Bool} {t t' : Table κ α}
    (h : ∀ k, (t.lookup k).filter (p k) = (t'.lookup k).filter (q k)) : (select p t).Perm (select q t') := by
  rw [List.perm_ext_iff_of_nodup ((select_keys_nodup p t).of_map _) ((select_keys_nodup q t').of_map _)]
  intro row
  rw [mem_select, mem_select, ← Option.filter_eq_some_iff, ← Option.filter_eq_some_iff, h]

/-- A select that cannot return two different keys returns at most one row. -/
theorem select_eq_singleton {p : κ → α → Bool} {t : Table κ α} {k : κ} {a : α}
    (hk : t.lookup k = some a) (hp : p k a = true)
    (huniq : ∀ k' a', t.lookup k' = some a' → p k' a' = true → k' = k) :
    select p t = [(k, a)] := by
  have hmem : (k, a) ∈ select p t := mem_select.mpr ⟨hk, hp⟩
  have hall : ∀ e ∈ select p t, e = (k, a) := by
    rintro ⟨k', a'⟩ he
    obtain ⟨hl, hp'⟩ := mem_select.mp he
    obtain rfl := huniq k' a' hl hp'
    rw [hk] at hl
    rw [Option.some.inj hl]
  have hnd : (select p t).Nodup := (select_keys_nodup p t).of_map _
  match hs : select p t with
  | [] => rw [hs] at hmem; exact absurd hmem (by simp)
  | [e] => rw [hs] at hall; rw [hall e (by simp)]
  | e :: e' :: es =>
    rw [hs] at hall hnd
    have hee : e = e' := (hall e (by simp)).trans (hall e' (by simp)).symm
    exact absurd hnd (by simp [hee])

theorem select_eq_nil {p : κ → α → Bool} {t : Table κ α} :
    select p t = [] ↔ ∀ k a, t.lookup k = some a → p k a = false := by
  rw [List.eq_nil_iff_forall_not_mem]
  constructor
  · intro h k a hl
    have := h (k, a)
    rw [mem_select] at this
    simpa [hl] using this
  · rintro h ⟨k, a⟩ hm
    obtain ⟨hl, hp⟩ := mem_select.mp hm
    rw [h k a hl] at hp
    exact absurd hp (by simp)

/-- A select in two parts, by cases on each row. -/
theorem length_select_split {p q r : κ → α → Bool} {t : Table κ α}
    (h : ∀ k a, (p k a = (q k a || r k a)) ∧ ¬ (q k a = true ∧ r k a = true)) :
    (select p t).length = (select q t).length + (select r t).length := by
  simp only [select, List.length_map]
  induction t.entries with
  | nil => rfl
  | cons e rest ih =>
    obtain ⟨heq, hnot⟩ := h e.1 e.2
    grind

/-! ## The effect of each write on `lookup`

One lemma for each write, and for the composed ones, an insert under a new key and a partial view, the
shapes in which they are used. -/

@[simp] theorem lookup_mapRows (f : κ → α → α) (t : Table κ α) (k : κ) :
    (mapRows f t).lookup k = (t.lookup k).map (f k) := by
  apply lookup_eq_of_mem_iff
  intro a
  simp only [mapRows, List.mem_map, Option.map_eq_some_iff]
  constructor
  · rintro ⟨⟨k', b⟩, hm, he⟩
    cases he
    exact ⟨b, mem_entries.mp hm, rfl⟩
  · rintro ⟨b, hb, rfl⟩
    exact ⟨⟨k, b⟩, mem_entries.mpr hb, rfl⟩

theorem lookup_modify (t : Table κ α) (k k' : κ) (f : α → α) :
    (modify t k f).lookup k' = if k' = k then (t.lookup k').map f else t.lookup k' := by
  rw [modify, lookup_mapRows]
  split <;> simp_all

@[simp] theorem lookup_modify_self (t : Table κ α) (k : κ) (f : α → α) :
    (modify t k f).lookup k = (t.lookup k).map f := by
  rw [lookup_modify, if_pos rfl]

theorem lookup_modify_of_ne {t : Table κ α} {k k' : κ} (f : α → α) (h : k' ≠ k) :
    (modify t k f).lookup k' = t.lookup k' := by
  rw [lookup_modify, if_neg h]

@[simp] theorem lookup_keepRows (p : κ → α → Bool) (t : Table κ α) (k : κ) :
    (keepRows p t).lookup k = (t.lookup k).filter (p k) := by
  apply lookup_eq_of_mem_iff
  intro a
  simp only [keepRows, List.mem_filter, Option.filter_eq_some_iff]
  rw [mem_entries]

@[simp] theorem lookup_filterMapRows {β : Type} (f : κ → α → Option β) (t : Table κ α) (k : κ) :
    (filterMapRows f t).lookup k = (t.lookup k).bind (f k) := by
  apply lookup_eq_of_mem_iff
  intro b
  simp only [filterMapRows, List.mem_filterMap, Option.map_eq_some_iff, Option.bind_eq_some_iff]
  constructor
  · rintro ⟨⟨k', a⟩, hm, b', hb, he⟩
    cases he
    exact ⟨a, mem_entries.mp hm, hb⟩
  · rintro ⟨a, ha, hb⟩
    exact ⟨⟨k, a⟩, mem_entries.mpr ha, b, hb, rfl⟩

theorem select_keepRows (p q : κ → α → Bool) (t : Table κ α) :
    select p (keepRows q t) = select (fun k a => q k a && p k a) t := by
  simp [select, keepRows, List.filter_filter, Bool.and_comm]

theorem insertNew_eq_some {t t' : Table κ α} {k : κ} {a : α} :
    insertNew t k a = some t' ↔ t.lookup k = none ∧ t' = AList.insert k a t := by
  rw [AList.lookup_eq_none, insertNew]
  split <;> rename_i hk
  · simp [hk]
  · simp [hk, eq_comm]

theorem insertNew_of_fresh {t : Table κ α} {k : κ} (a : α) (h : t.lookup k = none) :
    insertNew t k a = some (AList.insert k a t) :=
  insertNew_eq_some.mpr ⟨h, rfl⟩

/-- A row under a new key comes first in a select. -/
theorem select_insert_of_fresh {p : κ → α → Bool} {t : Table κ α} {k : κ} (a : α)
    (h : t.lookup k = none) :
    select p (AList.insert k a t) = if p k a then (k, a) :: select p t else select p t := by
  have hentries : (AList.insert k a t).entries = ⟨k, a⟩ :: t.entries := by
    rw [AList.entries_insert, List.kerase_of_notMem_keys (AList.lookup_eq_none.mp h)]
  unfold select
  rw [hentries, List.filter_cons]
  split
  · rfl
  · rfl

theorem lookup_insert (t : Table κ α) (k k' : κ) (a : α) :
    (AList.insert k a t).lookup k' = if k' = k then some a else t.lookup k' := by
  split <;> rename_i h
  · rw [h, AList.lookup_insert]
  · rw [AList.lookup_insert_ne h]

/-- A partial view of the rows, after an insert. -/
theorem bind_lookup_insert {β : Type} (t : Table κ α) (k : κ) (a : α) (f : α → Option β) :
    (fun k' => ((AList.insert k a t).lookup k').bind f) =
      Function.update (fun k' => (t.lookup k').bind f) k (f a) := by
  funext k'
  by_cases h : k' = k
  · subst h
    simp
  · simp [h, AList.lookup_insert_ne h]

/-- A partial view of the rows, after a delete. -/
theorem bind_lookup_erase {β : Type} (t : Table κ α) (k : κ) (f : α → Option β) :
    (fun k' => ((t.erase k).lookup k').bind f) =
      Function.update (fun k' => (t.lookup k').bind f) k none := by
  funext k'
  by_cases h : k' = k
  · subst h
    simp [AList.lookup_erase]
  · simp [h, AList.lookup_erase_ne h]

/-- A row that is left after a delete was there before. -/
theorem lookup_of_lookup_erase {t : Table κ α} {k k' : κ} {a : α}
    (h : (t.erase k).lookup k' = some a) : t.lookup k' = some a := by
  by_cases heq : k' = k
  · subst heq
    rw [AList.lookup_erase] at h
    cases h
  · rwa [AList.lookup_erase_ne heq] at h

-- from here on a table is known by its lookups and selects
attribute [irreducible] keepRows mapRows filterMapRows

/-- A table with natural-number keys has an unused key. -/
theorem exists_fresh (t : Table Nat α) : ∃ k, t.lookup k = none := by
  obtain ⟨k, hk⟩ := Infinite.exists_notMem_finset t.keys.toFinset
  refine ⟨k, AList.lookup_eq_none.mpr fun hm => hk ?_⟩
  rw [List.mem_toFinset]
  exact AList.mem_keys.mp hm

end Table
