import Helpdesk.Library.Overlay

/-! # Units of work

A transaction that is open under read committed keeps the rows that it has loaded or inserted in an
identity map. A row in the map is seen as the map has it, whatever others commit to it meanwhile; every
other row is seen as it is committed. At the commit the inserted rows are inserted, and each loaded
row is merged with what is stored by then.

* `lookup_view`, `lookup_load` and `lookup_track` say what is seen of a row, and what the map says of it,
  after each kind of step;
* **`lookup_commit_own`** and `lookup_commit_of_none` say what the commit stores;
* `Kept fixed` is the relation of tables that a part of a transaction may be asked to keep: the rows stay,
  and `fixed` stands for their columns that nothing changes. -/

/-- A row of an identity map: as it was loaded, if it was, and as it is now. -/
structure Tracked (α : Type) where
  loaded : Option α
  current : α
  deriving DecidableEq

namespace UnitOfWork

open Table

variable {κ α β : Type} [DecidableEq κ]

/-- The table as the unit of work sees it. -/
def view (own : Table κ (Tracked α)) (base : Table κ α) : Table κ α :=
  overlay (filterMapRows (fun _ row => some row.current) own) base

/-- Load a row, unless it is loaded already. -/
def load (own : Table κ (Tracked α)) (base : Table κ α) (k : κ) : Table κ (Tracked α) :=
  match own.lookup k, base.lookup k with
  | none, some a => AList.insert k ⟨some a, a⟩ own
  | _, _ => own

/-- What the map says of a row that has become `a`. -/
def touched (own : Table κ (Tracked α)) (base : Table κ α) (k : κ) (a : α) : Tracked α :=
  match own.lookup k with
  | some row => { row with current := a }
  | none => ⟨base.lookup k, a⟩

/-- The map once the unit of work sees `after`. -/
def track [DecidableEq α] (own : Table κ (Tracked α)) (base after : Table κ α) :
    Table κ (Tracked α) :=
  overlay
    (filterMapRows (fun k a => if (view own base).lookup k = some a then none
      else some (touched own base k a)) after)
    own

/-- What the commit stores under `k`, if it can. -/
def settleRow (merge : (loaded current stored : α) → Option α) (base : Table κ α) (k : κ)
    (row : Tracked α) : Option α :=
  match row.loaded, base.lookup k with
  | none, none => some row.current
  | some loaded, some stored => merge loaded row.current stored
  | _, _ => none

/-- The table after the commit; `none` if a row cannot be stored. -/
def commit (merge : α → α → α → Option α) (own : Table κ (Tracked α)) (base : Table κ α) :
    Option (Table κ α) :=
  if own.entries.all fun e => (settleRow merge base e.1 e.2).isSome then
    some (overlay (filterMapRows (settleRow merge base) own) base)
  else none

variable {own : Table κ (Tracked α)} {base base' after t : Table κ α} {k : κ} {a : α}
  {merge : α → α → α → Option α}

/-! ## Lookups

Each operation on the map is a table operation, so it is known by its effect on `lookup`. The cases are always
the same ones: the row is in the map, or not; it is as the unit of work saw it before, or has been written. -/

@[simp] theorem lookup_view :
    (view own base).lookup k = ((own.lookup k).map (·.current)).or (base.lookup k) := by
  rw [view, lookup_overlay, lookup_filterMapRows]
  cases own.lookup k <;> rfl

theorem lookup_view_of_own {row : Tracked α} (h : own.lookup k = some row) :
    (view own base).lookup k = some row.current := by
  simp [h]

theorem lookup_view_of_none (h : own.lookup k = none) :
    (view own base).lookup k = base.lookup k := by
  simp [h]

@[simp] theorem lookup_view_empty : (view ∅ base).lookup k = base.lookup k :=
  lookup_view_of_none rfl

theorem lookup_load (k' : κ) :
    (load own base k).lookup k' =
      if k' = k then (own.lookup k).or ((base.lookup k).map fun a => ⟨some a, a⟩)
      else own.lookup k' := by
  unfold load
  split
  next a hown hbase =>
    rw [lookup_insert]
    simp [hown, hbase]
  next hne =>
    split
    next heq =>
      subst heq
      cases hown : own.lookup k' with
      | some row => rfl
      | none =>
        cases hbase : base.lookup k' with
        | some a => exact absurd hbase (hne a hown)
        | none => rfl
    · rfl

/-- A row that is loaded looks the same. -/
theorem lookup_view_load (k' : κ) : (view (load own base k) base).lookup k' =
    (view own base).lookup k' := by
  rw [lookup_view, lookup_view, lookup_load]
  split
  next heq =>
    subst heq
    cases own.lookup k' <;> cases base.lookup k' <;> rfl
  · rfl

section
variable [DecidableEq α]

theorem lookup_track :
    (track own base after).lookup k =
      if after.lookup k = (view own base).lookup k then own.lookup k
      else ((after.lookup k).map (touched own base k)).or (own.lookup k) := by
  rw [track, lookup_overlay, lookup_filterMapRows]
  cases hafter : after.lookup k with
  | none => simp
  | some a =>
    show (if (view own base).lookup k = some a then none else some _).or _ = _
    by_cases hseen : (view own base).lookup k = some a
    · rw [if_pos hseen, if_pos hseen.symm]
      rfl
    · rw [if_neg hseen, if_neg (Ne.symm hseen)]
      rfl

/-- **Reading back**: after the map has taken over what the unit of work has written, it sees what it
    has written, if that has deleted nothing. -/
theorem lookup_view_track (hgrown : (view own base).lookup k ≠ none → after.lookup k ≠ none) :
    (view (track own base after) base).lookup k = after.lookup k := by
  rw [lookup_view, lookup_track]
  split
  next heq =>
    rw [heq, lookup_view]
  next hne =>
    cases hafter : after.lookup k with
    | none =>
      rw [hafter] at hgrown hne
      exact absurd rfl (hgrown (Ne.symm hne))
    | some a =>
      unfold touched
      cases own.lookup k <;> rfl

/-- **A row of the map** after it has taken over what the unit of work has written. -/
theorem of_lookup_track {row : Tracked α} (h : (track own base after).lookup k = some row) :
    (∃ row₀, own.lookup k = some row₀ ∧ row.loaded = row₀.loaded) ∨
      own.lookup k = none ∧ row.loaded = base.lookup k := by
  rw [lookup_track] at h
  split at h
  · exact .inl ⟨row, h, rfl⟩
  · rcases Option.or_eq_some_iff.mp h with hnew | ⟨-, hown⟩
    · obtain ⟨a, -, rfl⟩ := Option.map_eq_some_iff.mp hnew
      unfold touched
      cases hown : own.lookup k with
      | some row₀ => exact .inl ⟨row₀, rfl, rfl⟩
      | none => exact .inr ⟨rfl, rfl⟩
    · exact .inl ⟨row, hown, rfl⟩

end

theorem commit_eq_some :
    commit merge own base = some t ↔
      (∀ k row, own.lookup k = some row → ∃ a, settleRow merge base k row = some a) ∧
        t = overlay (filterMapRows (settleRow merge base) own) base := by
  have hall : (own.entries.all fun e => (settleRow merge base e.1 e.2).isSome) = true ↔
      ∀ k row, own.lookup k = some row → ∃ a, settleRow merge base k row = some a := by
    rw [List.all_eq_true]
    constructor
    · intro h k row hrow
      exact Option.isSome_iff_exists.mp (h ⟨k, row⟩ (mem_entries.mpr hrow))
    · rintro h ⟨k, row⟩ hmem
      exact Option.isSome_iff_exists.mpr (h k row (mem_entries.mp hmem))
  unfold commit
  split
  next h =>
    rw [Option.some.injEq, eq_comm]
    exact (and_iff_right (hall.mp h)).symm
  next h =>
    constructor
    · intro hnone
      cases hnone
    · rintro ⟨hrows, -⟩
      exact absurd (hall.mpr hrows) h

/-- **The commit** stores the settled rows of the map, and leaves the others. -/
theorem lookup_commit (h : commit merge own base = some t) :
    t.lookup k = match own.lookup k with
      | some row => settleRow merge base k row
      | none => base.lookup k := by
  obtain ⟨hrows, rfl⟩ := commit_eq_some.mp h
  rw [lookup_overlay, lookup_filterMapRows]
  cases hrow : own.lookup k with
  | none => rfl
  | some row =>
    obtain ⟨a, ha⟩ := hrows k row hrow
    show (settleRow merge base k row).or _ = settleRow merge base k row
    rw [ha]
    rfl

/-- A row of the map after the commit: it is inserted, or merged. -/
theorem lookup_commit_own (h : commit merge own base = some t) {row : Tracked α}
    (hrow : own.lookup k = some row) :
    (row.loaded = none ∧ base.lookup k = none ∧ t.lookup k = some row.current) ∨
      ∃ loaded stored a, row.loaded = some loaded ∧ base.lookup k = some stored ∧
        merge loaded row.current stored = some a ∧ t.lookup k = some a := by
  have hlookup : t.lookup k = settleRow merge base k row := by
    rw [lookup_commit h, hrow]
  obtain ⟨a, ha⟩ := (commit_eq_some.mp h).1 k row hrow
  unfold settleRow at ha hlookup
  split at ha
  next hloaded hbase =>
    cases ha
    rw [hloaded, hbase] at hlookup
    exact .inl ⟨hloaded, hbase, hlookup⟩
  next loaded stored hloaded hbase =>
    rw [hloaded, hbase] at hlookup
    exact .inr ⟨loaded, stored, a, hloaded, hbase, ha, hlookup.trans ha⟩
  · cases ha

theorem lookup_commit_of_none (h : commit merge own base = some t) (hnone : own.lookup k = none) :
    t.lookup k = base.lookup k := by
  rw [lookup_commit h, hnone]

/-! ## Columns that never change

A user says with `fixed` which columns it relies on. Inserts and updates that leave them keep the rows. -/

/-- Each row of `t` is still there in `t'`, with the same `fixed` columns. -/
def Kept (fixed : α → β) (t t' : Table κ α) : Prop :=
  ∀ k a, t.lookup k = some a → ∃ a', t'.lookup k = some a' ∧ fixed a' = fixed a

variable {fixed : α → β}

theorem Kept.refl (t : Table κ α) : Kept fixed t t := fun _ a h => ⟨a, h, rfl⟩

theorem Kept.trans {t₁ t₂ t₃ : Table κ α} (h : Kept fixed t₁ t₂) (h' : Kept fixed t₂ t₃) :
    Kept fixed t₁ t₃ := by
  intro k a ha
  obtain ⟨a', ha', hfixed⟩ := h k a ha
  obtain ⟨a'', ha'', hfixed'⟩ := h' k a' ha'
  exact ⟨a'', ha'', hfixed'.trans hfixed⟩

theorem Kept.insert (h : base.lookup k = none) : Kept fixed base (AList.insert k a base) := by
  intro k' a' ha'
  refine ⟨a', ?_, rfl⟩
  rw [lookup_insert, if_neg (by rintro rfl; simp [h] at ha')]
  exact ha'

theorem Kept.modify {f : α → α} (h : ∀ a, base.lookup k = some a → fixed (f a) = fixed a) :
    Kept fixed base (base.modify k f) := by
  intro k' a' ha'
  rw [lookup_modify]
  split
  next heq =>
    subst heq
    exact ⟨f a', by rw [ha']; rfl, h a' ha'⟩
  · exact ⟨a', ha', rfl⟩

end UnitOfWork
