import Helpdesk.Library.UnitOfWork

/-! # Rows that only grow

`R` is a preorder on the rows of a table: what may become of a row. Parts of transactions and commits
that take each row along `R` do so in every interleaving, if the merge does.

The argument has three parts, one for each way in which a transaction and the table get to differ:

* `Grown.track`: a part of the transaction takes the rows that it sees along `R`;
* `Grown.grows`: meanwhile the commits of others take the stored rows along `R`;
* **`grows_commit`**: at the commit each stored row is taken along `R` by the merge (`MergeGrows`), and
  `adds_commit` says which rows are new.

`GrownAt` is the same for the row under one key, where only that row is known to grow. -/

namespace UnitOfWork

open Table

variable {κ α : Type} [DecidableEq κ] {R : α → α → Prop} {P : α → Prop}
  {own : Table κ (Tracked α)} {base base' after t : Table κ α} {k : κ} {merge : α → α → α → Option α}

/-- Each row of `t` is still there in `t'`, and has grown. -/
def Grows (R : α → α → Prop) (t t' : Table κ α) : Prop :=
  ∀ k a, t.lookup k = some a → ∃ a', t'.lookup k = some a' ∧ R a a'

/-- The rows that `t'` has besides are `P`. -/
def Adds (P : α → Prop) (t t' : Table κ α) : Prop :=
  ∀ k a, t.lookup k = none → t'.lookup k = some a → P a

/-- The row of the map under `k`, if it has been loaded, has grown in the hands of the transaction. -/
def GrownAt (R : α → α → Prop) (own : Table κ (Tracked α)) (k : κ) : Prop :=
  ∀ row loaded, own.lookup k = some row → row.loaded = some loaded → R loaded row.current

/-- A loaded row of the map has grown, here and in the database; an inserted one is `P`. -/
structure Grown (R : α → α → Prop) (P : α → Prop) (own : Table κ (Tracked α)) (base : Table κ α) :
    Prop where
  current : ∀ k, GrownAt R own k
  stored : ∀ k row loaded, own.lookup k = some row → row.loaded = some loaded →
    ∃ stored, base.lookup k = some stored ∧ R loaded stored
  inserted : ∀ k row, own.lookup k = some row → row.loaded = none → P row.current

/-- The merge stores a row that the stored one may become. -/
def MergeGrows (merge : α → α → α → Option α) (R : α → α → Prop) : Prop :=
  ∀ loaded current stored a, R loaded current → R loaded stored →
    merge loaded current stored = some a → R stored a

/-! ## Loading and tracking

What the identity map says of a row after a load, and the tables that a single write leaves. None of this
needs `R` to be transitive. -/

/-- A row of the map keeps what it was loaded as. -/
theorem lookup_track_of_own [DecidableEq α] {row : Tracked α} {a : α} (hown : own.lookup k = some row)
    (hafter : after.lookup k = some a) : (track own base after).lookup k = some ⟨row.loaded, a⟩ := by
  rw [lookup_track, hafter, lookup_view_of_own hown]
  split
  next heq =>
    cases heq
    exact hown
  · simp [touched, hown]

theorem grownAt_empty (k : κ) : GrownAt R ∅ k := fun _ _ h => by simp at h

theorem grown_empty (base : Table κ α) : Grown R P ∅ base :=
  ⟨grownAt_empty, fun _ _ _ h => by simp at h, fun _ _ h => by simp at h⟩

/-- A row that the map has now was there before, or has just been loaded. -/
theorem of_lookup_load {row : Tracked α} {k' : κ} (h : (load own base k).lookup k' = some row) :
    own.lookup k' = some row ∨ ∃ a, base.lookup k' = some a ∧ row = ⟨some a, a⟩ := by
  rw [lookup_load] at h
  split at h
  next heq =>
    subst heq
    rcases Option.or_eq_some_iff.mp h with hown | ⟨-, hnew⟩
    · exact .inl hown
    · obtain ⟨a, ha, rfl⟩ := Option.map_eq_some_iff.mp hnew
      exact .inr ⟨a, ha, rfl⟩
  · exact .inl h

theorem Grows.mono {R' : α → α → Prop} {t' : Table κ α} (h : Grows R t t') (hR : ∀ a a', R a a' → R' a a') :
    Grows R' t t' := by
  intro k a ha
  obtain ⟨a', ha', hgrown⟩ := h k a ha
  exact ⟨a', ha', hR a a' hgrown⟩

section
variable [Std.Refl R]

theorem Grows.refl (t : Table κ α) : Grows R t t :=
  fun _ a ha => ⟨a, ha, Std.Refl.refl a⟩

theorem Grows.of_eq {t' : Table κ α} (h : t' = t) : Grows R t t' := by
  subst h
  exact Grows.refl t'

theorem Adds.of_eq {t' : Table κ α} (h : t' = t) : Adds P t t' := by
  subst h
  intro k a hnone ha
  rw [hnone] at ha
  cases ha

theorem Grows.modify {f : α → α} (h : ∀ a, t.lookup k = some a → R a (f a)) :
    Grows R t (t.modify k f) := by
  intro k' a ha
  rw [lookup_modify]
  split
  next heq =>
    subst heq
    exact ⟨f a, by rw [ha]; rfl, h a ha⟩
  · exact ⟨a, ha, Std.Refl.refl a⟩

omit [Std.Refl R] in
theorem Adds.modify {f : α → α} : Adds P t (t.modify k f) := by
  intro k' a hnone ha
  rw [lookup_modify, hnone] at ha
  split at ha <;> cases ha

theorem Grows.insert {a : α} (h : t.lookup k = none) : Grows R t (AList.insert k a t) := by
  intro k' a' ha'
  refine ⟨a', ?_, Std.Refl.refl a'⟩
  rw [lookup_insert, if_neg]
  · exact ha'
  · rintro rfl
    rw [h] at ha'
    cases ha'

omit [Std.Refl R] in
theorem Adds.insert {a : α} (h : P a) : Adds P t (AList.insert k a t) := by
  intro k' a' hnone ha'
  rw [lookup_insert] at ha'
  split at ha'
  · cases ha'
    exact h
  · rw [hnone] at ha'
    cases ha'

theorem GrownAt.load {k' : κ} (h : GrownAt R own k') (k : κ) : GrownAt R (load own base k) k' := by
  intro row loaded hrow hloaded
  rcases of_lookup_load hrow with hown | ⟨a, -, rfl⟩
  · exact h row loaded hown hloaded
  · cases hloaded
    exact Std.Refl.refl _

theorem Grown.load (h : Grown R P own base) (k : κ) : Grown R P (load own base k) base := by
  refine ⟨fun k' => (h.current k').load k, fun k' row loaded hrow hloaded => ?_, fun k' row hrow hloaded => ?_⟩
  · rcases of_lookup_load hrow with hown | ⟨a, ha, rfl⟩
    · exact h.stored k' row loaded hown hloaded
    · cases hloaded
      exact ⟨loaded, ha, Std.Refl.refl _⟩
  · rcases of_lookup_load hrow with hown | ⟨a, -, rfl⟩
    · exact h.inserted k' row hown hloaded
    · cases hloaded

end

section
variable [IsTrans α R]

theorem Grows.trans {t₁ t₂ t₃ : Table κ α} (h : Grows R t₁ t₂) (h' : Grows R t₂ t₃) : Grows R t₁ t₃ := by
  intro k a ha
  obtain ⟨a', ha', hR⟩ := h k a ha
  obtain ⟨a'', ha'', hR'⟩ := h' k a' ha'
  exact ⟨a'', ha'', IsTrans.trans _ _ _ hR hR'⟩

/-- Others may commit. -/
theorem Grown.grows (h : Grown R P own base) (hgrows : Grows R base base') : Grown R P own base' := by
  refine ⟨h.current, fun k row loaded hrow hloaded => ?_, h.inserted⟩
  obtain ⟨stored, hstored, hR⟩ := h.stored k row loaded hrow hloaded
  obtain ⟨stored', hstored', hR'⟩ := hgrows k stored hstored
  exact ⟨stored', hstored', IsTrans.trans _ _ _ hR hR'⟩

/-- **A part of a transaction** that takes the row under `k` along `R`. -/
theorem GrownAt.track [Std.Refl R] [DecidableEq α] (h : GrownAt R own k)
    (hgrows : ∀ a, (view own base).lookup k = some a → ∃ a', after.lookup k = some a' ∧ R a a') :
    GrownAt R (track own base after) k := by
  intro row loaded hrow hloaded
  rw [lookup_track] at hrow
  split at hrow
  · exact h row loaded hrow hloaded
  rcases Option.or_eq_some_iff.mp hrow with hnew | ⟨-, hown⟩
  swap
  · exact h row loaded hown hloaded
  obtain ⟨a, hafter, rfl⟩ := Option.map_eq_some_iff.mp hnew
  unfold touched at hloaded ⊢
  cases hown : own.lookup k with
  | some row₀ =>
    rw [hown] at hloaded
    obtain ⟨a', ha', hR⟩ := hgrows row₀.current (lookup_view_of_own hown)
    obtain rfl := Option.some.inj (ha'.symm.trans hafter)
    exact IsTrans.trans _ _ _ (h row₀ loaded hown hloaded) hR
  | none =>
    -- the row had not been loaded, so it is the committed one that has grown
    rw [hown] at hloaded
    obtain ⟨a', ha', hR⟩ := hgrows loaded ((lookup_view_of_none hown).trans hloaded)
    obtain rfl := Option.some.inj (ha'.symm.trans hafter)
    exact hR

omit [IsTrans α R] in
/-- A part of a transaction that takes each row it sees along `R`, and the rows that have been inserted. -/
theorem inserted_track [DecidableEq α] (h : ∀ k row, own.lookup k = some row → row.loaded = none → P row.current)
    (hP : ∀ a a', P a → R a a' → P a') (hgrows : Grows R (view own base) after)
    (hadds : Adds P (view own base) after) (k : κ) (row : Tracked α)
    (hrow : (track own base after).lookup k = some row) (hloaded : row.loaded = none) : P row.current := by
  rw [lookup_track] at hrow
  split at hrow
  · exact h k row hrow hloaded
  rcases Option.or_eq_some_iff.mp hrow with hnew | ⟨-, hown⟩
  swap
  · exact h k row hown hloaded
  obtain ⟨a, hafter, rfl⟩ := Option.map_eq_some_iff.mp hnew
  unfold touched at hloaded ⊢
  cases hown : own.lookup k with
  | some row₀ =>
    rw [hown] at hloaded
    obtain ⟨a', ha', hR⟩ := hgrows k row₀.current (lookup_view_of_own hown)
    obtain rfl := Option.some.inj (ha'.symm.trans hafter)
    exact hP _ _ (h k row₀ hown hloaded) hR
  | none =>
    rw [hown] at hloaded
    exact hadds k a ((lookup_view_of_none hown).trans hloaded) hafter

/-- **A part of a transaction** that takes each row it sees along `R`. -/
theorem Grown.track [Std.Refl R] [DecidableEq α] (h : Grown R P own base)
    (hP : ∀ a a', P a → R a a' → P a') (hgrows : Grows R (view own base) after)
    (hadds : Adds P (view own base) after) : Grown R P (track own base after) base := by
  refine ⟨fun k => (h.current k).track (hgrows k), fun k row loaded hrow hloaded => ?_,
    inserted_track h.inserted hP hgrows hadds⟩
  -- a row of the map is one that was there, or one that is new and as it is stored
  rcases of_lookup_track hrow with ⟨row₀, hown, hsame⟩ | ⟨-, hbase⟩
  · exact h.stored k row₀ loaded hown (hsame.symm.trans hloaded)
  · exact ⟨loaded, hbase.symm.trans hloaded, Std.Refl.refl _⟩

end

/-- **A commit** takes each stored row along `R`. -/
theorem grows_commit [Std.Refl R] (hmerge : MergeGrows merge R) (h : Grown R P own base)
    (hcommit : commit merge own base = some t) : Grows R base t := by
  intro k a ha
  cases hown : own.lookup k with
  | none => exact ⟨a, by rw [lookup_commit_of_none hcommit hown, ha], Std.Refl.refl a⟩
  | some row =>
    rcases lookup_commit_own hcommit hown with
      ⟨-, hnone, -⟩ | ⟨loaded, stored, a', hloaded, hbase, hmerged, hafter⟩
    · rw [hnone] at ha
      cases ha
    · obtain rfl := Option.some.inj (hbase.symm.trans ha)
      obtain ⟨stored', hstored', hR⟩ := h.stored k row loaded hown hloaded
      obtain rfl := Option.some.inj (hbase.symm.trans hstored')
      exact ⟨a', hafter, hmerge _ _ _ _ (h.current k row loaded hown hloaded) hR hmerged⟩

/-- What a commit adds is `P`. -/
theorem adds_commit (h : Grown R P own base) (hcommit : commit merge own base = some t) : Adds P base t := by
  intro k a hnone ha
  cases hown : own.lookup k with
  | none =>
    rw [lookup_commit_of_none hcommit hown, hnone] at ha
    cases ha
  | some row =>
    rcases lookup_commit_own hcommit hown with ⟨hloaded, -, hafter⟩ | ⟨_, _, _, _, hbase, _⟩
    · obtain rfl := Option.some.inj (hafter.symm.trans ha)
      exact h.inserted k row hown hloaded
    · rw [hnone] at hbase
      cases hbase

end UnitOfWork
