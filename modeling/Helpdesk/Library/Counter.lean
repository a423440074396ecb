import Helpdesk.Library.Table

/-! # Counters that expire

A store of counters under `INCR` and `EXPIRE key ttl NX`. `INCR` starts a counter that is not there, without
an expiry; `EXPIRE NX` sets the expiry of a counter that has none. A counter that has expired is not there
any more, though its row may be.

`Counts s k n t` is what a run of such commands keeps: the counter has come to `n`, and does not expire
before `t`. It is kept by an `INCR` that is made before `t` (`Counts.incr`) and by an `EXPIRE NX` that
gives the counter until `t` (`Counts.expireNx`).

A command is given the time at which it is executed; the store is not told that time has passed. What has
expired is therefore not deleted, but it is not `live` any more. -/

/-- A counter; it expires after `expiresAt`. -/
structure Counter (τ : Type) where
  value : Nat
  expiresAt : Option τ

namespace Counter

variable {κ τ : Type} [DecidableEq κ]

/-- The counters by their keys. -/
abbrev Store (κ τ : Type) [DecidableEq κ] := Table κ (Counter τ)

section
variable [LE τ] [DecidableLE τ]

/-- The counter is there at `now`. -/
def live (s : Store κ τ) (now : τ) (k : κ) : Option (Counter τ) :=
  (s.lookup k).filter fun c => c.expiresAt.all fun expiresAt => now ≤ expiresAt

/-- `INCR k`: the new value, and the store. -/
def incr (now : τ) (k : κ) (s : Store κ τ) : Nat × Store κ τ :=
  match live s now k with
  | some c => (c.value + 1, AList.insert k { c with value := c.value + 1 } s)
  | none => (1, AList.insert k ⟨1, none⟩ s)

/-- `EXPIRE k ttl NX` -/
def expireNx [Add τ] (ttl now : τ) (k : κ) (s : Store κ τ) : Store κ τ :=
  match live s now k with
  | some ⟨value, none⟩ => AList.insert k ⟨value, some (now + ttl)⟩ s
  | some ⟨_, some _⟩ => s
  | none => s

end

/-- The counter `k` has come to `n` and does not expire before `t`. -/
def Counts [LE τ] (s : Store κ τ) (k : κ) (n : Nat) (t : τ) : Prop :=
  match s.lookup k with
  | none => n = 0
  | some c => c.value = n ∧ ∀ expiresAt ∈ c.expiresAt, t ≤ expiresAt

section
variable [LE τ] {s s' : Store κ τ} {k : κ} {n : Nat} {t : τ}

theorem counts_of_lookup {c : Counter τ} (hrow : s.lookup k = some c) :
    Counts s k n t ↔ c.value = n ∧ ∀ expiresAt ∈ c.expiresAt, t ≤ expiresAt := by
  unfold Counts
  rw [hrow]

theorem counts_congr (h : s'.lookup k = s.lookup k) : Counts s' k n t ↔ Counts s k n t := by
  unfold Counts
  rw [h]

theorem Counts.value_eq (h : Counts s k n t) : (s.lookup k).elim 0 (·.value) = n := by
  unfold Counts at h
  cases hrow : s.lookup k with
  | none =>
    rw [hrow] at h
    exact h.symm
  | some c =>
    rw [hrow] at h
    exact h.1

end

section
variable [Preorder τ] [DecidableLE τ] {s : Store κ τ} {k k' : κ} {n : Nat} {t now ttl : τ}

/-- A counter that does not expire before `t` is there until then. -/
theorem Counts.live_eq (h : Counts s k n t) (hnow : now ≤ t) : live s now k = s.lookup k := by
  unfold live
  cases hrow : s.lookup k with
  | none => rfl
  | some c =>
    have hkept := ((counts_of_lookup hrow).mp h).2
    rw [Option.filter_some, if_pos]
    cases hexpires : c.expiresAt with
    | none => rfl
    | some expiresAt => simpa using hnow.trans (hkept expiresAt hexpires)

/-- `INCR` before `t` counts on. -/
theorem Counts.incr (h : Counts s k n t) (hnow : now ≤ t) :
    (incr now k s).1 = n + 1 ∧ Counts (incr now k s).2 k (n + 1) t := by
  unfold Counter.incr
  rw [h.live_eq hnow]
  cases hrow : s.lookup k with
  | none =>
    have hzero : n = 0 := by
      unfold Counts at h
      rwa [hrow] at h
    subst hzero
    exact ⟨rfl, (counts_of_lookup (AList.lookup_insert _)).mpr ⟨rfl, fun _ h => by cases h⟩⟩
  | some c =>
    obtain ⟨rfl, hkept⟩ := (counts_of_lookup hrow).mp h
    exact ⟨rfl, (counts_of_lookup (AList.lookup_insert _)).mpr ⟨rfl, hkept⟩⟩

theorem incr_lookup_of_ne (h : k' ≠ k) : (Counter.incr now k s).2.lookup k' = s.lookup k' := by
  unfold Counter.incr
  split
  · exact AList.lookup_insert_ne h
  · exact AList.lookup_insert_ne h

/-- `EXPIRE NX` that gives the counter until `t` or longer, or is about another one. -/
theorem Counts.expireNx [Add τ] (h : Counts s k n t) (hgives : k = k' → t ≤ now + ttl) :
    Counts (Counter.expireNx ttl now k' s) k n t := by
  unfold Counter.expireNx
  cases hlive : live s now k' with
  | none => exact h
  | some c =>
    obtain ⟨value, expires⟩ := c
    cases expires with
    | some expiresAt => exact h
    | none =>
      by_cases hk : k = k'
      · subst hk
        have hrow : s.lookup k = some ⟨value, none⟩ := (Option.filter_eq_some_iff.mp hlive).1
        refine (counts_of_lookup (AList.lookup_insert _)).mpr ⟨((counts_of_lookup hrow).mp h).1, ?_⟩
        rintro expiresAt ⟨⟩
        exact hgives rfl
      · exact (counts_congr (AList.lookup_insert_ne hk)).mpr h

end

end Counter
