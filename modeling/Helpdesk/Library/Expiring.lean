import Helpdesk.Library.Table

/-! # Keys that expire

A store of keys that are each kept up to some instant, as `SET key NX EX ttl` leaves them: the key is
set if it is not there, and then kept for the time `ttl`.

* `keptUntil_setNx` is what a call that sets a key promises;
* `KeptUntil.setNx` says that later calls, for whatever keys, take nothing of it back;
* **`not_setNx_of_keptUntil`** is what the promise is good for: until then, nobody else sets the key. -/

namespace Expiring

variable {κ : Type} [DecidableEq κ]

/-- Each key with the last instant at which it is there. -/
abbrev Store (κ : Type) [DecidableEq κ] := Table κ Int

/-- The key is there at `now`. -/
def Held (s : Store κ) (now : Int) (k : κ) : Prop := ∃ expiresAt ∈ s.lookup k, now ≤ expiresAt

instance (s : Store κ) (now : Int) (k : κ) : Decidable (Held s now k) := by
  unfold Held
  infer_instance

/-- `SET k NX EX ttl` at `now`: whether the key was set, and the store. -/
def setNx (ttl now : Int) (k : κ) (s : Store κ) : Bool × Store κ :=
  if Held s now k then (false, s) else (true, AList.insert k (now + ttl) s)

/-- The key will not be gone before `t`. -/
def KeptUntil (s : Store κ) (k : κ) (t : Int) : Prop := ∃ expiresAt ∈ s.lookup k, t ≤ expiresAt

variable {s : Store κ} {k k' : κ} {ttl now t : Int}

/-- A key that has been set is kept for its time. -/
theorem keptUntil_setNx (h : (setNx ttl now k s).1 = true) :
    KeptUntil (setNx ttl now k s).2 k (now + ttl) := by
  unfold setNx at h ⊢
  split
  next hheld =>
    rw [if_pos hheld] at h
    cases h
  next =>
    refine ⟨now + ttl, ?_, le_refl _⟩
    rw [AList.lookup_insert]
    rfl

/-- A later call takes nothing back: a key that it sets again is kept for longer. -/
theorem KeptUntil.setNx (h : KeptUntil s k t) (hlater : t ≤ now + ttl) :
    KeptUntil (setNx ttl now k' s).2 k t := by
  unfold Expiring.setNx
  split
  · exact h
  · obtain ⟨expiresAt, hl, ht⟩ := h
    by_cases hk : k = k'
    · subst hk
      refine ⟨now + ttl, ?_, hlater⟩
      rw [AList.lookup_insert]
      rfl
    · refine ⟨expiresAt, ?_, ht⟩
      rw [AList.lookup_insert_ne hk]
      exact hl

/-- As long as it is kept, the key is not set again. -/
theorem not_setNx_of_keptUntil (h : KeptUntil s k t) (hnow : now ≤ t) :
    (setNx ttl now k s).1 = false := by
  obtain ⟨expiresAt, hl, ht⟩ := h
  have hheld : Held s now k := ⟨expiresAt, hl, hnow.trans ht⟩
  rw [setNx, if_pos hheld]

end Expiring
