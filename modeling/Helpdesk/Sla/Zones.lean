import Helpdesk.Library.Clock
import Helpdesk.Sla.DueAt

/-! # Time zones

A zone as `ZoneInfo` has it: a clock whose offset changes now and then, and is less than a day at any time.
Wall-clock times are resolved by PEP 495. -/

namespace Helpdesk.Sla

/-- `ZoneInfo(key)` -/
structure Timezone extends Clock where
  /-- what `datetime` demands of every `utcoffset()` -/
  bounded : ∀ offset ∈ initial :: changes.map (·.2), -dayLength < offset ∧ offset < dayLength

/-- The zone of `compute_sla_due_at`. -/
def Timezone.zone (tz : Timezone) : Zone where
  utcOffset wall fold := tz.readingOffset wall fold
  fromUtc u := (u + tz.offsetAt u, tz.repeatsAt u)

theorem checked_eq_ok {t u : Int} : checked t = .ok u ↔ u = t ∧ 0 ≤ t ∧ t < endOfTime := by
  constructor
  · intro h
    have hrange : 0 ≤ t ∧ t < endOfTime := by
      by_contra hout
      rw [checked, if_neg hout] at h
      cases h
    exact ⟨checked_ok h, hrange⟩
  · rintro ⟨rfl, hrange⟩
    exact if_pos hrange

/-- An offset that a reading resolves by is one of the zone. -/
theorem Timezone.readingOffset_bounded (tz : Timezone) (wall : Int) (fold : Bool) :
    -dayLength < tz.readingOffset wall fold ∧ tz.readingOffset wall fold < dayLength :=
  tz.bounded _ (Clock.readingOffset_mem wall fold)

end Helpdesk.Sla
