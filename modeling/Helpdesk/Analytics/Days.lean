import Mathlib.Algebra.BigOperators.Group.List.Basic
import Mathlib.Data.Int.ConditionallyCompleteOrder
import Mathlib.Data.Int.LeastGreatest
import Mathlib.Tactic.Linarith
import Mathlib.Tactic.Ring
import Helpdesk.Core.Schema
import Helpdesk.Sla.Zones

/-! # Local days

`local_day_utc_bounds` and `tickets_created_count`. The midnights on both sides of a day are resolved with
`fold=0`, so that a day ends where the next one starts. **`days_tile`**: the days tile the timeline if the
zone's clock gains less than a day within any day; that each change gains less is not enough. -/

namespace Helpdesk.Analytics

open Sla

/-- `local_day_utc_bounds` -/
def localDayUtcBounds (tz : Zone) (localDay : Int) : Except SlaError (Int × Int) := do
  let startLocal : Local := ⟨localDay * dayLength, false⟩
  let endLocal ← checked (startLocal.wall + dayLength)
  let startUtc ← toUtc tz startLocal
  let endUtc ← toUtc tz ⟨endLocal, false⟩
  pure (startUtc, endUtc)

/-- The tickets of the organization that were created in `[start, end)`. -/
def createdBetween (db : Db) (organizationId : Uuid) (window : Int × Int) : Nat :=
  (db.tickets.select fun _ t =>
    t.organizationId = organizationId && window.1 ≤ t.createdAt && t.createdAt < window.2).length

/-- `tickets_created_count` -/
def ticketsCreatedCount (db : Db) (organizationId : Uuid) (tz : Zone) (localDay : Int) : Except SlaError Nat := do
  let window ← localDayUtcBounds tz localDay
  pure (createdBetween db organizationId window)

/-- The local day at whose start and before whose end the instant lies. -/
def OnDay (tz : Zone) (localDay u : Int) : Prop :=
  ∃ window, localDayUtcBounds tz localDay = .ok window ∧ window.1 ≤ u ∧ u < window.2

/-- `n` days from `first` on. -/
def dayRange (first : Int) : Nat → List Int
  | 0 => []
  | n + 1 => first :: dayRange (first + 1) n

theorem mem_dayRange {first day : Int} {n : Nat} : day ∈ dayRange first n ↔ first ≤ day ∧ day < first + n := by
  induction n generalizing first with
  | zero => simp [dayRange]
  | succ n ih =>
    rw [dayRange, List.mem_cons, ih]
    omega

/-- Each change of the clock is smaller than `span`. -/
def ChangesLess (c : Clock) (span : Int) : Prop :=
  (c.initial :: c.changes.map (·.2)).IsChain fun a b => |b - a| < span

/-! ## Midnights

`dayStart` is the midnight of a day as Python resolves it. Where the bounds of a day can be computed they are
the starts of the day and of the next one. -/

/-- The instant at which a day starts. -/
def dayStart (tz : Zone) (localDay : Int) : Int :=
  localDay * dayLength - tz.utcOffset (localDay * dayLength) false

section
variable {tz : Zone} {localDay : Int} {window : Int × Int}

theorem dayStart_succ : dayStart tz (localDay + 1) =
    localDay * dayLength + dayLength - tz.utcOffset (localDay * dayLength + dayLength) false := by
  rw [dayStart, Int.add_mul, Int.one_mul]

/-- Both bounds are starts of days; all that is computed lies in the years that Python knows. -/
theorem localDayUtcBounds_ok : localDayUtcBounds tz localDay = .ok window ↔
    window = (dayStart tz localDay, dayStart tz (localDay + 1)) ∧
      (0 ≤ localDay * dayLength + dayLength ∧ localDay * dayLength + dayLength < endOfTime) ∧
      (0 ≤ dayStart tz localDay ∧ dayStart tz localDay < endOfTime) ∧
      0 ≤ dayStart tz (localDay + 1) ∧ dayStart tz (localDay + 1) < endOfTime := by
  rw [dayStart_succ]
  constructor
  · intro h
    obtain ⟨endLocal, hlocal, h⟩ := Outcome.bind_eq_ok.mp h
    obtain ⟨startUtc, hstart, h⟩ := Outcome.bind_eq_ok.mp h
    obtain ⟨endUtc, hend, h⟩ := Outcome.bind_eq_ok.mp h
    obtain ⟨rfl, hlocal'⟩ := checked_eq_ok.mp hlocal
    obtain ⟨rfl, hstart'⟩ := checked_eq_ok.mp hstart
    obtain ⟨rfl, hend'⟩ := checked_eq_ok.mp hend
    exact ⟨((Outcome.pure_eq_ok _ _).mp h).symm, hlocal', hstart', hend'⟩
  · rintro ⟨rfl, hlocal, hstart, hend⟩
    exact Outcome.bind_eq_ok.mpr ⟨_, checked_eq_ok.mpr ⟨rfl, hlocal⟩,
      Outcome.bind_eq_ok.mpr ⟨_, checked_eq_ok.mpr ⟨rfl, hstart⟩,
        Outcome.bind_eq_ok.mpr ⟨_, checked_eq_ok.mpr ⟨rfl, hend⟩, rfl⟩⟩⟩

end

/-! ## The tiling

That starts of days increase is what the condition on the zone is needed for; that they leave nothing out holds
in every zone, since a day starts within a day of its midnight in UTC. The counts add up by induction on the
number of days. -/

section
variable {tz : Timezone}

theorem dayStart_lt (h : tz.GainsLess dayLength) (localDay : Int) :
    dayStart tz.zone localDay < dayStart tz.zone (localDay + 1) := by
  rw [dayStart_succ]
  exact Clock.resolve_lt (by decide) h _

theorem dayStart_strictMono (h : tz.GainsLess dayLength) : StrictMono (dayStart tz.zone) :=
  strictMono_int_of_lt_succ (dayStart_lt h)

/-- A day starts within a day of its midnight in UTC. -/
theorem dayStart_near (tz : Timezone) (localDay : Int) :
    (localDay - 1) * dayLength < dayStart tz.zone localDay ∧
      dayStart tz.zone localDay < (localDay + 1) * dayLength := by
  obtain ⟨hlow, hhigh⟩ := tz.readingOffset_bounded (localDay * dayLength) false
  show _ < localDay * dayLength - tz.readingOffset _ _ ∧ localDay * dayLength - tz.readingOffset _ _ < _
  constructor
  · linarith
  · linarith

/-- Every instant is between the starts of two days. -/
theorem exists_day (tz : Timezone) (u : Int) :
    ∃ localDay, dayStart tz.zone localDay ≤ u ∧ u < dayStart tz.zone (localDay + 1) := by
  have hdiv := Int.ediv_mul_le u (show dayLength ≠ 0 by decide)
  have hdiv' := Int.lt_ediv_add_one_mul_self u (show 0 < dayLength by decide)
  obtain ⟨localDay, hle, hgreatest⟩ := Int.exists_greatest_of_bdd (P := fun d => dayStart tz.zone d ≤ u)
    ⟨u / dayLength + 2, fun d hd => by
      -- two days on from the UTC day, a day starts later
      by_contra hlt
      have hnear := (dayStart_near tz d).1
      have hmul : (u / dayLength + 2) * dayLength ≤ (d - 1) * dayLength :=
        Int.mul_le_mul_of_nonneg_right (by omega) (by decide)
      linarith⟩
    ⟨u / dayLength - 1, by
      -- and a day before it, earlier
      have hnear := (dayStart_near tz (u / dayLength - 1)).2
      have : (u / dayLength - 1 + 1) * dayLength = u / dayLength * dayLength := by ring
      linarith⟩
  refine ⟨localDay, hle, ?_⟩
  by_contra hlater
  have := hgreatest (localDay + 1) (not_lt.mp hlater)
  omega

/-- No instant is on two days. -/
theorem day_unique (h : tz.GainsLess dayLength) {a b u : Int} (ha : OnDay tz.zone a u) (hb : OnDay tz.zone b u) :
    a = b := by
  obtain ⟨_, hwindow, hfrom, hto⟩ := ha
  obtain ⟨_, hwindow', hfrom', hto'⟩ := hb
  obtain ⟨rfl, -⟩ := localDayUtcBounds_ok.mp hwindow
  obtain ⟨rfl, -⟩ := localDayUtcBounds_ok.mp hwindow'
  have hmono := dayStart_strictMono h
  have hab : a < b + 1 := hmono.lt_iff_lt.mp (lt_of_le_of_lt hfrom hto')
  have hba : b < a + 1 := hmono.lt_iff_lt.mp (lt_of_le_of_lt hfrom' hto)
  omega

/-- An instant three days inside the calendar is on some day. -/
theorem exists_onDay (tz : Timezone) {u : Int} (hlow : 3 * dayLength ≤ u) (hhigh : u < endOfTime - 3 * dayLength) :
    ∃ localDay, OnDay tz.zone localDay u := by
  obtain ⟨d, hfrom, hto⟩ := exists_day tz u
  have hstart := dayStart_near tz d
  have hend := dayStart_near tz (d + 1)
  refine ⟨d, _, localDayUtcBounds_ok.mpr ⟨rfl, ?_⟩, hfrom, hto⟩
  unfold endOfTime at hhigh ⊢
  unfold dayLength at *
  refine ⟨⟨?_, ?_⟩, ⟨?_, ?_⟩, ?_, ?_⟩ <;> omega

/-- Two windows that meet. -/
theorem createdBetween_add (db : Db) (organizationId : Uuid) {a b c : Int} (hab : a ≤ b) (hbc : b ≤ c) :
    createdBetween db organizationId (a, c) =
      createdBetween db organizationId (a, b) + createdBetween db organizationId (b, c) := by
  refine Table.length_select_split fun _ t => ?_
  by_cases horg : t.organizationId = organizationId
  · rw [Bool.eq_iff_iff]
    simp only [horg, decide_true, Bool.true_and, Bool.or_eq_true, Bool.and_eq_true, decide_eq_true_eq]
    omega
  · simp [horg]

/-- **Days in a row** count what their combined window holds. -/
theorem sum_counts (h : tz.GainsLess dayLength) (db : Db) (organizationId : Uuid) {first : Int} {n : Nat}
    {counts : List Nat}
    (hcounts : (dayRange first n).mapM (ticketsCreatedCount db organizationId tz.zone) = .ok counts) :
    counts.sum = createdBetween db organizationId (dayStart tz.zone first, dayStart tz.zone (first + n)) := by
  induction n generalizing first counts with
  | zero =>
    obtain rfl := (Outcome.pure_eq_ok _ _).mp hcounts
    symm
    show List.length _ = 0
    rw [List.length_eq_zero_iff, Table.select_eq_nil]
    intro _ t _
    simp
  | succ n ih =>
    rw [dayRange, List.mapM_cons, Outcome.bind_eq_ok] at hcounts
    obtain ⟨count, hcount, hcounts⟩ := hcounts
    obtain ⟨rest, hrest, hcounts⟩ := Outcome.bind_eq_ok.mp hcounts
    obtain ⟨window, hwindow, hcount⟩ := Outcome.bind_eq_ok.mp hcount
    obtain ⟨rfl, -⟩ := localDayUtcBounds_ok.mp hwindow
    obtain rfl := (Outcome.pure_eq_ok _ _).mp hcount
    obtain rfl := (Outcome.pure_eq_ok _ _).mp hcounts
    have hmono := (dayStart_strictMono h).monotone
    rw [List.sum_cons, ih hrest, ← createdBetween_add db organizationId (hmono (by omega)) (hmono (by omega))]
    congr 3
    push_cast
    ring

end

/-- **Days tile the timeline** in a zone whose clock gains less than a day within any day. A day ends after it
    starts, and where the next one starts; an instant three days inside the calendar is on exactly one day;
    and the daily counts of any days in a row add up to the count of their combined window. -/
theorem days_tile (tz : Timezone) (h : tz.GainsLess dayLength) :
    (∀ localDay window, localDayUtcBounds tz.zone localDay = .ok window → window.1 < window.2 ∧
      ∀ next, localDayUtcBounds tz.zone (localDay + 1) = .ok next → window.2 = next.1) ∧
    (∀ u, 3 * dayLength ≤ u → u < endOfTime - 3 * dayLength → ∃! localDay, OnDay tz.zone localDay u) ∧
    ∀ db organizationId first n counts,
      (dayRange first (n + 1)).mapM (ticketsCreatedCount db organizationId tz.zone) = .ok counts →
      ∃ window window', localDayUtcBounds tz.zone first = .ok window ∧
        localDayUtcBounds tz.zone (first + n) = .ok window' ∧
        counts.sum = createdBetween db organizationId (window.1, window'.2) := by
  refine ⟨fun localDay window hwindow => ?_, fun u hlow hhigh => ?_, fun db organizationId first n counts hcounts => ?_⟩
  · obtain ⟨rfl, -⟩ := localDayUtcBounds_ok.mp hwindow
    refine ⟨dayStart_lt h localDay, fun next hnext => ?_⟩
    obtain ⟨rfl, -⟩ := localDayUtcBounds_ok.mp hnext
    rfl
  · obtain ⟨localDay, hday⟩ := exists_onDay tz hlow hhigh
    exact ⟨localDay, hday, fun other hother => day_unique h hother hday⟩
  · have hbounds : ∀ day ∈ dayRange first (n + 1), ∃ window, localDayUtcBounds tz.zone day = .ok window := by
      intro day hday
      obtain ⟨count, -, hcount⟩ := Outcome.exists_of_mapM_eq_ok hcounts hday
      obtain ⟨window, hwindow, -⟩ := Outcome.bind_eq_ok.mp hcount
      exact ⟨window, hwindow⟩
    obtain ⟨window, hwindow⟩ := hbounds first (mem_dayRange.mpr (by omega))
    obtain ⟨window', hwindow'⟩ := hbounds (first + n) (mem_dayRange.mpr (by omega))
    refine ⟨window, window', hwindow, hwindow', ?_⟩
    obtain ⟨rfl, -⟩ := localDayUtcBounds_ok.mp hwindow
    obtain ⟨rfl, -⟩ := localDayUtcBounds_ok.mp hwindow'
    rw [sum_counts h db organizationId hcounts]
    congr 3
    push_cast
    ring

def hours (n : Int) : Int := n * 3600 * 1000000

/-- Four hours behind UTC. The clock is put forward at midnight, which is skipped; half a year later it is put back
    at one, so that a midnight comes twice. -/
def midnightZone : Timezone where
  initial := -hours 4
  changes := [(days 739000 + hours 4, -hours 3), (days 739180 + hours 4, -hours 4)]
  sorted := by decide
  bounded := by decide

/-- The day with the skipped midnight starts at the change, the day with the repeated one an hour before it and
    lasts for 25 hours; what is counted on the three days around each is what their combined window holds. -/
theorem days_tile_midnightZone :
    (localDayUtcBounds midnightZone.zone 739000 = .ok (days 739000 + hours 4, days 739001 + hours 3) ∧
      ∀ next, localDayUtcBounds midnightZone.zone 739001 = .ok next → days 739001 + hours 3 = next.1) ∧
    (localDayUtcBounds midnightZone.zone 739180 = .ok (days 739180 + hours 3, days 739181 + hours 4) ∧
      ∃! localDay, OnDay midnightZone.zone localDay (days 739180 + hours 3)) ∧
    ∀ db organizationId counts,
      (dayRange 738999 3).mapM (ticketsCreatedCount db organizationId midnightZone.zone) = .ok counts →
      ∃ window window', localDayUtcBounds midnightZone.zone 738999 = .ok window ∧
        localDayUtcBounds midnightZone.zone (738999 + (2 : Nat)) = .ok window' ∧
        counts.sum = createdBetween db organizationId (window.1, window'.2) := by
  have hwithin : ∀ offset ∈ midnightZone.initial :: midnightZone.changes.map (·.2),
      -hours 4 ≤ offset ∧ offset < -hours 4 + dayLength := by decide
  have hgains : midnightZone.GainsLess dayLength := Clock.gainsLess_of_within hwithin
  obtain ⟨hmeet, hone, hsum⟩ := days_tile midnightZone hgains
  exact ⟨⟨rfl, (hmeet 739000 _ rfl).2⟩, ⟨rfl, hone _ (by decide) (by decide)⟩,
    fun db organizationId counts => hsum db organizationId 738999 2 counts⟩

/-- A zone that keeps to UTC. -/
def utc : Timezone := ⟨⟨0, [], .nil⟩, by decide⟩

/-- The clock is put forward by twenty hours, and again after a minute. -/
def leapingZone : Timezone where
  initial := -hours 20
  changes := [(days 739000 + hours 1, 0), (days 739000 + hours 1 + 60 * 1000000, hours 20)]
  sorted := by decide
  bounded := by decide

/-- Each change is smaller than a day, and yet the day ends before it starts: its midnight is skipped by the first
    change, the next one comes after the second. The last day of the calendar has no bounds in any zone. -/
theorem not_days_tile :
    (ChangesLess leapingZone.toClock dayLength ∧
      localDayUtcBounds leapingZone.zone 739000 = .ok (days 739000 + hours 20, days 739000 + hours 4)) ∧
    localDayUtcBounds utc.zone 3652058 = .error .overflowError := by
  refine ⟨⟨?_, rfl⟩, rfl⟩
  unfold ChangesLess
  decide

end Helpdesk.Analytics
