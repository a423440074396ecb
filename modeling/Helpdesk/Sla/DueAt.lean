import Helpdesk.Core.Basic
import Helpdesk.Sla.BusinessHours

/-! # The due-date walk

`compute_sla_due_at`. A zone is what Python's `ZoneInfo` offers: a UTC offset for every wall-clock
time (and `fold`), and the wall-clock time of every instant. Two datetimes of one zone are compared
on the wall clock, as Python does, and converted to UTC before they are subtracted. -/

namespace Helpdesk.Sla

/-! ## Zones and local datetimes

Instants are microseconds since `0001-01-01T00:00` in UTC, wall-clock times are microseconds since that reading.
Every operation of `datetime` that can leave the calendar is followed by `checked`. -/

/-- A `tzinfo`. -/
structure Zone where
  utcOffset : (wall : Int) → (fold : Bool) → Int
  fromUtc : Int → Int × Bool

/-- A zone whose offset never changes. -/
def Zone.fixed (offset : Int) : Zone where
  utcOffset _ _ := offset
  fromUtc t := (t + offset, false)

/-- An aware `datetime` of the organization's zone. The wall clock counts microseconds since
    `0001-01-01T00:00`, a Monday. -/
structure Local where
  wall : Int
  fold : Bool

/-- `cursor.date()`, in days since `0001-01-01`. -/
def Local.date (l : Local) : Int := l.wall / dayLength

/-- What the walk can raise. -/
inductive SlaError where
  | businessHoursExhausted
  /-- a date past the year 9999 or before the year 1, or too long a `timedelta` -/
  | overflowError
  /-- an entry that is no pair of times; `computeSlaDueAt_ne_malformed` rules it out -/
  | malformedSchedule
  deriving DecidableEq

/-- The first instant after `9999-12-31`. -/
def endOfTime : Int := 3652059 * dayLength

/-- The range check of every `datetime` operation. -/
def checked (t : Int) : Except SlaError Int :=
  if 0 ≤ t ∧ t < endOfTime then pure t else throw .overflowError

/-- `timedelta(hours=n)`, at most 999999999 days. -/
def hoursDelta (n : Int) : Except SlaError Int :=
  if -999999999 ≤ n / 24 ∧ n / 24 ≤ 999999999 then pure (n * 3600 * 1000000)
  else throw .overflowError

/-- `t.astimezone(tz)`, by way of the datetime in UTC, which has to be one. An aware datetime of the first or the
    last day of the calendar may have none. -/
def astimezone (tz : Zone) (t : Int) : Except SlaError Local := do
  let utc ← checked t
  let wall ← checked (tz.fromUtc utc).1
  pure ⟨wall, (tz.fromUtc utc).2⟩

/-- `l.astimezone(UTC)`. -/
def toUtc (tz : Zone) (l : Local) : Except SlaError Int :=
  checked (l.wall - tz.utcOffset l.wall l.fold)

/-- `datetime.combine(date, t, tzinfo=tz)`: an offset written in `t` is ignored. -/
def combine (date : Int) (t : PyTime) : Local := ⟨date * dayLength + t.wall, false⟩

/-- `datetime.combine(date + timedelta(days=1), time.min, tzinfo=tz)`. -/
def nextMidnight (date : Int) : Except SlaError Local := do
  let wall ← checked ((date + 1) * dayLength)
  pure ⟨wall, false⟩

/-- `DAY_KEYS[cursor.weekday()]`. -/
def dayKeyOf (date : Int) : String := dayKeys.getD (date % 7).toNat ""

/-! ## The walk

A function for each of the two loops. The second one has a bound in the source, and counts it down here. -/

def maxWalkDays : Nat := 366

/-- How a day ends: with the due instant, or with the cursor and what remains. -/
inductive DayOutcome where
  | due (t : Int)
  | carryOn (cursor : Local) (remaining : Int)

/-- The loop over a day's windows. -/
def walkWindows (tz : Zone) : List Json → Local → Int → Except SlaError DayOutcome
  | [], cursor, remaining => pure (.carryOn cursor remaining)
  | window :: windows, cursor, remaining =>
    match windowTimes window with
    | none => throw .malformedSchedule
    | some (start, finish) => do
      let windowStart := combine cursor.date start
      let windowEnd := combine cursor.date finish
      if windowEnd.wall ≤ cursor.wall then
        walkWindows tz windows cursor remaining
      else
        -- `max(cursor, window_start)`
        let effectiveStart := if cursor.wall < windowStart.wall then windowStart else cursor
        let endUtc ← toUtc tz windowEnd
        let startUtc ← toUtc tz effectiveStart
        let available := endUtc - startUtc
        if remaining ≤ available then
          let due ← checked (startUtc + remaining)
          pure (.due due)
        else
          walkWindows tz windows windowEnd (remaining - available)

/-- The loop over days, `n` of them at most. -/
def walk (tz : Zone) (businessHours : JsonObject) : Nat → Local → Int → Except SlaError Int
  | 0, _, _ => throw .businessHoursExhausted
  | n + 1, cursor, remaining =>
    match dayEntries businessHours (dayKeyOf cursor.date) with
    | none => throw .malformedSchedule
    | some windows => do
      match ← walkWindows tz windows cursor remaining with
      | .due t => pure t
      | .carryOn cursor remaining =>
        let midnight ← nextMidnight cursor.date
        walk tz businessHours n midnight remaining

/-- `compute_sla_due_at`, with the zone that `ZoneInfo(timezone_name)` is. -/
def computeSlaDueAt (fromTimestamp : Int) (slaHours : Int) (respectsBusinessHours : Bool)
    (tz : Zone) (businessHours : JsonObject) : Except SlaError Int := do
  if respectsBusinessHours = false then
    let startUtc ← checked fromTimestamp
    let delta ← hoursDelta slaHours
    checked (startUtc + delta)
  else
    let cursor ← astimezone tz fromTimestamp
    let remaining ← hoursDelta slaHours
    walk tz businessHours maxWalkDays cursor remaining

/-! ## Accepted schedules

The walk takes it for granted that the schedule has been validated. `Schedule` has the result of the validator
as a field, and `malformedSchedule`, which stands for what unpacking or `fromisoformat` would raise, never comes
up. -/

/-- A weekly schedule that the validator has let through. -/
structure Schedule where
  hours : JsonObject
  accepted : parseBusinessHours hours = .ok ()

variable {tz : Zone} {cursor : Local} {remaining t : Int}

theorem checked_ok {t u : Int} (h : checked t = .ok u) : u = t := by
  unfold checked at h
  split at h
  · exact ((Outcome.pure_eq_ok _ _).mp h).symm
  · simp at h

theorem astimezone_ok {l : Local} (h : astimezone tz t = .ok l) : l = ⟨(tz.fromUtc t).1, (tz.fromUtc t).2⟩ := by
  obtain ⟨utc, hutc, hconverted⟩ := Outcome.bind_eq_ok.mp h
  obtain rfl := checked_ok hutc
  obtain ⟨wall, hwall, hlocal⟩ := Outcome.bind_eq_ok.mp hconverted
  obtain rfl := checked_ok hwall
  exact ((Outcome.pure_eq_ok _ _).mp hlocal).symm

theorem checked_ne_malformed (t : Int) : checked t ≠ .error .malformedSchedule := by
  unfold checked
  split <;> simp [pure, Except.pure, throw, throwThe, MonadExceptOf.throw]

/-- A step that does not fail as malformed passes the error of the first part on, if any. -/
theorem bind_ne_malformed {α β : Type} {x : Except SlaError α} {f : α → Except SlaError β}
    (hx : x ≠ .error .malformedSchedule) (hf : ∀ a, f a ≠ .error .malformedSchedule) :
    x >>= f ≠ .error .malformedSchedule := by
  cases x with
  | error e =>
    intro h
    exact hx (by simpa [bind, Except.bind] using h)
  | ok a => exact hf a

theorem walkWindows_ne_malformed {windows : List Json}
    (h : ∀ window ∈ windows, ∃ w, windowTimes window = some w) (cursor : Local) (remaining : Int) :
    walkWindows tz windows cursor remaining ≠ .error .malformedSchedule := by
  induction windows generalizing cursor remaining with
  | nil => simp [walkWindows, pure, Except.pure]
  | cons window windows ih =>
    obtain ⟨⟨start, finish⟩, hw⟩ := h window List.mem_cons_self
    have hrest := ih fun w hw => h w (List.mem_cons_of_mem _ hw)
    rw [walkWindows, hw]
    dsimp only
    split
    · exact hrest _ _
    · refine bind_ne_malformed (checked_ne_malformed _) fun endUtc => ?_
      refine bind_ne_malformed (checked_ne_malformed _) fun startUtc => ?_
      split
      · refine bind_ne_malformed (checked_ne_malformed _) fun due => ?_
        simp [pure, Except.pure]
      · exact hrest _ _

theorem walk_ne_malformed (sched : Schedule) (n : Nat) (cursor : Local) (remaining : Int) :
    walk tz sched.hours n cursor remaining ≠ .error .malformedSchedule := by
  induction n generalizing cursor remaining with
  | zero => simp [walk, throw, throwThe, MonadExceptOf.throw]
  | succ n ih =>
    obtain ⟨items, hitems, hall⟩ := accepted_windows sched.accepted (dayKeyOf cursor.date)
    rw [walk, hitems]
    refine bind_ne_malformed (walkWindows_ne_malformed (fun pair hpair => ?_) _ _) fun day => ?_
    · obtain ⟨w, hw, -⟩ := hall pair hpair
      exact ⟨w, hw⟩
    · cases day with
      | due t => simp [pure, Except.pure]
      | carryOn cursor remaining =>
        refine bind_ne_malformed (bind_ne_malformed (checked_ne_malformed _) fun _ => ?_)
          fun midnight => ih _ _
        simp [pure, Except.pure]

/-- **The validator is strict enough for the walk**: on an accepted schedule it never meets an entry
    it cannot read. -/
theorem computeSlaDueAt_ne_malformed (fromTimestamp : Int) (slaHours : Int) (respects : Bool)
    (tz : Zone) (sched : Schedule) :
    computeSlaDueAt fromTimestamp slaHours respects tz sched.hours ≠ .error .malformedSchedule := by
  have hdelta : hoursDelta slaHours ≠ .error .malformedSchedule := by
    unfold hoursDelta
    split <;> simp [pure, Except.pure, throw, throwThe, MonadExceptOf.throw]
  unfold computeSlaDueAt
  split
  · refine bind_ne_malformed (checked_ne_malformed _) fun startUtc => ?_
    exact bind_ne_malformed hdelta fun delta => checked_ne_malformed _
  · refine bind_ne_malformed (bind_ne_malformed (checked_ne_malformed _) fun utc => ?_) fun cursor => ?_
    · refine bind_ne_malformed (checked_ne_malformed _) fun _ => ?_
      simp [pure, Except.pure]
    · exact bind_ne_malformed hdelta fun delta => walk_ne_malformed sched _ _ _

end Helpdesk.Sla
