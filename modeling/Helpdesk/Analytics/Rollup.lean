import Helpdesk.Analytics.Days

/-! # The nightly rollup

`rollup_daily_metrics` runs at 00:30 UTC and computes the last two local days of each organization that have
ended. So the days of two runs meet as long as the local date is no more than two days on.

A missed run is absorbed (`rollup_gapless`) unless the clock is put forward across midnight meanwhile: at
00:30 UTC it is 23:30 one hour behind UTC, and a clock that is put forward by an hour has then seen three
midnights in two days (`not_rollup_gapless`). -/

namespace Helpdesk.Analytics

open Sla

/-- `LOOKBACK_DAYS` -/
def lookbackDays : Nat := 2

/-- The range check of `date - timedelta`. -/
def checkedDate (date : Int) : Except SlaError Int :=
  if 0 ≤ date then pure date else throw .overflowError

/-- `_completed_local_days` -/
def completedLocalDays (tz : Zone) (now : Int) : Except SlaError (List Int) := do
  let localNow ← astimezone tz now
  (List.range' 1 lookbackDays).mapM fun (offset : Nat) => checkedDate (localNow.date - offset)

/-- The scheduled run of a UTC day, at 00:30. -/
def scheduled (day : Int) : Int := day * dayLength + 30 * 60 * 1000000

/-- The run of the UTC day computes the local day. -/
def Computes (tz : Zone) (run localDay : Int) : Prop :=
  ∃ localDays, completedLocalDays tz (scheduled run) = .ok localDays ∧ localDay ∈ localDays

/-- Runs at the scheduled time, by their UTC days. -/
structure History (tz : Zone) where
  runs : List Int
  /-- no two in a row are missed -/
  steps : runs.IsChain fun run next => next = run + 1 ∨ next = run + 2
  returned : ∀ run ∈ runs, ∃ localDays, completedLocalDays tz (scheduled run) = .ok localDays

/-- Each day between those of the first run and those of the last is computed by some run. -/
def History.Gapless {tz : Zone} (h : History tz) : Prop :=
  ∀ first ∈ h.runs.head?, ∀ last ∈ h.runs.getLast?, ∀ earliest latest localDay,
    Computes tz first earliest → Computes tz last latest → earliest ≤ localDay → localDay ≤ latest →
      ∃ run ∈ h.runs, Computes tz run localDay

/-- Each day has ended when it is computed. -/
def History.OnlyEnded {tz : Zone} (h : History tz) : Prop :=
  ∀ run ∈ h.runs, ∀ localDay, Computes tz run localDay →
    ∀ window, localDayUtcBounds tz localDay = .ok window → window.2 ≤ scheduled run

/-! ## Local dates of the runs

What a run computes depends on the local date at which it finds the organization. From run to run the date goes
on by at most two exactly under `Absorbed`, a condition on the clock's reading and on what its offset gains. -/

section
variable {tz : Timezone} {run next localDay : Int}

/-- The reading of the organization's clock at a run. -/
def reading (tz : Timezone) (run : Int) : Int := scheduled run + tz.offsetAt (scheduled run)

/-- `local_today` -/
def localToday (tz : Timezone) (run : Int) : Int := reading tz run / dayLength

/-- From one run to the next the clock passes two midnights at most: the time of day at the first and what the
    offset gains stay below a day for each scheduled run that the two are short of three. -/
def Absorbed (tz : Timezone) (run next : Int) : Prop :=
  reading tz run % dayLength + (tz.offsetAt (scheduled next) - tz.offsetAt (scheduled run)) <
    (3 - (next - run)) * dayLength

instance : DecidableRel (Absorbed tz) := fun _ _ => inferInstanceAs (Decidable (_ < _))

theorem localToday_le_iff : localToday tz next ≤ localToday tz run + 2 ↔ Absorbed tz run next := by
  have hnext : reading tz next = reading tz run + (next - run) * dayLength +
      (tz.offsetAt (scheduled next) - tz.offsetAt (scheduled run)) := by
    unfold reading scheduled
    ring
  unfold localToday Absorbed
  rw [hnext]
  unfold dayLength
  omega

/-- A missed run is absorbed where the clock is not put forward. -/
theorem absorbed_of_offset_le (hstep : next = run + 1 ∨ next = run + 2)
    (h : tz.offsetAt (scheduled next) ≤ tz.offsetAt (scheduled run)) : Absorbed tz run next := by
  have := Int.emod_lt_of_pos (reading tz run) (show 0 < dayLength by decide)
  unfold Absorbed
  obtain rfl | rfl := hstep
  · unfold dayLength at *
    omega
  · unfold dayLength at *
    omega

theorem checkedDate_ok {date d : Int} (h : checkedDate date = .ok d) : d = date := by
  unfold checkedDate at h
  split at h
  · exact ((Outcome.pure_eq_ok _ _).mp h).symm
  · cases h

theorem completedLocalDays_ok {localDays : List Int}
    (h : completedLocalDays tz.zone (scheduled run) = .ok localDays) :
    localDays = [localToday tz run - 1, localToday tz run - 2] := by
  obtain ⟨localNow, hnow, h⟩ := Outcome.bind_eq_ok.mp h
  obtain rfl := astimezone_ok hnow
  have hdays : List.Forall₂ _ [1, 2] localDays := Outcome.mapM_eq_ok.mp h
  obtain ⟨yesterday, _, hyesterday, hrest, rfl⟩ := List.forall₂_cons_left_iff.mp hdays
  obtain ⟨before, _, hbefore, hnil, rfl⟩ := List.forall₂_cons_left_iff.mp hrest
  obtain rfl := List.forall₂_nil_left_iff.mp hnil
  rw [checkedDate_ok hyesterday, checkedDate_ok hbefore]
  rfl

theorem computes_iff (hreturned : ∃ localDays, completedLocalDays tz.zone (scheduled run) = .ok localDays) :
    Computes tz.zone run localDay ↔ localToday tz run - 2 ≤ localDay ∧ localDay < localToday tz run := by
  obtain ⟨localDays, hdays⟩ := hreturned
  have hmem : localDay ∈ localDays ↔ localToday tz run - 2 ≤ localDay ∧ localDay < localToday tz run := by
    rw [completedLocalDays_ok hdays]
    simp only [List.mem_cons, List.not_mem_nil, or_false]
    omega
  rw [← hmem]
  constructor
  · intro ⟨_, hdays', hday⟩
    cases hdays.symm.trans hdays'
    exact hday
  · intro hday
    exact ⟨localDays, hdays, hday⟩

/-! ## Histories

`exists_run` is the combinatorial part. The rest is that a day which is computed has ended: its last midnight
lies before the reading of the run, unless the clock has just skipped over it. -/

/-- Steps of two days at most leave out no day. The induction goes along the runs; a day that the first run does
    not compute is not before those of the second. -/
theorem exists_run {first last : Int} {runs : List Int}
    (hsteps : (first :: runs).IsChain fun run next => localToday tz next ≤ localToday tz run + 2)
    (hlast : last ∈ (first :: runs).getLast?) (hfrom : localToday tz first - 2 ≤ localDay)
    (hto : localDay < localToday tz last) :
    ∃ run ∈ first :: runs, localToday tz run - 2 ≤ localDay ∧ localDay < localToday tz run := by
  induction runs generalizing first with
  | nil =>
    obtain rfl : first = last := by simpa using hlast
    exact ⟨first, List.mem_cons_self, hfrom, hto⟩
  | cons next runs ih =>
    obtain ⟨hstep, hrest⟩ := List.isChain_cons_cons.mp hsteps
    by_cases hfirst : localDay < localToday tz first
    · exact ⟨first, List.mem_cons_self, hfrom, hfirst⟩
    · rw [List.getLast?_cons_cons] at hlast
      obtain ⟨run, hrun, hday⟩ := ih hrest hlast (by omega)
      exact ⟨run, List.mem_cons_of_mem _ hrun, hday⟩

/-- The midnights that end a run's days have not just been skipped. -/
def MidnightsPassed (tz : Timezone) (run : Int) : Prop :=
  ¬ tz.JustSkipped (localToday tz run * dayLength) (scheduled run) ∧
    ¬ tz.JustSkipped ((localToday tz run - 1) * dayLength) (scheduled run)

instance : DecidablePred (MidnightsPassed tz) := fun _ => inferInstanceAs (Decidable (_ ∧ _))

theorem midnight_le_reading (tz : Timezone) (run : Int) : localToday tz run * dayLength ≤ reading tz run :=
  Int.ediv_mul_le _ (by decide)

theorem window_end_le (hpassed : MidnightsPassed tz run) (hfrom : localToday tz run - 2 ≤ localDay)
    (hto : localDay < localToday tz run) {window : Int × Int}
    (hwindow : localDayUtcBounds tz.zone localDay = .ok window) : window.2 ≤ scheduled run := by
  obtain ⟨rfl, -⟩ := localDayUtcBounds_ok.mp hwindow
  have hmidnight := midnight_le_reading tz run
  obtain rfl | rfl : localDay = localToday tz run - 1 ∨ localDay = localToday tz run - 2 := by omega
  · show dayStart tz.zone (localToday tz run - 1 + 1) ≤ scheduled run
    rw [sub_add_cancel]
    exact Clock.resolve_le hmidnight hpassed.1
  · show dayStart tz.zone (localToday tz run - 2 + 1) ≤ scheduled run
    rw [show localToday tz run - 2 + 1 = localToday tz run - 1 by omega]
    refine Clock.resolve_le (le_trans ?_ hmidnight) hpassed.2
    unfold dayLength
    omega

end

/-- **No gap**, and no day that has not ended, where what is missed is absorbed and no midnight has just been
    skipped. -/
theorem rollup_gapless (tz : Timezone) (h : History tz.zone) (habsorbed : h.runs.IsChain (Absorbed tz))
    (hpassed : ∀ run ∈ h.runs, MidnightsPassed tz run) : h.Gapless ∧ h.OnlyEnded := by
  constructor
  · -- no gap
    intro first hfirst last hlast earliest latest localDay hearliest hlatest hfrom hto
    obtain ⟨runs, hruns⟩ : ∃ runs, h.runs = first :: runs := List.head?_eq_some_iff.mp hfirst
    have hsteps := habsorbed.imp fun _ _ => localToday_le_iff.mpr
    rw [computes_iff (h.returned first (List.mem_of_mem_head? hfirst))] at hearliest
    rw [computes_iff (h.returned last (List.mem_of_getLast? hlast))] at hlatest
    rw [hruns] at hsteps hlast
    obtain ⟨run, hrun, hday⟩ := exists_run hsteps hlast (hearliest.1.trans hfrom) (by omega)
    rw [← hruns] at hrun
    exact ⟨run, hrun, (computes_iff (h.returned run hrun)).mpr hday⟩
  · -- no day that is still going on
    intro run hrun localDay hcomputes window hwindow
    obtain ⟨hfrom, hto⟩ := (computes_iff (h.returned run hrun)).mp hcomputes
    exact window_end_le (hpassed run hrun) hfrom hto hwindow

/-- Offsets from twelve hours behind UTC to fourteen ahead of it. -/
def UsualOffsets (tz : Timezone) : Prop :=
  ∀ offset ∈ tz.initial :: tz.changes.map (·.2), -hours 12 ≤ offset ∧ offset ≤ hours 14

/-- One hour behind UTC until 2026-03-29 01:00, then with UTC. -/
def azores : Timezone where
  initial := -hours 1
  changes := [(days 739703 + hours 1, 0)]
  sorted := by decide
  bounded := by decide

/-- The runs of 2026-03-28 to 30. -/
def threeRuns : History azores.zone where
  runs := [739702, 739703, 739704]
  steps := by decide
  returned := by
    simp only [List.forall_mem_cons, List.not_mem_nil, false_imp_iff, implies_true, and_true]
    exact ⟨⟨_, rfl⟩, ⟨_, rfl⟩, ⟨_, rfl⟩⟩

theorem rollup_gapless_three : threeRuns.Gapless ∧ threeRuns.OnlyEnded :=
  rollup_gapless azores threeRuns (by decide) (by decide)

/-- The same without the run of the 29th. -/
def missedRun : History azores.zone where
  runs := [739702, 739704]
  steps := by decide
  returned := by
    simp only [List.forall_mem_cons, List.not_mem_nil, false_imp_iff, implies_true, and_true]
    exact ⟨⟨_, rfl⟩, ⟨_, rfl⟩⟩

/-- The first run computes the 26th and the 25th, the other one the 29th and the 28th. -/
theorem not_rollup_gapless : ¬ ∀ tz : Timezone, UsualOffsets tz → ∀ h : History tz.zone,
    h.Gapless ∧ h.OnlyEnded := by
  intro h
  have husual : UsualOffsets azores := by
    unfold UsualOffsets
    decide
  have hfirst : Computes azores.zone 739702 739700 := ⟨_, rfl, by decide⟩
  have hlast : Computes azores.zone 739704 739703 := ⟨_, rfl, by decide⟩
  obtain ⟨run, hrun, localDays, hdays, hday⟩ :=
    (h azores husual missedRun).1 739702 rfl 739704 rfl _ _ 739701 hfirst hlast (by decide) (by decide)
  have hruns : run = 739702 ∨ run = 739704 := by simpa [missedRun] using hrun
  obtain rfl | rfl := hruns
  · have hcomputed : completedLocalDays azores.zone (scheduled 739702) = .ok [739700, 739699] := rfl
    cases hcomputed.symm.trans hdays
    exact absurd hday (by decide)
  · have hcomputed : completedLocalDays azores.zone (scheduled 739704) = .ok [739703, 739702] := rfl
    cases hcomputed.symm.trans hdays
    exact absurd hday (by decide)

end Helpdesk.Analytics
