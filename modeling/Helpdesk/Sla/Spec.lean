import Helpdesk.Library.Timeline
import Helpdesk.Sla.DueAt
import Mathlib.Tactic.Ring

/-! # What a due date is

In a zone with a fixed offset, the organization is open at the instants that lie in a window of
their local weekday, and a ticket is due at the first instant by which the organization has been
open for `sla_hours`.

* **`drain_of_walk`**: `compute_sla_due_at` drains the windows in the order in which they are
  listed, with an empty window at each midnight.
* **`isDueAt_computeSlaDueAt_iff`**: it returns the due instant exactly if the listed order is good
  enough (`InOrder`).
* **`inOrder_of_chronological`**: it is, when every day's windows are listed in the order of the day
  and none ends before it starts. -/

namespace Helpdesk.Sla

open Timeline

variable {offset from_ h t : Int} {sched : Schedule}

/-! ## Open instants

The specification knows instants and windows of a weekday, and neither a cursor nor an order of the windows. A
list of windows is only needed to say what the walk goes over. -/

/-- The local midnight at which `date` begins. -/
def midnight (offset date : Int) : Int := date * dayLength - offset

/-- The windows of the weekday of `date`, in the order in which they are listed. -/
def Schedule.windows (sched : Schedule) (date : Int) : List (PyTime × PyTime) :=
  writtenWindows sched.hours (dayKeyOf date)

/-- The organization is open at the instant `x`: its wall-clock time is in a window of its local
    weekday. -/
def Schedule.OpenAt (sched : Schedule) (offset : Int) (x : Int) : Prop :=
  ∃ w ∈ sched.windows ((x + offset) / dayLength),
    w.1.wall ≤ (x + offset) % dayLength ∧ (x + offset) % dayLength < w.2.wall

instance (sched : Schedule) (offset : Int) : DecidablePred (sched.OpenAt offset) := fun x => by
  unfold Schedule.OpenAt
  infer_instance

/-- The windows of one date as intervals of instants. -/
def intervals (offset date : Int) (windows : List (PyTime × PyTime)) : List (Int × Int) :=
  windows.map fun w => (midnight offset date + w.1.wall, midnight offset date + w.2.wall)

/-- What is listed for one date. -/
def Schedule.listed (sched : Schedule) (offset date : Int) : List (Int × Int) :=
  intervals offset date (sched.windows date)

/-- The windows from `date` on for `n` days, with an empty window at each midnight. -/
def Schedule.plan (sched : Schedule) (offset : Int) : Int → Nat → List (Int × Int)
  | _, 0 => []
  | date, n + 1 =>
    sched.listed offset date ++
      (midnight offset (date + 1), midnight offset (date + 1)) :: sched.plan offset (date + 1) n

theorem midnight_succ (offset date : Int) :
    midnight offset (date + 1) = midnight offset date + dayLength := by
  unfold midnight
  ring

theorem midnight_mono {date date' : Int} (h : date ≤ date') :
    midnight offset date ≤ midnight offset date' := by
  unfold midnight dayLength
  omega

/-- The date of an instant between two midnights, and its wall-clock time. -/
theorem date_of_midnights {date x : Int} (h1 : midnight offset date ≤ x)
    (h2 : x < midnight offset (date + 1)) :
    (x + offset) / dayLength = date ∧ (x + offset) % dayLength = x - midnight offset date := by
  unfold midnight dayLength at *
  omega

theorem midnight_date_le (x : Int) : midnight offset ((x + offset) / dayLength) ≤ x := by
  unfold midnight dayLength
  omega

theorem listed_bounds {date : Int} {w : Int × Int} (hw : w ∈ sched.listed offset date) :
    midnight offset date ≤ w.1 ∧ w.2 < midnight offset (date + 1) := by
  obtain ⟨⟨s, e⟩, -, rfl⟩ := List.mem_map.mp hw
  have h1 := s.wall_nonneg
  have h2 := e.wall_lt
  rw [midnight_succ]
  constructor <;> dsimp only <;> omega

/-- Open at `x`, in terms of what is listed for the date of `x`. -/
theorem openAt_iff {date x : Int} (h1 : midnight offset date ≤ x)
    (h2 : x < midnight offset (date + 1)) :
    sched.OpenAt offset x ↔ ∃ w ∈ sched.listed offset date, w.1 ≤ x ∧ x < w.2 := by
  obtain ⟨hdate, hmod⟩ := date_of_midnights h1 h2
  unfold Schedule.OpenAt Schedule.listed intervals
  rw [hdate, hmod]
  simp only [List.mem_map, exists_exists_and_eq_and]
  refine exists_congr fun w => and_congr_right fun _ => ?_
  constructor <;> rintro ⟨_, _⟩ <;> constructor <;> omega

theorem openAt_of_mem_listed {date x : Int} {w : Int × Int}
    (hw : w ∈ sched.listed offset date) (h1 : w.1 ≤ x) (h2 : x < w.2) : sched.OpenAt offset x := by
  obtain ⟨hstart, hend⟩ := listed_bounds hw
  exact (openAt_iff (hstart.trans h1) (h2.trans hend)).mpr ⟨w, hw, h1, h2⟩

theorem openAt_of_mem_plan {date x : Int} {n : Nat} {w : Int × Int}
    (hw : w ∈ sched.plan offset date n) (h1 : w.1 ≤ x) (h2 : x < w.2) : sched.OpenAt offset x := by
  induction n generalizing date with
  | zero => simp [Schedule.plan] at hw
  | succ n ih =>
    rw [Schedule.plan, List.mem_append, List.mem_cons] at hw
    rcases hw with hw | rfl | hw
    · exact openAt_of_mem_listed hw h1 h2
    · exact absurd (h1.trans_lt h2) (lt_irrefl _)
    · exact ih hw

/-! ## The walk drains the plan

With a fixed offset the wall clock and UTC differ by a constant, so the local times of the walk are instants,
and the general facts about draining a list of intervals apply. -/

/-- A day of the walk that does not return leaves the cursor on that day, with time to spend. -/
theorem carryOn_of_walkWindows {tz : Zone} {items : List Json} {date : Int} {cursor cursor' : Local}
    {remaining remaining' : Int} (hdate : cursor.date = date) (hpos : 0 < remaining)
    (h : walkWindows tz items cursor remaining = .ok (.carryOn cursor' remaining')) :
    cursor'.date = date ∧ 0 < remaining' := by
  induction items generalizing cursor remaining with
  | nil =>
    have heq := (Outcome.pure_eq_ok _ _).mp h
    simp only [DayOutcome.carryOn.injEq] at heq
    obtain ⟨rfl, rfl⟩ := heq
    exact ⟨hdate, hpos⟩
  | cons item items ih =>
    rw [walkWindows] at h
    cases hw : windowTimes item with
    | none => simp [hw] at h
    | some w =>
      obtain ⟨start, finish⟩ := w
      simp only [hw, combine, hdate] at h
      split at h
      · exact ih hdate hpos h
      · obtain ⟨endUtc, -, h⟩ := Outcome.bind_eq_ok.mp h
        obtain ⟨startUtc, -, h⟩ := Outcome.bind_eq_ok.mp h
        split at h
        · obtain ⟨due, -, h⟩ := Outcome.bind_eq_ok.mp h
          simp at h
        next hroom =>
          refine ih ?_ (by omega) h
          have h1 := finish.wall_nonneg
          have h2 := finish.wall_lt
          unfold Local.date dayLength at *
          dsimp only
          omega

/-- What is left to drain after a day. -/
def drainAfter (offset : Int) (rest : List (Int × Int)) : DayOutcome → Option Int
  | .due t => some t
  | .carryOn cursor remaining => drain rest (cursor.wall - offset) remaining

/-- One day of the walk. The windows it has not come to when it returns may be anything. -/
theorem drain_of_walkWindows {items : List Json} {date : Int} {cursor : Local} {remaining : Int}
    {day : DayOutcome} (hdate : cursor.date = date)
    (h : walkWindows (Zone.fixed offset) items cursor remaining = .ok day)
    (rest : List (Int × Int)) :
    drain (intervals offset date (items.filterMap windowTimes) ++ rest) (cursor.wall - offset)
      remaining = drainAfter offset rest day := by
  induction items generalizing cursor remaining with
  | nil =>
    obtain rfl := (Outcome.pure_eq_ok _ _).mp h
    rfl
  | cons item items ih =>
    rw [walkWindows] at h
    cases hw : windowTimes item with
    | none => simp [hw] at h
    | some w =>
      obtain ⟨start, finish⟩ := w
      simp only [hw, combine, hdate] at h
      rw [List.filterMap_cons_some hw, intervals, List.map_cons, List.cons_append, drain]
      have hend : midnight offset date + finish.wall ≤ cursor.wall - offset ↔
          date * dayLength + finish.wall ≤ cursor.wall := by
        unfold midnight
        omega
      -- over by the cursor, or not
      split at h
      next hskip =>
        rw [if_pos (hend.mpr hskip)]
        exact ih hdate h
      next hskip =>
        rw [if_neg (mt hend.mp hskip)]
        obtain ⟨endUtc, he, h⟩ := Outcome.bind_eq_ok.mp h
        obtain ⟨startUtc, hs, h⟩ := Outcome.bind_eq_ok.mp h
        -- with a fixed offset, both ends are shifted by the same amount
        have he' : endUtc = midnight offset date + finish.wall := by
          rw [checked_ok he, midnight]
          simp only [Zone.fixed]
          omega
        have hs' : startUtc = max (cursor.wall - offset) (midnight offset date + start.wall) := by
          rw [checked_ok hs, midnight]
          simp only [Zone.fixed]
          split
          · dsimp only
            omega
          · omega
        rw [he', hs'] at h
        -- due in the window, or behind it
        split at h
        next hroom =>
          obtain ⟨due, hdue, h⟩ := Outcome.bind_eq_ok.mp h
          obtain rfl := (Outcome.pure_eq_ok _ _).mp h
          rw [if_pos hroom, checked_ok hdue]
          rfl
        next hroom =>
          rw [if_neg hroom]
          have hdate' : (⟨date * dayLength + finish.wall, false⟩ : Local).date = date := by
            have h1 := finish.wall_nonneg
            have h2 := finish.wall_lt
            unfold Local.date dayLength at *
            dsimp only
            omega
          have hcursor : midnight offset date + finish.wall =
              (⟨date * dayLength + finish.wall, false⟩ : Local).wall - offset := by
            unfold midnight
            dsimp only
            omega
          rw [hcursor]
          rw [hcursor] at h
          exact ih hdate' h

/-- **The walk drains the plan.** -/
theorem drain_of_walk {n : Nat} {cursor : Local} {remaining : Int} (hpos : 0 < remaining)
    (h : walk (Zone.fixed offset) sched.hours n cursor remaining = .ok t) :
    drain (sched.plan offset cursor.date n) (cursor.wall - offset) remaining = some t := by
  induction n generalizing cursor remaining with
  | zero => simp [walk] at h
  | succ n ih =>
    rw [walk] at h
    cases hitems : dayEntries sched.hours (dayKeyOf cursor.date) with
    | none => simp [hitems] at h
    | some items =>
      simp only [hitems] at h
      obtain ⟨day, hday, h⟩ := Outcome.bind_eq_ok.mp h
      have hlisted : sched.listed offset cursor.date =
          intervals offset cursor.date (items.filterMap windowTimes) := by
        simp [Schedule.listed, Schedule.windows, writtenWindows, hitems]
      rw [Schedule.plan, hlisted, drain_of_walkWindows rfl hday]
      cases day with
      | due t' =>
        obtain rfl := (Outcome.pure_eq_ok _ _).mp h
        rfl
      | carryOn cursor' remaining' =>
        obtain ⟨hdate, hpos'⟩ := carryOn_of_walkWindows rfl hpos hday
        obtain ⟨next, hnext, h⟩ := Outcome.bind_eq_ok.mp h
        obtain ⟨wall, hwall, hnext⟩ := Outcome.bind_eq_ok.mp hnext
        obtain rfl := (Outcome.pure_eq_ok _ _).mp hnext
        obtain rfl := checked_ok hwall
        rw [hdate] at h
        have hbefore : cursor'.wall - offset < midnight offset (cursor.date + 1) := by
          unfold midnight Local.date dayLength at *
          omega
        -- the empty window at midnight only moves the cursor
        rw [drainAfter, drain, if_neg (not_le.mpr hbefore), max_eq_right hbefore.le, sub_self,
          if_neg (not_le.mpr hpos'), sub_zero]
        have hrest := ih hpos' h
        have hdate' : (⟨(cursor.date + 1) * dayLength, false⟩ : Local).date = cursor.date + 1 := by
          unfold Local.date dayLength
          dsimp only
          omega
        rw [hdate'] at hrest
        exact hrest

/-! ## When the due date is right

`drain` is right exactly if its list is clean (`isDue_drain_iff`). What is left is to say `Clean` of the plan
day by day, and for days that the walk has not come to as well, where it holds because the time is spent. -/

/-- The due instant of the specification: the first one at or after `from_` by which the
    organization has been open for `slaHours`. -/
def Schedule.IsDueAt (sched : Schedule) (offset from_ slaHours t : Int) : Prop :=
  IsDue (sched.OpenAt offset) from_ (slaHours * 3600 * 1000000) t

/-- The listed order is good enough: whenever the walk comes, with time still to spend, to a window
    that is not over yet, that window does not end before it starts, and the organization is not
    open between the point reached (the start instant, the day's midnight or the latest end of the
    windows listed before) and the start of the window. -/
def Schedule.InOrder (sched : Schedule) (offset from_ slaHours : Int) : Prop :=
  ∀ date, (from_ + offset) / dayLength ≤ date →
    Clean (sched.OpenAt offset) from_ (slaHours * 3600 * 1000000)
      (max from_ (midnight offset date)) (sched.listed offset date)

/-- After the last listed end of a day there is nothing open before midnight. -/
theorem not_openAt_of_passed {date x : Int} {c : Int} (hc : midnight offset date ≤ c)
    (h1 : passed c (sched.listed offset date) ≤ x) (h2 : x < midnight offset (date + 1)) :
    ¬ sched.OpenAt offset x := by
  rw [openAt_iff ((hc.trans (le_passed _ _)).trans h1) h2]
  rintro ⟨w, hw, -, hlt⟩
  exact absurd ((le_passed_of_mem hw c).trans h1) (not_le.mpr hlt)

/-- `Clean` on the plan is `Clean` on each of its days. -/
theorem clean_plan_iff {date : Int} (hdate : (from_ + offset) / dayLength ≤ date) (n : Nat) :
    Clean (sched.OpenAt offset) from_ h (max from_ (midnight offset date))
        (sched.plan offset date n) ↔
      ∀ i : Nat, i < n → Clean (sched.OpenAt offset) from_ h
        (max from_ (midnight offset (date + i))) (sched.listed offset (date + i)) := by
  induction n generalizing date with
  | zero => simp [Schedule.plan, Clean]
  | succ n ih =>
    have hfrom : from_ ≤ midnight offset (date + 1) := by
      unfold midnight dayLength at *
      omega
    have hend : passed (max from_ (midnight offset date)) (sched.listed offset date) ≤
        midnight offset (date + 1) :=
      passed_le (max_le hfrom (midnight_mono (by omega))) fun w hw => (listed_bounds hw).2.le
    have hnext : max (passed (max from_ (midnight offset date)) (sched.listed offset date))
        (midnight offset (date + 1)) = max from_ (midnight offset (date + 1)) := by
      rw [max_eq_right hend, max_eq_right hfrom]
    rw [Schedule.plan, clean_append, Clean, hnext, ih (by omega)]
    -- the empty window at midnight is clean, since nothing is open after the last end of the day
    constructor
    · rintro ⟨hday, -, hrest⟩ i hi
      cases i with
      | zero => simpa using hday
      | succ i =>
        have := hrest i (by omega)
        rwa [show date + 1 + (i : Int) = date + ((i + 1 : Nat) : Int) by push_cast; ring] at this
    · intro hall
      refine ⟨by simpa using hall 0 (by omega), fun _ _ => ⟨le_rfl, fun x h1 h2 => ?_⟩,
        fun i hi => ?_⟩
      · exact not_openAt_of_passed (le_max_right _ _) h1 h2
      · have := hall (i + 1) (by omega)
        rwa [show date + 1 + (i : Int) = date + ((i + 1 : Nat) : Int) by push_cast; ring]

theorem plan_end_le {date : Int} {n : Nat} {w : Int × Int} (hw : w ∈ sched.plan offset date n) :
    w.2 ≤ midnight offset (date + n) := by
  induction n generalizing date with
  | zero => simp [Schedule.plan] at hw
  | succ n ih =>
    have hmono : midnight offset (date + 1) ≤ midnight offset (date + ((n + 1 : Nat) : Int)) :=
      midnight_mono (by push_cast; omega)
    rw [Schedule.plan, List.mem_append, List.mem_cons] at hw
    rcases hw with hw | rfl | hw
    · exact (listed_bounds hw).2.le.trans hmono
    · exact hmono
    · have := ih hw
      rwa [show date + 1 + (n : Int) = date + ((n + 1 : Nat) : Int) by push_cast; ring] at this

/-- The walk behind a due date that `compute_sla_due_at` returns. -/
theorem drain_of_computeSlaDueAt {slaHours : Int} (hpos : 0 < slaHours)
    (h : computeSlaDueAt from_ slaHours true (Zone.fixed offset) sched.hours = .ok t) :
    drain (sched.plan offset ((from_ + offset) / dayLength) maxWalkDays) from_
      (slaHours * 3600 * 1000000) = some t := by
  unfold computeSlaDueAt at h
  simp only [Bool.true_eq_false, if_false] at h
  obtain ⟨cursor, hcursor, h⟩ := Outcome.bind_eq_ok.mp h
  obtain rfl := astimezone_ok hcursor
  obtain ⟨remaining, hremaining, h⟩ := Outcome.bind_eq_ok.mp h
  have hrem : remaining = slaHours * 3600 * 1000000 := by
    unfold hoursDelta at hremaining
    split at hremaining
    · exact ((Outcome.pure_eq_ok _ _).mp hremaining).symm
    · simp at hremaining
  subst hrem
  have hdrain := drain_of_walk (by omega) h
  simp only [Zone.fixed, Local.date, add_sub_cancel_right] at hdrain
  exact hdrain

/-- **When the due date is right.** For every accepted schedule, every fixed offset and every
    positive number of hours for which `compute_sla_due_at` returns, it returns the due instant of
    the specification exactly if the windows are listed in a good enough order. -/
theorem isDueAt_computeSlaDueAt_iff {slaHours : Int} (hpos : 0 < slaHours)
    (h : computeSlaDueAt from_ slaHours true (Zone.fixed offset) sched.hours = .ok t) :
    sched.IsDueAt offset from_ slaHours t ↔ sched.InOrder offset from_ slaHours := by
  have hr : 0 < slaHours * 3600 * 1000000 := by omega
  have hdrain := drain_of_computeSlaDueAt hpos h
  have hopen : ∀ w ∈ sched.plan offset ((from_ + offset) / dayLength) maxWalkDays,
      ∀ x, w.1 ≤ x → x < w.2 → sched.OpenAt offset x := fun w hw x h1 h2 =>
    openAt_of_mem_plan hw h1 h2
  have hstart : max from_ (midnight offset ((from_ + offset) / dayLength)) = from_ :=
    max_eq_left (midnight_date_le from_)
  rw [Schedule.IsDueAt,
    isDue_drain_iff hopen le_rfl hr (by rw [elapsed_self, zero_add]) hdrain]
  have hplan := @clean_plan_iff offset from_ (slaHours * 3600 * 1000000) sched _
    (le_refl ((from_ + offset) / dayLength)) maxWalkDays
  rw [hstart] at hplan
  rw [hplan]
  constructor
  · intro hdays date hdate
    by_cases hlt : date - (from_ + offset) / dayLength < maxWalkDays
    · have := hdays (date - (from_ + offset) / dayLength).toNat (by omega)
      rwa [show (from_ + offset) / dayLength + ((date - (from_ + offset) / dayLength).toNat : Int) =
        date by omega] at this
    · -- the walk has returned before this day, so the time is spent
      have hend : t ≤ midnight offset date :=
        calc t ≤ passed from_ (sched.plan offset ((from_ + offset) / dayLength) maxWalkDays) :=
              drain_le hdrain
          _ ≤ midnight offset ((from_ + offset) / dayLength + maxWalkDays) := by
              refine passed_le ?_ fun w hw => plan_end_le hw
              unfold midnight dayLength maxWalkDays
              omega
          _ ≤ midnight offset date := midnight_mono (by omega)
      have hspent := le_elapsed_of_drain hopen hr hdrain
      have hfrom := (slack_drain hopen le_rfl hr hdrain).1
      refine clean_of_spent (le_max_left _ _) (hspent.trans (elapsed_mono hfrom.le ?_)) _
      exact hend.trans (le_max_right _ _)
  · intro hall i _
    exact hall _ (by omega)

/-- A due date is never early: whatever the order, the organization has been open for `slaHours` by
    then. -/
theorem le_elapsed_computeSlaDueAt {slaHours : Int} (hpos : 0 < slaHours)
    (h : computeSlaDueAt from_ slaHours true (Zone.fixed offset) sched.hours = .ok t) :
    slaHours * 3600 * 1000000 ≤ elapsed (sched.OpenAt offset) from_ t :=
  le_elapsed_of_drain (fun _ hw _ h1 h2 => openAt_of_mem_plan hw h1 h2) (by omega)
    (drain_of_computeSlaDueAt hpos h)

/-! ## Schedules listed in the order of the day

The condition that an administrator can see. It is more than is needed: an order is good enough also if the
windows that are out of place are never reached. -/

/-- Every day's windows are listed one after the other, and none ends before it starts. -/
def Schedule.Chronological (sched : Schedule) : Prop :=
  ∀ date, (∀ w ∈ sched.windows date, w.1.wall ≤ w.2.wall) ∧
    (sched.windows date).Pairwise fun v w => v.2.wall ≤ w.1.wall

/-- A chronological schedule is in order, from every instant and for every number of hours. -/
theorem inOrder_of_chronological (hsched : sched.Chronological) (offset from_ slaHours : Int) :
    sched.InOrder offset from_ slaHours := by
  intro date _
  obtain ⟨hle, hpair⟩ := hsched date
  rw [clean_iff]
  intro pre w post hsplit hend hneed
  have hlisted : ∀ v ∈ sched.listed offset date, v.1 ≤ v.2 := by
    intro v hv
    obtain ⟨u, hu, rfl⟩ := List.mem_map.mp hv
    have := hle u hu
    dsimp only
    omega
  have hpair' : (sched.listed offset date).Pairwise fun v w => v.2 ≤ w.1 := by
    refine List.Pairwise.map _ (fun u v huv => ?_) hpair
    dsimp only
    omega
  rw [hsplit] at hpair'
  refine ⟨hlisted w (by rw [hsplit]; simp), fun x h1 h2 hopen => ?_⟩
  have hmid : midnight offset date ≤ x :=
    (le_max_right from_ _).trans ((le_passed _ pre).trans h1)
  have hw : w ∈ sched.listed offset date := by rw [hsplit]; simp
  have hx : x < midnight offset (date + 1) :=
    h2.trans ((hlisted w hw).trans_lt (listed_bounds hw).2)
  obtain ⟨v, hv, hv1, hv2⟩ := (openAt_iff hmid hx).mp hopen
  rw [hsplit, List.mem_append, List.mem_cons] at hv
  rcases hv with hv | rfl | hv
  · -- listed before `w`: it has been passed
    exact absurd ((le_passed_of_mem hv _).trans h1) (not_le.mpr hv2)
  · exact absurd hv1 (not_le.mpr h2)
  · -- listed after `w`: it starts later
    have hwv := (List.pairwise_cons.mp (List.pairwise_append.mp hpair').2.1).1 v hv
    have := hlisted w hw
    omega

/-! ## Two schedules

The default of an organization, and one that the validator accepts and the walk gets wrong. -/

/-- The default schedule, Monday to Friday from 09:00 to 18:00. -/
def defaultBusinessHours : Schedule where
  hours :=
    [("mon", .arr [.arr [.str "09:00", .str "18:00"]]),
      ("tue", .arr [.arr [.str "09:00", .str "18:00"]]),
      ("wed", .arr [.arr [.str "09:00", .str "18:00"]]),
      ("thu", .arr [.arr [.str "09:00", .str "18:00"]]),
      ("fri", .arr [.arr [.str "09:00", .str "18:00"]])]
  accepted := rfl

/-- Mondays from 09:00 to 13:00 and from 14:00 to 18:00, the afternoon listed first. -/
def afternoonFirst : Schedule where
  hours :=
    [("mon", .arr [.arr [.str "14:00", .str "18:00"], .arr [.str "09:00", .str "13:00"]])]
  accepted := rfl

/-- **Counterexample**: four hours from Monday 2026-01-05 08:00 at UTC-3. The morning is enough
    (13:00), but the walk takes the afternoon first and arrives at 18:00. -/
theorem afternoonFirst_late :
    computeSlaDueAt 63903207600000000 4 true (Zone.fixed (-10800000000)) afternoonFirst.hours =
        .ok 63903243600000000 ∧
      ¬ afternoonFirst.IsDueAt (-10800000000) 63903207600000000 4 63903243600000000 := by
  refine ⟨by decide +kernel, fun hdue => ?_⟩
  have hlisted : afternoonFirst.listed (-10800000000) 739620 =
      [(63903229200000000, 63903243600000000), (63903211200000000, 63903225600000000)] := by
    decide +kernel
  have hmid : midnight (-10800000000) 739620 = 63903178800000000 := by decide
  have hmid' : midnight (-10800000000) (739620 + 1) = 63903265200000000 := by decide
  -- closed from 08:00 to 09:00, open from 09:00 to 13:00
  have hclosed : elapsed (afternoonFirst.OpenAt (-10800000000)) 63903207600000000
      63903211200000000 = 0 := by
    rw [elapsed_eq_zero_iff]
    intro x h1 h2
    rw [openAt_iff (hmid.trans_le (by omega)) (lt_of_lt_of_eq (by omega) hmid'.symm), hlisted]
    simp
    omega
  have hopen : elapsed (afternoonFirst.OpenAt (-10800000000)) 63903211200000000
      63903225600000000 = 63903225600000000 - 63903211200000000 := by
    refine elapsed_of_running (by omega) fun x h1 h2 => ?_
    rw [openAt_iff (hmid.trans_le (by omega)) (lt_of_lt_of_eq (by omega) hmid'.symm), hlisted]
    simp
    omega
  have hsum := elapsed_add (p := afternoonFirst.OpenAt (-10800000000))
    (show (63903207600000000 : Int) ≤ 63903211200000000 by omega)
    (show (63903211200000000 : Int) ≤ 63903225600000000 by omega)
  have hearlier : (63903243600000000 : Int) ≤ 63903225600000000 :=
    hdue.2 ⟨by omega, by omega⟩
  omega

/-- The rule at Friday 2026-01-02 17:00 plus 48 hours of the default schedule: Monday the 12th,
    11:00. -/
theorem isDueAt_defaultBusinessHours :
    defaultBusinessHours.IsDueAt (-10800000000) 63902980800000000 48 63903823200000000 ↔
      defaultBusinessHours.InOrder (-10800000000) 63902980800000000 48 :=
  isDueAt_computeSlaDueAt_iff (by decide) (by decide +kernel)

end Helpdesk.Sla
