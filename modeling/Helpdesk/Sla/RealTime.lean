import Helpdesk.Sla.Capacity

/-! # The walk in real time

`compute_sla_due_at` counts what it consumes in real time, but it decides on the wall clock whether a window
is over and where one begins: Python compares two datetimes of one zone by their wall-clock times. Around a
change of the offset the two orders differ.

* **`spend_of_walk`**: the walk spends what it needs from the windows in the order in which they are listed,
  with an empty window at each midnight.
* **`spend_inRealTime`**, **`spend_mono`**: where every comparison has the outcome that it has in real time
  (`InRealTime`), nothing negative is consumed, the due date leaves the hours their time, and a walk that is
  not ahead and has no more to spend is due no later. -/

namespace Helpdesk.Sla

/-! ## The walk over the edges of windows

`spend` is the walk without its loops, its error cases and its conversions. It compares what the walk compares,
local times, and it takes off what the walk takes off, differences of instants. `InRealTime` says of each
comparison that it could have been made between the instants. -/

/-- The windows that the walk goes over in `n` days from `date` on, and an empty one at each midnight. -/
def Schedule.edges (sched : Schedule) : (date : Int) → Nat → List (Local × Local)
  | _, 0 => []
  | date, n + 1 =>
    (sched.windows date).map (fun w => (combine date w.1, combine date w.2)) ++
      (⟨(date + 1) * dayLength, false⟩, ⟨(date + 1) * dayLength, false⟩) :: sched.edges (date + 1) n

/-- What is consumed from each window that the walk comes to, and the due instant. -/
def spend (tz : Zone) : List (Local × Local) → Local → Int → List Int × Option Int
  | [], _, _ => ([], none)
  | (start, finish) :: windows, cursor, remaining =>
    if finish.wall ≤ cursor.wall then spend tz windows cursor remaining
    else
      let effectiveStart := if cursor.wall < start.wall then start else cursor
      let available := utcOf tz finish - utcOf tz effectiveStart
      if remaining ≤ available then ([remaining], some (utcOf tz effectiveStart + remaining))
      else
        let rest := spend tz windows finish (remaining - available)
        (available :: rest.1, rest.2)

/-- The walk's comparisons have the outcome that they have in real time: a window that is skipped is over, and
    one that is not begins, at the later of the cursor and its start, no later than it ends. -/
def InRealTime (tz : Zone) : List (Local × Local) → Local → Int → Prop
  | [], _, _ => True
  | (start, finish) :: windows, cursor, remaining =>
    if finish.wall ≤ cursor.wall then
      utcOf tz finish ≤ utcOf tz cursor ∧ InRealTime tz windows cursor remaining
    else
      let effectiveStart := if cursor.wall < start.wall then start else cursor
      let available := utcOf tz finish - utcOf tz effectiveStart
      utcOf tz effectiveStart = max (utcOf tz cursor) (utcOf tz start) ∧ 0 ≤ available ∧
        (remaining ≤ available ∨ InRealTime tz windows finish (remaining - available))

/-- `from_timestamp` on the organization's clock. -/
def localOf (tz : Zone) (fromTimestamp : Int) : Local :=
  ⟨(tz.fromUtc fromTimestamp).1, (tz.fromUtc fromTimestamp).2⟩

/-- What `compute_sla_due_at` consumes from each window. -/
def consumed (tz : Zone) (sched : Schedule) (respectsBusinessHours : Bool) (fromTimestamp slaHours : Int) :
    List Int :=
  if respectsBusinessHours then
    (spend tz (sched.edges (localOf tz fromTimestamp).date maxWalkDays) (localOf tz fromTimestamp)
      (slaHours * 3600 * 1000000)).1
  else []

/-- A due date that is returned takes nothing negative from a window, leaves the hours their time, and is no
    later than that of a later start or of more hours. -/
def DueInOrder (tz : Zone) (sched : Schedule) (respectsBusinessHours : Bool)
    (fromTimestamp slaHours laterTimestamp moreHours : Int) : Prop :=
  ∀ t, computeSlaDueAt fromTimestamp slaHours respectsBusinessHours tz sched.hours = .ok t →
    (∀ spent ∈ consumed tz sched respectsBusinessHours fromTimestamp slaHours, 0 ≤ spent) ∧
      fromTimestamp + slaHours * 3600 * 1000000 ≤ t ∧
        ∀ t', fromTimestamp ≤ laterTimestamp → slaHours ≤ moreHours →
          computeSlaDueAt laterTimestamp moreHours respectsBusinessHours tz sched.hours = .ok t' → t ≤ t'

section
variable {tz : Zone} {sched : Schedule} {cursor : Local} {remaining t : Int}

/-! ## The walk spends the edges

A window at each midnight, which is empty, moves the cursor as `nextMidnight` does. Windows may be added at the
end, and days may be split off. -/

/-- The instant at which a day ends the walk, or what is spent after it. -/
def dueAfter (tz : Zone) (rest : List (Local × Local)) : DayOutcome → Option Int
  | .due t => some t
  | .carryOn cursor remaining => (spend tz rest cursor remaining).2

theorem spend_of_walkWindows {items : List Json} {date : Int} {day : DayOutcome} (hdate : cursor.date = date)
    (h : walkWindows tz items cursor remaining = .ok day) (rest : List (Local × Local)) :
    (spend tz ((items.filterMap windowTimes).map (fun w => (combine date w.1, combine date w.2)) ++ rest)
      cursor remaining).2 = dueAfter tz rest day := by
  induction items generalizing cursor remaining with
  | nil =>
    obtain rfl := (Outcome.pure_eq_ok _ _).mp h
    rfl
  | cons item items ih =>
    rw [walkWindows] at h
    cases hw : windowTimes item with
    | none => simp [hw] at h
    | some w =>
      obtain ⟨start, finish⟩ := w
      simp only [hw, hdate] at h
      rw [List.filterMap_cons_some hw, List.map_cons, List.cons_append, spend]
      dsimp only
      generalize (if cursor.wall < (combine date start).wall then combine date start else cursor) = from_ at h ⊢
      -- over by the cursor, or not
      split at h
      next hover =>
        rw [if_pos hover]
        exact ih hdate h
      next hover =>
        rw [if_neg hover]
        obtain ⟨endUtc, hend, h⟩ := Outcome.bind_eq_ok.mp h
        obtain ⟨startUtc, hstart, h⟩ := Outcome.bind_eq_ok.mp h
        obtain rfl : endUtc = utcOf tz (combine date finish) := checked_ok hend
        obtain rfl : startUtc = utcOf tz from_ := checked_ok hstart
        -- due in the window, or behind it
        split at h
        next hroom =>
          obtain ⟨due, hdue, h⟩ := Outcome.bind_eq_ok.mp h
          obtain rfl := checked_ok hdue
          obtain rfl := (Outcome.pure_eq_ok _ _).mp h
          rw [if_pos hroom]
          rfl
        next hroom =>
          rw [if_neg hroom]
          exact ih (date_combine date finish) h

/-- **The walk spends the edges.** -/
theorem spend_of_walk {n : Nat} (hpos : 0 < remaining)
    (h : walk tz sched.hours n cursor remaining = .ok t) :
    (spend tz (sched.edges cursor.date n) cursor remaining).2 = some t := by
  induction n generalizing cursor remaining with
  | zero => cases h
  | succ n ih =>
    obtain ⟨items, hitems, -⟩ := accepted_windows sched.accepted (dayKeyOf cursor.date)
    have hwindows : sched.windows cursor.date = items.filterMap windowTimes := by
      simp [Schedule.windows, writtenWindows, hitems]
    rw [walk, hitems] at h
    obtain ⟨day, hday, h⟩ := Outcome.bind_eq_ok.mp h
    rw [Schedule.edges, hwindows, spend_of_walkWindows rfl hday]
    cases day with
    | due t' =>
      obtain rfl := (Outcome.pure_eq_ok _ _).mp h
      rfl
    | carryOn cursor' remaining' =>
      obtain ⟨hdate, hpos'⟩ := carryOn_of_walkWindows rfl hpos hday
      obtain ⟨midnight, hmidnight, h⟩ := Outcome.bind_eq_ok.mp h
      obtain ⟨wall, hwall, hmidnight⟩ := Outcome.bind_eq_ok.mp hmidnight
      obtain rfl := (Outcome.pure_eq_ok _ _).mp hmidnight
      obtain rfl := checked_ok hwall
      rw [hdate] at h
      have hrest := ih hpos' h
      rw [date_midnight] at hrest
      -- the empty window at midnight only moves the cursor
      have hbefore : cursor'.wall < (cursor.date + 1) * dayLength := by
        unfold Local.date dayLength at *
        omega
      rw [dueAfter, spend, if_neg (not_le.mpr hbefore)]
      simp only [if_pos hbefore, sub_self, sub_zero]
      rw [if_neg (not_le.mpr hpos')]
      exact hrest

/-- What is listed behind the due instant does not matter. -/
theorem spend_append_of_due {ws more : List (Local × Local)} (h : (spend tz ws cursor remaining).2 = some t) :
    spend tz (ws ++ more) cursor remaining = spend tz ws cursor remaining := by
  induction ws generalizing cursor remaining with
  | nil => cases h
  | cons w ws ih =>
    obtain ⟨start, finish⟩ := w
    rw [spend] at h
    rw [List.cons_append, spend, spend]
    dsimp only at h ⊢
    generalize (if cursor.wall < start.wall then start else cursor) = from_ at h ⊢
    by_cases hover : finish.wall ≤ cursor.wall
    · rw [if_pos hover] at h
      rw [if_pos hover, if_pos hover, ih h]
    · rw [if_neg hover] at h
      rw [if_neg hover, if_neg hover]
      by_cases hroom : remaining ≤ utcOf tz finish - utcOf tz from_
      · rw [if_pos hroom, if_pos hroom]
      · rw [if_neg hroom] at h
        rw [if_neg hroom, if_neg hroom, ih h]

theorem inRealTime_append_of_due {ws more : List (Local × Local)} (hdue : (spend tz ws cursor remaining).2.isSome)
    (h : InRealTime tz ws cursor remaining) : InRealTime tz (ws ++ more) cursor remaining := by
  induction ws generalizing cursor remaining with
  | nil => cases hdue
  | cons w ws ih =>
    obtain ⟨start, finish⟩ := w
    rw [spend] at hdue
    rw [InRealTime] at h
    rw [List.cons_append, InRealTime]
    dsimp only at h hdue ⊢
    generalize (if cursor.wall < start.wall then start else cursor) = from_ at h hdue ⊢
    by_cases hover : finish.wall ≤ cursor.wall
    · rw [if_pos hover] at h hdue ⊢
      exact ⟨h.1, ih hdue h.2⟩
    · rw [if_neg hover] at h hdue ⊢
      refine ⟨h.1, h.2.1, ?_⟩
      by_cases hroom : remaining ≤ utcOf tz finish - utcOf tz from_
      · exact .inl hroom
      · rw [if_neg hroom] at hdue
        exact .inr (ih hdue (h.2.2.resolve_left hroom))

theorem edges_add (date : Int) (m n : Nat) :
    sched.edges date (m + n) = sched.edges date m ++ sched.edges (date + m) n := by
  induction m generalizing date with
  | zero => simp [Schedule.edges]
  | succ m ih =>
    have hdate : date + 1 + (m : Int) = date + ((m + 1 : Nat) : Int) := by
      push_cast
      ring
    rw [show m + 1 + n = (m + n) + 1 by omega, Schedule.edges, ih, Schedule.edges, hdate]
    simp

theorem edges_finish_le {date : Int} {n : Nat} {w : Local × Local} (h : w ∈ sched.edges date n) :
    w.2.wall ≤ (date + n) * dayLength := by
  induction n generalizing date with
  | zero => cases h
  | succ n ih =>
    rw [Schedule.edges, List.mem_append, List.mem_cons] at h
    rcases h with h | rfl | h
    · obtain ⟨v, -, rfl⟩ := List.mem_map.mp h
      have := v.2.wall_lt
      unfold combine dayLength at *
      dsimp only
      omega
    · unfold dayLength
      dsimp only
      omega
    · have := ih h
      unfold dayLength at *
      omega

/-! ## One walk in real time

By induction over the windows: the cursor goes forward, and what is spent is what it goes over. -/

/-- **A walk in real time** consumes nothing negative and leaves the hours their time. -/
theorem spend_inRealTime {ws : List (Local × Local)} (hreal : InRealTime tz ws cursor remaining)
    (hpos : 0 < remaining) :
    (∀ spent ∈ (spend tz ws cursor remaining).1, 0 ≤ spent) ∧
      ∀ t, (spend tz ws cursor remaining).2 = some t → utcOf tz cursor + remaining ≤ t := by
  induction ws generalizing cursor remaining with
  | nil => exact ⟨by simp [spend], fun t h => by cases h⟩
  | cons w ws ih =>
    obtain ⟨start, finish⟩ := w
    rw [InRealTime] at hreal
    rw [spend]
    dsimp only at hreal ⊢
    generalize (if cursor.wall < start.wall then start else cursor) = from_ at hreal ⊢
    by_cases hover : finish.wall ≤ cursor.wall
    · rw [if_pos hover] at hreal ⊢
      exact ih hreal.2 hpos
    · rw [if_neg hover] at hreal ⊢
      obtain ⟨hstart, havailable, hrest⟩ := hreal
      have hcursor : utcOf tz cursor ≤ utcOf tz from_ := hstart ▸ le_max_left _ _
      by_cases hroom : remaining ≤ utcOf tz finish - utcOf tz from_
      · rw [if_pos hroom]
        refine ⟨by simpa using hpos.le, fun t ht => ?_⟩
        cases ht
        omega
      · rw [if_neg hroom]
        obtain ⟨hspent, hdue⟩ := ih (hrest.resolve_left hroom) (by omega)
        refine ⟨List.forall_mem_cons.mpr ⟨havailable, hspent⟩, fun t ht => ?_⟩
        have := hdue t ht
        omega

/-! ## Two walks

Both go over the same windows, side by side. The first one stays behind or level and has no more to spend. At
each window there are the four cases of who has passed it, and in the last one who is due in it. -/

/-- **Monotonicity**: of two walks over the same windows, the one that is not ahead and has no more to spend
    is due no later. -/
theorem spend_mono {ws : List (Local × Local)} {cursor' : Local} {remaining' t' : Int}
    (hreal : InRealTime tz ws cursor remaining) (hreal' : InRealTime tz ws cursor' remaining')
    (hcursor : utcOf tz cursor ≤ utcOf tz cursor') (hpos : 0 < remaining) (hle : remaining ≤ remaining')
    (h : (spend tz ws cursor remaining).2 = some t) (h' : (spend tz ws cursor' remaining').2 = some t') :
    t ≤ t' := by
  induction ws generalizing cursor cursor' remaining remaining' with
  | nil => cases h
  | cons w ws ih =>
    have hlater := (spend_inRealTime hreal' (hpos.trans_le hle)).2 t' h'
    obtain ⟨start, finish⟩ := w
    rw [InRealTime] at hreal hreal'
    rw [spend] at h h'
    dsimp only at hreal hreal' h h'
    generalize (if cursor.wall < start.wall then start else cursor) = from_ at hreal h
    generalize (if cursor'.wall < start.wall then start else cursor') = from' at hreal' h'
    by_cases hover : finish.wall ≤ cursor.wall
    · rw [if_pos hover] at hreal h
      by_cases hover' : finish.wall ≤ cursor'.wall
      · rw [if_pos hover'] at hreal' h'
        exact ih hreal.2 hreal'.2 hcursor hpos hle h h'
      · -- over for the first, so nothing is left of it for the second
        rw [if_neg hover'] at hreal' h'
        obtain ⟨hstart', havailable', hrest'⟩ := hreal'
        have hfrom' : utcOf tz cursor' ≤ utcOf tz from' := hstart' ▸ le_max_left _ _
        have hover := hreal.1
        have hroom' : ¬ remaining' ≤ utcOf tz finish - utcOf tz from' := by omega
        rw [if_neg hroom'] at h'
        exact ih hreal.2 (hrest'.resolve_left hroom') (by omega) hpos (by omega) h h'
    · rw [if_neg hover] at hreal h
      obtain ⟨hstart, havailable, hrest⟩ := hreal
      by_cases hover' : finish.wall ≤ cursor'.wall
      · rw [if_pos hover'] at hreal' h'
        have hover := hreal'.1
        by_cases hroom : remaining ≤ utcOf tz finish - utcOf tz from_
        · -- due in a window that is over for the second
          rw [if_pos hroom] at h
          cases h
          omega
        · rw [if_neg hroom] at h
          exact ih (hrest.resolve_left hroom) hreal'.2 hover (by omega) (by omega) h h'
      · rw [if_neg hover'] at hreal' h'
        obtain ⟨hstart', havailable', hrest'⟩ := hreal'
        have hfrom : utcOf tz from_ ≤ utcOf tz from' := by
          rw [hstart, hstart']
          exact max_le_max_right _ hcursor
        by_cases hroom' : remaining' ≤ utcOf tz finish - utcOf tz from'
        · have hroom : remaining ≤ utcOf tz finish - utcOf tz from_ := by omega
          rw [if_pos hroom] at h
          rw [if_pos hroom'] at h'
          cases h
          cases h'
          omega
        · rw [if_neg hroom'] at h'
          by_cases hroom : remaining ≤ utcOf tz finish - utcOf tz from_
          · -- the first is due in the window, the second behind it
            have := (spend_inRealTime (hrest'.resolve_left hroom') (by omega)).2 t' h'
            rw [if_pos hroom] at h
            cases h
            omega
          · rw [if_neg hroom] at h
            exact ih (hrest.resolve_left hroom) (hrest'.resolve_left hroom') (le_refl _) (by omega) (by omega) h h'

/-! ## Due dates

`computeSlaDueAt` returns what is spent from the local start, or adds the hours if all of them count. -/

theorem hoursDelta_ok {slaHours : Int} (h : hoursDelta slaHours = .ok remaining) :
    remaining = slaHours * 3600 * 1000000 := by
  unfold hoursDelta at h
  split at h
  · exact ((Outcome.pure_eq_ok _ _).mp h).symm
  · cases h

/-- A due date that counts all hours. -/
theorem computeSlaDueAt_allHours {fromTimestamp slaHours : Int}
    (h : computeSlaDueAt fromTimestamp slaHours false tz sched.hours = .ok t) :
    t = fromTimestamp + slaHours * 3600 * 1000000 := by
  obtain ⟨startUtc, hstart, hrest⟩ := Outcome.bind_eq_ok.mp h
  obtain ⟨delta, hdelta, hdue⟩ := Outcome.bind_eq_ok.mp hrest
  rw [checked_ok hdue, checked_ok hstart, hoursDelta_ok hdelta]

/-- A due date in business hours is what the walk from the local start spends. -/
theorem computeSlaDueAt_businessHours {fromTimestamp slaHours : Int} (hpos : 0 < slaHours)
    (h : computeSlaDueAt fromTimestamp slaHours true tz sched.hours = .ok t) :
    (spend tz (sched.edges (localOf tz fromTimestamp).date maxWalkDays) (localOf tz fromTimestamp)
      (slaHours * 3600 * 1000000)).2 = some t := by
  obtain ⟨cursor, hcursor, h⟩ := Outcome.bind_eq_ok.mp h
  obtain rfl := astimezone_ok hcursor
  obtain ⟨remaining, hremaining, h⟩ := Outcome.bind_eq_ok.mp h
  obtain rfl := hoursDelta_ok hremaining
  exact spend_of_walk (by omega) h

end

end Helpdesk.Sla
