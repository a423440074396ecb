import Helpdesk.Sla.RealTime
import Helpdesk.Sla.Zones
import Mathlib.Tactic.MkIffOfInductiveProp

/-! # Due dates where the clocks change

A change of the offset skips readings of the clock, or repeats some. It puts the walk of `compute_sla_due_at`
in the wrong order in two ways only: an edge of a window is skipped, and something else falls between the
change and the instant that Python takes the edge to be; or the start is in the second pass of a repeated
stretch, and an edge ahead of it is taken to be in the first pass.

**`dueInOrder`**: where no change does either to the edges that the walk comes to, the comparisons of the walk
have the outcome that they have in real time, and the due dates are in order. -/

namespace Helpdesk.Sla

/-! ## The windows that an SLA takes

Which windows the condition is about: those that the schedule offers in real time until the hours are over, an
instant and a number of hours given. It is a recursion on the schedule and the zone, and does not follow what
`compute_sla_due_at` does with them. `KeepsOrder` then asks only about edges of these windows and changes of the
zone. -/

/-- The windows in which the schedule has been open for less than `need` since `now`, in real time. -/
def met (tz : Zone) : List (Local × Local) → (now need : Int) → List (Local × Local)
  | [], _, _ => []
  | (start, finish) :: windows, now, need =>
    let available := max 0 (utcOf tz finish - max now (utcOf tz start))
    (start, finish) ::
      if need ≤ available then [] else met tz windows (max now (utcOf tz finish)) (need - available)

/-- The windows that an SLA takes, among those of the days that the walk goes at most. -/
def windowsMet (tz : Zone) (sched : Schedule) (fromTimestamp slaHours : Int) : List (Local × Local) :=
  met tz (sched.edges (localOf tz fromTimestamp).date maxWalkDays) fromTimestamp (slaHours * 3600 * 1000000)

def edgesOf (windows : List (Local × Local)) : List Local := windows.flatMap fun w => [w.1, w.2]

/-- The changes of the zone leave the start and the edges of the windows in their order. -/
@[mk_iff]
structure KeepsOrder (tz : Timezone) (fromTimestamp : Int) (windows : List (Local × Local)) : Prop where
  /-- the local time of the start resolves to the start -/
  start : utcOf tz.zone (localOf tz.zone fromTimestamp) = fromTimestamp
  /-- no window is written to end before it starts -/
  forward : ∀ w ∈ windows, w.1.wall ≤ w.2.wall
  /-- no edge ahead of the start has been there before -/
  notRepeated : ∀ e ∈ edgesOf windows, (localOf tz.zone fromTimestamp).wall < e.wall →
    ¬ tz.JustRepeated e.wall fromTimestamp
  /-- nothing falls between the change that skips an edge and the instant that the edge is taken to be -/
  notSkipped : ∀ e ∈ edgesOf windows, ∀ u ∈ fromTimestamp :: (edgesOf windows).map (utcOf tz.zone),
    ¬ tz.JustSkipped e.wall u

instance (tz : Timezone) (fromTimestamp : Int) (windows : List (Local × Local)) :
    Decidable (KeepsOrder tz fromTimestamp windows) :=
  decidable_of_iff' _ (keepsOrder_iff tz fromTimestamp windows)

/-- Two SLAs, the second of which starts no earlier and is no shorter: the windows that the first one takes
    are in order with the second start as well. -/
@[mk_iff]
structure BothKeepOrder (tz : Timezone) (sched : Schedule)
    (fromTimestamp slaHours laterTimestamp moreHours : Int) : Prop where
  earlier : KeepsOrder tz fromTimestamp (windowsMet tz.zone sched fromTimestamp slaHours)
  later : fromTimestamp ≤ laterTimestamp → slaHours ≤ moreHours →
    KeepsOrder tz laterTimestamp (windowsMet tz.zone sched laterTimestamp moreHours)
  across : fromTimestamp ≤ laterTimestamp → slaHours ≤ moreHours →
    ∀ e ∈ edgesOf (windowsMet tz.zone sched fromTimestamp slaHours), ¬ tz.JustSkipped e.wall laterTimestamp

instance (tz : Timezone) (sched : Schedule) (fromTimestamp slaHours laterTimestamp moreHours : Int) :
    Decidable (BothKeepOrder tz sched fromTimestamp slaHours laterTimestamp moreHours) :=
  decidable_of_iff' _ (bothKeepOrder_iff tz sched fromTimestamp slaHours laterTimestamp moreHours)

/-! ## From the edges to the walk

`Ordered` is what the changes leave intact: the cursor and the edges come in the same order on the wall clock
and in real time. The walk puts its cursor on edges only, so the order of the edges among themselves carries on. -/

/-- The cursor and the edges of the windows are in the same order on the wall clock and in real time. -/
structure Ordered (tz : Zone) (cursor : Local) (windows : List (Local × Local)) : Prop where
  forward : ∀ w ∈ windows, w.1.wall ≤ w.2.wall
  passed : ∀ e ∈ edgesOf windows, e.wall ≤ cursor.wall → utcOf tz e ≤ utcOf tz cursor
  ahead : ∀ e ∈ edgesOf windows, cursor.wall < e.wall → utcOf tz cursor ≤ utcOf tz e
  edges : ∀ e ∈ edgesOf windows, ∀ e' ∈ edgesOf windows, e.wall ≤ e'.wall → utcOf tz e ≤ utcOf tz e'

section
variable {tz : Zone} {sched : Schedule} {cursor start finish : Local} {ws windows windows' : List (Local × Local)}
  {now need t : Int}

theorem mem_edgesOf {e : Local} : e ∈ edgesOf windows ↔ ∃ w ∈ windows, e = w.1 ∨ e = w.2 := by
  simp [edgesOf]

theorem Ordered.mono (h : Ordered tz cursor windows) (hsub : windows' ⊆ windows) :
    Ordered tz cursor windows' := by
  have hedges : ∀ e ∈ edgesOf windows', e ∈ edgesOf windows := by
    intro e he
    obtain ⟨w, hw, hedge⟩ := mem_edgesOf.mp he
    exact mem_edgesOf.mpr ⟨w, hsub hw, hedge⟩
  exact ⟨fun w hw => h.forward w (hsub hw), fun e he => h.passed e (hedges e he),
    fun e he => h.ahead e (hedges e he), fun e he e' he' => h.edges e (hedges e he) e' (hedges e' he')⟩

/-- The cursor is put on an edge. -/
theorem Ordered.next (h : Ordered tz cursor windows) {e : Local} (he : e ∈ edgesOf windows) :
    Ordered tz e windows where
  forward := h.forward
  passed := fun e' he' => h.edges e' he' e he
  ahead := fun e' he' hlt => h.edges e he e' he' hlt.le
  edges := h.edges

/-- A window that is over takes nothing. -/
theorem met_of_over (hover : utcOf tz finish ≤ now) (hpos : 0 < need) :
    met tz ((start, finish) :: ws) now need = (start, finish) :: met tz ws now need := by
  have hnow : max now (utcOf tz finish) = now := max_eq_left hover
  have havailable : max 0 (utcOf tz finish - max now (utcOf tz start)) = 0 := by omega
  rw [met]
  simp only [havailable, hnow, sub_zero]
  rw [if_neg (not_le.mpr hpos)]

/-- A window that is too short. -/
theorem met_of_short (hstart : utcOf tz start ≤ utcOf tz finish) (hnow : now ≤ utcOf tz finish)
    (hshort : ¬ need ≤ utcOf tz finish - max now (utcOf tz start)) :
    met tz ((start, finish) :: ws) now need = (start, finish) ::
      met tz ws (utcOf tz finish) (need - (utcOf tz finish - max now (utcOf tz start))) := by
  have havailable : max 0 (utcOf tz finish - max now (utcOf tz start)) =
      utcOf tz finish - max now (utcOf tz start) := by omega
  rw [met]
  simp only [havailable, max_eq_right hnow]
  rw [if_neg hshort]

theorem head_mem_met : (start, finish) ∈ met tz ((start, finish) :: ws) now need := List.mem_cons_self

/-- **Comparisons come out as in real time** where the edges that are met are in order. -/
theorem inRealTime_of_ordered (h : Ordered tz cursor (met tz ws (utcOf tz cursor) need)) (hpos : 0 < need) :
    InRealTime tz ws cursor need := by
  induction ws generalizing cursor need with
  | nil => trivial
  | cons w ws ih =>
    obtain ⟨start, finish⟩ := w
    have hmemStart : start ∈ edgesOf (met tz ((start, finish) :: ws) (utcOf tz cursor) need) :=
      mem_edgesOf.mpr ⟨_, head_mem_met, .inl rfl⟩
    have hmemFinish : finish ∈ edgesOf (met tz ((start, finish) :: ws) (utcOf tz cursor) need) :=
      mem_edgesOf.mpr ⟨_, head_mem_met, .inr rfl⟩
    rw [InRealTime]
    dsimp only
    -- over on the wall clock, so over in real time
    by_cases hover : finish.wall ≤ cursor.wall
    · rw [if_pos hover]
      have hpassed := h.passed finish hmemFinish hover
      rw [met_of_over hpassed hpos] at h
      exact ⟨hpassed, ih (h.mono (List.subset_cons_self _ _)) hpos⟩
    · rw [if_neg hover]
      have hcursor := h.ahead finish hmemFinish (not_le.mp hover)
      have hforward := h.edges start hmemStart finish hmemFinish (h.forward _ head_mem_met)
      -- the later of the cursor and the start of the window
      have heffective : utcOf tz (if cursor.wall < start.wall then start else cursor) =
          max (utcOf tz cursor) (utcOf tz start) := by
        split
        next hlt => exact (max_eq_right (h.ahead start hmemStart hlt)).symm
        next hge => exact (max_eq_left (h.passed start hmemStart (not_lt.mp hge))).symm
      refine ⟨heffective, by omega, ?_⟩
      rw [heffective]
      by_cases hroom : need ≤ utcOf tz finish - max (utcOf tz cursor) (utcOf tz start)
      · exact .inl hroom
      · have hnext := h.next hmemFinish
        rw [met_of_short hforward hcursor hroom] at hnext
        exact .inr (ih (hnext.mono (List.subset_cons_self _ _)) (by omega))

/-- Some window that is not over is met, no later in the list than any other. -/
theorem exists_met_ahead {pre post : List (Local × Local)} {w : Local × Local}
    (h : Ordered tz cursor (met tz (pre ++ w :: post) (utcOf tz cursor) need)) (hpos : 0 < need)
    (hw : cursor.wall < w.2.wall) :
    ∃ v ∈ met tz (pre ++ w :: post) (utcOf tz cursor) need, cursor.wall < v.2.wall ∧ (v ∈ pre ∨ v = w) := by
  induction pre with
  | nil => exact ⟨w, head_mem_met, hw, .inr rfl⟩
  | cons v pre ih =>
    obtain ⟨start, finish⟩ := v
    by_cases hover : finish.wall ≤ cursor.wall
    · have hpassed := h.passed finish (mem_edgesOf.mpr ⟨_, head_mem_met, .inr rfl⟩) hover
      rw [List.cons_append, met_of_over hpassed hpos] at h ⊢
      obtain ⟨v, hv, hahead, hmem⟩ := ih (h.mono (List.subset_cons_self _ _))
      exact ⟨v, List.mem_cons_of_mem _ hv, hahead, hmem.imp_left (List.mem_cons_of_mem _)⟩
    · exact ⟨(start, finish), head_mem_met, not_le.mp hover, .inl List.mem_cons_self⟩

/-! ## Windows before the later start

The two walks start on different days. The first one goes over windows that are over when the second one starts;
either it is due in one of them, or it comes to the day of the second start no later than that. -/

/-- A walk over windows that are all over by `later`, and more behind them: it is due by then, or comes to the
    others by then. -/
theorem spend_until {pre rest : List (Local × Local)} {later : Int} (hreal : InRealTime tz (pre ++ rest) cursor need)
    (hpos : 0 < need) (hcursor : utcOf tz cursor ≤ later)
    (hover : ∀ w ∈ met tz (pre ++ rest) (utcOf tz cursor) need, w ∈ pre → utcOf tz w.2 ≤ later)
    (hforward : ∀ w ∈ met tz (pre ++ rest) (utcOf tz cursor) need, utcOf tz w.1 ≤ utcOf tz w.2)
    (h : (spend tz (pre ++ rest) cursor need).2 = some t) :
    t ≤ later ∨ ∃ cursor' need', utcOf tz cursor' ≤ later ∧ 0 < need' ∧ need' ≤ need ∧
      InRealTime tz rest cursor' need' ∧ (spend tz rest cursor' need').2 = some t := by
  induction pre generalizing cursor need with
  | nil => exact .inr ⟨cursor, need, hcursor, hpos, le_refl _, hreal, h⟩
  | cons w pre ih =>
    obtain ⟨start, finish⟩ := w
    have hfinish := hover (start, finish) head_mem_met List.mem_cons_self
    have hstart := hforward (start, finish) head_mem_met
    rw [List.cons_append, InRealTime] at hreal
    rw [List.cons_append, spend] at h
    dsimp only at hreal h hfinish hstart
    by_cases hdone : finish.wall ≤ cursor.wall
    · rw [if_pos hdone] at hreal h
      rw [List.cons_append, met_of_over hreal.1 hpos] at hover hforward
      apply ih hreal.2 hpos hcursor _ _ h
      · exact fun w hw hmem => hover w (List.mem_cons_of_mem _ hw) (List.mem_cons_of_mem _ hmem)
      · exact fun w hw => hforward w (List.mem_cons_of_mem _ hw)
    · rw [if_neg hdone] at hreal h
      obtain ⟨heffective, havailable, hrest⟩ := hreal
      rw [heffective] at havailable hrest h
      by_cases hroom : need ≤ utcOf tz finish - max (utcOf tz cursor) (utcOf tz start)
      · -- due in a window that is over by then
        rw [if_pos hroom] at h
        cases h
        left
        omega
      · rw [if_neg hroom] at h
        rw [List.cons_append, met_of_short hstart (by omega) hroom] at hover hforward
        obtain hdue | ⟨cursor', need', hcursor', hpos', hle, hreal', h'⟩ :=
          ih (hrest.resolve_left hroom) (by omega) hfinish
            (fun w hw hmem => hover w (List.mem_cons_of_mem _ hw) (List.mem_cons_of_mem _ hmem))
            (fun w hw => hforward w (List.mem_cons_of_mem _ hw)) h
        · exact .inl hdue
        · exact .inr ⟨cursor', need', hcursor', hpos', by omega, hreal', h'⟩

theorem met_subset : met tz ws now need ⊆ ws := by
  induction ws generalizing now need with
  | nil => exact List.Subset.refl _
  | cons w ws ih =>
    obtain ⟨start, finish⟩ := w
    rw [met]
    split
    · exact List.cons_subset_cons _ (List.nil_subset _)
    · exact List.cons_subset_cons _ ih

/-- Datetimes that are combined of a date and a time are of the first pass. -/
theorem fold_of_mem_edges {date : Int} {n : Nat} {w : Local × Local} (hw : w ∈ sched.edges date n) :
    w.1.fold = false ∧ w.2.fold = false := by
  induction n generalizing date with
  | zero => cases hw
  | succ n ih =>
    rw [Schedule.edges, List.mem_append, List.mem_cons] at hw
    rcases hw with hw | rfl | hw
    · obtain ⟨v, -, rfl⟩ := List.mem_map.mp hw
      exact ⟨rfl, rfl⟩
    · exact ⟨rfl, rfl⟩
    · exact ih hw

theorem fold_of_mem_windowsMet {fromTimestamp slaHours : Int} {e : Local}
    (he : e ∈ edgesOf (windowsMet tz sched fromTimestamp slaHours)) : e.fold = false := by
  obtain ⟨w, hw, rfl | rfl⟩ := mem_edgesOf.mp he
  · exact (fold_of_mem_edges (met_subset hw)).1
  · exact (fold_of_mem_edges (met_subset hw)).2

end

/-! ## From the changes to the edges

A start and an edge whose readings are in order are in order as instants, unless a change is between them: that
is what the clock says about `JustSkipped` and `JustRepeated`. An edge has no fold, since `datetime.combine`
gives none. -/

section
variable {tz : Timezone} {sched : Schedule} {fromTimestamp slaHours laterTimestamp moreHours t : Int}

theorem utcOf_eq_resolve {e : Local} (h : e.fold = false) : utcOf tz.zone e = tz.resolve e.wall false := by
  show e.wall - tz.readingOffset e.wall e.fold = _
  rw [h]
  rfl

theorem KeepsOrder.ordered (h : KeepsOrder tz fromTimestamp (windowsMet tz.zone sched fromTimestamp slaHours)) :
    Ordered tz.zone (localOf tz.zone fromTimestamp) (windowsMet tz.zone sched fromTimestamp slaHours) where
  forward := h.forward
  passed := by
    intro e he hpassed
    rw [h.start, utcOf_eq_resolve (fold_of_mem_windowsMet he)]
    exact Clock.resolve_le hpassed (h.notSkipped e he fromTimestamp List.mem_cons_self)
  ahead := by
    intro e he hahead
    rw [h.start, utcOf_eq_resolve (fold_of_mem_windowsMet he)]
    exact Clock.le_resolve hahead (h.notRepeated e he hahead)
  edges := by
    intro e he e' he' hle
    have hskipped := h.notSkipped e he (utcOf tz.zone e') (List.mem_cons_of_mem _ (List.mem_map_of_mem he'))
    rw [utcOf_eq_resolve (fold_of_mem_windowsMet he')] at hskipped ⊢
    rw [utcOf_eq_resolve (fold_of_mem_windowsMet he)]
    exact Clock.resolve_mono hle hskipped

theorem KeepsOrder.met_ordered
    (h : KeepsOrder tz fromTimestamp (windowsMet tz.zone sched fromTimestamp slaHours)) :
    Ordered tz.zone (localOf tz.zone fromTimestamp)
      (met tz.zone (sched.edges (localOf tz.zone fromTimestamp).date maxWalkDays)
        (utcOf tz.zone (localOf tz.zone fromTimestamp)) (slaHours * 3600 * 1000000)) := by
  rw [h.start]
  exact h.ordered

/-- A start that is no earlier is on no earlier date, or its midnight would be one that repeats. -/
theorem KeepsOrder.date_le (hle : fromTimestamp ≤ laterTimestamp) (hpos : 0 < moreHours)
    (h : KeepsOrder tz laterTimestamp (windowsMet tz.zone sched laterTimestamp moreHours)) :
    (localOf tz.zone fromTimestamp).date ≤ (localOf tz.zone laterTimestamp).date := by
  by_contra hdate
  rw [not_le] at hdate
  -- the midnight at the end of the later start's date
  generalize hmidnight : (⟨((localOf tz.zone laterTimestamp).date + 1) * dayLength, false⟩ : Local) = midnight
  have hwall : midnight.wall = ((localOf tz.zone laterTimestamp).date + 1) * dayLength := by rw [← hmidnight]
  have hedges : sched.edges (localOf tz.zone laterTimestamp).date maxWalkDays =
      (sched.windows (localOf tz.zone laterTimestamp).date).map (fun w =>
        (combine (localOf tz.zone laterTimestamp).date w.1, combine (localOf tz.zone laterTimestamp).date w.2)) ++
      (midnight, midnight) :: sched.edges ((localOf tz.zone laterTimestamp).date + 1) 365 := by
    rw [← hmidnight]
    rfl
  have hordered := h.met_ordered
  rw [hedges] at hordered
  obtain ⟨v, hv, hahead, hmem⟩ := exists_met_ahead hordered (by omega) (by
    show (localOf tz.zone laterTimestamp).wall < midnight.wall
    rw [hwall]
    unfold Local.date dayLength
    omega)
  rw [← hedges, h.start] at hv
  have hfinish : v.2.wall ≤ ((localOf tz.zone laterTimestamp).date + 1) * dayLength := by
    rcases hmem with hmem | rfl
    · obtain ⟨w, -, rfl⟩ := List.mem_map.mp hmem
      have := w.2.wall_lt
      unfold combine dayLength at *
      dsimp only
      omega
    · exact hwall.le
  refine h.notRepeated v.2 (mem_edgesOf.mpr ⟨v, hv, .inr rfl⟩) hahead (Clock.justRepeated_of_back hle ?_ hahead)
  show v.2.wall ≤ (localOf tz.zone fromTimestamp).wall
  unfold Local.date dayLength at *
  omega

/-- **One SLA**: nothing negative is consumed, and the hours have their time. -/
theorem KeepsOrder.due (h : KeepsOrder tz fromTimestamp (windowsMet tz.zone sched fromTimestamp slaHours))
    (hpos : 0 < slaHours) :
    InRealTime tz.zone (sched.edges (localOf tz.zone fromTimestamp).date maxWalkDays)
      (localOf tz.zone fromTimestamp) (slaHours * 3600 * 1000000) :=
  inRealTime_of_ordered h.met_ordered (by omega)

/-- **Two SLAs**: the second one is due no earlier. -/
theorem BothKeepOrder.due_le {t' : Int}
    (h : BothKeepOrder tz sched fromTimestamp slaHours laterTimestamp moreHours) (hpos : 0 < slaHours)
    (hfrom : fromTimestamp ≤ laterTimestamp) (hhours : slaHours ≤ moreHours)
    (hdue : (spend tz.zone (sched.edges (localOf tz.zone fromTimestamp).date maxWalkDays)
      (localOf tz.zone fromTimestamp) (slaHours * 3600 * 1000000)).2 = some t)
    (hdue' : (spend tz.zone (sched.edges (localOf tz.zone laterTimestamp).date maxWalkDays)
      (localOf tz.zone laterTimestamp) (moreHours * 3600 * 1000000)).2 = some t') : t ≤ t' := by
  have hlater := h.later hfrom hhours
  have hreal := h.earlier.due hpos
  have hreal' := hlater.due (by omega)
  have hmet := h.earlier.met_ordered
  have hafter := (spend_inRealTime hreal' (by omega)).2 t' hdue'
  have hdate := KeepsOrder.date_le hfrom (by omega) hlater
  rw [hlater.start] at hafter
  -- the days before the later start, as far as the first walk goes
  obtain ⟨k, m, hk, hday⟩ : ∃ k m : Nat, maxWalkDays = k + m ∧
      ((localOf tz.zone fromTimestamp).date + k = (localOf tz.zone laterTimestamp).date ∨
        m = 0 ∧ (localOf tz.zone fromTimestamp).date + k ≤ (localOf tz.zone laterTimestamp).date) := by
    by_cases hfar : (localOf tz.zone fromTimestamp).date + maxWalkDays ≤ (localOf tz.zone laterTimestamp).date
    · exact ⟨maxWalkDays, 0, rfl, .inr ⟨rfl, hfar⟩⟩
    · refine ⟨((localOf tz.zone laterTimestamp).date - (localOf tz.zone fromTimestamp).date).toNat,
        maxWalkDays - ((localOf tz.zone laterTimestamp).date - (localOf tz.zone fromTimestamp).date).toNat, ?_, ?_⟩
      · omega
      · omega
  rw [hk, edges_add] at hreal hdue hmet
  have hwindows : met tz.zone (sched.edges (localOf tz.zone fromTimestamp).date k ++
      sched.edges ((localOf tz.zone fromTimestamp).date + k) m) (utcOf tz.zone (localOf tz.zone fromTimestamp))
      (slaHours * 3600 * 1000000) = windowsMet tz.zone sched fromTimestamp slaHours := by
    rw [h.earlier.start, windowsMet, hk, edges_add]
  -- the windows of the days before are over by the later start
  have hover : ∀ w ∈ windowsMet tz.zone sched fromTimestamp slaHours,
      w ∈ sched.edges (localOf tz.zone fromTimestamp).date k → utcOf tz.zone w.2 ≤ laterTimestamp := by
    intro w hw hmem
    have hedge : w.2 ∈ edgesOf (windowsMet tz.zone sched fromTimestamp slaHours) :=
      mem_edgesOf.mpr ⟨w, hw, .inr rfl⟩
    rw [utcOf_eq_resolve (fold_of_mem_windowsMet hedge)]
    refine Clock.resolve_le ?_ (h.across hfrom hhours w.2 hedge)
    show w.2.wall ≤ (localOf tz.zone laterTimestamp).wall
    have := edges_finish_le hmem
    unfold Local.date dayLength at *
    omega
  rw [← hwindows] at hover
  have hforward : ∀ w ∈ met tz.zone (sched.edges (localOf tz.zone fromTimestamp).date k ++
      sched.edges ((localOf tz.zone fromTimestamp).date + k) m) (utcOf tz.zone (localOf tz.zone fromTimestamp))
      (slaHours * 3600 * 1000000), utcOf tz.zone w.1 ≤ utcOf tz.zone w.2 := by
    intro w hw
    exact hmet.edges w.1 (mem_edgesOf.mpr ⟨w, hw, .inl rfl⟩) w.2 (mem_edgesOf.mpr ⟨w, hw, .inr rfl⟩)
      (hmet.forward w hw)
  -- due by the later start, or not before the day of the later start is reached
  obtain hsoon | ⟨cursor, need, hcursor, hneed, hless, hrest, hspent⟩ :=
    spend_until hreal (by omega) (h.earlier.start.le.trans hfrom) hover hforward hdue
  · omega
  · rcases hday with hday | ⟨rfl, -⟩
    · -- both walks go over the days from the later start on
      rw [hday] at hrest hspent
      have hwalk : sched.edges (localOf tz.zone laterTimestamp).date maxWalkDays =
          sched.edges (localOf tz.zone laterTimestamp).date m ++
            sched.edges ((localOf tz.zone laterTimestamp).date + m) k := by
        rw [hk, Nat.add_comm, edges_add]
      have hrest' : InRealTime tz.zone (sched.edges (localOf tz.zone laterTimestamp).date maxWalkDays)
          cursor need := by
        rw [hwalk]
        exact inRealTime_append_of_due (by rw [hspent]; rfl) hrest
      have hspent' : spend tz.zone (sched.edges (localOf tz.zone laterTimestamp).date maxWalkDays) cursor need =
          spend tz.zone (sched.edges (localOf tz.zone laterTimestamp).date m) cursor need := by
        rw [hwalk]
        exact spend_append_of_due hspent
      rw [← hspent'] at hspent
      exact spend_mono hrest' hreal' (by rw [hlater.start]; exact hcursor) hneed (by omega) hspent hdue'
    · cases hspent

end

/-- Two hours ahead of UTC until 2026-10-25 01:00, then one. -/
def autumn : Timezone where
  initial := 7200000000
  changes := [(63928486800000000, 3600000000)]
  sorted := by decide
  bounded := by decide

/-- Sundays from midnight to nine. -/
def earlySundays : Schedule where
  hours := [("sun", .arr [.arr [.str "00:00", .str "09:00"]])]
  accepted := rfl

/-- Sundays from half past two to noon. -/
def lateSundays : Schedule where
  hours := [("sun", .arr [.arr [.str "02:30", .str "12:00"]])]
  accepted := rfl

end Helpdesk.Sla
