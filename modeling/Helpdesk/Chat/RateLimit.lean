import Mathlib.Algebra.Order.Floor.Ring
import Mathlib.Data.Rat.Floor
import Mathlib.Tactic.Linarith
import Helpdesk.Core.Basic
import Helpdesk.Library.Counter
import Helpdesk.Library.Run

/-! # The chat rate limit

`check_and_increment` on one chat session, called by any number of clients. A call reads the clock, which
picks the counter; then it runs `INCR` and, after it, `EXPIRE NX` on that counter, and other calls get in
between. The clients and Redis have one clock, and a command runs within a minute of its call's reading.

An hour's first `INCR` is made in that hour, so the counter lasts for 3700 seconds from a moment in it: longer
than the last call of the hour can take (`outlives`). No counter is reset that still counts, and
**`admits_min`** follows. -/

namespace Helpdesk.Chat

open Run

/-- `chat:rl:{chat_session_id}:{epoch_hour}` -/
structure RateLimitKey where
  chatSessionId : Uuid
  epochHour : Int
  deriving DecidableEq

/-- `int(time.time() // 3600)` -/
def epochHour (clock : ℚ) : Int := ⌊clock / 3600⌋

/-- `ChatRateLimitExceededError` -/
structure ChatRateLimitExceeded where
  chatSessionId : Uuid
  limit : Nat
  retryAfter : Int
  deriving DecidableEq

/-- `3600 - int(time.time() % 3600)` -/
def retryAfter (clock : ℚ) : Int := 3600 - ⌊clock - 3600 * epochHour clock⌋

/-- The end of `check_and_increment`, on the pipeline's first result. -/
def checkCount (chatSessionId : Uuid) (limit count : Nat) (clock : ℚ) : Except ChatRateLimitExceeded Unit :=
  if limit < count then .error ⟨chatSessionId, limit, retryAfter clock⟩ else .ok ()

/-- A call that has its count. -/
structure Counted where
  reading : ℚ
  count : Nat
  deriving DecidableEq

/-- A call that has returned or raised. -/
structure Answered extends Counted where
  outcome : Except ChatRateLimitExceeded Unit

/-- Redis, and the calls on the session: those that have read the clock, those that have run `INCR`, and
    those that have run `EXPIRE` too. -/
structure RateLimiter where
  now : ℚ
  redis : Counter.Store RateLimitKey ℚ
  begun : List ℚ
  counted : List Counted
  answered : List Answered

inductive RateLimitEvent where
  | read (now : ℚ)
  | incr (reading now : ℚ)
  | expire (call : Counted) (now clock : ℚ)

/-- One step of some call. A step whose time has passed, or that is none of a call's next ones, is not made. -/
def RateLimiter.step (chatSessionId : Uuid) (limit : Nat) (s : RateLimiter) : RateLimitEvent → RateLimiter
  | .read now => if s.now ≤ now then { s with now := now, begun := now :: s.begun } else s
  | .incr reading now =>
    if reading ∈ s.begun ∧ s.now ≤ now ∧ now ≤ reading + 60 then
      let (count, redis) := Counter.incr now ⟨chatSessionId, epochHour reading⟩ s.redis
      { s with
        now := now
        redis := redis
        begun := s.begun.erase reading
        counted := ⟨reading, count⟩ :: s.counted }
    else s
  | .expire call now clock =>
    if call ∈ s.counted ∧ s.now ≤ now ∧ now ≤ call.reading + 60 then
      { s with
        now := now
        redis := Counter.expireNx 3700 now ⟨chatSessionId, epochHour call.reading⟩ s.redis
        counted := s.counted.erase call
        answered := ⟨call, checkCount chatSessionId limit call.count clock⟩ :: s.answered }
    else s

/-- Before the first call. -/
def RateLimiter.initial (now : ℚ) : RateLimiter := ⟨now, ∅, [], [], []⟩

/-- The calls whose reading is in the hour, by their counts. -/
def RateLimiter.counts (s : RateLimiter) (hour : Int) : List Nat :=
  (s.counted.filter fun c => epochHour c.reading = hour).map (·.count) ++
    (s.answered.filter fun a => epochHour a.reading = hour).map (·.count)

/-- The calls that have returned, of the readings in `p`. -/
def RateLimiter.admitted (s : RateLimiter) (p : ℚ → Bool) : List Answered :=
  s.answered.filter fun a => p a.reading && a.outcome.isOk

/-- No call of the hour is on its way. -/
def RateLimiter.Settled (s : RateLimiter) (hour : Int) : Prop :=
  (∀ reading ∈ s.begun, epochHour reading ≠ hour) ∧ ∀ c ∈ s.counted, epochHour c.reading ≠ hour

/-! ## The hour of a reading

A reading of the clock picks the counter of its hour. The commands that follow may fall into the next hour; they
still go to the counter of the reading. -/

theorem epochHour_eq_iff {clock : ℚ} {hour : Int} :
    epochHour clock = hour ↔ 3600 * (hour : ℚ) ≤ clock ∧ clock < 3600 * (hour : ℚ) + 3600 := by
  rw [epochHour, Int.floor_eq_iff, le_div_iff₀ (by norm_num), div_lt_iff₀ (by norm_num)]
  constructor
  · rintro ⟨h, h'⟩
    exact ⟨by linarith, by linarith⟩
  · rintro ⟨h, h'⟩
    exact ⟨by linarith, by linarith⟩

theorem mem_epochHour (clock : ℚ) :
    3600 * (epochHour clock : ℚ) ≤ clock ∧ clock < 3600 * (epochHour clock : ℚ) + 3600 :=
  epochHour_eq_iff.mp rfl

/-- The caller is told to wait for a second at least and for an hour at most. -/
theorem retryAfter_mem (clock : ℚ) : 1 ≤ retryAfter clock ∧ retryAfter clock ≤ 3600 := by
  obtain ⟨hlow, hhigh⟩ := mem_epochHour clock
  have hnonneg : 0 ≤ ⌊clock - 3600 * epochHour clock⌋ := Int.floor_nonneg.mpr (by linarith)
  have hlt : ⌊clock - 3600 * epochHour clock⌋ < 3600 := Int.floor_lt.mpr (by push_cast; linarith)
  unfold retryAfter
  omega

theorem isOk_checkCount {chatSessionId : Uuid} {limit count : Nat} {clock : ℚ} :
    (checkCount chatSessionId limit count clock).isOk = decide (count ≤ limit) := by
  unfold checkCount
  split
  next h => exact (decide_eq_false (not_le.mpr h)).symm
  next h => exact (decide_eq_true (not_lt.mp h)).symm

/-- When the counter of an hour may expire at the earliest. -/
def outlives (hour : Int) : ℚ := 3600 * (hour : ℚ) + 3700

/-- A command of a call is run while the counter lasts, and an expiry that it sets is late enough. -/
theorem le_outlives {reading now : ℚ} (hread : reading ≤ now) (hnow : now ≤ reading + 60) :
    now ≤ outlives (epochHour reading) ∧ outlives (epochHour reading) ≤ now + 3700 := by
  obtain ⟨hlow, hhigh⟩ := mem_epochHour reading
  unfold outlives
  constructor
  · linarith
  · linarith

/-! ## What every step keeps

`Sound` ties the counter of each hour to the calls that have counted on it: their counts are `1, …, n` in some order,
and the counter stands at `n`, for as long as it has to. -/

/-- The counts of an hour's calls are `1, …, n`, in some order, and the counter stands at `n`. -/
structure Sound (chatSessionId : Uuid) (limit : Nat) (s : RateLimiter) : Prop where
  begun : ∀ reading ∈ s.begun, reading ≤ s.now
  counted : ∀ c ∈ s.counted, c.reading ≤ s.now
  answered : ∀ a ∈ s.answered, a.outcome.isOk = decide (a.count ≤ limit)
  counts : ∀ hour, ∃ n, (s.counts hour).Perm (List.range' 1 n) ∧
    Counter.Counts s.redis ⟨chatSessionId, hour⟩ n (outlives hour)

variable {chatSessionId : Uuid} {limit : Nat} {s : RateLimiter}

theorem sound_initial (now : ℚ) : Sound chatSessionId limit (.initial now) where
  begun := by simp [RateLimiter.initial]
  counted := by simp [RateLimiter.initial]
  answered := by simp [RateLimiter.initial]
  counts hour := ⟨0, .nil, rfl⟩

theorem Sound.read {now : ℚ} (h : Sound chatSessionId limit s) (hnow : s.now ≤ now) :
    Sound chatSessionId limit { s with now := now, begun := now :: s.begun } where
  begun reading hmem := by
    obtain rfl | hmem := List.mem_cons.mp hmem
    · exact le_refl _
    · exact (h.begun reading hmem).trans hnow
  counted c hc := (h.counted c hc).trans hnow
  answered := h.answered
  counts := h.counts

/-- `INCR` gives the hour's next count; the other hours have other counters. -/
theorem Sound.incr {reading now : ℚ} (h : Sound chatSessionId limit s) (hmem : reading ∈ s.begun)
    (hnow : s.now ≤ now) (hlate : now ≤ reading + 60) :
    Sound chatSessionId limit (s.step chatSessionId limit (.incr reading now)) := by
  rw [RateLimiter.step, if_pos ⟨hmem, hnow, hlate⟩]
  have hread : reading ≤ now := (h.begun reading hmem).trans hnow
  refine ⟨?_, ?_, h.answered, ?_⟩
  · intro r hr
    exact (h.begun r (List.mem_of_mem_erase hr)).trans hnow
  · intro c hc
    obtain rfl | hc := List.mem_cons.mp hc
    · exact hread
    · exact (h.counted c hc).trans hnow
  · -- the counter of the call's own hour goes up, the others are left
    intro hour
    obtain ⟨n, hperm, hcounts⟩ := h.counts hour
    by_cases hhour : epochHour reading = hour
    · subst hhour
      obtain ⟨hcount, hcounts'⟩ := hcounts.incr (le_outlives hread hlate).1
      refine ⟨n + 1, ?_, hcounts'⟩
      show ((List.filter _ (_ :: s.counted)).map _ ++ _).Perm _
      rw [List.filter_cons_of_pos (by simp), List.map_cons, hcount, List.range'_1_concat]
      refine (List.Perm.cons _ hperm).trans ?_
      rw [Nat.add_comm n 1]
      exact (List.perm_append_singleton _ _).symm
    · refine ⟨n, ?_, (Counter.counts_congr (Counter.incr_lookup_of_ne ?_)).mpr hcounts⟩
      · show ((List.filter _ (_ :: s.counted)).map _ ++ _).Perm _
        rw [List.filter_cons_of_neg (by simpa using hhour)]
        exact hperm
      · rintro ⟨⟩
        exact hhour rfl

/-- `EXPIRE NX` keeps the counter for long enough, and changes no count. -/
theorem Sound.expire {call : Counted} {now clock : ℚ} (h : Sound chatSessionId limit s) (hmem : call ∈ s.counted)
    (hnow : s.now ≤ now) (hlate : now ≤ call.reading + 60) :
    Sound chatSessionId limit (s.step chatSessionId limit (.expire call now clock)) := by
  rw [RateLimiter.step, if_pos ⟨hmem, hnow, hlate⟩]
  have hread : call.reading ≤ now := (h.counted call hmem).trans hnow
  refine ⟨?_, ?_, ?_, ?_⟩
  · intro r hr
    exact (h.begun r hr).trans hnow
  · intro c hc
    exact (h.counted c (List.mem_of_mem_erase hc)).trans hnow
  · intro a ha
    obtain rfl | ha := List.mem_cons.mp ha
    · exact isOk_checkCount
    · exact h.answered a ha
  · intro hour
    obtain ⟨n, hperm, hcounts⟩ := h.counts hour
    refine ⟨n, ?_, hcounts.expireNx ?_⟩
    · refine List.Perm.trans ?_ hperm
      have hmoved := ((List.perm_cons_erase hmem).filter fun c => epochHour c.reading = hour).map (·.count)
      show ((List.filter _ (s.counted.erase call)).map _ ++ (List.filter _ (_ :: s.answered)).map _).Perm
        ((List.filter _ s.counted).map _ ++ _)
      by_cases hhour : epochHour call.reading = hour
      · rw [List.filter_cons_of_pos (by simpa using hhour), List.map_cons] at hmoved
        rw [List.filter_cons_of_pos (by simpa using hhour), List.map_cons]
        exact List.perm_middle.trans (hmoved.symm.append_right _)
      · rw [List.filter_cons_of_neg (by simpa using hhour)] at hmoved
        rw [List.filter_cons_of_neg (by simpa using hhour)]
        exact hmoved.symm.append_right _
    · rintro ⟨⟩
      exact (le_outlives hread hlate).2

theorem sound_step (h : Sound chatSessionId limit s) (e : RateLimitEvent) :
    Sound chatSessionId limit (s.step chatSessionId limit e) := by
  cases e with
  | read now =>
    rw [RateLimiter.step]
    split
    next hnow => exact h.read hnow
    next => exact h
  | incr reading now =>
    by_cases hmade : reading ∈ s.begun ∧ s.now ≤ now ∧ now ≤ reading + 60
    · exact h.incr hmade.1 hmade.2.1 hmade.2.2
    · rwa [RateLimiter.step, if_neg hmade]
  | expire call now clock =>
    by_cases hmade : call ∈ s.counted ∧ s.now ≤ now ∧ now ≤ call.reading + 60
    · exact h.expire hmade.1 hmade.2.1 hmade.2.2
    · rwa [RateLimiter.step, if_neg hmade]

theorem sound_run (now : ℚ) (events : List RateLimitEvent) :
    Sound chatSessionId limit (run (RateLimiter.step chatSessionId limit) (.initial now) events) :=
  inv_of_always (I := Sound chatSessionId limit) (fun _ e h => sound_step h e) (sound_initial now) events

/-! ## What is admitted

Of the counts `1, …, n` those up to the limit are admitted, so their number is the smaller one of the two. An hour
on the clock meets two epoch hours at most. -/

/-- Of the counts `1, …, n` the limit admits the least ones. -/
theorem countP_range' (n limit : Nat) : (List.range' 1 n).countP (fun c => decide (c ≤ limit)) = min n limit := by
  induction n with
  | zero => simp
  | succ n ih =>
    rw [List.range'_1_concat, List.countP_append, ih, List.countP_singleton]
    split
    next h => simp only [decide_eq_true_eq] at h; omega
    next h => simp only [decide_eq_true_eq] at h; omega

/-- The answered calls of an hour are among those that have a count. -/
theorem Sound.admitted_eq (h : Sound chatSessionId limit s) (hour : Int) :
    (s.admitted fun reading => epochHour reading = hour).length =
      ((s.answered.filter fun a => epochHour a.reading = hour).map (·.count)).countP fun c => c ≤ limit := by
  rw [List.countP_map, List.countP_filter, RateLimiter.admitted, ← List.countP_eq_length_filter]
  apply List.countP_congr
  intro a ha
  rw [h.answered a ha]
  simp [and_comm]

/-- No more calls of an hour are admitted than the limit allows. -/
theorem Sound.admitted_le (h : Sound chatSessionId limit s) (hour : Int) :
    (s.admitted fun reading => epochHour reading = hour).length ≤ limit := by
  obtain ⟨n, hperm, -⟩ := h.counts hour
  have htotal := hperm.countP_eq fun c => decide (c ≤ limit)
  rw [countP_range', RateLimiter.counts, List.countP_append] at htotal
  rw [h.admitted_eq]
  omega

/-- When every call of an hour has returned, those admitted are as many as the limit allows. -/
theorem Sound.admitted_of_settled (h : Sound chatSessionId limit s) {hour : Int} (hsettled : s.Settled hour) :
    (s.admitted fun reading => epochHour reading = hour).length =
      min (s.answered.filter fun a => epochHour a.reading = hour).length limit := by
  obtain ⟨n, hperm, -⟩ := h.counts hour
  have hnone : (s.counted.filter fun c => epochHour c.reading = hour) = [] := by
    rw [List.filter_eq_nil_iff]
    intro c hc
    simpa using hsettled.2 c hc
  rw [RateLimiter.counts, hnone, List.map_nil, List.nil_append] at hperm
  have hlength := hperm.length_eq
  rw [List.length_map, List.length_range'] at hlength
  rw [h.admitted_eq, hperm.countP_eq, countP_range', hlength]

/-- A window of 3600 seconds meets two hours. -/
theorem epochHour_of_window {start reading : ℚ} (hfrom : start ≤ reading) (hto : reading ≤ start + 3600) :
    epochHour reading = epochHour start ∨ epochHour reading = epochHour start + 1 := by
  obtain ⟨hlow, hhigh⟩ := mem_epochHour start
  by_cases h : reading < 3600 * (epochHour start : ℚ) + 3600
  · exact .inl (epochHour_eq_iff.mpr ⟨hlow.trans hfrom, h⟩)
  · refine .inr (epochHour_eq_iff.mpr ?_)
    push_cast
    constructor
    · linarith
    · linarith

theorem Sound.admitted_of_window (h : Sound chatSessionId limit s) (start : ℚ) :
    (s.admitted fun reading => start ≤ reading ∧ reading ≤ start + 3600).length ≤ 2 * limit := by
  have hfirst := h.admitted_le (epochHour start)
  have hsecond := h.admitted_le (epochHour start + 1)
  suffices hle : (s.admitted fun reading => start ≤ reading ∧ reading ≤ start + 3600).length ≤
      (s.admitted fun reading => epochHour reading = epochHour start).length +
        (s.admitted fun reading => epochHour reading = epochHour start + 1).length by omega
  unfold RateLimiter.admitted
  induction s.answered with
  | nil => exact Nat.zero_le _
  | cons a rest ih =>
    simp only [List.filter_cons]
    by_cases hin : start ≤ a.reading ∧ a.reading ≤ start + 3600
    · obtain heq | heq := epochHour_of_window hin.1 hin.2
      · grind
      · grind
    · grind

/-- What is left of a counter, at an instant of its hour. -/
theorem Sound.live (h : Sound chatSessionId limit s) {clock : ℚ} {hour : Int} (hclock : epochHour clock = hour) :
    (Counter.live s.redis clock ⟨chatSessionId, hour⟩).elim 0 (·.value) = (s.counts hour).length := by
  obtain ⟨n, hperm, hcounts⟩ := h.counts hour
  have hlasts : clock ≤ outlives hour := by
    have := (epochHour_eq_iff.mp hclock).2
    unfold outlives
    linarith
  rw [hcounts.live_eq hlasts, hperm.length_eq, List.length_range']
  exact hcounts.value_eq

/-- **The rate limit**, by the readings of the clock. When the calls of an hour have returned, as many are
    admitted as there are, up to the limit. At any instant of an hour the counter stands at the number of
    increments that the hour has had, so nothing has reset it. No 3600 seconds admit more than twice the
    limit. -/
theorem admits_min (chatSessionId : Uuid) (limit : Nat) (now : ℚ) (events : List RateLimitEvent) :
    let s := run (RateLimiter.step chatSessionId limit) (.initial now) events
    (∀ hour, s.Settled hour → (s.admitted fun reading => epochHour reading = hour).length =
      min (s.answered.filter fun a => epochHour a.reading = hour).length limit) ∧
    (∀ clock, (Counter.live s.redis clock ⟨chatSessionId, epochHour clock⟩).elim 0 (·.value) =
      (s.counts (epochHour clock)).length) ∧
    ∀ start, (s.admitted fun reading => start ≤ reading ∧ reading ≤ start + 3600).length ≤ 2 * limit := by
  have hsound : Sound chatSessionId limit (run (RateLimiter.step chatSessionId limit) (.initial now) events) :=
    sound_run now events
  exact ⟨fun hour hsettled => hsound.admitted_of_settled hsettled, fun clock => hsound.live rfl,
    hsound.admitted_of_window⟩

/-- Two calls of one hour under a limit of one, the second one's `INCR` before the first one's `EXPIRE`. -/
theorem admits_min_two :
    (run (RateLimiter.step 1 1) (.initial 7200) [.read 7200, .read 7201, .incr 7200 7202, .incr 7201 7203,
      .expire ⟨7200, 1⟩ 7204 7204, .expire ⟨7201, 2⟩ 7205 7205]).Settled 2 ∧
    ((run (RateLimiter.step 1 1) (.initial 7200) [.read 7200, .read 7201, .incr 7200 7202, .incr 7201 7203,
      .expire ⟨7200, 1⟩ 7204 7204, .expire ⟨7201, 2⟩ 7205 7205]).admitted
        fun reading => epochHour reading = 2).length = min 2 1 := by
  have hsettled : (run (RateLimiter.step 1 1) (.initial 7200) [.read 7200, .read 7201, .incr 7200 7202,
      .incr 7201 7203, .expire ⟨7200, 1⟩ 7204 7204, .expire ⟨7201, 2⟩ 7205 7205]).Settled 2 := by
    unfold RateLimiter.Settled
    decide +kernel
  refine ⟨hsettled, ((admits_min 1 1 7200 _).1 2 hsettled).trans ?_⟩
  decide +kernel

end Helpdesk.Chat
