import Helpdesk.Core.Json
import Helpdesk.Library.Outcome
import Helpdesk.Sla.IsoTime

/-! # Weekly schedules

`parse_business_hours`, which every schedule passes before it is stored, and what it guarantees
about the stored value: `accepted_windows` says that each day's windows are pairs of parseable
times. It checks the pairs one by one and against each other, but not that a day's windows are
listed in the order of the day, nor that all times are written without a UTC offset. -/

namespace Helpdesk.Sla

/-- Index == `date.weekday()` (Monday == 0 ... Sunday == 6). -/
def dayKeys : List String := ["mon", "tue", "wed", "thu", "fri", "sat", "sun"]

/-- `InvalidBusinessHoursError`, with what its message quotes. -/
inductive InvalidBusinessHours where
  | unknownDayKey (dayKey : String)
  | notAPair (dayKey : String) (pair : Json)
  | unparseableTime (dayKey : String) (pair : Json)
  | startNotBeforeEnd (dayKey : String) (pair : Json)
  | overlapping (dayKey : String)
  | noOpenInterval

/-- The text of the error; `repr` is Python's `repr` of a decoded value. -/
def InvalidBusinessHours.message (repr : Json → String) : InvalidBusinessHours → String
  | .unknownDayKey dayKey => "unknown business_hours day key: " ++ repr (.str dayKey)
  | .notAPair dayKey pair =>
    "business_hours[" ++ repr (.str dayKey) ++ "] entry must be exactly [start, end]: " ++ repr pair
  | .unparseableTime dayKey pair =>
    "business_hours[" ++ repr (.str dayKey) ++ "] entry has an unparseable time: " ++ repr pair
  | .startNotBeforeEnd dayKey pair =>
    "business_hours[" ++ repr (.str dayKey) ++ "] entry has start >= end: " ++ repr pair
  | .overlapping dayKey =>
    "business_hours[" ++ repr (.str dayKey) ++ "] has overlapping intervals"
  | .noOpenInterval => "business_hours has zero open intervals across the entire week"

/-- What `parse_business_hours` can raise. The `TypeError`s (a day's value that cannot be iterated,
    a time with an offset compared to one without) are not caught anywhere. -/
inductive ParseError where
  | invalid (e : InvalidBusinessHours)
  | typeError

/-- `time.fromisoformat` on a decoded value: a `TypeError` unless it is a string. -/
def timeOf : Json → Option PyTime
  | .str s => fromIsoFormat s
  | _ => none

/-- `a < b` where a `TypeError` escapes. -/
def lessThan (a b : PyTime) : Except ParseError Bool :=
  match a.lt? b with
  | some r => .ok r
  | none => .error .typeError

/-- One entry of a day's list. -/
def parsePair (dayKey : String) (pair : Json) : Except ParseError (PyTime × PyTime) :=
  match pair with
  | .arr [start, finish] =>
    match timeOf start, timeOf finish with
    | some startTime, some endTime => do
      if ← lessThan startTime endTime then
        pure (startTime, endTime)
      else
        throw (.invalid (.startNotBeforeEnd dayKey pair))
    | _, _ => throw (.invalid (.unparseableTime dayKey pair))
  | _ => throw (.invalid (.notAPair dayKey pair))

/-- One interval against those listed after it. The second comparison is made only if the first
    one holds. -/
def checkAgainst (dayKey : String) (a : PyTime × PyTime) :
    List (PyTime × PyTime) → Except ParseError Unit
  | [] => pure ()
  | b :: rest => do
    if ← lessThan a.1 b.2 then
      if ← lessThan b.1 a.2 then
        throw (.invalid (.overlapping dayKey))
    checkAgainst dayKey a rest

/-- All pairs of a day's intervals. -/
def checkOverlaps (dayKey : String) : List (PyTime × PyTime) → Except ParseError Unit
  | [] => pure ()
  | a :: rest => do
    checkAgainst dayKey a rest
    checkOverlaps dayKey rest

/-- One item of the schedule; the result says whether it has an interval. -/
def parseDay (dayKey : String) (pairs : Json) : Except ParseError Bool :=
  if dayKey ∉ dayKeys then throw (.invalid (.unknownDayKey dayKey))
  else match pairs.iter with
    | none => throw .typeError
    | some pairs => do
      let intervals ← pairs.mapM (parsePair dayKey)
      checkOverlaps dayKey intervals
      pure !intervals.isEmpty

/-- `parse_business_hours`. -/
def parseBusinessHours (raw : JsonObject) : Except ParseError Unit := do
  let opened ← raw.mapM fun item => parseDay item.1 item.2
  if opened.any id then pure () else throw (.invalid .noOpenInterval)

/-! ## What an accepted schedule looks like

The walk reads the stored value again. What it iterates over and how it reads an entry stand here under
definitions of their own, since the validator and the walk do not share them in the source either: `or []` is
only in the walk. -/

/-- `business_hours.get(day_key) or []`, as a list to iterate. A truthy value that is not a list
    (which no accepted schedule has) is `none`. -/
def dayEntries (businessHours : JsonObject) (dayKey : String) : Option (List Json) :=
  match businessHours.lookup dayKey with
  | none | some .null | some (.bool false) | some (.int 0) | some (.str "") | some (.obj []) => some []
  | some (.arr items) => some items
  | some _ => none

/-- `for start, end in windows` and the two `time.fromisoformat` calls. -/
def windowTimes : Json → Option (PyTime × PyTime)
  | .arr [start, finish] =>
    match timeOf start, timeOf finish with
    | some startTime, some endTime => some (startTime, endTime)
    | _, _ => none
  | _ => none

/-- The windows written under a day key, in the order in which they are written. -/
def writtenWindows (businessHours : JsonObject) (dayKey : String) : List (PyTime × PyTime) :=
  ((dayEntries businessHours dayKey).getD []).filterMap windowTimes

variable {businessHours : JsonObject} {dayKey : String} {pair : Json} {w : PyTime × PyTime}

/-- A pair that passes is a pair of parseable times, the first one before the second. -/
theorem parsePair_ok (h : parsePair dayKey pair = .ok w) :
    windowTimes pair = some w ∧ w.1.lt? w.2 = some true := by
  unfold parsePair at h
  split at h
  next start finish =>
    split at h
    next startTime endTime hs he =>
      obtain ⟨before, hlt, h⟩ := Outcome.bind_eq_ok.mp h
      -- the times are in order, or an error is raised
      cases before with
      | false => simp at h
      | true =>
        obtain rfl := (Outcome.pure_eq_ok _ _).mp h
        refine ⟨by simp [windowTimes, hs, he], ?_⟩
        unfold lessThan at hlt
        split at hlt
        next hr => rw [hr, Except.ok.inj hlt]
        · simp at hlt
    · simp at h
  · simp at h

/-- A day that passes has a known key, and a list of good pairs (or nothing). -/
theorem parseDay_ok {pairs : Json} {opened : Bool} (h : parseDay dayKey pairs = .ok opened) :
    dayKey ∈ dayKeys ∧ ∃ items, pairs.iter = some items ∧
      ∀ pair ∈ items, ∃ w, parsePair dayKey pair = .ok w := by
  unfold parseDay at h
  split at h
  · simp at h
  next hkey =>
    rw [not_not] at hkey
    refine ⟨hkey, ?_⟩
    split at h
    · simp at h
    next items hitems =>
      obtain ⟨intervals, hmap, -⟩ := Outcome.bind_eq_ok.mp h
      refine ⟨items, hitems, fun pair hpair => ?_⟩
      obtain ⟨w, -, hw⟩ := Outcome.exists_of_mapM_eq_ok hmap hpair
      exact ⟨w, hw⟩

/-- Characters and keys are no pairs, so a string or an object under a day key is empty. -/
theorem iter_of_pairs {pairs : Json} {items : List Json} (h : pairs.iter = some items)
    (hall : ∀ pair ∈ items, ∃ w, parsePair dayKey pair = .ok w) :
    pairs = .arr items ∨ (items = [] ∧ (pairs = .str "" ∨ pairs = .obj [])) := by
  cases pairs with
  | arr items' => exact .inl (by rw [Option.some.inj h])
  -- the characters of a string are strings
  | str s =>
    right
    obtain rfl := Option.some.inj h
    cases hs : s.toList with
    | nil => exact ⟨rfl, .inl (by rw [String.toList_eq_nil_iff.mp hs])⟩
    | cons c cs =>
      obtain ⟨w, hw⟩ := hall (.str (String.ofList [c])) (by simp [hs])
      simp [parsePair] at hw
  -- the items of an object are its keys
  | obj fields =>
    right
    obtain rfl := Option.some.inj h
    cases fields with
    | nil => exact ⟨rfl, .inr rfl⟩
    | cons f fs =>
      obtain ⟨w, hw⟩ := hall (.str f.1) (by simp)
      simp [parsePair] at hw
  | null => simp [Json.iter] at h
  | bool b => simp [Json.iter] at h
  | int n => simp [Json.iter] at h
  | float l => simp [Json.iter] at h

/-- **Accepted schedules**: under every day key the walk finds a list, each entry of which is a pair
    of parseable times with the first one before the second. -/
theorem accepted_windows (h : parseBusinessHours businessHours = .ok ()) (dayKey : String) :
    ∃ items, dayEntries businessHours dayKey = some items ∧
      ∀ pair ∈ items, ∃ w, windowTimes pair = some w ∧ w.1.lt? w.2 = some true := by
  obtain ⟨opened, hmap, -⟩ := Outcome.bind_eq_ok.mp h
  unfold dayEntries
  cases hl : businessHours.lookup dayKey with
  | none => exact ⟨[], rfl, by simp⟩
  | some pairs =>
    obtain ⟨before, after, rfl, -⟩ := List.lookup_eq_some_iff.mp hl
    have hmem : (dayKey, pairs) ∈ before ++ (dayKey, pairs) :: after := by simp
    obtain ⟨_, -, hday⟩ := Outcome.exists_of_mapM_eq_ok hmap hmem
    obtain ⟨-, items, hitems, hall⟩ := parseDay_ok hday
    have hgood : ∀ pair ∈ items, ∃ w, windowTimes pair = some w ∧ w.1.lt? w.2 = some true := by
      intro pair hpair
      obtain ⟨w, hw⟩ := hall pair hpair
      exact ⟨w, parsePair_ok hw⟩
    rcases iter_of_pairs hitems hall with rfl | ⟨-, rfl | rfl⟩
    · exact ⟨items, rfl, hgood⟩
    · exact ⟨[], rfl, by simp⟩
    · exact ⟨[], rfl, by simp⟩

end Helpdesk.Sla
