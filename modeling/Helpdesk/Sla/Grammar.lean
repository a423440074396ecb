import Helpdesk.Sla.BusinessHours

/-! # The grammar of weekly schedules

`parse_business_hours` raises an `InvalidBusinessHoursError` for a schedule that is not well formed.
A value that cannot be iterated and two times that cannot be compared raise a `TypeError` instead, and
an empty string or an empty object passes for an empty list.

**`validates_iff`**: these are the only two ways in which the validator departs from the grammar. -/

namespace Helpdesk.Sla

/-! ## The grammar

What the docstring of `parse_business_hours` says a schedule is. `Separate` asks more than that intervals do not
overlap: whether two times with and without an offset overlap has no answer. -/

/-- Two times can be compared if both have a UTC offset or none has. -/
def Comparable (a b : PyTime) : Prop := a.offset.isSome = b.offset.isSome

/-- `[start, end]`: comparable ISO times, the first one before the second. -/
def IsInterval (pair : Json) (w : PyTime × PyTime) : Prop :=
  windowTimes pair = some w ∧ w.1.lt? w.2 = some true

def Overlap (v w : PyTime × PyTime) : Prop := v.1.lt? w.2 = some true ∧ w.1.lt? v.2 = some true

/-- Any two intervals of a day are comparable and do not overlap. -/
def Separate (v w : PyTime × PyTime) : Prop := Comparable v.1 w.1 ∧ ¬ Overlap v w

/-- The value under a day key: a list of intervals that are apart. -/
def IsDay (value : Json) : Prop :=
  ∃ pairs intervals, value = .arr pairs ∧ List.Forall₂ IsInterval pairs intervals ∧ intervals.Pairwise Separate

/-- The grammar: known days, each with a list of intervals, and some interval in the week. -/
def IsSchedule (raw : JsonObject) : Prop :=
  (∀ item ∈ raw, item.1 ∈ dayKeys ∧ IsDay item.2) ∧ ∃ item ∈ raw, item.2 ≠ .arr []

/-- The validator returns on the schedules of the grammar, and otherwise raises what it is to raise. -/
def Validates (raw : JsonObject) : Prop :=
  (parseBusinessHours raw = .ok () ↔ IsSchedule raw) ∧
    ∀ e, parseBusinessHours raw = .error e → ∃ invalid, e = .invalid invalid

/-! ## Departures from the grammar

Conditions on the value alone, in the order in which the validator goes through it. An entry that is wrong in
another way is reported as it should be if it comes first, so a `TypeError` is raised only if what makes it
comes before. -/

/-- The first item that is not `good` is `bad`. -/
def FirstIs {α : Type} (good bad : α → Prop) (items : List α) : Prop :=
  ∃ pre item post, items = pre ++ item :: post ∧ (∀ i ∈ pre, good i) ∧ bad item

/-- All pairs of a list's members, in the order in which they are compared. -/
def pairsOf {α : Type} : List α → List (α × α)
  | [] => []
  | a :: rest => rest.map (fun b => (a, b)) ++ pairsOf rest

/-- An empty string or object, which is iterated like an empty list. -/
def IsEmpty (value : Json) : Prop := value = .str "" ∨ value = .obj []

/-- A pair of times, one of them with a UTC offset. -/
def IsMixed (pair : Json) : Prop := ∃ w, windowTimes pair = some w ∧ ¬ Comparable w.1 w.2

/-- A value that cannot be iterated, or a list in which a mixed pair or two intervals that are not
    comparable come before anything else that is wrong. -/
def Incomparable (value : Json) : Prop :=
  value.iter = none ∨ ∃ pairs, value = .arr pairs ∧
    (FirstIs (fun pair => ∃ w, IsInterval pair w) IsMixed pairs ∨
      ∃ intervals, List.Forall₂ IsInterval pairs intervals ∧
        FirstIs (fun p => Separate p.1 p.2) (fun p => ¬ Comparable p.1.1 p.2.1) (pairsOf intervals))

/-- A known day whose value is a day of the grammar, or an empty string or object. -/
def PassesDay (item : String × Json) : Prop := item.1 ∈ dayKeys ∧ (IsDay item.2 ∨ IsEmpty item.2)

/-- A `TypeError` comes first. -/
def RaisesTypeError (raw : JsonObject) : Prop :=
  FirstIs PassesDay (fun item => item.1 ∈ dayKeys ∧ Incomparable item.2) raw

/-- An empty string or object passes. -/
def PassesEmpty (raw : JsonObject) : Prop :=
  (∀ item ∈ raw, PassesDay item) ∧ (∃ item ∈ raw, IsEmpty item.2) ∧
    ∃ item ∈ raw, item.2 ≠ .arr [] ∧ ¬ IsEmpty item.2

/-! ## Times

A comparison has a result exactly if the times are comparable. -/

section
variable {a b : PyTime} {v w : PyTime × PyTime} {dayKey : String} {pair value : Json}

theorem lt?_eq_none : a.lt? b = none ↔ ¬ Comparable a b := by
  unfold PyTime.lt? Comparable
  cases a.offset with
  | none => cases b.offset <;> simp
  | some o =>
    cases b.offset with
    | none => simp
    | some o' =>
      dsimp only
      split <;> simp

theorem lessThan_eq_ok {r : Bool} : lessThan a b = .ok r ↔ a.lt? b = some r := by
  unfold lessThan
  cases a.lt? b <;> simp

theorem lessThan_eq_error {e : ParseError} : lessThan a b = .error e ↔ ¬ Comparable a b ∧ e = .typeError := by
  rw [← lt?_eq_none]
  unfold lessThan
  cases a.lt? b <;> simp [eq_comm]

theorem IsInterval.comparable (h : IsInterval pair w) : Comparable w.1 w.2 := by
  by_contra hne
  have hlt := h.2
  rw [lt?_eq_none.mpr hne] at hlt
  cases hlt

/-! ## Pairs and comparisons

Each of the two checks that raise has a lemma for its success and one for its `TypeError`. The nested loops of
`checkOverlaps` are one loop over all pairs (`checkOverlaps_eq`), which is where the order of the comparisons
comes from. -/

theorem parsePair_eq_ok : parsePair dayKey pair = .ok w ↔ IsInterval pair w := by
  refine ⟨parsePair_ok, fun ⟨htimes, hlt⟩ => ?_⟩
  unfold windowTimes at htimes
  split at htimes
  · split at htimes
    next hs he =>
      cases htimes
      rw [parsePair, hs, he]
      dsimp only
      rw [lessThan_eq_ok.mpr hlt]
      rfl
    · cases htimes
  · cases htimes

theorem parsePair_eq_typeError : parsePair dayKey pair = .error .typeError ↔ IsMixed pair := by
  unfold parsePair IsMixed windowTimes
  split
  next start finish =>
    split
    next startTime endTime hs he =>
      constructor
      · intro h
        refine ⟨_, rfl, lt?_eq_none.mp ?_⟩
        cases hlt : startTime.lt? endTime with
        | none => rfl
        | some r =>
          rw [lessThan_eq_ok.mpr hlt] at h
          cases r <;> cases h
      -- the entry is a pair of times, and these cannot be compared
      · rintro ⟨w, hw, hmixed⟩
        cases hw
        rw [lessThan_eq_error.mpr ⟨hmixed, rfl⟩]
        rfl
    next hne =>
      refine iff_of_false (fun h => by cases h) ?_
      rintro ⟨w, hw, -⟩
      cases hw
  next hne =>
    refine iff_of_false (fun h => by cases h) ?_
    rintro ⟨w, hw, -⟩
    cases hw

/-- One comparison of `checkOverlaps`. -/
def check (dayKey : String) (p : (PyTime × PyTime) × (PyTime × PyTime)) : Except ParseError Unit := do
  if ← lessThan p.1.1 p.2.2 then
    if ← lessThan p.2.1 p.1.2 then
      throw (.invalid (.overlapping dayKey))

theorem checkAgainst_cons (rest : List (PyTime × PyTime)) :
    checkAgainst dayKey v (w :: rest) = check dayKey (v, w) >>= fun _ => checkAgainst dayKey v rest := by
  rw [checkAgainst, check]
  cases lessThan v.1 w.2 with
  | error e => rfl
  | ok r =>
    cases r with
    | false => rfl
    | true =>
      cases lessThan w.1 v.2 with
      | error e => rfl
      | ok r => cases r <;> rfl

theorem checkAgainst_eq (intervals : List (PyTime × PyTime)) :
    checkAgainst dayKey v intervals = forM (intervals.map fun w => (v, w)) (check dayKey) := by
  induction intervals with
  | nil => rfl
  | cons w rest ih => rw [checkAgainst_cons, ih, List.map_cons, List.forM_cons]

/-- The loops make all comparisons, in order. -/
theorem checkOverlaps_eq (intervals : List (PyTime × PyTime)) :
    checkOverlaps dayKey intervals = forM (pairsOf intervals) (check dayKey) := by
  induction intervals with
  | nil => rfl
  | cons v rest ih => rw [checkOverlaps, checkAgainst_eq, ih, pairsOf, List.forM_append]

/-- Intervals that are not comparable are found so at the first comparison. -/
theorem check_of_not_comparable (hw : Comparable w.1 w.2) (h : ¬ Comparable v.1 w.1) :
    check dayKey (v, w) = .error .typeError := by
  have hfirst : ¬ Comparable v.1 w.2 := fun heq => h (heq.trans hw.symm)
  rw [check, lessThan_eq_error.mpr ⟨hfirst, rfl⟩]
  rfl

/-- Two intervals that are comparable overlap or not. -/
theorem check_of_comparable (hv : Comparable v.1 v.2) (hw : Comparable w.1 w.2) (h : Comparable v.1 w.1) :
    check dayKey (v, w) = .ok () ∧ ¬ Overlap v w ∨
      check dayKey (v, w) = .error (.invalid (.overlapping dayKey)) ∧ Overlap v w := by
  obtain ⟨r, hr⟩ := Option.ne_none_iff_exists'.mp (mt lt?_eq_none.mp (not_not.mpr (h.trans hw)))
  obtain ⟨r', hr'⟩ := Option.ne_none_iff_exists'.mp (mt lt?_eq_none.mp (not_not.mpr (h.symm.trans hv)))
  rw [check, Overlap]
  dsimp only
  rw [lessThan_eq_ok.mpr hr, lessThan_eq_ok.mpr hr', hr, hr']
  -- the second comparison is made only if the first one holds
  cases r with
  | false => exact .inl ⟨rfl, by simp⟩
  | true =>
    cases r' with
    | false => exact .inl ⟨rfl, by simp⟩
    | true => exact .inr ⟨rfl, rfl, rfl⟩

theorem check_eq_ok (hv : Comparable v.1 v.2) (hw : Comparable w.1 w.2) :
    check dayKey (v, w) = .ok () ↔ Separate v w := by
  by_cases h : Comparable v.1 w.1
  · rw [Separate, and_iff_right h]
    have hcases := @check_of_comparable v w dayKey hv hw h
    rcases hcases with ⟨hok, hapart⟩ | ⟨herror, hoverlap⟩
    · exact iff_of_true hok hapart
    · rw [herror]
      exact iff_of_false (fun h => by cases h) (not_not.mpr hoverlap)
  · rw [check_of_not_comparable hw h]
    exact iff_of_false (fun h => by cases h) fun hapart => h hapart.1

theorem check_eq_typeError (hv : Comparable v.1 v.2) (hw : Comparable w.1 w.2) :
    check dayKey (v, w) = .error .typeError ↔ ¬ Comparable v.1 w.1 := by
  by_cases h : Comparable v.1 w.1
  · have hcases := @check_of_comparable v w dayKey hv hw h
    rcases hcases with ⟨hok, -⟩ | ⟨herror, -⟩
    · rw [hok]
      exact iff_of_false (fun h => by cases h) (not_not.mpr h)
    · rw [herror]
      exact iff_of_false (fun h => by cases h) (not_not.mpr h)
  · exact iff_of_true (check_of_not_comparable hw h) h

/-! ## A day

A list is checked, anything else that can be iterated is empty or fails at its first item, and the rest cannot
be iterated. -/

theorem mem_pairsOf {intervals : List (PyTime × PyTime)} {p : (PyTime × PyTime) × (PyTime × PyTime)}
    (h : p ∈ pairsOf intervals) : p.1 ∈ intervals ∧ p.2 ∈ intervals := by
  induction intervals with
  | nil => cases h
  | cons v rest ih =>
    rcases List.mem_append.mp h with h | h
    · obtain ⟨w, hw, rfl⟩ := List.mem_map.mp h
      exact ⟨List.mem_cons_self, List.mem_cons_of_mem _ hw⟩
    · obtain ⟨h1, h2⟩ := ih h
      exact ⟨List.mem_cons_of_mem _ h1, List.mem_cons_of_mem _ h2⟩

theorem forall_pairsOf {R : PyTime × PyTime → PyTime × PyTime → Prop} {intervals : List (PyTime × PyTime)} :
    (∀ p ∈ pairsOf intervals, R p.1 p.2) ↔ intervals.Pairwise R := by
  induction intervals with
  | nil => simp [pairsOf]
  | cons v rest ih =>
    rw [pairsOf, List.forall_mem_append, List.pairwise_cons, ih, List.forall_mem_map]

section
variable {pairs : List Json} {intervals : List (PyTime × PyTime)}

theorem mapM_parsePair_eq_ok :
    pairs.mapM (parsePair dayKey) = .ok intervals ↔ List.Forall₂ IsInterval pairs intervals := by
  rw [Outcome.mapM_eq_ok]
  simp only [parsePair_eq_ok]

/-- Intervals that have been parsed compare with themselves. -/
theorem comparable_of_forall₂ (h : List.Forall₂ IsInterval pairs intervals) :
    ∀ w ∈ intervals, Comparable w.1 w.2 := by
  induction h with
  | nil => simp
  | cons hw _ ih =>
    intro v hv
    rcases List.mem_cons.mp hv with rfl | hv
    · exact hw.comparable
    · exact ih v hv

theorem checkOverlaps_eq_ok (h : ∀ w ∈ intervals, Comparable w.1 w.2) :
    checkOverlaps dayKey intervals = .ok () ↔ intervals.Pairwise Separate := by
  rw [checkOverlaps_eq, Outcome.forM_eq_ok, ← forall_pairsOf]
  refine forall₂_congr fun p hp => ?_
  obtain ⟨h1, h2⟩ := mem_pairsOf hp
  exact check_eq_ok (h _ h1) (h _ h2)

theorem checkOverlaps_eq_typeError (h : ∀ w ∈ intervals, Comparable w.1 w.2) :
    checkOverlaps dayKey intervals = .error .typeError ↔
      FirstIs (fun p => Separate p.1 p.2) (fun p => ¬ Comparable p.1.1 p.2.1) (pairsOf intervals) := by
  rw [checkOverlaps_eq, Outcome.forM_eq_error]
  refine exists_congr fun pre => exists_congr fun p => exists_congr fun post => and_congr_right fun hsplit => ?_
  have hmem : ∀ q ∈ pre ++ p :: post, Comparable q.1.1 q.1.2 ∧ Comparable q.2.1 q.2.2 := by
    intro q hq
    rw [← hsplit] at hq
    exact ⟨h _ (mem_pairsOf hq).1, h _ (mem_pairsOf hq).2⟩
  refine and_congr (forall₂_congr fun q hq => ?_) ?_
  · obtain ⟨h1, h2⟩ := hmem q (List.mem_append_left _ hq)
    exact check_eq_ok h1 h2
  · obtain ⟨h1, h2⟩ := hmem p (by simp)
    exact check_eq_typeError h1 h2

end

/-- The items of a string or an object are strings, and no pairs. -/
theorem parseDay_of_strings {items : List Json} (hiter : value.iter = some items)
    (hstrings : ∀ item ∈ items, ∃ s, item = .str s) (hne : items ≠ []) (hkey : dayKey ∈ dayKeys) :
    ∃ invalid, parseDay dayKey value = .error (.invalid invalid) := by
  obtain ⟨item, rest, rfl⟩ := List.exists_cons_of_ne_nil hne
  obtain ⟨s, rfl⟩ := hstrings item List.mem_cons_self
  refine ⟨.notAPair dayKey (.str s), ?_⟩
  rw [parseDay, if_neg (not_not.mpr hkey), hiter]
  dsimp only
  rw [List.mapM_cons]
  rfl

theorem parseDay_arr (pairs : List Json) (hkey : dayKey ∈ dayKeys) :
    parseDay dayKey (.arr pairs) = (pairs.mapM (parsePair dayKey) >>= fun intervals =>
      checkOverlaps dayKey intervals >>= fun _ => pure !intervals.isEmpty) := by
  rw [parseDay, if_neg (not_not.mpr hkey)]
  rfl

theorem parseDay_of_unknown (hkey : dayKey ∉ dayKeys) :
    parseDay dayKey value = .error (.invalid (.unknownDayKey dayKey)) := if_pos hkey

theorem parseDay_arr_eq_ok {pairs : List Json} {opened : Bool} (hkey : dayKey ∈ dayKeys) :
    parseDay dayKey (.arr pairs) = .ok opened ↔ IsDay (.arr pairs) ∧ opened = !pairs.isEmpty := by
  rw [parseDay_arr pairs hkey]
  constructor
  · intro h
    obtain ⟨intervals, hmap, h⟩ := Outcome.bind_eq_ok.mp h
    obtain ⟨_, hapart, h⟩ := Outcome.bind_eq_ok.mp h
    have hpairs := mapM_parsePair_eq_ok.mp hmap
    refine ⟨⟨pairs, intervals, rfl, hpairs, (checkOverlaps_eq_ok (comparable_of_forall₂ hpairs)).mp hapart⟩, ?_⟩
    rw [← (Outcome.pure_eq_ok _ _).mp h]
    cases hpairs <;> rfl
  · rintro ⟨⟨_, intervals, hvalue, hpairs, hapart⟩, rfl⟩
    cases hvalue
    rw [mapM_parsePair_eq_ok.mpr hpairs]
    show (checkOverlaps dayKey intervals >>= fun _ => _) = _
    rw [(checkOverlaps_eq_ok (comparable_of_forall₂ hpairs)).mpr hapart]
    cases hpairs <;> rfl

theorem parseDay_arr_eq_typeError {pairs : List Json} (hkey : dayKey ∈ dayKeys) :
    parseDay dayKey (.arr pairs) = .error .typeError ↔ Incomparable (.arr pairs) := by
  have hfirst : pairs.mapM (parsePair dayKey) = .error .typeError ↔
      FirstIs (fun pair => ∃ w, IsInterval pair w) IsMixed pairs := by
    rw [Outcome.mapM_eq_error]
    simp only [parsePair_eq_ok, parsePair_eq_typeError]
    rfl
  have hiff : Incomparable (.arr pairs) ↔ FirstIs (fun pair => ∃ w, IsInterval pair w) IsMixed pairs ∨
      ∃ intervals, List.Forall₂ IsInterval pairs intervals ∧
        FirstIs (fun p => Separate p.1 p.2) (fun p => ¬ Comparable p.1.1 p.2.1) (pairsOf intervals) := by
    simp [Incomparable, Json.iter]
  rw [hiff, ← hfirst, parseDay_arr pairs hkey, Outcome.bind_eq_error]
  refine or_congr_right (exists_congr fun intervals => ?_)
  rw [mapM_parsePair_eq_ok]
  refine and_congr_right fun hpairs => ?_
  rw [Outcome.bind_eq_error, checkOverlaps_eq_typeError (comparable_of_forall₂ hpairs)]
  simp

/-- What `parseDay` makes of a value under a known key. -/
theorem parseDay_cases (hkey : dayKey ∈ dayKeys) (value : Json) :
    (∃ pairs, value = .arr pairs) ∨
      (IsEmpty value ∧ parseDay dayKey value = .ok false) ∨
      (value.iter = none ∧ parseDay dayKey value = .error .typeError) ∨
      ((∃ items, value.iter = some items) ∧ (∀ pairs, value ≠ .arr pairs) ∧ ¬ IsEmpty value ∧
        ∃ invalid, parseDay dayKey value = .error (.invalid invalid)) := by
  have hnone : value.iter = none → parseDay dayKey value = .error .typeError := by
    intro hiter
    rw [parseDay, if_neg (not_not.mpr hkey), hiter]
    rfl
  cases value with
  | arr pairs => exact .inl ⟨pairs, rfl⟩
  | null => exact .inr (.inr (.inl ⟨rfl, hnone rfl⟩))
  | bool b => exact .inr (.inr (.inl ⟨rfl, hnone rfl⟩))
  | int n => exact .inr (.inr (.inl ⟨rfl, hnone rfl⟩))
  | float literal => exact .inr (.inr (.inl ⟨rfl, hnone rfl⟩))
  -- iterated by its characters
  | str s =>
    by_cases hs : s = ""
    · subst hs
      refine .inr (.inl ⟨.inl rfl, ?_⟩)
      rw [parseDay, if_neg (not_not.mpr hkey)]
      rfl
    · refine .inr (.inr (.inr ⟨⟨_, rfl⟩, by simp, by simp [IsEmpty, hs], parseDay_of_strings rfl ?_ ?_ hkey⟩))
      · intro item hitem
        obtain ⟨c, -, rfl⟩ := List.mem_map.mp hitem
        exact ⟨_, rfl⟩
      · simpa using hs
  -- iterated by its keys
  | obj fields =>
    by_cases hfields : fields = []
    · subst hfields
      refine .inr (.inl ⟨.inr rfl, ?_⟩)
      rw [parseDay, if_neg (not_not.mpr hkey)]
      rfl
    · refine .inr (.inr (.inr ⟨⟨_, rfl⟩, by simp, by simp [IsEmpty, hfields], parseDay_of_strings rfl ?_ ?_ hkey⟩))
      · intro item hitem
        obtain ⟨field, -, rfl⟩ := List.mem_map.mp hitem
        exact ⟨_, rfl⟩
      · simpa using hfields

theorem passesDay_arr {pairs : List Json} :
    PassesDay (dayKey, .arr pairs) ↔ dayKey ∈ dayKeys ∧ IsDay (.arr pairs) := by
  simp [PassesDay, IsEmpty]

/-- **A day passes** with an interval or without. -/
theorem parseDay_eq_ok {opened : Bool} : parseDay dayKey value = .ok opened ↔
    PassesDay (dayKey, value) ∧ (opened = true ↔ value ≠ .arr [] ∧ ¬ IsEmpty value) := by
  by_cases hkey : dayKey ∈ dayKeys
  · rcases parseDay_cases hkey value with ⟨pairs, rfl⟩ | ⟨hempty, hok⟩ | ⟨hiter, herror⟩ |
      ⟨-, hlist, hne, invalid, herror⟩
    · rw [parseDay_arr_eq_ok hkey, passesDay_arr, and_iff_right hkey]
      refine and_congr_right fun _ => ?_
      cases pairs <;> cases opened <;> simp [IsEmpty]
    · rw [hok]
      cases opened <;> simp [PassesDay, hkey, hempty]
    · rw [herror]
      refine iff_of_false (fun h => by cases h) ?_
      rintro ⟨⟨-, ⟨pairs, _, rfl, -⟩ | rfl | rfl⟩, -⟩ <;> cases hiter
    · rw [herror]
      refine iff_of_false (fun h => by cases h) ?_
      rintro ⟨⟨-, ⟨pairs, _, rfl, -⟩ | hempty⟩, -⟩
      · exact hlist pairs rfl
      · exact hne hempty
  · rw [parseDay_of_unknown hkey]
    exact iff_of_false (fun h => by cases h) fun h => hkey h.1.1

theorem parseDay_of_passes (h : PassesDay (dayKey, value)) : ∃ opened, parseDay dayKey value = .ok opened := by
  by_cases hopen : value ≠ .arr [] ∧ ¬ IsEmpty value
  · exact ⟨true, parseDay_eq_ok.mpr ⟨h, iff_of_true rfl hopen⟩⟩
  · exact ⟨false, parseDay_eq_ok.mpr ⟨h, iff_of_false (by simp) hopen⟩⟩

theorem parseDay_eq_typeError :
    parseDay dayKey value = .error .typeError ↔ dayKey ∈ dayKeys ∧ Incomparable value := by
  by_cases hkey : dayKey ∈ dayKeys
  · rw [and_iff_right hkey]
    rcases parseDay_cases hkey value with ⟨pairs, rfl⟩ | ⟨hempty, hok⟩ | ⟨hiter, herror⟩ |
      ⟨⟨items, hiter⟩, hlist, hne, invalid, herror⟩
    · exact parseDay_arr_eq_typeError hkey
    · rw [hok]
      refine iff_of_false (fun h => by cases h) ?_
      rcases hempty with rfl | rfl <;> simp [Incomparable, Json.iter]
    · exact iff_of_true herror (.inl hiter)
    · rw [herror]
      refine iff_of_false (fun h => by cases h) ?_
      rintro (hnone | ⟨pairs, rfl, -⟩)
      · rw [hiter] at hnone
        cases hnone
      · exact hlist pairs rfl
  · rw [parseDay_of_unknown hkey]
    exact iff_of_false (fun h => by cases h) fun h => hkey h.1

end

/-! ## The week

The items are checked in order, and the first one that raises decides what is raised. -/

section
variable {raw : JsonObject}

/-- **What passes**: days that pass, and an interval in the week. -/
theorem parseBusinessHours_eq_ok : parseBusinessHours raw = .ok () ↔
    (∀ item ∈ raw, PassesDay item) ∧ ∃ item ∈ raw, item.2 ≠ .arr [] ∧ ¬ IsEmpty item.2 := by
  unfold parseBusinessHours
  constructor
  · intro h
    obtain ⟨opened, hmap, h⟩ := Outcome.bind_eq_ok.mp h
    refine ⟨fun item hitem => ?_, ?_⟩
    · obtain ⟨_, -, hday⟩ := Outcome.exists_of_mapM_eq_ok hmap hitem
      exact (parseDay_eq_ok.mp hday).1
    · split at h
      next hany =>
        obtain ⟨o, ho, rfl⟩ := List.any_eq_true.mp hany
        obtain ⟨item, hitem, hday⟩ := Outcome.exists_item_of_mapM_eq_ok hmap ho
        exact ⟨item, hitem, (parseDay_eq_ok.mp hday).2.mp rfl⟩
      · cases h
  · rintro ⟨hall, item, hitem, hopen⟩
    obtain ⟨opened, hmap⟩ := Outcome.exists_mapM_eq_ok fun item hitem => parseDay_of_passes (hall item hitem)
    obtain ⟨o, ho, hday⟩ := Outcome.exists_of_mapM_eq_ok hmap hitem
    refine Outcome.bind_eq_ok.mpr ⟨opened, hmap, if_pos ?_⟩
    exact List.any_eq_true.mpr ⟨o, ho, (parseDay_eq_ok.mp hday).2.mpr hopen⟩

theorem parseBusinessHours_eq_typeError :
    parseBusinessHours raw = .error .typeError ↔ RaisesTypeError raw := by
  rw [parseBusinessHours, Outcome.bind_eq_error, Outcome.mapM_eq_error]
  constructor
  · rintro (⟨pre, item, post, rfl, hpre, herror⟩ | ⟨opened, -, h⟩)
    · refine ⟨pre, item, post, rfl, fun i hi => ?_, parseDay_eq_typeError.mp herror⟩
      obtain ⟨_, hday⟩ := hpre i hi
      exact (parseDay_eq_ok.mp hday).1
    · split at h <;> cases h
  · rintro ⟨pre, item, post, rfl, hpre, herror⟩
    exact .inl ⟨pre, item, post, rfl, fun i hi => parseDay_of_passes (hpre i hi),
      parseDay_eq_typeError.mpr herror⟩

end

/-- **The validator and the grammar**: it accepts exactly the grammar, and raises only what it is to
    raise, exactly on the schedules in which no `TypeError` comes first and no empty string or object
    passes. -/
theorem validates_iff (raw : JsonObject) : Validates raw ↔ ¬ RaisesTypeError raw ∧ ¬ PassesEmpty raw := by
  have herror : (∀ e, parseBusinessHours raw = .error e → ∃ invalid, e = .invalid invalid) ↔
      ¬ RaisesTypeError raw := by
    rw [← parseBusinessHours_eq_typeError]
    constructor
    · intro h htype
      obtain ⟨_, heq⟩ := h _ htype
      cases heq
    · intro hne e he
      cases e with
      | invalid e => exact ⟨e, rfl⟩
      | typeError => exact absurd he hne
  rw [Validates, herror, and_comm]
  refine and_congr_right fun _ => ?_
  rw [parseBusinessHours_eq_ok]
  constructor
  · rintro hiff ⟨hall, ⟨item, hitem, hempty⟩, hopen⟩
    -- an empty string or object is no list
    obtain ⟨-, pairs, _, hvalue, -⟩ := (hiff.mp ⟨hall, hopen⟩).1 item hitem
    rcases hempty with heq | heq <;> rw [hvalue] at heq <;> cases heq
  · intro hne
    constructor
    · rintro ⟨hall, item, hitem, hlist, hempty⟩
      refine ⟨fun i hi => ⟨(hall i hi).1, (hall i hi).2.resolve_right fun hi' => ?_⟩, item, hitem, hlist⟩
      exact hne ⟨hall, ⟨i, hi, hi'⟩, item, hitem, hlist, hempty⟩
    · rintro ⟨hall, item, hitem, hlist⟩
      refine ⟨fun i hi => ⟨(hall i hi).1, .inl (hall i hi).2⟩, item, hitem, hlist, fun hempty => ?_⟩
      obtain ⟨-, pairs, _, hvalue, -⟩ := hall item hitem
      rcases hempty with heq | heq <;> rw [hvalue] at heq <;> cases heq

/-- `{"mon": [["09:00", "18:00"]], "tue": null}`: a closed Tuesday that is written as `null`. -/
theorem not_validates :
    ¬ Validates [("mon", .arr [.arr [.str "09:00", .str "18:00"]]), ("tue", .null)] := by
  rintro ⟨-, h⟩
  obtain ⟨invalid, heq⟩ := h .typeError rfl
  cases heq

end Helpdesk.Sla
