import Helpdesk.Analytics.Rates
import Helpdesk.Analytics.Rollup
import Helpdesk.Library.Journal
import Helpdesk.Library.Run

/-! # The trends

`rollup_daily_metrics` recomputes what each organization's last local days come to and writes it over the rows of
`daily_metrics`, family by family, each in a savepoint of its own. `GET /analytics/trends` reads them back.

**`trends_of_run`**: after any passes a series has a point for each day of which some pass that was committed has
computed the metric, in the order of the days, with the value of the last such pass. What other families, days
and organizations come to plays no part, but a zone that is not found, or a local day before the first one of
the calendar, ends the whole pass. -/

namespace Helpdesk.Analytics

open Sla

/-! ## Rows

A statement writes all of its rows or none: a value that a CHECK refuses, or a key that comes twice, fails it as
a whole. -/

/-- The columns of `ux_daily_metrics_org_date_key`. -/
structure MetricKey where
  organizationId : Uuid
  metricDate : Int
  metricKey : String
  deriving DecidableEq

/-- The value of a `NUMERIC(14, 4)` column, in ten-thousandths. -/
structure DailyMetric where
  metricValue : Int
  metric_value_non_negative : 0 ≤ metricValue
  metric_value_precision : metricValue < 100000000000000
  deriving DecidableEq

/-- Rounded to four places, ties away from zero. -/
def tenThousandths (v : ℚ) : Int :=
  if 0 ≤ v then (v * 10000 + 1 / 2).floor else -(-v * 10000 + 1 / 2).floor

/-- What is stored of a `Decimal`, unless a check fails or it has too many digits. -/
def DailyMetric.ofDecimal (v : ℚ) : Option DailyMetric :=
  if h : 0 ≤ tenThousandths v ∧ tenThousandths v < 100000000000000 then some ⟨tenThousandths v, h.1, h.2⟩ else none

abbrev DailyMetrics := Table MetricKey DailyMetric

/-- The rows of one statement, as they are stored. `ON CONFLICT ... DO UPDATE` cannot affect a row twice. -/
def checkedRows (rows : List (MetricKey × ℚ)) : Option (List (MetricKey × DailyMetric)) :=
  if (rows.map Prod.fst).Nodup then
    rows.mapM fun row =>
      if Text.btrim row.1.metricKey = "" then none else (DailyMetric.ofDecimal row.2).map fun m => (row.1, m)
  else none

/-- `upsert_daily_metrics` -/
def upsertDailyMetrics (store : DailyMetrics) (rows : List (MetricKey × ℚ)) : Option DailyMetrics :=
  (checkedRows rows).map store.writeAll

/-! ## Passes

A family that fails is left out. What ends the pass is outside of the savepoints: the zone and the local days of an
organization, and the commit. -/

inductive Family where
  | tickets
  | sla
  | chat
  | classifier
  | rag
  deriving DecidableEq

/-- `_FAMILY_FUNCTION_NAMES` -/
def families : List Family := [.tickets, .sla, .chat, .classifier, .rag]

def Family.metrics : Family → Reading → List (String × ℚ)
  | tickets => ticketsFamilyMetrics
  | sla => slaFamilyMetrics
  | chat => chatFamilyMetrics
  | classifier => classifierFamilyMetrics
  | rag => ragFamilyMetrics

/-- An execution of the job. -/
structure Pass where
  now : Int
  organizations : Table Uuid Organization
  /-- what the statements of a family see for an organization and a day, unless one of them raises -/
  sees : Uuid → Int → Family → Option (Db × Stamps)
  commits : Bool

section
variable (zoneInfo : String → Option Zone) (p : Pass)

/-- The rows of a family. -/
def familyRows (organizationId : Uuid) (tz : Zone) (localDay : Int) (family : Family) :
    Option (List (MetricKey × ℚ)) := do
  let (db, stamps) ← p.sees organizationId localDay family
  let window ← (localDayUtcBounds tz localDay).toOption
  some ((family.metrics ⟨db, stamps, organizationId, window⟩).map fun m => (⟨organizationId, localDay, m.1⟩, m.2))

/-- `_rollup_family`: whatever is raised, the savepoint is rolled back and the pass goes on. -/
def rollupFamily (organizationId : Uuid) (tz : Zone) (localDay : Int) (store : DailyMetrics) (family : Family) :
    DailyMetrics :=
  ((familyRows p organizationId tz localDay family).bind (upsertDailyMetrics store)).getD store

/-- An organization's zone, and its days. -/
def localDaysOf (organization : Organization) : Option (Zone × List Int) := do
  let tz ← zoneInfo organization.timezone
  let localDays ← (completedLocalDays tz p.now).toOption
  some (tz, localDays)

def rollupOrganization (organizationId : Uuid) (tz : Zone) (localDays : List Int) (store : DailyMetrics) :
    DailyMetrics :=
  localDays.foldl (fun store localDay => families.foldl (rollupFamily p organizationId tz localDay) store) store

/-- `rollup_daily_metrics` up to its commit. -/
def rollupDailyMetrics (store : DailyMetrics) : Option DailyMetrics :=
  (p.organizations.select fun _ _ => true).foldlM
    (fun store row => (localDaysOf zoneInfo p row.2).map fun days => rollupOrganization p row.1 days.1 days.2 store)
    store

/-- The committed rows after a pass. -/
def Pass.step (store : DailyMetrics) : DailyMetrics :=
  if p.commits then (rollupDailyMetrics zoneInfo p store).getD store else store

end

/-! ## The endpoint

Who may ask, for which metric and for how many days. The days are resolved before they are checked. -/

/-- `METRIC_KEYS` -/
def metricKeys : List String :=
  ["tickets_created", "tickets_resolved", "tickets_open", "avg_resolution_hours", "sla_compliance_rate",
    "classifier_accuracy", "llm_fallback_rate", "rag_suggestion_usage_rate", "chat_sessions_started",
    "chat_to_ticket_rate", "chat_escalation_rate"]

/-- `TREND_MAX_SPAN_DAYS` -/
def trendMaxSpanDays : Int := 366

/-- `_TRENDS_DEFAULT_LOOKBACK_DAYS` -/
def trendsDefaultLookbackDays : Int := 30

/-- `DailyMetricRepository.series`: the scope's rows of a metric, from the one day to the other. -/
def series (scope : OrgScope) (metricKey : String) (startDate endDate : Int) (store : DailyMetrics) :
    List (MetricKey × DailyMetric) :=
  (store.select fun k _ => k.organizationId = scope.organizationId && k.metricKey = metricKey &&
    startDate ≤ k.metricDate && k.metricDate ≤ endDate).insertionSort
      fun row row' => row.1.metricDate ≤ row'.1.metricDate

structure TrendResponse where
  metricKey : String
  startDate : Int
  endDate : Int
  points : List (Int × DailyMetric)
  deriving DecidableEq

inductive TrendError where
  | http (statusCode : Nat) (detail : String)
  /-- a date before the first one -/
  | overflow
  deriving DecidableEq

/-- `GET /analytics/trends`; `repr` is Python's. -/
def getTrends (repr : String → String) (scope : OrgScope) (metricKey : String) (startDate endDate : Option Int)
    (today : Int) (store : DailyMetrics) : Except TrendError TrendResponse :=
  if scope.role ≠ .admin then .error (.http 403 "admin privileges required")
  else if metricKey ∉ metricKeys then .error (.http 422 ("unknown metric_key: " ++ repr metricKey))
  else
    let resolvedEnd := endDate.getD today
    match startDate.map .ok |>.getD (checkedDate (resolvedEnd - (trendsDefaultLookbackDays - 1))) with
    | .error _ => .error .overflow
    | .ok resolvedStart =>
      if resolvedEnd < resolvedStart then .error (.http 422 "end_date must not be before start_date")
      else if trendMaxSpanDays < resolvedEnd - resolvedStart then
        .error (.http 422 ("date span exceeds the " ++ toString trendMaxSpanDays ++ "-day maximum"))
      else .ok
        { metricKey := metricKey
          startDate := resolvedStart
          endDate := resolvedEnd
          points := (series scope metricKey resolvedStart resolvedEnd store).map fun row => (row.1.metricDate, row.2) }

/-! ## What a pass has for a key

A key belongs to one family, so a pass writes it at most once for each local day that it computes: `Pass.value`
is this one row, without the loops. -/

/-- The keys that a family may write. -/
def Family.keys : Family → List String
  | tickets => ["tickets_created", "tickets_open"]
  | sla => ["tickets_resolved", "avg_resolution_hours", "sla_compliance_rate"]
  | chat => ["chat_sessions_started", "chat_escalation_rate", "chat_to_ticket_rate"]
  | classifier => ["classifier_accuracy", "llm_fallback_rate"]
  | rag => ["rag_suggestion_usage_rate"]

/-- The rows that a family writes. -/
def familyJournal (p : Pass) (organizationId : Uuid) (tz : Zone) (localDay : Int) (family : Family) :
    List (MetricKey × DailyMetric) :=
  ((familyRows p organizationId tz localDay family).bind checkedRows).getD []

/-- Each organization has a zone and days. -/
def Pass.finishes (zoneInfo : String → Option Zone) (p : Pass) : Bool :=
  (p.organizations.select fun _ _ => true).all fun row => (localDaysOf zoneInfo p row.2).isSome

/-- The value that the pass computes, of the one family that the key belongs to. -/
def Pass.value (zoneInfo : String → Option Zone) (p : Pass) (k : MetricKey) : Option DailyMetric :=
  if p.commits && p.finishes zoneInfo then do
    let organization ← p.organizations.lookup k.organizationId
    let (tz, localDays) ← localDaysOf zoneInfo p organization
    let family ← families.find? fun family => k.metricKey ∈ family.keys
    if k.metricDate ∈ localDays then Table.lastOf k (familyJournal p k.organizationId tz k.metricDate family)
    else none
  else none

section
variable {zoneInfo : String → Option Zone} {p : Pass} {organizationId : Uuid} {tz : Zone} {localDay : Int}
  {family : Family} {k : MetricKey}

theorem family_eq_of_mem_keys {family family' : Family} {key : String} (h : key ∈ family.keys)
    (h' : key ∈ family'.keys) : family = family' := by
  have hkeys : ∀ key ∈ family.keys, key ∈ family'.keys → family = family' := by
    cases family <;> cases family' <;> decide
  exact hkeys key h h'

/-- A family writes its own keys. -/
theorem mem_keys_of_mem_metrics {r : Reading} {m : String × ℚ} (h : m ∈ family.metrics r) : m.1 ∈ family.keys := by
  obtain ⟨key, value⟩ := m
  -- by the lists of the families
  cases family with
  | rag =>
    replace h : (key, value) ∈ ragFamilyMetrics r := h
    rw [ragFamilyMetrics_eq, mem_orOmit] at h
    simp [Family.keys, h.1]
  | tickets =>
    replace h : (key, value) ∈ ticketsFamilyMetrics r := h
    simp only [ticketsFamilyMetrics, List.mem_cons, Prod.mk.injEq, List.not_mem_nil, or_false] at h
    rcases h with h | h <;> simp [Family.keys, h.1]
  | sla =>
    replace h : (key, value) ∈ slaFamilyMetrics r := h
    simp only [slaFamilyMetrics, List.mem_append, List.mem_cons, mem_orOmit, Prod.mk.injEq] at h
    rcases h with (h | h) | h <;> simp [Family.keys, h.1]
  | chat =>
    replace h : (key, value) ∈ chatFamilyMetrics r := h
    simp only [chatFamilyMetrics, List.mem_append, List.mem_cons, mem_orOmit, Prod.mk.injEq] at h
    rcases h with (h | h) | h <;> simp [Family.keys, h.1]
  | classifier =>
    replace h : (key, value) ∈ classifierFamilyMetrics r := h
    simp only [classifierFamilyMetrics, List.mem_append, mem_orOmit] at h
    rcases h with h | h <;> simp [Family.keys, h.1]

theorem exists_of_mapM {α β : Type} {f : α → Option β} {xs : List α} {ys : List β} (h : xs.mapM f = some ys)
    {y : β} (hy : y ∈ ys) : ∃ x ∈ xs, f x = some y := by
  induction xs generalizing ys with
  | nil =>
    cases h
    cases hy
  | cons x rest ih =>
    rw [List.mapM_cons] at h
    obtain ⟨z, hz, h⟩ := Option.bind_eq_some_iff.mp h
    obtain ⟨zs, hzs, h⟩ := Option.bind_eq_some_iff.mp h
    cases h
    rcases List.mem_cons.mp hy with rfl | hy
    · exact ⟨x, List.mem_cons_self, hz⟩
    · obtain ⟨x', hx', hfx⟩ := ih hzs hy
      exact ⟨x', List.mem_cons_of_mem _ hx', hfx⟩

/-- Rows are stored under the keys that they have. -/
theorem exists_of_checkedRows {rows : List (MetricKey × ℚ)} {journal : List (MetricKey × DailyMetric)}
    (h : checkedRows rows = some journal) {e : MetricKey × DailyMetric} (he : e ∈ journal) :
    ∃ row ∈ rows, row.1 = e.1 := by
  obtain ⟨-, h⟩ := Option.ite_none_right_eq_some.mp h
  obtain ⟨row, hrow, hchecked⟩ := exists_of_mapM h he
  obtain ⟨-, hchecked⟩ := Option.ite_none_left_eq_some.mp hchecked
  obtain ⟨m, -, rfl⟩ := Option.map_eq_some_iff.mp hchecked
  exact ⟨row, hrow, rfl⟩

theorem of_mem_familyJournal {e : MetricKey × DailyMetric}
    (he : e ∈ familyJournal p organizationId tz localDay family) :
    e.1.organizationId = organizationId ∧ e.1.metricDate = localDay ∧ e.1.metricKey ∈ family.keys := by
  unfold familyJournal at he
  cases hjournal : (familyRows p organizationId tz localDay family).bind checkedRows with
  | none =>
    rw [hjournal] at he
    cases he
  | some journal =>
    rw [hjournal, Option.getD_some] at he
    obtain ⟨rows, hrows, hchecked⟩ := Option.bind_eq_some_iff.mp hjournal
    obtain ⟨row, hrow, hkey⟩ := exists_of_checkedRows hchecked he
    obtain ⟨seen, -, hrows⟩ := Option.bind_eq_some_iff.mp hrows
    obtain ⟨window, -, hrows⟩ := Option.bind_eq_some_iff.mp hrows
    cases hrows
    obtain ⟨m, hm, rfl⟩ := List.mem_map.mp hrow
    rw [← hkey]
    exact ⟨rfl, rfl, mem_keys_of_mem_metrics hm⟩

theorem lastOf_familyJournal_eq_none (h : ¬ (k.organizationId = organizationId ∧ k.metricDate = localDay ∧
    k.metricKey ∈ family.keys)) :
    Table.lastOf k (familyJournal p organizationId tz localDay family) = none := by
  apply Table.lastOf_eq_none
  rintro e he rfl
  exact h (of_mem_familyJournal he)

/-! ## The journal of a pass

The loops over organizations, days and families write one list of rows, in their order (`Pass.step_eq`). What a
table has under a key after a list of writes is the last row with the key, and the loops other than the key's
own have none. -/

/-- What is written for an organization and a day. -/
def dayJournal (p : Pass) (organizationId : Uuid) (tz : Zone) (localDay : Int) : List (MetricKey × DailyMetric) :=
  families.flatMap (familyJournal p organizationId tz localDay)

/-- What is written for an organization. -/
def organizationJournal (zoneInfo : String → Option Zone) (p : Pass) (row : Uuid × Organization) :
    List (MetricKey × DailyMetric) :=
  ((localDaysOf zoneInfo p row.2).map fun days => days.2.flatMap (dayJournal p row.1 days.1)).getD []

/-- What is written and committed. -/
def Pass.journal (zoneInfo : String → Option Zone) (p : Pass) : List (MetricKey × DailyMetric) :=
  if p.commits && p.finishes zoneInfo then
    (p.organizations.select fun _ _ => true).flatMap (organizationJournal zoneInfo p)
  else []

theorem rollupFamily_eq (store : DailyMetrics) : rollupFamily p organizationId tz localDay store family =
    store.writeAll (familyJournal p organizationId tz localDay family) := by
  unfold rollupFamily familyJournal upsertDailyMetrics
  cases familyRows p organizationId tz localDay family with
  | none => rfl
  | some rows =>
    show ((checkedRows rows).map store.writeAll).getD store = store.writeAll ((checkedRows rows).getD [])
    cases checkedRows rows <;> rfl

theorem rollupOrganization_eq (localDays : List Int) (store : DailyMetrics) :
    rollupOrganization p organizationId tz localDays store =
      store.writeAll (localDays.flatMap (dayJournal p organizationId tz)) := by
  rw [← Table.writeAll_flatMap]
  unfold rollupOrganization
  congr 1
  funext store localDay
  show families.foldl (fun store family => rollupFamily p organizationId tz localDay store family) store = _
  simp only [rollupFamily_eq]
  exact Table.writeAll_flatMap _ _ _

/-- The loop over the organizations. -/
theorem foldlM_organizations (rows : List (Uuid × Organization)) (store : DailyMetrics) :
    rows.foldlM (fun store row => (localDaysOf zoneInfo p row.2).map fun days =>
        rollupOrganization p row.1 days.1 days.2 store) store =
      if rows.all fun row => (localDaysOf zoneInfo p row.2).isSome then
        some (store.writeAll (rows.flatMap (organizationJournal zoneInfo p)))
      else none := by
  induction rows generalizing store with
  | nil => rfl
  | cons row rest ih =>
    rw [List.foldlM_cons, List.all_cons, List.flatMap_cons, Table.writeAll_append]
    cases hdays : localDaysOf zoneInfo p row.2 with
    | none => rfl
    | some days =>
      have hrow : organizationJournal zoneInfo p row = days.2.flatMap (dayJournal p row.1 days.1) := by
        rw [organizationJournal, hdays]
        rfl
      rw [hrow, ← rollupOrganization_eq]
      exact ih _

/-- **A pass** writes its journal. -/
theorem Pass.step_eq (store : DailyMetrics) : Pass.step zoneInfo p store = store.writeAll (p.journal zoneInfo) := by
  unfold Pass.step rollupDailyMetrics Pass.journal
  rw [foldlM_organizations]
  cases p.commits with
  | false => rfl
  | true =>
    rw [if_pos rfl, Bool.true_and, Pass.finishes]
    split <;> rfl

theorem lastOf_dayJournal : Table.lastOf k (dayJournal p k.organizationId tz k.metricDate) =
    (families.find? fun family => k.metricKey ∈ family.keys).bind fun family =>
      Table.lastOf k (familyJournal p k.organizationId tz k.metricDate family) := by
  cases hfound : families.find? fun family => k.metricKey ∈ family.keys with
  | none =>
    refine Table.lastOf_flatMap_eq_none fun family hfamily => lastOf_familyJournal_eq_none ?_
    rintro ⟨-, -, hkey⟩
    simpa [hkey] using List.find?_eq_none.mp hfound family hfamily
  | some family =>
    refine Table.lastOf_flatMap_of_mem (List.mem_of_find?_eq_some hfound) fun family' _ hne => ?_
    refine lastOf_familyJournal_eq_none ?_
    rintro ⟨-, -, hkey⟩
    exact hne (family_eq_of_mem_keys hkey (by simpa using List.find?_some hfound))

/-- Nothing is written under a key of another organization or day. -/
theorem lastOf_dayJournal_eq_none (h : ¬ (k.organizationId = organizationId ∧ k.metricDate = localDay)) :
    Table.lastOf k (dayJournal p organizationId tz localDay) = none :=
  Table.lastOf_flatMap_eq_none fun _ _ => lastOf_familyJournal_eq_none fun hkey => h ⟨hkey.1, hkey.2.1⟩

theorem lastOf_organizationJournal_eq_none {row : Uuid × Organization} (h : k.organizationId ≠ row.1) :
    Table.lastOf k (organizationJournal zoneInfo p row) = none := by
  unfold organizationJournal
  cases localDaysOf zoneInfo p row.2 with
  | none => rfl
  | some days => exact Table.lastOf_flatMap_eq_none fun _ _ => lastOf_dayJournal_eq_none fun hkey => h hkey.1

theorem lastOf_organizationJournal {organization : Organization} :
    Table.lastOf k (organizationJournal zoneInfo p (k.organizationId, organization)) = (do
      let (tz, localDays) ← localDaysOf zoneInfo p organization
      let family ← families.find? fun family => k.metricKey ∈ family.keys
      if k.metricDate ∈ localDays then Table.lastOf k (familyJournal p k.organizationId tz k.metricDate family)
      else none) := by
  unfold organizationJournal
  dsimp only
  cases localDaysOf zoneInfo p organization with
  | none => rfl
  | some days =>
    obtain ⟨tz, localDays⟩ := days
    show Table.lastOf k (localDays.flatMap (dayJournal p k.organizationId tz)) = (families.find? _).bind _
    -- the days other than the key's have no row for it
    by_cases hday : k.metricDate ∈ localDays
    · rw [Table.lastOf_flatMap_of_mem hday fun localDay _ hne =>
        lastOf_dayJournal_eq_none fun hkey => hne hkey.2.symm, lastOf_dayJournal]
      simp only [hday, if_true]
    · rw [Table.lastOf_flatMap_eq_none fun localDay hlocalDay => lastOf_dayJournal_eq_none fun hkey =>
        hday (hkey.2 ▸ hlocalDay)]
      simp only [hday, if_false, Option.bind_fun_none]

/-- **What a pass has for a key** -/
theorem lastOf_journal : Table.lastOf k (p.journal zoneInfo) = p.value zoneInfo k := by
  unfold Pass.journal Pass.value
  split
  · -- an organization that is not there has no row, and one that is there has its turn
    cases horganization : p.organizations.lookup k.organizationId with
    | none =>
      refine Table.lastOf_flatMap_eq_none fun row hrow => lastOf_organizationJournal_eq_none fun heq => ?_
      obtain ⟨hrow, -⟩ := Table.mem_select.mp hrow
      rw [← heq, horganization] at hrow
      cases hrow
    | some organization =>
      have hmem : (k.organizationId, organization) ∈ p.organizations.select fun _ _ => true :=
        Table.mem_select.mpr ⟨horganization, rfl⟩
      rw [Table.lastOf_flatMap_of_mem hmem fun row hrow hne => lastOf_organizationJournal_eq_none fun heq => ?_,
        lastOf_organizationJournal]
      · rfl
      · obtain ⟨hrow, -⟩ := Table.mem_select.mp hrow
        rw [← heq, horganization] at hrow
        obtain rfl := Option.some.inj hrow
        exact hne (Prod.ext heq.symm rfl)
  · rfl

end

/-! ## Series

Passes one after another have one journal, so the value of a day is that of the last pass with a value. A series
reads it back by an index on the day: it is the days of the range that have a row. -/

/-- What is stored under a key after some passes. -/
theorem lookup_run (zoneInfo : String → Option Zone) (store : DailyMetrics) (passes : List Pass) (k : MetricKey) :
    (Run.run (fun store p => Pass.step zoneInfo p store) store passes).lookup k =
      ((passes.filterMap fun p => p.value zoneInfo k).getLast?).or (store.lookup k) := by
  have hrun : Run.run (fun store p => Pass.step zoneInfo p store) store passes =
      store.writeAll (passes.flatMap fun p => p.journal zoneInfo) := by
    rw [← Table.writeAll_flatMap, Run.run]
    congr 1
    funext store p
    exact Pass.step_eq store
  rw [hrun, Table.lookup_writeAll, Table.lastOf_flatMap]
  simp only [lastOf_journal]

theorem dayRange_sorted (first : Int) (n : Nat) : (dayRange first n).Pairwise (· < ·) := by
  induction n generalizing first with
  | zero => exact .nil
  | succ n ih =>
    refine List.pairwise_cons.mpr ⟨fun day hday => ?_, ih _⟩
    have := (mem_dayRange.mp hday).1
    omega

/-- The days of a series that have a row. -/
def dated (scope : OrgScope) (metricKey : String) (startDate endDate : Int) (store : DailyMetrics) :
    List (MetricKey × DailyMetric) :=
  (dayRange startDate (endDate - startDate + 1).toNat).filterMap fun day =>
    (store.lookup ⟨scope.organizationId, day, metricKey⟩).map fun m => (⟨scope.organizationId, day, metricKey⟩, m)

/-- **A series** is in the order of its days, and has each day's row. -/
theorem series_eq (scope : OrgScope) (metricKey : String) (startDate endDate : Int) (store : DailyMetrics) :
    series scope metricKey startDate endDate store = dated scope metricKey startDate endDate store := by
  have hsorted : (dated scope metricKey startDate endDate store).Pairwise fun row row' =>
      row.1.metricDate < row'.1.metricDate := by
    refine List.Pairwise.filterMap _ (fun day day' hlt row hrow row' hrow' => ?_) (dayRange_sorted _ _)
    obtain ⟨m, -, rfl⟩ := Option.map_eq_some_iff.mp hrow
    obtain ⟨m', -, rfl⟩ := Option.map_eq_some_iff.mp hrow'
    exact hlt
  -- both have the same rows
  have hselect : ∀ row : MetricKey × DailyMetric,
      row ∈ store.select (fun k _ => k.organizationId = scope.organizationId && k.metricKey = metricKey &&
        startDate ≤ k.metricDate && k.metricDate ≤ endDate) ↔
        row ∈ dated scope metricKey startDate endDate store := by
    rintro ⟨⟨organizationId, day, key⟩, m⟩
    simp only [dated, Table.mem_select, List.mem_filterMap, mem_dayRange, Option.map_eq_some_iff, Bool.and_eq_true,
      decide_eq_true_eq, Prod.mk.injEq, MetricKey.mk.injEq]
    constructor
    · rintro ⟨hrow, ⟨⟨rfl, rfl⟩, hfrom⟩, hto⟩
      exact ⟨day, ⟨hfrom, by omega⟩, m, hrow, ⟨rfl, rfl, rfl⟩, rfl⟩
    · rintro ⟨day', ⟨hfrom, hto⟩, m', hrow, ⟨rfl, rfl, rfl⟩, rfl⟩
      exact ⟨hrow, ⟨⟨rfl, rfl⟩, hfrom⟩, by omega⟩
  have hnodup : (dated scope metricKey startDate endDate store).Nodup :=
    hsorted.imp fun hlt heq => by
      rw [heq] at hlt
      exact lt_irrefl _ hlt
  have hperm := (List.perm_ext_iff_of_nodup ((Table.select_keys_nodup _ _).of_map _) hnodup).mpr hselect
  -- and the sorted one of them is unique, since no day comes twice
  have hkeys := (hperm.map fun row : MetricKey × DailyMetric => row.1.metricDate).nodup_iff.mpr <|
    List.pairwise_map.mpr (hsorted.imp fun hlt => ne_of_lt hlt)
  exact (Window.ordered_eq_iff hkeys hperm).mpr hsorted

/-- The first date of the series, which may have to be computed. -/
def resolveStart (startDate : Option Int) (resolvedEnd : Int) : Except Sla.SlaError Int :=
  startDate.map .ok |>.getD (checkedDate (resolvedEnd - (trendsDefaultLookbackDays - 1)))

/-- The request is one that is answered: an admin's, for a known metric, and not of too many days. -/
structure Answers (scope : OrgScope) (metricKey : String) (startDate endDate : Option Int) (today : Int)
    (response : TrendResponse) : Prop where
  admin : scope.role = .admin
  metricKey_eq : response.metricKey = metricKey
  known : metricKey ∈ metricKeys
  ends : response.endDate = endDate.getD today
  starts : resolveStart startDate response.endDate = .ok response.startDate
  ordered : response.startDate ≤ response.endDate
  span : response.endDate - response.startDate ≤ trendMaxSpanDays

section
variable {repr : String → String} {scope : OrgScope} {metricKey : String} {startDate endDate : Option Int}
  {today : Int} {store : DailyMetrics} {response : TrendResponse}

/-- What the endpoint returns, and when. -/
theorem getTrends_iff : getTrends repr scope metricKey startDate endDate today store = .ok response ↔
    Answers scope metricKey startDate endDate today response ∧ response.points =
      (series scope metricKey response.startDate response.endDate store).map fun row => (row.1.metricDate, row.2) := by
  constructor
  · intro h
    unfold getTrends at h
    split at h
    · cases h
    next hadmin =>
      split at h
      · cases h
      next hknown =>
        dsimp only at h
        split at h
        · cases h
        next hstart =>
          split at h
          · cases h
          next hordered =>
            split at h
            · cases h
            next hspan =>
              cases h
              exact ⟨⟨of_not_not hadmin, rfl, of_not_not hknown, rfl, hstart, not_lt.mp hordered,
                not_lt.mp hspan⟩, rfl⟩
  · obtain ⟨key, first, last, points⟩ := response
    rintro ⟨⟨hadmin, rfl, hknown, rfl, hstart, hordered, hspan⟩, hpoints⟩
    dsimp only [resolveStart] at hknown hstart hordered hspan hpoints
    subst hpoints
    unfold getTrends
    rw [if_neg (not_not.mpr hadmin), if_neg (not_not.mpr hknown)]
    dsimp only
    rw [hstart]
    dsimp only
    rw [if_neg (not_lt.mpr hordered), if_neg (not_lt.mpr hspan)]

/-- **The trends after any passes**: a request is answered exactly if it is in order, and the point of a day is
    what the last pass that has a value for it has written, or what has been there before. -/
theorem trends_of_run (zoneInfo : String → Option Zone) (passes : List Pass) :
    getTrends repr scope metricKey startDate endDate today
      (Run.run (fun store p => Pass.step zoneInfo p store) store passes) = .ok response ↔
    Answers scope metricKey startDate endDate today response ∧
      response.points = (dayRange response.startDate (response.endDate - response.startDate + 1).toNat).filterMap
        fun day => (((passes.filterMap fun p => p.value zoneInfo ⟨scope.organizationId, day, metricKey⟩).getLast?).or
          (store.lookup ⟨scope.organizationId, day, metricKey⟩)).map fun m => (day, m) := by
  have hpoints : ((series scope metricKey response.startDate response.endDate
        (Run.run (fun store p => Pass.step zoneInfo p store) store passes)).map fun row => (row.1.metricDate, row.2)) =
      (dayRange response.startDate (response.endDate - response.startDate + 1).toNat).filterMap
        fun day => (((passes.filterMap fun p => p.value zoneInfo ⟨scope.organizationId, day, metricKey⟩).getLast?).or
          (store.lookup ⟨scope.organizationId, day, metricKey⟩)).map fun m => (day, m) := by
    rw [series_eq, dated, List.map_filterMap]
    refine List.filterMap_congr fun day _ => ?_
    rw [lookup_run, Option.map_map]
    rfl
  rw [getTrends_iff, hpoints]

end

/-! ## Two nights

The first night computes two days and finds nothing; the second computes one of them again. -/

def nightly (now : Int) (sees : Family → Option (Db × Stamps)) : Pass where
  now := now
  organizations := AList.insert 1
    { chatWidgetKey := "w"
      whatsappPhoneNumberId := none
      supportEmailAddress := none
      timezone := "UTC"
      businessHours := [] } ∅
  sees := fun _ _ => sees
  commits := true

/-- There is one ticket. -/
def oneTicket : Db := { Db.empty with tickets := AList.insert 3 (clocked .open open_ne_closed (days 739001) 0) ∅ }

/-- The second night finds a ticket of the day before, and the query of its SLA metrics fails. -/
def twoNights : List Pass :=
  [nightly (days 739002) fun _ => some (Db.empty, ⟨fun _ => 0, fun _ => 0, fun _ => 0⟩),
    nightly (days 739003) fun family =>
      if family = .sla then none else some (oneTicket, ⟨fun _ => 0, fun _ => 0, fun _ => 0⟩)]

def ticketsCreated : TrendResponse where
  metricKey := "tickets_created"
  startDate := 739000
  endDate := 739002
  points := [(739000, ⟨0, by decide, by decide⟩), (739001, ⟨10000, by decide, by decide⟩),
    (739002, ⟨0, by decide, by decide⟩)]

theorem trends_of_run_two_nights :
    Answers ⟨1, 9, .admin⟩ "tickets_created" (some 739000) (some 739002) 0 ticketsCreated ∧
      ticketsCreated.points = (dayRange 739000 3).filterMap fun day =>
        (((twoNights.filterMap fun p => p.value (fun _ => some utc.zone) ⟨1, day, "tickets_created"⟩).getLast?).or
          none).map fun m => (day, m) :=
  (@trends_of_run id ⟨1, 9, .admin⟩ "tickets_created" (some 739000) (some 739002) 0 ∅ ticketsCreated
    (fun _ => some utc.zone) twoNights).mp (by decide +kernel)

end Helpdesk.Analytics
