import Mathlib.Data.Rat.Defs
import Mathlib.Data.Finset.Card
import Mathlib.Tactic.Linarith
import Mathlib.Tactic.Positivity
import Mathlib.Tactic.Ring
import Helpdesk.Analytics.Days
import Helpdesk.Analytics.Overview

/-! # Daily metrics

What `_rollup_family` computes for an organization and a day, family by family. The functions that
share a window take it in place of the day; that of a day is `localDayUtcBounds`.

Each rate but one counts its numerator among the rows of its denominator. `rag_suggestion_usage_rate` divides
the suggestions that the day's messages are based on by those that the day has generated.
**`rates_iff`**: all rates are in `[0, 1]` exactly if there is nothing to divide by, or no more is used than has
been generated. -/

namespace Helpdesk.Analytics

open Sla

/-- `created_at` of the tables whose rows are kept without it. A classification goes by its ticket. -/
structure Stamps where
  message : Uuid → Int
  chatSession : Uuid → Int
  classification : Uuid → Int

/-- What the queries of one day read. -/
structure Reading where
  db : Db
  stamps : Stamps
  organizationId : Uuid
  window : Int × Int

/-- In `[start, end)`. -/
def Reading.within (r : Reading) (t : Int) : Bool := r.window.1 ≤ t && t < r.window.2

/-- `Decimal(numerator) / Decimal(denominator)`, if that can be divided by. -/
def ratio (numerator denominator : Nat) : Option ℚ :=
  if denominator = 0 then none else some (numerator / denominator)

/-- SQL's `AVG`, `NULL` over no rows. -/
def avg (values : List ℚ) : Option ℚ := if values = [] then none else some (values.sum / values.length)

/-- A metric that may be undefined is omitted. -/
def orOmit (key : String) (value : Option ℚ) : List (String × ℚ) := (value.map fun v => (key, v)).toList

section
variable (r : Reading)

/-! ## Tickets

Counted by when they were created, and by when they were closed. -/

/-- `tickets_open_count` -/
def ticketsOpenCount : Nat :=
  (r.db.tickets.select fun _ t => t.organizationId = r.organizationId && t.createdAt < r.window.2 &&
    t.closedAt.all fun closedAt => r.window.2 ≤ closedAt).length

/-- `tickets_family_metrics` -/
def ticketsFamilyMetrics : List (String × ℚ) :=
  [("tickets_created", createdBetween r.db r.organizationId r.window), ("tickets_open", ticketsOpenCount r)]

/-! ## SLA

Both go by the `resolved` events of the day. The average leaves out tickets with an escalated session, the
compliance rate those without a due date. -/

/-- The day's `resolved` events. -/
def resolvedOnDay : List SlaEvent :=
  (r.db.slaEvents.select fun _ e =>
    e.organizationId = r.organizationId && e.event = .resolved && r.within e.occurredAt).map Prod.snd

/-- The events joined to their tickets. -/
def withTicket (events : List SlaEvent) : List (SlaEvent × Uuid × Ticket) :=
  events.filterMap fun e => (r.db.tickets.lookup e.ticketId).map fun t => (e, e.ticketId, t)

/-- Some chat session of the ticket has been escalated. -/
def escalatedExists (ticketId : Uuid) : Bool :=
  ¬ (r.db.chatSessions.select fun _ s => s.ticketId = some ticketId && s.escalatedAt.isSome).isEmpty

/-- `avg_resolution_hours` -/
def avgResolutionHours : Option ℚ :=
  avg (((withTicket r (resolvedOnDay r)).filter fun row => !escalatedExists r row.2.1).map fun row =>
    ((row.1.occurredAt - row.2.2.createdAt : Int) : ℚ) / 1000000 / 3600)

/-- The day's `resolved` events whose tickets have a due date, with it. -/
def judgedOnDay : List (SlaEvent × Int) :=
  (withTicket r (resolvedOnDay r)).filterMap fun row => row.2.2.slaDueAt.map fun dueAt => (row.1, dueAt)

/-- `sla_compliance_rate` -/
def slaComplianceRate : Option ℚ :=
  ratio ((judgedOnDay r).countP fun row => row.1.occurredAt ≤ row.2) (judgedOnDay r).length

/-- `sla_family_metrics` -/
def slaFamilyMetrics : List (String × ℚ) :=
  ("tickets_resolved", ((resolvedOnDay r).length : ℚ)) :: orOmit "avg_resolution_hours" (avgResolutionHours r) ++
    orOmit "sla_compliance_rate" (slaComplianceRate r)

/-! ## Chat

Both rates are about the sessions that were started on the day, whenever they were escalated or linked. -/

/-- The sessions that were started on the day. -/
def startedOnDay : List ChatSession :=
  (r.db.chatSessions.select fun id s =>
    s.organizationId = r.organizationId && r.within (r.stamps.chatSession id)).map Prod.snd

/-- `chat_escalation_rate` -/
def chatEscalationRate : Option ℚ :=
  ratio ((startedOnDay r).countP fun s => s.escalatedAt.isSome) (startedOnDay r).length

/-- `chat_to_ticket_rate` -/
def chatToTicketRate : Option ℚ :=
  ratio ((startedOnDay r).countP fun s => s.ticketId.isSome) (startedOnDay r).length

/-- `chat_family_metrics` -/
def chatFamilyMetrics : List (String × ℚ) :=
  ("chat_sessions_started", ((startedOnDay r).length : ℚ)) ::
    orOmit "chat_escalation_rate" (chatEscalationRate r) ++ orOmit "chat_to_ticket_rate" (chatToTicketRate r)

/-! ## Classifier

Classifications of the organization's tickets, by the day on which they were stored. The accuracy is what is
left of one after the average of the corrections. -/

/-- The row's ticket is there, and the organization's. -/
def ofOrganization (ticketId : Uuid) : Bool :=
  (r.db.tickets.lookup ticketId).any fun t => t.organizationId = r.organizationId

/-- The day's classifications. -/
def classifiedOnDay : List Classification :=
  (r.db.classifications.select fun ticketId _ =>
    ofOrganization r ticketId && r.within (r.stamps.classification ticketId)).map Prod.snd

/-- `classifier_accuracy` -/
def classifierAccuracy : Option ℚ :=
  (avg ((classifiedOnDay r).map fun c => if c.humanCorrected then 1 else 0)).map fun corrected => 1 - corrected

/-- `llm_fallback_rate` -/
def llmFallbackRate : Option ℚ :=
  ratio ((classifiedOnDay r).countP fun c => c.modelUsed = some .llmFallback) (classifiedOnDay r).length

/-- `classifier_family_metrics` -/
def classifierFamilyMetrics : List (String × ℚ) :=
  orOmit "classifier_accuracy" (classifierAccuracy r) ++ orOmit "llm_fallback_rate" (llmFallbackRate r)

/-! ## Suggestions

The one ratio of two sets of which neither is defined as a part of the other. -/

/-- The day's messages. -/
def messagesOnDay : List (Uuid × Message) :=
  r.db.messages.select fun id m => ofOrganization r m.ticketId && r.within (r.stamps.message id)

/-- The suggestions that were generated on the day. -/
def generatedOnDay : Finset Uuid :=
  (((messagesOnDay r).filter fun row => row.2.isAiSuggestion).map Prod.fst).toFinset

/-- `COUNT(DISTINCT based_on_suggestion_id)` -/
def usedOnDay : Finset Uuid := ((messagesOnDay r).filterMap fun row => row.2.basedOnSuggestionId).toFinset

/-- `rag_suggestion_day_totals` -/
def ragSuggestionDayTotals : Nat × Nat :=
  ((messagesOnDay r).countP fun row => row.2.isAiSuggestion, (usedOnDay r).card)

/-- `rag_family_metrics` -/
def ragFamilyMetrics : List (String × ℚ) :=
  let (generated, used) := ragSuggestionDayTotals r
  if generated = 0 then [] else [("rag_suggestion_usage_rate", used / generated)]

/-! ## The day

All families together. `denominators` names the metrics that are ratios and has no other use than to state what a rate
is. -/

/-- What is written for the organization and the day. -/
def dayMetrics : List (String × ℚ) :=
  ticketsFamilyMetrics r ++ slaFamilyMetrics r ++ chatFamilyMetrics r ++ classifierFamilyMetrics r ++
    ragFamilyMetrics r

/-- The metrics that are ratios, with what each divides by. -/
def denominators : List (String × Nat) :=
  [("sla_compliance_rate", (judgedOnDay r).length), ("chat_escalation_rate", (startedOnDay r).length),
    ("chat_to_ticket_rate", (startedOnDay r).length), ("classifier_accuracy", (classifiedOnDay r).length),
    ("llm_fallback_rate", (classifiedOnDay r).length),
    ("rag_suggestion_usage_rate", (messagesOnDay r).countP fun row => row.2.isAiSuggestion)]

/-- Every ratio that is written is a rate. -/
def RatesAreRates : Prop :=
  ∀ key value denominator, (key, value) ∈ dayMetrics r → (key, denominator) ∈ denominators r →
    denominator ≠ 0 ∧ 0 ≤ value ∧ value ≤ 1

end

/-! ## Rates

`ratio_mem` is the case of a part and its whole, and it settles all but the usage rate. The distinct suggestions
that are counted there are a `Finset`, so the rows of `COUNT(*)` are brought to one first
(`card_generatedOnDay`). -/

@[simp] theorem mem_orOmit {key key' : String} {value : Option ℚ} {v : ℚ} :
    (key', v) ∈ orOmit key value ↔ key' = key ∧ value = some v := by
  cases value with
  | none => simp [orOmit]
  | some w => simp [orOmit, eq_comm]

/-- A part of a whole. -/
theorem ratio_mem {numerator denominator : Nat} {v : ℚ} (hle : numerator ≤ denominator)
    (h : ratio numerator denominator = some v) : denominator ≠ 0 ∧ 0 ≤ v ∧ v ≤ 1 := by
  unfold ratio at h
  split at h
  next => cases h
  next hne =>
    obtain rfl := Option.some.inj h
    have hpos : (0 : ℚ) < denominator := by exact_mod_cast Nat.pos_of_ne_zero hne
    exact ⟨hne, by positivity, (div_le_one hpos).mpr (by exact_mod_cast hle)⟩

theorem sum_ones {α : Type} (rows : List α) (p : α → Bool) :
    (rows.map fun row => if p row then (1 : ℚ) else 0).sum = rows.countP p := by
  induction rows with
  | nil => rfl
  | cons row rest ih =>
    rw [List.map_cons, List.sum_cons, ih, List.countP_cons]
    split
    · push_cast
      ring
    · simp

/-- The average of some ones and zeros. -/
theorem avg_mem {α : Type} {rows : List α} {p : α → Bool} {v : ℚ}
    (h : avg (rows.map fun row => if p row then 1 else 0) = some v) : rows.length ≠ 0 ∧ 0 ≤ v ∧ v ≤ 1 := by
  unfold avg at h
  split at h
  next => cases h
  next hne =>
    have hlength : rows.length ≠ 0 := by simpa using hne
    rw [sum_ones, List.length_map] at h
    exact ratio_mem List.countP_le_length (show ratio _ _ = some v by rw [ratio, if_neg hlength]; exact h)

section
variable {r : Reading} {v : ℚ}

theorem slaComplianceRate_mem (h : slaComplianceRate r = some v) : (judgedOnDay r).length ≠ 0 ∧ 0 ≤ v ∧ v ≤ 1 :=
  ratio_mem List.countP_le_length h

theorem chatEscalationRate_mem (h : chatEscalationRate r = some v) :
    (startedOnDay r).length ≠ 0 ∧ 0 ≤ v ∧ v ≤ 1 :=
  ratio_mem List.countP_le_length h

theorem chatToTicketRate_mem (h : chatToTicketRate r = some v) : (startedOnDay r).length ≠ 0 ∧ 0 ≤ v ∧ v ≤ 1 :=
  ratio_mem List.countP_le_length h

theorem llmFallbackRate_mem (h : llmFallbackRate r = some v) : (classifiedOnDay r).length ≠ 0 ∧ 0 ≤ v ∧ v ≤ 1 :=
  ratio_mem List.countP_le_length h

theorem classifierAccuracy_mem (h : classifierAccuracy r = some v) :
    (classifiedOnDay r).length ≠ 0 ∧ 0 ≤ v ∧ v ≤ 1 := by
  obtain ⟨corrected, hcorrected, rfl⟩ := Option.map_eq_some_iff.mp h
  obtain ⟨hne, hnonneg, hle⟩ := avg_mem hcorrected
  exact ⟨hne, by linarith, by linarith⟩

theorem card_generatedOnDay :
    (generatedOnDay r).card = (messagesOnDay r).countP fun row => row.2.isAiSuggestion := by
  have hnodup : (((messagesOnDay r).filter fun row => row.2.isAiSuggestion).map Prod.fst).Nodup :=
    List.Nodup.sublist (List.filter_sublist.map _) (Table.select_keys_nodup _ _)
  rw [generatedOnDay, List.toFinset_card_of_nodup hnodup, List.length_map, ← List.countP_eq_length_filter]

theorem ragFamilyMetrics_eq : ragFamilyMetrics r =
    orOmit "rag_suggestion_usage_rate" (ratio (usedOnDay r).card (generatedOnDay r).card) := by
  rw [card_generatedOnDay]
  show (if _ = 0 then [] else _) = orOmit _ (if _ = 0 then none else some _)
  split
  · rfl
  · rfl

theorem usageRate_mem : (∀ v, ratio (usedOnDay r).card (generatedOnDay r).card = some v →
      (generatedOnDay r).card ≠ 0 ∧ 0 ≤ v ∧ v ≤ 1) ↔
    generatedOnDay r = ∅ ∨ (usedOnDay r).card ≤ (generatedOnDay r).card := by
  constructor
  · intro h
    by_cases hnone : generatedOnDay r = ∅
    · exact .inl hnone
    · have hne : (generatedOnDay r).card ≠ 0 := fun h => hnone (Finset.card_eq_zero.mp h)
      obtain ⟨-, -, hle⟩ := h _ (if_neg hne)
      have hpos : (0 : ℚ) < (generatedOnDay r).card := by exact_mod_cast Nat.pos_of_ne_zero hne
      exact .inr (by exact_mod_cast (div_le_one hpos).mp hle)
  · rintro (hnone | hle) v hv
    · rw [hnone, Finset.card_empty, ratio, if_pos rfl] at hv
      cases hv
    · exact ratio_mem hle hv

/-- **Rates**: every ratio that a day's rollup writes has something to divide by and lies in `[0, 1]` exactly if
    no suggestion was generated on the day, or no more of them were used. -/
theorem rates_iff (r : Reading) : RatesAreRates r ↔
    generatedOnDay r = ∅ ∨ (usedOnDay r).card ≤ (generatedOnDay r).card := by
  rw [← usageRate_mem]
  constructor
  · intro h v hv
    refine h "rag_suggestion_usage_rate" v _ ?_ ?_
    · simp [dayMetrics, ragFamilyMetrics_eq, hv]
    · simp [denominators, card_generatedOnDay]
  · intro hrag key value denominator hmetric hdenominator
    simp only [dayMetrics, ticketsFamilyMetrics, slaFamilyMetrics, chatFamilyMetrics, classifierFamilyMetrics,
      ragFamilyMetrics_eq, List.mem_append, List.mem_cons, mem_orOmit, Prod.mk.injEq, List.not_mem_nil,
      or_false] at hmetric
    simp only [denominators, List.mem_cons, Prod.mk.injEq, List.not_mem_nil, or_false] at hdenominator
    obtain ⟨rfl, rfl⟩ | ⟨rfl, rfl⟩ | ⟨rfl, rfl⟩ | ⟨rfl, rfl⟩ | ⟨rfl, rfl⟩ | ⟨rfl, rfl⟩ := hdenominator
    -- the denominators in their order
    · exact slaComplianceRate_mem (by simpa using hmetric)
    · exact chatEscalationRate_mem (by simpa using hmetric)
    · exact chatToTicketRate_mem (by simpa using hmetric)
    · exact classifierAccuracy_mem (by simpa using hmetric)
    · exact llmFallbackRate_mem (by simpa using hmetric)
    · rw [← card_generatedOnDay]
      exact hrag value (by simpa using hmetric)

end

end Helpdesk.Analytics
