import Mathlib.Data.List.Sort
import Helpdesk.Tickets.Service

/-! # The classification worker

`classify_ticket` and the query of `sweep_pending_classifications`. The classifier itself (a model
and an LLM) is an argument: what it is given, and any outcome it may have. -/

namespace Helpdesk.Tickets

/-- `TaxonomyOption`. -/
structure TaxonomyOption where
  id : Uuid
  name : String
  description : Option String
  deriving DecidableEq

/-- `ClassificationResult`. -/
structure ClassificationResult where
  categoryId : Uuid
  urgencyId : Uuid
  predictedCategory : Option String
  confidence : Option PyFloat
  predictedUrgency : Option String
  urgencyConfidence : Option PyFloat
  modelUsed : Option ModelUsed
  deriving DecidableEq

/-- What a call of the classifier comes to. -/
inductive ClassifierOutcome where
  | result (r : ClassificationResult)
  | transientError
  | unavailableError
  /-- any other exception, which ends the job -/
  | otherError

/-- `classify(text=..., categories=..., urgency_levels=...)`. -/
abbrev Classifier := String → List TaxonomyOption → List TaxonomyOption → ClassifierOutcome

/-- The active categories of the scope. -/
def activeCategories (scope : OrgScope) (db : Db) : List (Uuid × Category) :=
  db.categories.select fun _ c => scope.selectsCategory c && c.active

/-- The active urgency levels of the scope, in their sort order. -/
def activeUrgencyLevels (scope : OrgScope) (db : Db) : List (Uuid × UrgencyLevel) :=
  (db.urgencyLevels.select fun _ u => scope.selectsUrgencyLevel u && u.active).insertionSort
    fun u v => u.2.sortOrder ≤ v.2.sortOrder

/-- `confidence IS NULL OR (confidence BETWEEN 0 AND 1)`; a NaN is greater than every number. -/
def confidenceInRange (x : Option PyFloat) : Bool :=
  match x with
  | some (.finite x) => 0 ≤ x ∧ x ≤ 1
  | some .nan | some (.infinity _) => false
  | none => true

/-- What the column stores of a value in range. -/
def storedConfidence (x : Option PyFloat) : Option ℚ :=
  match x with
  | some (.finite x) => some x
  | some .nan | some (.infinity _) | none => none

/-- `ClassificationRepository.upsert`. A row that exists keeps its `human_corrected`. -/
def upsertClassification (ticketId : Uuid) (r : ClassificationResult) : Service Unit := do
  let db ← Tx.store
  if ¬ confidenceInRange r.confidence then
    Tx.raise (.integrityError .classificationsConfidenceRange)
  else if ¬ confidenceInRange r.urgencyConfidence then
    Tx.raise (.integrityError .classificationsUrgencyConfidenceRange)
  else
    let humanCorrected :=
      match db.classifications.lookup ticketId with
      | some row => row.humanCorrected
      | none => false
    Tx.write { db with
      classifications := AList.insert ticketId
        { predictedCategory := r.predictedCategory
          confidence := storedConfidence r.confidence
          humanCorrected := humanCorrected
          modelUsed := r.modelUsed
          predictedUrgency := r.predictedUrgency
          urgencyConfidence := storedConfidence r.urgencyConfidence }
        db.classifications }

/-- `ticket.description or ticket.title`. -/
def classifiedText (ticket : Ticket) : String :=
  match ticket.description with
  | some description => if description = "" then ticket.title else description
  | none => ticket.title

/-- The call of the classifier, with the taxonomy it may choose from. -/
def askClassifier (classify : Classifier) (scope : OrgScope) (ticket : Ticket) (db : Db) :
    ClassifierOutcome :=
  classify (classifiedText ticket)
    ((activeCategories scope db).map fun row => ⟨row.1, row.2.name, row.2.description⟩)
    ((activeUrgencyLevels scope db).map fun row => ⟨row.1, row.2.name, row.2.description⟩)

/-- The writes of `classify_ticket`. -/
def applyClassification (env : Env) (scope : OrgScope) (ticketId : Uuid) (ticket : Ticket)
    (r : ClassificationResult) : Service Unit := do
  let db ← Tx.store
  let urgency ← Tx.orRaise
    ((activeUrgencyLevels scope db).find? fun row => row.1 = r.urgencyId) .stopIteration
  let slaDueAt ← resolveSlaDueAt env scope.organizationId urgency.2 ticket.createdAt
  let _ ← flushTicket ticketId ticket.toTicketColumns
    { ticket.toTicketColumns with
      categoryId := some r.categoryId
      urgencyId := some r.urgencyId
      classificationStatus := .classified
      slaDueAt := some slaDueAt }
  upsertClassification ticketId r

/-- `classify_ticket`. The row lock is held from the lookup to the end, so that nobody writes the
    row in between. -/
def classifyTicket (env : Env) (classify : Classifier) (jobTry : Nat)
    (ticketId organizationId : Uuid) : Service Unit := do
  let scope := OrgScope.forBackgroundWorker organizationId
  let ticket ← scope.getTicket ticketId
  if ticket.classificationStatus ≠ .pending then pure ()
  else
    let db ← Tx.store
    match askClassifier classify scope ticket db with
    | .transientError => Tx.raise (.retry (2 ^ jobTry))
    | .unavailableError => pure ()
    | .otherError => Tx.raise .uncaught
    | .result r => applyClassification env scope ticketId ticket r

/-- `_SWEEP_STALE_AFTER`. -/
def sweepStaleAfter : Int := 5 * 60 * 1000000

/-- The jobs that `sweep_pending_classifications` enqueues at `now`. -/
def staleTickets (db : Db) (now : Int) : List (Uuid × Uuid) :=
  (db.tickets.select fun _ t =>
      t.classificationStatus = .pending && decide (t.createdAt < now - sweepStaleAfter)).map
    fun row => (row.1, row.2.organizationId)

/-! ## What a delivery does

One rule for all that is asked about a delivery. The ticket is read under its row lock, so what is written back
is written over the row that was read; the other runs of the worker come before or after. -/

/-- The urgency level that is found among the active ones is a stored row. -/
theorem activeUrgencyLevels_find {scope : OrgScope} {db : Db} {id : Uuid} {row : Uuid × UrgencyLevel}
    (h : (activeUrgencyLevels scope db).find? (fun row => row.1 = id) = some row) :
    db.urgencyLevels.lookup id = some row.2 := by
  have hmem := List.mem_of_find?_eq_some h
  rw [activeUrgencyLevels, List.mem_insertionSort] at hmem
  have hid : row.1 = id := by simpa using List.find?_some h
  rw [← hid]
  exact (Table.mem_select.mp hmem).1

section
variable {env : Env} {classify : Classifier} {jobTry : Nat} {ticketId organizationId : Uuid} {db : Db}

/-- A delivery leaves the database alone, or classifies the ticket it is for, which is pending, as the
    classifier says; it never raises the closing or the taxonomy violation, since the four columns are
    assigned together and no lookup comes in between. -/
theorem wp_classifyTicket_result {Q : Unit → Db → Prop} {E : Raised → Prop}
    (hsame : Q () db)
    (hclassified : ∀ (ticket row : Ticket) (r : ClassificationResult) (urgency : UrgencyLevel)
        (slaDueAt : Int) classifications,
      db.tickets.lookup ticketId = some ticket →
      ticket.organizationId = organizationId →
      ticket.classificationStatus = .pending →
      askClassifier classify (OrgScope.forBackgroundWorker organizationId) ticket db = .result r →
      db.urgencyLevels.lookup r.urgencyId = some urgency →
      Tx.exec (resolveSlaDueAt env organizationId urgency ticket.createdAt) db =
        (.ok slaDueAt, db) →
      row.toTicketColumns = { ticket.toTicketColumns with
        categoryId := some r.categoryId
        urgencyId := some r.urgencyId
        classificationStatus := .classified
        slaDueAt := some slaDueAt } →
      Q () { db with
        tickets := db.tickets.modify ticketId fun _ => row
        classifications := classifications })
    (hE : ∀ e, e ≠ closingViolation → e ≠ taxonomyViolation → E e) :
    Tx.wp (classifyTicket env classify jobTry ticketId organizationId) Q E db := by
  have hlookup : ∀ e : Raised, (∀ k, e ≠ .integrityError k) → E e :=
    fun e he => hE e (he _) (he _)
  unfold classifyTicket
  rw [Tx.wp_bind]
  apply (looksUp_getOr404 _ _ _ _).wp _ hlookup
  intro ticket hget
  obtain ⟨-, hrow, hsees⟩ := getOr404_ok.mp hget
  have horg : ticket.organizationId = organizationId := by
    simp only [OrgScope.selectsTicket, Bool.and_eq_true, decide_eq_true_eq] at hsees
    exact hsees.1
  rw [Tx.wp_ite]
  refine ⟨fun _ => ?_, fun hpending => ?_⟩
  · rw [Tx.wp_pure]
    exact hsame
  rw [Tx.wp_bind, Tx.wp_store]
  cases hask : askClassifier classify (OrgScope.forBackgroundWorker organizationId) ticket db with
  | transientError =>
    rw [Tx.wp_raise]
    exact hE _ (by simp) (by simp)
  | unavailableError =>
    rw [Tx.wp_pure]
    exact hsame
  | otherError =>
    rw [Tx.wp_raise]
    exact hE _ (by simp) (by simp)
  | result r =>
    show Tx.wp (applyClassification env _ ticketId ticket r) Q E db
    unfold applyClassification
    rw [Tx.wp_bind, Tx.wp_store, Tx.wp_bind, Tx.wp_orRaise]
    refine ⟨fun urgency hurgency => ?_, fun _ => hE _ (by simp) (by simp)⟩
    rw [Tx.wp_bind]
    apply (looksUp_resolveSlaDueAt _ _ _).wp _ hlookup
    intro slaDueAt hdue
    rw [Tx.wp_bind]
    apply wp_flushTicket_keys
    -- the row is still the one that was read
    · intro current row hcurrent hcols _
      obtain rfl : current = ticket := Option.some.inj (hcurrent.symm.trans hrow)
      rw [TicketColumns.writeBack_loaded] at hcols
      simp only [upsertClassification, Tx.wp_bind, Tx.wp_store, Tx.wp_ite, Tx.wp_raise, Tx.wp_write]
      refine ⟨fun _ => hE _ (by simp) (by simp), fun _ => ⟨fun _ => hE _ (by simp) (by simp), fun _ => ?_⟩⟩
      exact hclassified current row r urgency.2 slaDueAt _ hrow horg (by simpa using hpending) hask
        (activeUrgencyLevels_find hurgency) hdue hcols
    · exact hE
    · intro current hcurrent hviolated
      obtain rfl : current = ticket := Option.some.inj (hcurrent.symm.trans hrow)
      rw [TicketColumns.writeBack_loaded] at hviolated
      exact absurd current.closed_at_matches_status hviolated
    · intro current hcurrent hviolated
      obtain rfl : current = ticket := Option.some.inj (hcurrent.symm.trans hrow)
      rw [TicketColumns.writeBack_loaded] at hviolated
      exact absurd (.inr ⟨by simp, by simp, by simp⟩) hviolated

/-- A delivery leaves the tickets alone, or classifies the one it is for. -/
theorem wp_classifyTicket {Q : Unit → Db → Prop} {E : Raised → Prop}
    (hsame : ∀ db' : Db, db'.tickets = db.tickets → Q () db')
    (hclassified : ∀ (ticket row : Ticket) (db' : Db), db.tickets.lookup ticketId = some ticket →
      ticket.classificationStatus = .pending → row.classificationStatus = .classified →
      db'.tickets = db.tickets.modify ticketId (fun _ => row) → Q () db')
    (hE : ∀ e, e ≠ closingViolation → E e) :
    Tx.wp (classifyTicket env classify jobTry ticketId organizationId) Q E db := by
  apply wp_classifyTicket_result (hsame db rfl) _ fun e he _ => hE e he
  intro ticket row r urgency slaDueAt classifications hticket _ hpending _ _ _ hcols
  exact hclassified ticket row _ hticket hpending (by rw [hcols]) rfl

end

end Helpdesk.Tickets
