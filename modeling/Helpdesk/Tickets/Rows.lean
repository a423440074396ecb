import Helpdesk.Core.Repositories
import Helpdesk.Library.WriteBack

/-! # Writing ticket rows

INSERT and UPDATE of `tickets` as the ORM issues them, with the CHECK constraints in the order in
which Postgres tests them (by name) and the foreign keys after them. An UPDATE is a write-back: of
the attributes assigned since the row was loaded, only those whose value has changed are written over
the row as it is now. -/

namespace Helpdesk

open WriteBack

variable {c loaded assigned current : TicketColumns} {db db' : Db} {id : Uuid} {row : Ticket}

/-- The CHECK constraints of `tickets`. -/
def Ticket.check (c : TicketColumns) : Except Constraint Ticket :=
  if h₁ : c.ClassifiedHasTaxonomy then
    if h₂ : c.ClosedAtMatchesStatus then
      if h₃ : c.TitleNotBlank then
        .ok
          { c with
            classified_has_taxonomy := h₁
            closed_at_matches_status := h₂
            title_not_blank := h₃ }
      else .error .ticketsTitleNotBlank
    else .error .ticketsClosedAtMatchesStatus
  else .error .ticketsClassifiedHasTaxonomy

/-- A foreign key that is written refers to an existing row. -/
def foreignKeyOk {α : Type} (table : Table Uuid α) (old new : Option Uuid) : Bool :=
  new = old || match new with
    | some id => id ∈ table
    | none => true

/-- The foreign keys of `tickets` that differ from the ones stored before. -/
def Ticket.foreignKeysOk (db : Db) (old : Option TicketColumns) (c : TicketColumns) : Bool :=
  foreignKeyOk db.organizations (old.map (·.organizationId)) (some c.organizationId) &&
    foreignKeyOk db.users (old.map (·.userId)) (some c.userId) &&
    foreignKeyOk db.properties (old.bind (·.propertyId)) c.propertyId &&
    foreignKeyOk db.contracts (old.bind (·.contractId)) c.contractId &&
    foreignKeyOk db.categories (old.bind (·.categoryId)) c.categoryId &&
    foreignKeyOk db.urgencyLevels (old.bind (·.urgencyId)) c.urgencyId &&
    foreignKeyOk db.users (old.bind (·.agentId)) c.agentId

/-- The columns after a flush: no modelled function assigns to the others. -/
def TicketColumns.writeBack (loaded assigned current : TicketColumns) : TicketColumns :=
  { current with
    categoryId := flushAttr loaded.categoryId assigned.categoryId current.categoryId
    urgencyId := flushAttr loaded.urgencyId assigned.urgencyId current.urgencyId
    status := flushAttr loaded.status assigned.status current.status
    classificationStatus := flushAttr loaded.classificationStatus assigned.classificationStatus
      current.classificationStatus
    agentId := flushAttr loaded.agentId assigned.agentId current.agentId
    slaDueAt := flushAttr loaded.slaDueAt assigned.slaDueAt current.slaDueAt
    closedAt := flushAttr loaded.closedAt assigned.closedAt current.closedAt
    channelMetadata := flushAttr loaded.channelMetadata assigned.channelMetadata
      current.channelMetadata }

/-- INSERT. -/
def insertTicket (id : Uuid) (c : TicketColumns) : Service Ticket := do
  let row ← raiseConstraint (Ticket.check c)
  let db ← Tx.store
  let tickets ← Tx.orRaise (db.tickets.insertNew id row) (.integrityError .primaryKey)
  if Ticket.foreignKeysOk db none c then
    Tx.write { db with tickets := tickets }
    pure row
  else
    Tx.raise (.integrityError .foreignKey)

/-- UPDATE, at flush. -/
def flushTicket (id : Uuid) (loaded assigned : TicketColumns) : Service Ticket := do
  let db ← Tx.store
  match db.tickets.lookup id with
  | none => Tx.raise .staleData
  | some current =>
    let c := TicketColumns.writeBack loaded assigned current.toTicketColumns
    let row ← raiseConstraint (Ticket.check c)
    if Ticket.foreignKeysOk db (some current.toTicketColumns) c then
      Tx.write { db with tickets := db.tickets.modify id fun _ => row }
      pure row
    else
      Tx.raise (.integrityError .foreignKey)

/-! ## What the checks say

The order of the CHECKs decides which one is reported. Two of them are asked about elsewhere, and have lemmas of
their own. -/

theorem Ticket.check_ok (h : Ticket.check c = .ok row) : row.toTicketColumns = c := by
  unfold Ticket.check at h
  split at h
  · split at h
    · split at h
      · rw [← Except.ok.inj h]
      · simp at h
    · simp at h
  · simp at h

theorem Ticket.check_of (h₁ : c.ClassifiedHasTaxonomy) (h₂ : c.ClosedAtMatchesStatus)
    (h₃ : c.TitleNotBlank) : Ticket.check c = .ok ⟨c, h₁, h₂, h₃⟩ := by
  unfold Ticket.check
  rw [dif_pos h₁, dif_pos h₂, dif_pos h₃]

/-- The closing CHECK is what fails exactly if the columns violate it (and not the one tested
    before it). -/
theorem Ticket.check_closed_error :
    Ticket.check c = .error .ticketsClosedAtMatchesStatus ↔
      c.ClassifiedHasTaxonomy ∧ ¬ c.ClosedAtMatchesStatus := by
  unfold Ticket.check
  split
  next h₁ =>
    split
    next h₂ =>
      split <;> simp [h₂]
    next h₂ => simp [h₁, h₂]
  next h₁ => simp [h₁]

/-- The taxonomy CHECK is the first one tested. -/
theorem Ticket.check_taxonomy_error :
    Ticket.check c = .error .ticketsClassifiedHasTaxonomy ↔ ¬ c.ClassifiedHasTaxonomy := by
  unfold Ticket.check
  split
  next h₁ =>
    split
    · split <;> simp [h₁]
    · simp [h₁]
  next h₁ => simp [h₁]

/-- The error of a flush that violates the closing CHECK. -/
abbrev closingViolation : Raised := .integrityError .ticketsClosedAtMatchesStatus

/-- The error of a flush that violates the taxonomy CHECK. -/
abbrev taxonomyViolation : Raised := .integrityError .ticketsClassifiedHasTaxonomy

/-- A failed check is the closing or the taxonomy CHECK only where the columns violate it. -/
theorem Ticket.error_of_check {E : Raised → Prop} {k : Constraint}
    (h : Ticket.check c = .error k)
    (hE : ∀ e, e ≠ closingViolation → e ≠ taxonomyViolation → E e)
    (hclosing : ¬ c.ClosedAtMatchesStatus → E closingViolation)
    (htaxonomy : ¬ c.ClassifiedHasTaxonomy → E taxonomyViolation) : E (.integrityError k) := by
  by_cases hk : k = .ticketsClosedAtMatchesStatus
  · subst hk
    exact hclosing (Ticket.check_closed_error.mp h).2
  by_cases hk' : k = .ticketsClassifiedHasTaxonomy
  · subst hk'
    exact htaxonomy (Ticket.check_taxonomy_error.mp h)
  · apply hE
    · simp [hk]
    · simp [hk']

@[simp] theorem exec_raiseConstraint_ok {α : Type} (a : α) :
    Tx.exec (raiseConstraint (.ok a)) db = (.ok a, db) := rfl

@[simp] theorem exec_raiseConstraint_error {α : Type} (e : Constraint) :
    Tx.exec (raiseConstraint (.error e) : Service α) db = (.error (.integrityError e), db) := rfl

theorem raiseConstraint_ok {α : Type} {x : Except Constraint α} {a : α} :
    Tx.exec (raiseConstraint x) db = (.ok a, db') ↔ x = .ok a ∧ db' = db := by
  cases x with
  | error e => simp [raiseConstraint]
  | ok b => simp [raiseConstraint, eq_comm]

theorem mem_of_foreignKeyOk {α : Type} {table : Table Uuid α} {old : Option Uuid} {id : Uuid}
    (h : foreignKeyOk table old (some id) = true) (hnew : old ≠ some id) : id ∈ table := by
  simpa [foreignKeyOk, Ne.symm hnew] using h

/-- A category that is written exists. -/
theorem Ticket.category_mem {old : Option TicketColumns} {categoryId : Uuid}
    (h : Ticket.foreignKeysOk db old c = true) (hid : c.categoryId = some categoryId)
    (hnew : old.bind (·.categoryId) ≠ some categoryId) : categoryId ∈ db.categories := by
  simp only [Ticket.foreignKeysOk, Bool.and_eq_true, hid] at h
  exact mem_of_foreignKeyOk h.1.1.2 hnew

/-- An urgency that is written exists. -/
theorem Ticket.urgency_mem {old : Option TicketColumns} {urgencyId : Uuid}
    (h : Ticket.foreignKeysOk db old c = true) (hid : c.urgencyId = some urgencyId)
    (hnew : old.bind (·.urgencyId) ≠ some urgencyId) : urgencyId ∈ db.urgencyLevels := by
  simp only [Ticket.foreignKeysOk, Bool.and_eq_true, hid] at h
  exact mem_of_foreignKeyOk h.1.2 hnew

/-! ## What an INSERT and an UPDATE do

Rules in both directions: what a statement that returns has written, and a weakest precondition that tells the
violations apart. A flush over the row as it was loaded is the case in which nobody has come in between. -/

/-- Writing back over the row as it was loaded stores the assigned values. -/
theorem TicketColumns.writeBack_loaded (loaded assigned : TicketColumns) :
    TicketColumns.writeBack loaded assigned loaded =
      { loaded with
        categoryId := assigned.categoryId
        urgencyId := assigned.urgencyId
        status := assigned.status
        classificationStatus := assigned.classificationStatus
        agentId := assigned.agentId
        slaDueAt := assigned.slaDueAt
        closedAt := assigned.closedAt
        channelMetadata := assigned.channelMetadata } := by
  simp [TicketColumns.writeBack]

/-- An INSERT that returns has stored the columns under a new key. -/
theorem insertTicket_ok (h : Tx.exec (insertTicket id c) db = (.ok row, db')) :
    row.toTicketColumns = c ∧ db.tickets.lookup id = none ∧
      db' = { db with tickets := AList.insert id row db.tickets } := by
  obtain ⟨row', s, hfirst, hrest⟩ := Tx.bind_ok.mp h
  obtain ⟨hcheck, rfl⟩ := raiseConstraint_ok.mp hfirst
  simp only [Tx.exec_bind, Tx.exec_store] at hrest
  cases hins : s.tickets.insertNew id row' with
  | none => simp [hins] at hrest
  | some tickets =>
    obtain ⟨hnew, rfl⟩ := Table.insertNew_eq_some.mp hins
    simp only [hins, Tx.exec_orRaise_some, Tx.exec_ite] at hrest
    split at hrest
    · simp only [Tx.exec_bind, Tx.exec_write, Tx.exec_pure, Prod.mk.injEq, Except.ok.injEq] at hrest
      obtain ⟨rfl, rfl⟩ := hrest
      exact ⟨Ticket.check_ok hcheck, hnew, rfl⟩
    · simp at hrest

/-- An INSERT of columns that keep the two CHECKs stores the row, whose references exist, or raises,
    but neither of the two. -/
theorem wp_insertTicket_keys {Q : Ticket → Db → Prop} {E : Raised → Prop}
    (hQ : ∀ row : Ticket, row.toTicketColumns = c → db.tickets.lookup id = none →
      Ticket.foreignKeysOk db none c = true →
      Q row { db with tickets := AList.insert id row db.tickets })
    (hE : ∀ e, e ≠ closingViolation → e ≠ taxonomyViolation → E e)
    (hcloses : c.ClosedAtMatchesStatus) (hclassified : c.ClassifiedHasTaxonomy) :
    Tx.wp (insertTicket id c) Q E db := by
  simp only [insertTicket, Tx.wp_bind, wp_raiseConstraint]
  refine ⟨fun row hrow => ?_, fun k hk => Ticket.error_of_check hk hE (absurd hcloses)
    (absurd hclassified)⟩
  simp only [Tx.wp_store, Tx.wp_ite, Tx.wp_bind, Tx.wp_orRaise, Tx.wp_write, Tx.wp_pure, Tx.wp_raise]
  refine ⟨fun tickets hins => ⟨fun hkeys => ?_, fun _ => hE _ (by simp) (by simp)⟩, fun _ => hE _ (by simp) (by simp)⟩
  obtain ⟨hnew, rfl⟩ := Table.insertNew_eq_some.mp hins
  exact hQ row (Ticket.check_ok hrow) hnew hkeys

/-- An UPDATE that returns has written the columns back over the stored row. -/
theorem flushTicket_ok (h : Tx.exec (flushTicket id loaded assigned) db = (.ok row, db')) :
    ∃ current, db.tickets.lookup id = some current ∧
      row.toTicketColumns = TicketColumns.writeBack loaded assigned current.toTicketColumns ∧
      db' = { db with tickets := db.tickets.modify id fun _ => row } := by
  simp only [flushTicket, Tx.exec_bind, Tx.exec_store] at h
  cases hl : db.tickets.lookup id with
  | none => simp [hl] at h
  | some current =>
    simp only [hl] at h
    obtain ⟨row', s, hfirst, hrest⟩ := Tx.bind_ok.mp h
    obtain ⟨hcheck, rfl⟩ := raiseConstraint_ok.mp hfirst
    simp only [Tx.exec_ite] at hrest
    split at hrest
    · simp only [Tx.exec_bind, Tx.exec_write, Tx.exec_pure, Prod.mk.injEq, Except.ok.injEq] at hrest
      obtain ⟨rfl, rfl⟩ := hrest
      exact ⟨current, rfl, Ticket.check_ok hcheck, rfl⟩
    · simp at hrest

/-- An UPDATE to columns that pass every check. -/
theorem exec_flushTicket {current : Ticket} (hcurrent : db.tickets.lookup id = some current)
    (hcheck : Ticket.check (TicketColumns.writeBack loaded assigned current.toTicketColumns) = .ok row)
    (hkeys : Ticket.foreignKeysOk db (some current.toTicketColumns)
      (TicketColumns.writeBack loaded assigned current.toTicketColumns) = true) :
    Tx.exec (flushTicket id loaded assigned) db =
      (.ok row, { db with tickets := db.tickets.modify id fun _ => row }) := by
  simp only [flushTicket, Tx.exec_bind, Tx.exec_store, hcurrent, hcheck, exec_raiseConstraint_ok,
    if_pos hkeys, Tx.exec_write, Tx.exec_pure]

/-- An UPDATE writes back over the stored row, and what it changes refers to rows that exist, or it
    raises; the closing and the taxonomy CHECK only where the result violates it. -/
theorem wp_flushTicket_keys {Q : Ticket → Db → Prop} {E : Raised → Prop}
    (hQ : ∀ current row : Ticket, db.tickets.lookup id = some current →
      row.toTicketColumns = TicketColumns.writeBack loaded assigned current.toTicketColumns →
      Ticket.foreignKeysOk db (some current.toTicketColumns) row.toTicketColumns = true →
      Q row { db with tickets := db.tickets.modify id fun _ => row })
    (hE : ∀ e, e ≠ closingViolation → e ≠ taxonomyViolation → E e)
    (hclosing : ∀ current : Ticket, db.tickets.lookup id = some current →
      ¬ (TicketColumns.writeBack loaded assigned current.toTicketColumns).ClosedAtMatchesStatus →
      E closingViolation)
    (htaxonomy : ∀ current : Ticket, db.tickets.lookup id = some current →
      ¬ (TicketColumns.writeBack loaded assigned current.toTicketColumns).ClassifiedHasTaxonomy →
      E taxonomyViolation) :
    Tx.wp (flushTicket id loaded assigned) Q E db := by
  simp only [flushTicket, Tx.wp_bind, Tx.wp_store]
  cases hrow : db.tickets.lookup id with
  | none =>
    rw [Tx.wp_raise]
    exact hE _ (by simp) (by simp)
  | some current =>
    simp only [Tx.wp_bind, wp_raiseConstraint, Tx.wp_ite, Tx.wp_write, Tx.wp_pure, Tx.wp_raise]
    refine ⟨fun row hcols => ⟨fun hkeys => ?_, fun _ => hE _ (by simp) (by simp)⟩, fun k hk => ?_⟩
    · have hwritten := Ticket.check_ok hcols
      exact hQ current row hrow hwritten (by rw [hwritten]; exact hkeys)
    · exact Ticket.error_of_check hk hE (hclosing current hrow) (htaxonomy current hrow)

/-- The same, for those that ask about the closing CHECK only. -/
theorem wp_flushTicket {Q : Ticket → Db → Prop} {E : Raised → Prop}
    (hQ : ∀ current row : Ticket, db.tickets.lookup id = some current →
      row.toTicketColumns = TicketColumns.writeBack loaded assigned current.toTicketColumns →
      Q row { db with tickets := db.tickets.modify id fun _ => row })
    (hE : ∀ e, e ≠ closingViolation → E e)
    (hclosing : ∀ current : Ticket, db.tickets.lookup id = some current →
      ¬ (TicketColumns.writeBack loaded assigned current.toTicketColumns).ClosedAtMatchesStatus →
      E closingViolation) :
    Tx.wp (flushTicket id loaded assigned) Q E db :=
  wp_flushTicket_keys (fun current row hcurrent hcols _ => hQ current row hcurrent hcols)
    (fun e he _ => hE e he) hclosing (fun _ _ _ => hE _ (by simp))

end Helpdesk
