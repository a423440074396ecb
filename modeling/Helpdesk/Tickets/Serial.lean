import Helpdesk.Tickets.Isolation

/-! # Updates that cross

`update_ticket` loads its ticket without a lock, and at flush it writes the attributes that differ
from what it has loaded. If another update commits in between, what it leaves out is what the other
one has stored, and what it decides from the loaded status is decided from the past.

**`updates_serialisable`**: if every commit meets a row that agrees with the loaded one where the call
depends on it, the updates have the effect of the same calls one after another, in the order of their
commits. -/

namespace Helpdesk.Tickets

open Run WriteBack

/-! ## One after another

`Agrees` is the condition on a commit: where the call depends on what it has loaded, the stored row still says
the same. It names for each column what the call does with it, so that calls which touch different columns may
cross. -/

/-- A call of `update_ticket`, with what it draws. -/
structure UpdateRequest where
  scope : OrgScope
  ticketId : Uuid
  patch : TicketPatch
  d : UpdateDraws

/-- The call with nobody in between. -/
def UpdateRequest.step (env : Env) (db : Db) (r : UpdateRequest) : Db :=
  (Tx.settle (updateTicket env r.scope r.ticketId r.patch r.d) db).2

/-- How the commit of a call ends, if it has come so far. -/
def commitOutcome (w : World) (request : Nat) : Option (Except Raised Ticket) :=
  match w.updates.lookup request with
  | some (.resolved u assigned d) =>
    some (Tx.settle (commitUpdate u.scope u.ticketId u.loaded assigned u.patch d) w.db).1
  | _ => none

/-- The call that a commit ends, if it does not raise. -/
def committedBy (w : World) : Event → List UpdateRequest
  | .commitUpdate request =>
    match w.updates.lookup request with
    | some (.resolved u assigned d) =>
      match (Tx.settle (commitUpdate u.scope u.ticketId u.loaded assigned u.patch d) w.db).1 with
      | .ok _ => [⟨u.scope, u.ticketId, u.patch, d⟩]
      | .error _ => []
    | _ => []
  | _ => []

/-- The calls that commit in a run, in the order of their commits. -/
def committed (env : Env) : World → List Event → List UpdateRequest
  | _, [] => []
  | w, e :: events => committedBy w e ++ committed env (e.step env w) events

/-- The event is a part of an update. -/
def Event.isUpdate : Event → Bool
  | beginUpdate _ _ _ _ | resolveUpdate _ _ | commitUpdate _ | abortUpdate _ => true
  | createTicket _ _ _ _ | deliver _ _ _ | sweep _ => false

/-- The row that a commit meets has what the call depends on. -/
structure Agrees (patch : TicketPatch) (d : UpdateDraws) (assigned : TicketColumns)
    (loaded current : Ticket) : Prop where
  /-- what is not written, since it was there already, is still there -/
  status : ∀ s, patch.status = some s → loaded.status = s → current.status = s
  notClosed : ∀ s, patch.status = some s → s ≠ .closed → loaded.status ≠ .closed →
    current.status ≠ .closed
  closedAt : patch.status = some .closed → loaded.closedAt = some d.now →
    current.closedAt = some d.now
  category : ∀ id, patch.categoryId = some id → loaded.categoryId = some id →
    current.categoryId = some id
  urgency : ∀ id, patch.urgencyId = some id → loaded.urgencyId = some id →
    current.urgencyId = some id
  slaDueAt : patch.setsTaxonomy = true → assigned.slaDueAt = loaded.slaDueAt →
    current.slaDueAt = assigned.slaDueAt
  /-- the due date is computed from the urgency that the ticket still has -/
  keptUrgency : patch.setsTaxonomy = true → patch.urgencyId = none →
    current.urgencyId = loaded.urgencyId
  /-- the resolved event is recorded if the call enters the status, with the ticket's due date -/
  entered : ∀ s, patch.status = some s → s = .resolved ∨ s = .closed → current.status = s →
    loaded.status = s
  eventDue : enteredResolvedOrClosed loaded.status patch.status = true →
    patch.setsTaxonomy = false → current.slaDueAt = loaded.slaDueAt

/-- A commit meets a row that agrees with the one its call has loaded. -/
def CommitAgrees (w : World) : Event → Prop
  | .commitUpdate request => ∀ u assigned d current,
      w.updates.lookup request = some (.resolved u assigned d) →
      w.db.tickets.lookup u.ticketId = some current →
      Agrees u.patch d assigned u.loaded current
  | _ => True

/-- If a commit raises, a key is missing or taken, and no CHECK is violated. -/
def CommitsUnlessKey (w : World) : Event → Prop
  | .commitUpdate request => ∀ e, commitOutcome w request = some (.error e) →
      e = .integrityError .foreignKey ∨ e = .integrityError .primaryKey
  | _ => True

/-- What the updates are compared in: status, `closed_at`, category, urgency and due date. -/
def observed (db : Db) (id : Uuid) :
    Option (TicketStatus × Option Int × Option Uuid × Option Uuid × Option Int) :=
  (db.tickets.lookup id).map fun t => (t.status, t.closedAt, t.categoryId, t.urgencyId, t.slaDueAt)

/-! ## What a commit comes to

The statements of a commit as one equation: two checks and a key that may be taken, and three tables. -/

section
variable {env : Env} {scope : OrgScope} {db : Db} {ticketId : Uuid} {loaded current : Ticket}
  {assigned : TicketColumns} {patch : TicketPatch} {d : UpdateDraws}

/-- The classifications after a commit. -/
def classificationsAfter (db : Db) (ticketId : Uuid) (patch : TicketPatch) :
    Table Uuid Classification :=
  if patch.setsTaxonomy then
    db.classifications.modify ticketId fun row => { row with humanCorrected := true }
  else db.classifications

/-- The events after a commit, if the key of a new one is free. -/
def slaEventsAfter (scope : OrgScope) (db : Db) (ticketId : Uuid) (previous : TicketStatus)
    (slaDueAt : Option Int) (patch : TicketPatch) (d : UpdateDraws) : Option (Table Uuid SlaEvent) :=
  if enteredResolvedOrClosed previous patch.status then
    db.slaEvents.insertNew d.slaEventId
      { organizationId := scope.organizationId
        ticketId := ticketId
        event := .resolved
        occurredAt := d.occurredAt
        slaDueAt := slaDueAt }
  else some db.slaEvents

/-- **A commit**, on a row that the caller sees. -/
theorem settle_commitUpdate (hcurrent : db.tickets.lookup ticketId = some current)
    (hsees : scope.selectsTicket db current = true) :
    Tx.settle (commitUpdate scope ticketId loaded assigned patch d) db =
      match Ticket.check
        (TicketColumns.writeBack loaded.toTicketColumns assigned current.toTicketColumns) with
      | .error k => (.error (.integrityError k), db)
      | .ok row =>
        if Ticket.foreignKeysOk db (some current.toTicketColumns) row.toTicketColumns then
          match slaEventsAfter scope db ticketId loaded.status assigned.slaDueAt patch d with
          | some slaEvents =>
            (.ok row, { db with
              classifications := classificationsAfter db ticketId patch
              tickets := db.tickets.modify ticketId fun _ => row
              slaEvents := slaEvents })
          | none => (.error (.integrityError .primaryKey), db)
        else (.error (.integrityError .foreignKey), db) := by
  let marked : Db := { db with classifications := classificationsAfter db ticketId patch }
  have hmark : Tx.exec (Tx.when patch.setsTaxonomy (markHumanCorrected ticketId)) db = (.ok (), marked) := by
    unfold Tx.when
    rw [Tx.exec_ite]
    split
    next hsets => simp [markHumanCorrected, marked, classificationsAfter, hsets]
    next hsets => simp [marked, classificationsAfter, hsets]
  have hget : Tx.exec (scope.getTicket ticketId) marked = (.ok current, marked) :=
    getOr404_ok.mpr ⟨rfl, hcurrent, hsees⟩
  have hlookup : marked.tickets.lookup ticketId = some current := hcurrent
  unfold Tx.settle commitUpdate
  simp only [Tx.exec_bind, hmark, hget, flushTicket, Tx.exec_store, hlookup]
  cases hcheck : Ticket.check
      (TicketColumns.writeBack loaded.toTicketColumns assigned current.toTicketColumns) with
  | error k => simp
  | ok row =>
    have hcols := Ticket.check_ok hcheck
    simp only [exec_raiseConstraint_ok, Tx.exec_ite, ← hcols]
    by_cases hkeys : Ticket.foreignKeysOk db (some current.toTicketColumns) row.toTicketColumns = true
    · have hkeys' : Ticket.foreignKeysOk marked (some current.toTicketColumns) row.toTicketColumns =
          true := hkeys
      simp only [if_pos hkeys, if_pos hkeys', Tx.exec_bind, Tx.exec_write, Tx.exec_pure, Tx.when,
        Tx.exec_ite, recordResolved, Tx.exec_store, slaEventsAfter]
      by_cases hentered : enteredResolvedOrClosed loaded.status patch.status = true
      · simp only [if_pos hentered]
        cases hinsert : db.slaEvents.insertNew d.slaEventId
            ⟨scope.organizationId, ticketId, .resolved, d.occurredAt, assigned.slaDueAt⟩ with
        | none => simp [marked]
        | some slaEvents => simp [marked]
      · simp only [if_neg hentered]
        rfl
    · have hkeys' : ¬ Ticket.foreignKeysOk marked (some current.toTicketColumns) row.toTicketColumns =
          true := hkeys
      simp only [if_neg hkeys, if_neg hkeys', Tx.exec_raise]

/-! ## What a call looks up

Between its load and its commit a call reads tables that no update writes. It would look up the same at any
time, so what it assigns depends on the columns that it has loaded alone (`resolveUpdate_current`). -/

/-- The tables that no update writes, and that it looks something up in. -/
def lookups (db : Db) :=
  (db.organizations, db.users, db.urgencyLevels, db.categories, db.properties, db.contracts)

theorem readsOnly_checkAgent (agentId : Option Uuid) : ReadsOnly lookups (checkAgent scope agentId) := by
  cases agentId with
  | none => exact ReadsOnly.pure _
  | some agentId =>
    apply ReadsOnly.bind (ReadsOnly.getOr404 fun db db' h => congrArg (·.2.1) h)
    intro agent
    exact ReadsOnly.ite (ReadsOnly.pure _) (ReadsOnly.raise _)

theorem readsOnly_resolveSlaDueAt (organizationId : Uuid) (urgency : UrgencyLevel) (t : Int) :
    ReadsOnly lookups (resolveSlaDueAt env organizationId urgency t) := by
  apply ReadsOnly.bind (ReadsOnly.getOr404 fun db db' h => congrArg (·.1) h)
  intro organization
  apply ReadsOnly.bind
  · exact ReadsOnly.ite (ReadsOnly.orRaise _ _) (ReadsOnly.pure _)
  · intro zone
    split
    · exact ReadsOnly.pure _
    · exact ReadsOnly.raise _

theorem readsOnly_resolveUpdate : ReadsOnly lookups (resolveUpdate env scope loaded patch d) := by
  apply ReadsOnly.bind (readsOnly_checkAgent _)
  intro _
  apply ReadsOnly.ite _ (ReadsOnly.pure _)
  split
  · exact ReadsOnly.raise _
  · apply ReadsOnly.bind (ReadsOnly.getOr404 fun db db' h => congrArg (·.2.2.1) h)
    intro urgency
    exact ReadsOnly.bind (readsOnly_resolveSlaDueAt _ _ _) fun _ => ReadsOnly.pure _

/-- What the call assigns if it loads the row `current`, which has the urgency that it has looked
    up. -/
def assignedTo (patch : TicketPatch) (d : UpdateDraws) (assigned : TicketColumns)
    (current : TicketColumns) : TicketColumns :=
  let c := patch.assignStatus d.now { current with agentId := patch.agentId.or current.agentId }
  if patch.setsTaxonomy then
    { c with
      categoryId := patch.categoryId.or current.categoryId
      urgencyId := assigned.urgencyId
      slaDueAt := assigned.slaDueAt }
  else c

theorem assignStatus_eq (patch : TicketPatch) (now : Int) (c : TicketColumns) :
    patch.assignStatus now c = { c with
      status := patch.status.getD c.status
      closedAt := patch.status.elim c.closedAt fun s => if s = .closed then some now else none } := by
  unfold TicketPatch.assignStatus
  split
  next h => rw [h]; rfl
  next s h => rw [h]; rfl

theorem assignedTo_eq (patch : TicketPatch) (d : UpdateDraws) (assigned current : TicketColumns) :
    assignedTo patch d assigned current = { current with
      agentId := patch.agentId.or current.agentId
      status := patch.status.getD current.status
      closedAt := patch.status.elim current.closedAt fun s =>
        if s = .closed then some d.now else none
      categoryId := if patch.setsTaxonomy then patch.categoryId.or current.categoryId
        else current.categoryId
      urgencyId := if patch.setsTaxonomy then assigned.urgencyId else current.urgencyId
      slaDueAt := if patch.setsTaxonomy then assigned.slaDueAt else current.slaDueAt } := by
  unfold assignedTo
  rw [assignStatus_eq]
  cases patch.setsTaxonomy with
  | false => rfl
  | true => rfl

theorem resolveUpdate_current (h : Tx.exec (resolveUpdate env scope loaded patch d) db =
      (.ok assigned, db))
    (hcreated : current.createdAt = loaded.createdAt)
    (hkept : patch.setsTaxonomy = true → patch.urgencyId = none →
      current.urgencyId = loaded.urgencyId) :
    Tx.exec (resolveUpdate env scope current patch d) db =
      (.ok (assignedTo patch d assigned current.toTicketColumns), db) := by
  obtain ⟨_, db₁, hagent, -⟩ := Tx.bind_ok.mp h
  obtain rfl := (looksUp_checkAgent _).same hagent
  simp only [resolveUpdate, Tx.exec_bind, hagent, assignTaxonomy, Tx.exec_ite, assignedTo]
  split
  next hsets =>
    obtain ⟨urgencyId, urgency, slaDueAt, hor, hget, hdue, -, hurgencyId, hslaDueAt⟩ :=
      resolveUpdate_taxonomy h hsets
    have hor' : patch.urgencyId.or current.urgencyId = some urgencyId := by
      cases hpatch : patch.urgencyId with
      | none => rw [hkept hsets hpatch, ← hpatch, hor]
      | some id => rw [hpatch, Option.some_or] at hor; rw [Option.some_or, hor]
    rw [hor']
    simp only [Tx.exec_bind, hget, hcreated, hdue, Tx.exec_pure, hurgencyId, hslaDueAt]
  next => rfl

/-! ## A commit over another row

`current` is the stored row and `current'` the row as it is when the calls come one after another. They are the
same but for the agent, which two updates may both assign without any harm. The two commits then pass the same
checks and write the same. -/

/-- The columns agree, but for the agent. -/
def SameButAgent (c c' : TicketColumns) : Prop := c = { c' with agentId := c.agentId }

variable {current' : Ticket}

/-- A commit over a row that agrees stores what the call would assign to that row. -/
theorem sameButAgent_writeBack (hresolve : Tx.exec (resolveUpdate env scope loaded patch d) db =
      (.ok assigned, db))
    (hagrees : Agrees patch d assigned loaded current)
    (hsame : SameButAgent current.toTicketColumns current'.toTicketColumns) :
    SameButAgent
      (TicketColumns.writeBack loaded.toTicketColumns assigned current.toTicketColumns)
      (TicketColumns.writeBack current'.toTicketColumns
        (assignedTo patch d assigned current'.toTicketColumns) current'.toTicketColumns) := by
  obtain ⟨hassigned, hkept⟩ := resolveUpdate_ok hresolve
  have hold : current.status = current'.status ∧ current.closedAt = current'.closedAt ∧
      current.categoryId = current'.categoryId ∧ current.urgencyId = current'.urgencyId ∧
      current.slaDueAt = current'.slaDueAt := by
    rw [hsame]
    exact ⟨rfl, rfl, rfl, rfl, rfl⟩
  obtain ⟨hstatus, hclosedAt, hcategory, hurgency, hslaDueAt⟩ := hold
  -- the status: left out as unchanged only if the stored one is the same
  have hstatus' : flushAttr loaded.status assigned.status current.status =
      (assignedTo patch d assigned current'.toTicketColumns).status := by
    rw [hassigned, assignStatus_eq, assignedTo_eq]
    cases hpatch : patch.status with
    | none => simpa using hstatus
    | some s => exact flushAttr_eq_assigned fun heq => hagrees.status s hpatch heq.symm
  have hclosedAt' : flushAttr loaded.closedAt assigned.closedAt current.closedAt =
      (assignedTo patch d assigned current'.toTicketColumns).closedAt := by
    rw [hassigned, assignStatus_eq, assignedTo_eq]
    cases hpatch : patch.status with
    | none => simpa using hclosedAt
    | some s =>
      apply flushAttr_eq_assigned
      by_cases hs : s = .closed
      · subst hs
        exact fun heq => hagrees.closedAt hpatch heq.symm
      · -- the row is not closed, since it was not and nobody has closed it
        simp only [Option.elim_some, if_neg hs]
        intro heq
        have hloaded : loaded.status ≠ .closed := fun h =>
          loaded.closed_at_matches_status.mp h heq.symm
        have hnot := hagrees.notClosed s hpatch hs hloaded
        by_contra hne
        exact hnot (current.closed_at_matches_status.mpr hne)
  -- category, urgency and due date come from the patch, or are kept
  have hcategory' : flushAttr loaded.categoryId assigned.categoryId current.categoryId =
      (assignedTo patch d assigned current'.toTicketColumns).categoryId := by
    rw [assignedTo_eq]
    cases hsets : patch.setsTaxonomy with
    | false => simpa [(hkept hsets).1] using hcategory
    | true =>
      obtain ⟨-, -, -, -, -, -, heq, -⟩ := resolveUpdate_taxonomy hresolve hsets
      rw [heq]
      cases hpatch : patch.categoryId with
      | none => simpa using hcategory
      | some id => exact flushAttr_eq_assigned fun h => hagrees.category id hpatch h.symm
  have hurgency' : flushAttr loaded.urgencyId assigned.urgencyId current.urgencyId =
      (assignedTo patch d assigned current'.toTicketColumns).urgencyId := by
    rw [assignedTo_eq]
    cases hsets : patch.setsTaxonomy with
    | false => simpa [(hkept hsets).2.1] using hurgency
    | true =>
      obtain ⟨urgencyId, -, -, hor, -, -, -, heq, -⟩ := resolveUpdate_taxonomy hresolve hsets
      show flushAttr loaded.urgencyId assigned.urgencyId current.urgencyId = assigned.urgencyId
      apply flushAttr_eq_assigned
      rw [heq]
      cases hpatch : patch.urgencyId with
      | none =>
        rw [hpatch, Option.none_or] at hor
        exact fun _ => (hagrees.keptUrgency hsets hpatch).trans hor
      | some id =>
        rw [hpatch, Option.some_or] at hor
        exact fun h => (hagrees.urgency id hpatch (by rw [← h, hor])).trans hor
  have hslaDueAt' : flushAttr loaded.slaDueAt assigned.slaDueAt current.slaDueAt =
      (assignedTo patch d assigned current'.toTicketColumns).slaDueAt := by
    rw [assignedTo_eq]
    cases hsets : patch.setsTaxonomy with
    | false => simpa [(hkept hsets).2.2] using hslaDueAt
    | true => exact flushAttr_eq_assigned (hagrees.slaDueAt hsets)
  have hother : assigned.classificationStatus = loaded.classificationStatus ∧
      assigned.channelMetadata = loaded.channelMetadata := by
    rw [hassigned, assignStatus_eq]
    exact ⟨rfl, rfl⟩
  -- column by column
  show TicketColumns.writeBack _ _ _ = _
  rw [TicketColumns.writeBack_loaded]
  simp only [TicketColumns.writeBack, hstatus', hclosedAt', hcategory', hurgency', hslaDueAt', hother,
    flushAttr_unassigned]
  let fresh := assignedTo patch d assigned current'.toTicketColumns
  have hfresh : fresh.classificationStatus = current'.classificationStatus ∧
      fresh.channelMetadata = current'.channelMetadata := by
    show (assignedTo _ _ _ _).classificationStatus = _ ∧ (assignedTo _ _ _ _).channelMetadata = _
    rw [assignedTo_eq]
    exact ⟨rfl, rfl⟩
  rw [hfresh.1, hfresh.2]
  exact congrArg (fun c : TicketColumns => { c with
    categoryId := fresh.categoryId
    urgencyId := fresh.urgencyId
    status := fresh.status
    agentId := flushAttr loaded.agentId assigned.agentId current.agentId
    slaDueAt := fresh.slaDueAt
    closedAt := fresh.closedAt }) hsame

/-- No CHECK is about the agent. -/
theorem SameButAgent.check {c c' : TicketColumns} {row' : Ticket} (h : SameButAgent c c')
    (hrow' : Ticket.check c' = .ok row') : ∃ row, Ticket.check c = .ok row := by
  have hcols := Ticket.check_ok hrow'
  have htaxonomy : c.ClassifiedHasTaxonomy := by
    rw [h, ← hcols]
    exact row'.classified_has_taxonomy
  have hclosed : c.ClosedAtMatchesStatus := by
    rw [h, ← hcols]
    exact row'.closed_at_matches_status
  have htitle : c.TitleNotBlank := by
    rw [h, ← hcols]
    exact row'.title_not_blank
  exact ⟨_, Ticket.check_of htaxonomy hclosed htitle⟩

/-- What a call assigns to the row that it has loaded passes every CHECK. -/
theorem check_assignedTo (hresolve : Tx.exec (resolveUpdate env scope loaded patch d) db =
      (.ok assigned, db)) :
    ∃ row, Ticket.check (TicketColumns.writeBack current.toTicketColumns
      (assignedTo patch d assigned current.toTicketColumns) current.toTicketColumns) = .ok row := by
  have htaxonomy : (assignedTo patch d assigned current.toTicketColumns).ClassifiedHasTaxonomy := by
    rw [assignedTo_eq]
    cases hsets : patch.setsTaxonomy with
    | false => exact current.classified_has_taxonomy
    -- a classified ticket keeps the part that the patch leaves out
    | true =>
      obtain ⟨_, _, _, -, -, -, -, hurgency, hslaDueAt⟩ := resolveUpdate_taxonomy hresolve hsets
      rcases current.classified_has_taxonomy with hpending | ⟨hcategory, -, -⟩
      · exact .inl hpending
      · refine .inr ⟨?_, by simp [hurgency], by simp [hslaDueAt]⟩
        cases patch.categoryId with
        | none => simpa using hcategory
        | some id => simp
  have hclosed : (assignedTo patch d assigned current.toTicketColumns).ClosedAtMatchesStatus := by
    have hmatches := closedAtMatches_assignStatus (c := { current.toTicketColumns with
      agentId := patch.agentId.or current.agentId }) patch d.now current.closed_at_matches_status
    rw [assignStatus_eq] at hmatches
    rw [assignedTo_eq]
    exact hmatches
  have htitle : (assignedTo patch d assigned current.toTicketColumns).TitleNotBlank := by
    rw [assignedTo_eq]
    exact current.title_not_blank
  have hwrite : TicketColumns.writeBack current.toTicketColumns
      (assignedTo patch d assigned current.toTicketColumns) current.toTicketColumns =
      assignedTo patch d assigned current.toTicketColumns := by
    rw [TicketColumns.writeBack_loaded, assignedTo_eq]
  rw [hwrite]
  exact ⟨_, Ticket.check_of htaxonomy hclosed htitle⟩

/-- An agent that is assigned exists. -/
theorem foreignKeyOk_agent {previous : Option Uuid}
    (hresolve : Tx.exec (resolveUpdate env scope loaded patch d) db = (.ok assigned, db))
    {agentId : Option Uuid} (hagent : agentId = previous ∨ agentId = patch.agentId) :
    foreignKeyOk db.users previous agentId = true := by
  rcases hagent with rfl | rfl
  · simp [foreignKeyOk]
  · obtain ⟨_, _, hcheck, -⟩ := Tx.bind_ok.mp hresolve
    cases hpatch : patch.agentId with
    | none => simp [foreignKeyOk]
    | some id =>
      rw [hpatch] at hcheck
      obtain ⟨agent, _, hget, -⟩ := Tx.bind_ok.mp hcheck
      obtain ⟨-, hlookup, -⟩ := getOr404_ok.mp hget
      have hmem : id ∈ db.users := Table.mem_iff_lookup.mpr ⟨agent, hlookup⟩
      simp [foreignKeyOk, hmem]

/-- A flush leaves the agent, or writes the one of the patch. -/
theorem agentId_writeBack (hresolve : Tx.exec (resolveUpdate env scope loaded patch d) db =
      (.ok assigned, db)) :
    (TicketColumns.writeBack loaded.toTicketColumns assigned current.toTicketColumns).agentId =
        current.agentId ∨
      (TicketColumns.writeBack loaded.toTicketColumns assigned current.toTicketColumns).agentId =
        patch.agentId := by
  obtain ⟨hassigned, -⟩ := resolveUpdate_ok hresolve
  rw [hassigned, assignStatus_eq]
  show flushAttr loaded.agentId (patch.agentId.or loaded.agentId) current.agentId = _ ∨
    flushAttr loaded.agentId (patch.agentId.or loaded.agentId) current.agentId = _
  cases patch.agentId with
  | none => exact .inl (flushAttr_unassigned _ _)
  | some id => exact flushAttr_cases _ _ _

/-- The references of the two rows exist, or not, together. -/
theorem foreignKeysOk_same {db' : Db} {c c' : TicketColumns} (hlookups : lookups db = lookups db')
    (hsame : SameButAgent current.toTicketColumns current'.toTicketColumns) (hrows : SameButAgent c c')
    (hagent : foreignKeyOk db.users current.agentId c.agentId = true)
    (hagent' : foreignKeyOk db'.users current'.agentId c'.agentId = true) :
    Ticket.foreignKeysOk db (some current.toTicketColumns) c =
      Ticket.foreignKeysOk db' (some current'.toTicketColumns) c' := by
  simp only [lookups, Prod.mk.injEq] at hlookups
  obtain ⟨horganizations, husers, hurgencyLevels, hcategories, hproperties, hcontracts⟩ := hlookups
  have hold : current.organizationId = current'.organizationId ∧ current.userId = current'.userId ∧
      current.propertyId = current'.propertyId ∧ current.contractId = current'.contractId ∧
      current.categoryId = current'.categoryId ∧ current.urgencyId = current'.urgencyId := by
    rw [hsame]
    exact ⟨rfl, rfl, rfl, rfl, rfl, rfl⟩
  have hnew : c.organizationId = c'.organizationId ∧ c.userId = c'.userId ∧
      c.propertyId = c'.propertyId ∧ c.contractId = c'.contractId ∧
      c.categoryId = c'.categoryId ∧ c.urgencyId = c'.urgencyId := by
    rw [hrows]
    exact ⟨rfl, rfl, rfl, rfl, rfl, rfl⟩
  rw [husers] at hagent
  simp only [Ticket.foreignKeysOk, Option.map_some, Option.bind_some, hagent, hagent', hold, hnew,
    horganizations, husers, hurgencyLevels, hcategories, hproperties, hcontracts]

/-- The two commits record the same event, or none. -/
theorem slaEventsAfter_same {db' : Db}
    (hresolve : Tx.exec (resolveUpdate env scope loaded patch d) db = (.ok assigned, db))
    (hagrees : Agrees patch d assigned loaded current)
    (hsame : SameButAgent current.toTicketColumns current'.toTicketColumns)
    (hevents : db.slaEvents = db'.slaEvents) :
    slaEventsAfter scope db ticketId loaded.status assigned.slaDueAt patch d =
      slaEventsAfter scope db' ticketId current'.status
        (assignedTo patch d assigned current'.toTicketColumns).slaDueAt patch d := by
  have hold : current.status = current'.status ∧ current.slaDueAt = current'.slaDueAt := by
    rw [hsame]
    exact ⟨rfl, rfl⟩
  have hentered : enteredResolvedOrClosed current'.status patch.status =
      enteredResolvedOrClosed loaded.status patch.status := by
    rw [← hold.1]
    unfold enteredResolvedOrClosed
    cases hpatch : patch.status with
    | none => rfl
    | some s =>
      have hstatus := hagrees.status s hpatch
      have hentered := hagrees.entered s hpatch
      grind
  unfold slaEventsAfter
  rw [hentered, hevents, assignedTo_eq]
  split
  next hrecords =>
    cases hsets : patch.setsTaxonomy with
    | true => rfl
    | false =>
      have hdue := hagrees.eventDue hrecords hsets
      have hkept := ((resolveUpdate_ok hresolve).2 hsets).2.2
      rw [hkept, ← hdue, hold.2]
      rfl
  · rfl

end

/-! ## The simulation

Side by side with the run, the calls that have committed are made one after another on a database of their own.
The two databases match, and every call in flight could still be made on the second one as it was made on the
first. -/

/-- The columns that no update writes. -/
def fixedPart (c : TicketColumns) : TicketColumns :=
  { c with
    categoryId := none
    urgencyId := none
    status := .open
    agentId := none
    slaDueAt := none
    closedAt := none }

/-- One database looks like the other one, but for the agents and the marks of corrections. -/
structure Matches (db db' : Db) : Prop where
  lookups : lookups db = lookups db'
  slaEvents : db.slaEvents = db'.slaEvents
  tickets : ∀ id, (db.tickets.lookup id = none ∧ db'.tickets.lookup id = none) ∨
    ∃ t t', db.tickets.lookup id = some t ∧ db'.tickets.lookup id = some t' ∧
      SameButAgent t.toTicketColumns t'.toTicketColumns

/-- What is known of a call that has loaded its ticket. -/
structure Accepted (db : Db) (u : UpdateCall) : Prop where
  gates : ∀ db, Tx.exec (checkUpdateRoles u.scope u.patch) db = (.ok (), db)
  stored : ∃ current, db.tickets.lookup u.ticketId = some current ∧
    fixedPart current.toTicketColumns = fixedPart u.loaded.toTicketColumns ∧
    u.scope.selectsTicket db current = true

/-- What is known of a call in flight. -/
def InFlight (env : Env) (db : Db) : UpdatePhase → Prop
  | .loaded u => Accepted db u
  | .resolved u assigned d => Accepted db u ∧
    Tx.exec (resolveUpdate env u.scope u.loaded u.patch d) db = (.ok assigned, db)

/-- The world is where the calls that have committed, one after another, lead to. -/
structure Simulates (env : Env) (w : World) (db' : Db) : Prop where
  same : Matches w.db db'
  calls : ∀ request phase, w.updates.lookup request = some phase → InFlight env w.db phase

section
variable {env : Env} {w : World} {db db' : Db}

/-- Who sees a ticket is decided by what no update writes. -/
theorem selectsTicket_fixed {scope : OrgScope} {t t' : Ticket} (hlookups : lookups db = lookups db')
    (hfixed : fixedPart t.toTicketColumns = fixedPart t'.toTicketColumns) :
    scope.selectsTicket db t = scope.selectsTicket db' t' := by
  simp only [lookups, Prod.mk.injEq] at hlookups
  simp only [fixedPart, TicketColumns.mk.injEq] at hfixed
  simp only [OrgScope.selectsTicket, OrgScope.roleSees, hlookups, hfixed]

theorem SameButAgent.fixedPart {c c' : TicketColumns} (h : SameButAgent c c') :
    fixedPart c = fixedPart c' := by
  rw [h]
  rfl

theorem fixedPart_writeBack {env : Env} {scope : OrgScope} {loaded current : Ticket}
    {assigned : TicketColumns} {patch : TicketPatch} {d : UpdateDraws}
    (hresolve : Tx.exec (resolveUpdate env scope loaded patch d) db = (.ok assigned, db)) :
    Tickets.fixedPart
      (TicketColumns.writeBack loaded.toTicketColumns assigned current.toTicketColumns) =
      Tickets.fixedPart current.toTicketColumns := by
  obtain ⟨hassigned, -⟩ := resolveUpdate_ok hresolve
  have hother : assigned.classificationStatus = loaded.classificationStatus ∧
      assigned.channelMetadata = loaded.channelMetadata := by
    rw [hassigned, assignStatus_eq]
    exact ⟨rfl, rfl⟩
  simp only [Tickets.fixedPart, TicketColumns.writeBack, hother, flushAttr_unassigned]

/-- A call in flight stays as it is while others commit. -/
theorem InFlight.transfer {phase : UpdatePhase} (h : InFlight env db phase)
    (hlookups : lookups db = lookups db')
    (htickets : ∀ id t, db.tickets.lookup id = some t → ∃ t', db'.tickets.lookup id = some t' ∧
      Tickets.fixedPart t'.toTicketColumns = Tickets.fixedPart t.toTicketColumns) :
    InFlight env db' phase := by
  have haccepted : ∀ u, Accepted db u → Accepted db' u := by
    rintro u ⟨hgates, current, hcurrent, hfixed, hsees⟩
    obtain ⟨t', ht', hsame⟩ := htickets u.ticketId current hcurrent
    exact ⟨hgates, t', ht', hsame.trans hfixed, by rw [← selectsTicket_fixed hlookups hsame.symm, hsees]⟩
  cases phase with
  | loaded u => exact haccepted u h
  | resolved u assigned d => exact ⟨haccepted u h.1, readsOnly_resolveUpdate.transfer hlookups h.2⟩

/-- A commit that does not raise leaves what the call leaves, with nobody in between; one that raises
    misses a key. -/
theorem matches_commit {u : UpdateCall} {assigned : TicketColumns} {d : UpdateDraws}
    (hw : Matches db db') (hflight : InFlight env db (.resolved u assigned d))
    (hagrees : ∀ current, db.tickets.lookup u.ticketId = some current →
      Agrees u.patch d assigned u.loaded current) :
    (∃ e, Tx.settle (commitUpdate u.scope u.ticketId u.loaded assigned u.patch d) db = (.error e, db) ∧
      (e = .integrityError .foreignKey ∨ e = .integrityError .primaryKey)) ∨
    ∃ row after current, Tx.settle (commitUpdate u.scope u.ticketId u.loaded assigned u.patch d) db =
        (.ok row, after) ∧
      Matches after (UpdateRequest.step env db' ⟨u.scope, u.ticketId, u.patch, d⟩) ∧
      db.tickets.lookup u.ticketId = some current ∧
      fixedPart row.toTicketColumns = fixedPart current.toTicketColumns ∧
      lookups after = lookups db ∧ after.tickets = db.tickets.modify u.ticketId fun _ => row := by
  obtain ⟨⟨hgates, current, hcurrent, hfixed, hsees⟩, hresolve⟩ := hflight
  have hagrees := hagrees current hcurrent
  obtain ⟨hmissing, -⟩ | ⟨t, current', ht, hcurrent', hsame⟩ := hw.tickets u.ticketId
  · rw [hcurrent] at hmissing
    cases hmissing
  obtain rfl : t = current := Option.some.inj (ht.symm.trans hcurrent)
  -- the call on the other database
  have hsees' : u.scope.selectsTicket db' current' = true := by
    rw [← selectsTicket_fixed hw.lookups hsame.fixedPart, hsees]
  have hcreated : current'.createdAt = u.loaded.createdAt := by
    have hcreated := congrArg TicketColumns.createdAt (hsame.fixedPart.symm.trans hfixed)
    exact hcreated
  have hkept : u.patch.setsTaxonomy = true → u.patch.urgencyId = none →
      current'.urgencyId = u.loaded.urgencyId := by
    intro hsets hpatch
    rw [← hagrees.keptUrgency hsets hpatch]
    exact (congrArg TicketColumns.urgencyId hsame).symm
  have hserial : UpdateRequest.step env db' ⟨u.scope, u.ticketId, u.patch, d⟩ =
      (Tx.settle (commitUpdate u.scope u.ticketId current'
        (assignedTo u.patch d assigned current'.toTicketColumns) u.patch d) db').2 := by
    have hload : Tx.exec (loadTicket u.scope u.ticketId u.patch) db' = (.ok current', db') := by
      show Tx.exec (checkUpdateRoles u.scope u.patch >>= fun _ => u.scope.getTicket u.ticketId) db' = _
      rw [Tx.exec_bind, hgates]
      exact getOr404_ok.mpr ⟨rfl, hcurrent', hsees'⟩
    have hresolve' : Tx.exec (resolveUpdate env u.scope current' u.patch d) db' =
        (.ok (assignedTo u.patch d assigned current'.toTicketColumns), db') :=
      resolveUpdate_current (readsOnly_resolveUpdate.transfer hw.lookups hresolve) hcreated hkept
    show (Tx.settle (loadTicket u.scope u.ticketId u.patch >>= _) db').2 = _
    rw [Tx.settle_bind_of_ok hload, Tx.settle_bind_of_ok hresolve']
  -- both commits, check by check
  have hwrites := sameButAgent_writeBack hresolve hagrees hsame
  have hchecks : ∃ row, Ticket.check (TicketColumns.writeBack current'.toTicketColumns
      (assignedTo u.patch d assigned current'.toTicketColumns) current'.toTicketColumns) = .ok row :=
    check_assignedTo hresolve
  obtain ⟨row', hcheck'⟩ := hchecks
  obtain ⟨row, hcheck⟩ := hwrites.check hcheck'
  have hrows : SameButAgent row.toTicketColumns row'.toTicketColumns := by
    rw [Ticket.check_ok hcheck, Ticket.check_ok hcheck']
    exact hwrites
  have hkeys : Ticket.foreignKeysOk db (some t.toTicketColumns) row.toTicketColumns =
      Ticket.foreignKeysOk db' (some current'.toTicketColumns) row'.toTicketColumns := by
    apply foreignKeysOk_same hw.lookups hsame hrows
    · apply foreignKeyOk_agent hresolve
      rw [Ticket.check_ok hcheck]
      exact agentId_writeBack hresolve
    · apply foreignKeyOk_agent (readsOnly_resolveUpdate.transfer hw.lookups hresolve)
      rw [Ticket.check_ok hcheck', TicketColumns.writeBack_loaded, assignedTo_eq]
      cases u.patch.agentId with
      | none => exact .inl rfl
      | some id => exact .inr rfl
  have hevents : slaEventsAfter u.scope db u.ticketId u.loaded.status assigned.slaDueAt u.patch d =
      slaEventsAfter u.scope db' u.ticketId current'.status
        (assignedTo u.patch d assigned current'.toTicketColumns).slaDueAt u.patch d :=
    slaEventsAfter_same hresolve hagrees hsame hw.slaEvents
  rw [hserial, settle_commitUpdate hcurrent hsees, settle_commitUpdate hcurrent' hsees', hcheck, hcheck']
  dsimp only
  rw [hkeys, hevents]
  split
  next =>
    split
    next slaEvents _ =>
      refine .inr ⟨row, _, t, rfl, ?_, hcurrent, ?_, rfl, rfl⟩
      · refine ⟨hw.lookups, rfl, fun id => ?_⟩
        by_cases hid : id = u.ticketId
        · subst hid
          exact .inr ⟨row, row', by simp [hcurrent], by simp [hcurrent'], hrows⟩
        · dsimp only
          rw [Table.lookup_modify_of_ne _ hid, Table.lookup_modify_of_ne _ hid]
          exact hw.tickets id
      · rw [Ticket.check_ok hcheck, fixedPart_writeBack hresolve]
    next => exact .inl ⟨_, rfl, .inr rfl⟩
  next => exact .inl ⟨_, rfl, .inl rfl⟩

/-- The gates look at the scope and the patch. -/
theorem readsOnly_checkUpdateRoles {scope : OrgScope} {patch : TicketPatch} :
    ReadsOnly (fun _ => ()) (checkUpdateRoles scope patch) :=
  ReadsOnly.ite (ReadsOnly.raise _)
    (ReadsOnly.ite (ReadsOnly.raise _) (ReadsOnly.ite (ReadsOnly.raise _) (ReadsOnly.pure _)))

theorem accepted_of_load {scope : OrgScope} {ticketId : Uuid} {patch : TicketPatch} {loaded : Ticket}
    (h : (Tx.settle (loadTicket scope ticketId patch) db).1 = .ok loaded) :
    Accepted db ⟨scope, ticketId, patch, loaded⟩ := by
  obtain ⟨after, hexec⟩ := Tx.settle_ok h
  obtain ⟨-, hlookup, hsees⟩ := loadTicket_ok hexec
  obtain ⟨_, db₁, hgates, -⟩ := Tx.bind_ok.mp hexec
  obtain rfl := (looksUp_checkUpdateRoles _).same hgates
  exact ⟨fun _ => readsOnly_checkUpdateRoles.transfer rfl hgates, loaded, hlookup, rfl, hsees⟩

/-- **Step lemma**: after an event, the world is where the calls that have committed lead to, one more
    if this was a commit. -/
theorem simulates_step (hw : Simulates env w db') {e : Event} (he : e.isUpdate = true)
    (hagrees : CommitAgrees w e) :
    CommitsUnlessKey w e ∧
      Simulates env (e.step env w) (run (UpdateRequest.step env) db' (committedBy w e)) := by
  have hkeep : ∀ {updates : Table Nat UpdatePhase}, (∀ request phase,
      updates.lookup request = some phase → InFlight env w.db phase) →
      Simulates env { w with updates := updates } db' := fun hcalls => ⟨hw.same, hcalls⟩
  have herase : ∀ request' request phase, (w.updates.erase request').lookup request = some phase →
      InFlight env w.db phase := fun _ request phase h => hw.calls request phase (Table.lookup_of_lookup_erase h)
  cases e with
  -- a call that has loaded its ticket is in flight
  | beginUpdate request scope ticketId patch =>
    refine ⟨trivial, ?_⟩
    show Simulates env (Event.step env w (.beginUpdate request scope ticketId patch)) db'
    simp only [Event.step]
    split
    next loaded hload =>
      apply hkeep
      intro request' phase h
      rw [Table.lookup_insert] at h
      split at h
      · obtain rfl := Option.some.inj h
        exact accepted_of_load hload
      · exact hw.calls request' phase h
    next => exact hw
  -- what it assigns is computed from what it has loaded
  | resolveUpdate request d =>
    refine ⟨trivial, ?_⟩
    show Simulates env (Event.step env w (.resolveUpdate request d)) db'
    simp only [Event.step]
    split
    next u hu =>
      split
      next assigned hresolve =>
        apply hkeep
        intro request' phase h
        rw [Table.lookup_insert] at h
        split at h
        · obtain rfl := Option.some.inj h
          obtain ⟨after, hexec⟩ := Tx.settle_ok hresolve
          obtain rfl := (looksUp_resolveUpdate _ _ _).same hexec
          exact ⟨hw.calls request _ hu, hexec⟩
        · exact hw.calls request' phase h
      next => exact hkeep (herase request)
    next => exact hw
  -- the call is made on the second database as well, if it does not raise
  | commitUpdate request =>
    have hnone : (∀ u assigned d, w.updates.lookup request ≠ some (.resolved u assigned d)) →
        CommitsUnlessKey w (.commitUpdate request) ∧ Simulates env (Event.step env w (.commitUpdate request))
          (run (UpdateRequest.step env) db' (committedBy w (.commitUpdate request))) := by
      intro hnot
      constructor
      · intro e hout
        simp [commitOutcome] at hout
      · simp only [Event.step, committedBy]
        exact hw
    cases hphase : w.updates.lookup request with
    | none => exact hnone (by simp [hphase])
    | some phase =>
      cases phase with
      | loaded u => exact hnone (by simp [hphase])
      | resolved u assigned d =>
        have hflight := hw.calls request _ hphase
        rcases matches_commit hw.same hflight (hagrees u assigned d · hphase) with
          ⟨e, hsettle, he⟩ | ⟨row, after, current, hsettle, hafter, hcurrent, hfixed, hlookups, htickets⟩
        · constructor
          · intro e' hout
            simp only [commitOutcome, hphase, hsettle, Option.some.injEq, Except.error.injEq] at hout
            exact hout ▸ he
          · simp only [Event.step, committedBy, hphase, hsettle]
            exact hkeep (herase request)
        · constructor
          · intro e' hout
            simp [commitOutcome, hphase, hsettle] at hout
          · simp only [Event.step, committedBy, hphase, hsettle]
            refine ⟨hafter, fun request' phase h => ?_⟩
            apply (herase request request' phase h).transfer hlookups.symm
            intro id t ht
            rw [htickets, Table.lookup_modify]
            by_cases hid : id = u.ticketId
            · subst hid
              obtain rfl : t = current := Option.some.inj (ht.symm.trans hcurrent)
              exact ⟨row, by simp [ht], hfixed⟩
            · exact ⟨t, by simp [hid, ht], rfl⟩
  | abortUpdate request => exact ⟨trivial, hkeep (herase request)⟩
  | createTicket scope ticketId anchor p => cases he
  | deliver job classify jobTry => cases he
  | sweep now => cases he

/-- **Run lemma**: the updates of a run lead to where the calls that commit lead to, one after
    another. -/
theorem simulates_run {events : List Event} (hw : Simulates env w db')
    (hevents : AllSteps (Event.step env) (fun w e => e.isUpdate = true ∧ CommitAgrees w e) w events) :
    AllSteps (Event.step env) CommitsUnlessKey w events ∧
      Matches (run (Event.step env) w events).db
        (run (UpdateRequest.step env) db' (committed env w events)) := by
  induction events generalizing w db' with
  | nil => exact ⟨trivial, hw.same⟩
  | cons e events ih =>
    obtain ⟨⟨he, hagrees⟩, hrest⟩ := hevents
    obtain ⟨hcommits, hsimulates⟩ := simulates_step hw he hagrees
    obtain ⟨hall, hmatches⟩ := ih hsimulates hrest
    refine ⟨⟨hcommits, hall⟩, ?_⟩
    show Matches _ (run _ db' (committedBy w e ++ committed env (e.step env w) events))
    rw [run_append]
    exact hmatches

theorem Matches.observed (h : Matches db db') (id : Uuid) : observed db id = observed db' id := by
  rcases h.tickets id with ⟨hnone, hnone'⟩ | ⟨t, t', ht, ht', hsame⟩
  · simp [Tickets.observed, hnone, hnone']
  · show (db.tickets.lookup id).map _ = (db'.tickets.lookup id).map _
    rw [ht, ht', Option.map_some, Option.map_some, hsame]

end

/-- **Serialisable**, in a run whose commits all agree with what their calls have loaded: no commit
    violates a CHECK, and the tickets and the events are those of the same calls one after another. -/
theorem updates_serialisable (env : Env) (db : Db) (events : List Event)
    (hevents : AllSteps (Event.step env) (fun w e => e.isUpdate = true ∧ CommitAgrees w e) ⟨db, ∅, []⟩
      events) :
    let after := (run (Event.step env) ⟨db, ∅, []⟩ events).db
    let serial := run (UpdateRequest.step env) db (committed env ⟨db, ∅, []⟩ events)
    AllSteps (Event.step env) CommitsUnlessKey ⟨db, ∅, []⟩ events ∧
      (∀ id, observed after id = observed serial id) ∧ after.slaEvents = serial.slaEvents := by
  have hstart : Simulates env ⟨db, ∅, []⟩ db := by
    refine ⟨⟨rfl, rfl, fun id => ?_⟩, fun request phase h => by cases h⟩
    cases db.tickets.lookup id with
    | none => exact .inl ⟨rfl, rfl⟩
    | some t => exact .inr ⟨t, t, rfl, rfl, rfl⟩
  obtain ⟨hcommits, hmatches⟩ := simulates_run hstart hevents
  exact ⟨hcommits, hmatches.observed, hmatches.slaEvents⟩

/-! ## Two agents at once

One run in which the calls agree, and one in which they do not. -/

instance (c c' : TicketColumns) : Decidable (SameButAgent c c') :=
  inferInstanceAs (Decidable (c = { c' with agentId := c.agentId }))

/-- A row in which only the agent has changed agrees. -/
theorem commitAgrees_of_same {w : World} {request : Nat}
    (h : ((w.updates.lookup request).bind fun phase =>
      (w.db.tickets.lookup phase.call.ticketId).map fun t =>
        decide (SameButAgent t.toTicketColumns phase.call.loaded.toTicketColumns)) = some true) :
    CommitAgrees w (.commitUpdate request) := by
  intro u assigned d current hphase hcurrent
  have hcurrent' : w.db.tickets.lookup (UpdatePhase.resolved u assigned d).call.ticketId =
      some current := hcurrent
  rw [hphase, Option.bind_some, hcurrent', Option.map_some] at h
  have hsame : SameButAgent current.toTicketColumns u.loaded.toTicketColumns :=
    of_decide_eq_true (Option.some.inj h)
  have hold : current.status = u.loaded.status ∧ current.closedAt = u.loaded.closedAt ∧
      current.categoryId = u.loaded.categoryId ∧ current.urgencyId = u.loaded.urgencyId ∧
      current.slaDueAt = u.loaded.slaDueAt := by
    rw [hsame]
    exact ⟨rfl, rfl, rfl, rfl, rfl⟩
  constructor
  all_goals grind

/-- Two calls that load the ticket before one of them commits. -/
def crossing (first second : TicketPatch) : List Event :=
  [.beginUpdate 0 agentScope 50 first, .beginUpdate 1 agentScope 50 second,
    .resolveUpdate 0 ⟨days 739001, 70, days 739001⟩, .resolveUpdate 1 ⟨days 739002, 71, days 739002⟩,
    .commitUpdate 0, .commitUpdate 1]

/-- One agent takes the ticket while another one resolves it. -/
theorem updates_serialisable_taken :
    let taken := crossing ⟨none, some 10, none, none⟩ ⟨some .resolved, none, none, none⟩
    observed (run (Event.step taxonomyEnv) ⟨classifiedWorld.db, ∅, []⟩ taken).db 50 =
      observed (run (UpdateRequest.step taxonomyEnv) classifiedWorld.db
        (committed taxonomyEnv ⟨classifiedWorld.db, ∅, []⟩ taken)) 50 := by
  refine (updates_serialisable taxonomyEnv classifiedWorld.db
    (crossing ⟨none, some 10, none, none⟩ ⟨some .resolved, none, none, none⟩) ?_).2.1 50
  refine ⟨⟨rfl, trivial⟩, ⟨rfl, trivial⟩, ⟨rfl, trivial⟩, ⟨rfl, trivial⟩, ⟨rfl, ?_⟩, ⟨rfl, ?_⟩, trivial⟩
  · exact commitAgrees_of_same (by decide +kernel)
  · exact commitAgrees_of_same (by decide +kernel)

/-- One agent closes the ticket while another one takes it up again: `closed_at` is left out, since it
    was empty when it was loaded. -/
theorem crossing_violates :
    ¬ AllSteps (Event.step taxonomyEnv) CommitsUnlessKey ⟨classifiedWorld.db, ∅, []⟩
      (crossing ⟨some .closed, none, none, none⟩ ⟨some .inProgress, none, none, none⟩) := by
  rintro ⟨-, -, -, -, -, hlast, -⟩
  have hviolates : commitOutcome (run (Event.step taxonomyEnv) ⟨classifiedWorld.db, ∅, []⟩
      (crossing ⟨some .closed, none, none, none⟩ ⟨some .inProgress, none, none, none⟩).dropLast) 1 =
      some (.error closingViolation) := by
    decide +kernel
  rcases hlast closingViolation hviolates with h | h
  · cases h
  · cases h

end Helpdesk.Tickets
