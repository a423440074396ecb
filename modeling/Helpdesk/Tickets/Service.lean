import Helpdesk.Tickets.Rows

/-! # The ticket service

`create_ticket` and `update_ticket`, with what they call. `update_ticket` is cut where another
transaction can get in between: `loadTicket` reads the row, `resolveUpdate` makes the other lookups
and computes what to assign, and `commitUpdate` writes. -/

namespace Helpdesk.Tickets

/-- Functions the service takes from elsewhere. -/
structure Env where
  /-- `ZoneInfo(key)`, from the time zone database -/
  zoneInfo : String → Option Sla.Zone
  /-- Python's `str.lower` -/
  lower : String → String

/-- The zone is looked up only where the business hours are respected. -/
def fetchZone (env : Env) (urgency : UrgencyLevel) (organization : Organization) :
    Service Sla.Zone :=
  if urgency.respectsBusinessHours then
    Tx.orRaise (env.zoneInfo organization.timezone) (.zoneInfoNotFound organization.timezone)
  else pure (Sla.Zone.fixed 0)

/-- `resolve_sla_due_at`. -/
def resolveSlaDueAt (env : Env) (organizationId : Uuid) (urgency : UrgencyLevel)
    (fromTimestamp : Int) : Service Int := do
  let organization ← getOrganization organizationId
  let zone ← fetchZone env urgency organization
  match Sla.computeSlaDueAt fromTimestamp urgency.slaHours urgency.respectsBusinessHours zone
      organization.businessHours with
  | .ok due => pure due
  | .error e => Tx.raise (.slaError e)

/-! ## Creating a ticket

`create_ticket` looks at what the request refers to before it writes. The taxonomy is looked up only if it is
complete. -/

/-- The arguments of `create_ticket`. -/
structure TicketCreate where
  propertyId : Option Uuid
  contractId : Option Uuid
  title : String
  description : Option String
  categoryId : Option Uuid
  urgencyId : Option Uuid
  channel : TicketChannel

/-- Fetch what an optional id refers to. -/
def fetchOptional {α : Type} (get : Uuid → Service α) : Option Uuid → Service (Option (Uuid × α))
  | none => pure none
  | some id => do
    let row ← get id
    pure (some (id, row))

/-- Steps 3 and 4: the contract belongs to the property and is active. -/
def checkContract (propertyId : Option Uuid) : Option (Uuid × Contract) → Service Unit
  | none => pure ()
  | some (contractId, contract) =>
    match propertyId with
    | some propertyId =>
      if contract.propertyId ≠ propertyId then
        Tx.raise (.contractPropertyMismatch contractId propertyId)
      else if contract.status ≠ .active then Tx.raise (.contractNotActive contractId)
      else pure ()
    | none =>
      if contract.status ≠ .active then Tx.raise (.contractNotActive contractId) else pure ()

/-- Steps 5 and 6: both ids resolve and are active. Without both of them, no lookup is made. -/
def fetchUrgency (scope : OrgScope) (categoryId urgencyId : Option Uuid) :
    Service (Option UrgencyLevel) :=
  match categoryId, urgencyId with
  | some categoryId, some urgencyId => do
    let category ← scope.getCategory categoryId
    if ¬ category.active then Tx.raise (.categoryInactive categoryId)
    else
      let urgency ← scope.getUrgencyLevel urgencyId
      if ¬ urgency.active then Tx.raise (.urgencyInactive urgencyId)
      else pure (some urgency)
  | _, _ => pure none

/-- Step 7: a tenant's contract is their own. -/
def checkTenant (scope : OrgScope) : Option (Uuid × Contract) → Service Unit
  | none => pure ()
  | some (contractId, contract) =>
    if scope.role = .tenant ∧ contract.tenantId ≠ scope.userId then
      Tx.raise (.notFound "Contract" (some contractId))
    else pure ()

/-- Step 8: the due date, where there is an urgency. -/
def resolveNewSlaDueAt (env : Env) (scope : OrgScope) (anchor : Int) :
    Option UrgencyLevel → Service (Option Int)
  | none => pure none
  | some urgency => some <$> resolveSlaDueAt env scope.organizationId urgency anchor

/-- `create_ticket`, of a ticket with id `ticketId` at the time `anchor`. -/
def createTicket (env : Env) (scope : OrgScope) (ticketId : Uuid) (anchor : Int)
    (p : TicketCreate) : Service Ticket := do
  let _ ← fetchOptional scope.getProperty p.propertyId
  let contract ← fetchOptional scope.getContract p.contractId
  checkContract p.propertyId contract
  let urgency ← fetchUrgency scope p.categoryId p.urgencyId
  checkTenant scope contract
  let slaDueAt ← resolveNewSlaDueAt env scope anchor urgency
  insertTicket ticketId
    { organizationId := scope.organizationId
      userId := scope.userId
      propertyId := p.propertyId
      contractId := p.contractId
      title := p.title
      description := p.description
      categoryId := p.categoryId
      urgencyId := p.urgencyId
      channel := p.channel
      status := .open
      -- set without an urgency, and the column's server default with one
      classificationStatus := .pending
      agentId := none
      slaDueAt := slaDueAt
      closedAt := none
      channelMetadata := none
      createdAt := anchor }

/-! ## Updating a ticket

The status and the taxonomy are assigned by functions of their own, since both assign more than one column.
`UpdateDraws` has the instants and the id that a call draws. -/

/-- The arguments of `update_ticket` that may be set. -/
structure TicketPatch where
  status : Option TicketStatus
  agentId : Option Uuid
  categoryId : Option Uuid
  urgencyId : Option Uuid
  deriving DecidableEq

/-- The patch recategorizes the ticket. -/
def TicketPatch.setsTaxonomy (patch : TicketPatch) : Bool :=
  patch.categoryId.isSome || patch.urgencyId.isSome

/-- What a call of `update_ticket` reads from the clock and the random source. -/
structure UpdateDraws where
  /-- `datetime.now(UTC)` for `closed_at` -/
  now : Int
  /-- the primary key of the `sla_events` row -/
  slaEventId : Uuid
  /-- its `occurred_at`, the time of the transaction -/
  occurredAt : Int

/-- The role gates, before any lookup. -/
def checkUpdateRoles (scope : OrgScope) (patch : TicketPatch) : Service Unit :=
  if patch.agentId ≠ none ∧ ¬ scope.role.isStaff then
    Tx.raise (.forbidden "only agents/admins may assign a ticket to an agent")
  else if (patch.status = some .resolved ∨ patch.status = some .closed) ∧ ¬ scope.role.isStaff then
    Tx.raise (.forbidden "only agents/admins may resolve or close a ticket")
  else if patch.setsTaxonomy ∧ ¬ scope.role.isStaff then
    Tx.raise (.forbidden "only agents/admins may recategorize a ticket")
  else pure ()

/-- The first part of `update_ticket`: the gates, and the ticket as it is loaded. -/
def loadTicket (scope : OrgScope) (ticketId : Uuid) (patch : TicketPatch) : Service Ticket := do
  checkUpdateRoles scope patch
  scope.getTicket ticketId

/-- An agent that is assigned is one of the organization's staff. -/
def checkAgent (scope : OrgScope) : Option Uuid → Service Unit
  | none => pure ()
  | some agentId => do
    let agent ← scope.getUser agentId
    if agent.role.isStaff then pure () else Tx.raise .invalidAgent

/-- `status` and `closed_at`, which are assigned together. -/
def TicketPatch.assignStatus (patch : TicketPatch) (now : Int) (c : TicketColumns) :
    TicketColumns :=
  match patch.status with
  | none => c
  | some status =>
    { c with
      status := status
      closedAt := if status = .closed then some now else none }

/-- `category_id`, `urgency_id` and `sla_due_at`, which are assigned together. A ticket that has no
    urgency yet, and gets none, is looked up under `None`. -/
def assignTaxonomy (env : Env) (scope : OrgScope) (loaded : Ticket) (patch : TicketPatch)
    (c : TicketColumns) : Service TicketColumns := do
  if patch.setsTaxonomy then
    match patch.urgencyId.or loaded.urgencyId with
    | none => Tx.raise (.notFound "UrgencyLevel" none)
    | some urgencyId =>
      let urgency ← scope.getUrgencyLevel urgencyId
      let slaDueAt ← resolveSlaDueAt env scope.organizationId urgency loaded.createdAt
      pure { c with
        categoryId := patch.categoryId.or loaded.categoryId
        urgencyId := some urgencyId
        slaDueAt := some slaDueAt }
  else pure c

/-- The second part: the lookups, and the columns as the call assigns them. -/
def resolveUpdate (env : Env) (scope : OrgScope) (loaded : Ticket) (patch : TicketPatch)
    (d : UpdateDraws) : Service TicketColumns := do
  checkAgent scope patch.agentId
  let c := { loaded.toTicketColumns with agentId := patch.agentId.or loaded.agentId }
  assignTaxonomy env scope loaded patch (patch.assignStatus d.now c)

/-- `ClassificationRepository.mark_human_corrected`: a no-op where there is no row. -/
def markHumanCorrected (ticketId : Uuid) : Service Unit := do
  let db ← Tx.store
  Tx.write { db with
    classifications := db.classifications.modify ticketId fun row =>
      { row with humanCorrected := true } }

/-- `entered_resolved_or_closed`. -/
def enteredResolvedOrClosed (previousStatus : TicketStatus) (status : Option TicketStatus) : Bool :=
  (status = some .resolved || status = some .closed) && status ≠ some previousStatus

/-- `sla_event_service.record_resolved`. -/
def recordResolved (scope : OrgScope) (ticketId : Uuid) (slaDueAt : Option Int) (d : UpdateDraws) :
    Service Unit := do
  let db ← Tx.store
  let slaEvents ← Tx.orRaise
    (db.slaEvents.insertNew d.slaEventId
      { organizationId := scope.organizationId
        ticketId := ticketId
        event := .resolved
        occurredAt := d.occurredAt
        slaDueAt := slaDueAt })
    (.integrityError .primaryKey)
  Tx.write { db with slaEvents := slaEvents }

/-- The last part: the writes. The ticket is looked up once more, which finds the instance that is
    already loaded and does not refresh it. -/
def commitUpdate (scope : OrgScope) (ticketId : Uuid) (loaded : Ticket) (assigned : TicketColumns)
    (patch : TicketPatch) (d : UpdateDraws) : Service Ticket := do
  Tx.when patch.setsTaxonomy (markHumanCorrected ticketId)
  let _ ← scope.getTicket ticketId
  let row ← flushTicket ticketId loaded.toTicketColumns assigned
  Tx.when (enteredResolvedOrClosed loaded.status patch.status)
    (recordResolved scope ticketId assigned.slaDueAt d)
  pure row

/-- `update_ticket`, with nobody in between. -/
def updateTicket (env : Env) (scope : OrgScope) (ticketId : Uuid) (patch : TicketPatch)
    (d : UpdateDraws) : Service Ticket := do
  let loaded ← loadTicket scope ticketId patch
  let assigned ← resolveUpdate env scope loaded patch d
  commitUpdate scope ticketId loaded assigned patch d

/-! ## What the parts do

A lookup leaves the database alone and raises no violation (`LooksUp`). After the lookups there is one write
each, and the rules for the services are those for the writes with what the lookups have found. -/

section
variable {env : Env} {scope : OrgScope} {db db' : Db}

theorem looksUp_resolveSlaDueAt (organizationId : Uuid) (urgency : UrgencyLevel) (t : Int) :
    LooksUp (resolveSlaDueAt env organizationId urgency t) := by
  apply LooksUp.bind (looksUp_getOr404 _ _ _ _)
  intro organization
  apply LooksUp.bind
  · exact LooksUp.ite (LooksUp.orRaise _ (by simp)) (LooksUp.pure _)
  · intro zone
    split
    · exact LooksUp.pure _
    · exact LooksUp.raise (by simp)

theorem looksUp_resolveNewSlaDueAt (anchor : Int) (urgency : Option UrgencyLevel) :
    LooksUp (resolveNewSlaDueAt env scope anchor urgency) := by
  cases urgency with
  | none => exact LooksUp.pure _
  | some urgency => exact LooksUp.map (looksUp_resolveSlaDueAt _ _ _)

theorem looksUp_fetchOptional {α : Type} {get : Uuid → Service α} (hget : ∀ id, LooksUp (get id))
    (id : Option Uuid) : LooksUp (fetchOptional get id) := by
  cases id with
  | none => exact LooksUp.pure _
  | some id => exact LooksUp.bind (hget id) fun _ => LooksUp.pure _

theorem looksUp_checkContract (propertyId : Option Uuid) (contract : Option (Uuid × Contract)) :
    LooksUp (checkContract propertyId contract) := by
  have hactive : ∀ contractId (c : Contract), LooksUp
      (if c.status ≠ .active then Tx.raise (.contractNotActive contractId) else pure ()) :=
    fun _ _ => LooksUp.ite (LooksUp.raise (by simp)) (LooksUp.pure _)
  cases contract with
  | none => exact LooksUp.pure _
  | some contract =>
    cases propertyId with
    | none => exact hactive _ _
    | some propertyId => exact LooksUp.ite (LooksUp.raise (by simp)) (hactive _ _)

theorem looksUp_fetchUrgency (categoryId urgencyId : Option Uuid) :
    LooksUp (fetchUrgency scope categoryId urgencyId) := by
  cases categoryId with
  | none => exact LooksUp.pure _
  | some categoryId =>
    cases urgencyId with
    | none => exact LooksUp.pure _
    | some urgencyId =>
      apply LooksUp.bind (looksUp_getOr404 _ _ _ _)
      intro category
      apply LooksUp.ite (LooksUp.raise (by simp))
      apply LooksUp.bind (looksUp_getOr404 _ _ _ _)
      intro urgency
      exact LooksUp.ite (LooksUp.raise (by simp)) (LooksUp.pure _)

theorem looksUp_checkTenant (contract : Option (Uuid × Contract)) :
    LooksUp (checkTenant scope contract) := by
  cases contract with
  | none => exact LooksUp.pure _
  | some contract => exact LooksUp.ite (LooksUp.raise (by simp)) (LooksUp.pure _)

theorem looksUp_checkUpdateRoles (patch : TicketPatch) :
    LooksUp (checkUpdateRoles scope patch) := by
  apply LooksUp.ite (LooksUp.raise (by simp))
  apply LooksUp.ite (LooksUp.raise (by simp))
  exact LooksUp.ite (LooksUp.raise (by simp)) (LooksUp.pure _)

theorem looksUp_loadTicket (ticketId : Uuid) (patch : TicketPatch) :
    LooksUp (loadTicket scope ticketId patch) :=
  LooksUp.bind (looksUp_checkUpdateRoles patch) fun _ => looksUp_getOr404 _ _ _ _

theorem looksUp_checkAgent (agentId : Option Uuid) : LooksUp (checkAgent scope agentId) := by
  cases agentId with
  | none => exact LooksUp.pure _
  | some agentId =>
    apply LooksUp.bind (looksUp_getOr404 _ _ _ _)
    intro agent
    exact LooksUp.ite (LooksUp.pure _) (LooksUp.raise (by simp))

theorem looksUp_assignTaxonomy (loaded : Ticket) (patch : TicketPatch) (c : TicketColumns) :
    LooksUp (assignTaxonomy env scope loaded patch c) := by
  unfold assignTaxonomy
  apply LooksUp.ite _ (LooksUp.pure _)
  split
  · exact LooksUp.raise (by simp)
  · apply LooksUp.bind (looksUp_getOr404 _ _ _ _)
    intro urgency
    exact LooksUp.bind (looksUp_resolveSlaDueAt _ _ _) fun _ => LooksUp.pure _

theorem looksUp_resolveUpdate (loaded : Ticket) (patch : TicketPatch) (d : UpdateDraws) :
    LooksUp (resolveUpdate env scope loaded patch d) :=
  LooksUp.bind (looksUp_checkAgent _) fun _ => looksUp_assignTaxonomy _ _ _

/-- The ticket that is loaded is a visible one. -/
theorem loadTicket_ok {ticketId : Uuid} {patch : TicketPatch} {t : Ticket}
    (h : Tx.exec (loadTicket scope ticketId patch) db = (.ok t, db')) :
    (patch.setsTaxonomy → scope.role.isStaff) ∧ db.tickets.lookup ticketId = some t ∧
      scope.selectsTicket db t = true := by
  obtain ⟨_, db₁, hroles, hget⟩ := Tx.bind_ok.mp h
  simp only [checkUpdateRoles, Tx.exec_ite, Tx.exec_raise, Tx.exec_pure] at hroles
  split at hroles
  · simp at hroles
  split at hroles
  · simp at hroles
  split at hroles
  · simp at hroles
  next hstaff =>
    cases hroles
    obtain ⟨-, hrow, hsees⟩ := getOr404_ok.mp hget
    exact ⟨by grind, hrow, hsees⟩

/-- The taxonomy is assigned by a patch that sets it, and by no other. -/
theorem assignTaxonomy_ok {loaded : Ticket} {patch : TicketPatch} {c assigned : TicketColumns}
    (h : Tx.exec (assignTaxonomy env scope loaded patch c) db = (.ok assigned, db')) :
    assigned = { c with
      categoryId := assigned.categoryId
      urgencyId := assigned.urgencyId
      slaDueAt := assigned.slaDueAt } ∧
    (patch.setsTaxonomy = false → assigned = c) := by
  simp only [assignTaxonomy, Tx.exec_ite] at h
  split at h
  next hsets =>
    cases hu : patch.urgencyId.or loaded.urgencyId with
    | none => simp [hu] at h
    | some urgencyId =>
      simp only [hu] at h
      obtain ⟨urgency, db₁, -, hrest⟩ := Tx.bind_ok.mp h
      obtain ⟨due, db₂, -, hassign⟩ := Tx.bind_ok.mp hrest
      cases hassign
      exact ⟨rfl, fun hno => by simp [hsets] at hno⟩
  · cases h
    exact ⟨rfl, fun _ => rfl⟩

/-- What `update_ticket` assigns, but for the taxonomy. -/
theorem resolveUpdate_ok {loaded : Ticket} {patch : TicketPatch} {d : UpdateDraws}
    {assigned : TicketColumns}
    (h : Tx.exec (resolveUpdate env scope loaded patch d) db = (.ok assigned, db')) :
    assigned = { patch.assignStatus d.now
        { loaded.toTicketColumns with agentId := patch.agentId.or loaded.agentId } with
      categoryId := assigned.categoryId
      urgencyId := assigned.urgencyId
      slaDueAt := assigned.slaDueAt } ∧
    (patch.setsTaxonomy = false →
      assigned.categoryId = loaded.categoryId ∧ assigned.urgencyId = loaded.urgencyId ∧
        assigned.slaDueAt = loaded.slaDueAt) := by
  obtain ⟨_, db₁, -, hrest⟩ := Tx.bind_ok.mp h
  obtain ⟨hassigned, hkept⟩ := assignTaxonomy_ok hrest
  refine ⟨hassigned, fun hno => ?_⟩
  rw [hkept hno]
  unfold TicketPatch.assignStatus
  split <;> exact ⟨rfl, rfl, rfl⟩

/-- `closed_at` is assigned with the status, so the closing CHECK is kept. -/
theorem closedAtMatches_assignStatus {c : TicketColumns} (patch : TicketPatch) (now : Int)
    (h : c.ClosedAtMatchesStatus) : (patch.assignStatus now c).ClosedAtMatchesStatus := by
  unfold TicketPatch.assignStatus
  split
  · exact h
  · next status _ =>
    by_cases hs : status = .closed
    · simp [TicketColumns.ClosedAtMatchesStatus, hs]
    · simp [TicketColumns.ClosedAtMatchesStatus, hs]

/-- The columns of a new ticket. -/
def TicketCreate.columns (p : TicketCreate) (scope : OrgScope) (anchor : Int)
    (slaDueAt : Option Int) : TicketColumns where
  organizationId := scope.organizationId
  userId := scope.userId
  propertyId := p.propertyId
  contractId := p.contractId
  title := p.title
  description := p.description
  categoryId := p.categoryId
  urgencyId := p.urgencyId
  channel := p.channel
  status := .open
  classificationStatus := .pending
  agentId := none
  slaDueAt := slaDueAt
  closedAt := none
  channelMetadata := none
  createdAt := anchor

/-- `create_ticket` stores a new ticket whose taxonomy has been looked up, or raises, but neither the
    closing nor the taxonomy violation. -/
theorem wp_createTicket_columns {Q : Ticket → Db → Prop} {E : Raised → Prop} {ticketId : Uuid}
    {anchor : Int} {p : TicketCreate}
    (hQ : ∀ (row : Ticket) (urgency : Option UrgencyLevel) (slaDueAt : Option Int),
      db.tickets.lookup ticketId = none →
      Tx.exec (fetchUrgency scope p.categoryId p.urgencyId) db = (.ok urgency, db) →
      Tx.exec (resolveNewSlaDueAt env scope anchor urgency) db = (.ok slaDueAt, db) →
      row.toTicketColumns = p.columns scope anchor slaDueAt →
      Ticket.foreignKeysOk db none row.toTicketColumns = true →
      Q row { db with tickets := AList.insert ticketId row db.tickets })
    (hE : ∀ e, e ≠ closingViolation → e ≠ taxonomyViolation → E e) :
    Tx.wp (createTicket env scope ticketId anchor p) Q E db := by
  have hlookup : ∀ e : Raised, (∀ k, e ≠ .integrityError k) → E e :=
    fun e he => hE e (he _) (he _)
  unfold createTicket
  rw [Tx.wp_bind]
  apply (looksUp_fetchOptional (fun _ => looksUp_getOr404 _ _ _ _) _).wp _ hlookup
  intro _ _
  rw [Tx.wp_bind]
  apply (looksUp_fetchOptional (fun _ => looksUp_getOr404 _ _ _ _) _).wp _ hlookup
  intro contract _
  rw [Tx.wp_bind]
  apply (looksUp_checkContract _ _).wp _ hlookup
  intro _ _
  rw [Tx.wp_bind]
  apply (looksUp_fetchUrgency _ _).wp _ hlookup
  intro urgency hurgency
  rw [Tx.wp_bind]
  apply (looksUp_checkTenant _).wp _ hlookup
  intro _ _
  rw [Tx.wp_bind]
  apply (looksUp_resolveNewSlaDueAt _ _).wp _ hlookup
  intro slaDueAt hdue
  apply wp_insertTicket_keys
  · intro row hcols hnew hkeys
    exact hQ row urgency slaDueAt hnew hurgency hdue hcols (by rw [hcols]; exact hkeys)
  · exact hE
  · simp [TicketColumns.ClosedAtMatchesStatus]
  · exact .inl (by simp)

/-- A new ticket is open and pending. -/
theorem wp_createTicket {Q : Ticket → Db → Prop} {E : Raised → Prop} {ticketId : Uuid} {anchor : Int}
    {p : TicketCreate}
    (hQ : ∀ row : Ticket, db.tickets.lookup ticketId = none → row.closedAt = none →
      row.classificationStatus = .pending → row.organizationId = scope.organizationId →
      Q row { db with tickets := AList.insert ticketId row db.tickets })
    (hE : ∀ e, e ≠ closingViolation → E e) :
    Tx.wp (createTicket env scope ticketId anchor p) Q E db := by
  apply wp_createTicket_columns _ fun e he _ => hE e he
  intro row urgency slaDueAt hnew _ _ hcols _
  exact hQ row hnew (by rw [hcols]; rfl) (by rw [hcols]; rfl) (by rw [hcols]; rfl)

/-- What a commit of an update may write besides the ticket. -/
structure CommitsUpdate (db db' : Db) (ticketId : Uuid) (row : Ticket) : Prop where
  tickets : db'.tickets = db.tickets.modify ticketId fun _ => row
  frame : ∃ tickets classifications slaEvents, db' = { db with
    tickets := tickets, classifications := classifications, slaEvents := slaEvents }

/-- The commit of an update writes the assigned columns back over the stored row, or raises. -/
theorem wp_commitUpdate_keys {Q : Ticket → Db → Prop} {E : Raised → Prop} {ticketId : Uuid}
    {loaded : Ticket} {assigned : TicketColumns} {patch : TicketPatch} {d : UpdateDraws}
    (hQ : ∀ (current row : Ticket) (db' : Db), db.tickets.lookup ticketId = some current →
      row.toTicketColumns =
        TicketColumns.writeBack loaded.toTicketColumns assigned current.toTicketColumns →
      Ticket.foreignKeysOk db (some current.toTicketColumns) row.toTicketColumns = true →
      CommitsUpdate db db' ticketId row → Q row db')
    (hE : ∀ e, e ≠ closingViolation → e ≠ taxonomyViolation → E e)
    (hclosing : ∀ current : Ticket, db.tickets.lookup ticketId = some current →
      ¬ (TicketColumns.writeBack loaded.toTicketColumns assigned
        current.toTicketColumns).ClosedAtMatchesStatus → E closingViolation)
    (htaxonomy : ∀ current : Ticket, db.tickets.lookup ticketId = some current →
      ¬ (TicketColumns.writeBack loaded.toTicketColumns assigned
        current.toTicketColumns).ClassifiedHasTaxonomy → E taxonomyViolation) :
    Tx.wp (commitUpdate scope ticketId loaded assigned patch d) Q E db := by
  -- what follows the correction mark does not touch, and does not read, `classifications`
  have hwrite : ∀ classifications, Tx.wp
      (do
        let _ ← scope.getTicket ticketId
        let row ← flushTicket ticketId loaded.toTicketColumns assigned
        Tx.when (enteredResolvedOrClosed loaded.status patch.status)
          (recordResolved scope ticketId assigned.slaDueAt d)
        pure row) Q E { db with classifications := classifications } := by
    intro classifications
    rw [Tx.wp_bind]
    apply (looksUp_getOr404 _ _ _ _).wp _ fun e he => hE e (he _) (he _)
    intro _ _
    rw [Tx.wp_bind]
    apply wp_flushTicket_keys
    · intro current row hrow hcols hkeys
      simp only [recordResolved, Tx.wp_bind, Tx.wp_when, Tx.wp_store, Tx.wp_orRaise, Tx.wp_write,
        Tx.wp_pure]
      refine ⟨fun _ => ⟨fun slaEvents _ => ?_, fun _ => hE _ (by simp) (by simp)⟩, fun _ => ?_⟩
      · exact hQ current row _ hrow hcols hkeys ⟨rfl, _, _, _, rfl⟩
      · exact hQ current row _ hrow hcols hkeys ⟨rfl, _, _, db.slaEvents, rfl⟩
    · exact hE
    · exact hclosing
    · exact htaxonomy
  -- with the mark, or without
  unfold commitUpdate
  rw [Tx.wp_bind, Tx.wp_when]
  constructor
  · intro _
    unfold markHumanCorrected
    rw [Tx.wp_bind, Tx.wp_store, Tx.wp_write]
    exact hwrite _
  · intro _
    exact hwrite db.classifications

/-- The same, for those that ask about the tickets only. -/
theorem wp_commitUpdate {Q : Ticket → Db → Prop} {E : Raised → Prop} {ticketId : Uuid}
    {loaded : Ticket} {assigned : TicketColumns} {patch : TicketPatch} {d : UpdateDraws}
    (hQ : ∀ (current row : Ticket) (db' : Db), db.tickets.lookup ticketId = some current →
      row.toTicketColumns =
        TicketColumns.writeBack loaded.toTicketColumns assigned current.toTicketColumns →
      db'.tickets = db.tickets.modify ticketId (fun _ => row) → Q row db')
    (hE : ∀ e, e ≠ closingViolation → E e)
    (hclosing : ∀ current : Ticket, db.tickets.lookup ticketId = some current →
      ¬ (TicketColumns.writeBack loaded.toTicketColumns assigned
        current.toTicketColumns).ClosedAtMatchesStatus → E closingViolation) :
    Tx.wp (commitUpdate scope ticketId loaded assigned patch d) Q E db :=
  wp_commitUpdate_keys
    (fun current row db' hcurrent hcols _ hcommits => hQ current row db' hcurrent hcols hcommits.tickets)
    (fun e he _ => hE e he) hclosing (fun _ _ _ => hE _ (by simp))

/-- A patch that sets the taxonomy looks up the urgency, its own or the ticket's. -/
theorem resolveUpdate_taxonomy {loaded : Ticket} {patch : TicketPatch} {d : UpdateDraws}
    {assigned : TicketColumns}
    (h : Tx.exec (resolveUpdate env scope loaded patch d) db = (.ok assigned, db))
    (hsets : patch.setsTaxonomy = true) :
    ∃ urgencyId urgency slaDueAt, patch.urgencyId.or loaded.urgencyId = some urgencyId ∧
      Tx.exec (scope.getUrgencyLevel urgencyId) db = (.ok urgency, db) ∧
      Tx.exec (resolveSlaDueAt env scope.organizationId urgency loaded.createdAt) db =
        (.ok slaDueAt, db) ∧
      assigned.categoryId = patch.categoryId.or loaded.categoryId ∧
      assigned.urgencyId = some urgencyId ∧ assigned.slaDueAt = some slaDueAt := by
  obtain ⟨_, db₁, hagent, hrest⟩ := Tx.bind_ok.mp h
  obtain rfl := (looksUp_checkAgent _).same hagent
  simp only [assignTaxonomy, if_pos hsets] at hrest
  cases hu : patch.urgencyId.or loaded.urgencyId with
  | none => simp [hu] at hrest
  | some urgencyId =>
    simp only [hu] at hrest
    obtain ⟨urgency, db₂, hurgency, hrest⟩ := Tx.bind_ok.mp hrest
    obtain rfl := (looksUp_getOr404 _ _ _ _).same hurgency
    obtain ⟨slaDueAt, db₃, hdue, hassign⟩ := Tx.bind_ok.mp hrest
    obtain rfl := (looksUp_resolveSlaDueAt _ _ _).same hdue
    cases hassign
    exact ⟨urgencyId, urgency, slaDueAt, rfl, hurgency, hdue, rfl, rfl, rfl⟩

/-- A ticket that is classified stays one with a taxonomy: an update that sets a part of it takes the
    other part from the ticket. -/
theorem classifiedHasTaxonomy_assigned {loaded : Ticket} {patch : TicketPatch} {d : UpdateDraws}
    {assigned : TicketColumns}
    (h : Tx.exec (resolveUpdate env scope loaded patch d) db = (.ok assigned, db)) :
    assigned.ClassifiedHasTaxonomy := by
  obtain ⟨hassigned, hkept⟩ := resolveUpdate_ok h
  have hstatus : assigned.classificationStatus = loaded.classificationStatus := by
    rw [hassigned]
    unfold TicketPatch.assignStatus
    split <;> rfl
  rcases loaded.classified_has_taxonomy with hpending | ⟨hcategory, hurgency, hdue⟩
  · exact .inl (by rwa [hstatus])
  · refine .inr ?_
    cases hsets : patch.setsTaxonomy with
    | true =>
      obtain ⟨urgencyId, urgency, slaDueAt, -, -, -, hcategory', hurgency', hdue'⟩ :=
        resolveUpdate_taxonomy h hsets
      rw [hcategory', hurgency', hdue']
      refine ⟨?_, by simp, by simp⟩
      cases hc : patch.categoryId with
      | none => simpa [hc] using hcategory
      | some categoryId => simp
    | false =>
      obtain ⟨hcategory', hurgency', hdue'⟩ := hkept hsets
      rw [hcategory', hurgency', hdue']
      exact ⟨hcategory, hurgency, hdue⟩

/-- An update with nobody in between writes what it has assigned over what it has loaded, or
    raises, but neither the closing nor the taxonomy violation. -/
theorem wp_updateTicket {Q : Ticket → Db → Prop} {E : Raised → Prop} {ticketId : Uuid}
    {patch : TicketPatch} {d : UpdateDraws}
    (hQ : ∀ (loaded row : Ticket) (assigned : TicketColumns) (db' : Db),
      db.tickets.lookup ticketId = some loaded → loaded.organizationId = scope.organizationId →
      Tx.exec (resolveUpdate env scope loaded patch d) db = (.ok assigned, db) →
      row.toTicketColumns =
        TicketColumns.writeBack loaded.toTicketColumns assigned loaded.toTicketColumns →
      Ticket.foreignKeysOk db (some loaded.toTicketColumns) row.toTicketColumns = true →
      CommitsUpdate db db' ticketId row → Q row db')
    (hE : ∀ e, e ≠ closingViolation → e ≠ taxonomyViolation → E e) :
    Tx.wp (updateTicket env scope ticketId patch d) Q E db := by
  have hlookup : ∀ e : Raised, (∀ k, e ≠ .integrityError k) → E e :=
    fun e he => hE e (he _) (he _)
  unfold updateTicket
  rw [Tx.wp_bind]
  apply (looksUp_loadTicket _ _).wp _ hlookup
  intro loaded hload
  obtain ⟨-, hloaded, hsees⟩ := loadTicket_ok hload
  have horg : loaded.organizationId = scope.organizationId := by
    simp only [OrgScope.selectsTicket, Bool.and_eq_true, decide_eq_true_eq] at hsees
    exact hsees.1
  rw [Tx.wp_bind]
  apply (looksUp_resolveUpdate _ _ _).wp _ hlookup
  intro assigned hresolve
  apply wp_commitUpdate_keys
  · intro current row db' hcurrent hcols hkeys hcommits
    obtain rfl : current = loaded := Option.some.inj (hcurrent.symm.trans hloaded)
    exact hQ current row assigned db' hcurrent horg hresolve hcols hkeys hcommits
  · exact hE
  · intro current hcurrent hviolated
    obtain rfl : current = loaded := Option.some.inj (hcurrent.symm.trans hloaded)
    -- over the row that was loaded, the two columns are written together
    refine absurd ?_ hviolated
    obtain ⟨hassigned, -⟩ := resolveUpdate_ok hresolve
    have hmatches : assigned.ClosedAtMatchesStatus := by
      rw [hassigned]
      exact closedAtMatches_assignStatus patch d.now current.closed_at_matches_status
    rw [TicketColumns.writeBack_loaded]
    exact hmatches
  · intro current hcurrent hviolated
    obtain rfl : current = loaded := Option.some.inj (hcurrent.symm.trans hloaded)
    rw [TicketColumns.writeBack_loaded] at hviolated
    exact absurd (classifiedHasTaxonomy_assigned hresolve) hviolated

end

end Helpdesk.Tickets
