import Helpdesk.Chat.Tools

/-! # Who sees a new ticket

`create_ticket` fills the columns of a row, and `TicketRepository.select()` decides by role who sees
it. Tenants see what they have reported, and staff see everything; owners see the tickets of their
properties only, and a ticket that they report need not be about one of these.

**`creator_sees_iff`**: the reporter of a ticket sees it, and a chat of theirs can escalate it, exactly
if they are no owner or the ticket is about a property of theirs. -/

namespace Helpdesk.Chat

open Tickets

/-- Who reports a ticket about this property, or about none, sees it. -/
def ReporterSees (scope : OrgScope) (db : Db) (propertyId : Option Uuid) : Prop :=
  scope.role = .owner → ∃ id property, propertyId = some id ∧
    db.properties.lookup id = some property ∧ property.ownerId = scope.userId

section
variable {env : Env} {scope : OrgScope} {db db' : Db}

/-- **Visibility** of a ticket to its reporter. -/
theorem selectsTicket_reported {t : Ticket} (horg : t.organizationId = scope.organizationId)
    (hreporter : t.userId = scope.userId) :
    scope.selectsTicket db t = true ↔ ReporterSees scope db t.propertyId := by
  unfold OrgScope.selectsTicket OrgScope.roleSees ReporterSees
  cases hrole : scope.role with
  | tenant => simp [horg, hreporter]
  | agent => simp [horg]
  | admin => simp [horg]
  | owner =>
    cases hproperty : t.propertyId with
    | none => simp
    | some id =>
      cases hlookup : db.properties.lookup id with
      | none => simp [hlookup]
      | some property => simp [horg, hlookup]

/-- The repository finds a row exactly if the scope selects it. -/
theorem getTicket_ok_iff {ticketId : Uuid} {t : Ticket} (hrow : db.tickets.lookup ticketId = some t) :
    (Tx.exec (scope.getTicket ticketId) db).1 = .ok t ↔ scope.selectsTicket db t = true := by
  constructor
  · intro h
    exact (getOr404_ok.mp (Prod.ext h rfl)).2.2
  · intro hsees
    exact congrArg Prod.fst (getOr404_ok.mpr ⟨rfl, hrow, hsees⟩)

/-- A ticket that has been created is found by its creator if the creator sees it. -/
theorem getTicket_created_iff {ticketId : Uuid} {anchor : Int} {p : TicketCreate} {t : Ticket}
    {tickets : Tickets.Env} (h : Tx.exec (Tickets.createTicket tickets scope ticketId anchor p) db =
      (.ok t, db')) :
    (Tx.exec (scope.getTicket ticketId) db').1 = .ok t ↔ ReporterSees scope db p.propertyId := by
  have hspec : Tx.wp (Tickets.createTicket tickets scope ticketId anchor p)
      (fun row db' => (∃ slaDueAt, row.toTicketColumns = p.columns scope anchor slaDueAt) ∧
        db' = { db with tickets := AList.insert ticketId row db.tickets }) (fun _ => True) db :=
    wp_createTicket_columns (fun row _ slaDueAt _ _ _ hcols _ => ⟨⟨slaDueAt, hcols⟩, rfl⟩)
      fun _ _ _ => trivial
  obtain ⟨⟨slaDueAt, hcols⟩, rfl⟩ := Tx.wp_ok hspec h
  rw [getTicket_ok_iff (AList.lookup_insert _),
    selectsTicket_reported (by rw [hcols]; rfl) (by rw [hcols]; rfl), hcols]
  rfl

/-! ## Escalating

`escalate_to_human` takes the ticket of the session or files one, and then looks it up under the caller's scope. The
lookup is what an owner can fail. Every other error that may come is of another kind (`Found`), so it is enough
to follow the lookups. -/

/-- `e` is no `NotFoundError`. -/
def Found (e : Raised) : Prop := ∀ name id, e ≠ .notFound name id

theorem wp_flushTicket_found {id : Uuid} {loaded assigned : TicketColumns} :
    Tx.wp (flushTicket id loaded assigned) (fun _ _ => True) Found db := by
  unfold flushTicket
  rw [Tx.wp_bind, Tx.wp_store]
  split
  · rw [Tx.wp_raise]
    exact fun _ _ => by simp
  · simp [Tx.wp_bind, Found]

theorem wp_insertTicket_found {id : Uuid} {c : TicketColumns} :
    Tx.wp (insertTicket id c)
      (fun row db' => row.toTicketColumns = c ∧
        db' = { db with tickets := AList.insert id row db.tickets }) Found db := by
  cases h : Tx.exec (insertTicket id c) db with
  | mk out db' =>
    cases out with
    | ok row =>
      obtain ⟨hcols, -, hdb'⟩ := insertTicket_ok h
      exact (Tx.wp_of_ok h).mpr ⟨hcols, hdb'⟩
    | error e =>
      have hraises : Tx.wp (insertTicket id c) (fun _ _ => True) Found db := by
        unfold insertTicket
        simp [Tx.wp_bind, Found]
      exact (Tx.wp_of_error h).mpr (Tx.wp_error hraises h)

theorem wp_asNullableText {v : Json} :
    Tx.wp (asNullableText v) (fun _ db' => db' = db) Found db := by
  unfold asNullableText
  split
  · rw [Tx.wp_pure]
  · unfold argumentText
    rw [Tx.wp_map]
    split
    · rw [Tx.wp_ite, Tx.wp_raise, Tx.wp_pure]
      exact ⟨fun _ _ _ => by simp, fun _ => rfl⟩
    · rw [Tx.wp_raise]
      exact fun _ _ => by simp

/-- Without a property, a contract and an urgency nothing is looked up. -/
theorem createTicket_unplaced {tickets : Tickets.Env} {ticketId : Uuid} {anchor : Int}
    {p : TicketCreate} (hproperty : p.propertyId = none) (hcontract : p.contractId = none)
    (hurgency : p.urgencyId = none) :
    Tickets.createTicket tickets scope ticketId anchor p =
      insertTicket ticketId (p.columns scope anchor none) := by
  have hfetch : fetchUrgency scope p.categoryId p.urgencyId = pure none := by
    rw [hurgency]
    unfold fetchUrgency
    split
    next h => cases h
    · rfl
  unfold Tickets.createTicket
  rw [hfetch, hproperty, hcontract]
  simp only [fetchOptional, checkContract, checkTenant, resolveNewSlaDueAt, pure_bind]
  rw [hurgency]
  simp only [TicketCreate.columns, hproperty, hcontract, hurgency]

/-- A chat session of the scope's own user: it has no ticket, or one that the user has reported. -/
structure OwnSession (scope : OrgScope) (db : Db) (chatSessionId : Uuid) (chatSession : ChatSession) :
    Prop where
  organization : scope.organizationId ∈ db.organizations
  member : scope.userId ∈ db.users
  stored : db.chatSessions.lookup chatSessionId = some chatSession
  inOrganization : chatSession.organizationId = scope.organizationId
  own : chatSession.userId = some scope.userId
  reported : ∀ id, chatSession.ticketId = some id → ∃ t, db.tickets.lookup id = some t ∧
    t.organizationId = scope.organizationId ∧ t.userId = scope.userId

/-- The property that the ticket of an escalation is about. -/
def escalatedProperty (db : Db) (chatSession : ChatSession) : Option Uuid :=
  (chatSession.ticketId.bind db.tickets.lookup).bind (·.propertyId)

/-- The ticket that a session of the user's own escalates is theirs. -/
theorem wp_escalationTicket {chatSessionId : Uuid} {chatSession : ChatSession} {d : ToolDraws}
    {reason : Json}
    (hreported : ∀ id, chatSession.ticketId = some id → ∃ t, db.tickets.lookup id = some t ∧
      t.organizationId = scope.organizationId ∧ t.userId = scope.userId) :
    Tx.wp (escalationTicket env ⟨scope, chatSessionId⟩ d reason chatSession)
      (fun escalated db' => db'.properties = db.properties ∧
        ∃ t, db'.tickets.lookup escalated.1 = some t ∧ t.organizationId = scope.organizationId ∧
          t.userId = scope.userId ∧ t.propertyId = escalatedProperty db chatSession)
      Found db := by
  unfold escalationTicket escalatedProperty
  cases hlinked : chatSession.ticketId with
  | some ticketId =>
    obtain ⟨t, hrow, horg, hreporter⟩ := hreported ticketId hlinked
    dsimp only
    rw [Tx.wp_pure]
    exact ⟨rfl, t, hrow, horg, hreporter, by simp [hrow]⟩
  | none =>
    dsimp only
    rw [Tx.wp_bind, Tx.wp_store, Tx.wp_bind]
    apply Tx.wp_mono wp_asNullableText
    · rintro description _ rfl
      rw [Tx.wp_bind, createTicket_unplaced rfl rfl rfl]
      apply Tx.wp_mono wp_insertTicket_found
      · rintro row _ ⟨hcols, rfl⟩
        rw [Tx.wp_bind, wp_raiseConstraint]
        refine ⟨fun linked _ => ?_, fun k _ => by simp [Found]⟩
        rw [Tx.wp_pure]
        exact ⟨rfl, row, AList.lookup_insert _, by rw [hcols]; rfl, by rw [hcols]; rfl,
          by rw [hcols]; rfl⟩
      · exact fun e he => he
    · exact fun e he => he

/-- A chat of the user's own escalates without a `NotFoundError` if the user sees the ticket. -/
theorem wp_escalateToHuman_found {chatSessionId : Uuid} {chatSession : ChatSession} {d : ToolDraws}
    {reason : Json} (h : OwnSession scope db chatSessionId chatSession)
    (hsees : ReporterSees scope db (escalatedProperty db chatSession)) :
    Tx.wp (escalateToHuman env ⟨scope, chatSessionId⟩ d reason) (fun _ _ => True) Found db := by
  unfold escalateToHuman getChatSession
  rw [Tx.wp_bind, wp_getOr404_of_row h.stored (by simp [h.inOrganization])]
  dsimp only
  split
  next hanonymous =>
    rw [h.own] at hanonymous
    cases hanonymous
  rw [Tx.wp_bind]
  refine Tx.wp_mono (wp_escalationTicket ?_) ?_ ?_
  · exact h.reported
  · rintro ⟨ticketId, escalated⟩ db₁ ⟨hproperties, t, hrow, horg, hreporter, hproperty⟩
    dsimp only at hrow ⊢
    have hvisible : scope.selectsTicket db₁ t = true := by
      rw [selectsTicket_reported horg hreporter, hproperty]
      unfold ReporterSees
      rw [hproperties]
      exact hsees
    unfold OrgScope.getTicket
    rw [Tx.wp_bind, wp_getOr404_of_row hrow hvisible, Tx.wp_bind]
    apply Tx.wp_mono wp_flushTicket_found
    · intro _ _ _
      simp [setChatSession]
    · exact fun e he => he
  · exact fun e he => he

/-- A ticket without a place can be created under a new id. -/
theorem insertTicket_unplaced {ticketId : Uuid} (anchor : Int) (p : TicketCreate)
    (horg : scope.organizationId ∈ db.organizations) (huser : scope.userId ∈ db.users)
    (hfresh : db.tickets.lookup ticketId = none) (htitle : Text.btrim p.title ≠ "")
    (hproperty : p.propertyId = none) (hcontract : p.contractId = none)
    (hurgency : p.urgencyId = none) (hcategory : ∀ id, p.categoryId = some id → id ∈ db.categories) :
    ∃ row db', Tx.exec (insertTicket ticketId (p.columns scope anchor none)) db = (.ok row, db') := by
  have hcheck : ∃ row, Ticket.check (p.columns scope anchor none) = .ok row := by
    unfold Ticket.check
    rw [dif_pos (by simp [TicketColumns.ClassifiedHasTaxonomy, TicketCreate.columns]),
      dif_pos (by simp [TicketColumns.ClosedAtMatchesStatus, TicketCreate.columns]),
      dif_pos (by simpa [TicketColumns.TitleNotBlank, TicketCreate.columns] using htitle)]
    exact ⟨_, rfl⟩
  obtain ⟨row, hrow⟩ := hcheck
  have hkeys : Ticket.foreignKeysOk db none (p.columns scope anchor none) = true := by
    have hcategoryKey : foreignKeyOk db.categories none p.categoryId = true := by
      cases hid : p.categoryId with
      | none => simp [foreignKeyOk]
      | some id => simp [foreignKeyOk, hcategory id hid]
    simp [Ticket.foreignKeysOk, foreignKeyOk, TicketCreate.columns, horg, huser, hproperty,
      hcontract, hurgency]
    simpa [foreignKeyOk] using hcategoryKey
  refine ⟨row, { db with tickets := AList.insert ticketId row db.tickets }, ?_⟩
  simp [insertTicket, hrow, hkeys, Table.insertNew_of_fresh row hfresh, Except.map]

/-- The ticket to escalate is there: no error comes before the lookup. -/
theorem escalationTicket_ok {chatSessionId : Uuid} {chatSession : ChatSession} (d : ToolDraws)
    (horg : scope.organizationId ∈ db.organizations) (huser : scope.userId ∈ db.users)
    (hown : chatSession.userId ≠ none) (hfresh : db.tickets.lookup d.ticketId = none) :
    ∃ out db', Tx.exec (escalationTicket env ⟨scope, chatSessionId⟩ d .null chatSession) db =
      (.ok out, db') := by
  unfold escalationTicket
  cases hlinked : chatSession.ticketId with
  | some ticketId => exact ⟨_, _, rfl⟩
  | none =>
    dsimp only
    have hcategory : ∀ id, findGeneralCategoryId env ⟨scope, chatSessionId⟩ db = some id →
        id ∈ db.categories := by
      intro id h
      unfold findGeneralCategoryId at h
      obtain ⟨row, hrow, rfl⟩ := Option.map_eq_some_iff.mp h
      have hmem := List.mem_of_find?_eq_some hrow
      exact Table.mem_iff_lookup.mpr ⟨row.2, (Table.mem_select.mp hmem).1⟩
    have htitle : Text.btrim "Chat escalation" ≠ "" := by decide
    obtain ⟨row, db', hinsert⟩ := insertTicket_unplaced d.anchor
      ⟨none, none, "Chat escalation", none, findGeneralCategoryId env ⟨scope, chatSessionId⟩ db, none,
        chatSession.channel⟩ horg huser hfresh htitle rfl rfl rfl hcategory
    have hlink : ∃ linked, chatSession.link d.ticketId = .ok linked := by
      unfold ChatSession.link
      rw [dif_pos hown]
      exact ⟨_, rfl⟩
    obtain ⟨linked, hlink⟩ := hlink
    refine ⟨(d.ticketId, linked), db', ?_⟩
    simp only [Tx.exec_bind, Tx.exec_store, asNullableText, Tx.exec_pure]
    rw [createTicket_unplaced rfl rfl rfl, hinsert]
    simp [hlink]

/-- A chat of the user's own that escalates a ticket which the user does not see raises. -/
theorem escalateToHuman_notFound {chatSessionId : Uuid} {chatSession : ChatSession}
    (h : OwnSession scope db chatSessionId chatSession)
    (hhidden : ¬ ReporterSees scope db (escalatedProperty db chatSession)) :
    ∃ d ticketId, (Tx.exec (escalateToHuman env ⟨scope, chatSessionId⟩ d .null) db).1 =
      .error (.notFound "Ticket" (some ticketId)) := by
  obtain ⟨newId, hfresh⟩ := Table.exists_fresh db.tickets
  let d : ToolDraws := ⟨0, 0, newId, fun _ => 0⟩
  refine ⟨d, ?_⟩
  suffices hraises : Tx.wp (escalateToHuman env ⟨scope, chatSessionId⟩ d .null) (fun _ _ => False)
      (fun e => ∃ ticketId, e = .notFound "Ticket" (some ticketId)) db by
    cases hexec : Tx.exec (escalateToHuman env ⟨scope, chatSessionId⟩ d .null) db with
    | mk out db' =>
      cases out with
      | ok result => exact ((Tx.wp_of_ok hexec).mp hraises).elim
      | error e =>
        obtain ⟨ticketId, rfl⟩ := (Tx.wp_of_error hexec).mp hraises
        exact ⟨ticketId, rfl⟩
  unfold escalateToHuman getChatSession
  rw [Tx.wp_bind, wp_getOr404_of_row h.stored (by simp [h.inOrganization])]
  dsimp only
  split
  next hanonymous =>
    rw [h.own] at hanonymous
    cases hanonymous
  rw [Tx.wp_bind]
  -- the ticket is there, and then it is looked up under the scope
  refine Tx.wp_of_returns (escalationTicket_ok d h.organization h.member ?_ hfresh)
    (wp_escalationTicket ?_) ?_
  · simp [h.own]
  · exact h.reported
  · rintro ⟨ticketId, escalated⟩ db₁ ⟨hproperties, t, hrow, horg, hreporter, hproperty⟩
    dsimp only at hrow ⊢
    have hinvisible : scope.selectsTicket db₁ t = false := by
      rw [← Bool.not_eq_true, selectsTicket_reported horg hreporter, hproperty]
      unfold ReporterSees
      rw [hproperties]
      exact hhidden
    unfold OrgScope.getTicket
    rw [Tx.wp_bind, wp_getOr404_of_hidden hrow hinvisible]
    exact ⟨ticketId, rfl⟩

end

/-! ## The law

Both parts ask the same of the scope: that its user is no owner, or owns the property. For the chat the property is
that of the session's ticket, and a new ticket has none. -/

/-- **Creators and their tickets**: whoever creates a ticket finds it afterwards, and their own chat
    escalates without a `NotFoundError`, exactly if they are no owner or the ticket is about a
    property of theirs. -/
theorem creator_sees_iff (env : Env) (scope : OrgScope) (db : Db) :
    (∀ ticketId anchor p ticket db',
      Tx.exec (Tickets.createTicket env.toEnv scope ticketId anchor p) db = (.ok ticket, db') →
      ((Tx.exec (scope.getTicket ticketId) db').1 = .ok ticket ↔
        ReporterSees scope db p.propertyId)) ∧
    ∀ chatSessionId chatSession, OwnSession scope db chatSessionId chatSession →
      ((∀ d reason name id, (Tx.exec (escalateToHuman env ⟨scope, chatSessionId⟩ d reason) db).1 ≠
          .error (.notFound name id)) ↔
        ReporterSees scope db (escalatedProperty db chatSession)) := by
  refine ⟨fun ticketId anchor p ticket db' h => getTicket_created_iff h, ?_⟩
  intro chatSessionId chatSession h
  constructor
  · intro hnever
    by_contra hhidden
    have hraises : ∃ d ticketId, (Tx.exec (escalateToHuman env ⟨scope, chatSessionId⟩ d .null) db).1 =
        .error (.notFound "Ticket" (some ticketId)) := escalateToHuman_notFound h hhidden
    obtain ⟨d, ticketId, hraises⟩ := hraises
    exact hnever d .null _ _ hraises
  · intro hsees d reason name id hraises
    cases hexec : Tx.exec (escalateToHuman env ⟨scope, chatSessionId⟩ d reason) db with
    | mk out db' =>
      rw [hexec] at hraises
      obtain rfl : out = .error (.notFound name id) := hraises
      exact Tx.wp_error (wp_escalateToHuman_found h hsees) hexec name id rfl

/-! ## A tenant and an owner

The tenant's ticket is about no property, and still theirs. The owner's is out of their sight at once. -/

/-- No zone and no JSON is needed here. -/
def visibilityEnv : Env where
  zoneInfo := fun _ => none
  lower := id
  loads := fun _ => none
  str := fun _ => ""

def freshSession (userId : Uuid) : ChatSession where
  organizationId := 1
  userId := some userId
  ticketId := none
  status := .active
  lowConfidenceStreak := 0
  lastActivityAt := days 739000
  channel := .web
  escalatedAt := none
  channelMetadata := none
  ticket_requires_user := .inl rfl

/-- A tenant `10` and an owner `12`, each with a chat session. -/
def visibilityDb : Db :=
  { Db.empty with
    organizations := AList.insert 1 ⟨"widget-1", none, none, "UTC", []⟩ ∅
    users :=
      AList.insert 10 ⟨some 1, "Tenant", "tenant@example.com", .tenant, none, .active, none⟩
        (AList.insert 12 ⟨some 1, "Owner", "owner@example.com", .owner, none, .active, none⟩ ∅)
    chatSessions := AList.insert 40 (freshSession 10) (AList.insert 42 (freshSession 12) ∅) }

def visibilityDraws : ToolDraws := ⟨days 739000, days 739000, 50, fun n => 60 + n⟩

/-- The tenant's chat escalates. -/
theorem creator_sees_iff_tenant :
    ∀ d reason name id, (Tx.exec (escalateToHuman visibilityEnv ⟨⟨1, 10, .tenant⟩, 40⟩ d reason)
      visibilityDb).1 ≠ .error (.notFound name id) := by
  have hsession : OwnSession ⟨1, 10, .tenant⟩ visibilityDb 40 (freshSession 10) :=
    { organization := by decide
      member := by decide
      stored := by decide
      inOrganization := rfl
      own := rfl
      reported := fun id h => by cases h }
  have hsees : ReporterSees ⟨1, 10, .tenant⟩ visibilityDb none := fun h => by cases h
  exact ((creator_sees_iff visibilityEnv ⟨1, 10, .tenant⟩ visibilityDb).2 40 _ hsession).mpr hsees

/-- What an owner writes without naming a property. -/
def ownerTicket : TicketCreate := ⟨none, none, "Roof", none, none, none, .web⟩

def createOwnerTicket : Service Ticket :=
  Tickets.createTicket visibilityEnv.toEnv ⟨1, 12, .owner⟩ 50 (days 739000) ownerTicket

/-- The owner creates a ticket and does not find it, and the owner's chat cannot escalate. -/
theorem owner_not_found :
    (Tx.exec createOwnerTicket visibilityDb).1.isOk = true ∧
    (Tx.exec (OrgScope.getTicket ⟨1, 12, .owner⟩ 50) (Tx.exec createOwnerTicket visibilityDb).2).1 =
      .error (.notFound "Ticket" (some 50)) ∧
    (Tx.exec (escalateToHuman visibilityEnv ⟨⟨1, 12, .owner⟩, 42⟩ visibilityDraws (.str "Help"))
      visibilityDb).1.map (fun _ => ()) = .error (.notFound "Ticket" (some 50)) := by
  refine ⟨by decide +kernel, by decide +kernel, by decide +kernel⟩

end Helpdesk.Chat
