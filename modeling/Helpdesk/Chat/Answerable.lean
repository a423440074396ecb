import Helpdesk.Chat.Turn
import Helpdesk.Chat.Visibility

/-! # The tool calls that a handler answers

A handler returns to the model what it has found, and an exception of it ends the turn. `Answerable` is the
condition under which each of the four returns, on what is stored when it is called:

* `check_ticket_status` binds its argument to a UUID column as it comes, so the text has to be one that the
  column takes; whether there is such a ticket does not matter;
* `create_ticket` needs two texts that fit their columns, unless it only asks which contract is meant;
* `schedule_visit` needs a ticket that the caller still sees, if the id is the one of the linked ticket;
* `escalate_to_human` needs a ticket that it may set to `escalated`, or one that it may file.

**Key results**: `completes_checkTicketStatus`, `completes_createTicket`, `completes_scheduleVisit` and
`completes_escalateToHuman`, each an equivalence. -/

namespace Helpdesk.Chat

open Tx

/-! ## The calls

What a model that keeps to the tool's JSON schema sends: an object with the required fields, each of them a
text. Other fields may be there or not. -/

/-- The fields that the schema of a tool requires. -/
def requiredFields (name : String) : List String :=
  if name = "check_ticket_status" then ["ticket_id"]
  else if name = "create_ticket" then ["title", "description"]
  else if name = "schedule_visit" then ["ticket_id", "preferred_date"]
  else if name = "escalate_to_human" then ["reason"]
  else []

def optionalFields (name : String) : List String :=
  if name = "schedule_visit" then ["notes"] else []

/-- `tool_call.function.arguments or "{}"` -/
def argumentsText (call : ToolCall) : String := if call.arguments = "" then "\x7b\x7d" else call.arguments

/-- A call of a tool that is offered, with an object of strings that has the tool's required fields. -/
structure WellFormedCall (env : Env) (offered : List String) (call : ToolCall) (items : JsonObject) : Prop where
  offered : call.name ∈ offered
  loads : env.loads (argumentsText call) = some (.obj items)
  required : ∀ field ∈ requiredFields call.name, ∃ s, items.lookup field = some (.str s)
  strings : ∀ field v, items.lookup field = some v → ∃ s, v = .str s

/-! ## The conditions

The four clauses of `Answerable` are about different tools, and each is guarded by the name. `CanEscalate` is
also what an automatic escalation needs. -/

/-- The session can be handed off: it is anonymous, or its ticket is visible to the caller and not closed, or it
    has none, the reason can be stored with a new one, and the caller is no owner. -/
def CanEscalate (ctx : ToolContext) (db : Db) (reason : String) : Prop :=
  ∀ s, db.chatSessions.lookup ctx.chatSessionId = some s → s.userId ≠ none →
    match s.ticketId with
    | some ticketId => ∃ t, db.tickets.lookup ticketId = some t ∧ ctx.scope.selectsTicket db t = true ∧
        t.status ≠ .closed
    | none => hasNul reason = false ∧ ctx.scope.role ≠ .owner

/-- What a call needs in order to be answered. -/
structure Answerable (env : Env) (ctx : ToolContext) (db : Db) (name : String) (items : JsonObject) : Prop where
  /-- the handler takes no other keyword -/
  fields : ∀ item ∈ items, item.1 ∈ requiredFields name ++ optionalFields name
  checkTicketStatus : name = "check_ticket_status" → ∀ s, items.lookup "ticket_id" = some (.str s) →
    bindUuid s ≠ none
  createTicket : name = "create_ticket" → ∀ title description contractId contract,
    items.lookup "title" = some (.str title) → items.lookup "description" = some (.str description) →
    activeContractsForCaller ctx db = [(contractId, contract)] →
    (hasNul title = false ∧ hasNul description = false) ∧ Text.btrim title ≠ "" ∧
      ∃ p, db.properties.lookup contract.propertyId = some p ∧ p.deletedAt = none
  scheduleVisit : name = "schedule_visit" → ∀ s preferredDate chatSession ticketId,
    items.lookup "ticket_id" = some (.str s) → items.lookup "preferred_date" = some (.str preferredDate) →
    db.chatSessions.lookup ctx.chatSessionId = some chatSession → chatSession.ticketId = some ticketId →
    parseUuid s = some ticketId →
    hasNul (visitNote env (.str preferredDate) ((items.lookup "notes").getD .null)) = false ∧
      ∃ t, db.tickets.lookup ticketId = some t ∧ ctx.scope.selectsTicket db t = true
  escalateToHuman : name = "escalate_to_human" → ∀ reason, items.lookup "reason" = some (.str reason) →
    CanEscalate ctx db reason

/-! ## What the turn relies on

A caller's session is there for the whole turn, and its keys are drawn at random. These are premises, and the
turn keeps them. -/

/-- The session is found under the scope; for an identified one, the scope is that of a stored user. -/
structure Hosts (ctx : ToolContext) (db : Db) : Prop where
  found : ∃ s, db.chatSessions.lookup ctx.chatSessionId = some s ∧
    s.organizationId = ctx.scope.organizationId ∧
    (s.userId ≠ none → ctx.scope.organizationId ∈ db.organizations ∧ ctx.scope.userId ∈ db.users)

/-- The keys that are drawn for a tool are new. -/
structure NewKeys (d : ToolDraws) (db : Db) : Prop where
  ticketId : db.tickets.lookup d.ticketId = none
  messageIds : ∀ i, db.messages.lookup (d.messageIds i) = none
  distinct : ∀ i j, d.messageIds i = d.messageIds j → i = j

/-! ## Texts that are not blank

Postgres' `btrim` removes blanks at both ends and nothing else, so a text with any other character in it is not
blank. The note of a visit begins with a word of its own. -/

theorem mem_dropWhile {p : Char → Bool} {cs : List Char} {c : Char} (hmem : c ∈ cs) (hc : p c = false) :
    c ∈ cs.dropWhile p := by
  induction cs with
  | nil => cases hmem
  | cons d cs ih =>
    rw [List.dropWhile_cons]
    split
    next hd =>
      rcases List.mem_cons.mp hmem with rfl | hmem
      · rw [hc] at hd
        cases hd
      · exact ih hmem
    · exact hmem

theorem btrim_ne {s : String} {c : Char} (hmem : c ∈ s.toList) (hc : c ≠ ' ') : Text.btrim s ≠ "" := by
  have hkept : c ∈ Text.stripChars (· == ' ') s.toList := by
    unfold Text.stripChars
    rw [List.mem_reverse]
    apply mem_dropWhile _ (by simpa using hc)
    rw [List.mem_reverse]
    exact mem_dropWhile hmem (by simpa using hc)
  intro h
  rw [Text.btrim, ← String.toList_inj, String.toList_ofList] at h
  rw [h] at hkept
  cases hkept

theorem visitNote_not_blank (env : Env) (preferredDate notes : Json) :
    Text.btrim (visitNote env preferredDate notes) ≠ "" := by
  have hfirst : 'V' ∈ "Visitor requested a visit for ".toList := by decide +kernel
  apply btrim_ne _ (by decide : 'V' ≠ ' ')
  unfold visitNote
  simp only [String.toList_append, List.mem_append]
  exact .inl (.inl (.inl hfirst))

/-! ## The handlers

Each handler is executed up to the first step that can fail, one step after the other. A step that cannot fail
is replaced by what it returns (`completes_bind_of_ok`); where one can fail, the condition is split on it. -/

section
variable {env : Env} {ctx : ToolContext} {db db' : Db} {d : ToolDraws}

theorem completes_checkTicketStatus {s : String} :
    Completes (checkTicketStatus ctx (.str s)) db ↔ bindUuid s ≠ none := by
  have hargument : Completes (asUuid (.str s)) db ↔ bindUuid s ≠ none := completes_orRaise
  rw [← hargument]
  refine ⟨Completes.of_bind, ?_⟩
  rintro ⟨ticketId, db', h⟩
  unfold checkTicketStatus
  rw [completes_bind_of_ok h, completes_store_bind]
  split
  · exact completes_pure _ _
  · split
    · exact completes_pure _ _
    · exact completes_pure _ _

/-- A message is added to a ticket that exists. -/
theorem exec_addMessage {id ticketId : Uuid} (authorType : AuthorType) {content : String}
    (hcontent : Text.btrim content ≠ "") (hfresh : db.messages.lookup id = none) (hticket : ticketId ∈ db.tickets) :
    ∃ row, exec (addMessage id ticketId authorType content) db =
      (.ok (), { db with messages := AList.insert id row db.messages }) := by
  refine ⟨⟨ticketId, authorType, content, false, none, hcontent⟩, ?_⟩
  simp [addMessage, insertMessage, hcontent, Table.insertNew_of_fresh _ hfresh, hticket]

theorem exec_addMessages {messageIds : Nat → Uuid} {ticketId : Uuid} {items : List (AuthorType × String)}
    {n : Nat} (hcontents : ∀ item ∈ items, Text.btrim item.2 ≠ "") (hticket : ticketId ∈ db.tickets)
    (hfresh : ∀ i, n ≤ i → db.messages.lookup (messageIds i) = none)
    (hdistinct : ∀ i j, messageIds i = messageIds j → i = j) :
    ∃ messages, exec (addMessages messageIds ticketId n items) db = (.ok (), { db with messages := messages }) := by
  induction items generalizing n db with
  | nil => exact ⟨db.messages, rfl⟩
  | cons item items ih =>
    obtain ⟨row, hadd⟩ := exec_addMessage item.1 (hcontents item List.mem_cons_self)
      (hfresh n (Nat.le_refl n)) hticket
    have hrest : ∀ i, n + 1 ≤ i → (AList.insert (messageIds n) row db.messages).lookup (messageIds i) = none := by
      intro i hi
      rw [AList.lookup_insert_ne fun heq => by have := hdistinct i n heq; omega]
      exact hfresh i (by omega)
    obtain ⟨messages, hmessages⟩ := @ih { db with messages := AList.insert (messageIds n) row db.messages }
      (n + 1) (fun item hitem => hcontents item (List.mem_cons_of_mem _ hitem)) hticket hrest
    refine ⟨messages, ?_⟩
    show exec (addMessage _ _ _ _ >>= fun _ => addMessages messageIds ticketId (n + 1) items) db = _
    rw [exec_bind, hadd]
    exact hmessages

/-- The rows that are copied are not blank: a visitor's message is stored only if it is not. -/
theorem exec_copyChatMessagesToTicket {ticketId : Uuid} (hticket : ticketId ∈ db.tickets)
    (hfresh : ∀ i, db.messages.lookup (d.messageIds i) = none)
    (hdistinct : ∀ i j, d.messageIds i = d.messageIds j → i = j) :
    ∃ messages, exec (copyChatMessagesToTicket ctx d.messageIds ticketId) db =
      (.ok (), { db with messages := messages }) := by
  unfold copyChatMessagesToTicket
  rw [exec_bind, exec_store]
  apply exec_addMessages _ hticket (fun i _ => hfresh i) hdistinct
  intro item hitem
  rcases List.mem_append.mp hitem with hitem | hitem
  · obtain ⟨row, hrow, rfl⟩ := List.mem_map.mp hitem
    have hrole : row.2.role = .user := by simpa using (List.mem_filter.mp hrow).2
    exact row.2.content_not_blank_unless_assistant.resolve_left (by simp [hrole])
  · rw [List.mem_singleton.mp hitem]
    show Text.btrim chatOriginNote ≠ ""
    decide +kernel

/-- A new row is inserted if its title is not blank. -/
theorem insertTicket_iff {ticketId : Uuid} {c : TicketColumns} (htaxonomy : c.ClassifiedHasTaxonomy)
    (hclosed : c.ClosedAtMatchesStatus) (hkeys : Ticket.foreignKeysOk db none c = true)
    (hfresh : db.tickets.lookup ticketId = none) :
    (Text.btrim c.title ≠ "" → ∃ row, exec (insertTicket ticketId c) db =
        (.ok row, { db with tickets := AList.insert ticketId row db.tickets })) ∧
      (Completes (insertTicket ticketId c) db → Text.btrim c.title ≠ "") := by
  constructor
  · intro htitle
    refine ⟨⟨c, htaxonomy, hclosed, htitle⟩, ?_⟩
    simp [insertTicket, Ticket.check_of htaxonomy hclosed htitle, hkeys, Table.insertNew_of_fresh _ hfresh,
      Except.map]
  · rintro ⟨row, db', h⟩
    obtain ⟨rfl, -⟩ := insertTicket_ok h
    exact row.title_not_blank

/-- `create_ticket` of the service, for an active contract of the caller's. -/
theorem createTicket_of_contract {tickets : Tickets.Env} {scope : OrgScope} {ticketId contractId : Uuid}
    {anchor : Int} {p : Tickets.TicketCreate} {contract : Contract} {property : Property}
    (hproperty : exec (scope.getProperty contract.propertyId) db = (.ok property, db))
    (hcontract : exec (scope.getContract contractId) db = (.ok contract, db)) (hactive : contract.status = .active)
    (htenant : contract.tenantId = scope.userId) (hp : p.propertyId = some contract.propertyId)
    (hc : p.contractId = some contractId) (hcategory : p.categoryId = none) (hurgency : p.urgencyId = none) :
    exec (Tickets.createTicket tickets scope ticketId anchor p) db =
      exec (insertTicket ticketId (p.columns scope anchor none)) db := by
  unfold Tickets.createTicket Tickets.TicketCreate.columns
  rw [hp, hc, hcategory, hurgency]
  simp [Tickets.fetchOptional, hproperty, hcontract, Tickets.checkContract, hactive, Tickets.fetchUrgency,
    Tickets.checkTenant, htenant, Tickets.resolveNewSlaDueAt]

theorem exec_argumentText {s : String} (h : hasNul s = false) : exec (argumentText (.str s)) db = (.ok s, db) := by
  simp [argumentText, h]

theorem argumentText_ok {s t : String} (h : exec (argumentText (.str s)) db = (.ok t, db')) :
    hasNul s = false ∧ t = s ∧ db' = db := by
  unfold argumentText at h
  rw [exec_ite] at h
  split at h
  · cases h
  next hno =>
    cases h
    exact ⟨by simpa using hno, rfl, rfl⟩

theorem exec_asNullableText {s : String} (h : hasNul s = false) :
    exec (asNullableText (.str s)) db = (.ok (some s), db) := by
  simp [asNullableText, exec_argumentText h, Except.map]

theorem asNullableText_ok {s : String} {out : Option String}
    (h : exec (asNullableText (.str s)) db = (.ok out, db')) : hasNul s = false := by
  cases hnul : hasNul s with
  | false => rfl
  | true => simp [asNullableText, argumentText, hnul, Except.map] at h

theorem exec_getChatSession {s : ChatSession} (hs : db.chatSessions.lookup ctx.chatSessionId = some s)
    (horg : s.organizationId = ctx.scope.organizationId) : exec (getChatSession ctx) db = (.ok s, db) :=
  getOr404_ok.mpr ⟨rfl, hs, by simpa using horg⟩

theorem link_of_identified {s : ChatSession} (huser : s.userId ≠ none) (ticketId : Uuid) :
    ∃ linked, s.link ticketId = .ok linked := by
  unfold ChatSession.link
  rw [dif_pos huser]
  exact ⟨_, rfl⟩

theorem completes_createTicket {s : ChatSession} (hs : db.chatSessions.lookup ctx.chatSessionId = some s)
    (horg : s.organizationId = ctx.scope.organizationId) (huser : s.userId ≠ none)
    (horganization : ctx.scope.organizationId ∈ db.organizations) (hmember : ctx.scope.userId ∈ db.users)
    (hkeys : NewKeys d db) {title description : String} :
    Completes (createTicket env ctx d (.str title) (.str description)) db ↔
      ∀ contractId contract, activeContractsForCaller ctx db = [(contractId, contract)] →
        (hasNul title = false ∧ hasNul description = false) ∧ Text.btrim title ≠ "" ∧ ∃ p, db.properties.lookup contract.propertyId = some p ∧ p.deletedAt = none := by
  unfold createTicket
  rw [completes_store_bind, completes_bind_of_ok (exec_getChatSession hs horg)]
  split
  next contractId contract hcontracts =>
    have hmem : (contractId, contract) ∈ activeContractsForCaller ctx db := by
      rw [hcontracts]
      exact List.mem_cons_self
    obtain ⟨hrow, hclause⟩ := Table.mem_select.mp hmem
    simp only [Bool.and_eq_true, decide_eq_true_eq] at hclause
    obtain ⟨⟨hselects, htenant⟩, hactive⟩ := hclause
    -- the contract that the caller has is found again under the scope
    have hcontract : exec (ctx.scope.getContract contractId) db = (.ok contract, db) :=
      getOr404_ok.mpr ⟨rfl, hrow, hselects⟩
    have hcondition : (∀ contractId' contract', activeContractsForCaller ctx db = [(contractId', contract')] →
        (hasNul title = false ∧ hasNul description = false) ∧ Text.btrim title ≠ "" ∧
          ∃ p, db.properties.lookup contract'.propertyId = some p ∧ p.deletedAt = none) ↔
        (hasNul title = false ∧ hasNul description = false) ∧ Text.btrim title ≠ "" ∧
          ∃ p, db.properties.lookup contract.propertyId = some p ∧ p.deletedAt = none := by
      rw [hcontracts]
      simp
    rw [hcondition]
    -- the two texts are bound first
    by_cases htext : hasNul title = false
    swap
    · refine iff_of_false (fun h => ?_) fun h => htext h.1.1
      obtain ⟨_, _, hbound⟩ := h.of_bind
      exact htext (argumentText_ok hbound).1
    by_cases hnullable : hasNul description = false
    swap
    · refine iff_of_false (fun h => ?_) fun h => hnullable h.1.2
      rw [completes_bind_of_ok (exec_argumentText htext)] at h
      obtain ⟨_, _, hbound⟩ := h.of_bind
      exact hnullable (asNullableText_ok hbound)
    rw [and_iff_right ⟨htext, hnullable⟩, completes_bind_of_ok (exec_argumentText htext),
      completes_bind_of_ok (exec_asNullableText hnullable)]
    by_cases hproperty : ∃ p, db.properties.lookup contract.propertyId = some p ∧ p.deletedAt = none
    · rw [and_iff_left hproperty]
      obtain ⟨p, hp, hlive⟩ := hproperty
      -- and so is its property, if it has not been deleted
      have hselected : ctx.scope.selectsProperty p = true := by
        unfold OrgScope.selectsContract at hselects
        rw [hp] at hselects
        simpa [OrgScope.selectsProperty, hlive] using hselects
      have hget : exec (ctx.scope.getProperty contract.propertyId) db = (.ok p, db) :=
        getOr404_ok.mpr ⟨rfl, hp, hselected⟩
      let fields : Tickets.TicketCreate :=
        ⟨some contract.propertyId, some contractId, title, some description, none, none, s.channel⟩
      have hcreate : exec (Tickets.createTicket env.toEnv ctx.scope d.ticketId d.anchor fields) db =
          exec (insertTicket d.ticketId (fields.columns ctx.scope d.anchor none)) db :=
        createTicket_of_contract hget hcontract hactive htenant rfl rfl rfl rfl
      obtain ⟨hinserts, htitled⟩ := insertTicket_iff (c := fields.columns ctx.scope d.anchor none)
        (.inl (by simp [Tickets.TicketCreate.columns]))
        (by simp [TicketColumns.ClosedAtMatchesStatus, Tickets.TicketCreate.columns])
        (by
          have hpkey : contract.propertyId ∈ db.properties := Table.mem_iff_lookup.mpr ⟨p, hp⟩
          have hckey : contractId ∈ db.contracts := Table.mem_iff_lookup.mpr ⟨contract, hrow⟩
          simp [Ticket.foreignKeysOk, foreignKeyOk, Tickets.TicketCreate.columns, fields, horganization, hmember,
            hpkey, hckey])
        hkeys.ticketId
      constructor
      · intro h
        obtain ⟨ticket, db₁, hcreated⟩ := h.of_bind
        rw [hcreate] at hcreated
        exact htitled ⟨ticket, db₁, hcreated⟩
      · intro htitle
        obtain ⟨row, hinsert⟩ := hinserts htitle
        rw [completes_bind_of_ok (hcreate.trans hinsert)]
        let db₁ : Db := { db with tickets := AList.insert d.ticketId row db.tickets }
        have hcopies : ∃ messages, exec (copyChatMessagesToTicket ctx d.messageIds d.ticketId) db₁ =
            (.ok (), { db₁ with messages := messages }) :=
          exec_copyChatMessagesToTicket (Table.mem_iff_lookup.mpr ⟨row, AList.lookup_insert _⟩) hkeys.messageIds
            hkeys.distinct
        obtain ⟨messages, hcopied⟩ := hcopies
        obtain ⟨linked, hlinked⟩ := link_of_identified huser d.ticketId
        rw [completes_bind_of_ok hcopied, hlinked, completes_bind_of_ok (exec_raiseConstraint_ok linked)]
        exact ⟨_, _, rfl⟩
    · -- a deleted property is not found
      refine iff_of_false ?_ fun h => hproperty h.2
      intro h
      obtain ⟨ticket, _, hcreated⟩ := h.of_bind
      obtain ⟨_, _, hfetched, -⟩ := Tx.bind_ok.mp hcreated
      obtain ⟨p, _, hget, -⟩ := Tx.bind_ok.mp hfetched
      obtain ⟨-, hp, hselected⟩ := getOr404_ok.mp hget
      simp only [OrgScope.selectsProperty, decide_eq_true_eq] at hselected
      exact hproperty ⟨p, hp, hselected.2⟩
  next contracts hcontracts =>
    -- no contract or several: the handler only asks which one
    refine iff_of_true (completes_pure _ _) fun contractId contract heq => ?_
    exact absurd heq (hcontracts contractId contract)

theorem completes_scheduleVisit {s : ChatSession} (hs : db.chatSessions.lookup ctx.chatSessionId = some s)
    (horg : s.organizationId = ctx.scope.organizationId) (hkeys : NewKeys d db) {ticketId : String}
    (preferredDate notes : Json) :
    Completes (scheduleVisit env ctx d (.str ticketId) preferredDate notes) db ↔
      ∀ linkedId, s.ticketId = some linkedId → parseUuid ticketId = some linkedId →
        hasNul (visitNote env preferredDate notes) = false ∧
          ∃ t, db.tickets.lookup linkedId = some t ∧ ctx.scope.selectsTicket db t = true := by
  unfold scheduleVisit
  rw [completes_bind_of_ok (exec_getChatSession hs horg)]
  split
  -- a session without a ticket gets an error object
  next hnone => exact iff_of_true (completes_pure _ _) (by simp [hnone])
  next linkedId hlinked =>
    have hvisit : exec (visitTicketId (.str ticketId)) db = (.ok (parseUuid ticketId), db) := rfl
    rw [completes_bind_of_ok hvisit]
    split
    -- and so does an id that is none
    next hinvalid => exact iff_of_true (completes_pure _ _) (by simp [hinvalid])
    next parsed hparsed =>
      split
      -- or that of another ticket
      next hne =>
        refine iff_of_true (completes_pure _ _) fun linkedId' hlinked' hparsed' => ?_
        rw [hlinked] at hlinked'
        rw [hparsed] at hparsed'
        exact absurd (Option.some.inj (hlinked'.trans hparsed'.symm)) hne
      -- the linked ticket is looked up, and the note is stored
      next heq =>
        obtain rfl : linkedId = parsed := not_not.mp heq
        constructor
        · intro h linkedId' hlinked' _
          obtain rfl := Option.some.inj (hlinked.symm.trans hlinked')
          obtain ⟨t, db₁, hget⟩ := h.of_bind
          obtain ⟨-, ht, hsees⟩ := getOr404_ok.mp hget
          rw [completes_bind_of_ok hget] at h
          obtain ⟨content, _, hbound⟩ := h.of_bind
          exact ⟨(argumentText_ok hbound).1, t, ht, hsees⟩
        · intro h
          obtain ⟨hstorable, t, ht, hsees⟩ := h linkedId hlinked hparsed
          have hget : exec (ctx.scope.getTicket linkedId) db = (.ok t, db) := getOr404_ok.mpr ⟨rfl, ht, hsees⟩
          obtain ⟨row, hadd⟩ := exec_addMessage .bot (visitNote_not_blank env preferredDate notes)
            (hkeys.messageIds 0) (Table.mem_iff_lookup.mpr ⟨t, ht⟩)
          rw [completes_bind_of_ok hget, completes_bind_of_ok (exec_argumentText hstorable),
            completes_bind_of_ok hadd]
          exact completes_pure _ _

/-- A status other than `closed` is flushed unless the ticket is closed. -/
theorem completes_flushStatus {ticketId : Uuid} {t : Ticket} (ht : db.tickets.lookup ticketId = some t)
    {status : TicketStatus} (hstatus : status ≠ .closed) :
    Completes (flushTicket ticketId t.toTicketColumns { t.toTicketColumns with status := status }) db ↔
      t.status ≠ .closed := by
  let c : TicketColumns := { t.toTicketColumns with status := status }
  have hcolumns : TicketColumns.writeBack t.toTicketColumns c t.toTicketColumns = c :=
    TicketColumns.writeBack_loaded _ _
  unfold flushTicket
  rw [completes_store_bind, ht]
  dsimp only
  rw [hcolumns]
  constructor
  · intro h hclosed
    obtain ⟨row, db₁, hcheck⟩ := h.of_bind
    obtain ⟨hrow, -⟩ := raiseConstraint_ok.mp hcheck
    have hmatches := row.closed_at_matches_status
    rw [Ticket.check_ok hrow] at hmatches
    exact hstatus (hmatches.mpr (t.closed_at_matches_status.mp hclosed))
  · intro hopen
    have hmatches : c.ClosedAtMatchesStatus :=
      iff_of_false hstatus fun hclosedAt => hopen (t.closed_at_matches_status.mpr hclosedAt)
    have hcheck : Ticket.check c = .ok ⟨c, t.classified_has_taxonomy, hmatches, t.title_not_blank⟩ :=
      Ticket.check_of _ _ _
    rw [hcheck, completes_bind_of_ok (exec_raiseConstraint_ok _),
      if_pos (by simp [Ticket.foreignKeysOk, foreignKeyOk, c])]
    exact ⟨_, _, rfl⟩

/-- What `escalate_to_human` does when it has the ticket. -/
theorem completes_escalate {ticketId : Uuid} {t : Ticket} (ht : db.tickets.lookup ticketId = some t)
    {chatSession : ChatSession} {result : JsonObject} :
    Completes (do
      let ticket ← ctx.scope.getTicket ticketId
      let _ ← flushTicket ticketId ticket.toTicketColumns { ticket.toTicketColumns with status := .escalated }
      setChatSession ctx chatSession
      pure result) db ↔ ctx.scope.selectsTicket db t = true ∧ t.status ≠ .closed := by
  by_cases hsees : ctx.scope.selectsTicket db t = true
  · have hget : exec (ctx.scope.getTicket ticketId) db = (.ok t, db) := getOr404_ok.mpr ⟨rfl, ht, hsees⟩
    rw [and_iff_right hsees, completes_bind_of_ok hget,
      ← completes_flushStatus ht (by decide : TicketStatus.escalated ≠ .closed)]
    refine ⟨Completes.of_bind, ?_⟩
    rintro ⟨row, db₁, hflush⟩
    rw [completes_bind_of_ok hflush]
    exact ⟨_, _, rfl⟩
  · refine iff_of_false (fun h => ?_) fun h => hsees h.1
    obtain ⟨t', db₁, hget⟩ := h.of_bind
    obtain ⟨-, ht', hsees'⟩ := getOr404_ok.mp hget
    obtain rfl := Option.some.inj (ht.symm.trans ht')
    exact hsees hsees'

theorem reporterSees_none {scope : OrgScope} : ReporterSees scope db none ↔ scope.role ≠ .owner := by
  unfold ReporterSees
  constructor
  · intro h hrole
    obtain ⟨_, _, hnone, -⟩ := h hrole
    cases hnone
  · exact fun hrole howner => absurd howner hrole

theorem exec_escalationTicket_linked {s : ChatSession} {ticketId : Uuid} {reason : Json}
    (hlinked : s.ticketId = some ticketId) :
    exec (escalationTicket env ctx d reason s) db = (.ok (ticketId, s), db) := by
  unfold escalationTicket
  rw [hlinked]
  rfl

/-- A ticket is created for a session that has none. -/
theorem exec_escalationTicket_new (env : Env) (ctx : ToolContext) (d : ToolDraws) {s : ChatSession} (hnone : s.ticketId = none) (huser : s.userId ≠ none)
    (horganization : ctx.scope.organizationId ∈ db.organizations) (hmember : ctx.scope.userId ∈ db.users)
    (hfresh : db.tickets.lookup d.ticketId = none) {reason : String} (hstorable : hasNul reason = false) :
    ∃ row linked, exec (escalationTicket env ctx d (.str reason) s) db =
        (.ok (d.ticketId, linked), { db with tickets := AList.insert d.ticketId row db.tickets }) ∧
      row.organizationId = ctx.scope.organizationId ∧ row.userId = ctx.scope.userId ∧
      row.propertyId = none ∧ row.status = .open := by
  let fields : Tickets.TicketCreate :=
    ⟨none, none, "Chat escalation", some reason, findGeneralCategoryId env ctx db, none, s.channel⟩
  have hcategory : ∀ id, fields.categoryId = some id → id ∈ db.categories := by
    intro id h
    obtain ⟨row, hrow, rfl⟩ := Option.map_eq_some_iff.mp h
    exact Table.mem_iff_lookup.mpr ⟨row.2, (Table.mem_select.mp (List.mem_of_find?_eq_some hrow)).1⟩
  obtain ⟨row, db₁, hinsert⟩ := insertTicket_unplaced d.anchor fields horganization hmember hfresh
    (by decide : Text.btrim "Chat escalation" ≠ "") rfl rfl rfl hcategory
  obtain ⟨hcolumns, -, rfl⟩ := insertTicket_ok hinsert
  obtain ⟨linked, hlink⟩ := link_of_identified huser d.ticketId
  have hreason : exec (asNullableText (.str reason)) db = (.ok (some reason), db) := exec_asNullableText hstorable
  have hcreate : exec (Tickets.createTicket env.toEnv ctx.scope d.ticketId d.anchor fields) db = _ :=
    (congrArg (fun x => exec x db) (createTicket_unplaced rfl rfl rfl)).trans hinsert
  refine ⟨row, linked, ?_, by rw [hcolumns]; rfl, by rw [hcolumns]; rfl, by rw [hcolumns]; rfl,
    by rw [hcolumns]; rfl⟩
  unfold escalationTicket
  rw [hnone]
  dsimp only
  rw [exec_bind, exec_store]
  dsimp only
  rw [exec_bind, hreason]
  dsimp only
  rw [exec_bind, hcreate]
  dsimp only
  rw [exec_bind, hlink]
  rfl

/-- The reason is stored with a new ticket. -/
theorem escalationTicket_storable {s : ChatSession} (hnone : s.ticketId = none) {reason : String}
    {r : Uuid × ChatSession} (h : exec (escalationTicket env ctx d (.str reason) s) db = (.ok r, db')) :
    hasNul reason = false := by
  unfold escalationTicket at h
  rw [hnone] at h
  obtain ⟨_, _, hstore, h⟩ := Tx.bind_ok.mp h
  cases hstore
  obtain ⟨_, _, hreason, -⟩ := Tx.bind_ok.mp h
  exact asNullableText_ok hreason

theorem completes_escalateToHuman (hhosts : Hosts ctx db) (hkeys : NewKeys d db) (reason : String) :
    Completes (escalateToHuman env ctx d (.str reason)) db ↔ CanEscalate ctx db reason := by
  obtain ⟨s, hs, horg, hidentified⟩ := hhosts.found
  have hcondition : CanEscalate ctx db reason ↔ (s.userId ≠ none →
      match s.ticketId with
      | some ticketId => ∃ t, db.tickets.lookup ticketId = some t ∧ ctx.scope.selectsTicket db t = true ∧
          t.status ≠ .closed
      | none => hasNul reason = false ∧ ctx.scope.role ≠ .owner) := by
    unfold CanEscalate
    simp only [hs, Option.some.injEq, forall_eq']
  rw [hcondition]
  unfold escalateToHuman
  rw [completes_bind_of_ok (exec_getChatSession hs horg)]
  dsimp only
  split
  -- an anonymous session is only stamped
  next hanonymous => exact iff_of_true ⟨_, _, rfl⟩ fun h => absurd hanonymous h
  next userId huser =>
    have huser' : s.userId ≠ none := by simp [huser]
    obtain ⟨horganization, hmember⟩ := hidentified huser'
    rw [imp_iff_right huser']
    split
    -- its ticket is escalated
    next ticketId hlinked =>
      rw [completes_bind_of_ok (exec_escalationTicket_linked
        (s := { s with escalatedAt := some (s.escalatedAt.getD d.now) }) hlinked)]
      dsimp only
      cases ht : db.tickets.lookup ticketId with
      | some t =>
        rw [completes_escalate ht]
        simp
      | none =>
        refine iff_of_false (fun h => ?_) (by simp)
        obtain ⟨t, _, hget⟩ := h.of_bind
        obtain ⟨-, ht', -⟩ := getOr404_ok.mp hget
        simp [ht] at ht'
    -- a ticket is filed with the reason, and looked up as the caller's
    next hnone =>
      by_cases hstorable : hasNul reason = false
      swap
      · refine iff_of_false (fun h => ?_) fun h => hstorable h.1
        obtain ⟨_, _, hnew⟩ := h.of_bind
        exact hstorable (escalationTicket_storable
          (s := { s with escalatedAt := some (s.escalatedAt.getD d.now) }) hnone hnew)
      rw [and_iff_right hstorable]
      obtain ⟨row, linked, hnew, hrowOrg, hrowUser, hproperty, hstatus⟩ :=
        exec_escalationTicket_new env ctx d
          (s := { s with escalatedAt := some (s.escalatedAt.getD d.now) }) hnone huser' horganization hmember
          hkeys.ticketId hstorable
      rw [completes_bind_of_ok hnew]
      dsimp only
      rw [completes_escalate (AList.lookup_insert _), selectsTicket_reported hrowOrg hrowUser, hproperty, hstatus,
        and_iff_left (by decide)]
      exact reporterSees_none

end

end Helpdesk.Chat
