import Helpdesk.Tickets.Messages
import Helpdesk.Tickets.Service

/-! # The chat tools

The handlers that the model of the chatbot may call. A handler works under the scope of the caller's
credential and on the row of the chat session; it answers with a JSON object for the model. Its
keyword arguments are whatever JSON the model has written, so each one is used as the handler uses
it, and one that does not fit raises where Python or the driver does.

`escalate_to_human` is the one that writes `tickets.status` without `update_ticket`. -/

namespace Helpdesk

/-- `chat_session.ticket_id = ticket_id`. -/
def ChatSession.link (chatSession : ChatSession) (ticketId : Uuid) : Except Constraint ChatSession :=
  if h : chatSession.userId ≠ none then
    .ok { chatSession with ticketId := some ticketId, ticket_requires_user := .inr h }
  else .error .chatSessionsTicketRequiresUser

theorem ChatSession.link_error {chatSession : ChatSession} {ticketId : Uuid} {k : Constraint}
    (h : chatSession.link ticketId = .error k) : k = .chatSessionsTicketRequiresUser := by
  unfold ChatSession.link at h
  split at h
  · cases h
  · cases h
    rfl

namespace Chat

/-- Functions that the chat takes from elsewhere. -/
structure Env extends Tickets.Env where
  /-- `json.loads` -/
  loads : String → Option Json
  /-- `str(v)` of a decoded value -/
  str : Json → String

/-- `ChatToolContext`, with the session by its id. -/
structure ToolContext where
  scope : OrgScope
  chatSessionId : Uuid
  deriving DecidableEq

/-- What a tool call reads from the clock and the random source. -/
structure ToolDraws where
  /-- `datetime.now(UTC)`, for `escalated_at` -/
  now : Int
  /-- the `created_at` of a new ticket -/
  anchor : Int
  ticketId : Uuid
  /-- the primary keys of the messages that are added, in order -/
  messageIds : Nat → Uuid

/-! ## Rows

The reads and writes that the handlers share. A row of the session is written as a whole; it is the flush at the
commit that compares it with what was loaded. -/

def getChatSession (ctx : ToolContext) : Service ChatSession :=
  getOr404 "ChatSession" (·.chatSessions)
    (fun _ s => s.organizationId = ctx.scope.organizationId) ctx.chatSessionId

/-- Flush the session row. -/
def setChatSession (ctx : ToolContext) (chatSession : ChatSession) : Service Unit := do
  let db ← Tx.store
  Tx.write { db with
    chatSessions := db.chatSessions.modify ctx.chatSessionId fun _ => chatSession }

/-- `session.add(Message(...))` of a message that refers to no suggestion. -/
def addMessage (id ticketId : Uuid) (authorType : AuthorType) (content : String) :
    Service Unit := do
  let _ ← insertMessage id ticketId authorType content none
  pure ()

/-- `ChatMessageRepository.list_for_session`: oldest first, the id as the tiebreak. -/
def listForSession (scope : OrgScope) (chatSessionId : Uuid) (db : Db) :
    List (Uuid × ChatMessage) :=
  let inScope := match db.chatSessions.lookup chatSessionId with
    | some s => decide (s.organizationId = scope.organizationId)
    | none => false
  (db.chatMessages.select fun _ m => decide (m.chatSessionId = chatSessionId) && inScope)
    |>.insertionSort fun r s =>
      r.2.createdAt < s.2.createdAt ∨ (r.2.createdAt = s.2.createdAt ∧ r.1 ≤ s.1)

/-! ## Arguments

What becomes of a JSON value where the handler uses it. A text with U+0000 in it is refused by the driver, and so is
a text for a UUID column that is none. -/

/-- `bool(v)`. -/
def truthy : Json → Bool
  | .null => false
  | .bool b => b
  | .int n => n ≠ 0
  | .float literal => literal.toList.any fun c => '1' ≤ c && c ≤ '9'
  | .str s => s ≠ ""
  | .arr items => ¬ items.isEmpty
  | .obj items => ¬ items.isEmpty

/-- A value for a `text` column. -/
def asText : Json → Service String
  | .str s => pure s
  | _ => Tx.raise .dataError

/-- PostgreSQL stores no `U+0000` in a text. -/
def hasNul (s : String) : Bool := s.toList.contains '\x00'

/-- An argument of a tool for a `text` column. The model writes it, and JSON has an escape for any character. -/
def argumentText : Json → Service String
  | .str s => if hasNul s then Tx.raise .dataError else pure s
  | _ => Tx.raise .dataError

/-- An argument for a nullable `text` column. -/
def asNullableText : Json → Service (Option String)
  | .null => pure none
  | v => some <$> argumentText v

/-- A value for a `uuid` column. A string is bound as it is. -/
def asUuid : Json → Service Uuid
  | .str s => Tx.orRaise (bindUuid s) .dataError
  | _ => Tx.raise .dataError

/-! ## The handlers

In the order of the source. A handler that has nothing to do returns an error object; the model reads it, and the turn
goes on. -/

def checkTicketStatus (ctx : ToolContext) (ticketId : Json) : Service JsonObject := do
  let ticketId ← asUuid ticketId
  let db ← Tx.store
  match db.tickets.lookup ticketId with
  | none => pure [("found", .bool false)]
  | some ticket =>
    if ctx.scope.selectsTicket db ticket then
      pure
        [("found", .bool true),
          ("status", .str ticket.status.value),
          ("category_id", match ticket.categoryId with
            | some id => .str (uuidStr id)
            | none => .null),
          ("created_at", .str (isoformat ticket.createdAt))]
    else pure [("found", .bool false)]

/-- `_active_contracts_for_caller`. -/
def activeContractsForCaller (ctx : ToolContext) (db : Db) : List (Uuid × Contract) :=
  db.contracts.select fun _ c =>
    ctx.scope.selectsContract db c && decide (c.tenantId = ctx.scope.userId) &&
      decide (c.status = .active)

/-- `_GENERAL_CATEGORY_NAME`. -/
def generalCategoryName : String := "general"

/-- `_find_general_category_id`. -/
def findGeneralCategoryId (env : Env) (ctx : ToolContext) (db : Db) : Option Uuid :=
  ((db.categories.select fun _ c => ctx.scope.selectsCategory c && c.active).find? fun row =>
    env.lower (Text.strip row.2.name) = generalCategoryName).map (·.1)

/-- `_CHAT_ORIGIN_NOTE`. -/
def chatOriginNote : String := "This ticket was created from a chatbot conversation."

/-- Add the messages one after another; the next one to be added is number `n`. -/
def addMessages (messageIds : Nat → Uuid) (ticketId : Uuid) :
    (n : Nat) → List (AuthorType × String) → Service Unit
  | _, [] => pure ()
  | n, (authorType, content) :: rest => do
    addMessage (messageIds n) ticketId authorType content
    addMessages messageIds ticketId (n + 1) rest

/-- `_copy_chat_messages_to_ticket`. -/
def copyChatMessagesToTicket (ctx : ToolContext) (messageIds : Nat → Uuid) (ticketId : Uuid) :
    Service Unit := do
  let db ← Tx.store
  let userTurns := (listForSession ctx.scope ctx.chatSessionId db).filter (·.2.role = .user)
  addMessages messageIds ticketId 0
    (userTurns.map (fun row => (.user, row.2.content)) ++ [(.bot, chatOriginNote)])

def createTicket (env : Env) (ctx : ToolContext) (d : ToolDraws) (title description : Json) :
    Service JsonObject := do
  let db ← Tx.store
  let chatSession ← getChatSession ctx
  match activeContractsForCaller ctx db with
  | [(contractId, contract)] =>
    let title ← argumentText title
    let description ← asNullableText description
    let ticket ← Tickets.createTicket env.toEnv ctx.scope d.ticketId d.anchor
      { propertyId := some contract.propertyId
        contractId := some contractId
        title := title
        description := description
        categoryId := none
        urgencyId := none
        channel := chatSession.channel }
    copyChatMessagesToTicket ctx d.messageIds d.ticketId
    let linked ← raiseConstraint (chatSession.link d.ticketId)
    setChatSession ctx linked
    pure [("ticket_id", .str (uuidStr d.ticketId)), ("status", .str ticket.status.value)]
  | contracts =>
    pure
      [("needs_clarification", .bool true),
        ("options", .arr (contracts.map fun row => .obj
          [("contract_id", .str (uuidStr row.1)),
            ("property_id", .str (uuidStr row.2.propertyId))]))]

/-- What `UUID(ticket_id)` makes of a JSON value. Only a string has a `replace` method; `None` is
    the `TypeError` that the handler catches. -/
def visitTicketId : Json → Service (Option Uuid)
  | .str s => pure (parseUuid s)
  | .null => pure none
  | _ => Tx.raise .attributeError

/-- The note that `schedule_visit` leaves on the ticket. -/
def visitNote (env : Env) (preferredDate notes : Json) : String :=
  "Visitor requested a visit for " ++ env.str preferredDate ++ "." ++
    if truthy notes then " Notes: " ++ env.str notes else ""

def scheduleVisit (env : Env) (ctx : ToolContext) (d : ToolDraws)
    (ticketId preferredDate notes : Json) : Service JsonObject := do
  let chatSession ← getChatSession ctx
  match chatSession.ticketId with
  | none =>
    pure [("error", .str
      "no ticket is linked to this chat session yet; create or escalate a ticket first")]
  | some linkedId =>
    match ← visitTicketId ticketId with
    | none => pure [("error", .str "ticket_id is not a valid UUID")]
    | some ticketId =>
      if linkedId ≠ ticketId then
        pure [("error", .str "ticket_id does not match this chat session's linked ticket")]
      else
        let _ ← ctx.scope.getTicket ticketId
        let content ← argumentText (.str (visitNote env preferredDate notes))
        addMessage (d.messageIds 0) ticketId .bot content
        pure
          [("scheduled", .bool true), ("ticket_id", .str (uuidStr ticketId)),
            ("preferred_date", preferredDate)]

/-- The ticket that an identified session escalates: the one it is linked to, or a new one. -/
def escalationTicket (env : Env) (ctx : ToolContext) (d : ToolDraws) (reason : Json)
    (chatSession : ChatSession) : Service (Uuid × ChatSession) := do
  match chatSession.ticketId with
  | some ticketId => pure (ticketId, chatSession)
  | none =>
    let db ← Tx.store
    let reason ← asNullableText reason
    let _ ← Tickets.createTicket env.toEnv ctx.scope d.ticketId d.anchor
      { propertyId := none
        contractId := none
        title := "Chat escalation"
        description := reason
        categoryId := findGeneralCategoryId env ctx db
        urgencyId := none
        channel := chatSession.channel }
    let linked ← raiseConstraint (chatSession.link d.ticketId)
    pure (d.ticketId, linked)

def escalateToHuman (env : Env) (ctx : ToolContext) (d : ToolDraws) (reason : Json) :
    Service JsonObject := do
  let chatSession ← getChatSession ctx
  let chatSession := { chatSession with
    escalatedAt := some (chatSession.escalatedAt.getD d.now) }
  match chatSession.userId with
  | none =>
    setChatSession ctx { chatSession with status := .escalated }
    pure [("escalated", .bool true), ("ticket_id", .null)]
  | some _ =>
    let (ticketId, chatSession) ← escalationTicket env ctx d reason chatSession
    -- `TicketRepository.update(ticket_id, status=...)`: the only attribute assigned is the status
    let ticket ← ctx.scope.getTicket ticketId
    let _ ← flushTicket ticketId ticket.toTicketColumns
      { ticket.toTicketColumns with status := .escalated }
    setChatSession ctx { chatSession with status := .escalated }
    pure [("escalated", .bool true), ("ticket_id", .str (uuidStr ticketId))]

/-! ## Arguments are only read

The conversions do not touch the database, so proofs about a handler get past them with `LooksUp.wp`. -/

theorem looksUp_argumentText (v : Json) : LooksUp (argumentText v) := by
  cases v with
  | str s => exact LooksUp.ite (LooksUp.raise (by simp)) (LooksUp.pure _)
  | _ => exact LooksUp.raise (by simp)

theorem looksUp_asNullableText (v : Json) : LooksUp (asNullableText v) := by
  unfold asNullableText
  split
  · exact LooksUp.pure _
  · exact LooksUp.map (looksUp_argumentText _)

theorem looksUp_visitTicketId (v : Json) : LooksUp (visitTicketId v) := by
  cases v with
  | str s => exact LooksUp.pure _
  | null => exact LooksUp.pure _
  | _ => exact LooksUp.raise (by simp)

/-! ## The registry

A call is looked up by its name among all the tools, whichever of them have been offered. Its fields become keyword
arguments: a missing or an unknown one is a `TypeError`. -/

/-- Bind keyword arguments: the values of `required`, then those of `optional`, which default to
    `None`. -/
def bindArguments (required optional : List String) (args : JsonObject) :
    Service (List Json) := do
  if args.all fun arg => (required ++ optional).contains arg.1 then
    let values ← Tx.orRaise (required.mapM fun name => List.lookup name args) .typeError
    pure (values ++ optional.map fun name => (List.lookup name args).getD .null)
  else Tx.raise .typeError

/-- `_TOOL_HANDLERS[name](ctx, **args)`. -/
def callTool (env : Env) (ctx : ToolContext) (d : ToolDraws) (name : String) (args : JsonObject) :
    Service JsonObject := do
  if name = "check_ticket_status" then
    match ← bindArguments ["ticket_id"] [] args with
    | [ticketId] => checkTicketStatus ctx ticketId
    | _ => Tx.raise .typeError
  else if name = "create_ticket" then
    match ← bindArguments ["title", "description"] [] args with
    | [title, description] => createTicket env ctx d title description
    | _ => Tx.raise .typeError
  else if name = "schedule_visit" then
    match ← bindArguments ["ticket_id", "preferred_date"] ["notes"] args with
    | [ticketId, preferredDate, notes] => scheduleVisit env ctx d ticketId preferredDate notes
    | _ => Tx.raise .typeError
  else if name = "escalate_to_human" then
    match ← bindArguments ["reason"] [] args with
    | [reason] => escalateToHuman env ctx d reason
    | _ => Tx.raise .typeError
  else Tx.raise (.keyError name)

/-- `available_tool_names`. -/
def availableToolNames (chatSession : ChatSession) : List String :=
  match chatSession.userId with
  | none => ["escalate_to_human"]
  | some _ => ["check_ticket_status", "create_ticket", "schedule_visit", "escalate_to_human"]

end Chat

end Helpdesk
