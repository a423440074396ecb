import Helpdesk.Chat.Turn
import Helpdesk.Library.Interleaving
import Helpdesk.Traffic.Work
import Helpdesk.WhatsApp.Effects
import Helpdesk.WhatsApp.Replies
import Helpdesk.WhatsApp.Webhook

/-! # The traffic on the chat sessions

Webhook deliveries, chat turns and outbound replies, each a transaction of its own under read
committed. A transaction is cut where it waits for somebody else: a delivery between two messages, a
turn at its calls to the model and between two tool calls, a reply at its call to the WhatsApp Cloud
API, and each of them in front of its commit. It may end anywhere with nothing committed. Jobs are
executed at least once, so a job that has been enqueued can be executed at any later time, any number
of times.

The history of the commits is kept beside the database. What is enqueued is read off it. -/

namespace Helpdesk.Traffic

open Chat WhatsApp

structure Settings where
  chat : Chat.Settings
  whatsapp : WhatsApp.Settings

/-! ## Transactions

What a transaction has read, written and still has in front of it. `moment` and `begun` count commits: the
model has no other clock that all transactions share. -/

/-- A message that a delivery has recorded on a session; there had been `moment` commits by then. -/
structure Intake where
  organizationId : Uuid
  wamid : String
  chatSessionId : Uuid
  now : Int
  job : Option ProcessJob
  moment : Nat

/-- `receive_whatsapp_webhook`, with the messages that it has not got to yet. -/
structure Delivery where
  begun : Nat
  organizationId : Uuid
  pending : List Inbound
  raised : Option Raised
  own : Work
  intakes : List Intake

/-- `send_message` under either of its callers. -/
structure OpenTurn where
  begun : Nat
  ctx : ToolContext
  /-- the job that the turn answers, or a post -/
  job : Option ProcessJob
  /-- the session was escalated when the turn began -/
  onEscalated : Bool
  createdAt : Int
  lowConfidence : Bool
  own : Work
  round : Nat
  pending : List ToolCall
  toolsUsed : List String
  /-- the tickets that `escalate_to_human` has created -/
  filed : List Uuid
  reply : Option String

/-- `send_whatsapp_reply`. -/
structure Send where
  begun : Nat
  chatSessionId : Uuid
  content : String
  own : Work
  deferred : Option String

inductive Transaction where
  | idle
  | delivery (delivery : Delivery)
  | turn (turn : OpenTurn)
  | send (send : Send)
  /-- `create_chat_session` -/
  | opening (begun : Nat) (own : Work)
  | ended

namespace Transaction

/-- The number of commits that there had been when the transaction began. -/
def begun : Transaction → Option Nat
  | delivery δ => some δ.begun
  | turn t => some t.begun
  | send σ => some σ.begun
  | opening n _ => some n
  | idle | ended => none

/-- The unit of work of a transaction that has come to its commit. -/
def ready : Transaction → Option Work
  | delivery δ => if δ.pending.isEmpty ∧ δ.raised.isNone then some δ.own else none
  | turn t => if t.reply.isSome then some t.own else none
  | send σ => if σ.deferred.isSome then some σ.own else none
  | opening _ own => some own
  | idle | ended => none

end Transaction

/-! ## The history

Nothing is forgotten of a commit. The queues are derived from the history, so a job stays executable after it
has been executed, and results can speak of what was committed before and after a point. -/

/-- A transaction that has been committed, and the sessions whose status it has made `escalated`. -/
structure Commit where
  transaction : Transaction
  escalated : List Uuid

/-- A `process_whatsapp_message` job, of a delivery that began after `begun` commits. -/
structure QueuedJob where
  job : ProcessJob
  begun : Nat

/-- A `send_whatsapp_reply` job. -/
structure Reply where
  chatSessionId : Uuid
  content : String
  onEscalated : Bool

namespace Commit

def intakes (c : Commit) : List Intake :=
  match c.transaction with
  | .delivery δ => δ.intakes
  | _ => []

def jobs (c : Commit) : List QueuedJob :=
  match c.transaction with
  | .delivery δ => δ.intakes.filterMap fun i => i.job.map fun job => ⟨job, δ.begun⟩
  | _ => []

def turns (c : Commit) : List OpenTurn :=
  match c.transaction with
  | .turn t => [t]
  | _ => []

/-- Only a turn that answers a job has its reply sent. -/
def replies (c : Commit) : List Reply :=
  match c.transaction with
  | .turn t =>
    if t.job.isSome then t.reply.toList.map fun content => ⟨t.ctx.chatSessionId, content, t.onEscalated⟩
    else []
  | _ => []

def deferrals (c : Commit) : List (Uuid × String) :=
  match c.transaction with
  | .send σ => σ.deferred.toList.map fun entry => (σ.chatSessionId, entry)
  | _ => []

end Commit

structure Shared where
  db : Db
  /-- oldest first -/
  history : List Commit

namespace Shared

variable (s : Shared)

def intakes : List Intake := s.history.flatMap (·.intakes)

def jobs : List QueuedJob := s.history.flatMap (·.jobs)

def turns : List OpenTurn := s.history.flatMap (·.turns)

def replies : List Reply := s.history.flatMap (·.replies)

def deferrals : List (Uuid × String) := s.history.flatMap (·.deferrals)

/-- The sessions that have become `escalated` since there were `n` commits. -/
def escalatedSince (n : Nat) : List Uuid := (s.history.drop n).flatMap (·.escalated)

/-- The session is escalated, as far as has been committed. -/
def isEscalated (chatSessionId : Uuid) : Bool :=
  match s.db.chatSessions.lookup chatSessionId with
  | some chatSession => chatSession.status = .escalated
  | none => false

/-- The sessions that are escalated in `after`, and not yet here. -/
def newlyEscalated (after : Db) : List Uuid :=
  (after.chatSessions.select fun id chatSession =>
    chatSession.status = .escalated && ¬ s.isEscalated id).map (·.1)

/-- The transaction has been committed, and the database is `after`. -/
def committed (transaction : Transaction) (after : Db) : Shared where
  db := after
  history := s.history ++ [⟨transaction, s.newlyEscalated after⟩]

end Shared

/-! ## Deliveries

A delivery takes one message at a time. It is committed as a whole, at its end; a message whose ingestion
raises ends it, except for the conflict of senders, which skips the message. -/

/-- The message has been recorded on a session, and on which one. -/
def takenUp (result : WhatsAppIngestionResult) : Option Uuid :=
  match result.outcome with
  | .replayed | .unsupportedMessageType => none
  | .appendedToEscalatedTicket | .rateLimited | .botReplyQueued => result.chatSessionId

def intakeOf (s : Shared) (organizationId : Uuid) (now : Int) (result : WhatsAppIngestionResult) :
    Option Intake :=
  (takenUp result).map fun id => ⟨organizationId, result.wamid, id, now, result.job, s.history.length⟩

/-- `_find_existing_session` loads the row that it finds; a message that is no text does not get
    there. -/
def Delivery.load (δ : Delivery) (s : Shared) (inbound : Inbound) (d : IngestDraws) : Work :=
  match isText inbound.message, contactWaId inbound.contact with
  | true, some waId =>
    match findExistingSession δ.organizationId waId d.rank (δ.own.view s.db) with
    | some (id, _) => δ.own.loadSession s.db id
    | none => δ.own
  | _, _ => δ.own

/-- The next message of a delivery. -/
def Delivery.ingest (env : Env) (settings : Settings) (s : Shared) (δ : Delivery) (d : IngestDraws) :
    Transaction :=
  match δ.pending with
  | [] => .delivery δ
  | inbound :: rest =>
    match (δ.load s inbound d).exec s.db
        (ingestInboundWhatsappMessage env.toEnv settings.whatsapp δ.organizationId inbound d) with
    | .ok (result, own) => .delivery { δ with
        pending := rest
        own := own
        intakes := δ.intakes ++ (intakeOf s δ.organizationId d.now result).toList }
    | .error e =>
      -- a conflict is noticed before anything is loaded or written
      match skipsConflict e with
      | some _ => .delivery { δ with pending := rest }
      | none => .ended

def beginDelivery (s : Shared) (payload : Json) : Transaction :=
  match (Tx.exec (webhookOrganization payload) s.db).1 with
  | .ok (some organizationId) =>
    let messages := iterMessages payload
    .delivery ⟨s.history.length, organizationId, messages.items, messages.raised, .empty, []⟩
  | .ok none | .error _ => .ended

/-! ## Turns

Both callers of `send_message` begin in the same way, with a session and a message. Between the rounds of
the model a turn holds its unit of work, and nothing of it is visible to others. -/

/-- A turn in front of its first call to the model. -/
def OpenTurn.start (s : Shared) (ctx : ToolContext) (job : Option ProcessJob) (o : OpenDraws)
    (excerpts : List String) (own : Work) : OpenTurn where
  begun := s.history.length
  ctx := ctx
  job := job
  onEscalated := s.isEscalated ctx.chatSessionId
  createdAt := o.createdAt
  lowConfidence := excerpts.isEmpty
  own := own
  round := 0
  pending := []
  toolsUsed := []
  filed := []
  reply := none

/-- Load the session, persist the visitor's message, and go as far as the first call to the model. -/
def beginTurn (settings : Settings) (s : Shared) (ctx : ToolContext) (job : Option ProcessJob)
    (content : String) (o : OpenDraws) (excerpts : List String) : Transaction :=
  match (Work.empty.loadSession s.db ctx.chatSessionId).exec s.db
      (openTurn settings.chat ctx o content excerpts) with
  | .ok (_, own) => .turn (.start s ctx job o excerpts own)
  | .error _ => .ended

/-- `post_chat_message` up to there. -/
def beginPost (settings : Settings) (s : Shared) (credential : Credential) (sessionId : Uuid)
    (admitted : Bool) (content : String) (o : OpenDraws) (excerpts : List String) : Transaction :=
  match postedContext credential sessionId admitted s.db with
  | some ctx => beginTurn settings s ctx none content o excerpts
  | none => .ended

/-- An execution of the job number `i`, up to there. -/
def beginJob (settings : Settings) (s : Shared) (i : Nat) (o : OpenDraws) (excerpts : List String) :
    Transaction :=
  match s.jobs[i]? with
  | none => .ended
  | some queued =>
    match queuedContext queued.job.chatSessionId s.db, orElse queued.job.textBody (.str "") with
    | some ctx, .str content => beginTurn settings s ctx (some queued.job) content o excerpts
    | _, _ => .ended

/-- The tickets that a part of a transaction has created. -/
def newTickets (before after : Work) : List Uuid :=
  (after.tickets.entries.filter fun e =>
    e.2.loaded.isNone && (before.tickets.lookup e.1).isNone).map (·.1)

/-- The model has answered. Tool calls in answer to the last request are ignored. -/
def OpenTurn.complete (env : Env) (settings : Settings) (s : Shared) (t : OpenTurn)
    (completion : Completion) (d : ReplyDraws) : Transaction :=
  if t.pending.isEmpty ∧ t.reply.isNone then
    if t.round < settings.chat.chatMaxToolRounds ∧ completion.toolCalls ≠ [] then
      .turn { t with round := t.round + 1, pending := completion.toolCalls }
    else
      match t.own.exec s.db (closeTurn env t.ctx t.createdAt d (completion.content.getD "")
          t.lowConfidence t.toolsUsed) with
      | .ok (result, own) => .turn { t with
          own := own
          filed := t.filed ++ newTickets t.own own
          reply := some result.reply }
      | .error _ => .ended
  else .turn t

/-- The next tool call. -/
def OpenTurn.call (env : Env) (s : Shared) (t : OpenTurn) (rowId : Uuid) (d : ToolDraws) : Transaction :=
  match t.pending with
  | [] => .turn t
  | call :: rest =>
    match t.own.exec s.db (runToolCall env t.ctx t.createdAt rowId d call) with
    | .ok (_, own) => .turn { t with
        own := own
        pending := rest
        toolsUsed := t.toolsUsed ++ [call.name]
        filed := t.filed ++ if call.name = "escalate_to_human" then newTickets t.own own else [] }
    | .error _ => .ended

/-! ## Replies

A reply job loads its session, calls the API without holding a lock, and writes what it has to write
afterwards on top of the row that it has loaded. -/

/-- `_record_deferred_reply`. -/
def Send.defer (s : Shared) (σ : Send) (deferredAt : Int) : Transaction :=
  let entry := deferredReply σ.content deferredAt
  match σ.own.exec s.db (recordDeferredReply σ.chatSessionId entry) with
  | .ok (_, own) => .send { σ with own := own, deferred := some entry }
  | .error _ => .ended

/-- A reply whose session has been loaded. -/
def Send.start (s : Shared) (reply : Reply) : Send where
  begun := s.history.length
  chatSessionId := reply.chatSessionId
  content := reply.content
  own := Work.empty.loadSession s.db reply.chatSessionId
  deferred := none

/-- An execution of the reply job number `i`, up to the call to the WhatsApp Cloud API. -/
def beginSend (settings : Settings) (s : Shared) (i : Nat) (now deferredAt : Int) : Transaction :=
  match s.replies[i]? with
  | none => .ended
  | some reply =>
    match s.db.chatSessions.lookup reply.chatSessionId with
    | none => .ended
    | some chatSession =>
      match (Tx.exec (outsideCustomerWindow chatSession settings.whatsapp.whatsappCustomerWindowHours
          now) s.db).1 with
      | .ok true => (Send.start s reply).defer s deferredAt
      | .ok false => .send (.start s reply)
      | .error _ => .ended

/-- The call has ended. -/
def Send.sent (s : Shared) (σ : Send) (outcome : SendOutcome) (deferredAt : Int) : Transaction :=
  if σ.deferred.isNone then
    if outcome.outsideWindow then σ.defer s deferredAt else .ended
  else .send σ

/-! ## The steps

An event names what happens next to one transaction; whatever does not fit its state does nothing. The
database is written at commits only. -/

inductive Event where
  | receive (payload : Json)
  | ingest (d : IngestDraws)
  | post (credential : Credential) (sessionId : Uuid) (admitted : Bool) (content : String)
    (o : OpenDraws) (excerpts : List String)
  | process (i : Nat) (o : OpenDraws) (excerpts : List String)
  | complete (completion : Completion) (d : ReplyDraws)
  | callTool (rowId : Uuid) (d : ToolDraws)
  | send (i : Nat) (now deferredAt : Int)
  | sent (outcome : SendOutcome) (deferredAt : Int)
  | createSession (widgetKey : String) (bearer : Option Uuid) (id : Uuid) (startedAt : Int)
  /-- the transaction commits, if it has come to that -/
  | commit
  /-- an exception, or the end of the process -/
  | abort

/-- Where an event other than the commit takes a transaction. -/
def Event.next (env : Env) (settings : Settings) (e : Event) (s : Shared) (t : Transaction) :
    Transaction :=
  match e, t with
  | .receive payload, .idle => beginDelivery s payload
  | .ingest d, .delivery δ => δ.ingest env settings s d
  | .post credential sessionId admitted content o excerpts, .idle =>
    beginPost settings s credential sessionId admitted content o excerpts
  | .process i o excerpts, .idle => beginJob settings s i o excerpts
  | .complete completion d, .turn t => t.complete env settings s completion d
  | .callTool rowId d, .turn t => t.call env s rowId d
  | .send i now deferredAt, .idle => beginSend settings s i now deferredAt
  | .sent outcome deferredAt, .send σ => σ.sent s outcome deferredAt
  | .createSession widgetKey bearer id startedAt, .idle =>
    match Work.empty.exec s.db (createChatSession widgetKey bearer id startedAt) with
    | .ok (_, own) => .opening s.history.length own
    | .error _ => .ended
  | .abort, _ => .ended
  | _, t => t

/-- A commit that the database refuses is a rollback. -/
def Shared.commit (env : Env) (s : Shared) (t : Transaction) : Shared × Transaction :=
  match t.ready with
  | none => (s, t)
  | some own =>
    match own.commit s.db env.toEnv with
    | some after => (s.committed t after, .ended)
    | none => (s, .ended)

def Event.act (env : Env) (settings : Settings) (e : Event) (s : Shared) (t : Transaction) :
    Shared × Transaction :=
  match e with
  | .commit => s.commit env t
  | e => (s, e.next env settings s t)

abbrev World := Interleaving.System Nat Shared Transaction

def World.step (env : Env) (settings : Settings) : World → Nat × Event → World :=
  Interleaving.step (Event.act env settings)

/-- Nothing is going on yet. -/
def World.start (db : Db) : World := ⟨⟨db, []⟩, fun _ => .idle⟩

end Helpdesk.Traffic
