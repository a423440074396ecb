import Helpdesk.Email.Reply
import Helpdesk.Library.Run

/-! # The email channel as a system

Deliveries of inbound mail, agents' replies and the jobs that mail them, each in transactions of
their own over one database. An event is a part of one of them that no other transaction can come
into; the events come in any order.

Two logs are kept beside the database. `sent` is what the SMTP relay has accepted, and no rollback
takes anything off it. `ingested` records, for each delivery that has committed, the ticket that it
has created or appended to. -/

namespace Helpdesk.Email

/-- What an open delivery is going to do. -/
inductive Plan where
  | append (sender : Sender) (ticketId : Uuid) (loaded : Ticket) (locked : Bool)
  | create (sender : Sender)
  deriving DecidableEq

/-- A delivery between its scan and its commit. -/
structure Request where
  organizationId : Uuid
  inbound : InboundEmail
  plan : Plan
  deriving DecidableEq

/-- The request holds the lock on the ticket. -/
def Request.locks (ticketId : Uuid) (request : Request) : Bool :=
  match request.plan with
  | .append _ id _ true => id = ticketId
  | .append _ _ _ false | .create _ => false

/-- A job between its check and its commit; `accepted` says that the mail is out. -/
structure ReplyRun where
  job : ReplyJob
  draft : ReplyDraft
  accepted : Bool
  deriving DecidableEq

/-- A delivery that has created a ticket or appended to one. -/
structure Ingested where
  organizationId : Uuid
  providerMessageId : String
  ticketId : Uuid
  deriving DecidableEq

structure World where
  db : Db
  requests : Table Nat Request
  runs : Table Nat ReplyRun
  jobs : List ReplyJob
  /-- the mails accepted by the relay, with the message each one is for -/
  sent : List (Uuid × OutboundEmail)
  ingested : List Ingested

/-- Nothing has come in yet. -/
def World.start (db : Db) : World := ⟨db, ∅, ∅, [], [], []⟩

/-- How `mailer_service.send_message` ends. -/
inductive SmtpOutcome where
  | accepted
  /-- raised again as `Retry` -/
  | transient
  /-- logged and swallowed -/
  | permanent
  deriving DecidableEq

inductive Event where
  | receive (request : Nat) (organizationId : Uuid) (inbound : InboundEmail) (d : ScanDraws)
  | lock (request : Nat)
  | commitInbound (request : Nat) (d : IngestDraws)
  | abortInbound (request : Nat)
  | postMessage (scope : OrgScope) (messageId ticketId : Uuid) (content : String)
    (basedOnSuggestionId : Option Uuid)
  | deliver (run : Nat) (job : Nat)
  | smtp (run : Nat) (outcome : SmtpOutcome)
  | commitReply (run : Nat)
  /-- the worker is gone, or the job raises -/
  | crash (run : Nat)

/-- The plan that a scan leads to; a replay ends with the scan. -/
def Scan.plan : Scan → Option Plan
  | .replayed _ => none
  | .append sender ticketId loaded => some (.append sender ticketId loaded false)
  | .create sender => some (.create sender)

/-- A delivery holds the lock on the ticket. -/
def World.locked (w : World) (ticketId : Uuid) : Bool :=
  ¬ (w.requests.select fun _ request => request.locks ticketId).isEmpty

/-- `ingest_inbound_email` up to the lock. -/
def World.receive (env : Env) (settings : Settings) (w : World) (request : Nat)
    (organizationId : Uuid) (inbound : InboundEmail) (d : ScanDraws) : World :=
  match w.requests.lookup request, Tx.exec (scanInbound env settings organizationId inbound d) w.db with
  | none, (.ok scan, _) =>
    match scan.plan with
    | some plan => { w with requests := AList.insert request ⟨organizationId, inbound, plan⟩ w.requests }
    | none => w
  | _, _ => w

/-- The `FOR UPDATE`: it waits for another holder of the lock. -/
def World.lock (w : World) (request : Nat) (sender : Sender) (ticketId : Uuid) (loaded : Ticket)
    (r : Request) : World :=
  if w.locked ticketId then w
  else
    match Tx.exec (lockTicket (sender.scope r.organizationId) ticketId) w.db with
    | (.ok _, _) =>
      { w with
        requests := AList.insert request { r with plan := .append sender ticketId loaded true }
          w.requests }
    | (.error _, _) => { w with requests := w.requests.erase request }

/-- Commit a delivery that has written to `ticketId`, or roll it back. -/
def World.finish (w : World) (request : Nat) (r : Request) (ticketId : Uuid)
    (writes : Service Unit) : World :=
  match Tx.exec writes w.db with
  | (.ok _, db) =>
    { w with
      db := db
      requests := w.requests.erase request
      ingested := ⟨r.organizationId, r.inbound.providerMessageId, ticketId⟩ :: w.ingested }
  | (.error _, _) => { w with requests := w.requests.erase request }

def World.commitInbound (env : Env) (settings : Settings) (w : World) (request : Nat)
    (r : Request) (d : IngestDraws) : World :=
  match r.plan with
  | .append _ _ _ false => w
  | .append sender ticketId loaded true =>
    w.finish request r ticketId
      (commitAppend env (sender.scope r.organizationId) sender ticketId loaded r.inbound d)
  | .create sender =>
    w.finish request r d.newId
      (commitCreate env settings (sender.scope r.organizationId) sender r.inbound d)

/-- The endpoint that posts a message: it commits, and enqueues the job if the flag is set. -/
def World.postMessage (w : World) (scope : OrgScope) (messageId ticketId : Uuid) (content : String)
    (basedOnSuggestionId : Option Uuid) : World :=
  match Tx.exec (Tickets.createMessage scope messageId ticketId content basedOnSuggestionId) w.db with
  | (.ok posted, db) =>
    { w with
      db := db
      jobs := if posted.outboundEmailRequired then
          w.jobs ++ [⟨messageId, ticketId, scope.organizationId⟩]
        else w.jobs }
  | (.error _, _) => w

/-- A delivery of a job up to its SMTP call. A job can be delivered again at any time. -/
def World.deliver (settings : Settings) (w : World) (run : Nat) (job : ReplyJob) : World :=
  match w.runs.lookup run, Tx.exec (beginReply settings job) w.db with
  | none, (.ok (some draft), _) => { w with runs := AList.insert run ⟨job, draft, false⟩ w.runs }
  | _, _ => w

def World.smtp (w : World) (run : Nat) (r : ReplyRun) (outcome : SmtpOutcome) : World :=
  if r.accepted then w
  else
    match outcome with
    | .accepted =>
      { w with
        runs := AList.insert run { r with accepted := true } w.runs
        sent := (r.job.messageId, r.draft.mail) :: w.sent }
    | .transient | .permanent => { w with runs := w.runs.erase run }

/-- The flush waits for a lock on the row. -/
def World.settleReply (settings : Settings) (w : World) (run : Nat) (r : ReplyRun) : World :=
  if r.accepted ∧ ¬ w.locked r.job.ticketId then
    match Tx.exec (commitReply settings r.job r.draft.loaded) w.db with
    | (.ok _, db) => { w with db := db, runs := w.runs.erase run }
    | (.error _, _) => { w with runs := w.runs.erase run }
  else w

def Event.step (env : Env) (settings : Settings) (w : World) : Event → World
  | .receive request organizationId inbound d => w.receive env settings request organizationId inbound d
  | .lock request =>
    match w.requests.lookup request with
    | some r =>
      match r.plan with
      | .append sender ticketId loaded false => w.lock request sender ticketId loaded r
      | .append _ _ _ true | .create _ => w
    | none => w
  | .commitInbound request d =>
    match w.requests.lookup request with
    | some r => w.commitInbound env settings request r d
    | none => w
  | .abortInbound request => { w with requests := w.requests.erase request }
  | .postMessage scope messageId ticketId content basedOnSuggestionId =>
    w.postMessage scope messageId ticketId content basedOnSuggestionId
  | .deliver run job =>
    match w.jobs[job]? with
    | some job => w.deliver settings run job
    | none => w
  | .smtp run outcome =>
    match w.runs.lookup run with
    | some r => w.smtp run r outcome
    | none => w
  | .commitReply run =>
    match w.runs.lookup run with
    | some r => w.settleReply settings run r
    | none => w
  | .crash run => { w with runs := w.runs.erase run }

end Helpdesk.Email
