import Mathlib.Data.List.MinMax
import Helpdesk.Email.Threading
import Helpdesk.Tickets.Messages
import Helpdesk.Tickets.Service

/-! # Email ingestion

`ingest_inbound_email` is one transaction. It is cut here where another transaction can come in
between: `scanInbound` resolves the sender and decides what the mail is, without a lock;
`lockTicket` is the `FOR UPDATE` on the ticket that has been matched; `commitAppend` and
`commitCreate` are what follows, up to the commit.

The ticket that is appended to keeps the attributes that the scan has loaded: the session holds the
instance already, so selecting it again does not refresh it. -/

namespace Helpdesk.Email

/-! ## The provider

`parse` takes over the fields of the webhook form. Message-Ids are stored as they come, and a missing one is empty. -/

/-- A provider-agnostic inbound email. -/
structure InboundEmail where
  providerMessageId : String
  inReplyTo : Option String
  references : List String
  fromAddress : String
  fromDisplayName : Option String
  toAddress : String
  subject : String
  textBody : String
  deriving DecidableEq

/-- Functions that the email channel takes from elsewhere. -/
structure Env extends Tickets.Env where
  /-- `email.utils.parseaddr`: display name and address -/
  parseaddr : String → String × String

/-- `text.split()` -/
def splitSpaces (text : String) : List String :=
  ((text.toList.splitOnP Text.isSpace).filter (· ≠ [])).map String.ofList

/-- The first value that is not empty, as `or` chooses it. -/
def orElseEmpty (value : Option String) (other : Option String) : Option String :=
  match value with
  | some s => if s = "" then other else some s
  | none => other

/-- `MailgunProvider.parse`, of the fields of the form. -/
def parse (env : Env) (form : List (String × String)) : InboundEmail :=
  let get := fun field => form.lookup field
  let sender := env.parseaddr ((get "From").getD "")
  { providerMessageId := (get "Message-Id").getD ""
    inReplyTo := orElseEmpty (get "In-Reply-To") none
    references := splitSpaces ((get "References").getD "")
    fromAddress := sender.2
    fromDisplayName := orElseEmpty (some sender.1) none
    toAddress := (orElseEmpty (get "recipient") none).getD (env.parseaddr ((get "To").getD "")).2
    subject := (get "Subject").getD ""
    textBody :=
      (orElseEmpty (get "stripped-text") (orElseEmpty (get "body-plain") none)).getD "" }

structure Settings where
  emailWebhookProvider : String
  emailThreadSubjectMatchDays : Int
  emailMessageIdDomain : String
  emailFromFallbackAddress : String

/-! ## The sender

The sender is a user of the organization with the mail's address, or is provisioned as a tenant. A user of another
organization ends the delivery. -/

/-- The sender of a mail: a user that exists, or one that this transaction inserts. -/
inductive Sender where
  | existing (userId : Uuid) (user : User)
  | provisioned (userId : Uuid) (user : User)
  deriving DecidableEq

def Sender.scope (organizationId : Uuid) : Sender → OrgScope
  | .existing userId user | .provisioned userId user => ⟨organizationId, userId, user.role⟩

/-- `_find_user_by_email`: the rows that match. -/
def findUsersByEmail (env : Env) (email : String) (db : Db) : List (Uuid × User) :=
  db.users.select fun _ user => env.lower user.email = env.lower email

/-- `resolve_email_sender_identity`; a new user has the key `newUserId`. -/
def resolveEmailSenderIdentity (env : Env) (organizationId newUserId : Uuid) (email : String)
    (displayName : Option String) : Service Sender := do
  let db ← Tx.store
  match findUsersByEmail env email db with
  | [] =>
    pure (.provisioned newUserId
      { organizationId := some organizationId
        -- `display_name or email`
        name := (displayName.filter (· ≠ "")).getD email
        email := email
        role := .tenant
        passwordHash := none
        status := .pending
        phoneNumber := none })
  | [(userId, user)] =>
    if user.organizationId ≠ some organizationId then
      Tx.raise (.crossOrgSenderConflict organizationId user.organizationId .email)
    else pure (.existing userId user)
  | _ => Tx.raise .multipleResultsFound

/-- The INSERT of a new sender. Until the commit nobody else sees it, and in between nothing of this
    transaction reads `users`, so it stands with the writes that follow. -/
def insertSender (env : Env) : Sender → Service Unit
  | .existing _ _ => pure ()
  | .provisioned userId user => do
    let db ← Tx.store
    if findUsersByEmail env user.email db = [] then
      let users ← Tx.orRaise (db.users.insertNew userId user) (.integrityError .primaryKey)
      Tx.write { db with users := users }
    else Tx.raise (.integrityError .usersEmailLowerUnique)

/-! ## The matching ladder

The candidates are the email tickets that the sender's role lets them see. A replay is looked for first; then
the ids that the mail names, the tag in its subject, and the subject itself are tried in this order. -/

/-- A ticket as the scan has loaded it. -/
abbrev Candidate := Uuid × Ticket

/-- `_load_email_candidates`. The SELECT has no ORDER BY: `rank` says how the rows happen to come. -/
def loadEmailCandidates (scope : OrgScope) (rank : Uuid → Nat) (db : Db) : List Candidate :=
  (db.tickets.select fun _ ticket => scope.selectsTicket db ticket && ticket.channel = .email)
    |>.insertionSort fun r s => rank r.1 ≤ rank s.1

/-- The first candidate that records `id`. -/
def findRecorded (candidates : List Candidate) (id : String) : Option Candidate :=
  candidates.find? fun candidate => contains candidate.2.channelMetadata "message_ids" id

/-- `_find_replay`. -/
def findReplay (candidates : List Candidate) (providerMessageId : String) : Option Candidate :=
  findRecorded candidates providerMessageId

/-- `_match_by_reference`. -/
def matchByReference (candidates : List Candidate) (inbound : InboundEmail) : Option Candidate :=
  (extractReferenceIds inbound.inReplyTo inbound.references).findSome? (findRecorded candidates)

/-- `_match_by_subject_tag`. -/
def matchBySubjectTag (candidates : List Candidate) (inbound : InboundEmail) : Option Candidate :=
  match parseTicketTag inbound.subject with
  | none => none
  | some tag =>
    match candidates.filter fun candidate => tag.toList.isPrefixOf (hexDigits 32 candidate.1) with
    | [candidate] => some candidate
    | _ => none

/-- `max` by `created_at`: the first of the latest. -/
def latestCreated (candidates : List Candidate) : Option Candidate :=
  -- of the ways that lead to the order of the integers, one that computes
  letI : Preorder Int := Int.instLinearOrder.toPreorder
  candidates.argmax fun candidate => candidate.2.createdAt

/-- `_match_by_sender_subject_fallback`, at the time `now`. -/
def matchBySenderSubjectFallback (env : Env) (settings : Settings) (now : Int)
    (candidates : List Candidate) (inbound : InboundEmail) : Option Candidate :=
  let cutoff := now - days settings.emailThreadSubjectMatchDays
  let senderAddress := env.lower inbound.fromAddress
  let subjectNormalized := normalizeSubject env.lower inbound.subject
  let eligible := candidates.filter fun candidate =>
    let metadata := candidate.2.channelMetadata.getD .empty
    candidate.2.status ≠ .closed ∧ metadata.value "sender_address" = some senderAddress ∧
      metadata.value "subject_normalized" = some subjectNormalized ∧ candidate.2.createdAt > cutoff
  latestCreated eligible

/-- What the scan has decided. -/
inductive Scan where
  | replayed (ticketId : Uuid)
  | append (sender : Sender) (ticketId : Uuid) (loaded : Ticket)
  | create (sender : Sender)
  deriving DecidableEq

/-- What the scan draws. -/
structure ScanDraws where
  newUserId : Uuid
  rank : Uuid → Nat
  now : Int

/-- What to do with a mail among the candidates of its sender. -/
def decideInbound (env : Env) (settings : Settings) (now : Int) (sender : Sender)
    (candidates : List Candidate) (inbound : InboundEmail) : Scan :=
  match findReplay candidates inbound.providerMessageId with
  | some replay => .replayed replay.1
  | none =>
    let matched := ((matchByReference candidates inbound).or (matchBySubjectTag candidates inbound)).or
      (matchBySenderSubjectFallback env settings now candidates inbound)
    match matched with
    | some candidate => .append sender candidate.1 candidate.2
    | none => .create sender

/-- `ingest_inbound_email` up to the lock. -/
def scanInbound (env : Env) (settings : Settings) (organizationId : Uuid) (inbound : InboundEmail)
    (d : ScanDraws) : Service Scan := do
  let sender ← resolveEmailSenderIdentity env organizationId d.newUserId inbound.fromAddress
    inbound.fromDisplayName
  let db ← Tx.store
  let candidates := loadEmailCandidates (sender.scope organizationId) d.rank db
  pure (decideInbound env settings d.now sender candidates inbound)

/-! ## Writing

The two ends of a delivery. Both insert the sender first, if there is none yet. -/

/-- `repo.get_or_404(ticket_id, for_update=True)`; the row it returns is not looked at. -/
def lockTicket (scope : OrgScope) (ticketId : Uuid) : Service Unit := do
  let _ ← scope.getTicket ticketId
  pure ()

/-- What the writes draw: the keys of the rows that are inserted, and the `created_at` of a ticket. -/
structure IngestDraws where
  newId : Uuid
  anchor : Int
  deriving DecidableEq

/-- `_append_message` after its lock, with the ticket as the scan has loaded it. -/
def commitAppend (env : Env) (scope : OrgScope) (sender : Sender) (ticketId : Uuid) (loaded : Ticket)
    (inbound : InboundEmail) (d : IngestDraws) : Service Unit := do
  insertSender env sender
  let metadata := withAppended loaded.channelMetadata "message_ids" inbound.providerMessageId none
  let _ ← flushTicket ticketId loaded.toTicketColumns
    { loaded.toTicketColumns with channelMetadata := some metadata }
  let _ ← Tickets.createMessage scope d.newId ticketId inbound.textBody none
  pure ()

/-- The `channel_metadata` of a new ticket. -/
def newTicketMetadata (env : Env) (settings : Settings) (inbound : InboundEmail) : Metadata where
  lists := [("message_ids", [inbound.providerMessageId])]
  values :=
    [("provider", some settings.emailWebhookProvider),
      ("sender_address", some (env.lower inbound.fromAddress)),
      ("subject_normalized", some (normalizeSubject env.lower inbound.subject)),
      ("last_outbound_message_id", none)]

/-- `_create_new_ticket`. -/
def commitCreate (env : Env) (settings : Settings) (scope : OrgScope) (sender : Sender)
    (inbound : InboundEmail) (d : IngestDraws) : Service Unit := do
  insertSender env sender
  let title := Text.strip inbound.subject
  let ticket ← Tickets.createTicket env.toEnv scope d.newId d.anchor
    { propertyId := none
      contractId := none
      title := if title = "" then "(no subject)" else title
      description := some inbound.textBody
      categoryId := none
      urgencyId := none
      channel := .email }
  let _ ← flushTicket d.newId ticket.toTicketColumns
    { ticket.toTicketColumns with
      channelMetadata := some (newTicketMetadata env settings inbound) }
  pure ()

/-- `ingest_inbound_email`, with nobody in between. -/
def ingestInboundEmail (env : Env) (settings : Settings) (organizationId : Uuid)
    (inbound : InboundEmail) (s : ScanDraws) (d : IngestDraws) : Service Scan := do
  let scan ← scanInbound env settings organizationId inbound s
  match scan with
  | .replayed _ => pure scan
  | .append sender ticketId loaded =>
    lockTicket (sender.scope organizationId) ticketId
    commitAppend env (sender.scope organizationId) sender ticketId loaded inbound d
    pure scan
  | .create sender =>
    commitCreate env settings (sender.scope organizationId) sender inbound d
    pure scan

end Helpdesk.Email
