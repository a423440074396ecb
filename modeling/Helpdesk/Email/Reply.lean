import Helpdesk.Email.Ingestion

/-! # Mailing a reply

`send_ticket_email_reply`, cut at the SMTP call: `beginReply` loads the rows, checks whether the mail
has been sent, and builds it; `commitReply` records the Message-ID on the ticket as it was loaded and
commits. No lock is taken. -/

namespace Helpdesk.Email

/-! ## The job

The two halves of the job. What lies between them is the SMTP call, on which neither of them depends except by being
reached. -/

/-- The arguments of a queued `send_ticket_email_reply` job. -/
structure ReplyJob where
  messageId : Uuid
  ticketId : Uuid
  organizationId : Uuid
  deriving DecidableEq

/-- The mail that is handed to the SMTP relay. -/
structure OutboundEmail where
  fromAddress : String
  replyTo : String
  toAddress : Option String
  subject : String
  inReplyTo : String
  references : String
  messageId : String
  content : String
  deriving DecidableEq

/-- A reply that is about to be sent. -/
structure ReplyDraft where
  loaded : Ticket
  mail : OutboundEmail
  deriving DecidableEq

/-- The deterministic Message-ID of the reply `messageId`. -/
def outboundMessageId (settings : Settings) (messageId : Uuid) : String :=
  "<helpdesk-" ++ uuidStr messageId ++ "@" ++ settings.emailMessageIdDomain ++ ">"

/-- `MessageRepository.get_or_404`. -/
def getMessage (scope : OrgScope) (messageId : Uuid) : Service Message :=
  getOr404 "Message" (·.messages)
    (fun db message => match db.tickets.lookup message.ticketId with
      | some ticket => ticket.organizationId = scope.organizationId
      | none => false)
    messageId

/-- The mail of the reply `message` on `ticket`. -/
def buildReply (settings : Settings) (job : ReplyJob) (message : Message) (ticket : Ticket)
    (organization : Organization) : OutboundEmail :=
  let outboundId := outboundMessageId settings job.messageId
  let metadata := ticket.channelMetadata.getD .empty
  let messageIds := metadata.list "message_ids"
  let inReplyTo :=
    (orElseEmpty (metadata.value "last_outbound_message_id") none).getD
      (messageIds.getLast?.getD outboundId)
  let subject := (orElseEmpty (metadata.value "subject_normalized") none).getD ticket.title
  let headers := buildReplyHeaders job.ticketId subject inReplyTo messageIds
  let fromAddress :=
    (orElseEmpty organization.supportEmailAddress none).getD settings.emailFromFallbackAddress
  { fromAddress := fromAddress
    replyTo := fromAddress
    toAddress := metadata.value "sender_address"
    subject := headers.subject
    inReplyTo := headers.inReplyTo
    references := headers.references
    messageId := outboundId
    content := message.content }

/-- The job up to the SMTP call; `none`, if the ticket says that the mail has been sent. -/
def beginReply (settings : Settings) (job : ReplyJob) : Service (Option ReplyDraft) := do
  let scope := OrgScope.forBackgroundWorker job.organizationId
  let message ← getMessage scope job.messageId
  let ticket ← scope.getTicket job.ticketId
  if contains ticket.channelMetadata "message_ids" (outboundMessageId settings job.messageId) then
    pure none
  else
    let organization ← getOrganization job.organizationId
    pure (some ⟨ticket, buildReply settings job message ticket organization⟩)

/-- The metadata after an accepted mail. -/
def recordOutbound (settings : Settings) (messageId : Uuid) (metadata : Option Metadata) : Metadata :=
  let outboundId := outboundMessageId settings messageId
  withValues (some (withAppended metadata "message_ids" outboundId none))
    [("last_outbound_message_id", some outboundId)]

/-- Record the mail on the ticket, and commit. -/
def commitReply (settings : Settings) (job : ReplyJob) (loaded : Ticket) : Service Unit := do
  let _ ← flushTicket job.ticketId loaded.toTicketColumns
    { loaded.toTicketColumns with
      channelMetadata := some (recordOutbound settings job.messageId loaded.channelMetadata) }
  pure ()

@[simp] theorem messageIds_recordOutbound (settings : Settings) (messageId : Uuid)
    (metadata : Option Metadata) :
    messageIds (some (recordOutbound settings messageId metadata)) =
      messageIds metadata ++ [outboundMessageId settings messageId] := by
  simp [recordOutbound]

end Helpdesk.Email
