import Helpdesk.Chat.Sessions
import Helpdesk.Sla.IsoTime
import Helpdesk.WhatsApp.Payload

/-! # WhatsApp ingestion

`ingest_inbound_whatsapp_message`: the sender's identity, the session that the message belongs to, and
what becomes of the message. It runs within the transaction of the whole delivery. -/

namespace Helpdesk.WhatsApp

structure Settings where
  whatsappSessionIdleMinutes : Int
  whatsappCustomerWindowHours : Int

/-! ## Phone numbers

Only the spelling is normalized: fillers are dropped and a plus is put in front, and what comes of it has to be a
number in E.164. -/

/-- `_MSISDN_PATTERN`: `^\+[1-9][0-9]{6,14}$` -/
def isMsisdn : List Char → Bool
  | '+' :: c :: cs =>
    c ≠ '0' && c.isDigit && cs.all Char.isDigit && decide (6 ≤ cs.length ∧ cs.length ≤ 14)
  | _ => false

/-- A character that `_MSISDN_STRIP_CHARS` drops. -/
def isMsisdnFiller (c : Char) : Bool := Text.isSpace c || c == '-' || c == '(' || c == ')'

/-- `normalize_msisdn`. -/
def normalizeMsisdn (raw : String) : Option String :=
  let stripped := (Text.strip raw).toList.filter (¬ isMsisdnFiller ·)
  let stripped := if stripped.head? = some '+' then stripped else '+' :: stripped
  -- an empty string fails here too
  if isMsisdn stripped then some (String.ofList stripped) else none

/-! ## The sender

The INSERT has the constraints of `users` in the order in which Postgres checks them. -/

/-- INSERT into `users`. -/
def insertUser (env : Tickets.Env) (id : Uuid) (user : User) : Service Unit := do
  let db ← Tx.store
  let users ← Tx.orRaise (db.users.insertNew id user) (.integrityError .primaryKey)
  if db.users.select (fun _ other => env.lower other.email = env.lower user.email) ≠ [] then
    Tx.raise (.integrityError .usersEmailLowerUnique)
  else if db.users.select (fun _ other =>
      user.phoneNumber ≠ none && other.phoneNumber = user.phoneNumber) ≠ [] then
    Tx.raise (.integrityError .usersPhoneNumberUnique)
  else if foreignKeyOk db.organizations none user.organizationId then
    Tx.write { db with users := users }
  else Tx.raise (.integrityError .foreignKey)

/-- `_build_new_user` of `resolve_whatsapp_sender_identity`. -/
def buildNewUser (organizationId : Uuid) (name waId phoneNumber : String) : User where
  organizationId := some organizationId
  name := name
  email := "wa+" ++ waId ++ "@whatsapp.invalid"
  role := .tenant
  passwordHash := none
  status := .pending
  phoneNumber := some phoneNumber

/-- `resolve_whatsapp_sender_identity`; a new user has the key `newUserId`. -/
def resolveWhatsappSenderIdentity (env : Tickets.Env) (organizationId newUserId : Uuid)
    (waId : String) (displayName : Json) : Service (Uuid × User) := do
  let phoneNumber ← Tx.orRaise (normalizeMsisdn waId) .valueError
  let db ← Tx.store
  match db.users.select fun _ user => user.phoneNumber = some phoneNumber with
  | [] =>
    let name ← Chat.asText (orElse displayName (.str waId))
    let user := buildNewUser organizationId name waId phoneNumber
    insertUser env newUserId user
    pure (newUserId, user)
  | [(userId, user)] =>
    if user.organizationId ≠ some organizationId then
      Tx.raise (.crossOrgSenderConflict organizationId user.organizationId .whatsapp)
    else pure (userId, user)
  | _ => Tx.raise .multipleResultsFound

/-! ## The session

`last_inbound_at` is kept as a text in the metadata, and read back to see how long the session has been idle.
`rank` stands for the order in which the query returns rows with equal timestamps. -/

/-- Days from `0001-01-01` to the first of March of `year`, and from there to the date. -/
def dayNumber (year month day : Int) : Int :=
  let y := if month ≤ 2 then year - 1 else year
  let m := if month ≤ 2 then month + 9 else month - 3
  365 * y + y / 4 - y / 100 + y / 400 + (153 * m + 2) / 5 + day - 307

/-- `datetime.fromisoformat`, of a date written as `YYYY-MM-DD`: the wall clock, and the offset where
    there is one. -/
def datetimeFromIsoformat (s : String) : Option (Int × Option Int) := do
  let cs := s.toList
  let number := fun (digits : List Char) =>
    if digits.all Char.isDigit then some (digits.foldl (fun (n : Int) c => 10 * n + Sla.digit c) 0)
    else none
  let year ← number (cs.take 4)
  let month ← number ((cs.drop 5).take 2)
  let day ← number ((cs.drop 8).take 2)
  let time ← Sla.fromIsoFormat (String.ofList (cs.drop 11))
  let t := days (dayNumber year month day)
  -- the day exists if it is written the same way again
  if 1 ≤ year ∧ (cs.drop 4).head? = some '-' ∧ (cs.drop 7).head? = some '-' ∧
      civilDate (t / days 1) = (year, month, day) then
    some (t + time.wall, time.offset)
  else none

example : datetimeFromIsoformat (isoformat (days 739000 + 5000001)) =
    some (days 739000 + 5000001, some 0) := by decide +kernel

/-- `timedelta(minutes=n)` -/
def minutes (n : Int) : Int := n * 60 * 1000000

/-- `_is_within_idle_window` at the time `now`. -/
def isWithinIdleWindow (lastInboundAt : Option String) (idleMinutes now : Int) : Service Bool :=
  match lastInboundAt with
  | none | some "" => pure false
  | some raw =>
    match datetimeFromIsoformat raw with
    | none => pure false
    | some (wall, some offset) => pure (decide (now - (wall - offset) ≤ minutes idleMinutes))
    | some (_, none) => Tx.raise .typeError

/-- `channel_metadata ->> key` -/
def metadataValue (s : ChatSession) (key : String) : Option String :=
  (s.channelMetadata.getD .empty).value key

/-- `_find_existing_session`; `rank` says which one of several comes first that were active last. -/
def findExistingSession (organizationId : Uuid) (waId : String) (rank : Uuid → Nat) (db : Db) :
    Option (Uuid × ChatSession) :=
  ((db.chatSessions.select fun _ s =>
      s.organizationId = organizationId && metadataValue s "wa_id" = some waId)
    |>.insertionSort fun r s =>
      s.2.lastActivityAt < r.2.lastActivityAt ∨
        (r.2.lastActivityAt = s.2.lastActivityAt ∧ rank r.1 ≤ rank s.1)).head?

/-- The decision to go on with the session that has been found. -/
def reusesSession (settings : Settings) (now : Int) (existing : ChatSession) : Service Bool :=
  match existing.status with
  | .escalated => pure true
  | .active =>
    isWithinIdleWindow (metadataValue existing "last_inbound_at") settings.whatsappSessionIdleMinutes now
  | .closed => pure false

/-- The session to go on with, if there is one. -/
def reusableSession (settings : Settings) (organizationId : Uuid) (waId : String) (rank : Uuid → Nat)
    (now : Int) : Service (Option (Uuid × ChatSession)) := do
  let db ← Tx.store
  match findExistingSession organizationId waId rank db with
  | none => pure none
  | some (id, existing) =>
    if ← reusesSession settings now existing then pure (some (id, existing)) else pure none

/-! ## The message

Keys, instants and the answer of the rate limiter are inputs (`IngestDraws`). The values of the payload are used
as the service uses them. -/

/-- An id. One that is no string is kept as its JSON text, behind a character that no stored string has. -/
def idText : Json → String
  | .str s => s
  | v => "\x00" ++ Json.dumps v

/-- A metadata value that is only stored. -/
def storedText : Json → Option String
  | .str s => some s
  | _ => none

def liftRead {α : Type} (x : Except Raised α) : Service α :=
  match x with
  | .ok a => pure a
  | .error e => Tx.raise e

/-- A value whose string methods are called. -/
def asString : Json → Service String
  | .str s => pure s
  | _ => Tx.raise .attributeError

/-- `_extract_profile_name`. -/
def extractProfileName (contact : Json) : Except Raised Json := do
  let profile ← get "profile" .null contact
  get "name" .null (orElse profile (.obj []))

/-- `_extract_text_body`. -/
def extractTextBody (message : Json) : Except Raised Json := do
  let text ← get "text" .null message
  get "body" (.str "") (orElse text (.obj []))

/-- `_PROCESSED_MESSAGE_IDS_CAP`. -/
def processedMessageIdsCap : Nat := 50

inductive WhatsAppIngestionOutcome where
  | replayed
  | unsupportedMessageType
  | appendedToEscalatedTicket
  | rateLimited
  | botReplyQueued
  deriving DecidableEq

structure WhatsAppIngestionResult where
  outcome : WhatsAppIngestionOutcome
  chatSessionId : Option Uuid
  wamid : String
  textBody : Json

/-- What the ingestion of a message draws: the keys of the rows that it may insert, the clock at each
    time that it is read, and whether `check_and_increment` admits the message. -/
structure IngestDraws where
  newUserId : Uuid
  newSessionId : Uuid
  messageId : Uuid
  rank : Uuid → Nat
  idleNow : Int
  now : Int
  activityNow : Int
  startedAt : Int
  admitted : Bool

/-- The `channel_metadata` of a session that goes on. -/
def recordInbound (metadata : Option Metadata) (wamid : String) (now : Int) : Metadata :=
  withValues
    (some (withAppended metadata "processed_message_ids" wamid (some processedMessageIdsCap)))
    [("last_inbound_at", some (isoformat now))]

/-- A session that the message starts. -/
def newSession (scope : OrgScope) (inbound : Inbound) (waId wamid : String) (profileName : Json)
    (d : IngestDraws) : ChatSession where
  organizationId := scope.organizationId
  userId := some scope.userId
  ticketId := none
  status := .active
  lowConfidenceStreak := 0
  lastActivityAt := d.startedAt
  channel := .whatsapp
  escalatedAt := none
  channelMetadata := some
    { lists := [("processed_message_ids", [wamid]), ("deferred_replies", [])]
      values :=
        [("wa_id", some waId), ("phone_number_id", storedText inbound.phoneNumberId),
          ("profile_name", storedText profileName), ("last_inbound_at", some (isoformat d.now))] }
  ticket_requires_user := .inl rfl

/-- The session of the message, which records the message from now on; `none` for a replay. -/
def claimSession (settings : Settings) (scope : OrgScope) (organizationId : Uuid) (inbound : Inbound)
    (waId wamid : String) (profileName : Json) (d : IngestDraws) :
    Service (Uuid × Option ChatSession) := do
  let db ← Tx.store
  match ← reusableSession settings organizationId waId d.rank d.idleNow with
  | some (id, existing) =>
    if contains existing.channelMetadata "processed_message_ids" wamid then pure (id, none)
    else
      let row := { existing with
        channelMetadata := some (recordInbound existing.channelMetadata wamid d.now)
        lastActivityAt := d.activityNow }
      Tx.write { db with chatSessions := db.chatSessions.modify id fun _ => row }
      pure (id, some row)
  | none =>
    let row := newSession scope inbound waId wamid profileName d
    Chat.insertChatSession d.newSessionId row
    pure (d.newSessionId, some row)

/-- `ingest_inbound_whatsapp_message`. -/
def ingestInboundWhatsappMessage (env : Tickets.Env) (settings : Settings) (organizationId : Uuid)
    (inbound : Inbound) (d : IngestDraws) : Service WhatsAppIngestionResult := do
  let wamid ← idText <$> liftRead (item "id" inbound.message)
  let messageType ← liftRead (get "type" .null inbound.message)
  match messageType with
  | .str "text" =>
    let waId ← liftRead (item "wa_id" inbound.contact)
    let profileName ← liftRead (extractProfileName inbound.contact)
    let textBody ← liftRead (extractTextBody inbound.message)
    let waId ← asString waId
    let (userId, user) ← resolveWhatsappSenderIdentity env organizationId d.newUserId waId profileName
    let scope : OrgScope := ⟨organizationId, userId, user.role⟩
    match ← claimSession settings scope organizationId inbound waId wamid profileName d with
    | (id, none) => pure ⟨.replayed, some id, wamid, .null⟩
    | (id, some chatSession) =>
      if chatSession.status = .escalated then
        let ticketId ← Tx.orRaise chatSession.ticketId (.notFound "Ticket" none)
        let content ← Chat.asText textBody
        let _ ← Tickets.createMessage scope d.messageId ticketId content none
        pure ⟨.appendedToEscalatedTicket, some id, wamid, textBody⟩
      else if d.admitted then pure ⟨.botReplyQueued, some id, wamid, textBody⟩
      else pure ⟨.rateLimited, some id, wamid, .null⟩
  | _ => pure ⟨.unsupportedMessageType, none, wamid, .null⟩

end Helpdesk.WhatsApp
