import Helpdesk.WhatsApp.Ingestion

/-! # Sending a WhatsApp reply

`send_whatsapp_reply`, between its read of the session and its commit: the check of the customer-service
window before the call to the WhatsApp Cloud API, what the call may come to, and the reply that is
deferred. -/

namespace Helpdesk.WhatsApp

/-- `_DEFERRED_REPLIES_CAP`. -/
def deferredRepliesCap : Nat := 20

/-- `_META_OUTSIDE_WINDOW_ERROR_CODE`. -/
def metaOutsideWindowErrorCode : Int := 131047

/-- `_outside_customer_window` at the time `now`. -/
def outsideCustomerWindow (chatSession : ChatSession) (windowHours now : Int) : Service Bool :=
  match metadataValue chatSession "last_inbound_at" with
  | none | some "" => pure true
  | some raw =>
    match datetimeFromIsoformat raw with
    | none => pure true
    | some (wall, some offset) => pure (decide (minutes (60 * windowHours) < now - (wall - offset)))
    | some (_, none) => Tx.raise .typeError

/-- The entry for a reply that is deferred at `now`, as its JSON text. -/
def deferredReply (content : String) (now : Int) : String :=
  Json.dumps (.obj
    [("deferred_at", .str (isoformat now)), ("reason", .str "outside_24h_window"),
      ("content", .str content)])

/-- `_record_deferred_reply`, of an entry. -/
def recordDeferredReply (chatSessionId : Uuid) (entry : String) : Service Unit := do
  let db ← Tx.store
  Tx.write { db with
    chatSessions := db.chatSessions.modify chatSessionId fun s =>
      { s with
        channelMetadata := some
          (withAppended s.channelMetadata "deferred_replies" entry (some deferredRepliesCap)) } }

/-- How `whatsapp_client.send_text` ends. -/
inductive SendOutcome where
  | sent
  | whatsappSendError (metaErrorCode : Option Int)
  | otherError
  deriving DecidableEq

/-- The API says that the window has closed in the meantime. -/
def SendOutcome.outsideWindow : SendOutcome → Bool
  | .whatsappSendError metaErrorCode => metaErrorCode = some metaOutsideWindowErrorCode
  | .sent | .otherError => false

end Helpdesk.WhatsApp
