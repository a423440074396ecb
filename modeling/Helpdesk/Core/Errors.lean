import Helpdesk.Core.Schema
import Helpdesk.Library.Weakest
import Helpdesk.Sla.DueAt

/-! # What services raise

The exceptions of the service layer, and the database errors that a flush turns into
`IntegrityError`. Every service is a `Service`: a transaction over the database that may raise one of
these.

The texts are the program's: `Raised.message` is what an endpoint answers with, and `Constraint.name` is the
name by which a handler would tell the violations of a table apart. -/

namespace Helpdesk

/-- The constraints a flush can violate. -/
inductive Constraint where
  | ticketsClassifiedHasTaxonomy
  | ticketsClosedAtMatchesStatus
  | ticketsTitleNotBlank
  | messagesContentNotBlank
  | chatSessionsTicketRequiresUser
  | chatMessagesContentNotBlankUnlessAssistant
  | chatMessagesToolNameIffRoleTool
  | classificationsConfidenceRange
  | classificationsUrgencyConfidenceRange
  | notificationsTitleNotBlank
  | knowledgeBaseContentNotBlank
  | knowledgeBaseTitleNotBlank
  | knowledgeBaseFailedRequiresEmbeddingError
  | knowledgeChunksContentNotBlank
  | knowledgeChunksTokenCountPositive
  | knowledgeChunksKbIdChunkIndex
  | usersEmailLowerUnique
  | usersPhoneNumberUnique
  | primaryKey
  | foreignKey
  deriving DecidableEq, Repr

/-- The constraint's name in the schema, for those that the models name. -/
def Constraint.name : Constraint → String
  | .ticketsClassifiedHasTaxonomy => "ck_tickets_classified_has_taxonomy"
  | .ticketsClosedAtMatchesStatus => "ck_tickets_closed_at_matches_status"
  | .ticketsTitleNotBlank => "ck_tickets_title_not_blank"
  | .messagesContentNotBlank => "ck_messages_content_not_blank"
  | .chatSessionsTicketRequiresUser => "ck_chat_sessions_ticket_requires_user"
  | .chatMessagesContentNotBlankUnlessAssistant =>
    "ck_chat_messages_content_not_blank_unless_assistant"
  | .chatMessagesToolNameIffRoleTool => "ck_chat_messages_tool_name_iff_role_tool"
  | .classificationsConfidenceRange => "ck_classifications_confidence_range"
  | .classificationsUrgencyConfidenceRange => "ck_classifications_urgency_confidence_range"
  | .notificationsTitleNotBlank => "ck_notifications_title_not_blank"
  | .knowledgeBaseContentNotBlank => "ck_knowledge_base_content_not_blank"
  | .knowledgeBaseTitleNotBlank => "ck_knowledge_base_title_not_blank"
  | .knowledgeBaseFailedRequiresEmbeddingError => "ck_knowledge_base_failed_requires_embedding_error"
  | .knowledgeChunksContentNotBlank => "ck_knowledge_chunks_content_not_blank"
  | .knowledgeChunksTokenCountPositive => "ck_knowledge_chunks_token_count_positive"
  | .knowledgeChunksKbIdChunkIndex => "ix_knowledge_chunks_kb_id_chunk_index"
  | .usersEmailLowerUnique => "ix_users_email_lower_unique"
  | .usersPhoneNumberUnique => "ix_users_phone_number_unique"
  | .primaryKey => "pkey"
  | .foreignKey => "fkey"

inductive Raised where
  /-- `NotFoundError(name, id)` -/
  | notFound (name : String) (id : Option Uuid)
  | integrityError (c : Constraint)
  /-- `StaleDataError`: an UPDATE or DELETE of a row that is gone -/
  | staleData
  | multipleResultsFound
  | contractPropertyMismatch (contractId propertyId : Uuid)
  | contractNotActive (contractId : Uuid)
  | categoryInactive (categoryId : Uuid)
  | urgencyInactive (urgencyId : Uuid)
  | invalidAgent
  | forbidden (message : String)
  | slaError (e : Sla.SlaError)
  /-- `ZoneInfoNotFoundError` -/
  | zoneInfoNotFound (key : String)
  /-- `arq.Retry(defer=...)` -/
  | retry (defer : Nat)
  /-- `next()` on an exhausted iterator -/
  | stopIteration
  /-- a `dict` without that key -/
  | keyError (key : String)
  | indexError
  /-- a call with arguments that the callee does not take -/
  | typeError
  | attributeError
  | valueError
  | jsonDecodeError
  /-- a value that the driver cannot encode for its column -/
  | dataError
  /-- `InvalidSuggestionReferenceError` -/
  | invalidSuggestionReference (suggestionId : Option Uuid)
  | crossOrgSenderConflict (organizationId : Uuid) (existingUserOrganizationId : Option Uuid)
    (channel : TicketChannel)
  /-- `ConflictError(message)` -/
  | conflict (message : String)
  /-- `HTTPException(status_code)` -/
  | httpException (statusCode : Nat)
  /-- an exception of a library that nobody catches -/
  | uncaught
  deriving DecidableEq

/-- `str(id)`, or `None`. -/
def optionalUuidStr (id : Option Uuid) : String :=
  match id with
  | some id => uuidStr id
  | none => "None"

/-- `str(exc)` of the service errors that carry a text. -/
def Raised.message : Raised → Option String
  | .notFound name id =>
    some (name ++ " not found: " ++ optionalUuidStr id)
  | .contractPropertyMismatch contractId propertyId =>
    some ("contract " ++ uuidStr contractId ++ " does not belong to property " ++
      uuidStr propertyId)
  | .contractNotActive contractId => some ("contract " ++ uuidStr contractId ++ " is not active")
  | .categoryInactive categoryId => some ("category " ++ uuidStr categoryId ++ " is inactive")
  | .urgencyInactive urgencyId => some ("urgency level " ++ uuidStr urgencyId ++ " is inactive")
  | .invalidAgent => some "agent_id must reference a user with role 'agent' or 'admin'"
  | .forbidden message => some message
  | .invalidSuggestionReference none => some "a message cannot be based on itself"
  | .invalidSuggestionReference (some id) =>
    some ("based_on_suggestion_id " ++ uuidStr id ++ " does not reference an " ++
      "AI-suggestion message on this ticket")
  | .crossOrgSenderConflict organizationId existingUserOrganizationId channel =>
    some ("sender already belongs to a different organization (" ++
      optionalUuidStr existingUserOrganizationId ++ ", requested " ++ uuidStr organizationId ++
      ", channel=" ++ channel.value ++ ")")
  | .conflict message => some message
  | .integrityError _ | .staleData | .multipleResultsFound | .slaError _ | .zoneInfoNotFound _
  | .httpException _ | .retry _ | .stopIteration | .keyError _ | .indexError | .typeError | .attributeError | .valueError
  | .jsonDecodeError | .dataError | .uncaught => none

/-- A service function, run within the caller's session. -/
abbrev Service (α : Type) := Tx Db Raised α

/-- A violation found at flush. -/
def raiseConstraint {α : Type} (x : Except Constraint α) : Service α :=
  match x with
  | .ok a => pure a
  | .error c => Tx.raise (.integrityError c)

@[simp] theorem wp_raiseConstraint {α : Type} {x : Except Constraint α} {Q : α → Db → Prop}
    {E : Raised → Prop} {db : Db} :
    Tx.wp (raiseConstraint x) Q E db ↔
      (∀ a, x = .ok a → Q a db) ∧ (∀ k, x = .error k → E (.integrityError k)) := by
  cases x with
  | ok a => simp [raiseConstraint]
  | error k => simp [raiseConstraint]

end Helpdesk
