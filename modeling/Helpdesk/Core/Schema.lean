import Mathlib.Data.Rat.Defs
import Helpdesk.Core.Basic
import Helpdesk.Core.ChannelMetadata
import Helpdesk.Core.Json
import Helpdesk.Core.Text
import Helpdesk.Library.Table

/-! # The database

One record field a table, one structure a row. The primary key is the table's key and not a field
of the row. Columns that no modelled function reads or assigns are left out: `created_at` of most tables,
which the database fills in, and those that are only there for functions outside of the model.

A CHECK constraint that a table declares is a field of its row type, so that a stored row satisfies
it by construction; the module that writes a table is where a violation is raised. -/

namespace Helpdesk

/-- A row of `organizations`. -/
structure Organization where
  chatWidgetKey : String
  whatsappPhoneNumberId : Option String
  supportEmailAddress : Option String
  timezone : String
  businessHours : JsonObject

/-- A row of `users`. -/
structure User where
  organizationId : Option Uuid
  name : String
  email : String
  role : UserRole
  passwordHash : Option String
  status : UserStatus
  phoneNumber : Option String
  deriving DecidableEq

/-- A SHA-256 digest. -/
abbrev Digest := BitVec 256

/-- A row of `refresh_tokens`. -/
structure RefreshToken where
  userId : Uuid
  tokenHash : Digest
  familyId : Uuid
  revokedAt : Option Int
  expiresAt : Int
  deriving DecidableEq

/-- A row of `invite_tokens`. -/
structure InviteToken where
  userId : Uuid
  tokenHash : Digest
  expiresAt : Int
  usedAt : Option Int
  revokedAt : Option Int
  deriving DecidableEq

/-- The rows under the partial unique index on `user_id`. -/
def InviteToken.Outstanding (row : InviteToken) : Prop := row.usedAt = none ∧ row.revokedAt = none

instance (row : InviteToken) : Decidable row.Outstanding := by
  unfold InviteToken.Outstanding
  infer_instance

/-- A row of `properties`. -/
structure Property where
  organizationId : Uuid
  ownerId : Uuid
  address : String
  type : PropertyType
  deletedAt : Option Int
  deriving DecidableEq

/-- A row of `contracts`. A date is the number of its day. -/
structure Contract where
  propertyId : Uuid
  tenantId : Uuid
  startDate : Int
  endDate : Int
  status : ContractStatus
  end_date_after_start_date : startDate ≤ endDate
  deriving DecidableEq

/-- A row of `categories`. -/
structure Category where
  organizationId : Uuid
  name : String
  description : Option String
  active : Bool
  deriving DecidableEq

/-- A row of `urgency_levels`. -/
structure UrgencyLevel where
  organizationId : Uuid
  name : String
  description : Option String
  slaHours : Int
  sortOrder : Int
  active : Bool
  respectsBusinessHours : Bool
  deriving DecidableEq

/-! ## Tickets

The columns are a structure of their own, without the CHECKs, because a service assigns to them one after
the other; `Ticket` adds the CHECKs. What a flush stores goes from the first type to the second one. -/

/-- The columns of `tickets`. -/
structure TicketColumns where
  organizationId : Uuid
  userId : Uuid
  propertyId : Option Uuid
  contractId : Option Uuid
  title : String
  description : Option String
  categoryId : Option Uuid
  urgencyId : Option Uuid
  channel : TicketChannel
  status : TicketStatus
  classificationStatus : ClassificationStatus
  agentId : Option Uuid
  slaDueAt : Option Int
  closedAt : Option Int
  channelMetadata : Option Metadata
  createdAt : Int
  deriving DecidableEq

namespace TicketColumns

/-- `ck_tickets_classified_has_taxonomy`. -/
def ClassifiedHasTaxonomy (c : TicketColumns) : Prop :=
  c.classificationStatus ≠ .classified ∨
    (c.categoryId ≠ none ∧ c.urgencyId ≠ none ∧ c.slaDueAt ≠ none)

/-- `ck_tickets_closed_at_matches_status`. -/
def ClosedAtMatchesStatus (c : TicketColumns) : Prop :=
  c.status = .closed ↔ c.closedAt ≠ none

/-- `ck_tickets_title_not_blank`. -/
def TitleNotBlank (c : TicketColumns) : Prop := Text.btrim c.title ≠ ""

instance (c : TicketColumns) : Decidable c.ClassifiedHasTaxonomy := by
  unfold ClassifiedHasTaxonomy
  infer_instance

instance (c : TicketColumns) : Decidable c.ClosedAtMatchesStatus := by
  unfold ClosedAtMatchesStatus
  infer_instance

instance (c : TicketColumns) : Decidable c.TitleNotBlank := by
  unfold TitleNotBlank
  infer_instance

end TicketColumns

/-- A row of `tickets`. -/
structure Ticket extends TicketColumns where
  classified_has_taxonomy : toTicketColumns.ClassifiedHasTaxonomy
  closed_at_matches_status : toTicketColumns.ClosedAtMatchesStatus
  title_not_blank : toTicketColumns.TitleNotBlank
  deriving DecidableEq

/-- A row of `messages`. -/
structure Message where
  ticketId : Uuid
  authorType : AuthorType
  content : String
  isAiSuggestion : Bool
  basedOnSuggestionId : Option Uuid
  content_not_blank : Text.btrim content ≠ ""
  deriving DecidableEq

/-- A row of `sla_events`. -/
structure SlaEvent where
  organizationId : Uuid
  ticketId : Uuid
  event : SlaEventType
  occurredAt : Int
  slaDueAt : Option Int
  deriving DecidableEq

/-- A row of `notifications`. -/
structure Notification where
  organizationId : Uuid
  userId : Uuid
  ticketId : Option Uuid
  slaEventId : Option Uuid
  kind : NotificationKind
  title : String
  title_not_blank : Text.btrim title ≠ ""
  deriving DecidableEq

/-- A row of `classifications`. The table is keyed by its unique `ticket_id`. -/
structure Classification where
  predictedCategory : Option String
  confidence : Option ℚ
  humanCorrected : Bool
  modelUsed : Option ModelUsed
  predictedUrgency : Option String
  urgencyConfidence : Option ℚ
  deriving DecidableEq

/-! ## Chat -/

/-- A row of `chat_sessions`. -/
structure ChatSession where
  organizationId : Uuid
  userId : Option Uuid
  ticketId : Option Uuid
  status : ChatSessionStatus
  lowConfidenceStreak : Int
  lastActivityAt : Int
  channel : TicketChannel
  escalatedAt : Option Int
  channelMetadata : Option Metadata
  ticket_requires_user : ticketId = none ∨ userId ≠ none
  deriving DecidableEq

/-- A row of `chat_messages`. -/
structure ChatMessage where
  chatSessionId : Uuid
  role : ChatMessageRole
  content : String
  toolName : Option String
  toolCallId : Option String
  createdAt : Int
  tool_name_iff_role_tool : role = .tool ↔ toolName ≠ none
  content_not_blank_unless_assistant : role = .assistant ∨ Text.btrim content ≠ ""
  deriving DecidableEq

/-! ## Knowledge base -/

/-- The columns of `knowledge_base`. -/
structure KnowledgeBaseColumns where
  organizationId : Uuid
  title : String
  content : String
  sourceType : Option String
  status : KnowledgeBaseStatus
  embeddingError : Option String
  deriving DecidableEq

/-- A row of `knowledge_base`. -/
structure KnowledgeBase extends KnowledgeBaseColumns where
  content_not_blank : Text.btrim content ≠ ""
  failed_requires_embedding_error : status ≠ .failed ∨ embeddingError ≠ none
  title_not_blank : Text.btrim title ≠ ""
  deriving DecidableEq

/-- A row of `knowledge_chunks`. -/
structure KnowledgeChunk where
  knowledgeBaseId : Uuid
  organizationId : Uuid
  chunkIndex : Nat
  content : String
  tokenCount : Nat
  embedding : List ℚ
  content_not_blank : Text.btrim content ≠ ""
  token_count_positive : 0 < tokenCount
  deriving DecidableEq

/-! ## All tables -/

structure Db where
  organizations : Table Uuid Organization
  users : Table Uuid User
  refreshTokens : Table Uuid RefreshToken
  inviteTokens : Table Uuid InviteToken
  properties : Table Uuid Property
  contracts : Table Uuid Contract
  categories : Table Uuid Category
  urgencyLevels : Table Uuid UrgencyLevel
  tickets : Table Uuid Ticket
  messages : Table Uuid Message
  slaEvents : Table Uuid SlaEvent
  notifications : Table Uuid Notification
  classifications : Table Uuid Classification
  chatSessions : Table Uuid ChatSession
  chatMessages : Table Uuid ChatMessage
  knowledgeBases : Table Uuid KnowledgeBase
  knowledgeChunks : Table Uuid KnowledgeChunk

/-- A database without rows. -/
def Db.empty : Db where
  organizations := ∅
  users := ∅
  refreshTokens := ∅
  inviteTokens := ∅
  properties := ∅
  contracts := ∅
  categories := ∅
  urgencyLevels := ∅
  tickets := ∅
  messages := ∅
  slaEvents := ∅
  notifications := ∅
  classifications := ∅
  chatSessions := ∅
  chatMessages := ∅
  knowledgeBases := ∅
  knowledgeChunks := ∅

end Helpdesk
