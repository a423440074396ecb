import Mathlib.Data.Prod.Lex
import Helpdesk.Core.Repositories
import Helpdesk.Library.Window

/-! # What a customer can see

The reading endpoints of the ticket routes, `list_tickets`, `get_ticket` and `list_messages`, with the
masking of the response models.

**`customer_sees_view`**: what they respond to a tenant or an owner depends on the database through
`Snapshot.view` alone, the visible tickets and the messages on them that no AI has suggested. -/

namespace Helpdesk.Tickets

/-! ## Responses

The response models with the fields that are masked. `modelValidate` takes a row and the metadata that the
endpoint has chosen. -/

/-- The part of a ticket's response that comes from its `classifications` row. -/
structure ClassificationMetadata where
  predictedCategory : Option String
  confidence : Option ℚ
  predictedUrgency : Option String
  urgencyConfidence : Option ℚ
  modelUsed : Option ModelUsed
  deriving DecidableEq

def ClassificationMetadata.none : ClassificationMetadata := ⟨.none, .none, .none, .none, .none⟩

/-- `TicketResponse` -/
structure TicketResponse extends ClassificationMetadata where
  id : Uuid
  organizationId : Uuid
  userId : Uuid
  propertyId : Option Uuid
  contractId : Option Uuid
  title : String
  description : Option String
  categoryId : Option Uuid
  urgencyId : Option Uuid
  channel : TicketChannel
  status : TicketStatus
  classificationStatus : ClassificationStatus
  agentId : Option Uuid
  slaDueAt : Option Int
  createdAt : Int
  closedAt : Option Int
  deriving DecidableEq

/-- `TicketResponse.model_validate`, of a row and what is attached to it. -/
def TicketResponse.modelValidate (id : Uuid) (t : Ticket) (metadata : ClassificationMetadata) : TicketResponse where
  toClassificationMetadata := metadata
  id := id
  organizationId := t.organizationId
  userId := t.userId
  propertyId := t.propertyId
  contractId := t.contractId
  title := t.title
  description := t.description
  categoryId := t.categoryId
  urgencyId := t.urgencyId
  channel := t.channel
  status := t.status
  classificationStatus := t.classificationStatus
  agentId := t.agentId
  slaDueAt := t.slaDueAt
  createdAt := t.createdAt
  closedAt := t.closedAt

/-- `MessageResponse` -/
structure MessageResponse where
  id : Uuid
  ticketId : Uuid
  authorType : AuthorType
  content : String
  isAiSuggestion : Bool
  basedOnSuggestionId : Option Uuid
  createdAt : Int
  deriving DecidableEq

def MessageResponse.modelValidate (createdAt : Uuid → Int) (row : Uuid × Message) : MessageResponse where
  id := row.1
  ticketId := row.2.ticketId
  authorType := row.2.authorType
  content := row.2.content
  isAiSuggestion := row.2.isAiSuggestion
  basedOnSuggestionId := row.2.basedOnSuggestionId
  createdAt := createdAt row.1

/-! ## Endpoints

The three reading routes. Staff see the classification and the suggestions, and for anybody else they are left
out before the response is built. -/

/-- The query parameters of `list_tickets`. -/
structure TicketFilters where
  status : Option TicketStatus
  categoryId : Option Uuid
  urgencyId : Option Uuid
  agentId : Option Uuid
  propertyId : Option Uuid

/-- The `WHERE` clauses that `TicketRepository.list` adds. A NULL column equals nothing. -/
def TicketFilters.accepts (filters : TicketFilters) (t : Ticket) : Bool :=
  filters.status.all (t.status = ·) && filters.categoryId.all (t.categoryId = some ·) &&
    filters.urgencyId.all (t.urgencyId = some ·) && filters.agentId.all (t.agentId = some ·) &&
    filters.propertyId.all (t.propertyId = some ·)

section
variable (scope : OrgScope)

/-- `list_tickets`. Nothing is attached to a row here, so that the metadata has its defaults. -/
def listTickets (filters : TicketFilters) : Service (List TicketResponse) := do
  let db ← Tx.store
  let rows := db.tickets.select fun _ t => scope.selectsTicket db t && filters.accepts t
  pure (rows.map fun row => .modelValidate row.1 row.2 .none)

/-- `ClassificationRepository.get_by_ticket_id`, scoped through the row's ticket. -/
def getByTicketId (ticketId : Uuid) : Service (Option Classification) := do
  let db ← Tx.store
  pure ((db.classifications.lookup ticketId).filter fun _ =>
    (db.tickets.lookup ticketId).any fun t => t.organizationId = scope.organizationId)

/-- What `get_ticket` of the service attaches. -/
def ClassificationMetadata.ofRow : Option Classification → ClassificationMetadata
  | some c => ⟨c.predictedCategory, c.confidence, c.predictedUrgency, c.urgencyConfidence, c.modelUsed⟩
  | .none => .none

/-- `get_ticket` -/
def getTicket (ticketId : Uuid) : Service TicketResponse := do
  let ticket ← scope.getTicket ticketId
  let classification ← getByTicketId scope ticketId
  let response := TicketResponse.modelValidate ticketId ticket (.ofRow classification)
  if scope.role.isStaff then pure response
  else pure { response with toClassificationMetadata := .none }

/-- `list_messages`, oldest first. `createdAt` is the column `messages.created_at`. -/
def listMessages (createdAt : Uuid → Int) (ticketId : Uuid) : Service (List MessageResponse) := do
  let _ ← scope.getTicket ticketId
  let db ← Tx.store
  let rows := db.messages.select fun _ m => m.ticketId = ticketId && (scope.role.isStaff || !m.isAiSuggestion)
  pure ((rows.map (.modelValidate createdAt)).insertionSort
    fun a b => toLex (a.createdAt, a.id) ≤ toLex (b.createdAt, b.id))

end

/-! ## The visible part of a database

`view` is what the rule about roles grants, by id and without any order. Suggestions and predictions may be
stored without changing it. -/

/-- A database, with the creation times of its messages. -/
structure Snapshot where
  db : Db
  messageCreatedAt : Uuid → Int

/-- Tickets and messages, by id. -/
structure View where
  ticket : Uuid → Option Ticket
  message : Uuid → Option (Message × Int)

/-- The ticket rows that Rule C lets the scope see, and their messages but for the AI suggestions. -/
def Snapshot.view (scope : OrgScope) (s : Snapshot) : View where
  ticket id := (s.db.tickets.lookup id).filter (scope.selectsTicket s.db)
  message id := (s.db.messages.lookup id).bind fun m =>
    if m.isAiSuggestion then none
    else ((s.db.tickets.lookup m.ticketId).filter (scope.selectsTicket s.db)).map fun _ =>
      (m, s.messageCreatedAt id)

variable {scope : OrgScope} {s s' : Snapshot} {ticketId messageId : Uuid}

theorem view_ticket (id : Uuid) :
    (s.view scope).ticket id = (s.db.tickets.lookup id).filter (scope.selectsTicket s.db) := rfl

/-- Looking up a ticket is looking at the view. -/
theorem exec_getTicket (scope : OrgScope) (s : Snapshot) (ticketId : Uuid) :
    Tx.exec (scope.getTicket ticketId) s.db =
      (((s.view scope).ticket ticketId).elim (.error (.notFound "Ticket" (some ticketId))) .ok, s.db) := by
  rw [view_ticket]
  unfold OrgScope.getTicket getOr404
  rw [Tx.exec_bind, Tx.exec_store]
  dsimp only
  cases s.db.tickets.lookup ticketId with
  | none => rfl
  | some t =>
    by_cases hsees : scope.selectsTicket s.db t = true
    · rw [Option.filter_some_pos hsees]
      simp [hsees]
    · rw [Option.filter_some_neg (by simpa using hsees)]
      simp [hsees]

theorem view_message {m : Message} {createdAt : Int} :
    (s.view scope).message messageId = some (m, createdAt) ↔
      s.db.messages.lookup messageId = some m ∧ m.isAiSuggestion = false ∧
        ((s.view scope).ticket m.ticketId).isSome ∧ s.messageCreatedAt messageId = createdAt := by
  show (s.db.messages.lookup messageId).bind _ = _ ↔ _
  rw [Option.bind_eq_some_iff]
  constructor
  · rintro ⟨m', hm', h⟩
    split at h
    · cases h
    next hai =>
      obtain ⟨t, ht, hpair⟩ := Option.map_eq_some_iff.mp h
      cases hpair
      exact ⟨hm', by simpa using hai, Option.isSome_iff_exists.mpr ⟨t, ht⟩, rfl⟩
  · rintro ⟨hm, hai, hticket, rfl⟩
    obtain ⟨t, ht⟩ := Option.isSome_iff_exists.mp hticket
    refine ⟨m, hm, ?_⟩
    rw [hai]
    exact Option.map_eq_some_iff.mpr ⟨t, ht, rfl⟩

/-- A suggestion on a ticket is not in the view. -/
theorem view_insert_suggestion {m : Message} (hai : m.isAiSuggestion = true) {createdAt : Int}
    (hfresh : s.db.messages.lookup messageId = none) :
    Snapshot.view scope
      { db := { s.db with messages := AList.insert messageId m s.db.messages }
        messageCreatedAt := Function.update s.messageCreatedAt messageId createdAt } = s.view scope := by
  show View.mk _ _ = View.mk _ _
  congr 1
  funext id
  dsimp only
  rw [Table.lookup_insert]
  split
  next heq =>
    rw [heq, hfresh, Option.bind_some, if_pos hai]
    rfl
  next hne =>
    rw [Function.update_of_ne hne]
    rfl

/-- Nor is a prediction. -/
theorem view_insert_classification (c : Classification) :
    Snapshot.view scope
      { s with db := { s.db with classifications := AList.insert ticketId c s.db.classifications } } =
      s.view scope := rfl

/-! ## One endpoint after the other

Each response is computed from the view: the listing up to the order in which the rows come, which the route
does not fix, and the other two exactly. -/

/-- The listing is a listing of the view. -/
theorem listTickets_perm (h : s.view scope = s'.view scope) (filters : TicketFilters) :
    ∃ rows rows', Tx.exec (listTickets scope filters) s.db = (.ok rows, s.db) ∧
      Tx.exec (listTickets scope filters) s'.db = (.ok rows', s'.db) ∧ rows.Perm rows' := by
  refine ⟨_, _, rfl, rfl, List.Perm.map _ (Table.select_perm ?_)⟩
  intro id
  have hid : (s.view scope).ticket id = (s'.view scope).ticket id := by rw [h]
  have hfilter : ∀ s : Snapshot,
      ((s.db.tickets.lookup id).filter fun t => scope.selectsTicket s.db t && filters.accepts t) =
        ((s.view scope).ticket id).filter filters.accepts := by
    intro s
    show _ = ((s.db.tickets.lookup id).filter _).filter _
    rw [Option.filter_filter]
  rw [hfilter, hfilter, hid]

/-- The masked response is a response to a ticket without predictions. -/
theorem getTicket_eq (hrole : scope.role.isStaff = false) (s : Snapshot) (ticketId : Uuid) :
    (Tx.exec (getTicket scope ticketId) s.db).1 =
      ((s.view scope).ticket ticketId).elim (.error (.notFound "Ticket" (some ticketId)))
        fun t => .ok (.modelValidate ticketId t .none) := by
  unfold getTicket
  rw [Tx.exec_bind, exec_getTicket]
  cases (s.view scope).ticket ticketId with
  | none => rfl
  | some t =>
    rw [hrole]
    rfl

/-- The messages on a visible ticket, read off the view. -/
theorem mem_view_message {m : Message} (hticket : ((s.view scope).ticket ticketId).isSome) :
    m ∈ (s.db.messages.lookup messageId).filter (fun m => m.ticketId = ticketId && !m.isAiSuggestion) ↔
      m.ticketId = ticketId ∧ (s.view scope).message messageId = some (m, s.messageCreatedAt messageId) := by
  rw [Option.mem_def, Option.filter_eq_some_iff, view_message]
  constructor
  · rintro ⟨hm, hsel⟩
    obtain ⟨rfl, hai⟩ := by simpa using hsel
    exact ⟨rfl, hm, hai, hticket, rfl⟩
  · rintro ⟨rfl, hm, hai, -, -⟩
    exact ⟨hm, by simp [hai]⟩

/-- The messages that are listed for a customer come from the view. -/
theorem listedRows (h : s.view scope = s'.view scope) (hticket : ((s.view scope).ticket ticketId).isSome) :
    let selected := fun s : Snapshot =>
      s.db.messages.select fun _ m => m.ticketId = ticketId && !m.isAiSuggestion
    (selected s).Perm (selected s') ∧ ∀ row ∈ selected s, s.messageCreatedAt row.1 = s'.messageCreatedAt row.1 := by
  have hticket' : ((s'.view scope).ticket ticketId).isSome := by rwa [← h]
  -- a message that one of the two has in its view, the other has too, with its creation time
  have hmoves : ∀ {a b : Snapshot}, a.view scope = b.view scope → ((a.view scope).ticket ticketId).isSome →
      ((b.view scope).ticket ticketId).isSome → ∀ {k m},
      m ∈ (a.db.messages.lookup k).filter (fun m => m.ticketId = ticketId && !m.isAiSuggestion) →
      m ∈ (b.db.messages.lookup k).filter (fun m => m.ticketId = ticketId && !m.isAiSuggestion) ∧
        a.messageCreatedAt k = b.messageCreatedAt k := by
    intro a b hview ha hb k m hm
    obtain ⟨hid, hmessage⟩ := (mem_view_message ha).mp hm
    rw [hview] at hmessage
    have hcreated : b.messageCreatedAt k = a.messageCreatedAt k := (view_message.mp hmessage).2.2.2
    rw [← hcreated] at hmessage
    exact ⟨(mem_view_message hb).mpr ⟨hid, hmessage⟩, hcreated.symm⟩
  constructor
  · apply Table.select_perm
    intro k
    apply Option.ext
    intro m
    exact ⟨fun hm => (hmoves h hticket hticket' hm).1, fun hm => (hmoves h.symm hticket' hticket hm).1⟩
  · rintro ⟨k, m⟩ hrow
    exact (hmoves h hticket hticket' (Option.filter_eq_some_iff.mpr (Table.mem_select.mp hrow))).2

theorem listMessages_eq (hrole : scope.role.isStaff = false) (h : s.view scope = s'.view scope) (ticketId : Uuid) :
    (Tx.exec (listMessages scope s.messageCreatedAt ticketId) s.db).1 =
      (Tx.exec (listMessages scope s'.messageCreatedAt ticketId) s'.db).1 := by
  unfold listMessages
  rw [Tx.exec_bind, Tx.exec_bind, exec_getTicket, exec_getTicket, ← h]
  cases hticket : (s.view scope).ticket ticketId with
  | none => rfl
  | some t =>
    obtain ⟨hperm, hcreated⟩ := listedRows h (Option.isSome_iff_exists.mpr ⟨t, hticket⟩)
    simp only [hrole, Bool.false_or]
    show Except.ok _ = Except.ok _
    congr 1
    set rows := s.db.messages.select fun _ m => m.ticketId = ticketId && !m.isAiSuggestion
    set rows' := s'.db.messages.select fun _ m => m.ticketId = ticketId && !m.isAiSuggestion
    have hresponses : (rows.map (.modelValidate s.messageCreatedAt)).Perm
        (rows'.map (MessageResponse.modelValidate s'.messageCreatedAt)) := by
      have hsame : rows.map (.modelValidate s.messageCreatedAt) =
          rows.map (MessageResponse.modelValidate s'.messageCreatedAt) := by
        apply List.map_congr_left
        intro row hrow
        unfold MessageResponse.modelValidate
        rw [hcreated row hrow]
      rw [hsame]
      exact hperm.map _
    -- the key of a message contains its id, so that there is one order only
    have hnodup : ((rows.map (MessageResponse.modelValidate s.messageCreatedAt)).map
        fun m => toLex (m.createdAt, m.id)).Nodup := by
      rw [List.map_map]
      apply List.Nodup.of_map (fun key => (ofLex key).2)
      rw [List.map_map]
      exact Table.select_keys_nodup _ _
    exact Window.ordered_congr hnodup hresponses

/-- **A customer sees the view**: two databases with the same visible tickets and the same messages on
    them respond to a tenant or an owner in the same way. -/
theorem customer_sees_view (hrole : scope.role = .tenant ∨ scope.role = .owner)
    (h : s.view scope = s'.view scope) :
    (∀ filters, ∃ rows rows', Tx.exec (listTickets scope filters) s.db = (.ok rows, s.db) ∧
      Tx.exec (listTickets scope filters) s'.db = (.ok rows', s'.db) ∧ rows.Perm rows') ∧
    (∀ ticketId, (Tx.exec (getTicket scope ticketId) s.db).1 = (Tx.exec (getTicket scope ticketId) s'.db).1) ∧
    ∀ ticketId, (Tx.exec (listMessages scope s.messageCreatedAt ticketId) s.db).1 =
      (Tx.exec (listMessages scope s'.messageCreatedAt ticketId) s'.db).1 := by
  have hstaff : scope.role.isStaff = false := by
    rcases hrole with hrole | hrole
    · rw [hrole]
      rfl
    · rw [hrole]
      rfl
  refine ⟨listTickets_perm h, ?_, listMessages_eq hstaff h⟩
  intro ticketId
  rw [getTicket_eq hstaff, getTicket_eq hstaff, h]

/-! A tenant's ticket, before and after a prediction and a suggestion are stored for it. -/

def viewedTicket : Ticket where
  organizationId := 1
  userId := 7
  propertyId := none
  contractId := none
  title := "no hot water"
  description := none
  categoryId := none
  urgencyId := none
  channel := .web
  status := .open
  classificationStatus := .pending
  agentId := none
  slaDueAt := none
  closedAt := none
  channelMetadata := none
  createdAt := 0
  classified_has_taxonomy := by decide
  closed_at_matches_status := by decide
  title_not_blank := by decide +kernel

def hiddenSuggestion : Message :=
  ⟨5, .bot, "Try the boiler", true, none, by decide +kernel⟩

def beforePrediction : Snapshot :=
  ⟨{ Db.empty with tickets := AList.insert 5 viewedTicket ∅ }, fun _ => 0⟩

def afterPrediction : Snapshot :=
  let classified : Snapshot := { beforePrediction with db := { beforePrediction.db with
    classifications := AList.insert 5 ⟨some "plumbing", some (1 / 2), false, none, none, none⟩ ∅ } }
  { db := { classified.db with messages := AList.insert 9 hiddenSuggestion classified.db.messages }
    messageCreatedAt := Function.update classified.messageCreatedAt 9 3 }

theorem customer_sees_view_prediction :
    (Tx.exec (getTicket ⟨1, 7, .tenant⟩ 5) beforePrediction.db).1 =
      (Tx.exec (getTicket ⟨1, 7, .tenant⟩ 5) afterPrediction.db).1 ∧
    (Tx.exec (listMessages ⟨1, 7, .tenant⟩ beforePrediction.messageCreatedAt 5) beforePrediction.db).1 =
      (Tx.exec (listMessages ⟨1, 7, .tenant⟩ afterPrediction.messageCreatedAt 5) afterPrediction.db).1 := by
  have hview : beforePrediction.view ⟨1, 7, .tenant⟩ = afterPrediction.view ⟨1, 7, .tenant⟩ :=
    ((view_insert_suggestion rfl rfl).trans (view_insert_classification _)).symm
  obtain ⟨-, hticket, hmessages⟩ := customer_sees_view (Or.inl rfl) hview
  exact ⟨hticket 5, hmessages 5⟩

end Helpdesk.Tickets
