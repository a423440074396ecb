import Helpdesk.Core.Repositories

/-! # Messages on a ticket

`create_message` of the message service. The author type follows from the role of the caller, and so
does whether the message has to be mailed. -/

namespace Helpdesk

/-- INSERT into `messages`. -/
def insertMessage (id ticketId : Uuid) (authorType : AuthorType) (content : String)
    (basedOnSuggestionId : Option Uuid) : Service Message := do
  if h : Text.btrim content ≠ "" then
    let row : Message :=
      { ticketId := ticketId
        authorType := authorType
        content := content
        isAiSuggestion := false
        basedOnSuggestionId := basedOnSuggestionId
        content_not_blank := h }
    let db ← Tx.store
    let messages ← Tx.orRaise (db.messages.insertNew id row) (.integrityError .primaryKey)
    if ticketId ∈ db.tickets then
      Tx.write { db with messages := messages }
      pure row
    else Tx.raise (.integrityError .foreignKey)
  else Tx.raise (.integrityError .messagesContentNotBlank)

namespace Tickets

/-- What `create_message` returns: the row, with the flag that is stashed on it. -/
structure PostedMessage where
  message : Message
  outboundEmailRequired : Bool
  deriving DecidableEq

/-- `_validate_suggestion_reference`, of a reference that may be absent. -/
def validateSuggestionReference (ticketId : Uuid) (basedOnSuggestionId : Option Uuid)
    (newMessageId : Uuid) : Service Unit :=
  match basedOnSuggestionId with
  | none => pure ()
  | some suggestionId =>
    if suggestionId = newMessageId then Tx.raise (.invalidSuggestionReference none)
    else do
      let db ← Tx.store
      match db.messages.lookup suggestionId with
      | none => Tx.raise (.invalidSuggestionReference (some suggestionId))
      | some referenced =>
        if referenced.ticketId ≠ ticketId ∨ ¬ referenced.isAiSuggestion then
          Tx.raise (.invalidSuggestionReference (some suggestionId))
        else pure ()

/-- The author type of a message posted under `scope`. -/
def authorTypeFor (scope : OrgScope) : AuthorType := if scope.role.isStaff then .agent else .user

def createMessage (scope : OrgScope) (newId ticketId : Uuid) (content : String)
    (basedOnSuggestionId : Option Uuid) : Service PostedMessage := do
  let ticket ← scope.getTicket ticketId
  validateSuggestionReference ticketId basedOnSuggestionId newId
  let message ← insertMessage newId ticketId (authorTypeFor scope) content basedOnSuggestionId
  pure ⟨message, ticket.channel = .email && authorTypeFor scope = .agent⟩

variable {scope : OrgScope} {newId ticketId : Uuid} {content : String}
  {basedOnSuggestionId : Option Uuid} {db : Db}

theorem wp_insertMessage {authorType : AuthorType} {Q : Message → Db → Prop}
    (hQ : ∀ row : Message, row.ticketId = ticketId → row.content = content →
      db.messages.lookup newId = none →
      Q row { db with messages := AList.insert newId row db.messages }) :
    Tx.wp (insertMessage newId ticketId authorType content basedOnSuggestionId) Q
      (fun _ => True) db := by
  unfold insertMessage
  split
  · simp only [Tx.wp_bind, Tx.wp_store, Tx.wp_orRaise, Tx.wp_ite, Tx.wp_write, Tx.wp_pure,
      Tx.wp_raise, implies_true, and_true]
    intro messages hinsert _
    obtain ⟨hfresh, rfl⟩ := Table.insertNew_eq_some.mp hinsert
    exact hQ _ rfl rfl hfresh
  · rw [Tx.wp_raise]
    trivial

theorem looksUp_validateSuggestionReference :
    LooksUp (validateSuggestionReference ticketId basedOnSuggestionId newId) := by
  unfold validateSuggestionReference
  split
  · exact LooksUp.pure _
  · apply LooksUp.ite
    · exact LooksUp.raise (by simp)
    · intro db
      rw [Tx.wp_bind, Tx.wp_store]
      split
      · exact LooksUp.raise (by simp) db
      · exact LooksUp.ite (LooksUp.raise (by simp)) (LooksUp.pure _) db

/-- A posted message is on a ticket that the caller sees, and is all that has been written. -/
theorem wp_createMessage {Q : PostedMessage → Db → Prop}
    (hQ : ∀ (ticket : Ticket) (row : Message), db.tickets.lookup ticketId = some ticket →
      scope.selectsTicket db ticket = true → row.ticketId = ticketId → row.content = content →
      db.messages.lookup newId = none →
      Q ⟨row, ticket.channel = .email && authorTypeFor scope = .agent⟩
        { db with messages := AList.insert newId row db.messages }) :
    Tx.wp (createMessage scope newId ticketId content basedOnSuggestionId) Q (fun _ => True) db := by
  unfold createMessage
  rw [Tx.wp_bind]
  apply (looksUp_getOr404 _ _ _ _).wp _ (fun _ _ => trivial)
  intro ticket hget
  obtain ⟨-, hticket, hsees⟩ := getOr404_ok.mp hget
  rw [Tx.wp_bind]
  apply looksUp_validateSuggestionReference.wp _ (fun _ _ => trivial)
  intro _ _
  rw [Tx.wp_bind]
  apply wp_insertMessage
  intro row hid hcontent hfresh
  rw [Tx.wp_pure]
  exact hQ ticket row hticket hsees hid hcontent hfresh

end Tickets

end Helpdesk
