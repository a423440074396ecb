import Helpdesk.Chat.Tools
import Helpdesk.Library.Effect

/-! # The rule of the tools

A tool files tickets and messages, and may write the row of its session; `SessionWrite` says what it may put
there. **`ToolRule.callTool`**: a relation that is closed under these writes, `ToolRule`, is one that every
tool call takes the database along, whatever the model has asked for. -/

namespace Helpdesk.Chat

/-- What a tool may do to the row of its session. -/
structure SessionWrite (s s' : ChatSession) : Prop where
  organizationId : s'.organizationId = s.organizationId
  userId : s'.userId = s.userId
  lowConfidenceStreak : s'.lowConfidenceStreak = s.lowConfidenceStreak
  channelMetadata : s'.channelMetadata = s.channelMetadata
  linked : s.ticketId ≠ none → s'.ticketId ≠ none
  status : s'.status = s.status ∨ s'.status = .escalated
  escalatedAt : ∀ t, s.escalatedAt = some t → s'.escalatedAt = some t

/-- Tickets and messages are written, and nothing else. -/
def Files (db db' : Db) : Prop := ∃ messages tickets, db' = { db with messages := messages, tickets := tickets }

/-- A relation closed under what tools write. -/
structure ToolRule (ctx : ToolContext) (R : Db → Db → Prop) : Prop where
  files : ∀ db db', Files db db' → R db db'
  session : ∀ db s s', db.chatSessions.lookup ctx.chatSessionId = some s → SessionWrite s s' →
    R db { db with chatSessions := db.chatSessions.modify ctx.chatSessionId fun _ => s' }

instance : Std.Refl Files := ⟨fun db => ⟨db.messages, db.tickets, rfl⟩⟩

instance : IsTrans Db Files where
  trans _ _ _ h h' := by
    obtain ⟨_, _, rfl⟩ := h
    obtain ⟨messages, tickets, rfl⟩ := h'
    exact ⟨messages, tickets, rfl⟩

theorem Files.chatSessions {db db' : Db} (h : Files db db') : db'.chatSessions = db.chatSessions := by
  obtain ⟨_, _, rfl⟩ := h
  rfl

/-- `chat_session.ticket_id = ticket_id` -/
theorem SessionWrite.link {s linked : ChatSession} {ticketId : Uuid} (h : s.link ticketId = .ok linked) :
    SessionWrite s linked := by
  unfold ChatSession.link at h
  split at h
  · cases h
    exact ⟨rfl, rfl, rfl, rfl, by simp, .inl rfl, fun _ h => h⟩
  · cases h

/-- What `escalate_to_human` does to the row, apart from the link. -/
theorem SessionWrite.escalate {s s₁ : ChatSession} {now : Int}
    (h : SessionWrite { s with escalatedAt := some (s.escalatedAt.getD now) } s₁) :
    SessionWrite s { s₁ with status := .escalated } where
  organizationId := h.organizationId
  userId := h.userId
  lowConfidenceStreak := h.lowConfidenceStreak
  channelMetadata := h.channelMetadata
  linked := h.linked
  status := .inr rfl
  escalatedAt t ht := h.escalatedAt t (by rw [ht, Option.getD_some])

instance : Std.Refl SessionWrite := ⟨fun _ => ⟨rfl, rfl, rfl, rfl, id, .inl rfl, fun _ h => h⟩⟩

section
variable {env : Env} {ctx : ToolContext} {d : ToolDraws} {db : Db}

/-! ## Tickets and messages

What a handler does to tickets and messages is `Files`. It leaves the sessions, so only the write of the session's
row is left to the relation. -/

theorem files_addMessage (id ticketId : Uuid) (authorType : AuthorType) (content : String) :
    Tx.Does Files (addMessage id ticketId authorType content) := by
  intro db
  unfold addMessage
  rw [Tx.wp_bind]
  apply Tickets.wp_insertMessage
  intro row _ _ _
  rw [Tx.wp_pure]
  exact ⟨_, db.tickets, rfl⟩

theorem files_addMessages (messageIds : Nat → Uuid) (ticketId : Uuid) (items : List (AuthorType × String))
    (n : Nat) : Tx.Does Files (addMessages messageIds ticketId n items) := by
  induction items generalizing n with
  | nil => exact Tx.Does.pure ()
  | cons item items ih =>
    show Tx.Does Files (addMessage _ _ _ _ >>= fun _ => addMessages _ _ _ items)
    exact Tx.Does.bind (files_addMessage _ _ _ _) fun _ => ih (n + 1)

theorem files_copyChatMessagesToTicket (messageIds : Nat → Uuid) (ticketId : Uuid) :
    Tx.Does Files (copyChatMessagesToTicket ctx messageIds ticketId) :=
  Tx.Does.bind Tx.Does.store fun _ => files_addMessages _ _ _ _

theorem files_createTicket {tickets : Tickets.Env} {scope : OrgScope} {ticketId : Uuid} {anchor : Int}
    {p : Tickets.TicketCreate} : Tx.Does Files (Tickets.createTicket tickets scope ticketId anchor p) := by
  intro db
  apply Tickets.wp_createTicket_columns _ fun _ _ _ => trivial
  intro row _ _ _ _ _ _ _
  exact ⟨db.messages, _, rfl⟩

theorem files_flushTicket (ticketId : Uuid) (loaded assigned : TicketColumns) :
    Tx.Does Files (flushTicket ticketId loaded assigned) := by
  intro db
  apply wp_flushTicket _ (fun _ _ => trivial) fun _ _ _ => trivial
  exact fun _ _ _ _ => ⟨db.messages, _, rfl⟩

/-- The ticket to escalate, and the row of a session that has it. -/
theorem wp_escalationTicket_files {reason : Json} {s : ChatSession} :
    Tx.wp (escalationTicket env ctx d reason s) (fun r db' => Files db db' ∧ SessionWrite s r.2)
      (fun _ => True) db := by
  unfold escalationTicket
  split
  · rw [Tx.wp_pure]
    exact ⟨Std.Refl.refl db, Std.Refl.refl s⟩
  · rw [Tx.wp_bind, Tx.wp_store, Tx.wp_bind]
    apply (looksUp_asNullableText _).wp _ fun _ _ => trivial
    intro reason _
    rw [Tx.wp_bind]
    apply Tx.wp_mono (files_createTicket db) _ fun _ _ => trivial
    intro ticket db₁ hcreated
    rw [Tx.wp_bind, wp_raiseConstraint]
    refine ⟨fun linked hlink => ?_, fun _ _ => trivial⟩
    rw [Tx.wp_pure]
    exact ⟨hcreated, .link hlink⟩

end

namespace ToolRule

variable {R : Db → Db → Prop} [Std.Refl R] [IsTrans Db R] {env : Env} {ctx : ToolContext} {d : ToolDraws}
  {db db₁ : Db}

omit [Std.Refl R] in
/-- The session's row is written after tickets and messages. -/
theorem filesAndSession (h : ToolRule ctx R) {s s' : ChatSession} (hfiles : Files db db₁)
    (hs : db.chatSessions.lookup ctx.chatSessionId = some s) (hwrite : SessionWrite s s') :
    R db { db₁ with chatSessions := db₁.chatSessions.modify ctx.chatSessionId fun _ => s' } :=
  IsTrans.trans _ _ _ (h.files db db₁ hfiles)
    (h.session db₁ s s' (by rwa [hfiles.chatSessions]) hwrite)

/-! ## The handlers

The rule for each handler, and with the dispatch the rule for all of them. -/

theorem checkTicketStatus (ticketId : Json) : Tx.Does R (checkTicketStatus ctx ticketId) := by
  apply Tx.Does.bind
  · cases ticketId with
    | str s => exact Tx.Does.orRaise _ _
    | _ => exact Tx.Does.raise _
  intro ticketId
  apply Tx.Does.bind Tx.Does.store
  intro db
  split
  · exact Tx.Does.pure _
  · exact Tx.Does.ite (Tx.Does.pure _) (Tx.Does.pure _)

theorem createTicket (h : ToolRule ctx R) (title description : Json) :
    Tx.Does R (createTicket env ctx d title description) := by
  apply Tx.Does.bind Tx.Does.store
  intro db₀ db
  rw [Tx.wp_bind]
  apply (looksUp_getOr404 _ _ _ _).wp _ fun _ _ => trivial
  intro chatSession hget
  obtain ⟨-, hs, -⟩ := getOr404_ok.mp hget
  split
  · rw [Tx.wp_bind]
    apply (looksUp_argumentText _).wp _ fun _ _ => trivial
    intro title _
    rw [Tx.wp_bind]
    apply (looksUp_asNullableText _).wp _ fun _ _ => trivial
    intro description _
    rw [Tx.wp_bind]
    apply Tx.wp_mono (files_createTicket db) _ fun _ _ => trivial
    intro ticket db₁ hcreated
    rw [Tx.wp_bind]
    apply Tx.wp_mono (files_copyChatMessagesToTicket d.messageIds d.ticketId db₁) _ fun _ _ => trivial
    intro _ db₂ hcopied
    rw [Tx.wp_bind, wp_raiseConstraint]
    refine ⟨fun linked hlink => ?_, fun _ _ => trivial⟩
    rw [Tx.wp_bind, setChatSession, Tx.wp_bind, Tx.wp_store, Tx.wp_write, Tx.wp_pure]
    exact h.filesAndSession (IsTrans.trans _ _ _ hcreated hcopied) hs (.link hlink)
  · exact Tx.Does.pure _ db

theorem scheduleVisit (h : ToolRule ctx R) (ticketId preferredDate notes : Json) :
    Tx.Does R (scheduleVisit env ctx d ticketId preferredDate notes) := by
  apply Tx.Does.bind (looksUp_getOr404 _ _ _ _).does
  intro chatSession
  split
  · exact Tx.Does.pure _
  · apply Tx.Does.bind (looksUp_visitTicketId _).does
    intro ticketId
    split
    · exact Tx.Does.pure _
    · apply Tx.Does.ite (Tx.Does.pure _)
      apply Tx.Does.bind (looksUp_getOr404 _ _ _ _).does
      intro ticket
      apply Tx.Does.bind (looksUp_argumentText _).does
      intro content
      exact Tx.Does.bind ((files_addMessage _ _ _ _).mono h.files) fun _ => Tx.Does.pure _

omit [Std.Refl R] in
theorem escalateToHuman (h : ToolRule ctx R) (reason : Json) : Tx.Does R (escalateToHuman env ctx d reason) := by
  intro db
  unfold Chat.escalateToHuman
  rw [Tx.wp_bind]
  apply (looksUp_getOr404 _ _ _ _).wp _ fun _ _ => trivial
  intro s hget
  obtain ⟨-, hs, -⟩ := getOr404_ok.mp hget
  dsimp only
  split
  · rw [Tx.wp_bind, setChatSession, Tx.wp_bind, Tx.wp_store, Tx.wp_write, Tx.wp_pure]
    exact h.filesAndSession (Std.Refl.refl db) hs (.escalate (Std.Refl.refl _))
  · rw [Tx.wp_bind]
    apply Tx.wp_mono wp_escalationTicket_files _ fun _ _ => trivial
    intro r db₁ hticket
    obtain ⟨hfiled, hwrite⟩ := hticket
    rw [Tx.wp_bind]
    apply (looksUp_getOr404 _ _ _ _).wp _ fun _ _ => trivial
    intro ticket _
    rw [Tx.wp_bind]
    apply Tx.wp_mono (files_flushTicket _ _ _ db₁) _ fun _ _ => trivial
    intro row db₂ hflushed
    rw [Tx.wp_bind, setChatSession, Tx.wp_bind, Tx.wp_store, Tx.wp_write, Tx.wp_pure]
    exact h.filesAndSession (IsTrans.trans _ _ _ hfiled hflushed) hs (.escalate hwrite)

theorem bindArguments (required optional : List String) (args : JsonObject) :
    Tx.Does R (bindArguments required optional args) :=
  Tx.Does.ite (Tx.Does.bind (Tx.Does.orRaise _ _) fun _ => Tx.Does.pure _) (Tx.Does.raise _)

/-- **The rule of the tools** -/
theorem callTool (h : ToolRule ctx R) (name : String) (args : JsonObject) :
    Tx.Does R (callTool env ctx d name args) := by
  unfold Chat.callTool
  apply Tx.Does.ite
  · apply Tx.Does.bind (bindArguments _ _ _)
    intro values
    split
    · exact checkTicketStatus _
    · exact Tx.Does.raise _
  apply Tx.Does.ite
  · apply Tx.Does.bind (bindArguments _ _ _)
    intro values
    split
    · exact h.createTicket _ _
    · exact Tx.Does.raise _
  apply Tx.Does.ite
  · apply Tx.Does.bind (bindArguments _ _ _)
    intro values
    split
    · exact h.scheduleVisit _ _ _
    · exact Tx.Does.raise _
  apply Tx.Does.ite _ (Tx.Does.raise _)
  apply Tx.Does.bind (bindArguments _ _ _)
  intro values
  split
  · exact h.escalateToHuman _
  · exact Tx.Does.raise _

end ToolRule

end Helpdesk.Chat
