import Helpdesk.Channels.Effects
import Helpdesk.Traffic.Steps

/-! # The parts of a turn

What each part of a turn does to the chat: opening it adds the visitor's message, a tool call adds a
`tool` message, and closing it adds the reply. Besides, tickets are filed and the session's row is
written, but never its metadata.

`escalate_to_human` creates a ticket at most for a session that has none, and leaves it with one. -/

namespace Helpdesk.Traffic

open Chat Channels

/-! ## The relations

`ToolEffect` is what every part of a turn keeps, and `Escalates` is what `escalate_to_human` does besides.
`SameChats` is stronger than both and holds of the parts that touch no session at all. -/

def Linked (ctx : ToolContext) (db : Db) : Prop :=
  ∃ s, db.chatSessions.lookup ctx.chatSessionId = some s ∧ s.ticketId ≠ none

def Unlinked (ctx : ToolContext) (db : Db) : Prop :=
  ∃ s, db.chatSessions.lookup ctx.chatSessionId = some s ∧ s.ticketId = none

/-- What a tool may do to the chat. -/
structure ToolEffect (ctx : ToolContext) (db db' : Db) : Prop where
  chatMessages : db'.chatMessages = db.chatMessages
  metadata : ∀ id, (db'.chatSessions.lookup id).map (·.channelMetadata) =
    (db.chatSessions.lookup id).map (·.channelMetadata)
  linked : Linked ctx db → Linked ctx db'
  unlinked : Unlinked ctx db' → Unlinked ctx db

/-- Of all tickets, at most `ticketId` is created; then the session was not linked, and is now. -/
structure Escalates (ctx : ToolContext) (ticketId : Uuid) (db db' : Db) : Prop where
  effect : ToolEffect ctx db db'
  created : ∀ id, db.tickets.lookup id = none → db'.tickets.lookup id ≠ none →
    id = ticketId ∧ Unlinked ctx db ∧ Linked ctx db'

/-- A row is added to the conversation. -/
def Adds (ctx : ToolContext) (id : Uuid) (role : ChatMessageRole) (db db' : Db) : Prop :=
  ∃ row : ChatMessage, row.role = role ∧ row.chatSessionId = ctx.chatSessionId ∧
    db.chatMessages.lookup id = none ∧
    db' = { db with chatMessages := AList.insert id row db.chatMessages }

/-- Neither the conversations nor the sessions are touched. -/
structure SameChats (db db' : Db) : Prop where
  chatMessages : db'.chatMessages = db.chatMessages
  chatSessions : db'.chatSessions = db.chatSessions

section
variable {ctx : ToolContext} {ticketId : Uuid} {db db₁ db' : Db}

instance : Std.Refl SameChats := ⟨fun _ => ⟨rfl, rfl⟩⟩

instance : IsTrans Db SameChats where
  trans _ _ _ h h' := ⟨h'.chatMessages.trans h.chatMessages, h'.chatSessions.trans h.chatSessions⟩

theorem SameChats.toolEffect (h : SameChats db db') : ToolEffect ctx db db' where
  chatMessages := h.chatMessages
  metadata id := by rw [h.chatSessions]
  linked hlinked := by
    unfold Linked at hlinked ⊢
    rwa [h.chatSessions]
  unlinked hunlinked := by
    unfold Unlinked at hunlinked ⊢
    rwa [← h.chatSessions]

instance : Std.Refl (ToolEffect ctx) := ⟨fun db => SameChats.toolEffect (Std.Refl.refl db)⟩

instance : IsTrans Db (ToolEffect ctx) where
  trans _ _ _ h h' :=
    ⟨h'.chatMessages.trans h.chatMessages, fun id => (h'.metadata id).trans (h.metadata id),
      fun hl => h'.linked (h.linked hl), fun hu => h.unlinked (h'.unlinked hu)⟩

instance : Std.Refl (Escalates ctx ticketId) :=
  ⟨fun db => ⟨Std.Refl.refl db, fun _ hnone hsome => absurd hnone hsome⟩⟩

instance : IsTrans Db (Escalates ctx ticketId) where
  trans _ db₁ _ h h' := by
    refine ⟨IsTrans.trans _ _ _ h.effect h'.effect, fun id hnone hsome => ?_⟩
    cases hmid : db₁.tickets.lookup id with
    | none =>
      obtain ⟨hid, hunlinked, hlinked⟩ := h'.created id hmid hsome
      exact ⟨hid, h.effect.unlinked hunlinked, hlinked⟩
    | some t =>
      obtain ⟨hid, hunlinked, hlinked⟩ := h.created id hnone (by simp [hmid])
      exact ⟨hid, hunlinked, h'.effect.linked hlinked⟩

/-- The turn's session is written after steps that have touched neither chats nor sessions. -/
theorem toolEffect_setChatSession {s s' : ChatSession} (hsame : SameChats db db₁)
    (hs : db.chatSessions.lookup ctx.chatSessionId = some s)
    (hmetadata : s'.channelMetadata = s.channelMetadata) (hticket : s.ticketId ≠ none → s'.ticketId ≠ none) :
    ToolEffect ctx db { db₁ with
      chatSessions := db₁.chatSessions.modify ctx.chatSessionId fun _ => s' } := by
  have hs' : (db₁.chatSessions.modify ctx.chatSessionId fun _ => s').lookup ctx.chatSessionId =
      some s' := by
    rw [Table.lookup_modify_self, hsame.chatSessions, hs, Option.map_some]
  refine ⟨hsame.chatMessages, fun id => ?_, ?_, ?_⟩
  · show ((db₁.chatSessions.modify _ _).lookup id).map _ = _
    by_cases heq : id = ctx.chatSessionId
    · rw [heq, hs', hs, Option.map_some, Option.map_some, hmetadata]
    · rw [Table.lookup_modify_of_ne _ heq, hsame.chatSessions]
  · rintro ⟨s₀, hs₀, hlinked⟩
    obtain rfl : s = s₀ := Option.some.inj (hs.symm.trans hs₀)
    exact ⟨s', hs', hticket hlinked⟩
  · rintro ⟨s₀, hs₀, hnone⟩
    obtain rfl : s' = s₀ := Option.some.inj (hs'.symm.trans hs₀)
    exact ⟨s, hs, by_contra fun hlinked => hticket hlinked hnone⟩

/-- The turn's session is written, and nothing else. -/
theorem escalates_updateChatSession {s s' : ChatSession}
    (hs : db.chatSessions.lookup ctx.chatSessionId = some s)
    (hmetadata : s'.channelMetadata = s.channelMetadata) (hticket : s'.ticketId = s.ticketId) :
    Escalates ctx ticketId db { db with
      chatSessions := db.chatSessions.modify ctx.chatSessionId fun _ => s' } :=
  ⟨toolEffect_setChatSession (Std.Refl.refl db) hs hmetadata (by rw [hticket]; exact id),
    fun _ hnone hsome => absurd hnone hsome⟩

end

/-! ## The tools

One lemma for each tool, by the rules for `Does`: the relation holds of a sequence if it holds of its parts.
`escalate_to_human` is the only one with something to say. -/

section
variable {env : Env} {ctx : ToolContext} {scope : OrgScope} {db : Db}

theorem sameChats_addMessage (id ticketId : Uuid) (authorType : AuthorType) (content : String) :
    Tx.Does SameChats (addMessage id ticketId authorType content) := by
  intro db
  unfold addMessage
  rw [Tx.wp_bind]
  apply Tickets.wp_insertMessage
  intro row _ _ _
  rw [Tx.wp_pure]
  exact ⟨rfl, rfl⟩

theorem sameChats_addMessages (messageIds : Nat → Uuid) (ticketId : Uuid)
    (items : List (AuthorType × String)) (n : Nat) :
    Tx.Does SameChats (addMessages messageIds ticketId n items) := by
  induction items generalizing n with
  | nil => exact Tx.Does.pure ()
  | cons item items ih =>
    show Tx.Does SameChats (addMessage _ _ _ _ >>= fun _ => addMessages _ _ _ items)
    exact Tx.Does.bind (sameChats_addMessage _ _ _ _) fun _ => ih (n + 1)

theorem sameChats_copyChatMessagesToTicket (messageIds : Nat → Uuid) (ticketId : Uuid) :
    Tx.Does SameChats (copyChatMessagesToTicket ctx messageIds ticketId) :=
  Tx.Does.bind Tx.Does.store fun _ => sameChats_addMessages _ _ _ _

/-- A ticket that is filed is the only new one. -/
theorem wp_createTicket_only {env : Tickets.Env} {ticketId : Uuid} {anchor : Int}
    {p : Tickets.TicketCreate} :
    Tx.wp (Tickets.createTicket env scope ticketId anchor p)
      (fun _ db' => SameChats db db' ∧
        ∀ id, db.tickets.lookup id = none → db'.tickets.lookup id ≠ none → id = ticketId)
      (fun _ => True) db := by
  apply Tickets.wp_createTicket_columns _ fun _ _ _ => trivial
  intro row _ _ _ _ _ _ _
  refine ⟨⟨rfl, rfl⟩, fun id hnone hsome => ?_⟩
  by_contra hne
  rw [AList.lookup_insert_ne hne] at hsome
  exact hsome hnone

theorem link_metadata {s linked : ChatSession} {ticketId : Uuid} (h : s.link ticketId = .ok linked) :
    linked.channelMetadata = s.channelMetadata ∧ linked.ticketId ≠ none := by
  unfold ChatSession.link at h
  split at h
  · cases h
    exact ⟨rfl, by simp⟩
  · cases h

theorem does_createTicketTool (d : ToolDraws) (title description : Json) :
    Tx.Does (ToolEffect ctx) (Chat.createTicket env ctx d title description) := by
  apply Tx.Does.bind Tx.Does.store
  intro db₀ db
  rw [Tx.wp_bind]
  apply (looksUp_getOr404 _ _ _ _).wp _ fun _ _ => trivial
  intro chatSession hget
  obtain ⟨-, hs, -⟩ := getOr404_ok.mp hget
  split
  · rw [Tx.wp_bind]
    apply (looksUp_argumentText _).wp _ fun _ _ => trivial
    intro title _
    rw [Tx.wp_bind]
    apply (looksUp_asNullableText _).wp _ fun _ _ => trivial
    intro description _
    rw [Tx.wp_bind]
    apply Tx.wp_mono wp_createTicket_only _ fun _ _ => trivial
    rintro ticket db₁ ⟨hsame, -⟩
    rw [Tx.wp_bind]
    apply Tx.wp_mono (sameChats_copyChatMessagesToTicket _ _ db₁) _ fun _ _ => trivial
    intro _ db₂ hcopies
    rw [Tx.wp_bind, wp_raiseConstraint]
    refine ⟨fun linked hlink => ?_, fun _ _ => trivial⟩
    obtain ⟨hmetadata, hticket⟩ := link_metadata hlink
    rw [Tx.wp_bind, setChatSession, Tx.wp_bind, Tx.wp_store, Tx.wp_write, Tx.wp_pure]
    exact toolEffect_setChatSession (IsTrans.trans _ _ _ hsame hcopies) hs hmetadata fun _ => hticket
  · exact Tx.Does.pure _ db

theorem does_scheduleVisitTool (d : ToolDraws) (ticketId preferredDate notes : Json) :
    Tx.Does (ToolEffect ctx) (scheduleVisit env ctx d ticketId preferredDate notes) := by
  apply Tx.Does.bind (looksUp_getOr404 _ _ _ _).does
  intro chatSession
  split
  · exact Tx.Does.pure _
  · apply Tx.Does.bind (looksUp_visitTicketId _).does
    intro ticketId
    split
    · exact Tx.Does.pure _
    · apply Tx.Does.ite (Tx.Does.pure _)
      apply Tx.Does.bind (looksUp_getOr404 _ _ _ _).does
      intro ticket
      apply Tx.Does.bind (looksUp_argumentText _).does
      intro content
      refine Tx.Does.bind ?_ fun _ => Tx.Does.pure _
      exact (sameChats_addMessage _ _ _ _).mono fun _ _ h => h.toolEffect

theorem does_checkTicketStatusTool (ticketId : Json) :
    Tx.Does (ToolEffect ctx) (checkTicketStatus ctx ticketId) := by
  apply Tx.Does.bind
  · cases ticketId with
    | str s => exact Tx.Does.orRaise _ _
    | _ => exact Tx.Does.raise _
  intro ticketId
  apply Tx.Does.bind Tx.Does.store
  intro db
  split
  · exact Tx.Does.pure _
  · exact Tx.Does.ite (Tx.Does.pure _) (Tx.Does.pure _)

/-- The ticket to escalate: the session's, or else a new one that is the session's now. -/
theorem wp_escalationTicket_only {d : ToolDraws} {reason : Json} {s : ChatSession} :
    Tx.wp (escalationTicket env ctx d reason s)
      (fun r db' => SameChats db db' ∧ r.2.channelMetadata = s.channelMetadata ∧ r.2.ticketId ≠ none ∧
        ∀ id, db.tickets.lookup id = none → db'.tickets.lookup id ≠ none → id = d.ticketId ∧ s.ticketId = none)
      (fun _ => True) db := by
  unfold escalationTicket
  split
  next ticketId hticket =>
    rw [Tx.wp_pure]
    exact ⟨Std.Refl.refl db, rfl, by simp [hticket], fun _ hnone hsome => absurd hnone hsome⟩
  next hnone =>
    rw [Tx.wp_bind, Tx.wp_store, Tx.wp_bind]
    apply (looksUp_asNullableText _).wp _ fun _ _ => trivial
    intro reason _
    rw [Tx.wp_bind]
    apply Tx.wp_mono wp_createTicket_only _ fun _ _ => trivial
    rintro ticket db₁ ⟨hsame, honly⟩
    rw [Tx.wp_bind, wp_raiseConstraint]
    refine ⟨fun linked hlink => ?_, fun _ _ => trivial⟩
    obtain ⟨hmetadata, hticket⟩ := link_metadata hlink
    rw [Tx.wp_pure]
    exact ⟨hsame, hmetadata, hticket, fun id hbefore hafter => ⟨honly id hbefore hafter, hnone⟩⟩

/-- **`escalate_to_human`** -/
theorem does_escalateToHumanTool (d : ToolDraws) (reason : Json) :
    Tx.Does (Escalates ctx d.ticketId) (escalateToHuman env ctx d reason) := by
  intro db
  unfold escalateToHuman
  rw [Tx.wp_bind]
  apply (looksUp_getOr404 _ _ _ _).wp _ fun _ _ => trivial
  intro s hget
  obtain ⟨-, hs, -⟩ := getOr404_ok.mp hget
  dsimp only
  split
  · rw [Tx.wp_bind, setChatSession, Tx.wp_bind, Tx.wp_store, Tx.wp_write, Tx.wp_pure]
    exact escalates_updateChatSession hs rfl rfl
  · rw [Tx.wp_bind]
    apply Tx.wp_mono wp_escalationTicket_only _ fun _ _ => trivial
    rintro ⟨ticketId, linked⟩ db₁ ⟨hsame, hmetadata, hticket, honly⟩
    dsimp only at hmetadata hticket honly ⊢
    rw [Tx.wp_bind]
    apply (looksUp_getOr404 _ _ _ _).wp _ fun _ _ => trivial
    intro ticket _
    rw [Tx.wp_bind]
    apply wp_flushTicket _ (fun _ _ => trivial) fun _ _ _ => trivial
    intro current row hcurrent _
    rw [Tx.wp_bind, setChatSession, Tx.wp_bind, Tx.wp_store, Tx.wp_write, Tx.wp_pure]
    have hflushed : SameChats db { db₁ with tickets := db₁.tickets.modify ticketId fun _ => row } :=
      ⟨hsame.chatMessages, hsame.chatSessions⟩
    refine ⟨toolEffect_setChatSession hflushed hs hmetadata fun _ => hticket, fun id hnone hsome => ?_⟩
    have hsome' : db₁.tickets.lookup id ≠ none := by
      intro hnone'
      apply hsome
      show (db₁.tickets.modify _ _).lookup id = none
      rw [Table.lookup_modify, hnone']
      split <;> rfl
    obtain ⟨hid, hnone'⟩ := honly id hnone hsome'
    refine ⟨hid, ⟨s, hs, hnone'⟩, { linked with status := .escalated }, ?_, hticket⟩
    show (db₁.chatSessions.modify _ _).lookup _ = _
    rw [Table.lookup_modify_self, hsame.chatSessions, hs, Option.map_some]

theorem does_bindArgumentsTool {R : Db → Db → Prop} [Std.Refl R] [IsTrans Db R]
    (required optional : List String) (args : JsonObject) :
    Tx.Does R (bindArguments required optional args) := by
  apply Tx.Does.ite _ (Tx.Does.raise _)
  exact Tx.Does.bind (Tx.Does.orRaise _ _) fun _ => Tx.Does.pure _

theorem does_callToolEffect (d : ToolDraws) (name : String) (args : JsonObject) :
    Tx.Does (ToolEffect ctx) (callTool env ctx d name args) := by
  unfold callTool
  apply Tx.Does.ite
  · apply Tx.Does.bind (does_bindArgumentsTool _ _ _)
    intro values
    split
    · exact does_checkTicketStatusTool _
    · exact Tx.Does.raise _
  apply Tx.Does.ite
  · apply Tx.Does.bind (does_bindArgumentsTool _ _ _)
    intro values
    split
    · exact does_createTicketTool _ _ _
    · exact Tx.Does.raise _
  apply Tx.Does.ite
  · apply Tx.Does.bind (does_bindArgumentsTool _ _ _)
    intro values
    split
    · exact does_scheduleVisitTool _ _ _ _
    · exact Tx.Does.raise _
  apply Tx.Does.ite _ (Tx.Does.raise _)
  apply Tx.Does.bind (does_bindArgumentsTool _ _ _)
  intro values
  split
  · exact (does_escalateToHumanTool _ _).mono fun _ _ h => h.effect
  · exact Tx.Does.raise _

/-- A call of `escalate_to_human`. -/
theorem does_callEscalation (d : ToolDraws) (args : JsonObject) :
    Tx.Does (Escalates ctx d.ticketId) (callTool env ctx d "escalate_to_human" args) := by
  show Tx.Does _ (bindArguments ["reason"] [] args >>= _)
  apply Tx.Does.bind (does_bindArgumentsTool _ _ _)
  intro values
  split
  · exact does_escalateToHumanTool _ _
  · exact Tx.Does.raise _

end

/-! ## The parts

What is known of a part of a turn that has returned, for `openTurn`, one tool call and `closeTurn`. Proofs
about turns in the traffic use these and do not look inside. -/

section
variable {env : Env} {settings : Chat.Settings} {ctx : ToolContext} {db db' : Db}

theorem addChatMessage_ok {id : Uuid} {createdAt : Int} {role : ChatMessageRole} {content : String}
    {toolName toolCallId : Option String}
    (h : Tx.exec (addChatMessage ctx id createdAt role content toolName toolCallId) db = (.ok (), db')) :
    Adds ctx id role db db' := by
  unfold addChatMessage at h
  split at h
  · split at h
    · obtain ⟨_, _, hstore, h₁⟩ := Tx.bind_ok.mp h
      cases hstore
      obtain ⟨chatMessages, _, hinsert, h₂⟩ := Tx.bind_ok.mp h₁
      cases hnew : db.chatMessages.insertNew id _ with
      | none =>
        rw [hnew] at hinsert
        cases hinsert
      | some _ =>
        rw [hnew] at hinsert
        cases hinsert
        cases h₂
        obtain ⟨hfresh, rfl⟩ := Table.insertNew_eq_some.mp hnew
        exact ⟨_, rfl, rfl, hfresh, rfl⟩
    · cases h
  · cases h

/-- **Opening** a turn adds the visitor's message. -/
theorem openTurn_ok {o : OpenDraws} {content : String} {excerpts : List String}
    {offered : List OpenaiMessage × List String}
    (h : Tx.exec (openTurn settings ctx o content excerpts) db = (.ok offered, db')) :
    Adds ctx o.messageId .user db db' := by
  obtain ⟨_, _, hget, h₁⟩ := Tx.bind_ok.mp h
  obtain ⟨rfl, -, -⟩ := getOr404_ok.mp hget
  obtain ⟨_, _, hadd, h₂⟩ := Tx.bind_ok.mp h₁
  obtain ⟨_, _, hstore, h₃⟩ := Tx.bind_ok.mp h₂
  cases hstore
  cases h₃
  exact addChatMessage_ok hadd

/-- **A tool call** does what the tool does, and adds its result. -/
theorem runToolCall_ok {createdAt : Int} {rowId : Uuid} {d : ToolDraws} {call : ToolCall}
    {message : OpenaiMessage}
    (h : Tx.exec (runToolCall env ctx createdAt rowId d call) db = (.ok message, db')) :
    ∃ db₁, ToolEffect ctx db db₁ ∧ (call.name = "escalate_to_human" → Escalates ctx d.ticketId db db₁) ∧
      Adds ctx rowId .tool db₁ db' := by
  obtain ⟨args, _, hloads, h₁⟩ := Tx.bind_ok.mp h
  obtain rfl := (LooksUp.orRaise _ (by simp)).same hloads
  rw [Tx.exec_ite] at h₁
  split at h₁
  · obtain ⟨items, _, hargs, h₂⟩ := Tx.bind_ok.mp h₁
    have hreads : LooksUp (asKeywords args) := by
      cases args with
      | obj items => exact LooksUp.pure items
      | _ => exact LooksUp.raise (by simp)
    obtain rfl := hreads.same hargs
    obtain ⟨result, db₁, hcall, h₃⟩ := Tx.bind_ok.mp h₂
    obtain ⟨_, _, hadd, h₄⟩ := Tx.bind_ok.mp h₃
    cases h₄
    refine ⟨db₁, (does_callToolEffect _ _ _).of_ok hcall, fun hname => ?_, addChatMessage_ok hadd⟩
    rw [hname] at hcall
    exact (does_callEscalation _ _).of_ok hcall
  · cases h₁

theorem does_escalateAutomaticallyTool (d : ToolDraws) :
    Tx.Does (Escalates ctx d.ticketId) (escalateAutomatically env ctx d) := by
  apply Tx.Does.bind (looksUp_getOr404 _ _ _ _).does
  intro chatSession
  apply Tx.Does.ite _ (Tx.Does.pure _)
  apply Tx.Does.bind (does_escalateToHumanTool _ _)
  intro result
  apply does_updateChatSession (R := Escalates ctx d.ticketId)
    (f := fun s => { s with lowConfidenceStreak := 0 })
    fun _ _ hs => escalates_updateChatSession hs rfl rfl
  intro escalated
  split
  · exact Tx.Does.bind (Tx.Does.orRaise _ _) fun _ => Tx.Does.pure _
  · exact Tx.Does.pure _

/-- **Closing** a turn adds the reply, and may escalate. -/
theorem closeTurn_ok {createdAt : Int} {d : ReplyDraws} {replyText : String} {lowConfidence : Bool}
    {toolsUsed : List String} {result : ChatTurnResult}
    (h : Tx.exec (closeTurn env ctx createdAt d replyText lowConfidence toolsUsed) db = (.ok result, db')) :
    ∃ db₁, Adds ctx d.messageId .assistant db db₁ ∧ Escalates ctx d.escalation.ticketId db₁ db' := by
  obtain ⟨_, db₁, hadd, hrest⟩ := Tx.bind_ok.mp h
  refine ⟨db₁, addChatMessage_ok hadd, ?_⟩
  refine Tx.Does.of_ok ?_ hrest
  apply does_updateChatSession (R := Escalates ctx d.escalation.ticketId)
    (f := fun s => { s with lowConfidenceStreak := if lowConfidence then s.lowConfidenceStreak + 1 else 0 })
    fun _ _ hs => escalates_updateChatSession hs rfl rfl
  intro _
  apply Tx.Does.bind (does_escalateAutomaticallyTool _)
  intro _
  apply does_updateChatSession (R := Escalates ctx d.escalation.ticketId)
    (f := fun s => { s with lastActivityAt := d.now })
    fun _ _ hs => escalates_updateChatSession hs rfl rfl
  exact fun _ => Tx.Does.pure _

end

end Helpdesk.Traffic
