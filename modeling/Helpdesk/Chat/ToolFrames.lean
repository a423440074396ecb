import Helpdesk.Chat.Answerable

/-! # What a tool leaves

The conditions of the later calls of a turn are about what the earlier ones have left. No call takes away
what a turn relies on: the caller and its organization (`SessionFrame`), and the messages of the session,
which a tool does not touch at all (`ToolFrame`) and a turn only adds to (`TurnFrame`). -/

namespace Helpdesk.Chat

open Tx

/-! ## What a tool leaves

Three frames, each weaker than the one before in what may change: a tool leaves the messages, a turn adds to them,
and a part of a turn leaves at least the session's owner and the organization. They are reflexive and
transitive. -/

/-- The organizations and the users stay, and so does the party of the session. -/
structure SessionFrame (ctx : ToolContext) (db db' : Db) : Prop where
  organizations : db'.organizations = db.organizations
  users : db'.users = db.users
  session : ∀ s, db.chatSessions.lookup ctx.chatSessionId = some s →
    ∃ s', db'.chatSessions.lookup ctx.chatSessionId = some s' ∧ s'.organizationId = s.organizationId ∧
      s'.userId = s.userId

/-- What a tool leaves: it writes nothing into the conversation. -/
structure ToolFrame (ctx : ToolContext) (db db' : Db) : Prop extends SessionFrame ctx db db' where
  chatMessages : db'.chatMessages = db.chatMessages

/-- What a part of a turn leaves: rows are added to the conversation. -/
structure TurnFrame (ctx : ToolContext) (db db' : Db) : Prop extends SessionFrame ctx db db' where
  kept : ∀ id row, db.chatMessages.lookup id = some row → db'.chatMessages.lookup id = some row

section
variable {env : Env} {ctx : ToolContext} {db db₁ db' : Db} {d : ToolDraws}

theorem SessionFrame.of_eq (horganizations : db'.organizations = db.organizations) (husers : db'.users = db.users)
    (hsessions : db'.chatSessions = db.chatSessions) : SessionFrame ctx db db' :=
  ⟨horganizations, husers, fun s hs => ⟨s, by rwa [hsessions], rfl, rfl⟩⟩

instance : Std.Refl (SessionFrame ctx) := ⟨fun _ => SessionFrame.of_eq rfl rfl rfl⟩

instance : IsTrans Db (SessionFrame ctx) where
  trans _ _ _ h h' := by
    refine ⟨h'.organizations.trans h.organizations, h'.users.trans h.users, fun s hs => ?_⟩
    obtain ⟨s₁, hs₁, horg₁, huser₁⟩ := h.session s hs
    obtain ⟨s₂, hs₂, horg₂, huser₂⟩ := h'.session s₁ hs₁
    exact ⟨s₂, hs₂, horg₂.trans horg₁, huser₂.trans huser₁⟩

instance : Std.Refl (ToolFrame ctx) := ⟨fun db => ⟨Std.Refl.refl db, rfl⟩⟩

instance : IsTrans Db (ToolFrame ctx) where
  trans _ _ _ h h' :=
    ⟨IsTrans.trans _ _ _ h.toSessionFrame h'.toSessionFrame, h'.chatMessages.trans h.chatMessages⟩

instance : Std.Refl (TurnFrame ctx) := ⟨fun db => ⟨Std.Refl.refl db, fun _ _ hrow => hrow⟩⟩

instance : IsTrans Db (TurnFrame ctx) where
  trans _ _ _ h h' :=
    ⟨IsTrans.trans _ _ _ h.toSessionFrame h'.toSessionFrame,
      fun id row hrow => h'.kept id row (h.kept id row hrow)⟩

theorem ToolFrame.turnFrame (h : ToolFrame ctx db db') : TurnFrame ctx db db' :=
  ⟨h.toSessionFrame, fun _ _ hrow => by rwa [h.chatMessages]⟩

theorem Hosts.frame (h : Hosts ctx db) (hframe : SessionFrame ctx db db') : Hosts ctx db' := by
  obtain ⟨s, hs, horg, hidentified⟩ := h.found
  obtain ⟨s', hs', horg', huser'⟩ := hframe.session s hs
  refine ⟨s', hs', horg'.trans horg, ?_⟩
  rw [huser', hframe.organizations, hframe.users]
  exact hidentified

/-- The session's row is written over. -/
theorem toolFrame_setChatSession {s s' : ChatSession} (h : ToolFrame ctx db db₁)
    (hs : db.chatSessions.lookup ctx.chatSessionId = some s) (horg : s'.organizationId = s.organizationId)
    (huser : s'.userId = s.userId) :
    ToolFrame ctx db { db₁ with
      chatSessions := db₁.chatSessions.modify ctx.chatSessionId fun _ => s' } := by
  refine ⟨⟨h.organizations, h.users, fun s₀ hs₀ => ?_⟩, h.chatMessages⟩
  obtain rfl := Option.some.inj (hs.symm.trans hs₀)
  obtain ⟨s₁, hs₁, -⟩ := h.session s hs
  refine ⟨s', ?_, horg, huser⟩
  show (db₁.chatSessions.modify _ _).lookup _ = _
  rw [Table.lookup_modify_self, hs₁, Option.map_some]

theorem link_party {s linked : ChatSession} {ticketId : Uuid} (h : s.link ticketId = .ok linked) :
    linked.organizationId = s.organizationId ∧ linked.userId = s.userId := by
  unfold ChatSession.link at h
  split at h
  · cases h
    exact ⟨rfl, rfl⟩
  · cases h

theorem frame_addMessage (id ticketId : Uuid) (authorType : AuthorType) (content : String) :
    Tx.Does (ToolFrame ctx) (addMessage id ticketId authorType content) := by
  intro db
  unfold addMessage
  rw [Tx.wp_bind]
  apply Tickets.wp_insertMessage
  intro row _ _ _
  rw [Tx.wp_pure]
  exact ⟨SessionFrame.of_eq rfl rfl rfl, rfl⟩

theorem frame_addMessages (messageIds : Nat → Uuid) (ticketId : Uuid) (items : List (AuthorType × String))
    (n : Nat) : Tx.Does (ToolFrame ctx) (addMessages messageIds ticketId n items) := by
  induction items generalizing n with
  | nil => exact Tx.Does.pure ()
  | cons item items ih =>
    show Tx.Does (ToolFrame ctx) (addMessage _ _ _ _ >>= fun _ => addMessages _ _ _ items)
    exact Tx.Does.bind (frame_addMessage _ _ _ _) fun _ => ih (n + 1)

theorem frame_createService (ctx : ToolContext) {tickets : Tickets.Env} {scope : OrgScope} {ticketId : Uuid} {anchor : Int}
    {p : Tickets.TicketCreate} :
    Tx.Does (ToolFrame ctx) (Tickets.createTicket tickets scope ticketId anchor p) := by
  intro db
  apply Tickets.wp_createTicket_columns _ fun _ _ _ => trivial
  intro row _ _ _ _ _ _ _
  exact ⟨SessionFrame.of_eq rfl rfl rfl, rfl⟩

theorem frame_flushTicket (ctx : ToolContext) (ticketId : Uuid) (loaded assigned : TicketColumns) :
    Tx.Does (ToolFrame ctx) (flushTicket ticketId loaded assigned) := by
  intro db
  apply wp_flushTicket _ (fun _ _ => trivial) fun _ _ _ => trivial
  exact fun _ _ _ _ => ⟨SessionFrame.of_eq rfl rfl rfl, rfl⟩

theorem frame_checkTicketStatus (ticketId : Json) : Tx.Does (ToolFrame ctx) (checkTicketStatus ctx ticketId) := by
  apply Tx.Does.bind
  · cases ticketId with
    | str s => exact Tx.Does.orRaise _ _
    | _ => exact Tx.Does.raise _
  intro ticketId
  apply Tx.Does.bind Tx.Does.store
  intro db
  split
  · exact Tx.Does.pure _
  · exact Tx.Does.ite (Tx.Does.pure _) (Tx.Does.pure _)

theorem frame_createTicket (title description : Json) :
    Tx.Does (ToolFrame ctx) (createTicket env ctx d title description) := by
  apply Tx.Does.bind Tx.Does.store
  intro db₀ db
  rw [Tx.wp_bind]
  apply (looksUp_getOr404 _ _ _ _).wp _ fun _ _ => trivial
  intro chatSession hget
  obtain ⟨-, hs, -⟩ := getOr404_ok.mp hget
  split
  · rw [Tx.wp_bind]
    apply (looksUp_argumentText _).wp _ fun _ _ => trivial
    intro title _
    rw [Tx.wp_bind]
    apply (looksUp_asNullableText _).wp _ fun _ _ => trivial
    intro description _
    rw [Tx.wp_bind]
    apply Tx.wp_mono (frame_createService ctx db) _ fun _ _ => trivial
    intro ticket db₁ hcreated
    have hcopies : Tx.Does (ToolFrame ctx) (copyChatMessagesToTicket ctx d.messageIds d.ticketId) :=
      Tx.Does.bind Tx.Does.store fun _ => frame_addMessages _ _ _ _
    rw [Tx.wp_bind]
    apply Tx.wp_mono (hcopies db₁) _ fun _ _ => trivial
    intro _ db₂ hcopied
    rw [Tx.wp_bind, wp_raiseConstraint]
    refine ⟨fun linked hlink => ?_, fun _ _ => trivial⟩
    obtain ⟨horg, huser⟩ := link_party hlink
    rw [Tx.wp_bind, setChatSession, Tx.wp_bind, Tx.wp_store, Tx.wp_write, Tx.wp_pure]
    exact toolFrame_setChatSession (IsTrans.trans _ _ _ hcreated hcopied) hs horg huser
  · exact Tx.Does.pure _ db

theorem frame_scheduleVisit (ticketId preferredDate notes : Json) :
    Tx.Does (ToolFrame ctx) (scheduleVisit env ctx d ticketId preferredDate notes) := by
  apply Tx.Does.bind (looksUp_getOr404 _ _ _ _).does
  intro chatSession
  split
  · exact Tx.Does.pure _
  · apply Tx.Does.bind (looksUp_visitTicketId _).does
    intro ticketId
    split
    · exact Tx.Does.pure _
    · apply Tx.Does.ite (Tx.Does.pure _)
      apply Tx.Does.bind (looksUp_getOr404 _ _ _ _).does
      intro ticket
      apply Tx.Does.bind (looksUp_argumentText _).does
      intro content
      exact Tx.Does.bind (frame_addMessage _ _ _ _) fun _ => Tx.Does.pure _

theorem wp_escalationTicket_frame {reason : Json} {s : ChatSession} :
    Tx.wp (escalationTicket env ctx d reason s)
      (fun r db' => ToolFrame ctx db db' ∧ r.2.organizationId = s.organizationId ∧ r.2.userId = s.userId)
      (fun _ => True) db := by
  unfold escalationTicket
  split
  · rw [Tx.wp_pure]
    exact ⟨Std.Refl.refl db, rfl, rfl⟩
  · rw [Tx.wp_bind, Tx.wp_store, Tx.wp_bind]
    apply (looksUp_asNullableText _).wp _ fun _ _ => trivial
    intro reason _
    rw [Tx.wp_bind]
    apply Tx.wp_mono (frame_createService ctx db) _ fun _ _ => trivial
    intro ticket db₁ hcreated
    rw [Tx.wp_bind, wp_raiseConstraint]
    refine ⟨fun linked hlink => ?_, fun _ _ => trivial⟩
    rw [Tx.wp_pure]
    exact ⟨hcreated, link_party hlink⟩

theorem frame_escalateToHuman (reason : Json) :
    Tx.Does (ToolFrame ctx) (escalateToHuman env ctx d reason) := by
  intro db
  unfold escalateToHuman
  rw [Tx.wp_bind]
  apply (looksUp_getOr404 _ _ _ _).wp _ fun _ _ => trivial
  intro s hget
  obtain ⟨-, hs, -⟩ := getOr404_ok.mp hget
  dsimp only
  split
  · rw [Tx.wp_bind, setChatSession, Tx.wp_bind, Tx.wp_store, Tx.wp_write, Tx.wp_pure]
    exact toolFrame_setChatSession (Std.Refl.refl db) hs rfl rfl
  · rw [Tx.wp_bind]
    apply Tx.wp_mono wp_escalationTicket_frame _ fun _ _ => trivial
    intro r db₁ h
    obtain ⟨hframe, horg, huser⟩ := h
    rw [Tx.wp_bind]
    apply (looksUp_getOr404 _ _ _ _).wp _ fun _ _ => trivial
    intro ticket _
    rw [Tx.wp_bind]
    apply Tx.wp_mono (frame_flushTicket ctx _ _ _ db₁) _ fun _ _ => trivial
    intro row db₂ hflushed
    rw [Tx.wp_bind, setChatSession, Tx.wp_bind, Tx.wp_store, Tx.wp_write, Tx.wp_pure]
    exact toolFrame_setChatSession (IsTrans.trans _ _ _ hframe hflushed) hs horg huser

theorem frame_callTool (name : String) (args : JsonObject) :
    Tx.Does (ToolFrame ctx) (callTool env ctx d name args) := by
  have hbind : ∀ required optional, Tx.Does (ToolFrame ctx) (bindArguments required optional args) :=
    fun _ _ => Tx.Does.ite (Tx.Does.bind (Tx.Does.orRaise _ _) fun _ => Tx.Does.pure _) (Tx.Does.raise _)
  unfold callTool
  apply Tx.Does.ite
  · apply Tx.Does.bind (hbind _ _)
    intro values
    split
    · exact frame_checkTicketStatus _
    · exact Tx.Does.raise _
  apply Tx.Does.ite
  · apply Tx.Does.bind (hbind _ _)
    intro values
    split
    · exact frame_createTicket _ _
    · exact Tx.Does.raise _
  apply Tx.Does.ite
  · apply Tx.Does.bind (hbind _ _)
    intro values
    split
    · exact frame_scheduleVisit _ _ _
    · exact Tx.Does.raise _
  apply Tx.Does.ite _ (Tx.Does.raise _)
  apply Tx.Does.bind (hbind _ _)
  intro values
  split
  · exact frame_escalateToHuman _
  · exact Tx.Does.raise _

end

end Helpdesk.Chat
