import Helpdesk.Chat.Service
import Helpdesk.Library.UnitOfWork

/-! # What a turn may do to the database

A chat turn runs whatever the model asks for, under the scope of the caller and on one session.
`TurnEffect` says once what can come of it: rows stay, with the organization and the people they
belong to; a new ticket is the caller's own, and there is none unless the session is identified; and
only the turn's own session is linked, to a ticket of the caller's.

**Key results**: `does_openTurn`, `does_runToolCalls` and `does_closeTurn`, for every completion of
the model. -/

namespace Helpdesk

/-- The organization and the reporter of a ticket. -/
def Ticket.reporter (ticket : Ticket) : Uuid × Uuid := (ticket.organizationId, ticket.userId)

/-- The organization and the user of a session. -/
def ChatSession.party (s : ChatSession) : Uuid × Option Uuid := (s.organizationId, s.userId)

/-- The reporter of what is filed under a scope. -/
def OrgScope.reporter (scope : OrgScope) : Uuid × Uuid := (scope.organizationId, scope.userId)

namespace Channels

open Chat UnitOfWork

/-! ## The relations

`reporter` and `party` are the organization and the user of a ticket and of a session. `FilesTickets` is for the parts
that touch no session, `SameParties` for those that touch neither, and both are special cases of `TurnEffect`. All
three are reflexive and transitive. -/

/-- Tickets are filed and changed under `scope`, and no user or session is touched. -/
structure FilesTickets (scope : OrgScope) (db db' : Db) : Prop where
  users : db'.users = db.users
  chatSessions : db'.chatSessions = db.chatSessions
  kept : Kept Ticket.reporter db.tickets db'.tickets
  filed : ∀ id t', db'.tickets.lookup id = some t' →
    (∃ t, db.tickets.lookup id = some t ∧ t'.reporter = t.reporter) ∨ t'.reporter = scope.reporter

/-- What a turn may do. -/
structure TurnEffect (ctx : ToolContext) (db db' : Db) : Prop where
  users : db'.users = db.users
  tickets : Kept Ticket.reporter db.tickets db'.tickets
  chatSessions : Kept ChatSession.party db.chatSessions db'.chatSessions
  filed : ∀ id t', db'.tickets.lookup id = some t' →
    (∃ t, db.tickets.lookup id = some t ∧ t'.reporter = t.reporter) ∨
      t'.reporter = ctx.scope.reporter ∧
        ∃ s, db.chatSessions.lookup ctx.chatSessionId = some s ∧ s.userId ≠ none
  linked : ∀ id s', db'.chatSessions.lookup id = some s' →
    ∃ s, db.chatSessions.lookup id = some s ∧ s'.party = s.party ∧
      (s'.ticketId = s.ticketId ∨ id = ctx.chatSessionId ∧ ∃ ticketId t, s'.ticketId = some ticketId ∧
        db'.tickets.lookup ticketId = some t ∧ t.reporter = ctx.scope.reporter)

/-- Neither users nor tickets nor sessions are touched, nor what a caller has contracts for. -/
structure SameParties (db db' : Db) : Prop where
  users : db'.users = db.users
  tickets : db'.tickets = db.tickets
  chatSessions : db'.chatSessions = db.chatSessions
  contracts : db'.contracts = db.contracts
  properties : db'.properties = db.properties

section
variable {scope : OrgScope} {ctx : ToolContext} {db db₁ db' : Db}

instance : Std.Refl SameParties := ⟨fun _ => ⟨rfl, rfl, rfl, rfl, rfl⟩⟩

instance : IsTrans Db SameParties where
  trans _ _ _ h h' :=
    ⟨h'.users.trans h.users, h'.tickets.trans h.tickets, h'.chatSessions.trans h.chatSessions,
      h'.contracts.trans h.contracts, h'.properties.trans h.properties⟩

theorem SameParties.filesTickets (h : SameParties db db') : FilesTickets scope db db' where
  users := h.users
  chatSessions := h.chatSessions
  kept := by
    rw [h.tickets]
    exact Kept.refl _
  filed id t' ht' := .inl ⟨t', by rwa [← h.tickets], rfl⟩

instance : Std.Refl (FilesTickets scope) :=
  ⟨fun db => SameParties.filesTickets (Std.Refl.refl db)⟩

instance : IsTrans Db (FilesTickets scope) where
  trans _ _ _ h h' :=
    { users := h'.users.trans h.users
      chatSessions := h'.chatSessions.trans h.chatSessions
      kept := h.kept.trans h'.kept
      filed := by
        intro id t'' ht''
        rcases h'.filed id t'' ht'' with ⟨t', ht', heq⟩ | hscope
        · rw [heq]
          exact h.filed id t' ht'
        · exact .inr hscope }

theorem SameParties.turnEffect (h : SameParties db db') : TurnEffect ctx db db' where
  users := h.users
  tickets := by
    rw [h.tickets]
    exact Kept.refl _
  chatSessions := by
    rw [h.chatSessions]
    exact Kept.refl _
  filed id t' ht' := .inl ⟨t', by rwa [← h.tickets], rfl⟩
  linked id s' hs' := ⟨s', by rwa [← h.chatSessions], rfl, .inl rfl⟩

instance : Std.Refl (TurnEffect ctx) := ⟨fun db => SameParties.turnEffect (Std.Refl.refl db)⟩

/-- An identified session was identified before. -/
theorem TurnEffect.identified (h : TurnEffect ctx db db') {id : Uuid}
    (h' : ∃ s, db'.chatSessions.lookup id = some s ∧ s.userId ≠ none) :
    ∃ s, db.chatSessions.lookup id = some s ∧ s.userId ≠ none := by
  obtain ⟨s', hs', huser⟩ := h'
  obtain ⟨s, hs, hparty, -⟩ := h.linked id s' hs'
  refine ⟨s, hs, ?_⟩
  rwa [← (Prod.mk.inj hparty).2]

instance : IsTrans Db (TurnEffect ctx) where
  trans _ _ _ h h' :=
    { users := h'.users.trans h.users
      tickets := h.tickets.trans h'.tickets
      chatSessions := h.chatSessions.trans h'.chatSessions
      filed := by
        intro id t'' ht''
        rcases h'.filed id t'' ht'' with ⟨t', ht', heq⟩ | ⟨hscope, hidentified⟩
        · rw [heq]
          exact h.filed id t' ht'
        · exact .inr ⟨hscope, h.identified hidentified⟩
      linked := by
        intro id s'' hs''
        obtain ⟨s', hs', hparty', hticket'⟩ := h'.linked id s'' hs''
        obtain ⟨s, hs, hparty, hticket⟩ := h.linked id s' hs'
        refine ⟨s, hs, hparty'.trans hparty, ?_⟩
        rcases hticket' with heq' | hnew
        · rw [heq']
          refine hticket.imp_right ?_
          rintro ⟨hid, ticketId, t, hlinked, ht, hreporter⟩
          obtain ⟨t'', ht'', hkept⟩ := h'.tickets ticketId t ht
          exact ⟨hid, ticketId, t'', hlinked, ht'', hkept.trans hreporter⟩
        · exact .inr hnew }

/-- The turn's session is written, after tickets have been filed for it. -/
theorem turnEffect_setChatSession {s s' : ChatSession} (hfiles : FilesTickets ctx.scope db db₁)
    (hs : db.chatSessions.lookup ctx.chatSessionId = some s) (huser : s.userId ≠ none)
    (hparty : s'.party = s.party)
    (hticket : s'.ticketId = s.ticketId ∨ ∃ ticketId t, s'.ticketId = some ticketId ∧
      db₁.tickets.lookup ticketId = some t ∧ t.reporter = ctx.scope.reporter) :
    TurnEffect ctx db { db₁ with
      chatSessions := db₁.chatSessions.modify ctx.chatSessionId fun _ => s' } where
  users := hfiles.users
  tickets := hfiles.kept
  chatSessions := by
    rw [hfiles.chatSessions]
    apply Kept.modify
    intro s₀ hs₀
    obtain rfl : s = s₀ := Option.some.inj (hs.symm.trans hs₀)
    exact hparty
  filed id t' ht' := (hfiles.filed id t' ht').imp_right fun hscope => ⟨hscope, s, hs, huser⟩
  linked := by
    intro id s'' hs''
    rw [hfiles.chatSessions, Table.lookup_modify] at hs''
    split at hs''
    next heq =>
      subst heq
      rw [hs] at hs''
      cases hs''
      exact ⟨s, hs, hparty, hticket.imp_right fun h => ⟨rfl, h⟩⟩
    · exact ⟨s'', hs'', rfl, .inl rfl⟩

/-- The turn's session is written, and nothing else. -/
theorem turnEffect_updateChatSession {s s' : ChatSession}
    (hs : db.chatSessions.lookup ctx.chatSessionId = some s) (hparty : s'.party = s.party)
    (hticket : s'.ticketId = s.ticketId) :
    TurnEffect ctx db { db with
      chatSessions := db.chatSessions.modify ctx.chatSessionId fun _ => s' } where
  users := rfl
  tickets := Kept.refl _
  chatSessions := by
    apply Kept.modify
    intro s₀ hs₀
    obtain rfl : s = s₀ := Option.some.inj (hs.symm.trans hs₀)
    exact hparty
  filed id t' ht' := .inl ⟨t', ht', rfl⟩
  linked := by
    intro id s'' hs''
    rw [Table.lookup_modify] at hs''
    split at hs''
    next heq =>
      subst heq
      rw [hs] at hs''
      cases hs''
      exact ⟨s, hs, hparty, .inl hticket⟩
    · exact ⟨s'', hs'', rfl, .inl rfl⟩

end

/-! ## Rows of the turn

What the turn writes to its own rows: messages of the session and of tickets, and the status, the streak and the
time of the session. None of this changes a party or a reporter. -/

section
variable {env : Chat.Env} {ctx : ToolContext} {scope : OrgScope} {db : Db}

theorem does_turnEffect {α : Type} {x : Service α} (hx : Tx.Does SameParties x) :
    Tx.Does (TurnEffect ctx) x :=
  hx.mono fun _ _ h => h.turnEffect

theorem does_addMessage (id ticketId : Uuid) (authorType : AuthorType) (content : String) :
    Tx.Does SameParties (addMessage id ticketId authorType content) := by
  intro db
  unfold addMessage
  rw [Tx.wp_bind]
  apply Tickets.wp_insertMessage
  intro row _ _ _
  rw [Tx.wp_pure]
  exact ⟨rfl, rfl, rfl, rfl, rfl⟩

theorem does_addMessages (messageIds : Nat → Uuid) (ticketId : Uuid)
    (items : List (AuthorType × String)) (n : Nat) :
    Tx.Does SameParties (addMessages messageIds ticketId n items) := by
  induction items generalizing n with
  | nil => exact Tx.Does.pure ()
  | cons item items ih =>
    show Tx.Does SameParties (addMessage _ _ _ _ >>= fun _ => addMessages _ _ _ items)
    exact Tx.Does.bind (does_addMessage _ _ _ _) fun _ => ih (n + 1)

theorem does_copyChatMessagesToTicket (messageIds : Nat → Uuid) (ticketId : Uuid) :
    Tx.Does SameParties (copyChatMessagesToTicket ctx messageIds ticketId) :=
  Tx.Does.bind Tx.Does.store fun _ => does_addMessages _ _ _ _

theorem does_addChatMessage (id : Uuid) (createdAt : Int) (role : ChatMessageRole) (content : String)
    (toolName toolCallId : Option String) :
    Tx.Does SameParties (addChatMessage ctx id createdAt role content toolName toolCallId) := by
  intro db
  unfold addChatMessage
  split
  · split
    · simp only [Tx.wp_bind, Tx.wp_store, Tx.wp_orRaise, Tx.wp_write, implies_true, and_true]
      exact fun _ _ => ⟨rfl, rfl, rfl, rfl, rfl⟩
    · exact Tx.Does.raise _ db
  · exact Tx.Does.raise _ db

/-- What a ticket that is filed comes to. -/
theorem wp_createTicket_filed {env : Tickets.Env} {ticketId : Uuid} {anchor : Int}
    {p : Tickets.TicketCreate} :
    Tx.wp (Tickets.createTicket env scope ticketId anchor p)
      (fun _ db' => FilesTickets scope db db' ∧
        ∃ t, db'.tickets.lookup ticketId = some t ∧ t.reporter = scope.reporter)
      (fun _ => True) db := by
  apply Tickets.wp_createTicket_columns _ fun _ _ _ => trivial
  intro row _ _ hfresh _ _ hcols _
  have hreporter : row.reporter = scope.reporter := by
    show (row.organizationId, row.userId) = _
    rw [hcols]
    rfl
  refine ⟨⟨rfl, rfl, Kept.insert hfresh, fun id t' ht' => ?_⟩, row, AList.lookup_insert _, hreporter⟩
  rw [Table.lookup_insert] at ht'
  split at ht'
  · cases ht'
    exact .inr hreporter
  · exact .inl ⟨t', ht', rfl⟩

/-- A flush writes neither the organization nor the reporter. -/
theorem does_flushTicket (scope : OrgScope) (ticketId : Uuid) (loaded new : TicketColumns) :
    Tx.Does (FilesTickets scope) (flushTicket ticketId loaded new) := by
  intro db
  apply wp_flushTicket _ (fun _ _ => trivial) fun _ _ _ => trivial
  intro current row hcurrent hcols
  have hreporter : row.reporter = current.reporter := by
    show (row.organizationId, row.userId) = _
    rw [hcols]
    simp [TicketColumns.writeBack, WriteBack.flushAttr, Ticket.reporter]
  refine ⟨rfl, rfl, Kept.modify fun t ht => ?_, fun id t' ht' => ?_⟩
  · obtain rfl : current = t := Option.some.inj (hcurrent.symm.trans ht)
    exact hreporter
  · rw [Table.lookup_modify] at ht'
    split at ht'
    next heq =>
      subst heq
      rw [hcurrent] at ht'
      cases ht'
      exact .inl ⟨current, hcurrent, hreporter⟩
    · exact .inl ⟨t', ht', rfl⟩

/-- The session row is loaded and written. -/
theorem does_updateChatSession {R : Db → Db → Prop} [IsTrans Db R] {α : Type}
    {f : ChatSession → ChatSession} {k : ChatSession → Service α}
    (hset : ∀ db s, db.chatSessions.lookup ctx.chatSessionId = some s →
      R db { db with chatSessions := db.chatSessions.modify ctx.chatSessionId fun _ => f s })
    (hk : ∀ s, Tx.Does R (k s)) :
    Tx.Does R (do
      let chatSession ← getChatSession ctx
      setChatSession ctx (f chatSession)
      k chatSession) := by
  intro db
  rw [Tx.wp_bind]
  apply (looksUp_getOr404 _ _ _ _).wp _ fun _ _ => trivial
  intro chatSession hget
  obtain ⟨-, hs, -⟩ := getOr404_ok.mp hget
  rw [Tx.wp_bind, setChatSession, Tx.wp_bind, Tx.wp_store, Tx.wp_write]
  exact Tx.wp_mono (hk chatSession _) (fun _ _ h => IsTrans.trans _ _ _ (hset db chatSession hs) h)
    fun _ _ => trivial

/-! ## The tools

One lemma for each handler, by the rules for `Does`. A handler links the session to a ticket that it has just
filed under its own scope, or writes to the ticket that the session has. -/

theorem does_checkTicketStatus (ticketId : Json) :
    Tx.Does (TurnEffect ctx) (checkTicketStatus ctx ticketId) := by
  apply Tx.Does.bind
  · cases ticketId with
    | str s => exact Tx.Does.orRaise _ _
    | _ => exact Tx.Does.raise _
  intro ticketId
  apply Tx.Does.bind Tx.Does.store
  intro db
  split
  · exact Tx.Does.pure _
  · exact Tx.Does.ite (Tx.Does.pure _) (Tx.Does.pure _)

/-- A session that is linked is an identified one. -/
theorem link_ok {s linked : ChatSession} {ticketId : Uuid} (h : s.link ticketId = .ok linked) :
    s.userId ≠ none ∧ linked.party = s.party ∧ linked.ticketId = some ticketId := by
  unfold ChatSession.link at h
  split at h
  next huser =>
    cases h
    exact ⟨huser, rfl, rfl⟩
  · cases h

theorem does_createTicket (d : ToolDraws) (title description : Json) :
    Tx.Does (TurnEffect ctx) (Chat.createTicket env ctx d title description) := by
  apply Tx.Does.bind Tx.Does.store
  intro db₀ db
  rw [Tx.wp_bind]
  apply (looksUp_getOr404 _ _ _ _).wp _ fun _ _ => trivial
  intro chatSession hget
  obtain ⟨-, hs, -⟩ := getOr404_ok.mp hget
  split
  · rw [Tx.wp_bind]
    apply (looksUp_argumentText _).wp _ fun _ _ => trivial
    intro title _
    rw [Tx.wp_bind]
    apply (looksUp_asNullableText _).wp _ fun _ _ => trivial
    intro description _
    rw [Tx.wp_bind]
    apply Tx.wp_mono wp_createTicket_filed _ fun _ _ => trivial
    rintro ticket db₁ ⟨hfiles, t, ht, hreporter⟩
    rw [Tx.wp_bind]
    apply Tx.wp_mono (does_copyChatMessagesToTicket _ _ db₁) _ fun _ _ => trivial
    intro _ db₂ hsame
    rw [Tx.wp_bind, wp_raiseConstraint]
    refine ⟨fun linked hlink => ?_, fun _ _ => trivial⟩
    obtain ⟨huser, hparty, hticket⟩ := link_ok hlink
    rw [Tx.wp_bind, setChatSession, Tx.wp_bind, Tx.wp_store, Tx.wp_write, Tx.wp_pure]
    refine turnEffect_setChatSession (IsTrans.trans _ _ _ hfiles hsame.filesTickets) hs huser hparty
      (.inr ⟨_, t, hticket, ?_, hreporter⟩)
    rw [hsame.tickets, ht]
  · exact Tx.Does.pure _ db

theorem does_scheduleVisit (d : ToolDraws) (ticketId preferredDate notes : Json) :
    Tx.Does (TurnEffect ctx) (scheduleVisit env ctx d ticketId preferredDate notes) := by
  apply Tx.Does.bind (looksUp_getOr404 _ _ _ _).does
  intro chatSession
  split
  · exact Tx.Does.pure _
  · apply Tx.Does.bind (looksUp_visitTicketId _).does
    intro ticketId
    split
    · exact Tx.Does.pure _
    · apply Tx.Does.ite (Tx.Does.pure _)
      apply Tx.Does.bind (looksUp_getOr404 _ _ _ _).does
      intro ticket
      apply Tx.Does.bind (looksUp_argumentText _).does
      intro content
      apply Tx.Does.bind (does_turnEffect (does_addMessage _ _ _ _))
      exact fun _ => Tx.Does.pure _

/-- The ticket to escalate is one that the session was linked to, or one that has just been filed. -/
theorem wp_escalationTicket {d : ToolDraws} {reason : Json} {s : ChatSession} :
    Tx.wp (escalationTicket env ctx d reason s)
      (fun r db' => FilesTickets ctx.scope db db' ∧ r.2.party = s.party ∧
        (r.2.ticketId = s.ticketId ∨ s.userId ≠ none ∧ ∃ t, r.2.ticketId = some d.ticketId ∧
          db'.tickets.lookup d.ticketId = some t ∧ t.reporter = ctx.scope.reporter))
      (fun _ => True) db := by
  unfold escalationTicket
  split
  · rw [Tx.wp_pure]
    exact ⟨Std.Refl.refl db, rfl, .inl rfl⟩
  · rw [Tx.wp_bind, Tx.wp_store, Tx.wp_bind]
    apply (looksUp_asNullableText _).wp _ fun _ _ => trivial
    intro reason _
    rw [Tx.wp_bind]
    apply Tx.wp_mono wp_createTicket_filed _ fun _ _ => trivial
    rintro ticket db₁ ⟨hfiles, t, ht, hreporter⟩
    rw [Tx.wp_bind, wp_raiseConstraint]
    refine ⟨fun linked hlink => ?_, fun _ _ => trivial⟩
    obtain ⟨huser, hparty, hticket⟩ := link_ok hlink
    rw [Tx.wp_pure]
    exact ⟨hfiles, hparty, .inr ⟨huser, t, hticket, ht, hreporter⟩⟩

theorem does_escalateToHuman (d : ToolDraws) (reason : Json) :
    Tx.Does (TurnEffect ctx) (escalateToHuman env ctx d reason) := by
  intro db
  unfold escalateToHuman
  rw [Tx.wp_bind]
  apply (looksUp_getOr404 _ _ _ _).wp _ fun _ _ => trivial
  intro s hget
  obtain ⟨-, hs, -⟩ := getOr404_ok.mp hget
  dsimp only
  split
  · rw [Tx.wp_bind, setChatSession, Tx.wp_bind, Tx.wp_store, Tx.wp_write, Tx.wp_pure]
    exact turnEffect_updateChatSession hs rfl rfl
  next userId huser =>
    rw [Tx.wp_bind]
    apply Tx.wp_mono wp_escalationTicket _ fun _ _ => trivial
    rintro ⟨ticketId, linked⟩ db₁ ⟨hfiles, hparty, hticket⟩
    dsimp only
    rw [Tx.wp_bind]
    apply (looksUp_getOr404 _ _ _ _).wp _ fun _ _ => trivial
    intro ticket _
    rw [Tx.wp_bind]
    apply Tx.wp_mono (does_flushTicket ctx.scope _ _ _ db₁) _ fun _ _ => trivial
    intro row db₂ hstatus
    rw [Tx.wp_bind, setChatSession, Tx.wp_bind, Tx.wp_store, Tx.wp_write, Tx.wp_pure]
    refine turnEffect_setChatSession (IsTrans.trans _ _ _ hfiles hstatus) hs (by simp [huser]) hparty ?_
    rcases hticket with hsame | ⟨-, t, hnew, ht, hreporter⟩
    · exact .inl hsame
    · obtain ⟨t', ht', hkept⟩ := hstatus.kept _ t ht
      exact .inr ⟨_, t', hnew, ht', hkept.trans hreporter⟩

theorem does_bindArguments (required optional : List String) (args : JsonObject) :
    Tx.Does (TurnEffect ctx) (bindArguments required optional args) := by
  apply Tx.Does.ite _ (Tx.Does.raise _)
  exact Tx.Does.bind (Tx.Does.orRaise _ _) fun _ => Tx.Does.pure _

theorem does_callTool (d : ToolDraws) (name : String) (args : JsonObject) :
    Tx.Does (TurnEffect ctx) (callTool env ctx d name args) := by
  unfold callTool
  apply Tx.Does.ite
  · apply Tx.Does.bind (does_bindArguments _ _ _)
    intro values
    split
    · exact does_checkTicketStatus _
    · exact Tx.Does.raise _
  apply Tx.Does.ite
  · apply Tx.Does.bind (does_bindArguments _ _ _)
    intro values
    split
    · exact does_createTicket _ _ _
    · exact Tx.Does.raise _
  apply Tx.Does.ite
  · apply Tx.Does.bind (does_bindArguments _ _ _)
    intro values
    split
    · exact does_scheduleVisit _ _ _ _
    · exact Tx.Does.raise _
  apply Tx.Does.ite _ (Tx.Does.raise _)
  apply Tx.Does.bind (does_bindArguments _ _ _)
  intro values
  split
  · exact does_escalateToHuman _ _
  · exact Tx.Does.raise _

/-! ## The turn

The parts of a turn, over whatever calls the model makes: the loop is by induction on the calls. -/

theorem does_openTurn (settings : Chat.Settings) (d : OpenDraws) (content : String)
    (excerpts : List String) : Tx.Does (TurnEffect ctx) (openTurn settings ctx d content excerpts) := by
  apply Tx.Does.bind (looksUp_getOr404 _ _ _ _).does
  intro chatSession
  apply Tx.Does.bind (does_turnEffect (does_addChatMessage _ _ _ _ _ _))
  intro _
  exact Tx.Does.bind Tx.Does.store fun _ => Tx.Does.pure _

theorem does_runToolCall (createdAt : Int) (rowId : Uuid) (d : ToolDraws) (call : ToolCall) :
    Tx.Does (TurnEffect ctx) (runToolCall env ctx createdAt rowId d call) := by
  apply Tx.Does.bind (Tx.Does.orRaise _ _)
  intro args
  apply Tx.Does.ite _ (Tx.Does.raise _)
  apply Tx.Does.bind
  · cases args with
    | obj items => exact Tx.Does.pure items
    | _ => exact Tx.Does.raise _
  intro args
  apply Tx.Does.bind (does_callTool _ _ _)
  intro result
  apply Tx.Does.bind (does_turnEffect (does_addChatMessage _ _ _ _ _ _))
  exact fun _ => Tx.Does.pure _

/-- The tool calls of a completion, whatever they are. -/
theorem does_runToolCalls (createdAt : Int) (d : ReplyDraws) (n : Nat) (calls : List ToolCall) :
    Tx.Does (TurnEffect ctx) (runToolCalls env ctx createdAt d n calls) := by
  induction calls generalizing n with
  | nil => exact Tx.Does.pure []
  | cons call rest ih =>
    apply Tx.Does.bind (does_runToolCall _ _ _ _)
    exact fun _ => Tx.Does.bind (ih (n + 1)) fun _ => Tx.Does.pure _

theorem does_escalateAutomatically (d : ToolDraws) :
    Tx.Does (TurnEffect ctx) (escalateAutomatically env ctx d) := by
  apply Tx.Does.bind (looksUp_getOr404 _ _ _ _).does
  intro chatSession
  apply Tx.Does.ite _ (Tx.Does.pure _)
  apply Tx.Does.bind (does_escalateToHuman _ _)
  intro result
  apply does_updateChatSession (f := fun s => { s with lowConfidenceStreak := 0 })
    fun _ _ hs => turnEffect_updateChatSession hs rfl rfl
  intro escalated
  split
  · exact Tx.Does.bind (Tx.Does.orRaise _ _) fun _ => Tx.Does.pure _
  · exact Tx.Does.pure _

theorem does_closeTurn (createdAt : Int) (d : ReplyDraws) (replyText : String) (lowConfidence : Bool)
    (toolsUsed : List String) :
    Tx.Does (TurnEffect ctx) (closeTurn env ctx createdAt d replyText lowConfidence toolsUsed) := by
  apply Tx.Does.bind (does_turnEffect (does_addChatMessage _ _ _ _ _ _))
  intro _
  apply does_updateChatSession
    (f := fun s => { s with lowConfidenceStreak := if lowConfidence then s.lowConfidenceStreak + 1 else 0 })
    fun _ _ hs => turnEffect_updateChatSession hs rfl rfl
  intro _
  apply Tx.Does.bind (does_escalateAutomatically _)
  intro _
  apply does_updateChatSession (f := fun s => { s with lastActivityAt := d.now })
    fun _ _ hs => turnEffect_updateChatSession hs rfl rfl
  exact fun _ => Tx.Does.pure _

end

end Channels

end Helpdesk
