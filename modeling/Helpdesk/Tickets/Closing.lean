import Helpdesk.Chat.Tools
import Helpdesk.Library.Run
import Helpdesk.Tickets.Classification

/-! # Closed tickets and `closed_at`

The CHECK `ck_tickets_closed_at_matches_status` ties `status = 'closed'` to `closed_at`. A stored row
satisfies it, so the question is which operations run into it. `update_ticket` assigns both columns
together; `escalate_to_human` assigns the status alone.

**`closing_iff`**: over every run of the operations, none of them fails on this CHECK if and only if
no chat session escalates a linked ticket that is closed. -/

namespace Helpdesk.Tickets

open Run

/-- The operations on tickets, each with its arguments. -/
inductive Op where
  | createTicket (scope : OrgScope) (ticketId : Uuid) (anchor : Int) (p : TicketCreate)
  | updateTicket (scope : OrgScope) (ticketId : Uuid) (patch : TicketPatch) (d : UpdateDraws)
  | classifyTicket (classify : Classifier) (jobTry : Nat) (ticketId organizationId : Uuid)
  | chatCreateTicket (ctx : Chat.ToolContext) (d : Chat.ToolDraws) (title description : Json)
  | chatScheduleVisit (ctx : Chat.ToolContext) (d : Chat.ToolDraws)
      (ticketId preferredDate notes : Json)
  | chatEscalate (ctx : Chat.ToolContext) (d : Chat.ToolDraws) (reason : Json)

namespace Op

/-- The operation, without its answer. -/
def handler (env : Chat.Env) : Op → Service Unit
  | createTicket scope ticketId anchor p =>
    (fun _ => ()) <$> Tickets.createTicket env.toEnv scope ticketId anchor p
  | updateTicket scope ticketId patch d =>
    (fun _ => ()) <$> Tickets.updateTicket env.toEnv scope ticketId patch d
  | classifyTicket classify jobTry ticketId organizationId =>
    Tickets.classifyTicket env.toEnv classify jobTry ticketId organizationId
  | chatCreateTicket ctx d title description =>
    (fun _ => ()) <$> Chat.createTicket env ctx d title description
  | chatScheduleVisit ctx d ticketId preferredDate notes =>
    (fun _ => ()) <$> Chat.scheduleVisit env ctx d ticketId preferredDate notes
  | chatEscalate ctx d reason => (fun _ => ()) <$> Chat.escalateToHuman env ctx d reason

/-- How the operation, run as a transaction of its own, ends. -/
def outcome (env : Chat.Env) (db : Db) (op : Op) : Except Raised Unit :=
  (Tx.settle (op.handler env) db).1

/-- The database after it. -/
def step (env : Chat.Env) (db : Db) (op : Op) : Db := (Tx.settle (op.handler env) db).2

/-- The operation fails on the closing CHECK. -/
def FailsClosing (env : Chat.Env) (db : Db) (op : Op) : Prop :=
  op.outcome env db = .error closingViolation

/-- A session escalates, and the ticket it is linked to is visible to the caller and closed. -/
def EscalatesClosed (db : Db) : Op → Prop
  | chatEscalate ctx _ _ => ∃ chatSession ticketId ticket,
      db.chatSessions.lookup ctx.chatSessionId = some chatSession ∧
      chatSession.organizationId = ctx.scope.organizationId ∧
      chatSession.ticketId = some ticketId ∧
      db.tickets.lookup ticketId = some ticket ∧
      ctx.scope.selectsTicket db ticket = true ∧
      ticket.status = .closed
  | _ => False

end Op

/-! ## Operations that keep clear of the CHECK

By weakest preconditions whose error part is the CHECK itself. Most operations assign neither of the two columns
or both of them, and for an update it matters that nobody has written the row since it was loaded. -/

/-- `x` does not fail on the closing CHECK. -/
def KeepsClear {α : Type} (x : Service α) (Q : α → Db → Prop) (db : Db) : Prop :=
  Tx.wp x Q (· ≠ closingViolation) db

section
variable {env : Env} {scope : OrgScope} {db : Db} {ticketId : Uuid}

/-- A lookup keeps clear, and what follows knows what was looked up. -/
theorem keepsClear_lookup {α β : Type} {x : Service α} {f : α → Service β} {Q : β → Db → Prop}
    (hx : LooksUp x) (hf : ∀ a, Tx.exec x db = (.ok a, db) → KeepsClear (f a) Q db) :
    KeepsClear (x >>= f) Q db := by
  unfold KeepsClear
  rw [Tx.wp_bind]
  exact hx.wp hf fun _ he => he _

theorem keepsClear_createTicket (anchor : Int) (p : TicketCreate) :
    KeepsClear (createTicket env scope ticketId anchor p)
      (fun _ db' => ∃ row, db'.tickets.lookup ticketId = some row ∧ row.closedAt = none) db := by
  apply wp_createTicket
  · exact fun row _ hopen _ _ => ⟨row, AList.lookup_insert _, hopen⟩
  · exact fun _ he => he

theorem keepsClear_updateTicket (patch : TicketPatch) (d : UpdateDraws) :
    KeepsClear (updateTicket env scope ticketId patch d) (fun _ _ => True) db := by
  apply keepsClear_lookup (looksUp_loadTicket _ _)
  intro loaded hload
  apply keepsClear_lookup (looksUp_resolveUpdate _ _ _)
  intro assigned hassigned
  have hcloses : assigned.ClosedAtMatchesStatus := by
    rw [(resolveUpdate_ok hassigned).1]
    exact closedAtMatches_assignStatus patch d.now loaded.closed_at_matches_status
  apply wp_commitUpdate
  · exact fun _ _ _ _ _ _ => trivial
  · exact fun _ he => he
  · -- nobody has been in between, so what is stored is what was assigned
    intro current hrow hviolated
    obtain rfl : current = loaded := Option.some.inj (hrow.symm.trans (loadTicket_ok hload).2.1)
    rw [TicketColumns.writeBack_loaded] at hviolated
    exact absurd hcloses hviolated

theorem keepsClear_classifyTicket (classify : Classifier) (jobTry : Nat) (organizationId : Uuid) :
    KeepsClear (classifyTicket env classify jobTry ticketId organizationId) (fun _ _ => True)
      db := by
  apply wp_classifyTicket
  · exact fun _ _ => trivial
  · exact fun _ _ _ _ _ _ _ => trivial
  · exact fun _ he => he

end

/-! ## The chat tools

A tool is a chain of lookups and writes, and each link keeps clear for itself. The escalation is the only one
that assigns a status. -/

section
variable {env : Chat.Env} {ctx : Chat.ToolContext} {d : Chat.ToolDraws} {db : Db}

theorem keepsClear_addMessage (id ticketId : Uuid) (authorType : AuthorType) (content : String) :
    KeepsClear (Chat.addMessage id ticketId authorType content) (fun _ _ => True) db := by
  unfold KeepsClear Chat.addMessage insertMessage
  split
  · simp
  · simp

theorem keepsClear_addMessages (messageIds : Nat → Uuid) (ticketId : Uuid)
    (items : List (AuthorType × String)) (n : Nat) :
    KeepsClear (Chat.addMessages messageIds ticketId n items) (fun _ _ => True) db := by
  induction items generalizing n db with
  | nil => simp [KeepsClear, Chat.addMessages]
  | cons item items ih =>
    unfold KeepsClear Chat.addMessages
    rw [Tx.wp_bind]
    apply Tx.wp_mono (keepsClear_addMessage _ _ _ _)
    · exact fun _ _ _ => ih _
    · exact fun _ he => he

theorem keepsClear_copyChatMessagesToTicket (messageIds : Nat → Uuid) (ticketId : Uuid) :
    KeepsClear (Chat.copyChatMessagesToTicket ctx messageIds ticketId) (fun _ _ => True) db := by
  apply keepsClear_lookup LooksUp.store
  exact fun _ _ => keepsClear_addMessages _ _ _ _

/-- What a step does next, where the step itself may be any that keeps clear. -/
theorem keepsClear_bind {α β : Type} {x : Service α} {f : α → Service β} {P : α → Db → Prop}
    {Q : β → Db → Prop} (hx : KeepsClear x P db) (hf : ∀ a db', P a db' → KeepsClear (f a) Q db') :
    KeepsClear (x >>= f) Q db := by
  unfold KeepsClear
  rw [Tx.wp_bind]
  exact Tx.wp_mono hx hf fun _ he => he

theorem keepsClear_link (chatSession : ChatSession) (ticketId : Uuid) {Q : ChatSession → Db → Prop}
    (hQ : ∀ linked, chatSession.link ticketId = .ok linked → Q linked db) :
    KeepsClear (raiseConstraint (chatSession.link ticketId)) Q db := by
  unfold KeepsClear
  rw [wp_raiseConstraint]
  refine ⟨hQ, fun k hk => ?_⟩
  simp [ChatSession.link_error hk]

theorem keepsClear_chatCreateTicket (title description : Json) :
    KeepsClear (Chat.createTicket env ctx d title description) (fun _ _ => True) db := by
  apply keepsClear_lookup LooksUp.store
  intro db' _
  apply keepsClear_lookup (looksUp_getOr404 _ _ _ _)
  intro chatSession _
  split
  · apply keepsClear_lookup (Chat.looksUp_argumentText _)
    intro title _
    apply keepsClear_lookup (Chat.looksUp_asNullableText _)
    intro description _
    apply keepsClear_bind (keepsClear_createTicket _ _)
    intro ticket _ _
    apply keepsClear_bind (keepsClear_copyChatMessagesToTicket _ _)
    intro _ _ _
    apply keepsClear_bind (keepsClear_link _ _ (Q := fun _ _ => True) fun _ _ => trivial)
    intro linked _ _
    simp [KeepsClear, Chat.setChatSession]
  · simp [KeepsClear]

theorem keepsClear_scheduleVisit (ticketId preferredDate notes : Json) :
    KeepsClear (Chat.scheduleVisit env ctx d ticketId preferredDate notes) (fun _ _ => True)
      db := by
  apply keepsClear_lookup (looksUp_getOr404 _ _ _ _)
  intro chatSession _
  split
  · simp [KeepsClear]
  · apply keepsClear_lookup (Chat.looksUp_visitTicketId _)
    intro ticketId _
    split
    · simp [KeepsClear]
    · unfold KeepsClear
      rw [Tx.wp_ite]
      refine ⟨fun _ => by simp, fun _ => ?_⟩
      apply keepsClear_lookup (looksUp_getOr404 _ _ _ _)
      intro ticket _
      apply keepsClear_lookup (Chat.looksUp_argumentText _)
      intro content _
      apply keepsClear_bind (keepsClear_addMessage _ _ _ _)
      intro _ _ _
      simp [KeepsClear]

/-- The ticket to escalate, if it is one that the caller sees, has not been closed. -/
theorem keepsClear_escalationTicket {chatSession : ChatSession} (reason : Json)
    (hlinked : ∀ ticketId ticket, chatSession.ticketId = some ticketId →
      db.tickets.lookup ticketId = some ticket → ctx.scope.selectsTicket db ticket = true →
      ticket.closedAt = none) :
    KeepsClear (Chat.escalationTicket env ctx d reason chatSession)
      (fun r db' => ∀ ticket, db'.tickets.lookup r.1 = some ticket →
        ctx.scope.selectsTicket db' ticket = true → ticket.closedAt = none) db := by
  unfold Chat.escalationTicket
  split
  next ticketId h =>
    unfold KeepsClear
    rw [Tx.wp_pure]
    exact fun ticket hrow hsees => hlinked ticketId ticket h hrow hsees
  next h =>
    apply keepsClear_lookup LooksUp.store
    intro db' _
    apply keepsClear_lookup (Chat.looksUp_asNullableText _)
    intro reason _
    apply keepsClear_bind (keepsClear_createTicket _ _)
    rintro _ db₁ ⟨row, hrow, hopen⟩
    apply keepsClear_bind (keepsClear_link _ _ (Q := fun _ db₂ => db₂ = db₁) fun _ _ => rfl)
    rintro linked _ rfl
    unfold KeepsClear
    rw [Tx.wp_pure]
    intro ticket hticket _
    rw [hrow] at hticket
    rw [← Option.some.inj hticket, hopen]

theorem keepsClear_escalateToHuman (reason : Json)
    (h : ¬ Op.EscalatesClosed db (.chatEscalate ctx d reason)) :
    KeepsClear (Chat.escalateToHuman env ctx d reason) (fun _ _ => True) db := by
  apply keepsClear_lookup (looksUp_getOr404 _ _ _ _)
  intro chatSession hget
  obtain ⟨-, hsession, horg⟩ := getOr404_ok.mp hget
  dsimp only
  split
  · simp [KeepsClear, Chat.setChatSession]
  · apply keepsClear_bind (keepsClear_escalationTicket _ _)
    -- the ticket has no `closed_at`, whatever its new status is
    · intro r db₁ hticket
      apply keepsClear_lookup (looksUp_getOr404 _ _ _ _)
      intro ticket hget
      obtain ⟨-, hrow, hsees⟩ := getOr404_ok.mp hget
      unfold KeepsClear
      rw [Tx.wp_bind]
      apply wp_flushTicket
      · intro _ row _ _
        simp [Chat.setChatSession]
      · exact fun _ he => he
      · intro current hcurrent hviolated
        obtain rfl : current = ticket := Option.some.inj (hcurrent.symm.trans hrow)
        rw [TicketColumns.writeBack_loaded] at hviolated
        exact absurd (by simp [TicketColumns.ClosedAtMatchesStatus, hticket current hrow hsees])
          hviolated
    -- a linked ticket that is closed is what the hypothesis rules out
    · intro ticketId ticket hlinked hrow hsees
      by_contra hclosed
      refine h ⟨chatSession, ticketId, ticket, hsession, by simpa using horg, hlinked, hrow, hsees, ?_⟩
      exact ticket.closed_at_matches_status.mpr hclosed

/-- An escalation of a closed ticket runs into the CHECK. -/
theorem escalateToHuman_fails (reason : Json)
    (h : Op.EscalatesClosed db (.chatEscalate ctx d reason)) :
    Tx.wp (Chat.escalateToHuman env ctx d reason) (fun _ _ => False)
      (· = closingViolation) db := by
  obtain ⟨chatSession, ticketId, ticket, hsession, horg, hlinked, hrow, hsees, hclosed⟩ := h
  have huser : chatSession.userId ≠ none :=
    chatSession.ticket_requires_user.resolve_left (by simp [hlinked])
  obtain ⟨userId, huser⟩ := Option.ne_none_iff_exists'.mp huser
  have hcheck : Ticket.check { ticket.toTicketColumns with status := .escalated } =
      .error .ticketsClosedAtMatchesStatus := by
    refine Ticket.check_closed_error.mpr ⟨ticket.classified_has_taxonomy, ?_⟩
    have hat := ticket.closed_at_matches_status.mp hclosed
    simp [TicketColumns.ClosedAtMatchesStatus, hat]
  unfold Chat.escalateToHuman Chat.getChatSession
  rw [Tx.wp_bind, wp_getOr404_of_row hsession (by simpa using horg)]
  simp only [huser, Chat.escalationTicket, hlinked, Tx.wp_bind, Tx.wp_pure]
  unfold OrgScope.getTicket
  rw [wp_getOr404_of_row hrow hsees]
  simp only [flushTicket, Tx.wp_bind, Tx.wp_store, hrow, wp_raiseConstraint,
    TicketColumns.writeBack_loaded]
  simp [hcheck]

end

/-! ## Runs

A run fails where one of its operations does, so the theorem about one operation is what there is to prove. -/

variable {env : Chat.Env}

/-- **One step**: an operation fails on the closing CHECK exactly if it escalates a closed ticket. -/
theorem failsClosing_iff (db : Db) (op : Op) : op.FailsClosing env db ↔ op.EscalatesClosed db := by
  have hclear : ∀ {op : Op}, KeepsClear (op.handler env) (fun _ _ => True) db →
      ¬ op.FailsClosing env db := by
    intro op hclear hfails
    rcases Tx.wp_settle hclear with ⟨a, hok, -⟩ | ⟨e, herror, hne⟩
    · rw [Op.FailsClosing, Op.outcome, hok] at hfails
      cases hfails
    · rw [Op.FailsClosing, Op.outcome, herror] at hfails
      cases hfails
      exact hne rfl
  have hmap : ∀ {α : Type} {x : Service α} {Q : α → Db → Prop}, KeepsClear x Q db →
      KeepsClear ((fun _ => ()) <$> x) (fun _ _ => True) db := by
    intro α x Q hx
    unfold KeepsClear
    rw [Tx.wp_map]
    exact Tx.wp_mono hx (fun _ _ _ => trivial) fun _ he => he
  cases op with
  | createTicket => exact iff_of_false (hclear (hmap (keepsClear_createTicket _ _))) id
  | updateTicket => exact iff_of_false (hclear (hmap (keepsClear_updateTicket _ _))) id
  | classifyTicket => exact iff_of_false (hclear (keepsClear_classifyTicket _ _ _)) id
  | chatCreateTicket => exact iff_of_false (hclear (hmap (keepsClear_chatCreateTicket _ _))) id
  | chatScheduleVisit => exact iff_of_false (hclear (hmap (keepsClear_scheduleVisit _ _ _))) id
  -- the one that may fail
  | chatEscalate ctx d reason =>
    constructor
    · intro hfails
      by_contra hno
      have hkeeps : KeepsClear ((Op.chatEscalate ctx d reason).handler env) (fun _ _ => True) db :=
        hmap (keepsClear_escalateToHuman reason hno)
      exact hclear hkeeps hfails
    · intro hcloses
      have hwp : Tx.wp ((Op.chatEscalate ctx d reason).handler env) (fun _ _ => False)
          (· = closingViolation) db := by
        rw [Op.handler, Tx.wp_map]
        exact escalateToHuman_fails reason hcloses
      rcases Tx.wp_settle hwp with ⟨a, -, hfalse⟩ | ⟨e, herror, rfl⟩
      · exact hfalse.elim
      · rw [Op.FailsClosing, Op.outcome, herror]

/-- **Closing**: in every state that a run reaches, a ticket is closed exactly if it has a
    `closed_at`; and no operation of the run fails on the closing CHECK if and only if none escalates
    a closed ticket. -/
theorem closing_iff (env : Chat.Env) (db : Db) (ops : List Op) :
    (∀ id ticket, (run (Op.step env) db ops).tickets.lookup id = some ticket →
      (ticket.status = .closed ↔ ticket.closedAt ≠ none)) ∧
    (AllSteps (Op.step env) (fun db op => ¬ op.FailsClosing env db) db ops ↔
      AllSteps (Op.step env) (fun db op => ¬ op.EscalatesClosed db) db ops) := by
  refine ⟨fun _ ticket _ => ticket.closed_at_matches_status, ?_⟩
  simp only [failsClosing_iff]

/-! A tenant opens a ticket from the chat, an agent closes it, and the tenant asks for a human. -/

/-- No zone and no JSON is needed here. -/
def closingEnv : Chat.Env where
  zoneInfo := fun _ => none
  lower := id
  loads := fun _ => none
  str := fun _ => ""

theorem unlinked_tenant : (none : Option Uuid) = none ∨ some (10 : Uuid) ≠ none := .inl rfl

/-- An organization with a tenant `10` and an agent `11`, and the tenant's chat session `40`. -/
def closingDb : Db :=
  { Db.empty with
    organizations := AList.insert 1 ⟨"widget-1", none, none, "UTC", []⟩ ∅
    users :=
      AList.insert 10 ⟨some 1, "Tenant", "tenant@example.com", .tenant, none, .active, none⟩
        (AList.insert 11 ⟨some 1, "Agent", "agent@example.com", .agent, none, .active, none⟩ ∅)
    properties := AList.insert 20 ⟨1, 12, "1 Main St", .house, none⟩ ∅
    contracts := AList.insert 30 ⟨20, 10, 738500, 740500, .active, by decide⟩ ∅
    chatSessions := AList.insert 40
      { organizationId := 1
        userId := some 10
        ticketId := none
        status := .active
        lowConfidenceStreak := 0
        lastActivityAt := 0
        channel := .web
        escalatedAt := none
        channelMetadata := none
        ticket_requires_user := unlinked_tenant } ∅ }

def closingCtx : Chat.ToolContext := ⟨⟨1, 10, .tenant⟩, 40⟩

def closingDraws : Chat.ToolDraws := ⟨days 739000, days 739000, 50, fun n => 60 + n⟩

def closingOps : List Op :=
  [.chatCreateTicket closingCtx closingDraws (.str "Leak") (.str "The sink leaks"),
    .updateTicket ⟨1, 11, .agent⟩ 50 ⟨some .closed, none, none, none⟩
      ⟨days 739001, 70, days 739001⟩]

/-- After these two operations, the escalation fails on the CHECK. -/
theorem escalation_fails :
    ¬ AllSteps (Op.step closingEnv) (fun db op => ¬ op.FailsClosing closingEnv db) closingDb
      (closingOps ++ [.chatEscalate closingCtx closingDraws (.str "I want a human")]) := by
  intro h
  have hlast := (allSteps_append.mp h).2.1
  unfold Op.FailsClosing at hlast
  revert hlast
  decide +kernel

end Helpdesk.Tickets
