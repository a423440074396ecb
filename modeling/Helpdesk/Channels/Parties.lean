import Helpdesk.Channels.Effects
import Helpdesk.Chat.Turn
import Helpdesk.Email.Threads
import Helpdesk.WhatsApp.Attribution

/-! # Whose ticket and whose session it is

All the ways in which tickets and chat sessions come about, as one system: the REST route, the widget
with and without a bearer token, the two webhooks, and the turns of the chatbot. Each finds the
organization and the user in a source of its own.

`PartyEffect` says once what a request may do to the people of tickets and sessions, and each request
is shown to have one. **`sameOrganization_of_run`**: tickets and sessions stay with users of their own
organization in every run in which a widget is only opened with bearer tokens of its own
organization. -/

namespace Helpdesk.Channels

open Chat Run UnitOfWork

/-! ## The system

One event for each kind of request. Requests are transactions, and here they run one after another. Tokens that
were minted and jobs that were enqueued are kept, since what comes later is checked against them. -/

structure Env where
  chat : Chat.Env
  email : Email.Env

structure Settings where
  chat : Chat.Settings
  email : Email.Settings
  whatsapp : WhatsApp.Settings

/-- The database, the chat tokens that have been minted, and the queued `process_whatsapp_message`
    jobs. -/
structure World where
  db : Db
  tokens : List ChatToken
  jobs : List WhatsApp.ProcessJob

/-- A request or a job, with what it draws. -/
inductive Event where
  | createTicket (userId ticketId : Uuid) (anchor : Int) (p : Tickets.TicketCreate)
  | createChatSession (widgetKey : String) (bearer : Option Uuid) (id : Uuid) (startedAt : Int)
  | postChatMessage (credential : Credential) (sessionId : Uuid) (admitted : Bool) (content : String)
      (input : TurnInput)
  | receiveEmail (organizationId : Uuid) (inbound : Email.InboundEmail) (s : Email.ScanDraws)
      (d : Email.IngestDraws)
  | receiveWhatsapp (payload : Json) (d : Nat → WhatsApp.IngestDraws)
  /-- Run the queued job number `job`, which may be run again. -/
  | processWhatsapp (job : Nat) (input : TurnInput)

/-- `create_ticket`, of the route, for the user of a valid access token. -/
def createTicket (env : Env) (userId ticketId : Uuid) (anchor : Int) (p : Tickets.TicketCreate) :
    Service Ticket := do
  let scope ← resolveBearerScope userId
  Tickets.createTicket env.chat.toEnv scope ticketId anchor p

/-- A chat token is accepted if it has been minted. -/
def Credential.isGenuine (tokens : List ChatToken) : Credential → Bool
  | .bearer _ => true
  | .chatToken token => token ∈ tokens

/-- `text_body or ""`. -/
def jobText (job : WhatsApp.ProcessJob) : Json := WhatsApp.orElse job.textBody (.str "")

def Event.step (env : Env) (settings : Settings) (w : World) : Event → World
  | createTicket userId ticketId anchor p =>
    { w with db := (Tx.settle (Channels.createTicket env userId ticketId anchor p) w.db).2 }
  | createChatSession widgetKey bearer id startedAt =>
    match Tx.settle (Chat.createChatSession widgetKey bearer id startedAt) w.db with
    | (.ok token, db) => { w with db := db, tokens := token :: w.tokens }
    | (.error _, _) => w
  | postChatMessage credential sessionId admitted content input =>
    if Credential.isGenuine w.tokens credential then
      { w with
        db := (Tx.settle (Chat.postChatMessage env.chat settings.chat credential sessionId admitted content
          input) w.db).2 }
    else w
  | receiveEmail organizationId inbound s d =>
    { w with
      db := (Tx.settle (Email.ingestInboundEmail env.email settings.email organizationId inbound s d)
        w.db).2 }
  | receiveWhatsapp payload d =>
    match Tx.settle (WhatsApp.receiveWhatsappWebhook env.chat.toEnv settings.whatsapp payload d) w.db with
    | (.ok ingests, db) =>
      { w with
        db := db
        jobs := w.jobs ++ ingests.filterMap fun ingest => ingest.result.bind (·.job) }
    | (.error _, _) => w
  | processWhatsapp job input =>
    match w.jobs[job]? with
    | some job =>
      { w with
        db := (Tx.settle (processWhatsappMessage env.chat settings.chat job.chatSessionId (jobText job)
          input) w.db).2 }
    | none => w

/-! ## The law

`PartyEffect` and `RequestEffect` compare the database before and after a request. Whoever is new in it belongs to the
organization, and everybody else is who they were. -/

/-- The user is one of the organization. -/
def BelongsTo (db : Db) (userId organizationId : Uuid) : Prop :=
  ∃ user, db.users.lookup userId = some user ∧ user.organizationId = some organizationId

/-- Every reporter, and every user of a session, is of the organization of the ticket or session. -/
structure SameOrganization (db : Db) : Prop where
  tickets : ∀ id t, db.tickets.lookup id = some t → BelongsTo db t.userId t.organizationId
  chatSessions : ∀ id s userId, db.chatSessions.lookup id = some s → s.userId = some userId →
    BelongsTo db userId s.organizationId

/-- A widget is opened with no bearer token, or with one that resolves to its own organization or to
    no scope at all. -/
def BearerOfWidget (db : Db) : Event → Prop
  | .createChatSession widgetKey (some userId) _ _ =>
    ∀ scope id org, bearerScope userId db = some scope → db.organizations.lookup id = some org →
      org.chatWidgetKey = widgetKey → scope.organizationId = id
  | _ => True

/-- What a request may do to the people of tickets and sessions. -/
structure PartyEffect (db db' : Db) : Prop where
  users : Kept User.organizationId db.users db'.users
  tickets : ∀ id t', db'.tickets.lookup id = some t' →
    (∃ t, db.tickets.lookup id = some t ∧ t'.reporter = t.reporter) ∨
      BelongsTo db' t'.userId t'.organizationId
  chatSessions : Kept ChatSession.party db.chatSessions db'.chatSessions
  opened : ∀ id s', db'.chatSessions.lookup id = some s' →
    (∃ s, db.chatSessions.lookup id = some s ∧ s'.party = s.party) ∨
      ∀ userId, s'.userId = some userId → BelongsTo db' userId s'.organizationId

/-- What a request may do that is no turn: nothing is linked by it either. -/
structure RequestEffect (db db' : Db) : Prop where
  users : Kept User.organizationId db.users db'.users
  reporters : Kept Ticket.reporter db.tickets db'.tickets
  tickets : ∀ id t', db'.tickets.lookup id = some t' →
    (∃ t, db.tickets.lookup id = some t ∧ t'.reporter = t.reporter) ∨
      BelongsTo db' t'.userId t'.organizationId
  chatSessions : Kept ChatSession.party db.chatSessions db'.chatSessions
  opened : ∀ id s', db'.chatSessions.lookup id = some s' →
    (∃ s, db.chatSessions.lookup id = some s ∧ s'.party = s.party ∧ s'.ticketId = s.ticketId) ∨
      s'.ticketId = none ∧ ∀ userId, s'.userId = some userId → BelongsTo db' userId s'.organizationId

section
variable {db db₁ db' : Db}

theorem BelongsTo.keep {userId organizationId : Uuid} (h : BelongsTo db userId organizationId)
    (husers : Kept User.organizationId db.users db'.users) : BelongsTo db' userId organizationId := by
  obtain ⟨user, huser, horg⟩ := h
  obtain ⟨user', huser', hsame⟩ := husers _ user huser
  exact ⟨user', huser', hsame.trans horg⟩

theorem RequestEffect.party (h : RequestEffect db db') : PartyEffect db db' where
  users := h.users
  tickets := h.tickets
  chatSessions := h.chatSessions
  opened id s' hs' := by
    rcases h.opened id s' hs' with ⟨s, hs, hparty, -⟩ | ⟨-, hnew⟩
    · exact .inl ⟨s, hs, hparty⟩
    · exact .inr hnew

instance : Std.Refl RequestEffect where
  refl _ := ⟨Kept.refl _, Kept.refl _, fun _ t' ht' => .inl ⟨t', ht', rfl⟩, Kept.refl _, fun _ s' hs' =>
    .inl ⟨s', hs', rfl, rfl⟩⟩

instance : Std.Refl PartyEffect := ⟨fun db => RequestEffect.party (Std.Refl.refl db)⟩

instance : IsTrans Db RequestEffect where
  trans db db₁ db' h h' := by
    refine ⟨h.users.trans h'.users, h.reporters.trans h'.reporters, fun id t'' ht'' => ?_,
      h.chatSessions.trans h'.chatSessions, fun id s'' hs'' => ?_⟩
    · rcases h'.tickets id t'' ht'' with ⟨t', ht', heq'⟩ | hnew
      · rcases h.tickets id t' ht' with ⟨t, ht, heq⟩ | hnew
        · exact .inl ⟨t, ht, heq'.trans heq⟩
        · obtain ⟨horg, huser⟩ := Prod.mk.inj heq'
          rw [horg, huser]
          exact .inr (hnew.keep h'.users)
      · exact .inr hnew
    · rcases h'.opened id s'' hs'' with ⟨s', hs', heq', hticket'⟩ | hnew
      · rcases h.opened id s' hs' with ⟨s, hs, heq, hticket⟩ | ⟨hticket, hnew⟩
        · exact .inl ⟨s, hs, heq'.trans heq, hticket'.trans hticket⟩
        · obtain ⟨horg, huser⟩ := Prod.mk.inj heq'
          rw [horg, huser]
          exact .inr ⟨hticket'.trans hticket, fun userId hu => (hnew userId hu).keep h'.users⟩
      · exact .inr hnew

theorem RequestEffect.trans (h : RequestEffect db db₁) (h' : RequestEffect db₁ db') :
    RequestEffect db db' :=
  IsTrans.trans _ _ _ h h'

/-- **One step keeps the law.** -/
theorem SameOrganization.step (h : SameOrganization db) (heffect : PartyEffect db db') :
    SameOrganization db' where
  tickets id t' ht' := by
    rcases heffect.tickets id t' ht' with ⟨t, ht, heq⟩ | hnew
    · obtain ⟨horg, huser⟩ := Prod.mk.inj heq
      rw [horg, huser]
      exact (h.tickets id t ht).keep heffect.users
    · exact hnew
  chatSessions id s' userId hs' hu := by
    rcases heffect.opened id s' hs' with ⟨s, hs, heq⟩ | hnew
    · obtain ⟨horg, huser⟩ := Prod.mk.inj heq
      rw [horg]
      exact (h.chatSessions id s userId hs (huser.symm.trans hu)).keep heffect.users
    · exact hnew userId hu

end


/-! ## The requests

Each kind of request in turn. The organization comes from the user's own row, from the widget's key, from the
route of the mail, or from the phone number; the user from the bearer token, from the session, or from the
sender. -/

section
variable {env : Env} {settings : Settings} {scope : OrgScope} {ctx : ToolContext} {db db₁ db' : Db}

theorem requestEffect_of_tables (husers : db'.users = db.users) (htickets : db'.tickets = db.tickets)
    (hsessions : db'.chatSessions = db.chatSessions) : RequestEffect db db' where
  users := by
    rw [husers]
    exact Kept.refl _
  reporters := by
    rw [htickets]
    exact Kept.refl _
  tickets id t' ht' := .inl ⟨t', by rwa [← htickets], rfl⟩
  chatSessions := by
    rw [hsessions]
    exact Kept.refl _
  opened id s' hs' := .inl ⟨s', by rwa [← hsessions], rfl, rfl⟩

/-- What is filed under the scope of a user is that user's. -/
theorem FilesTickets.request (h : FilesTickets scope db db')
    (hscope : BelongsTo db scope.userId scope.organizationId) : RequestEffect db db' where
  users := by
    rw [h.users]
    exact Kept.refl _
  reporters := h.kept
  tickets id t' ht' := by
    refine (h.filed id t' ht').imp_right fun hreporter => ?_
    obtain ⟨horg, huser⟩ := Prod.mk.inj hreporter
    rw [horg, huser]
    apply hscope.keep
    rw [h.users]
    exact Kept.refl _
  chatSessions := by
    rw [h.chatSessions]
    exact Kept.refl _
  opened id s' hs' := .inl ⟨s', by rwa [← h.chatSessions], rfl, rfl⟩

/-- A turn files tickets for an identified session only, so the user of its scope matters for those. -/
theorem TurnEffect.party (h : TurnEffect ctx db db')
    (hscope : ∀ s, db.chatSessions.lookup ctx.chatSessionId = some s → s.userId ≠ none →
      BelongsTo db ctx.scope.userId ctx.scope.organizationId) : PartyEffect db db' where
  users := by
    rw [h.users]
    exact Kept.refl _
  tickets id t' ht' := by
    refine (h.filed id t' ht').imp_right ?_
    rintro ⟨hreporter, s, hs, hidentified⟩
    obtain ⟨horg, huser⟩ := Prod.mk.inj hreporter
    rw [horg, huser]
    apply (hscope s hs hidentified).keep
    rw [h.users]
    exact Kept.refl _
  chatSessions := h.chatSessions
  opened id s' hs' := by
    obtain ⟨s, hs, hparty, -⟩ := h.linked id s' hs'
    exact .inl ⟨s, hs, hparty⟩

theorem bearerScope_some {userId : Uuid} {scope : OrgScope} (h : bearerScope userId db = some scope) :
    scope.userId = userId ∧ BelongsTo db scope.userId scope.organizationId := by
  unfold bearerScope at h
  split at h
  · cases h
  next user huser =>
    split at h
    · cases h
    · obtain ⟨organizationId, horg, rfl⟩ := Option.map_eq_some_iff.mp h
      exact ⟨rfl, user, huser, horg⟩

theorem resolveBearerScope_ok {userId : Uuid}
    (h : Tx.exec (resolveBearerScope userId) db = (.ok scope, db')) :
    db' = db ∧ bearerScope userId db = some scope := by
  rw [resolveBearerScope, Tx.exec_bind, Tx.exec_store] at h
  dsimp only at h
  cases hscope : bearerScope userId db with
  | none => simp [hscope] at h
  | some scope' =>
    rw [hscope, Tx.exec_orRaise_some] at h
    cases h
    exact ⟨rfl, rfl⟩

theorem does_createTicketRoute (userId ticketId : Uuid) (anchor : Int) (p : Tickets.TicketCreate) :
    Tx.Does RequestEffect (Channels.createTicket env userId ticketId anchor p) := by
  intro db
  apply Tx.wp_of_forall_ok
  intro ticket db' h
  obtain ⟨scope, db₁, hscope, h₁⟩ := Tx.bind_ok.mp h
  obtain ⟨rfl, hbearer⟩ := resolveBearerScope_ok hscope
  exact FilesTickets.request (Tx.wp_ok wp_createTicket_filed h₁).1 (bearerScope_some hbearer).2

/-! ### The widget

The only place at which the organization and the user come from two sources that nobody compares. -/

theorem requestEffect_openSession {id : Uuid} {s : ChatSession}
    (hfresh : db.chatSessions.lookup id = none) (hticket : s.ticketId = none)
    (huser : ∀ userId, s.userId = some userId → BelongsTo db userId s.organizationId) :
    RequestEffect db { db with chatSessions := AList.insert id s db.chatSessions } where
  users := Kept.refl _
  reporters := Kept.refl _
  tickets id t' ht' := .inl ⟨t', ht', rfl⟩
  chatSessions := Kept.insert hfresh
  opened id' s' hs' := by
    rw [Table.lookup_insert] at hs'
    split at hs'
    · cases hs'
      exact .inr ⟨hticket, huser⟩
    · exact .inl ⟨s', hs', rfl, rfl⟩

/-! ### The turns

A turn acts for the user of its scope. Under a chat token or in a job this is the session's user, and under a
bearer token a user of the scope's organization. -/

theorem does_answerTurn {env : Chat.Env} {settings : Chat.Settings} (createdAt : Int)
    (lowConfidence : Bool) (round : Nat) (toolsUsed : List String) (answers : List Answer) :
    Tx.Does (TurnEffect ctx)
      (answerTurn env settings ctx createdAt lowConfidence round toolsUsed answers) := by
  induction answers generalizing round toolsUsed with
  | nil => exact Tx.Does.raise _
  | cons answer rest ih =>
    unfold answerTurn
    apply Tx.Does.ite
    · exact Tx.Does.bind (does_runToolCalls _ _ _ _) fun _ => ih _ _
    · exact does_closeTurn _ _ _ _ _

theorem does_sendMessage {env : Chat.Env} {settings : Chat.Settings} (content : String)
    (input : TurnInput) : Tx.Does (TurnEffect ctx) (sendMessage env settings ctx content input) :=
  Tx.Does.bind (does_openTurn _ _ _ _) fun _ => does_answerTurn _ _ _ _ _

/-- A turn that the widget posts, with what its scope has been resolved from. -/
theorem postChatMessage_ok {env : Chat.Env} {settings : Chat.Settings} {credential : Credential}
    {sessionId : Uuid} {admitted : Bool} {content : String} {input : TurnInput} {r : ChatTurnResult}
    (h : Tx.exec (Chat.postChatMessage env settings credential sessionId admitted content input) db =
      (.ok r, db')) :
    ∃ scope s, Tx.exec (resolveCredential credential sessionId) db = (.ok scope, db) ∧
      db.chatSessions.lookup sessionId = some s ∧ s.organizationId = scope.organizationId ∧
      s.status = .active ∧
      Tx.exec (sendMessage env settings ⟨scope, sessionId⟩ content input) db = (.ok r, db') := by
  obtain ⟨⟨scope, s⟩, db₁, hprincipal, h₁⟩ := Tx.bind_ok.mp h
  obtain ⟨scope', db₂, hcredential, h₂⟩ := Tx.bind_ok.mp hprincipal
  have hsame : db₂ = db := by
    cases credential with
    | bearer userId => exact (resolveBearerScope_ok hcredential).1
    | chatToken token =>
      simp only [resolveCredential, resolveChatTokenScope] at hcredential
      split at hcredential
      · cases hcredential
      · split at hcredential <;> cases hcredential <;> rfl
  subst hsame
  obtain ⟨s', db₃, hget, h₃⟩ := Tx.bind_ok.mp h₂
  obtain ⟨rfl, hs, horg⟩ := getOr404_ok.mp hget
  cases h₃
  rw [Tx.exec_ite] at h₁
  split at h₁
  · cases h₁
  next hactive =>
    rw [Tx.exec_ite] at h₁
    split at h₁
    · cases h₁
    · exact ⟨scope, s, hcredential, hs, by simpa using horg, by simpa using hactive, h₁⟩

/-- A turn that a job runs, under the scope of the session's user. -/
theorem processWhatsappMessage_ok {env : Chat.Env} {settings : Chat.Settings} {chatSessionId : Uuid}
    {text : Json} {input : TurnInput} {r : Option ChatTurnResult}
    (h : Tx.exec (processWhatsappMessage env settings chatSessionId text input) db = (.ok r, db')) :
    (db' = db ∧ r = none) ∨
      ∃ s userId user content result, db.chatSessions.lookup chatSessionId = some s ∧
        s.userId = some userId ∧ db.users.lookup userId = some user ∧
        user.organizationId = some s.organizationId ∧ r = some result ∧
        Tx.exec (sendMessage env settings ⟨⟨s.organizationId, userId, user.role⟩, chatSessionId⟩ content
          input) db = (.ok result, db') := by
  rw [processWhatsappMessage, Tx.exec_bind, Tx.exec_store] at h
  dsimp only at h
  cases hs : db.chatSessions.lookup chatSessionId with
  | none =>
    rw [hs] at h
    cases h
    exact .inl ⟨rfl, rfl⟩
  | some s =>
    rw [hs] at h
    obtain ⟨scope, db₁, hscope, h₁⟩ := Tx.bind_ok.mp h
    cases huser : s.userId with
    | none =>
      rw [whatsappTurnScope, huser] at hscope
      cases hscope
    | some userId =>
      rw [whatsappTurnScope, huser] at hscope
      obtain ⟨user, db₂, hget, h₂⟩ := Tx.bind_ok.mp hscope
      obtain ⟨rfl, hstored, horg⟩ := getOr404_ok.mp hget
      cases h₂
      obtain ⟨content, db₃, htext, h₃⟩ := Tx.bind_ok.mp h₁
      obtain ⟨-, rfl⟩ := WhatsApp.asText_ok htext
      rw [Tx.exec_map] at h₃
      cases hx : Tx.exec (sendMessage env settings ⟨⟨s.organizationId, userId, user.role⟩, chatSessionId⟩
          content input) db₃ with
      | mk out db₄ =>
        rw [hx] at h₃
        cases out with
        | error e => cases h₃
        | ok result =>
          cases h₃
          refine .inr ⟨s, userId, user, content, result, rfl, huser, hstored, ?_, rfl, hx⟩
          exact of_decide_eq_true horg

theorem does_processWhatsappMessage {env : Chat.Env} {settings : Chat.Settings} (chatSessionId : Uuid)
    (text : Json) (input : TurnInput) :
    Tx.Does PartyEffect (processWhatsappMessage env settings chatSessionId text input) := by
  intro db
  apply Tx.wp_of_forall_ok
  intro r db' h
  rcases processWhatsappMessage_ok h with ⟨rfl, -⟩ | ⟨s, userId, user, content, result, -, -, huser, horg, -, hturn⟩
  · exact Std.Refl.refl _
  · exact TurnEffect.party ((does_sendMessage content input).of_ok hturn) fun _ _ _ => ⟨user, huser, horg⟩

/-! ### The webhooks

A sender is found in the organization or provisioned for it; one who is found in another organization is refused. -/

/-- A sender of the organization: one who has been found there, or one who is provisioned for it. -/
def IsSender (db : Db) (organizationId : Uuid) : Email.Sender → Prop
  | .existing userId _ => BelongsTo db userId organizationId
  | .provisioned _ user => user.organizationId = some organizationId

theorem resolveEmailSenderIdentity_ok {env : Email.Env} {organizationId newUserId : Uuid}
    {email : String} {displayName : Option String} {sender : Email.Sender}
    (h : Tx.exec (Email.resolveEmailSenderIdentity env organizationId newUserId email displayName) db =
      (.ok sender, db')) : db' = db ∧ IsSender db organizationId sender := by
  obtain ⟨_, _, hstore, h₁⟩ := Tx.bind_ok.mp h
  cases hstore
  split at h₁
  · cases h₁
    exact ⟨rfl, rfl⟩
  next userId user hone =>
    rw [Tx.exec_ite] at h₁
    split at h₁
    · cases h₁
    next horg =>
      cases h₁
      have hmem : (userId, user) ∈ Email.findUsersByEmail env email db := by
        rw [hone]
        exact List.mem_singleton_self _
      exact ⟨rfl, user, (Table.mem_select.mp hmem).1, by simpa using horg⟩
  · cases h₁

theorem requestEffect_insertUser {userId : Uuid} {user : User} (hfresh : db.users.lookup userId = none) :
    RequestEffect db { db with users := AList.insert userId user db.users } where
  users := Kept.insert hfresh
  reporters := Kept.refl _
  tickets _ t' ht' := .inl ⟨t', ht', rfl⟩
  chatSessions := Kept.refl _
  opened _ s' hs' := .inl ⟨s', hs', rfl, rfl⟩

theorem does_insertSender {env : Email.Env} (sender : Email.Sender) (organizationId : Uuid)
    (hsender : IsSender db organizationId sender) :
    Tx.wp (Email.insertSender env sender)
      (fun _ db' => RequestEffect db db' ∧
        BelongsTo db' (sender.scope organizationId).userId organizationId)
      (fun _ => True) db := by
  cases sender with
  | existing userId user =>
    rw [Email.insertSender, Tx.wp_pure]
    exact ⟨Std.Refl.refl db, hsender⟩
  | provisioned userId user =>
    unfold Email.insertSender
    simp only [Tx.wp_bind, Tx.wp_store, Tx.wp_ite, Tx.wp_orRaise, Tx.wp_write, Tx.wp_raise,
      implies_true, and_true]
    intro _ users hins
    obtain ⟨hfresh, rfl⟩ := Table.insertNew_eq_some.mp hins
    exact ⟨requestEffect_insertUser hfresh, user, AList.lookup_insert _, hsender⟩

/-- Who a mail is from, by the scan. -/
theorem scanInbound_sender {env : Email.Env} {settings : Email.Settings} {organizationId : Uuid}
    {inbound : Email.InboundEmail} {d : Email.ScanDraws} {scan : Email.Scan}
    (h : Tx.exec (Email.scanInbound env settings organizationId inbound d) db = (.ok scan, db')) :
    db' = db ∧ ∃ sender, IsSender db organizationId sender ∧
      (∀ sender' ticketId loaded, scan = .append sender' ticketId loaded → sender' = sender) ∧
        ∀ sender', scan = .create sender' → sender' = sender := by
  obtain ⟨sender, db₁, hsender, h₁⟩ := Tx.bind_ok.mp h
  obtain ⟨rfl, his⟩ := resolveEmailSenderIdentity_ok hsender
  obtain ⟨_, _, hstore, h₂⟩ := Tx.bind_ok.mp h₁
  cases hstore
  cases h₂
  refine ⟨rfl, sender, his, ?_, ?_⟩
  · intro sender' ticketId loaded hscan
    unfold Email.decideInbound at hscan
    split at hscan
    · cases hscan
    · dsimp only at hscan
      split at hscan
      · cases hscan
        rfl
      · cases hscan
  · intro sender' hscan
    unfold Email.decideInbound at hscan
    split at hscan
    · cases hscan
    · dsimp only at hscan
      split at hscan
      · cases hscan
      · cases hscan
        rfl

theorem does_commitAppend {env : Email.Env} {sender : Email.Sender} {organizationId ticketId : Uuid}
    {loaded : Ticket} {inbound : Email.InboundEmail} {d : Email.IngestDraws}
    (hsender : IsSender db organizationId sender) :
    Tx.wp (Email.commitAppend env (sender.scope organizationId) sender ticketId loaded inbound d)
      (fun _ db' => RequestEffect db db') (fun _ => True) db := by
  unfold Email.commitAppend
  rw [Tx.wp_bind]
  apply Tx.wp_mono (does_insertSender sender organizationId hsender) _ fun _ _ => trivial
  rintro _ db₁ ⟨hinserted, hscope⟩
  rw [Tx.wp_bind]
  apply Tx.wp_mono (does_flushTicket (sender.scope organizationId) ticketId _ _ db₁) _ fun _ _ => trivial
  intro row db₂ hflushed
  rw [Tx.wp_bind]
  apply Tickets.wp_createMessage
  intro _ _ _ _ _ _ _
  rw [Tx.wp_pure]
  have hfiled : RequestEffect db₁ db₂ := hflushed.request (by rwa [Email.Sender.scope_organizationId])
  exact hinserted.trans (hfiled.trans (requestEffect_of_tables rfl rfl rfl))

theorem does_commitCreate {env : Email.Env} {settings : Email.Settings} {sender : Email.Sender}
    {organizationId : Uuid} {inbound : Email.InboundEmail} {d : Email.IngestDraws}
    (hsender : IsSender db organizationId sender) :
    Tx.wp (Email.commitCreate env settings (sender.scope organizationId) sender inbound d)
      (fun _ db' => RequestEffect db db') (fun _ => True) db := by
  unfold Email.commitCreate
  rw [Tx.wp_bind]
  apply Tx.wp_mono (does_insertSender sender organizationId hsender) _ fun _ _ => trivial
  rintro _ db₁ ⟨hinserted, hscope⟩
  dsimp only
  rw [Tx.wp_bind]
  apply Tx.wp_mono wp_createTicket_filed _ fun _ _ => trivial
  rintro ticket db₂ ⟨hfiled, -⟩
  rw [Tx.wp_bind]
  apply Tx.wp_mono (does_flushTicket (sender.scope organizationId) d.newId _ _ db₂) _ fun _ _ => trivial
  intro row db₃ hflushed
  rw [Tx.wp_pure]
  have hnew : FilesTickets (sender.scope organizationId) db₁ db₃ := IsTrans.trans _ _ _ hfiled hflushed
  exact hinserted.trans (hnew.request (by rwa [Email.Sender.scope_organizationId]))

theorem does_ingestInboundEmail {env : Email.Env} {settings : Email.Settings} (organizationId : Uuid)
    (inbound : Email.InboundEmail) (s : Email.ScanDraws) (d : Email.IngestDraws) :
    Tx.Does RequestEffect (Email.ingestInboundEmail env settings organizationId inbound s d) := by
  intro db
  unfold Email.ingestInboundEmail
  rw [Tx.wp_bind]
  apply Tx.wp_of_forall_ok
  intro scan db₁ hscan
  obtain ⟨rfl, sender, hsender, happend, hcreate⟩ := scanInbound_sender hscan
  cases scan with
  | replayed ticketId =>
    rw [Tx.wp_pure]
    exact Std.Refl.refl _
  | append sender' ticketId loaded =>
    obtain rfl := happend sender' ticketId loaded rfl
    show Tx.wp (_ >>= fun _ => _) _ _ _
    rw [Tx.wp_bind, Email.lockTicket, Tx.wp_bind]
    apply (looksUp_getOr404 _ _ _ _).wp _ fun _ _ => trivial
    intro _ _
    rw [Tx.wp_pure, Tx.wp_bind]
    apply Tx.wp_mono (does_commitAppend hsender) _ fun _ _ => trivial
    intro _ db' heffect
    rwa [Tx.wp_pure]
  | create sender' =>
    obtain rfl := hcreate sender' rfl
    show Tx.wp (_ >>= fun _ => _) _ _ _
    rw [Tx.wp_bind]
    apply Tx.wp_mono (does_commitCreate hsender) _ fun _ _ => trivial
    intro _ db' heffect
    rwa [Tx.wp_pure]

theorem Identified.request {organizationId newUserId userId : Uuid} {phoneNumber : String} {user : User}
    (h : WhatsApp.Identified organizationId newUserId phoneNumber db userId user db') :
    RequestEffect db db' ∧ BelongsTo db' userId organizationId := by
  refine ⟨?_, user, h.stored, h.organization⟩
  rcases h.frame with rfl | ⟨rfl, hfresh, rfl⟩
  · exact Std.Refl.refl _
  · exact requestEffect_insertUser hfresh

theorem Claim.request {settings : WhatsApp.Settings} {inbound : WhatsApp.Inbound} {waId wamid : String}
    {profileName : Json} {d : WhatsApp.IngestDraws} {id : Uuid} {claimed : Option ChatSession}
    (h : WhatsApp.Claim settings scope inbound waId wamid profileName d db id claimed db')
    (hscope : BelongsTo db scope.userId scope.organizationId) : RequestEffect db db' := by
  cases h with
  | replay => exact Std.Refl.refl _
  | goesOn row hreuses _ hrow =>
    obtain ⟨hs, -, -⟩ := WhatsApp.findExistingSession_some hreuses.found.1
    subst hrow
    refine ⟨Kept.refl _, Kept.refl _, fun _ t' ht' => .inl ⟨t', ht', rfl⟩, Kept.modify ?_,
      fun id' s' hs' => ?_⟩
    · intro s₀ hs₀
      rw [hs] at hs₀
      cases hs₀
      rfl
    · rw [Table.lookup_modify] at hs'
      split at hs'
      next heq =>
        subst heq
        rw [hs] at hs'
        cases hs'
        exact .inl ⟨_, hs, rfl, rfl⟩
      · exact .inl ⟨s', hs', rfl, rfl⟩
  | starts _ hfresh =>
    apply requestEffect_openSession hfresh rfl
    intro userId huser
    cases huser
    exact hscope

theorem Ingested.request {settings : WhatsApp.Settings} {organizationId : Uuid}
    {inbound : WhatsApp.Inbound} {d : WhatsApp.IngestDraws} {r : WhatsApp.WhatsAppIngestionResult}
    (h : WhatsApp.Ingested settings organizationId inbound d db r db') : RequestEffect db db' := by
  cases h with
  | unsupported => exact Std.Refl.refl _
  | taken _ _ _ _ hidentified hclaim hconcludes =>
    obtain ⟨hsender, hscope⟩ := Identified.request hidentified
    refine (hsender.trans (Claim.request hclaim hscope)).trans ?_
    cases hconcludes <;> exact requestEffect_of_tables rfl rfl rfl

theorem does_receiveWhatsappWebhook {env : Tickets.Env} {settings : WhatsApp.Settings} (payload : Json)
    (d : Nat → WhatsApp.IngestDraws) :
    Tx.Does RequestEffect (WhatsApp.receiveWhatsappWebhook env settings payload d) :=
  WhatsApp.does_receiveWhatsappWebhook (fun _ _ _ _ _ _ => Ingested.request) d

end

/-! ## The runs

Besides the law, the invariant has that a minted token names what its session has. `BearerOfWidget` is used in
one case only, when a session is opened. -/

section
variable {env : Env} {settings : Settings} {w : World} {e : Event} {db db' : Db}

/-- A token names a session, with the organization and the user that it has. -/
def Names (db : Db) (token : ChatToken) : Prop :=
  ∃ s, db.chatSessions.lookup token.sid = some s ∧ s.party = (token.org, token.uid)

theorem Names.keep {token : ChatToken} (h : Names db token)
    (hsessions : Kept ChatSession.party db.chatSessions db'.chatSessions) : Names db' token := by
  obtain ⟨s, hs, hparty⟩ := h
  obtain ⟨s', hs', hsame⟩ := hsessions _ s hs
  exact ⟨s', hs', hsame.trans hparty⟩

/-- The law, with what it takes to keep it. -/
structure Sound (w : World) : Prop where
  same : SameOrganization w.db
  tokens : ∀ token ∈ w.tokens, Names w.db token

theorem Sound.keep (h : Sound w) (heffect : PartyEffect w.db db') (jobs : List WhatsApp.ProcessJob) :
    Sound ⟨db', w.tokens, jobs⟩ :=
  ⟨h.same.step heffect, fun token hmem => (h.tokens token hmem).keep heffect.chatSessions⟩

/-- The user of the scope of a turn that the widget posts is one of the scope's organization, if the
    session is identified. -/
theorem resolveCredential_belongs (hw : Sound w) {credential : Credential} {sessionId : Uuid}
    {scope : OrgScope} {s : ChatSession} (hgenuine : Credential.isGenuine w.tokens credential = true)
    (h : Tx.exec (resolveCredential credential sessionId) w.db = (.ok scope, w.db))
    (hs : w.db.chatSessions.lookup sessionId = some s) (hidentified : s.userId ≠ none) :
    BelongsTo w.db scope.userId scope.organizationId := by
  cases credential with
  -- a bearer token resolves to a user of its scope's organization
  | bearer userId => exact (bearerScope_some (resolveBearerScope_ok h).2).2
  -- the token has the user of its session, for whom the law holds
  | chatToken token =>
    obtain ⟨s', hs', hparty⟩ := hw.tokens token (by simpa [Credential.isGenuine] using hgenuine)
    simp only [resolveCredential, resolveChatTokenScope] at h
    split at h
    · cases h
    next hsid =>
      obtain rfl : token.sid = sessionId := by simpa using hsid
      obtain rfl : s = s' := Option.some.inj (hs.symm.trans hs')
      obtain ⟨horg, huser⟩ := Prod.mk.inj hparty
      split at h
      next hnone => exact absurd (huser.trans hnone) hidentified
      next userId hsome =>
        cases h
        rw [← horg]
        exact hw.same.chatSessions _ s userId hs (huser.trans hsome)

/-- **Each request keeps the law**, if a widget is opened by one of its own organization. -/
theorem Sound.step (hw : Sound w) (he : BearerOfWidget w.db e) : Sound (e.step env settings w) := by
  cases e with
  | createTicket userId ticketId anchor p =>
    exact hw.keep ((does_createTicketRoute userId ticketId anchor p).settle w.db).party w.jobs
  | createChatSession widgetKey bearer id startedAt =>
    simp only [Event.step]
    split
    next token db' hsettle =>
      obtain ⟨org, horg, hkey, rfl, huid, hfresh, rfl⟩ := createChatSession_ok (Tx.settle_eq_ok.mp hsettle)
      -- the condition: the token's organization is the widget's
      have hparty : ∀ userId, token.uid = some userId → BelongsTo w.db userId token.org := by
        intro userId huser
        rw [huid] at huser
        obtain ⟨scope, hscope, rfl⟩ := Option.map_eq_some_iff.mp huser
        obtain ⟨bearerId, rfl, hbearer⟩ := Option.bind_eq_some_iff.mp hscope
        have horganization := he scope token.org org hbearer horg hkey
        rw [← horganization]
        exact (bearerScope_some hbearer).2
      have heffect := requestEffect_openSession (s := widgetSession token.org token.uid startedAt) hfresh
        rfl hparty
      have hkept := hw.keep heffect.party w.jobs
      refine ⟨hkept.same, fun other hmem => ?_⟩
      rcases List.mem_cons.mp hmem with rfl | hmem
      · exact ⟨_, AList.lookup_insert _, rfl⟩
      · exact hkept.tokens other hmem
    · exact hw
  | postChatMessage credential sessionId admitted content input =>
    simp only [Event.step]
    split
    next hgenuine =>
      have hturn : Tx.wp (Chat.postChatMessage env.chat settings.chat credential sessionId admitted content
          input) (fun _ db' => PartyEffect w.db db') (fun _ => True) w.db := by
        apply Tx.wp_of_forall_ok
        intro r db' h
        obtain ⟨scope, s, hcredential, hs, -, -, hsent⟩ := postChatMessage_ok h
        apply ((does_sendMessage content input).of_ok hsent).party
        intro s' hs' hidentified
        exact resolveCredential_belongs hw hgenuine hcredential hs' hidentified
      exact hw.keep (Tx.settle_post (P := PartyEffect w.db) hturn (Std.Refl.refl _)) w.jobs
    · exact hw
  | receiveEmail organizationId inbound s d =>
    exact hw.keep ((does_ingestInboundEmail organizationId inbound s d).settle w.db).party w.jobs
  | receiveWhatsapp payload d =>
    have hreceive : Tx.Does RequestEffect
        (WhatsApp.receiveWhatsappWebhook env.chat.toEnv settings.whatsapp payload d) :=
      does_receiveWhatsappWebhook payload d
    have heffect := hreceive.settle w.db
    simp only [Event.step]
    split
    next ingests db' hsettle =>
      rw [hsettle] at heffect
      exact hw.keep heffect.party _
    · exact hw
  | processWhatsapp job input =>
    simp only [Event.step]
    split
    next queued _ =>
      exact hw.keep ((does_processWhatsappMessage queued.chatSessionId (jobText queued) input).settle w.db)
        w.jobs
    · exact hw

end

/-- No ticket and no session yet. -/
def World.start (db : Db) : World := ⟨{ db with tickets := ∅, chatSessions := ∅ }, [], []⟩

theorem sound_start (db : Db) : Sound (World.start db) := by
  refine ⟨⟨fun id t ht => ?_, fun id s userId hs => ?_⟩, by simp [World.start]⟩
  · exact absurd ht (by simp [World.start])
  · exact absurd hs (by simp [World.start])

/-- **Reporter isolation**: tickets and sessions stay with users of their own organization, in every
    run that opens widgets with bearer tokens of their own organization only. -/
theorem sameOrganization_of_run (env : Env) (settings : Settings) (db : Db) (events : List Event)
    (h : AllSteps (fun w e => e.step env settings w) (fun w e => BearerOfWidget w.db e) (World.start db)
      events) :
    SameOrganization (run (fun w e => e.step env settings w) (World.start db) events).db :=
  (inv_of_preserved (fun _ _ hw he => Sound.step hw he) (sound_start db) h).same

/-! ## Two organizations

The same widget, opened by one of its own users and by a stranger. -/

def partiesEnv : Env where
  chat := { WhatsApp.webhookEnv with
    loads := fun _ => none
    str := fun _ => "" }
  email := Email.emailEnv

def partiesSettings : Settings := ⟨⟨5, 4⟩, Email.emailSettings, WhatsApp.webhookSettings⟩

/-- User `5` is of organization `1`, and user `6` of organization `2`. -/
def partiesDb : Db :=
  { WhatsApp.webhookDb with
    users :=
      AList.insert 5 ⟨some 1, "Ana", "ana@example.com", .tenant, none, .active, none⟩
        (AList.insert 6 ⟨some 2, "Bob", "bob@example.com", .tenant, none, .active, none⟩ ∅) }

/-- The widget of organization `1` is opened. -/
def opens (bearer : Option Uuid) : Event := .createChatSession "widget-1" bearer 40 0

theorem organization_of_widget {id : Uuid} {org : Organization}
    (horg : partiesDb.organizations.lookup id = some org) (hkey : org.chatWidgetKey = "widget-1") :
    id = 1 := by
  by_contra hid
  have hrows : AList.lookup id (AList.insert 1 ⟨"widget-1", some "111", none, "UTC", []⟩
      (AList.insert 2 ⟨"widget-2", some "222", none, "UTC", []⟩ (∅ : Table Uuid Organization))) =
      some org := horg
  rw [Table.lookup_insert, if_neg hid, Table.lookup_insert] at hrows
  split at hrows
  · cases hrows
    exact absurd hkey (by decide)
  · exact absurd hrows (by simp)

/-- A user of the widget's own organization opens it, and files a ticket. -/
theorem sameOrganization_of_run_own :
    SameOrganization (run (fun w e => e.step partiesEnv partiesSettings w) (World.start partiesDb)
      [opens (some 5), .createTicket 5 90 0 ⟨none, none, "Leak", none, none, none, .web⟩]).db := by
  apply sameOrganization_of_run
  refine ⟨fun scope id org hscope horg hkey => ?_, trivial, trivial⟩
  rw [organization_of_widget horg hkey]
  cases hscope
  rfl

/-- A user of organization `2` opens the widget of organization `1`, and the session is theirs. -/
theorem not_sameOrganization :
    ¬ SameOrganization (run (fun w e => e.step partiesEnv partiesSettings w) (World.start partiesDb)
      [opens (some 6)]).db := by
  intro h
  have hs : ((run (fun w e => e.step partiesEnv partiesSettings w) (World.start partiesDb)
      [opens (some 6)]).db.chatSessions.lookup 40).map ChatSession.party = some (1, some 6) := by
    decide +kernel
  have huser : ((run (fun w e => e.step partiesEnv partiesSettings w) (World.start partiesDb)
      [opens (some 6)]).db.users.lookup 6).map (·.organizationId) = some (some 2) := by
    decide +kernel
  obtain ⟨s, hsession, hparty⟩ := Option.map_eq_some_iff.mp hs
  obtain ⟨horg, hs6⟩ := Prod.mk.inj hparty
  obtain ⟨user, hlookup, hbelongs⟩ := h.chatSessions 40 s 6 hsession hs6
  rw [hlookup, Option.map_some, hbelongs, horg] at huser
  exact absurd huser (by decide)

end Helpdesk.Channels
