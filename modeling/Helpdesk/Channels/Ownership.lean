import Helpdesk.Channels.Parties

/-! # Whose conversation a turn belongs to

A session may be linked to a ticket, and the tools of a turn are offered by what the session is. Both
are decided from the session row, while a turn runs under the scope of whoever posts it and calls
whatever the model names.

* `Owned` is the law on what is stored: a linked session is identified, and its user has reported the ticket.
* `OffersTools` is the law on a step: what its turn executes is available to its session.
* `OwnTurn` is the condition on a step. It looks at the request, at the calls of the completions and at what is stored
  before the turn, and not at what the turn does.
* **`ownership_of_run`**: both laws hold in every run whose steps all meet the condition.

A turn of somebody else is harmless as long as it files nothing. The larger part of the module is about that:
from the completions it is known which tools a turn can get to, and from the session whether one of them would
file a ticket. -/

namespace Helpdesk.Channels

open Chat Run UnitOfWork

/-! ## The law

The turn of a request is taken from where the request has been admitted: its credential is genuine, or its job
is in the queue. -/

/-- A linked session is identified, and its user is the reporter of the ticket. -/
def Owned (db : Db) : Prop :=
  ∀ id s ticketId, db.chatSessions.lookup id = some s → s.ticketId = some ticketId →
    ∃ userId t, s.userId = some userId ∧ db.tickets.lookup ticketId = some t ∧ t.userId = userId

/-- A turn, from where its request has been admitted. -/
structure Turn where
  ctx : ToolContext
  content : String
  input : TurnInput

/-- The turn that a request or a job runs, if it gets that far. -/
def Event.turn (w : World) : Event → Option Turn
  | postChatMessage credential sessionId admitted content input =>
    if Credential.isGenuine w.tokens credential then
      (postedContext credential sessionId admitted w.db).map fun ctx => ⟨ctx, content, input⟩
    else none
  | processWhatsapp job input => do
    let job ← w.jobs[job]?
    match queuedContext job.chatSessionId w.db, jobText job with
    | some ctx, .str content => some ⟨ctx, content, input⟩
    | _, _ => none
  | _ => none

def Turn.run (env : Env) (settings : Settings) (turn : Turn) : Service ChatTurnResult :=
  sendMessage env.chat settings.chat turn.ctx turn.content turn.input

/-- Every tool that a turn executes is available to its session. -/
def OffersTools (env : Env) (settings : Settings) (w : World) (e : Event) : Prop :=
  ∀ turn s, e.turn w = some turn → w.db.chatSessions.lookup turn.ctx.chatSessionId = some s →
    ∀ name ∈ executedTools env.chat settings.chat turn.ctx turn.content turn.input w.db,
      name ∈ availableToolNames s

/-! ## The condition

`loopCalls` are the calls that the turn can get to, whatever the earlier ones come to. For an identified session
it is asked who posts the turn, but only if the turn may file a ticket. -/

/-- The tool calls that a turn gets to: those of the completions before the first one without any, and
    before the last request that it may make. -/
def loopCalls (settings : Chat.Settings) (input : TurnInput) : List ToolCall :=
  (((input.answers.take settings.chatMaxToolRounds).map fun answer => answer.completion.toolCalls)
    |>.takeWhile fun calls => calls ≠ []).flatten

/-- One of the calls is for the handler `name`. -/
def Calls (env : Chat.Env) (settings : Chat.Settings) (input : TurnInput) (name : String) : Prop :=
  ∃ call ∈ loopCalls settings input, dispatches env call = true ∧ call.name = name

/-- The turn may file a ticket for its session `s`: because it is asked to and can, or because it is
    asked to escalate or has to. -/
def MayFile (env : Chat.Env) (settings : Chat.Settings) (ctx : ToolContext) (input : TurnInput)
    (s : ChatSession) (db : Db) : Prop :=
  (Calls env settings input "create_ticket" ∧ (activeContractsForCaller ctx db).length = 1) ∨
    s.ticketId = none ∧ (Calls env settings input "escalate_to_human" ∨
      input.excerpts.isEmpty = true ∧ 1 ≤ s.lowConfidenceStreak)

/-- The user of the bearer token that a turn is posted with. -/
def Event.bearer : Event → Option Uuid
  | postChatMessage (.bearer userId) _ _ _ _ => some userId
  | _ => none

/-- A turn on an anonymous session is asked for nothing but an escalation, and a turn that may file a
    ticket for an identified one is not posted with the bearer token of another user. -/
def OwnTurn (env : Env) (settings : Settings) (w : World) (e : Event) : Prop :=
  ∀ turn s, e.turn w = some turn → w.db.chatSessions.lookup turn.ctx.chatSessionId = some s →
    match s.userId with
    | none => ∀ name, Calls env.chat settings.chat turn.input name → name = "escalate_to_human"
    | some userId => MayFile env.chat settings.chat turn.ctx turn.input s w.db →
        ∀ bearer, e.bearer = some bearer → bearer = userId

/-! ## The tools that are executed

What has been executed is among the calls of the loop, up to the one that raises. A name without a handler is not
dispatched. -/

section
variable {env : Chat.Env} {settings : Chat.Settings} {ctx : ToolContext} {db : Db}

theorem executedCalls_subset {createdAt : Int} {d : ReplyDraws} {n : Nat} {calls : List ToolCall}
    {name : String} (h : name ∈ executedCalls env ctx createdAt d n calls db) :
    ∃ call ∈ calls, dispatches env call = true ∧ call.name = name := by
  induction calls generalizing n db with
  | nil => cases h
  | cons call rest ih =>
    unfold executedCalls at h
    split at h
    next hdispatches =>
      rcases List.mem_cons.mp h with rfl | hrest
      · exact ⟨call, List.mem_cons_self, hdispatches, rfl⟩
      · split at hrest
        · obtain ⟨call', hmem, hcall⟩ := ih hrest
          exact ⟨call', List.mem_cons_of_mem _ hmem, hcall⟩
        · cases hrest
    · cases h

/-- The calls of the answers from the request number `round` on. -/
def callsFrom (settings : Chat.Settings) (round : Nat) (answers : List Answer) : List ToolCall :=
  (((answers.take (settings.chatMaxToolRounds - round)).map fun answer => answer.completion.toolCalls)
    |>.takeWhile fun calls => calls ≠ []).flatten

theorem callsFrom_cons {round : Nat} {answer : Answer} {rest : List Answer}
    (h : round < settings.chatMaxToolRounds ∧ answer.completion.toolCalls ≠ []) :
    callsFrom settings round (answer :: rest) =
      answer.completion.toolCalls ++ callsFrom settings (round + 1) rest := by
  obtain ⟨n, hn⟩ : ∃ n, settings.chatMaxToolRounds - round = n + 1 :=
    ⟨settings.chatMaxToolRounds - (round + 1), by omega⟩
  have hn' : settings.chatMaxToolRounds - (round + 1) = n := by omega
  simp [callsFrom, hn, hn', h.2]

theorem executedAnswers_subset {createdAt : Int} {round : Nat} {answers : List Answer} {name : String}
    (h : name ∈ executedAnswers env settings ctx createdAt round answers db) :
    ∃ call ∈ callsFrom settings round answers, dispatches env call = true ∧ call.name = name := by
  induction answers generalizing round db with
  | nil => cases h
  | cons answer rest ih =>
    unfold executedAnswers at h
    split at h
    next hround =>
      rw [callsFrom_cons hround]
      rcases List.mem_append.mp h with hfirst | hrest
      · obtain ⟨call, hmem, hcall⟩ := executedCalls_subset hfirst
        exact ⟨call, List.mem_append_left _ hmem, hcall⟩
      · split at hrest
        · obtain ⟨call, hmem, hcall⟩ := ih hrest
          exact ⟨call, List.mem_append_right _ hmem, hcall⟩
        · cases hrest
    · cases h

/-- **A tool that is executed has been called for.** -/
theorem calls_of_executed {content : String} {input : TurnInput} {name : String}
    (h : name ∈ executedTools env settings ctx content input db) : Calls env settings input name := by
  unfold executedTools at h
  split at h
  · exact executedAnswers_subset h
  · cases h

/-- What is dispatched is registered. -/
theorem Calls.mem_toolHandlerNames {input : TurnInput} {name : String}
    (h : Calls env settings input name) : name ∈ toolHandlerNames := by
  obtain ⟨call, -, hdispatches, rfl⟩ := h
  unfold dispatches at hdispatches
  split at hdispatches
  · simpa using hdispatches
  · cases hdispatches
  · cases hdispatches

end

/-! ## A turn that files nothing

`Keeps f` is the frame of such a turn: tickets keep their reporters, and sessions keep `f`. As long as the
streak is part of `f` the escalation at the end can be excluded as well; after the closing only the link is
kept. -/

section
variable {env : Chat.Env} {settings : Chat.Settings} {ctx : ToolContext} {db db₁ db' : Db} {β γ : Type}
  {f : ChatSession → β}

/-- Tickets keep their reporters, and sessions keep their `f`. -/
structure Keeps (f : ChatSession → β) (db db' : Db) : Prop where
  contracts : db'.contracts = db.contracts
  properties : db'.properties = db.properties
  reporters : Kept Ticket.reporter db.tickets db'.tickets
  chatSessions : ∀ id, (db'.chatSessions.lookup id).map f = (db.chatSessions.lookup id).map f

/-- The organization, the user and the ticket of a session. -/
def linkOf (s : ChatSession) := (s.party, s.ticketId)

/-- What decides whether a turn files a ticket for its session. -/
def standing (s : ChatSession) := (linkOf s, s.lowConfidenceStreak)

instance : Std.Refl (Keeps f) := ⟨fun _ => ⟨rfl, rfl, Kept.refl _, fun _ => rfl⟩⟩

instance : IsTrans Db (Keeps f) where
  trans _ _ _ h h' :=
    ⟨h'.contracts.trans h.contracts, h'.properties.trans h.properties, h.reporters.trans h'.reporters,
      fun id => (h'.chatSessions id).trans (h.chatSessions id)⟩

theorem Keeps.trans (h : Keeps f db db₁) (h' : Keeps f db₁ db') : Keeps f db db' :=
  IsTrans.trans _ _ _ h h'

theorem Keeps.link (h : Keeps standing db db') : Keeps linkOf db db' where
  contracts := h.contracts
  properties := h.properties
  reporters := h.reporters
  chatSessions id := by
    have hboth := congrArg (Option.map Prod.fst) (h.chatSessions id)
    rwa [Option.map_map, Option.map_map] at hboth

/-- The session as it was before. -/
theorem Keeps.back (h : Keeps f db db') {id : Uuid} {s' : ChatSession}
    (hs' : db'.chatSessions.lookup id = some s') :
    ∃ s, db.chatSessions.lookup id = some s ∧ f s = f s' := by
  have hsame := h.chatSessions id
  rw [hs', Option.map_some] at hsame
  exact Option.map_eq_some_iff.mp hsame.symm

theorem SameParties.keeps (h : SameParties db db') : Keeps f db db' where
  contracts := h.contracts
  properties := h.properties
  reporters := by
    rw [h.tickets]
    exact Kept.refl _
  chatSessions id := by rw [h.chatSessions]

theorem keeps_of_sameParties {α : Type} {x : Service α} (hx : Tx.Does SameParties x) :
    Tx.Does (Keeps f) x :=
  hx.mono fun _ _ h => h.keeps

theorem keeps_setChatSession {s s' : ChatSession} (hs : db.chatSessions.lookup ctx.chatSessionId = some s)
    (hf : f s' = f s) :
    Keeps f db { db with chatSessions := db.chatSessions.modify ctx.chatSessionId fun _ => s' } where
  contracts := rfl
  properties := rfl
  reporters := Kept.refl _
  chatSessions id := by
    rw [Table.lookup_modify]
    split
    next heq =>
      subst heq
      rw [hs]
      exact congrArg some hf
    · rfl

/-- A call of the tool files no ticket in this state. -/
def Harmless (ctx : ToolContext) (db : Db) (name : String) : Prop :=
  (name = "create_ticket" → (activeContractsForCaller ctx db).length ≠ 1) ∧
    (name = "escalate_to_human" → ∀ s, db.chatSessions.lookup ctx.chatSessionId = some s →
      s.userId ≠ none → s.ticketId ≠ none)

theorem Harmless.keep {name : String} (h : Harmless ctx db name) (hkeeps : Keeps standing db db') :
    Harmless ctx db' name := by
  refine ⟨fun hname => ?_, fun hname s' hs' huser => ?_⟩
  · have hsame : activeContractsForCaller ctx db' = activeContractsForCaller ctx db := by
      unfold activeContractsForCaller OrgScope.selectsContract
      rw [hkeeps.contracts, hkeeps.properties]
    rw [hsame]
    exact h.1 hname
  · obtain ⟨s, hs, hsame⟩ := hkeeps.link.back hs'
    obtain ⟨hparty, hticket⟩ := Prod.mk.inj hsame
    rw [← hticket]
    refine h.2 hname s hs ?_
    rwa [(Prod.mk.inj hparty).2]

theorem keeps_checkTicketStatus (ticketId : Json) :
    Tx.Does (Keeps standing) (checkTicketStatus ctx ticketId) := by
  apply Tx.Does.bind
  · cases ticketId with
    | str s => exact Tx.Does.orRaise _ _
    | _ => exact Tx.Does.raise _
  intro ticketId
  apply Tx.Does.bind Tx.Does.store
  intro db
  split
  · exact Tx.Does.pure _
  · exact Tx.Does.ite (Tx.Does.pure _) (Tx.Does.pure _)

theorem keeps_scheduleVisit {d : ToolDraws} (ticketId preferredDate notes : Json) :
    Tx.Does (Keeps standing) (scheduleVisit env ctx d ticketId preferredDate notes) := by
  apply Tx.Does.bind (looksUp_getOr404 _ _ _ _).does
  intro chatSession
  split
  · exact Tx.Does.pure _
  · apply Tx.Does.bind (looksUp_visitTicketId _).does
    intro ticketId
    split
    · exact Tx.Does.pure _
    · apply Tx.Does.ite (Tx.Does.pure _)
      apply Tx.Does.bind (looksUp_getOr404 _ _ _ _).does
      intro ticket
      apply Tx.Does.bind (looksUp_argumentText _).does
      intro content
      apply Tx.Does.bind (keeps_of_sameParties (does_addMessage _ _ _ _))
      exact fun _ => Tx.Does.pure _

/-- Without the one contract that it is about, no ticket is filed. -/
theorem keeps_createTicket {d : ToolDraws} {title description : Json}
    (h : (activeContractsForCaller ctx db).length ≠ 1) :
    Tx.wp (Chat.createTicket env ctx d title description) (fun _ db' => Keeps standing db db')
      (fun _ => True) db := by
  unfold Chat.createTicket
  rw [Tx.wp_bind, Tx.wp_store, Tx.wp_bind]
  apply (looksUp_getOr404 _ _ _ _).wp _ fun _ _ => trivial
  intro s _
  split
  next hone =>
    rw [hone] at h
    exact absurd rfl h
  · rw [Tx.wp_pure]
    exact Std.Refl.refl db

theorem keeps_escalateToHuman {d : ToolDraws} {reason : Json}
    (hlinked : ∀ s, db.chatSessions.lookup ctx.chatSessionId = some s → s.userId ≠ none →
      s.ticketId ≠ none) :
    Tx.wp (escalateToHuman env ctx d reason) (fun _ db' => Keeps standing db db') (fun _ => True) db := by
  unfold escalateToHuman
  rw [Tx.wp_bind]
  apply (looksUp_getOr404 _ _ _ _).wp _ fun _ _ => trivial
  intro s hget
  obtain ⟨-, hs, -⟩ := getOr404_ok.mp hget
  dsimp only
  split
  · rw [Tx.wp_bind, setChatSession, Tx.wp_bind, Tx.wp_store, Tx.wp_write, Tx.wp_pure]
    exact keeps_setChatSession hs rfl
  next userId huser =>
    obtain ⟨ticketId, hticket⟩ := Option.ne_none_iff_exists'.mp (hlinked s hs (by simp [huser]))
    unfold escalationTicket
    simp only [hticket]
    rw [Tx.wp_bind, Tx.wp_pure, Tx.wp_bind]
    apply (looksUp_getOr404 _ _ _ _).wp _ fun _ _ => trivial
    intro ticket _
    rw [Tx.wp_bind]
    apply wp_flushTicket _ (fun _ _ => trivial) fun _ _ _ => trivial
    intro current row hcurrent hcols
    rw [Tx.wp_bind, setChatSession, Tx.wp_bind, Tx.wp_store, Tx.wp_write, Tx.wp_pure]
    have hreporter : row.reporter = current.reporter := by
      show (row.organizationId, row.userId) = _
      rw [hcols]
      rfl
    refine ⟨rfl, rfl, Kept.modify fun t ht => ?_, (keeps_setChatSession hs ?_).chatSessions⟩
    · obtain rfl : current = t := Option.some.inj (hcurrent.symm.trans ht)
      exact hreporter
    · simp [standing, linkOf, ChatSession.party, hticket]

theorem keeps_callTool {d : ToolDraws} {name : String} {args : JsonObject} (h : Harmless ctx db name) :
    Tx.wp (callTool env ctx d name args) (fun _ db' => Keeps standing db db') (fun _ => True) db := by
  have hbind : ∀ {required optional : List String} {g : List Json → Service JsonObject},
      (∀ values, Tx.wp (g values) (fun _ db' => Keeps standing db db') (fun _ => True) db) →
        Tx.wp (bindArguments required optional args >>= g) (fun _ db' => Keeps standing db db')
          (fun _ => True) db := by
    intro required optional g hg
    unfold bindArguments
    simp only [Tx.wp_bind, Tx.wp_ite, Tx.wp_orRaise, Tx.wp_pure, Tx.wp_raise, implies_true, and_true]
    exact fun _ _ _ => hg _
  have hraise : Tx.wp (Tx.raise .typeError : Service JsonObject) (fun _ db' => Keeps standing db db')
      (fun _ => True) db := Tx.Does.raise (R := Keeps standing) _ db
  unfold callTool
  rw [Tx.wp_ite, Tx.wp_ite, Tx.wp_ite, Tx.wp_ite]
  refine ⟨fun _ => hbind fun values => ?_, fun _ => ⟨fun hname => hbind fun values => ?_, fun _ =>
    ⟨fun _ => hbind fun values => ?_, fun _ => ⟨fun hname => hbind fun values => ?_, fun _ => ?_⟩⟩⟩⟩
  · split
    next ticketId => exact keeps_checkTicketStatus ticketId db
    · exact hraise
  · split
    next title description => exact keeps_createTicket (h.1 hname)
    · exact hraise
  · split
    next ticketId preferredDate notes => exact keeps_scheduleVisit ticketId preferredDate notes db
    · exact hraise
  · split
    next reason => exact keeps_escalateToHuman (h.2 hname)
    · exact hraise
  · rw [Tx.wp_raise]
    trivial

theorem keeps_runToolCall {createdAt : Int} {rowId : Uuid} {d : ToolDraws} {call : ToolCall}
    (h : dispatches env call = true → Harmless ctx db call.name) :
    Tx.wp (runToolCall env ctx createdAt rowId d call) (fun _ db' => Keeps standing db db')
      (fun _ => True) db := by
  unfold runToolCall
  simp only [Tx.wp_bind, Tx.wp_orRaise, implies_true, and_true]
  intro args hloads
  rw [Tx.wp_ite]
  refine ⟨fun hname => ?_, fun _ => Tx.Does.raise (R := Keeps standing) _ db⟩
  cases args with
  | obj items =>
    rw [Tx.wp_bind, asKeywords, Tx.wp_pure, Tx.wp_bind]
    apply Tx.wp_mono (keeps_callTool (h (by simp [dispatches, hloads, hname]))) _ fun _ _ => trivial
    intro result db₁ hcalled
    rw [Tx.wp_bind]
    apply Tx.wp_mono (keeps_of_sameParties (f := standing) (does_addChatMessage _ _ _ _ _ _) db₁) _
      fun _ _ => trivial
    intro _ db₂ hadded
    rw [Tx.wp_pure]
    exact hcalled.trans hadded
  | _ =>
    rw [Tx.wp_bind]
    show Tx.wp (Tx.raise Raised.typeError) _ _ db
    rw [Tx.wp_raise]
    trivial

theorem keeps_runToolCalls {createdAt : Int} {d : ReplyDraws} {n : Nat} {calls : List ToolCall}
    (h : ∀ call ∈ calls, dispatches env call = true → Harmless ctx db call.name) :
    Tx.wp (runToolCalls env ctx createdAt d n calls) (fun _ db' => Keeps standing db db')
      (fun _ => True) db := by
  induction calls generalizing n db with
  | nil =>
    rw [runToolCalls, Tx.wp_pure]
    exact Std.Refl.refl db
  | cons call rest ih =>
    rw [runToolCalls, Tx.wp_bind]
    apply Tx.wp_mono (keeps_runToolCall (h call List.mem_cons_self)) _ fun _ _ => trivial
    intro _ db₁ hfirst
    rw [Tx.wp_bind]
    apply Tx.wp_mono (ih fun call' hmem hdispatches =>
      (h call' (List.mem_cons_of_mem _ hmem) hdispatches).keep hfirst) _ fun _ _ => trivial
    intro _ db₂ hrest
    rw [Tx.wp_pure]
    exact hfirst.trans hrest

/-- A session that is not to be escalated, or has its ticket already. -/
def Closes (ctx : ToolContext) (lowConfidence : Bool) (db : Db) : Prop :=
  ∀ s, db.chatSessions.lookup ctx.chatSessionId = some s → s.userId ≠ none → s.ticketId = none →
    ¬ (lowConfidence = true ∧ 1 ≤ s.lowConfidenceStreak)

theorem Closes.keep {lowConfidence : Bool} (h : Closes ctx lowConfidence db)
    (hkeeps : Keeps standing db db') : Closes ctx lowConfidence db' := by
  intro s' hs' huser hticket
  obtain ⟨s, hs, hsame⟩ := hkeeps.back hs'
  obtain ⟨hlink, hstreak⟩ := Prod.mk.inj hsame
  obtain ⟨hparty, hlinked⟩ := Prod.mk.inj hlink
  rw [← hstreak]
  exact h s hs (by rwa [(Prod.mk.inj hparty).2]) (hlinked.trans hticket)

theorem keeps_escalateAutomatically {d : ToolDraws}
    (h : ∀ s, db.chatSessions.lookup ctx.chatSessionId = some s → s.userId ≠ none →
      2 ≤ s.lowConfidenceStreak → s.ticketId ≠ none) :
    Tx.wp (escalateAutomatically env ctx d) (fun _ db' => Keeps linkOf db db') (fun _ => True) db := by
  unfold escalateAutomatically
  rw [Tx.wp_bind]
  apply (looksUp_getOr404 _ _ _ _).wp _ fun _ _ => trivial
  intro s hget
  obtain ⟨-, hs, -⟩ := getOr404_ok.mp hget
  rw [Tx.wp_ite]
  refine ⟨fun hstreak => ?_, fun _ => ?_⟩
  · rw [Tx.wp_bind]
    have hlinked : ∀ s', db.chatSessions.lookup ctx.chatSessionId = some s' → s'.userId ≠ none →
        s'.ticketId ≠ none := by
      intro s' hs' huser
      obtain rfl : s = s' := Option.some.inj (hs.symm.trans hs')
      exact h s hs huser hstreak
    apply Tx.wp_mono (keeps_escalateToHuman hlinked) _ fun _ _ => trivial
    intro result db₁ hescalated
    refine Tx.wp_mono ((?_ : Tx.Does (Keeps linkOf) _) db₁) (fun _ _ h => hescalated.link.trans h)
      fun _ _ => trivial
    refine does_updateChatSession (R := Keeps linkOf) (f := fun s => { s with lowConfidenceStreak := 0 })
      (fun _ _ hs => keeps_setChatSession hs rfl) fun escalated => ?_
    split
    · exact Tx.Does.bind (Tx.Does.orRaise _ _) fun _ => Tx.Does.pure _
    · exact Tx.Does.pure _
  · rw [Tx.wp_pure]
    exact Std.Refl.refl db

theorem keeps_closeTurn {createdAt : Int} {d : ReplyDraws} {replyText : String} {lowConfidence : Bool}
    {toolsUsed : List String} (h : Closes ctx lowConfidence db) :
    Tx.wp (closeTurn env ctx createdAt d replyText lowConfidence toolsUsed)
      (fun _ db' => Keeps linkOf db db') (fun _ => True) db := by
  unfold closeTurn
  rw [Tx.wp_bind]
  apply Tx.wp_mono (keeps_of_sameParties (f := standing) (does_addChatMessage _ _ _ _ _ _) db) _
    fun _ _ => trivial
  intro _ db₁ hadded
  rw [Tx.wp_bind]
  apply (looksUp_getOr404 _ _ _ _).wp _ fun _ _ => trivial
  intro s hget
  obtain ⟨-, hs, -⟩ := getOr404_ok.mp hget
  rw [Tx.wp_bind, setChatSession, Tx.wp_bind, Tx.wp_store, Tx.wp_write, Tx.wp_bind]
  refine Tx.wp_mono (keeps_escalateAutomatically ?_) (fun r db₃ hescalated => ?_) fun _ _ => trivial
  · intro s' hs' huser hstreak hticket
    rw [Table.lookup_modify_self, hs] at hs'
    cases hs'
    -- the streak reaches 2 only where this turn has added to it
    cases lowConfidence with
    | true =>
      simp only [if_true] at hstreak
      exact (h.keep hadded) s hs huser hticket ⟨rfl, by omega⟩
    | false => simp at hstreak
  · have hlast : Tx.Does (Keeps linkOf) (do
        let chatSession ← getChatSession ctx
        setChatSession ctx { chatSession with lastActivityAt := d.now }
        pure ⟨replyText, r.1, r.2, toolsUsed⟩ : Service ChatTurnResult) :=
      does_updateChatSession (R := Keeps linkOf) (f := fun s => { s with lastActivityAt := d.now })
        (fun _ _ hs => keeps_setChatSession hs rfl) fun _ => Tx.Does.pure _
    refine Tx.wp_mono (hlast db₃) (fun _ db₄ hlast => ?_) fun _ _ => trivial
    refine (hadded.link.trans ?_).trans (hescalated.trans hlast)
    exact keeps_setChatSession hs rfl

theorem keeps_answerTurn {createdAt : Int} {lowConfidence : Bool} {round : Nat} {toolsUsed : List String}
    {answers : List Answer}
    (hcalls : ∀ call ∈ callsFrom settings round answers, dispatches env call = true →
      Harmless ctx db call.name)
    (hcloses : Closes ctx lowConfidence db) :
    Tx.wp (answerTurn env settings ctx createdAt lowConfidence round toolsUsed answers)
      (fun _ db' => Keeps linkOf db db') (fun _ => True) db := by
  induction answers generalizing round toolsUsed db with
  | nil =>
    rw [answerTurn, Tx.wp_raise]
    trivial
  | cons answer rest ih =>
    unfold answerTurn
    split
    next hround =>
      rw [callsFrom_cons hround] at hcalls
      rw [Tx.wp_bind]
      apply Tx.wp_mono (keeps_runToolCalls fun call hmem => hcalls call (List.mem_append_left _ hmem)) _
        fun _ _ => trivial
      intro _ db₁ hran
      refine Tx.wp_mono (ih ?_ (hcloses.keep hran)) (fun _ _ h => hran.link.trans h) fun _ _ => trivial
      intro call hmem hdispatches
      exact (hcalls call (List.mem_append_right _ hmem) hdispatches).keep hran
    · exact keeps_closeTurn hcloses

/-- **A turn that files nothing** leaves the links of all sessions as they are. -/
theorem keeps_sendMessage {content : String} {input : TurnInput} {s : ChatSession}
    (hs : db.chatSessions.lookup ctx.chatSessionId = some s)
    (h : ¬ MayFile env settings ctx input s db) :
    Tx.wp (sendMessage env settings ctx content input) (fun _ db' => Keeps linkOf db db')
      (fun _ => True) db := by
  obtain ⟨hcreate, hescalate⟩ := not_or.mp h
  have hcalls : ∀ call ∈ callsFrom settings 0 input.answers, dispatches env call = true →
      Harmless ctx db call.name := by
    intro call hmem hdispatches
    refine ⟨fun hname hone => hcreate ⟨⟨call, hmem, hdispatches, hname⟩, hone⟩,
      fun hname s' hs' _ hticket => ?_⟩
    obtain rfl : s = s' := Option.some.inj (hs.symm.trans hs')
    exact hescalate ⟨hticket, .inl ⟨call, hmem, hdispatches, hname⟩⟩
  have hcloses : Closes ctx input.excerpts.isEmpty db := by
    intro s' hs' _ hticket hlow
    obtain rfl : s = s' := Option.some.inj (hs.symm.trans hs')
    exact hescalate ⟨hticket, .inr hlow⟩
  have hopen : Tx.Does (Keeps standing) (openTurn settings ctx input.opening content input.excerpts) := by
    apply Tx.Does.bind (looksUp_getOr404 _ _ _ _).does
    intro chatSession
    apply Tx.Does.bind (keeps_of_sameParties (does_addChatMessage _ _ _ _ _ _))
    intro _
    exact Tx.Does.bind Tx.Does.store fun _ => Tx.Does.pure _
  rw [sendMessage, Tx.wp_bind]
  apply Tx.wp_mono (hopen db) _ fun _ _ => trivial
  intro _ db₁ hopened
  refine Tx.wp_mono (keeps_answerTurn ?_ (hcloses.keep hopened)) (fun _ _ h => hopened.link.trans h)
    fun _ _ => trivial
  intro call hmem hdispatches
  exact (hcalls call hmem hdispatches).keep hopened

end

/-! ## One step

Three kinds of steps. A request that runs no turn links nothing; a turn under the scope of the session's user links
tickets of this user; and a turn of another user files nothing, by the condition. -/

section
variable {env : Env} {settings : Settings} {ctx : ToolContext} {w : World} {e : Event} {turn : Turn}
  {s : ChatSession} {db db' : Db}

theorem Owned.keeps (h : Owned db) (hkeeps : Keeps linkOf db db') : Owned db' := by
  intro id s' ticketId hs' hticket'
  obtain ⟨s, hs, hsame⟩ := hkeeps.back hs'
  obtain ⟨hparty, hlinked⟩ := Prod.mk.inj hsame
  obtain ⟨userId, t, huser, ht, howner⟩ := h id s ticketId hs (hlinked.trans hticket')
  obtain ⟨t', ht', hreporter⟩ := hkeeps.reporters _ t ht
  exact ⟨userId, t', (Prod.mk.inj hparty).2.symm.trans huser, ht', (Prod.mk.inj hreporter).2.trans howner⟩

theorem Owned.request (h : Owned db) (heffect : RequestEffect db db') : Owned db' := by
  intro id s' ticketId hs' hticket'
  rcases heffect.opened id s' hs' with ⟨s, hs, hparty, hlinked⟩ | ⟨hnone, -⟩
  · -- the session was there, with its link
    obtain ⟨userId, t, huser, ht, howner⟩ := h id s ticketId hs (hlinked.symm.trans hticket')
    obtain ⟨t', ht', hreporter⟩ := heffect.reporters _ t ht
    exact ⟨userId, t', (Prod.mk.inj hparty).2.trans huser, ht', (Prod.mk.inj hreporter).2.trans howner⟩
  · rw [hnone] at hticket'
    cases hticket'

/-- A turn under the scope of the session's user. -/
theorem Owned.byUser (h : Owned db) (heffect : TurnEffect ctx db db')
    (hown : ∀ s userId, db.chatSessions.lookup ctx.chatSessionId = some s → s.userId = some userId →
      ctx.scope.userId = userId) : Owned db' := by
  intro id s' ticketId hs' hticket'
  obtain ⟨s, hs, hparty, hlinked⟩ := heffect.linked id s' hs'
  have huser' : s'.userId = s.userId := (Prod.mk.inj hparty).2
  rcases hlinked with hsame | ⟨rfl, ticketId', t, hnew, ht, hreporter⟩
  · -- the link is the one that was there
    obtain ⟨userId, t, huser, ht, howner⟩ := h id s ticketId hs (hsame.symm.trans hticket')
    obtain ⟨t', ht', hreporter⟩ := heffect.tickets _ t ht
    exact ⟨userId, t', huser'.trans huser, ht', (Prod.mk.inj hreporter).2.trans howner⟩
  · -- the link is to a ticket that the turn has filed
    obtain rfl : ticketId' = ticketId := Option.some.inj (hnew.symm.trans hticket')
    have hidentified : s'.userId ≠ none :=
      s'.ticket_requires_user.resolve_left (by simp [hticket'])
    obtain ⟨userId, huser⟩ := Option.ne_none_iff_exists'.mp hidentified
    refine ⟨userId, t, huser, ht, ?_⟩
    rw [← hown s userId hs (huser'.symm.trans huser)]
    exact (Prod.mk.inj hreporter).2

/-- **What a step does that may run a turn.** -/
theorem step_turn (env : Env) (settings : Settings) (w : World) (e : Event) :
    (∃ turn, e.turn w = some turn ∧
      (e.step env settings w).db = (Tx.settle (turn.run env settings) w.db).2) ∨
    (∃ widgetKey bearer id startedAt, e = .createChatSession widgetKey bearer id startedAt) ∨
      RequestEffect w.db (e.step env settings w).db := by
  cases e with
  | createTicket userId ticketId anchor p =>
    exact .inr (.inr ((does_createTicketRoute userId ticketId anchor p).settle w.db))
  | createChatSession widgetKey bearer id startedAt => exact .inr (.inl ⟨_, _, _, _, rfl⟩)
  | postChatMessage credential sessionId admitted content input =>
    simp only [Event.step, Event.turn]
    split
    · rw [settle_postChatMessage]
      cases postedContext credential sessionId admitted w.db with
      | none => exact .inr (.inr (Std.Refl.refl _))
      | some ctx => exact .inl ⟨_, rfl, rfl⟩
    · exact .inr (.inr (Std.Refl.refl _))
  | receiveEmail organizationId inbound s d =>
    exact .inr (.inr ((does_ingestInboundEmail organizationId inbound s d).settle w.db))
  | receiveWhatsapp payload d =>
    have hreceive : Tx.Does RequestEffect
        (WhatsApp.receiveWhatsappWebhook env.chat.toEnv settings.whatsapp payload d) :=
      does_receiveWhatsappWebhook payload d
    have heffect := hreceive.settle w.db
    right; right
    simp only [Event.step]
    split
    next ingests db' hsettle =>
      rw [hsettle] at heffect
      exact heffect
    · exact Std.Refl.refl _
  | processWhatsapp job input =>
    simp only [Event.step, Event.turn]
    cases w.jobs[job]? with
    | none => exact .inr (.inr (Std.Refl.refl _))
    | some queued =>
      dsimp only
      rw [settle_processWhatsappMessage]
      simp only [Option.bind_eq_bind, Option.bind_some]
      cases queuedContext queued.chatSessionId w.db with
      | none => exact .inr (.inr (Std.Refl.refl _))
      | some ctx =>
        cases jobText queued with
        | str content => exact .inl ⟨_, rfl, rfl⟩
        | _ => exact .inr (.inr (Std.Refl.refl _))

/-- The law, with what it takes to know who posts with a chat token. -/
structure Ownership (w : World) : Prop where
  owned : Owned w.db
  tokens : ∀ token ∈ w.tokens, Names w.db token

/-- On an identified session only a bearer token can be another user's. -/
theorem turn_scope (hw : Ownership w) (hturn : e.turn w = some turn)
    (hs : w.db.chatSessions.lookup turn.ctx.chatSessionId = some s) {userId : Uuid}
    (huser : s.userId = some userId) :
    turn.ctx.scope.userId = userId ∨ e.bearer = some turn.ctx.scope.userId := by
  cases e with
  | postChatMessage credential sessionId admitted content input =>
    simp only [Event.turn] at hturn
    split at hturn
    next hgenuine =>
      obtain ⟨ctx, hctx, rfl⟩ := Option.map_eq_some_iff.mp hturn
      obtain ⟨scope, s', hprincipal, -, rfl⟩ := postedContext_eq_some hctx
      obtain ⟨scope', db₁, hcredential, h₁⟩ := Tx.bind_ok.mp hprincipal
      obtain ⟨s'', db₂, hget, h₂⟩ := Tx.bind_ok.mp h₁
      cases h₂
      cases credential with
      -- the scope is the bearer's
      | bearer bearer =>
        right
        rw [(bearerScope_some (resolveBearerScope_ok hcredential).2).1]
        rfl
      -- the token is one that was minted, so it has the session's user
      | chatToken token =>
        left
        obtain ⟨s₀, hs₀, hparty⟩ := hw.tokens token (by simpa [Credential.isGenuine] using hgenuine)
        simp only [resolveCredential, resolveChatTokenScope] at hcredential
        split at hcredential
        · cases hcredential
        next hsid =>
          obtain rfl : token.sid = sessionId := by simpa using hsid
          obtain rfl : s = s₀ := Option.some.inj (hs.symm.trans hs₀)
          have huid : token.uid = some userId := (Prod.mk.inj hparty).2.symm.trans huser
          rw [huid] at hcredential
          cases hcredential
          rfl
    · cases hturn
  -- the scope is looked up by the session's user
  | processWhatsapp job input =>
    left
    simp only [Event.turn] at hturn
    obtain ⟨queued, -, h₁⟩ := Option.bind_eq_some_iff.mp hturn
    split at h₁
    next ctx content hctx _ =>
      cases h₁
      obtain ⟨s', scope, hs', hscope, rfl⟩ := queuedContext_eq_some hctx
      obtain rfl : s = s' := Option.some.inj (hs.symm.trans hs')
      rw [whatsappTurnScope, huser] at hscope
      obtain ⟨user, db₁, -, h₂⟩ := Tx.bind_ok.mp hscope
      cases h₂
      rfl
    · cases h₁
  | _ => cases hturn

/-- **A turn keeps the law**, if it is the session's own. -/
theorem owned_turn (hw : Ownership w) (he : OwnTurn env settings w e) (hturn : e.turn w = some turn) :
    Owned (Tx.settle (turn.run env settings) w.db).2 ∧
      Kept ChatSession.party w.db.chatSessions (Tx.settle (turn.run env settings) w.db).2.chatSessions := by
  have heffect : TurnEffect turn.ctx w.db (Tx.settle (turn.run env settings) w.db).2 :=
    (does_sendMessage turn.content turn.input).settle w.db
  refine ⟨?_, heffect.chatSessions⟩
  by_cases hown : ∀ s userId, w.db.chatSessions.lookup turn.ctx.chatSessionId = some s →
      s.userId = some userId → turn.ctx.scope.userId = userId
  · exact hw.owned.byUser heffect hown
  · -- somebody else posts the turn, with a bearer token
    push Not at hown
    obtain ⟨s, userId, hs, huser, hother⟩ := hown
    have hbearer := (turn_scope hw hturn hs huser).resolve_left hother
    have hturnOwn := he turn s hturn hs
    simp only [huser] at hturnOwn
    have hnone : ¬ MayFile env.chat settings.chat turn.ctx turn.input s w.db :=
      fun hmay => hother (hturnOwn hmay _ hbearer)
    exact Tx.settle_post ((Tx.wp_mono (keeps_sendMessage hs hnone) fun _ _ h => hw.owned.keeps h)
      fun _ h => h) hw.owned

/-- Only the opening of a session mints a token. -/
theorem step_tokens (h : ∀ widgetKey bearer id startedAt, e ≠ .createChatSession widgetKey bearer id startedAt) :
    (e.step env settings w).tokens = w.tokens := by
  cases e with
  | createChatSession widgetKey bearer id startedAt => exact absurd rfl (h _ _ _ _)
  | createTicket userId ticketId anchor p => rfl
  | receiveEmail organizationId inbound s d => rfl
  | postChatMessage credential sessionId admitted content input =>
    simp only [Event.step]
    split <;> rfl
  | receiveWhatsapp payload d =>
    simp only [Event.step]
    split <;> rfl
  | processWhatsapp job input =>
    simp only [Event.step]
    split <;> rfl

theorem Ownership.step (hw : Ownership w) (he : OwnTurn env settings w e) :
    Ownership (e.step env settings w) := by
  by_cases hopen : ∃ widgetKey bearer id startedAt, e = .createChatSession widgetKey bearer id startedAt
  · -- a new session has no link, and its token is minted with what it is
    obtain ⟨widgetKey, bearer, id, startedAt, rfl⟩ := hopen
    simp only [Event.step]
    split
    next token db' hsettle =>
      obtain ⟨org, -, -, rfl, -, hfresh, rfl⟩ := createChatSession_ok (Tx.settle_eq_ok.mp hsettle)
      have hkept : Kept ChatSession.party w.db.chatSessions
          (AList.insert token.sid (widgetSession token.org token.uid startedAt) w.db.chatSessions) :=
        Kept.insert hfresh
      refine ⟨fun id s' ticketId hs' hticket => ?_, fun other hmem => ?_⟩
      · rw [Table.lookup_insert] at hs'
        split at hs'
        · cases hs'
          cases hticket
        · exact hw.owned id s' ticketId hs' hticket
      · rcases List.mem_cons.mp hmem with rfl | hmem
        · exact ⟨_, AList.lookup_insert _, rfl⟩
        · exact (hw.tokens other hmem).keep hkept
    · exact hw
  · have htokens : (e.step env settings w).tokens = w.tokens :=
      step_tokens fun widgetKey bearer id startedAt heq => hopen ⟨_, _, _, _, heq⟩
    have hdb : Owned (e.step env settings w).db ∧
        Kept ChatSession.party w.db.chatSessions (e.step env settings w).db.chatSessions := by
      rcases step_turn env settings w e with ⟨turn, hturn, hdb⟩ | hnew | heffect
      · rw [hdb]
        exact owned_turn hw he hturn
      · exact absurd hnew hopen
      · exact ⟨hw.owned.request heffect, heffect.chatSessions⟩
    refine ⟨hdb.1, fun token hmem => ?_⟩
    rw [htokens] at hmem
    exact (hw.tokens token hmem).keep hdb.2

/-- **A tool that is executed was offered.** -/
theorem offersTools (he : OwnTurn env settings w e) : OffersTools env settings w e := by
  intro turn s hturn hs name hname
  have hcalls := calls_of_executed hname
  have hown := he turn s hturn hs
  unfold availableToolNames
  cases huser : s.userId with
  | none =>
    simp only [huser] at hown
    rw [hown name hcalls]
    exact List.mem_singleton_self _
  | some userId => exact hcalls.mem_toolHandlerNames

end

/-- **Ownership**: linked tickets are those of the sessions' users, and only offered tools are executed,
    in every run whose turns are the sessions' own. -/
theorem ownership_of_run (env : Env) (settings : Settings) (db : Db) (events : List Event)
    (h : AllSteps (fun w e => e.step env settings w) (OwnTurn env settings) (World.start db) events) :
    Owned (run (fun w e => e.step env settings w) (World.start db) events).db ∧
      AllSteps (fun w e => e.step env settings w) (OffersTools env settings) (World.start db) events := by
  have hstart : Ownership (World.start db) := by
    refine ⟨fun id s ticketId hs => ?_, by simp [World.start]⟩
    exact absurd hs (by simp [World.start])
  exact ⟨(inv_of_preserved (fun _ _ hw he => Ownership.step hw he) hstart h).owned,
    h.mono fun _ _ => offersTools⟩

/-! ## A colleague, and a visitor

A colleague posts a turn on the tenant's session with their own bearer token, and the model escalates: the
ticket is the colleague's. On an anonymous session the model names a tool that was not offered, and it is
executed. -/

def reasonArguments : String := "\x7b\"reason\": \"Leak\"\x7d"

def ticketArguments : String := "\x7b\"ticket_id\": \"00000000-0000-0000-0000-00000000005a\"\x7d"

/-- Decodes the two JSON texts of the runs below. -/
def ownershipEnv : Env :=
  { partiesEnv with
    chat := { partiesEnv.chat with
      loads := fun s =>
        if s = reasonArguments then some (.obj [("reason", .str "Leak")])
        else if s = ticketArguments then
          some (.obj [("ticket_id", .str "00000000-0000-0000-0000-00000000005a")])
        else none } }

/-- User `7` is of organization `1` too. -/
def ownershipDb : Db :=
  { partiesDb with
    users := AList.insert 7 ⟨some 1, "Eva", "eva@example.com", .tenant, none, .active, none⟩ partiesDb.users }

def replyDraws (n : Uuid) : ReplyDraws where
  rowIds := fun i => n + i
  tools := fun _ => ⟨0, 0, 90, fun _ => 0⟩
  messageId := n + 10
  escalation := ⟨0, 0, 90, fun _ => 0⟩
  now := 0

/-- The model calls one tool, and closes the turn. -/
def callsOnce (call : ToolCall) : TurnInput where
  opening := ⟨100, 0⟩
  excerpts := ["Opening hours"]
  answers := [⟨⟨none, [call]⟩, replyDraws 101⟩, ⟨⟨some "Done.", []⟩, replyDraws 102⟩]

def escalationCall : ToolCall := ⟨"call_1", "escalate_to_human", reasonArguments⟩

def statusCall : ToolCall := ⟨"call_1", "check_ticket_status", ticketArguments⟩

/-- User `5` opens the widget of their organization, and `poster` has the conversation escalated. -/
def escalates (poster : Uuid) : List Event :=
  [opens (some 5), .postChatMessage (.bearer poster) 40 true "A leak" (callsOnce escalationCall)]

/-- The model is asked by an anonymous visitor, and calls a tool that it was not offered. -/
def asksAnonymously : List Event :=
  [opens none, .postChatMessage (.chatToken ⟨40, 1, none⟩) 40 true "My ticket?" (callsOnce statusCall)]

theorem turn_of_post {w : World} {credential : Credential} {sessionId : Uuid} {admitted : Bool}
    {content : String} {input : TurnInput} {turn : Turn}
    (h : (Event.postChatMessage credential sessionId admitted content input).turn w = some turn) :
    ∃ scope, turn = ⟨⟨scope, sessionId⟩, content, input⟩ := by
  simp only [Event.turn] at h
  split at h
  · obtain ⟨ctx, hctx, rfl⟩ := Option.map_eq_some_iff.mp h
    obtain ⟨scope, -, -, -, rfl⟩ := postedContext_eq_some hctx
    exact ⟨scope, rfl⟩
  · cases h

/-- The user of the session has it escalated. -/
theorem ownership_of_run_own :
    Owned (run (fun w e => e.step ownershipEnv partiesSettings w) (World.start ownershipDb)
      (escalates 5)).db ∧
    AllSteps (fun w e => e.step ownershipEnv partiesSettings w) (OffersTools ownershipEnv partiesSettings)
      (World.start ownershipDb) (escalates 5) := by
  apply ownership_of_run
  refine ⟨fun turn s hturn => ?_, fun turn s hturn hs => ?_, trivial⟩
  · cases hturn
  · obtain ⟨scope, rfl⟩ := turn_of_post hturn
    have hsession : (((opens (some 5)).step ownershipEnv partiesSettings
        (World.start ownershipDb)).db.chatSessions.lookup 40).map (·.userId) = some (some 5) := by
      decide +kernel
    have huser : s.userId = some 5 := by
      rw [show ((opens (some 5)).step ownershipEnv partiesSettings
        (World.start ownershipDb)).db.chatSessions.lookup 40 = some s from hs] at hsession
      exact Option.some.inj hsession
    simp only [huser]
    intro _ bearer hbearer
    cases hbearer
    rfl

/-- A colleague of the session's user has it escalated, and an anonymous visitor's turn looks up a
    ticket. -/
theorem not_ownership :
    ¬ Owned (run (fun w e => e.step ownershipEnv partiesSettings w) (World.start ownershipDb)
      (escalates 7)).db ∧
    ¬ AllSteps (fun w e => e.step ownershipEnv partiesSettings w) (OffersTools ownershipEnv partiesSettings)
      (World.start ownershipDb) asksAnonymously := by
  constructor
  · intro h
    have hlinked : ((run (fun w e => e.step ownershipEnv partiesSettings w) (World.start ownershipDb)
        (escalates 7)).db.chatSessions.lookup 40).map (fun s => (s.userId, s.ticketId)) =
          some (some 5, some 90) := by
      decide +kernel
    have hreporter : ((run (fun w e => e.step ownershipEnv partiesSettings w) (World.start ownershipDb)
        (escalates 7)).db.tickets.lookup 90).map (·.userId) = some 7 := by
      decide +kernel
    obtain ⟨s, hs, hcols⟩ := Option.map_eq_some_iff.mp hlinked
    obtain ⟨huser, hticket⟩ := Prod.mk.inj hcols
    obtain ⟨userId, t, huser', ht, howner⟩ := h 40 s 90 hs hticket
    rw [ht, Option.map_some, howner] at hreporter
    rw [huser] at huser'
    exact absurd (huser'.trans hreporter) (by decide)
  · rintro ⟨-, hoffers, -⟩
    have hanonymous : (((opens none).step ownershipEnv partiesSettings
        (World.start ownershipDb)).db.chatSessions.lookup 40).map (·.userId) = some none := by
      decide +kernel
    obtain ⟨s, hs, huser⟩ := Option.map_eq_some_iff.mp hanonymous
    have hexecuted : "check_ticket_status" ∈ executedTools ownershipEnv.chat partiesSettings.chat
        ⟨.forAnonymousChat 1, 40⟩ "My ticket?" (callsOnce statusCall)
        ((opens none).step ownershipEnv partiesSettings (World.start ownershipDb)).db := by
      decide +kernel
    have hoffered := hoffers ⟨⟨.forAnonymousChat 1, 40⟩, "My ticket?", callsOnce statusCall⟩ s rfl hs _
      hexecuted
    rw [availableToolNames, huser] at hoffered
    exact absurd hoffered (by decide)

end Helpdesk.Channels
