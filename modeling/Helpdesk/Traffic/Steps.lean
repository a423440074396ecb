import Helpdesk.Traffic.System

/-! # What a step of the traffic can do

`Next` has a constructor for each way in which an event other than the commit takes a transaction
further. **`inv_of_events`** is the invariant rule: what is shared changes at commits only, so an
invariant of the transactions is kept by each event for its own transaction and by each commit for the
others. -/

namespace Helpdesk.Traffic

open Chat WhatsApp

/-! ## Events

`next_ok` is the inversion lemma: whatever an event does to a transaction, it is by one of the constructors.
The lemmas in front of it do the work for one event each. `act_ok` adds the commit. -/

/-- How `openTurn` has begun a turn. -/
def Begins (settings : Settings) (s : Shared) (ctx : ToolContext) (job : Option ProcessJob)
    (content : String) (o : OpenDraws) (excerpts : List String) (t : Transaction) : Prop :=
  ∃ offered own, (Work.empty.loadSession s.db ctx.chatSessionId).exec s.db
      (openTurn settings.chat ctx o content excerpts) = .ok (offered, own) ∧
    t = .turn (.start s ctx job o excerpts own)

/-- Where an event takes a transaction. -/
inductive Next (env : Env) (settings : Settings) (s : Shared) : Event → Transaction → Transaction → Prop
  | stays {e t} : Next env settings s e t t
  | ends {e t} : Next env settings s e t .ended
  | receives {payload organizationId} :
      Next env settings s (.receive payload) .idle
        (.delivery ⟨s.history.length, organizationId, (iterMessages payload).items,
          (iterMessages payload).raised, .empty, []⟩)
  | takes {δ : Delivery} {inbound rest d result own} (hpending : δ.pending = inbound :: rest)
      (hexec : (δ.load s inbound d).exec s.db
        (ingestInboundWhatsappMessage env.toEnv settings.whatsapp δ.organizationId inbound d) =
          .ok (result, own)) :
      Next env settings s (.ingest d) (.delivery δ)
        (.delivery { δ with
          pending := rest
          own := own
          intakes := δ.intakes ++ (intakeOf s δ.organizationId d.now result).toList })
  | skips {δ : Delivery} {inbound rest d} (hpending : δ.pending = inbound :: rest) :
      Next env settings s (.ingest d) (.delivery δ) (.delivery { δ with pending := rest })
  | posts {credential sessionId admitted content o excerpts ctx t}
      (hctx : postedContext credential sessionId admitted s.db = some ctx)
      (hbegins : Begins settings s ctx none content o excerpts t) :
      Next env settings s (.post credential sessionId admitted content o excerpts) .idle t
  | processes {i queued content o excerpts ctx t} (hjob : s.jobs[i]? = some queued)
      (hctx : queuedContext queued.job.chatSessionId s.db = some ctx)
      (hbegins : Begins settings s ctx (some queued.job) content o excerpts t) :
      Next env settings s (.process i o excerpts) .idle t
  | asks {t : OpenTurn} {completion d} :
      Next env settings s (.complete completion d) (.turn t)
        (.turn { t with round := t.round + 1, pending := completion.toolCalls })
  | closes {t : OpenTurn} {completion : Completion} {d result own} (hopen : t.reply = none)
      (hexec : t.own.exec s.db (closeTurn env t.ctx t.createdAt d (completion.content.getD "")
        t.lowConfidence t.toolsUsed) = .ok (result, own)) :
      Next env settings s (.complete completion d) (.turn t)
        (.turn { t with
          own := own
          filed := t.filed ++ newTickets t.own own
          reply := some result.reply })
  | calls {t : OpenTurn} {call rest rowId d message own} (hpending : t.pending = call :: rest)
      (hexec : t.own.exec s.db (runToolCall env t.ctx t.createdAt rowId d call) = .ok (message, own)) :
      Next env settings s (.callTool rowId d) (.turn t)
        (.turn { t with
          own := own
          pending := rest
          toolsUsed := t.toolsUsed ++ [call.name]
          filed := t.filed ++ if call.name = "escalate_to_human" then newTickets t.own own else [] })
  | sends {i now deferredAt reply chatSession} (hreply : s.replies[i]? = some reply)
      (hsession : s.db.chatSessions.lookup reply.chatSessionId = some chatSession) :
      Next env settings s (.send i now deferredAt) .idle (.send (.start s reply))
  | sendsLate {i now deferredAt reply chatSession entry own} (hreply : s.replies[i]? = some reply)
      (hsession : s.db.chatSessions.lookup reply.chatSessionId = some chatSession)
      (hexec : (Send.start s reply).own.exec s.db (recordDeferredReply reply.chatSessionId entry) =
        .ok ((), own)) :
      Next env settings s (.send i now deferredAt) .idle
        (.send { Send.start s reply with own := own, deferred := some entry })
  | defers {σ : Send} {outcome deferredAt entry own} (hopen : σ.deferred = none)
      (hexec : σ.own.exec s.db (recordDeferredReply σ.chatSessionId entry) = .ok ((), own)) :
      Next env settings s (.sent outcome deferredAt) (.send σ)
        (.send { σ with own := own, deferred := some entry })
  | opens {widgetKey bearer id startedAt token own}
      (hexec : Work.empty.exec s.db (createChatSession widgetKey bearer id startedAt) =
        .ok (token, own)) :
      Next env settings s (.createSession widgetKey bearer id startedAt) .idle
        (.opening s.history.length own)

section
variable {env : Env} {settings : Settings} {s : Shared}

theorem next_ingest {δ : Delivery} {d : IngestDraws} :
    Next env settings s (.ingest d) (.delivery δ) (δ.ingest env settings s d) := by
  unfold Delivery.ingest
  split
  · exact .stays
  next inbound rest hpending =>
    split
    next result own hexec => exact .takes hpending hexec
    · split
      · exact .skips hpending
      · exact .ends

/-- A turn begins, or its request fails. -/
theorem beginTurn_cases (settings : Settings) (s : Shared) (ctx : ToolContext) (job : Option ProcessJob)
    (content : String) (o : OpenDraws) (excerpts : List String) :
    beginTurn settings s ctx job content o excerpts = .ended ∨
      Begins settings s ctx job content o excerpts (beginTurn settings s ctx job content o excerpts) := by
  unfold beginTurn
  split
  next offered own hexec => exact .inr ⟨offered, own, hexec, rfl⟩
  · exact .inl rfl

theorem next_process {i : Nat} {o : OpenDraws} {excerpts : List String} :
    Next env settings s (.process i o excerpts) .idle (beginJob settings s i o excerpts) := by
  unfold beginJob
  split
  · exact .ends
  next queued hjob =>
    split
    next ctx content hctx _ =>
      rcases beginTurn_cases settings s ctx (some queued.job) content o excerpts with hover | hbegins
      · rw [hover]
        exact .ends
      · exact .processes hjob hctx hbegins
    · exact .ends

theorem next_post {credential : Credential} {sessionId : Uuid} {admitted : Bool} {content : String}
    {o : OpenDraws} {excerpts : List String} :
    Next env settings s (.post credential sessionId admitted content o excerpts) .idle
      (beginPost settings s credential sessionId admitted content o excerpts) := by
  unfold beginPost
  split
  next ctx hctx =>
    rcases beginTurn_cases settings s ctx none content o excerpts with hover | hbegins
    · rw [hover]
      exact .ends
    · exact .posts hctx hbegins
  · exact .ends

theorem next_complete {t : OpenTurn} {completion : Completion} {d : ReplyDraws} :
    Next env settings s (.complete completion d) (.turn t) (t.complete env settings s completion d) := by
  unfold OpenTurn.complete
  split
  next hopen =>
    split
    · exact .asks
    · split
      next result own hexec => exact .closes (Option.isNone_iff_eq_none.mp hopen.2) hexec
      · exact .ends
  · exact .stays

theorem next_callTool {t : OpenTurn} {rowId : Uuid} {d : ToolDraws} :
    Next env settings s (.callTool rowId d) (.turn t) (t.call env s rowId d) := by
  unfold OpenTurn.call
  split
  · exact .stays
  next call rest hpending =>
    split
    next message own hexec => exact .calls hpending hexec
    · exact .ends

theorem next_send {i : Nat} {now deferredAt : Int} :
    Next env settings s (.send i now deferredAt) .idle (beginSend settings s i now deferredAt) := by
  unfold beginSend
  split
  · exact .ends
  next reply hreply =>
    split
    · exact .ends
    next chatSession hsession =>
      split
      · unfold Send.defer
        dsimp only
        split
        next own hexec => exact .sendsLate hreply hsession hexec
        · exact .ends
      · exact .sends hreply hsession
      · exact .ends

theorem next_sent {σ : Send} {outcome : SendOutcome} {deferredAt : Int} :
    Next env settings s (.sent outcome deferredAt) (.send σ) (σ.sent s outcome deferredAt) := by
  unfold Send.sent
  split
  next hopen =>
    split
    · unfold Send.defer
      dsimp only
      split
      next own hexec => exact .defers (Option.isNone_iff_eq_none.mp hopen) hexec
      · exact .ends
    · exact .ends
  · exact .stays

/-- **What an event can do.** -/
theorem next_ok (env : Env) (settings : Settings) (e : Event) (s : Shared) (t : Transaction) :
    Next env settings s e t (e.next env settings s t) := by
  unfold Event.next
  split
  · unfold beginDelivery
    split
    · exact .receives
    · exact .ends
    · exact .ends
  · exact next_ingest
  · exact next_post
  · exact next_process
  · exact next_complete
  · exact next_callTool
  · exact next_send
  · exact next_sent
  · split
    next token own hexec => exact .opens hexec
    · exact .ends
  · exact .ends
  · exact .stays

/-- **A step**: a transaction goes on by itself, or it is over and what it has done is shared. -/
theorem act_ok (env : Env) (settings : Settings) (e : Event) (s : Shared) (t : Transaction) :
    (∃ t', e.act env settings s t = (s, t') ∧ Next env settings s e t t') ∨
      ∃ own after, e = .commit ∧ t.ready = some own ∧ own.commit s.db env.toEnv = some after ∧
        e.act env settings s t = (s.committed t after, .ended) := by
  by_cases he : e = .commit
  · subst he
    show (∃ t', s.commit env t = (s, t') ∧ _) ∨ ∃ own after, _ ∧ _ ∧ _ ∧ s.commit env t = _
    unfold Shared.commit
    split
    -- a request that is not at its end has nothing to commit
    · exact .inl ⟨t, rfl, .stays⟩
    next own hready =>
      split
      next after hafter => exact .inr ⟨own, after, rfl, hready, hafter, rfl⟩
      · exact .inl ⟨.ended, rfl, .ends⟩
  · refine .inl ⟨e.next env settings s t, ?_, next_ok env settings e s t⟩
    cases e <;> first | rfl | exact absurd rfl he

end

/-! ## The rule

All results about runs go through this rule. `I` is a property of what is shared, `T` relates a transaction
to it, and `G` is the condition on the steps of the run. What is to be shown: an event other than the commit
keeps `T` of its own transaction, and a commit keeps `I`, and `T` of all the others. -/

/-- `I` of what is shared, and `T` of each transaction, after a run from `w` whose events all meet `G`. -/
theorem inv_of_events_from {env : Env} {settings : Settings} {I : Shared → Prop}
    {T : Shared → Transaction → Prop} {G : Event → Shared → Transaction → Prop}
    (hover : ∀ s, T s .ended)
    (hnext : ∀ s e t t', Next env settings s e t t' → G e s t → I s → T s t → T s t')
    (hcommit : ∀ s t own after, t.ready = some own → own.commit s.db env.toEnv = some after →
      G .commit s t → I s → T s t →
        I (s.committed t after) ∧ ∀ t', T s t' → T (s.committed t after) t')
    {w : World} {events : List (Nat × Event)} (hI : I w.shared) (hT : ∀ n, T w.shared (w.own n))
    (hG : Run.AllSteps (World.step env settings) (fun w e => G e.2 w.shared (w.own e.1)) w events) :
    I (Run.run (World.step env settings) w events).shared ∧
      ∀ n, T (Run.run (World.step env settings) w events).shared
        ((Run.run (World.step env settings) w events).own n) := by
  -- one step, as the general rule for interleavings asks for it
  have hact : ∀ e s t, G e s t → I s → T s t →
      I (e.act env settings s t).1 ∧ T (e.act env settings s t).1 (e.act env settings s t).2 ∧
        ∀ t', T s t' → T (e.act env settings s t).1 t' := by
    intro e s t hG hI hT
    obtain ⟨t', hact, hnext'⟩ | ⟨own, after, rfl, hready, hafter, hact⟩ := act_ok env settings e s t
    · rw [hact]
      exact ⟨hI, hnext s e t t' hnext' hG hI hT, fun _ h => h⟩
    · obtain ⟨hI', hothers⟩ := hcommit s t own after hready hafter hG hI hT
      rw [hact]
      exact ⟨hI', hover _, hothers⟩
  exact Interleaving.inv_of_act (fun e s t hG hI hT => ⟨(hact e s t hG hI hT).1, (hact e s t hG hI hT).2.1⟩)
    (fun e s t t' hG hI hT => (hact e s t hG hI hT).2.2 t') hI hT hG

/-- The same, from a state in which no transaction has begun. -/
theorem inv_of_events {env : Env} {settings : Settings} {I : Shared → Prop}
    {T : Shared → Transaction → Prop} {G : Event → Shared → Transaction → Prop}
    (hover : ∀ s, T s .ended) (hidle : ∀ s, T s .idle)
    (hnext : ∀ s e t t', Next env settings s e t t' → G e s t → I s → T s t → T s t')
    (hcommit : ∀ s t own after, t.ready = some own → own.commit s.db env.toEnv = some after →
      G .commit s t → I s → T s t →
        I (s.committed t after) ∧ ∀ t', T s t' → T (s.committed t after) t')
    {s : Shared} {events : List (Nat × Event)} (hI : I s)
    (hG : Run.AllSteps (World.step env settings) (fun w e => G e.2 w.shared (w.own e.1))
      ⟨s, fun _ => .idle⟩ events) :
    I (Run.run (World.step env settings) ⟨s, fun _ => .idle⟩ events).shared ∧
      ∀ n, T (Run.run (World.step env settings) ⟨s, fun _ => .idle⟩ events).shared
        ((Run.run (World.step env settings) ⟨s, fun _ => .idle⟩ events).own n) :=
  inv_of_events_from hover hnext hcommit hI (fun _ => hidle s) hG

end Helpdesk.Traffic
