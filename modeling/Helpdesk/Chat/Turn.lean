import Helpdesk.Chat.Service
import Helpdesk.Chat.Sessions

/-! # A turn in one piece

`send_message` and the two callers that it has, for completions that are known in advance: the route of
the widget and the job that answers a WhatsApp message. What a turn has executed is told apart from
what it has stored, since a turn that raises is rolled back after its handlers have run. -/

namespace Helpdesk.Chat

/-- A completion that the model will answer with, and the draws of what is done with it. -/
structure Answer where
  completion : Completion
  draws : ReplyDraws

/-- The loop of `send_message` and what follows it, from the request number `round` on. Tool calls in
    answer to the last request are ignored. Where the answers run out, the client raises. -/
def answerTurn (env : Env) (settings : Settings) (ctx : ToolContext) (createdAt : Int)
    (lowConfidence : Bool) : (round : Nat) → (toolsUsed : List String) → List Answer →
    Service ChatTurnResult
  | _, _, [] => Tx.raise .uncaught
  | round, toolsUsed, ⟨completion, d⟩ :: rest =>
    if round < settings.chatMaxToolRounds ∧ completion.toolCalls ≠ [] then do
      let _ ← runToolCalls env ctx createdAt d 0 completion.toolCalls
      answerTurn env settings ctx createdAt lowConfidence (round + 1)
        (toolsUsed ++ completion.toolCalls.map (·.name)) rest
    else closeTurn env ctx createdAt d (completion.content.getD "") lowConfidence toolsUsed

/-- What a turn is given besides its session. -/
structure TurnInput where
  opening : OpenDraws
  /-- the rows of the knowledge-base search -/
  excerpts : List String
  answers : List Answer

/-- `send_message`. -/
def sendMessage (env : Env) (settings : Settings) (ctx : ToolContext) (content : String)
    (input : TurnInput) : Service ChatTurnResult := do
  let _ ← openTurn settings ctx input.opening content input.excerpts
  answerTurn env settings ctx input.opening.createdAt input.excerpts.isEmpty 0 [] input.answers

/-! ## The tools that are executed

Follows the answers in the same way as `answerTurn`, and collects the names of the calls that have got to a handler. A
call that raises is executed as well, and those after it are not. -/

/-- The call gets as far as its handler. -/
def dispatches (env : Env) (call : ToolCall) : Bool :=
  match env.loads (if call.arguments = "" then "\x7b\x7d" else call.arguments) with
  | some (.obj _) => call.name ∈ toolHandlerNames
  | some _ | none => false

/-- The tools that the calls of a completion execute, up to the first one that raises. -/
def executedCalls (env : Env) (ctx : ToolContext) (createdAt : Int) (d : ReplyDraws) :
    (n : Nat) → List ToolCall → Db → List String
  | _, [], _ => []
  | n, call :: rest, db =>
    if dispatches env call then
      call.name :: match Tx.exec (runToolCall env ctx createdAt (d.rowIds n) (d.tools n) call) db with
        | (.ok _, db') => executedCalls env ctx createdAt d (n + 1) rest db'
        | (.error _, _) => []
    else []

/-- The tools that the answers of a turn execute. -/
def executedAnswers (env : Env) (settings : Settings) (ctx : ToolContext) (createdAt : Int) :
    (round : Nat) → List Answer → Db → List String
  | _, [], _ => []
  | round, ⟨completion, d⟩ :: rest, db =>
    if round < settings.chatMaxToolRounds ∧ completion.toolCalls ≠ [] then
      executedCalls env ctx createdAt d 0 completion.toolCalls db ++
        match Tx.exec (runToolCalls env ctx createdAt d 0 completion.toolCalls) db with
        | (.ok _, db') => executedAnswers env settings ctx createdAt (round + 1) rest db'
        | (.error _, _) => []
    else []

/-- The tools that a turn executes. -/
def executedTools (env : Env) (settings : Settings) (ctx : ToolContext) (content : String)
    (input : TurnInput) (db : Db) : List String :=
  match Tx.exec (openTurn settings ctx input.opening content input.excerpts) db with
  | (.ok _, db') => executedAnswers env settings ctx input.opening.createdAt 0 input.answers db'
  | (.error _, _) => []

/-! ## The callers

The widget posts a message under a credential, and a WhatsApp job runs under the scope of the session's user. Both
settle: the turn is committed, or nothing of it is. -/

/-- Where a posted message gets its turn: under the scope of the credential, if the session is active
    and the rate limiter admits the message. -/
def postedContext (credential : Credential) (sessionId : Uuid) (admitted : Bool) (db : Db) :
    Option ToolContext :=
  match (Tx.exec (getChatSessionScope credential sessionId) db).1 with
  | .ok (scope, chatSession) =>
    if chatSession.status = .active ∧ admitted then some ⟨scope, sessionId⟩ else none
  | .error _ => none

/-- `post_chat_message`, with the answer of the rate limiter. -/
def postChatMessage (env : Env) (settings : Settings) (credential : Credential) (sessionId : Uuid)
    (admitted : Bool) (content : String) (input : TurnInput) : Service ChatTurnResult := do
  let (scope, chatSession) ← getChatSessionScope credential sessionId
  if chatSession.status ≠ .active then Tx.raise (.httpException 409)
  else if ¬ admitted then Tx.raise (.httpException 429)
  else sendMessage env settings ⟨scope, sessionId⟩ content input

/-- The scope of `process_whatsapp_message`: the session is found without one, and its user under the
    background scope of its organization. -/
def whatsappTurnScope (chatSession : ChatSession) : Service OrgScope := do
  match chatSession.userId with
  | none => Tx.raise (.notFound "User" none)
  | some userId =>
    let user ← (OrgScope.forBackgroundWorker chatSession.organizationId).getUser userId
    pure ⟨chatSession.organizationId, userId, user.role⟩

/-- Where a queued message gets its turn. -/
def queuedContext (chatSessionId : Uuid) (db : Db) : Option ToolContext :=
  match db.chatSessions.lookup chatSessionId with
  | none => none
  | some chatSession =>
    match (Tx.exec (whatsappTurnScope chatSession) db).1 with
    | .ok scope => some ⟨scope, chatSessionId⟩
    | .error _ => none

/-- `process_whatsapp_message` up to its commit; `text` is `text_body or ""`. -/
def processWhatsappMessage (env : Env) (settings : Settings) (chatSessionId : Uuid) (text : Json)
    (input : TurnInput) : Service (Option ChatTurnResult) := do
  let db ← Tx.store
  match db.chatSessions.lookup chatSessionId with
  | none => pure none
  | some chatSession =>
    let scope ← whatsappTurnScope chatSession
    let content ← asText text
    some <$> sendMessage env settings ⟨scope, chatSessionId⟩ content input

/-! ## What the callers come to

Either there is a context, and then a turn is run under it, or nothing is written. -/

theorem looksUp_resolveCredential (credential : Credential) (sessionId : Uuid) :
    LooksUp (resolveCredential credential sessionId) := by
  cases credential with
  | bearer userId =>
    exact LooksUp.bind LooksUp.store fun db => LooksUp.orRaise _ (by simp [unauthorized])
  | chatToken token =>
    show LooksUp (resolveChatTokenScope token sessionId)
    unfold resolveChatTokenScope
    apply LooksUp.ite (LooksUp.raise (by simp [unauthorized]))
    split
    · exact LooksUp.pure _
    · exact LooksUp.pure _

theorem looksUp_getChatSessionScope (credential : Credential) (sessionId : Uuid) :
    LooksUp (getChatSessionScope credential sessionId) := by
  apply LooksUp.bind (looksUp_resolveCredential _ _)
  intro scope
  exact LooksUp.bind (looksUp_getOr404 _ _ _ _) fun _ => LooksUp.pure _

/-- Posting a message comes to a turn, or to nothing. -/
theorem settle_postChatMessage (env : Env) (settings : Settings) (credential : Credential)
    (sessionId : Uuid) (admitted : Bool) (content : String) (input : TurnInput) (db : Db) :
    (Tx.settle (postChatMessage env settings credential sessionId admitted content input) db).2 =
      match postedContext credential sessionId admitted db with
      | some ctx => (Tx.settle (sendMessage env settings ctx content input) db).2
      | none => db := by
  unfold postedContext
  cases hx : Tx.exec (getChatSessionScope credential sessionId) db with
  | mk out db₁ =>
    cases out with
    | error e =>
      show (Tx.settle (_ >>= _) db).2 = _
      rw [Tx.settle_of_error (Tx.bind_error.mpr (.inl hx))]
    | ok principal =>
      obtain rfl := (looksUp_getChatSessionScope _ _).same hx
      show (Tx.settle (_ >>= _) db₁).2 = _
      rw [Tx.settle_bind_of_ok hx]
      obtain ⟨scope, s⟩ := principal
      dsimp only
      by_cases hactive : s.status = .active
      · cases admitted with
        | true => simp [hactive]
        | false => simp [hactive, Tx.settle]
      · simp [hactive, Tx.settle]

theorem looksUp_whatsappTurnScope (s : ChatSession) : LooksUp (whatsappTurnScope s) := by
  unfold whatsappTurnScope
  split
  · exact LooksUp.raise (by simp)
  · exact LooksUp.bind (looksUp_getOr404 _ _ _ _) fun _ => LooksUp.pure _

/-- A job comes to a turn, or to nothing. -/
theorem settle_processWhatsappMessage (env : Env) (settings : Settings) (chatSessionId : Uuid)
    (text : Json) (input : TurnInput) (db : Db) :
    (Tx.settle (processWhatsappMessage env settings chatSessionId text input) db).2 =
      match queuedContext chatSessionId db, text with
      | some ctx, .str content => (Tx.settle (sendMessage env settings ctx content input) db).2
      | _, _ => db := by
  unfold processWhatsappMessage queuedContext
  rw [Tx.settle_bind_of_ok (Tx.exec_store db)]
  cases hs : db.chatSessions.lookup chatSessionId with
  | none => rfl
  | some s =>
    dsimp only
    cases hx : Tx.exec (whatsappTurnScope s) db with
    | mk out db₁ =>
      cases out with
      | error e => rw [Tx.settle_of_error (Tx.bind_error.mpr (.inl hx))]
      | ok scope =>
        obtain rfl := (looksUp_whatsappTurnScope s).same hx
        rw [Tx.settle_bind_of_ok hx]
        cases text with
        | str content =>
          have htext : Tx.exec (asText (.str content)) db₁ = (.ok content, db₁) := rfl
          rw [Tx.settle_bind_of_ok htext, Tx.settle_map]
        | _ => rfl

/-- A posted message gets its turn on an active session. -/
theorem postedContext_eq_some {credential : Credential} {sessionId : Uuid} {admitted : Bool} {db : Db}
    {ctx : ToolContext} (h : postedContext credential sessionId admitted db = some ctx) :
    ∃ scope s, Tx.exec (getChatSessionScope credential sessionId) db = (.ok (scope, s), db) ∧
      s.status = .active ∧ ctx = ⟨scope, sessionId⟩ := by
  unfold postedContext at h
  split at h
  next scope s hprincipal =>
    obtain ⟨hactive, hctx⟩ := Option.ite_none_right_eq_some.mp h
    have hsame := (looksUp_getChatSessionScope credential sessionId).same (Prod.ext hprincipal rfl)
    exact ⟨scope, s, Prod.ext hprincipal hsame, hactive.1, (Option.some.inj hctx).symm⟩
  · cases h

/-- A queued message gets its turn on a session that there is, as the session's user. -/
theorem queuedContext_eq_some {chatSessionId : Uuid} {db : Db} {ctx : ToolContext}
    (h : queuedContext chatSessionId db = some ctx) :
    ∃ s scope, db.chatSessions.lookup chatSessionId = some s ∧
      Tx.exec (whatsappTurnScope s) db = (.ok scope, db) ∧ ctx = ⟨scope, chatSessionId⟩ := by
  unfold queuedContext at h
  split at h
  · cases h
  next s hs =>
    split at h
    next scope hscope =>
      have hsame := (looksUp_whatsappTurnScope s).same (Prod.ext hscope rfl)
      exact ⟨s, scope, hs, Prod.ext hscope hsame, (Option.some.inj h).symm⟩
    · cases h

end Helpdesk.Chat
