import Helpdesk.Chat.Calls

/-! # Turns that complete

Four handlers sit behind one dispatch, and an exception of any of them rolls the whole turn back, with
the visitor's message.

**`completes_iff`**: the tool calls that a turn survives. It is put together from the calls of each
completion (`completes_runToolCalls`), from the closing, which may escalate by itself
(`completes_closeTurn`), and from the rounds in between (`completes_answerTurn`, by induction on the
answers of the model). -/

namespace Helpdesk.Chat

open Tx

/-! ## Closing

The reply is stored, the streak is set, and at two the session is escalated. Only the last of these can fail.
The escalation runs on the row that the streak has been written to, so its condition is carried over from there. -/

section
variable {env : Env} {settings : Settings} {ctx : ToolContext} {db db' : Db} {d : ToolDraws}

/-- The ticket id in the answer of `escalate_to_human` is a written UUID. -/
theorem wp_escalateToHuman_result {reason : Json} :
    Tx.wp (escalateToHuman env ctx d reason)
      (fun result _ => List.lookup "ticket_id" result = some .null ∨
        ∃ id, List.lookup "ticket_id" result = some (.str (uuidStr id))) (fun _ => True) db := by
  have hany : ∀ {α : Type} {x : Service α} {db : Db} {Q : α → Db → Prop}, (∀ a db', Q a db') →
      Tx.wp x Q (fun _ => True) db := fun hQ => Tx.wp_of_forall_ok fun a db' _ => hQ a db'
  unfold escalateToHuman
  rw [Tx.wp_bind]
  apply hany
  intro s db₁
  dsimp only
  split
  · rw [Tx.wp_bind]
    apply hany
    intro _ db₂
    rw [Tx.wp_pure]
    exact .inl rfl
  · rw [Tx.wp_bind]
    apply hany
    intro r db₂
    rw [Tx.wp_bind]
    apply hany
    intro ticket db₃
    rw [Tx.wp_bind]
    apply hany
    intro row db₄
    rw [Tx.wp_bind]
    apply hany
    intro _ db₅
    rw [Tx.wp_pure]
    exact .inr ⟨r.1, rfl⟩

/-- The session's row is loaded and written, with the same party. -/
theorem frame_updateChatSession {α : Type} {f : ChatSession → ChatSession} {k : ChatSession → Service α}
    (horg : ∀ s, (f s).organizationId = s.organizationId) (huser : ∀ s, (f s).userId = s.userId)
    (hk : ∀ s, Tx.Does (ToolFrame ctx) (k s)) :
    Tx.Does (ToolFrame ctx) (do
      let chatSession ← getChatSession ctx
      setChatSession ctx (f chatSession)
      k chatSession) := by
  intro db
  rw [Tx.wp_bind]
  apply (looksUp_getOr404 _ _ _ _).wp _ fun _ _ => trivial
  intro s hget
  obtain ⟨-, hs, -⟩ := getOr404_ok.mp hget
  rw [Tx.wp_bind, setChatSession, Tx.wp_bind, Tx.wp_store, Tx.wp_write]
  refine Tx.wp_mono (hk s _) (fun _ _ h => IsTrans.trans _ _ _ ?_ h) fun _ _ => trivial
  exact toolFrame_setChatSession (Std.Refl.refl db) hs (horg s) (huser s)

theorem frame_escalateAutomatically : Tx.Does (ToolFrame ctx) (escalateAutomatically env ctx d) := by
  apply Tx.Does.bind (looksUp_getOr404 _ _ _ _).does
  intro chatSession
  apply Tx.Does.ite _ (Tx.Does.pure _)
  apply Tx.Does.bind (frame_escalateToHuman _)
  intro result
  apply frame_updateChatSession (f := fun s => { s with lowConfidenceStreak := 0 }) (fun _ => rfl) fun _ => rfl
  intro escalated
  split
  · exact Tx.Does.bind (Tx.Does.orRaise _ _) fun _ => Tx.Does.pure _
  · exact Tx.Does.pure _

theorem completes_escalateAutomatically (hhosts : Hosts ctx db) (hkeys : NewKeys d db) {s : ChatSession}
    (hs : db.chatSessions.lookup ctx.chatSessionId = some s) :
    Completes (escalateAutomatically env ctx d) db ↔ (2 ≤ s.lowConfidenceStreak → CanEscalate ctx db automaticEscalationReason) := by
  obtain ⟨s', hs', horg, -⟩ := hhosts.found
  obtain rfl := Option.some.inj (hs.symm.trans hs')
  unfold escalateAutomatically
  rw [completes_bind_of_ok (exec_getChatSession hs horg)]
  split
  next hlow =>
    have hescalated : Completes (escalateToHuman env ctx d (.str automaticEscalationReason)) db ↔
        CanEscalate ctx db automaticEscalationReason := completes_escalateToHuman hhosts hkeys _
    rw [imp_iff_right hlow, ← hescalated]
    refine ⟨Completes.of_bind, ?_⟩
    rintro ⟨result, db₁, hexec⟩
    have hframe : ToolFrame ctx db db₁ := (frame_escalateToHuman _).of_ok hexec
    obtain ⟨s₁, hs₁, horg₁, -⟩ := (hhosts.frame hframe.toSessionFrame).found
    rw [completes_bind_of_ok hexec, completes_bind_of_ok (exec_getChatSession hs₁ horg₁)]
    refine (completes_bind_of_ok (a := ()) rfl).mpr ?_
    rcases (Tx.wp_of_ok hexec).mp wp_escalateToHuman_result with hnull | ⟨id, hid⟩
    · rw [hnull]
      exact completes_pure _ _
    · obtain ⟨parsed, hparsed⟩ := Option.ne_none_iff_exists'.mp (parseUuid_uuidStr id)
      rw [hid]
      dsimp only
      rw [hparsed]
      exact ⟨_, _, rfl⟩
  next hlow => exact iff_of_true (completes_pure _ _) fun h => absurd h hlow

/-- Whether a session can be handed off depends on its user and its ticket, and on the tickets. -/
theorem canEscalate_congr {s s' : ChatSession} {reason : String} (htickets : db'.tickets = db.tickets)
    (hproperties : db'.properties = db.properties) (hcontracts : db'.contracts = db.contracts)
    (hs : db.chatSessions.lookup ctx.chatSessionId = some s)
    (hs' : db'.chatSessions.lookup ctx.chatSessionId = some s') (huser : s'.userId = s.userId)
    (hticket : s'.ticketId = s.ticketId) :
    CanEscalate ctx db' reason ↔ CanEscalate ctx db reason := by
  unfold CanEscalate OrgScope.selectsTicket OrgScope.roleSees
  rw [htickets, hproperties, hcontracts, hs, hs']
  simp only [Option.some.injEq, forall_eq', huser, hticket]

/-- **Closing** a turn: all but the hand-off succeeds. -/
theorem completes_closeTurn {d : ReplyDraws} {createdAt : Int} {replyText : String} {lowConfidence : Bool}
    {toolsUsed : List String} (hhosts : Hosts ctx db) (hkeys : NewClosingKeys db d) :
    Completes (closeTurn env ctx createdAt d replyText lowConfidence toolsUsed) db ↔
      Closable ctx lowConfidence db d := by
  obtain ⟨s, hs, horg, -⟩ := hhosts.found
  have hadds : ∃ row : ChatMessage, row.role = .assistant ∧ row.content = replyText ∧
      row.chatSessionId = ctx.chatSessionId ∧
      exec (addChatMessage ctx d.messageId createdAt .assistant replyText none none) db =
        (.ok (), { db with chatMessages := AList.insert d.messageId row db.chatMessages }) :=
    exec_addChatMessage ctx createdAt none (by simp) (.inl rfl) hkeys.2
  obtain ⟨row, -, -, -, hadd⟩ := hadds
  let db₁ : Db := { db with chatMessages := AList.insert d.messageId row db.chatMessages }
  let s₁ : ChatSession := { s with
    lowConfidenceStreak := if lowConfidence then s.lowConfidenceStreak + 1 else 0 }
  let db₂ : Db := { db₁ with chatSessions := db₁.chatSessions.modify ctx.chatSessionId fun _ => s₁ }
  have hframe₁ : SessionFrame ctx db db₁ := SessionFrame.of_eq rfl rfl rfl
  have hframe₂ : ToolFrame ctx db₁ db₂ := toolFrame_setChatSession (Std.Refl.refl db₁) hs rfl rfl
  have hhosts₂ : Hosts ctx db₂ := (hhosts.frame hframe₁).frame hframe₂.toSessionFrame
  have hs₂ : db₂.chatSessions.lookup ctx.chatSessionId = some s₁ := by
    show (db.chatSessions.modify _ _).lookup _ = _
    rw [Table.lookup_modify_self, hs, Option.map_some]
  have hescalates : Completes (escalateAutomatically env ctx d.escalation) db₂ ↔
      (2 ≤ s₁.lowConfidenceStreak → CanEscalate ctx db₂ automaticEscalationReason) :=
    completes_escalateAutomatically hhosts₂ ⟨hkeys.1.ticketId, hkeys.1.messageIds, hkeys.1.distinct⟩ hs₂
  -- neither the reply nor the streak matters to the hand-off
  have hcan : CanEscalate ctx db₂ automaticEscalationReason ↔ CanEscalate ctx db automaticEscalationReason :=
    canEscalate_congr rfl rfl rfl hs hs₂ rfl rfl
  -- the streak that is written is two, or more, at the second such turn in a row
  have hclosable : Closable ctx lowConfidence db d ↔
      (2 ≤ s₁.lowConfidenceStreak → CanEscalate ctx db₂ automaticEscalationReason) := by
    have hstreak : 2 ≤ s₁.lowConfidenceStreak ↔ lowConfidence = true ∧ 1 ≤ s.lowConfidenceStreak := by
      have hnext : ∀ n : Int, 2 ≤ (if lowConfidence then n + 1 else 0) ↔ lowConfidence = true ∧ 1 ≤ n := by
        intro n
        split
        next hlow =>
          rw [and_iff_right hlow]
          omega
        next hlow => exact iff_of_false (by decide) fun h => hlow h.1
      exact hnext _
    unfold Closable
    rw [hcan, hstreak, hs]
    simp
  rw [hclosable, ← hescalates]
  unfold closeTurn
  rw [completes_bind_of_ok hadd]
  have hset : exec (setChatSession ctx s₁) db₁ = (.ok (), db₂) := rfl
  have hget : exec (getChatSession ctx) db₁ = (.ok s, db₁) := exec_getChatSession hs horg
  rw [completes_bind_of_ok hget, completes_bind_of_ok hset]
  refine ⟨Completes.of_bind, ?_⟩
  rintro ⟨result, db₃, hexec⟩
  have hframe₃ : ToolFrame ctx db₂ db₃ := frame_escalateAutomatically.of_ok hexec
  obtain ⟨s₃, hs₃, horg₃, -⟩ := (hhosts₂.frame hframe₃.toSessionFrame).found
  rw [completes_bind_of_ok hexec]
  dsimp only
  rw [completes_bind_of_ok (exec_getChatSession hs₃ horg₃)]
  exact ⟨_, _, rfl⟩

end

/-! ## The turn

The rounds are at most as many as the settings allow, and a model that has been asked once more answers with a
text. By induction on the answers: either the completion has calls, and the turn goes on with what they have
left, or it is closed. -/

section
variable {env : Env} {settings : Settings} {ctx : ToolContext} {db db' : Db} {createdAt : Int}
  {lowConfidence : Bool} {offered : List String}

theorem completes_answerTurn {round : Nat} {toolsUsed : List String} {answers : List Answer}
    (hhosts : Hosts ctx db) (hoffers : Offers ctx offered db)
    (hround : round ≤ settings.chatMaxToolRounds) (hanswers : settings.chatMaxToolRounds < round + answers.length)
    (hcalls : ∀ answer ∈ answers, ∀ call ∈ answer.completion.toolCalls,
      ∃ items, WellFormedCall env offered call items)
    (hkeys : AlongAnswers env settings ctx createdAt NewCallKeys NewClosingKeys round answers db) :
    Completes (answerTurn env settings ctx createdAt lowConfidence round toolsUsed answers) db ↔
      AlongAnswers env settings ctx createdAt (CallAnswerable env ctx) (Closable ctx lowConfidence) round
        answers db := by
  induction answers generalizing round toolsUsed db with
  | nil =>
    rw [List.length_nil] at hanswers
    omega
  | cons answer rest ih =>
    obtain ⟨completion, d⟩ := answer
    rw [AlongAnswers] at hkeys ⊢
    show Completes (if round < settings.chatMaxToolRounds ∧ completion.toolCalls ≠ [] then _ else _) db ↔ _
    split
    next hcallsTools =>
      rw [if_pos hcallsTools] at hkeys
      obtain ⟨hnew, hrest⟩ := hkeys
      -- the calls of this round, and then the rest of the turn on what they leave
      have hrun : Completes (runToolCalls env ctx createdAt d 0 completion.toolCalls) db ↔
          AlongCalls env ctx createdAt d (CallAnswerable env ctx) 0 completion.toolCalls db :=
        completes_runToolCalls hhosts hoffers (hcalls _ List.mem_cons_self) hnew
      have hnext : ∀ messages db', exec (runToolCalls env ctx createdAt d 0 completion.toolCalls) db =
          (.ok messages, db') →
          (Completes (answerTurn env settings ctx createdAt lowConfidence (round + 1)
            (toolsUsed ++ completion.toolCalls.map (·.name)) rest) db' ↔
            AlongAnswers env settings ctx createdAt (CallAnswerable env ctx) (Closable ctx lowConfidence)
              (round + 1) rest db') := by
        intro messages db' hexec
        have hframe : TurnFrame ctx db db' := (frame_runToolCalls _ _ _).of_ok hexec
        refine ih (hhosts.frame hframe.toSessionFrame) (hoffers.frame hframe.toSessionFrame) ?_ ?_
          (fun answer hmem => hcalls answer (List.mem_cons_of_mem _ hmem)) (hrest messages db' hexec)
        · omega
        · rw [List.length_cons] at hanswers
          omega
      rw [← hrun]
      constructor
      · intro h
        refine ⟨h.of_bind, fun messages db' hexec => (hnext messages db' hexec).mp ?_⟩
        rwa [completes_bind_of_ok hexec] at h
      · rintro ⟨⟨messages, db', hexec⟩, hall⟩
        rw [completes_bind_of_ok hexec]
        exact (hnext messages db' hexec).mpr (hall messages db' hexec)
    next hcloses =>
      rw [if_neg hcloses] at hkeys
      exact completes_closeTurn hhosts hkeys

/-- The visitor's message and the reply are in the conversation. -/
structure Persisted (ctx : ToolContext) (content : String) (input : TurnInput) (result : ChatTurnResult)
    (db : Db) : Prop where
  message : ∃ row, db.chatMessages.lookup input.opening.messageId = some row ∧
    row.chatSessionId = ctx.chatSessionId ∧ row.role = .user ∧ row.content = content
  reply : ∃ id row, db.chatMessages.lookup id = some row ∧ row.chatSessionId = ctx.chatSessionId ∧
    row.role = .assistant ∧ row.content = result.reply

/-- The message is the one row that is added. -/
theorem addChatMessage_ok {id : Uuid} {role : ChatMessageRole} {content : String}
    {toolName toolCallId : Option String}
    (h : exec (addChatMessage ctx id createdAt role content toolName toolCallId) db = (.ok (), db')) :
    db.chatMessages.lookup id = none ∧ ∃ row : ChatMessage, row.chatSessionId = ctx.chatSessionId ∧
      row.createdAt = createdAt ∧ row.role = role ∧ row.content = content ∧
      db' = { db with chatMessages := AList.insert id row db.chatMessages } := by
  suffices hwp : Tx.wp (addChatMessage ctx id createdAt role content toolName toolCallId)
      (fun _ db' => db.chatMessages.lookup id = none ∧ ∃ row : ChatMessage,
        row.chatSessionId = ctx.chatSessionId ∧ row.createdAt = createdAt ∧ row.role = role ∧
        row.content = content ∧ db' = { db with chatMessages := AList.insert id row db.chatMessages })
      (fun _ => True) db from (Tx.wp_of_ok h).mp hwp
  unfold addChatMessage
  split
  · split
    · rw [Tx.wp_bind, Tx.wp_store, Tx.wp_bind, Tx.wp_orRaise]
      refine ⟨fun chatMessages hinsert => ?_, fun _ => trivial⟩
      obtain ⟨hfresh, rfl⟩ := Table.insertNew_eq_some.mp hinsert
      rw [Tx.wp_write]
      exact ⟨hfresh, _, rfl, rfl, rfl, rfl, rfl⟩
    · rw [Tx.wp_raise]
      trivial
  · rw [Tx.wp_raise]
    trivial

theorem addChatMessage_stores {id : Uuid} {role : ChatMessageRole} {content : String}
    {toolName toolCallId : Option String}
    (h : exec (addChatMessage ctx id createdAt role content toolName toolCallId) db = (.ok (), db')) :
    ∃ row, db'.chatMessages.lookup id = some row ∧ row.chatSessionId = ctx.chatSessionId ∧ row.role = role ∧
      row.content = content := by
  obtain ⟨-, row, hsession, -, hrole, hcontent, rfl⟩ := addChatMessage_ok h
  exact ⟨row, AList.lookup_insert _, hsession, hrole, hcontent⟩

/-- A turn is closed by adding its reply; what follows adds nothing to the conversation. -/
theorem closeTurn_adds {d : ReplyDraws} {replyText : String} {toolsUsed : List String} {result : ChatTurnResult}
    (h : exec (closeTurn env ctx createdAt d replyText lowConfidence toolsUsed) db = (.ok result, db')) :
    ∃ db₁, exec (addChatMessage ctx d.messageId createdAt .assistant replyText none none) db = (.ok (), db₁) ∧
      ToolFrame ctx db₁ db' := by
  obtain ⟨_, db₁, hadd, hrest⟩ := Tx.bind_ok.mp h
  refine ⟨db₁, hadd, Tx.Does.of_ok ?_ hrest⟩
  apply frame_updateChatSession
    (f := fun s => { s with lowConfidenceStreak := if lowConfidence then s.lowConfidenceStreak + 1 else 0 })
    (fun _ => rfl) fun _ => rfl
  intro _
  apply Tx.Does.bind frame_escalateAutomatically
  intro _
  apply frame_updateChatSession (f := fun s => { s with lastActivityAt := d.now }) (fun _ => rfl) fun _ => rfl
  exact fun _ => Tx.Does.pure _

/-- A closed turn has stored its reply. -/
theorem closeTurn_stores {d : ReplyDraws} {replyText : String} {toolsUsed : List String} {result : ChatTurnResult}
    (h : exec (closeTurn env ctx createdAt d replyText lowConfidence toolsUsed) db = (.ok result, db')) :
    TurnFrame ctx db db' ∧ ∃ id row, db'.chatMessages.lookup id = some row ∧
      row.chatSessionId = ctx.chatSessionId ∧ row.role = .assistant ∧ row.content = result.reply := by
  obtain ⟨db₁, hadd, hframe⟩ := closeTurn_adds h
  have hreply : result.reply = replyText := by
    obtain ⟨_, _, _, hrest⟩ := Tx.bind_ok.mp h
    obtain ⟨_, _, _, h₁⟩ := Tx.bind_ok.mp hrest
    obtain ⟨_, _, _, h₂⟩ := Tx.bind_ok.mp h₁
    obtain ⟨_, _, _, h₃⟩ := Tx.bind_ok.mp h₂
    obtain ⟨_, _, _, h₄⟩ := Tx.bind_ok.mp h₃
    obtain ⟨_, _, _, h₅⟩ := Tx.bind_ok.mp h₄
    cases h₅
    rfl
  refine ⟨IsTrans.trans _ _ _ ((frame_addChatMessage _ _ _ _ _ _).of_ok hadd) hframe.turnFrame, ?_⟩
  rw [hframe.chatMessages, hreply]
  exact ⟨_, addChatMessage_stores hadd⟩

theorem answerTurn_stores {round : Nat} {toolsUsed : List String} {answers : List Answer}
    {result : ChatTurnResult}
    (h : exec (answerTurn env settings ctx createdAt lowConfidence round toolsUsed answers) db = (.ok result, db')) :
    TurnFrame ctx db db' ∧ ∃ id row, db'.chatMessages.lookup id = some row ∧
      row.chatSessionId = ctx.chatSessionId ∧ row.role = .assistant ∧ row.content = result.reply := by
  induction answers generalizing round toolsUsed db with
  | nil => cases h
  | cons answer rest ih =>
    obtain ⟨completion, d⟩ := answer
    rw [answerTurn, Tx.exec_ite] at h
    split at h
    · obtain ⟨_, db₁, hcalls, hrest⟩ := Tx.bind_ok.mp h
      obtain ⟨hframe, hreply⟩ := ih hrest
      exact ⟨IsTrans.trans _ _ _ ((frame_runToolCalls _ _ _).of_ok hcalls) hframe, hreply⟩
    · exact closeTurn_stores h

/-- A turn is opened by storing the visitor's message. -/
theorem exec_openTurn (settings : Settings) {d : OpenDraws} {content : String} (excerpts : List String)
    (hhosts : Hosts ctx db) (hcontent : Text.btrim content ≠ "") (hfresh : db.chatMessages.lookup d.messageId = none) :
    ∃ offered, ∃ row : ChatMessage, row.role = .user ∧ row.content = content ∧
      row.chatSessionId = ctx.chatSessionId ∧ exec (openTurn settings ctx d content excerpts) db =
        (.ok offered, { db with chatMessages := AList.insert d.messageId row db.chatMessages }) := by
  obtain ⟨s, hs, horg, -⟩ := hhosts.found
  have hadds : ∃ row : ChatMessage, row.role = .user ∧ row.content = content ∧
      row.chatSessionId = ctx.chatSessionId ∧
      exec (addChatMessage ctx d.messageId d.createdAt .user content none none) db =
        (.ok (), { db with chatMessages := AList.insert d.messageId row db.chatMessages }) :=
    exec_addChatMessage ctx _ none (by simp) (.inr hcontent) hfresh
  obtain ⟨row, hrole, hstored, hsession, hadd⟩ := hadds
  unfold openTurn
  rw [exec_bind, exec_getChatSession hs horg]
  dsimp only
  rw [exec_bind, hadd]
  exact ⟨_, row, hrole, hstored, hsession, rfl⟩

theorem completes_sendMessage {content : String} {input : TurnInput}
    (h : Regular env settings ctx content input db) :
    Completes (sendMessage env settings ctx content input) db ↔
      AlongTurn env settings ctx content input (CallAnswerable env ctx) (Closable ctx input.excerpts.isEmpty) db := by
  obtain ⟨s, hs, -⟩ := h.hosts.found
  obtain ⟨offered, row, -, -, -, hopen⟩ := exec_openTurn settings input.excerpts h.hosts h.notBlank h.messageId
  let db₁ : Db := { db with chatMessages := AList.insert input.opening.messageId row db.chatMessages }
  have hframe : SessionFrame ctx db db₁ := SessionFrame.of_eq rfl rfl rfl
  have halong : ∀ P Q, AlongTurn env settings ctx content input P Q db ↔
      AlongAnswers env settings ctx input.opening.createdAt P Q 0 input.answers db₁ := by
    intro P Q
    constructor
    · exact fun hall => hall offered db₁ hopen
    · intro hall offered' db' hopen'
      rw [hopen] at hopen'
      cases hopen'
      exact hall
  have hanswers : Completes (answerTurn env settings ctx input.opening.createdAt input.excerpts.isEmpty 0 []
      input.answers) db₁ ↔ _ :=
    completes_answerTurn (h.hosts.frame hframe) (Offers.frame ⟨s, hs, rfl⟩ hframe) (Nat.zero_le _)
      (by rw [Nat.zero_add]; exact h.answers) (fun answer hanswer call hcall => h.calls answer hanswer call hcall s hs)
      ((halong _ _).mp h.newKeys)
  rw [halong, ← hanswers]
  exact completes_bind_of_ok hopen

/-- Both messages of a turn that completes are stored. -/
theorem sendMessage_stores {content : String} {input : TurnInput} {result : ChatTurnResult}
    (h : Regular env settings ctx content input db)
    (hexec : exec (sendMessage env settings ctx content input) db = (.ok result, db')) :
    Persisted ctx content input result db' := by
  obtain ⟨offered, row, hrole, hcontent, hsession, hopen⟩ :=
    exec_openTurn settings input.excerpts h.hosts h.notBlank h.messageId
  obtain ⟨_, _, hopen', hrest⟩ := Tx.bind_ok.mp hexec
  rw [hopen] at hopen'
  cases hopen'
  obtain ⟨hkept, hreply⟩ := answerTurn_stores hrest
  exact ⟨⟨row, hkept.kept _ _ (AList.lookup_insert _), hsession, hrole, hcontent⟩, hreply⟩

end

/-! ## A ticket that is named by its number

The visitor says `42`, and the model takes this for an id. The call is well-formed, and the turn is lost. -/

def numberArguments : String := "\x7b\"ticket_id\": \"32\"\x7d"

/-- Decodes one JSON text. -/
def numberEnv : Env where
  zoneInfo := fun _ => none
  lower := id
  loads := fun text => if text = numberArguments then some (.obj [("ticket_id", .str "32")]) else none
  str := fun _ => ""

def numberCall : ToolCall := ⟨"call_1", "check_ticket_status", numberArguments⟩

def numberDraws : ReplyDraws := ⟨fun i => 102 + i, fun _ => visibilityDraws, 110, visibilityDraws, days 739000⟩

/-- The model looks up the ticket that the visitor has named, and would answer then. -/
def numberTurn : TurnInput where
  opening := ⟨101, days 739000⟩
  excerpts := ["Opening hours"]
  answers := [⟨⟨none, [numberCall]⟩, numberDraws⟩, ⟨⟨some "It is open.", []⟩, numberDraws⟩]

def tenantContext : ToolContext := ⟨⟨1, 10, .tenant⟩, 40⟩

theorem numberCall_wellFormed :
    WellFormedCall numberEnv (availableToolNames (freshSession 10)) numberCall [("ticket_id", .str "32")] where
  offered := by decide
  loads := by
    have htext : argumentsText numberCall = numberArguments := by decide +kernel
    rw [htext]
    simp [numberEnv]
  required field hfield := by
    rw [List.mem_singleton.mp hfield]
    exact ⟨"32", rfl⟩
  strings field v hv := by
    rw [List.lookup_cons] at hv
    split at hv
    · exact ⟨"32", (Option.some.inj hv).symm⟩
    · cases hv

theorem not_answerable_number (db : Db) (rowId : Uuid) (d : ToolDraws) :
    ¬ CallAnswerable numberEnv tenantContext db rowId d numberCall := by
  intro h
  exact (h _ numberCall_wellFormed.loads).checkTicketStatus rfl "32" rfl (by decide +kernel)

/-- The call comes first, and is not answered. -/
theorem alongAnswers_number {P : Db → Uuid → ToolDraws → ToolCall → Prop} {Q : Db → ReplyDraws → Prop} {db : Db}
    (hhosts : Hosts tenantContext db) (hoffers : Offers tenantContext (availableToolNames (freshSession 10)) db)
    (hkeys : NewCallKeys db 102 visibilityDraws numberCall) :
    AlongAnswers numberEnv ⟨10, 1⟩ tenantContext (days 739000) P Q 0 numberTurn.answers db ↔
      P db 102 visibilityDraws numberCall := by
  obtain ⟨s, hs, hoffered⟩ := hoffers
  have hraises : ¬ Completes (runToolCall numberEnv tenantContext (days 739000) 102 visibilityDraws numberCall) db := by
    rw [completes_runToolCall hhosts hkeys hs (hoffered ▸ numberCall_wellFormed)]
    exact not_answerable_number db 102 visibilityDraws
  show (if 0 < 1 ∧ [numberCall] ≠ [] then _ else _) ↔ _
  rw [if_pos ⟨Nat.zero_lt_one, List.cons_ne_nil _ _⟩]
  constructor
  · exact fun h => h.1.1
  · refine fun h => ⟨⟨h, fun _ _ _ => trivial⟩, fun messages db' hexec => absurd ?_ hraises⟩
    obtain ⟨message, db₁, hcall, -⟩ := Tx.bind_ok.mp hexec
    exact ⟨message, db₁, hcall⟩

/-- The turn gets as far as the call. -/
theorem opens_number : ∃ offered db₁,
    exec (openTurn ⟨10, 1⟩ tenantContext ⟨101, days 739000⟩ "How is ticket 32?" ["Opening hours"]) visibilityDb =
      (.ok offered, db₁) ∧ Hosts tenantContext db₁ ∧
    Offers tenantContext (availableToolNames (freshSession 10)) db₁ ∧
    NewCallKeys db₁ 102 visibilityDraws numberCall := by
  have hhosts : Hosts tenantContext visibilityDb := ⟨freshSession 10, rfl, rfl, fun _ => ⟨by decide, by decide⟩⟩
  obtain ⟨offered, row, -, -, -, hopen⟩ := exec_openTurn (d := ⟨101, days 739000⟩) ⟨10, 1⟩ ["Opening hours"] hhosts
    (by decide +kernel : Text.btrim "How is ticket 32?" ≠ "") rfl
  refine ⟨offered, _, hopen, hhosts.frame (SessionFrame.of_eq rfl rfl rfl), ⟨freshSession 10, rfl, rfl⟩, ?_, ?_⟩
  · refine ⟨rfl, fun _ => rfl, fun i j h => ?_⟩
    have h : 60 + i = 60 + j := h
    omega
  · exact (AList.lookup_insert_ne (by decide)).trans rfl

theorem regular_number :
    Regular numberEnv ⟨10, 1⟩ tenantContext "How is ticket 32?" numberTurn visibilityDb where
  hosts := ⟨freshSession 10, rfl, rfl, fun _ => ⟨by decide, by decide⟩⟩
  notBlank := by decide +kernel
  messageId := rfl
  newKeys offered' db' hexec := by
    obtain ⟨offered, db₁, hopen, hhosts, hoffers, hkeys⟩ := opens_number
    obtain ⟨-, rfl⟩ := Prod.mk.inj (hopen.symm.trans hexec)
    exact (alongAnswers_number hhosts hoffers hkeys).mpr hkeys
  answers := by decide
  calls answer hanswer call hcall s hs := by
    obtain rfl : freshSession 10 = s := Option.some.inj hs
    rcases List.mem_cons.mp hanswer with rfl | hanswer
    · rw [List.mem_singleton.mp hcall]
      exact ⟨_, numberCall_wellFormed⟩
    · rw [List.mem_singleton.mp hanswer] at hcall
      cases hcall

end Helpdesk.Chat
