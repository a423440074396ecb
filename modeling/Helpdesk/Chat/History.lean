import Mathlib.Data.Prod.Lex
import Helpdesk.Chat.Service
import Helpdesk.Library.Run
import Helpdesk.Library.ToolProtocol

/-! # What the model is sent

A chat session as a machine: a turn opens, the model answers its requests one after another, and the
turn commits or is rolled back. The conversation that is sent grows while the turn is open; the next
turn starts from rows.

Within a turn the conversation stays well-formed, since the results of a completion's tool calls
follow the message that makes them (`wellFormed_reply`). The rows keep the results but not the
message with the calls, so a turn that opens with a result in its window of history sends a result
that nobody asked for. **Key result**: `requests_wellFormed_iff`, which says that this is the only
way. -/

namespace Helpdesk.Chat

open Run

/-! ## The machine

A turn is open between two requests to the model. Its conversation is kept in memory and its rows in the
transaction; only the rows outlive it. -/

/-- A turn that waits for the model. -/
structure Turn where
  ctx : ToolContext
  createdAt : Int
  lowConfidence : Bool
  /-- `tool_schemas`, by name -/
  tools : List String
  /-- the database as the open transaction sees it -/
  db : Db
  messages : List OpenaiMessage
  round : Nat
  toolsUsed : List String

/-- The arguments of `llm_client.chat.completions.create`. -/
structure Request where
  messages : List OpenaiMessage
  tools : Option (List String)

/-- What an open turn has sent last. -/
def Turn.request (settings : Settings) (t : Turn) : Request :=
  ⟨t.messages, if t.round < settings.chatMaxToolRounds then some t.tools else none⟩

structure World where
  db : Db
  turn : Option Turn

/-- `send_message` up to its first request. -/
def World.startTurn (settings : Settings) (w : World) (ctx : ToolContext) (d : OpenDraws)
    (content : String) (excerpts : List String) : World :=
  match w.turn with
  | some _ => w
  | none =>
    match Tx.exec (openTurn settings ctx d content excerpts) w.db with
    | (.ok (messages, tools), db) =>
      { w with
        turn := some
          { ctx := ctx
            createdAt := d.createdAt
            lowConfidence := excerpts.isEmpty
            tools := tools
            db := db
            messages := messages
            round := 0
            toolsUsed := [] } }
    | (.error _, _) => w

/-- The message that is appended for a completion with tool calls. -/
def Completion.callMessage (completion : Completion) : OpenaiMessage :=
  .assistantCalls (completion.content.getD "") completion.toolCalls

/-- The body of the loop after a completion with tool calls, up to the next request. -/
def World.callTools (env : Env) (w : World) (t : Turn) (completion : Completion) (d : ReplyDraws) :
    World :=
  match Tx.exec (runToolCalls env t.ctx t.createdAt d 0 completion.toolCalls) t.db with
  | (.ok results, db) =>
    { w with
      turn := some
        { t with
          db := db
          messages := t.messages ++ completion.callMessage :: results
          round := t.round + 1
          toolsUsed := t.toolsUsed ++ completion.toolCalls.map (·.name) } }
  | (.error _, _) => { w with turn := none }

/-- From the last completion to the end of the request handler. -/
def World.close (env : Env) (w : World) (t : Turn) (completion : Completion) (d : ReplyDraws) :
    World :=
  match Tx.exec (closeTurn env t.ctx t.createdAt d (completion.content.getD "") t.lowConfidence
      t.toolsUsed) t.db with
  | (.ok _, db) => ⟨db, none⟩
  | (.error _, _) => { w with turn := none }

/-- The completion that answers the request of `t` arrives. Tool calls in answer to the final
    request, which offers no tools, are ignored. -/
def World.reply (env : Env) (settings : Settings) (w : World) (t : Turn) (completion : Completion)
    (d : ReplyDraws) : World :=
  if t.round < settings.chatMaxToolRounds ∧ completion.toolCalls ≠ [] then
    w.callTools env t completion d
  else w.close env t completion d

inductive Event where
  | openTurn (ctx : ToolContext) (d : OpenDraws) (content : String) (excerpts : List String)
  | reply (completion : Completion) (d : ReplyDraws)
  /-- the client raises, or the process is gone -/
  | abort

def Event.step (env : Env) (settings : Settings) (w : World) : Event → World
  | .openTurn ctx d content excerpts => w.startTurn settings ctx d content excerpts
  | .reply completion d =>
    match w.turn with
    | some t => w.reply env settings t completion d
    | none => w
  | .abort => { w with turn := none }

/-! ## The protocol

A message has the id of the call that it answers, or the ids of the calls that it makes. In a well-formed
conversation each answer is to a call of the message before it, with nothing but answers in between. -/

/-- The `tool_call_id` of a `tool` message. -/
def OpenaiMessage.resultId : OpenaiMessage → Option (Option String)
  | .tool toolCallId _ => some toolCallId
  | .system _ | .user _ | .assistant _ | .assistantCalls _ _ => none

/-- The ids in the `tool_calls` of an `assistant` message. -/
def OpenaiMessage.callIds : OpenaiMessage → List (Option String)
  | .assistantCalls _ toolCalls => toolCalls.map fun call => some call.id
  | .system _ | .user _ | .assistant _ | .tool _ _ => []

/-- Each `tool` message answers a call of the `assistant` message before it. -/
def WellFormed (messages : List OpenaiMessage) : Prop :=
  ToolProtocol.WellFormed OpenaiMessage.resultId OpenaiMessage.callIds messages

/-! ## The window of history

The condition is on what is stored before the turn: a result of a tool that will be among the last rows. It
counts the rows that come after it, and the visitor's message if it sorts behind. -/

/-- What the rows of a session are ordered by. -/
def rowKey (row : Uuid × ChatMessage) : Int ×ₗ Uuid := toLex (row.2.createdAt, row.1)

/-- A stored tool result of the session will be among the last `chat_history_turns` rows once the
    new message is stored: fewer rows than that come after it. -/
def ToolRowInWindow (settings : Settings) (ctx : ToolContext) (d : OpenDraws) (db : Db) : Prop :=
  ∃ row ∈ listForSession ctx.scope ctx.chatSessionId db, row.2.role = .tool ∧
    (listForSession ctx.scope ctx.chatSessionId db).countP (fun other => rowKey row < rowKey other) +
      (if rowKey row < toLex (d.createdAt, d.messageId) then 1 else 0) < settings.chatHistoryTurns

/-- The visitor's message can be stored. -/
def Accepts (ctx : ToolContext) (d : OpenDraws) (content : String) (db : Db) : Prop :=
  (∃ chatSession, db.chatSessions.lookup ctx.chatSessionId = some chatSession ∧
    chatSession.organizationId = ctx.scope.organizationId) ∧
  Text.btrim content ≠ "" ∧ db.chatMessages.lookup d.messageId = none

/-- A turn opens whose window of history holds a tool result. -/
def OpensOnToolRow (settings : Settings) (w : World) : Event → Prop
  | .openTurn ctx d content _ =>
    w.turn = none ∧ Accepts ctx d content w.db ∧ ToolRowInWindow settings ctx d w.db
  | .reply _ _ | .abort => False

/-! ## Rows

`list_for_session` sorts by a key, so its order is strict. A new row makes a permutation of the old list with
the row in front, which is enough to know what is among the last ones. -/

section
variable {scope : OrgScope} {ctx : ToolContext} {sid id : Uuid} {db db' : Db}

/-- The visitor's message is stored if it is not blank and its key is new. -/
theorem addChatMessage_user {createdAt : Int} {content : String} :
    Tx.exec (addChatMessage ctx id createdAt .user content none none) db = (.ok (), db') ↔
      db.chatMessages.lookup id = none ∧ ∃ row : ChatMessage,
        row.chatSessionId = ctx.chatSessionId ∧ row.role = .user ∧ row.content = content ∧
        row.toolName = none ∧ row.toolCallId = none ∧ row.createdAt = createdAt ∧
        db' = { db with chatMessages := AList.insert id row db.chatMessages } := by
  unfold addChatMessage
  rw [dif_pos (by simp)]
  -- the CHECK on the content, then the primary key
  by_cases hcontent : Text.btrim content = ""
  · rw [dif_neg (by simp [hcontent])]
    constructor
    · intro h
      cases h
    · rintro ⟨-, row, -, hrole, rfl, -⟩
      rcases row.content_not_blank_unless_assistant with h | h
      · simp [hrole] at h
      · exact absurd hcontent h
  · rw [dif_pos (.inr hcontent)]
    by_cases hfresh : db.chatMessages.lookup id = none
    · simp only [Tx.exec_bind, Tx.exec_store, Table.insertNew_of_fresh _ hfresh,
        Tx.exec_orRaise_some, Tx.exec_write, Prod.mk.injEq, true_and, hfresh]
      constructor
      · rintro rfl
        exact ⟨_, rfl, rfl, rfl, rfl, rfl, rfl, rfl⟩
      · rintro ⟨⟨⟩, rfl, rfl, rfl, rfl, rfl, rfl, rfl⟩
        rfl
    · have hnone : ∀ row, db.chatMessages.insertNew id row = none := by
        intro row
        rw [Table.insertNew, if_pos]
        rwa [← AList.lookup_eq_none.not_left]
      simp [hnone, hfresh]

theorem rowKey_le {r s : Uuid × ChatMessage} :
    rowKey r ≤ rowKey s ↔
      r.2.createdAt < s.2.createdAt ∨ (r.2.createdAt = s.2.createdAt ∧ r.1 ≤ s.1) :=
  Prod.Lex.toLex_le_toLex

/-- The rows of a session come in the order of their keys. -/
theorem listForSession_pairwise (scope : OrgScope) (sid : Uuid) (db : Db) :
    (listForSession scope sid db).Pairwise fun r s => rowKey r < rowKey s := by
  unfold listForSession
  simp only [← rowKey_le]
  set rows := db.chatMessages.select _
  have hsorted : (rows.insertionSort fun r s => rowKey r ≤ rowKey s).Pairwise
      fun r s => rowKey r ≤ rowKey s := by
    have : Std.Total fun r s : Uuid × ChatMessage => rowKey r ≤ rowKey s :=
      ⟨fun r s => le_total _ _⟩
    have : IsTrans _ fun r s : Uuid × ChatMessage => rowKey r ≤ rowKey s :=
      ⟨fun _ _ _ => le_trans⟩
    exact List.pairwise_insertionSort _ rows
  -- two rows with one key would have one id
  have hnodup : ((rows.insertionSort fun r s => rowKey r ≤ rowKey s).map Prod.fst).Nodup := by
    have hperm := (List.perm_insertionSort (fun r s => rowKey r ≤ rowKey s) rows).map Prod.fst
    exact hperm.nodup_iff.mpr (Table.select_keys_nodup _ _)
  apply (hsorted.and (List.pairwise_map.mp hnodup)).imp
  rintro r s ⟨hle, hne⟩
  apply lt_of_le_of_ne hle
  intro heq
  exact hne (Prod.ext_iff.mp (toLex.injective heq)).2

/-- A new message of a session in scope joins the rows that were there. -/
theorem listForSession_insert {row : ChatMessage} (hfresh : db.chatMessages.lookup id = none)
    (hrow : row.chatSessionId = sid) {chatSession : ChatSession}
    (hsession : db.chatSessions.lookup sid = some chatSession)
    (horg : chatSession.organizationId = scope.organizationId) :
    (listForSession scope sid
      { db with chatMessages := AList.insert id row db.chatMessages }).Perm
      ((id, row) :: listForSession scope sid db) := by
  unfold listForSession
  simp only [hsession, horg, decide_true, Bool.and_true]
  rw [Table.select_insert_of_fresh row hfresh, if_pos (by simpa using hrow)]
  refine (List.perm_insertionSort _ _).trans (List.Perm.cons _ ?_)
  exact (List.perm_insertionSort _ _).symm

/-- The opening window of history, in terms of the rows before the visitor's message is stored. -/
theorem toolRow_mem_recentHistory {settings : Settings} {d : OpenDraws} {row : ChatMessage}
    (hperm : (listForSession ctx.scope ctx.chatSessionId db').Perm
      ((d.messageId, row) :: listForSession ctx.scope ctx.chatSessionId db))
    (hrole : row.role = .user) (hcreated : row.createdAt = d.createdAt) :
    (∃ m ∈ recentHistory ctx.scope ctx.chatSessionId settings.chatHistoryTurns db', m.role = .tool) ↔
      ToolRowInWindow settings ctx d db := by
  have hlatest := fun x => Window.mem_latest (r := fun r s => rowKey r < rowKey s) (x := x)
    (n := settings.chatHistoryTurns) (fun _ => lt_irrefl _) (fun _ _ => lt_asymm)
    (listForSession_pairwise ctx.scope ctx.chatSessionId db')
  have hnew : rowKey (d.messageId, row) = toLex (d.createdAt, d.messageId) := by
    rw [rowKey, hcreated]
  -- how many rows come after a row once the message is stored
  have hcount : ∀ x, (listForSession ctx.scope ctx.chatSessionId db').countP
      (fun y => rowKey x < rowKey y) =
      (listForSession ctx.scope ctx.chatSessionId db).countP (fun y => rowKey x < rowKey y) +
        (if rowKey x < toLex (d.createdAt, d.messageId) then 1 else 0) := by
    intro x
    rw [hperm.countP_eq, List.countP_cons, hnew]
    simp
  have hpositive : ToolRowInWindow settings ctx d db → 0 < settings.chatHistoryTurns := by
    rintro ⟨_, _, _, h⟩
    omega
  unfold recentHistory
  split
  next hturns =>
    simp only [List.mem_map, exists_exists_and_eq_and, hlatest, hcount, hperm.mem_iff]
    constructor
    · rintro ⟨x, ⟨hx, hlt⟩, htool⟩
      rcases List.mem_cons.mp hx with rfl | hx
      · simp [hrole] at htool
      · exact ⟨x, hx, htool, hlt⟩
    · rintro ⟨x, hx, htool, hlt⟩
      exact ⟨x, ⟨List.mem_cons_of_mem _ hx, hlt⟩, htool⟩
  -- a window of no rows has no result in it
  next hturns =>
    simp only [List.not_mem_nil, false_and, exists_false, false_iff]
    intro h
    exact hturns (hpositive h)

end

/-! ## Opening a turn

A turn is opened with the system message, the rows in the window and the new message. None of these makes a
call, so each result among them is one too many. -/

section
variable {settings : Settings} {ctx : ToolContext} {d : OpenDraws} {content : String}
  {excerpts : List String} {db : Db}

@[simp] theorem resultId_system (text : String) : (OpenaiMessage.system text).resultId = none := rfl

@[simp] theorem resultId_toOpenaiMessage (m : ChatMessage) :
    (toOpenaiMessage m).resultId = none ↔ m.role ≠ .tool := by
  unfold toOpenaiMessage
  split <;> simp_all [OpenaiMessage.resultId]

/-- A conversation that is built from rows calls no tools, so its results are all unasked for. -/
theorem wellFormed_history {text : String} {history : List ChatMessage} :
    WellFormed (.system text :: history.map toOpenaiMessage) ↔ ¬ ∃ m ∈ history, m.role = .tool := by
  unfold WellFormed
  rw [ToolProtocol.wellFormed_iff_of_no_calls]
  · simp
  · intro m hm
    rcases List.mem_cons.mp hm with rfl | hm
    · rfl
    · obtain ⟨row, -, rfl⟩ := List.mem_map.mp hm
      unfold toOpenaiMessage
      split <;> rfl

/-- What a turn that opens has done. -/
theorem openTurn_ok {messages : List OpenaiMessage} {tools : List String} {db' : Db}
    (hopen : Tx.exec (openTurn settings ctx d content excerpts) db = (.ok (messages, tools), db')) :
    Accepts ctx d content db ∧ (WellFormed messages ↔ ¬ ToolRowInWindow settings ctx d db) := by
  obtain ⟨chatSession, _, hget, hrest⟩ := Tx.bind_ok.mp hopen
  obtain ⟨rfl, hsession, horg⟩ := getOr404_ok.mp hget
  rw [decide_eq_true_iff] at horg
  obtain ⟨_, db₁, hadd, hbuild⟩ := Tx.bind_ok.mp hrest
  rw [addChatMessage_user] at hadd
  obtain ⟨hfresh, row, hsid, hrole, hcontent, -, -, hcreated, rfl⟩ := hadd
  have hblank : Text.btrim content ≠ "" := by
    rcases row.content_not_blank_unless_assistant with h | h
    · simp [hrole] at h
    · rwa [hcontent] at h
  refine ⟨⟨⟨chatSession, hsession, horg⟩, hblank, hfresh⟩, ?_⟩
  simp only [Tx.exec_bind, Tx.exec_store, Tx.exec_pure, Prod.mk.injEq, Except.ok.injEq] at hbuild
  obtain ⟨⟨rfl, -⟩, rfl⟩ := hbuild
  rw [wellFormed_history]
  exact not_congr (toolRow_mem_recentHistory
    (listForSession_insert hfresh hsid hsession horg) hrole hcreated)

/-- A turn opens if the visitor's message can be stored. -/
theorem openTurn_of_accepts (settings : Settings) (excerpts : List String)
    (h : Accepts ctx d content db) :
    ∃ messages tools db',
      Tx.exec (openTurn settings ctx d content excerpts) db = (.ok (messages, tools), db') := by
  obtain ⟨⟨chatSession, hsession, horg⟩, hblank, hfresh⟩ := h
  let row : ChatMessage :=
    { chatSessionId := ctx.chatSessionId
      role := .user
      content := content
      toolName := none
      toolCallId := none
      createdAt := d.createdAt
      tool_name_iff_role_tool := by simp
      content_not_blank_unless_assistant := .inr hblank }
  have hget : Tx.exec (getChatSession ctx) db = (.ok chatSession, db) :=
    getOr404_ok.mpr ⟨rfl, hsession, decide_eq_true horg⟩
  have hadd : Tx.exec (addChatMessage ctx d.messageId d.createdAt .user content none none) db =
      (.ok (), { db with chatMessages := AList.insert d.messageId row db.chatMessages }) :=
    addChatMessage_user.mpr ⟨hfresh, row, rfl, rfl, rfl, rfl, rfl, rfl, rfl⟩
  exact ⟨_, _, _, Tx.bind_ok.mpr ⟨_, _, hget, Tx.bind_ok.mpr ⟨_, _, hadd, rfl⟩⟩⟩

end

/-! ## Answering tool calls

The results of a completion carry the ids of its calls. -/

section
variable {env : Env} {ctx : ToolContext} {createdAt : Int} {db db' : Db}

/-- The message for a call carries the call's id. -/
theorem runToolCall_ok {rowId : Uuid} {d : ToolDraws} {call : ToolCall} {result : OpenaiMessage}
    (h : Tx.exec (runToolCall env ctx createdAt rowId d call) db = (.ok result, db')) :
    result.resultId = some (some call.id) := by
  unfold runToolCall at h
  obtain ⟨args, _, -, h⟩ := Tx.bind_ok.mp h
  rw [Tx.exec_ite] at h
  split at h
  · obtain ⟨items, _, -, h⟩ := Tx.bind_ok.mp h
    obtain ⟨answer, _, -, h⟩ := Tx.bind_ok.mp h
    obtain ⟨⟨⟩, _, -, h⟩ := Tx.bind_ok.mp h
    cases h
    rfl
  · cases h

/-- Each result that is sent back answers one of the calls. -/
theorem runToolCalls_ok {d : ReplyDraws} {n : Nat} {calls : List ToolCall}
    {results : List OpenaiMessage}
    (h : Tx.exec (runToolCalls env ctx createdAt d n calls) db = (.ok results, db')) :
    ∀ r ∈ results, ∃ call ∈ calls, r.resultId = some (some call.id) := by
  induction calls generalizing n results db with
  | nil =>
    cases h
    simp
  | cons call rest ih =>
    obtain ⟨result, db₁, hresult, h⟩ := Tx.bind_ok.mp h
    obtain ⟨results', db₂, hresults, h⟩ := Tx.bind_ok.mp h
    cases h
    intro r hr
    rcases List.mem_cons.mp hr with rfl | hr
    · exact ⟨call, List.mem_cons_self, runToolCall_ok hresult⟩
    · obtain ⟨call', hcall', hid⟩ := ih hresults r hr
      exact ⟨call', List.mem_cons_of_mem _ hcall', hid⟩

end

/-! ## Runs

Each request is well-formed if the previous one was, except when a turn opens on a result. The condition is
necessary as well, event by event, and so it is for runs. -/

section
variable {env : Env} {settings : Settings} {w : World}

/-- The request that an open turn has sent is well-formed. -/
def World.RequestWellFormed (settings : Settings) (w : World) : Prop :=
  ∀ t, w.turn = some t → WellFormed (t.request settings).messages

/-- The conversation of an open turn stays well-formed, whatever the model answers. -/
theorem wellFormed_reply {t : Turn} (ht : WellFormed t.messages) (completion : Completion)
    (d : ReplyDraws) : (w.reply env settings t completion d).RequestWellFormed settings := by
  intro t' ht'
  unfold World.reply at ht'
  split at ht'
  · unfold World.callTools at ht'
    split at ht'
    next results db hrun =>
      cases ht'
      -- the message with the calls and their results are appended together
      apply ToolProtocol.WellFormed.append_round ht rfl
      intro r hr
      obtain ⟨call, hcall, hid⟩ := runToolCalls_ok hrun r hr
      exact ⟨some call.id, List.mem_map.mpr ⟨call, hcall, rfl⟩, hid⟩
    · cases ht'
  · unfold World.close at ht'
    split at ht'
    · cases ht'
    · cases ht'

/-- One event: the request stays well-formed unless a turn opens on a tool result. -/
theorem requestWellFormed_step (e : Event) (hw : w.RequestWellFormed settings)
    (he : ¬ OpensOnToolRow settings w e) : (e.step env settings w).RequestWellFormed settings := by
  cases e with
  | openTurn ctx d content excerpts =>
    intro t ht
    cases hturn : w.turn with
    | some t₀ =>
      simp only [Event.step, World.startTurn, hturn] at ht
      exact hw t (hturn ▸ ht)
    | none =>
      simp only [Event.step, World.startTurn, hturn] at ht
      split at ht
      next messages tools db hopen =>
        obtain ⟨haccepts, hiff⟩ := openTurn_ok hopen
        cases ht
        exact hiff.mpr fun hrow => he ⟨hturn, haccepts, hrow⟩
      · exact hw t ht
  | reply completion d =>
    simp only [Event.step]
    cases hturn : w.turn with
    | none => exact hw
    | some t => exact wellFormed_reply (hw t hturn) completion d
  | abort =>
    intro t ht
    cases ht

/-- A turn that opens on a tool result sends a request that is not well-formed. -/
theorem not_requestWellFormed_of_opensOnToolRow {e : Event} (he : OpensOnToolRow settings w e) :
    ¬ (e.step env settings w).RequestWellFormed settings := by
  cases e with
  | openTurn ctx d content excerpts =>
    obtain ⟨hnone, haccepts, hrow⟩ := he
    obtain ⟨messages, tools, db, hopen⟩ :=
      openTurn_of_accepts settings excerpts haccepts
    intro h
    simp only [Event.step, World.startTurn, hnone, hopen] at h
    exact (openTurn_ok hopen).2.mp (h _ rfl) hrow
  | reply completion d => exact he.elim
  | abort => exact he.elim

/-- **The history sent to the model**: over a run, each request is well-formed exactly if no turn
    opens with a stored tool result among the last `chat_history_turns` rows of its session. -/
theorem requests_wellFormed_iff (env : Env) (settings : Settings) (db : Db)
    (events : List Event) :
    AllSteps (Event.step env settings)
      (fun w e => ∀ t, (e.step env settings w).turn = some t →
        WellFormed (t.request settings).messages) ⟨db, none⟩ events ↔
      AllSteps (Event.step env settings) (fun w e => ¬ OpensOnToolRow settings w e)
        ⟨db, none⟩ events := by
  constructor
  · exact AllSteps.mono fun w e h hopens => not_requestWellFormed_of_opensOnToolRow hopens h
  · intro h
    have hstart : World.RequestWellFormed settings ⟨db, none⟩ := by
      intro t ht
      cases ht
    have hall := allSteps_of_inv (I := World.RequestWellFormed settings)
      (fun w e hw he => requestWellFormed_step e hw he) hstart h
    exact hall.mono fun w e h => requestWellFormed_step e h.1 h.2

end

/-! ## A second turn

The first turn has a call and is committed with its result. The second one opens on the rows of the first. -/

/-- A visitor of organization 1 with a chat session. -/
def chatDb : Db :=
  { Db.empty with
    organizations := AList.insert 1 ⟨"widget-1", none, none, "UTC", []⟩ ∅
    users := AList.insert 10 ⟨some 1, "Tenant", "tenant@example.com", .tenant, none, .active, none⟩ ∅
    chatSessions := AList.insert 60
      { organizationId := 1
        userId := some 10
        ticketId := none
        status := .active
        lowConfidenceStreak := 0
        lastActivityAt := days 739000
        channel := .web
        escalatedAt := none
        channelMetadata := none
        ticket_requires_user := by decide } ∅ }

def visitor : ToolContext := ⟨⟨1, 10, .tenant⟩, 60⟩

def callArguments : String := "\x7b\"ticket_id\": \"00000000-0000-0000-0000-000000000032\"\x7d"

/-- Decodes the one JSON text of the run below. -/
def chatEnv : Env where
  zoneInfo := fun _ => none
  lower := fun s => s
  loads := fun s =>
    if s = callArguments then
      some (.obj [("ticket_id", .str "00000000-0000-0000-0000-000000000032")])
    else none
  str := fun _ => ""

/-- Draws for a reply whose first row is number `n`. -/
def drawsFrom (n : Uuid) : ReplyDraws where
  rowIds := fun i => n + i
  tools := fun _ => ⟨days 739000, days 739000, 0, fun _ => 0⟩
  messageId := n
  escalation := ⟨days 739000, days 739000, 0, fun _ => 0⟩
  now := days 739000

/-- The model looks a ticket up. -/
def firstTurn : List Event :=
  [.openTurn visitor ⟨101, days 739000⟩ "What about my ticket?" [],
    .reply ⟨none, [⟨"call_1", "check_ticket_status", callArguments⟩]⟩ (drawsFrom 102),
    .reply ⟨some "I cannot find it.", []⟩ (drawsFrom 103)]

def secondTurn : Event := .openTurn visitor ⟨104, days 739001⟩ "Are you sure?" []

/-- The second turn sends the stored tool result without the message that called the tool. -/
theorem orphan_result_sent :
    ¬ AllSteps (Event.step chatEnv ⟨10, 2⟩)
      (fun w e => ∀ t, (e.step chatEnv ⟨10, 2⟩ w).turn = some t →
        WellFormed (t.request ⟨10, 2⟩).messages) ⟨chatDb, none⟩ (firstTurn ++ [secondTurn]) := by
  intro h
  have hlast := allSteps_iff.mp h firstTurn secondTurn [] rfl
  have hsent : (secondTurn.step chatEnv ⟨10, 2⟩
      (run (Event.step chatEnv ⟨10, 2⟩) ⟨chatDb, none⟩ firstTurn)).turn.map (·.messages) = some
        [.system systemPrompt, .user "What about my ticket?",
          .tool (some "call_1") "\x7b\"found\": false\x7d", .assistant "I cannot find it.",
          .user "Are you sure?"] := by
    decide +kernel
  obtain ⟨t, ht, hmessages⟩ := Option.map_eq_some_iff.mp hsent
  have hwf := hlast t ht
  rw [Turn.request, hmessages] at hwf
  have hno := (ToolProtocol.wellFormed_iff_of_no_calls (by simp [OpenaiMessage.callIds])).mp hwf
  have := hno (.tool (some "call_1") "\x7b\"found\": false\x7d") (by simp)
  cases this

end Helpdesk.Chat
