import Helpdesk.Chat.Tools
import Helpdesk.Library.Window

/-! # A chat turn

`send_message` is one transaction around a loop of calls to the model. It is cut here at those
calls: `openTurn` runs up to the first one and builds the message list, `runToolCalls` is the body of
the loop between two of them, and `closeTurn` is what follows the last one.

The rows that the knowledge-base search returns are an input, as is each completion. -/

namespace Helpdesk.Chat

/-! ## Messages

What is sent to the model and what it answers. The texts of the system message are the program's. -/

/-- An entry of a completion's `tool_calls`. -/
structure ToolCall where
  id : String
  name : String
  arguments : String
  deriving DecidableEq

/-- `completion.choices[0].message`; absent `tool_calls` are the empty list. -/
structure Completion where
  content : Option String
  toolCalls : List ToolCall

/-- A message dict of the chat-completions API. -/
inductive OpenaiMessage where
  | system (content : String)
  | user (content : String)
  | assistant (content : String)
  | assistantCalls (content : String) (toolCalls : List ToolCall)
  | tool (toolCallId : Option String) (content : String)
  deriving DecidableEq

structure Settings where
  chatHistoryTurns : Nat
  chatMaxToolRounds : Nat

/-- `ChatTurnResult`. -/
structure ChatTurnResult where
  reply : String
  escalated : Bool
  ticketId : Option Uuid
  toolsUsed : List String

/-- `_SYSTEM_PROMPT`. -/
def systemPrompt : String :=
  "You are a helpful assistant for a property management helpdesk. Answer " ++
  "the visitor's questions using the provided knowledge base context when " ++
  "relevant. Use the available tools to look up ticket status, create " ++
  "tickets, schedule visits, or escalate to a human agent when needed. If " ++
  "you are not confident in an answer, say so honestly rather than " ++
  "guessing."

/-- `_AUTOMATIC_ESCALATION_REASON`. -/
def automaticEscalationReason : String := "automatic: low confidence"

/-- `_to_openai_message`. -/
def toOpenaiMessage (message : ChatMessage) : OpenaiMessage :=
  match message.role with
  | .tool => .tool message.toolCallId message.content
  | .user => .user message.content
  | .assistant => .assistant message.content

/-- `_recent_history`. -/
def recentHistory (scope : OrgScope) (chatSessionId : Uuid) (turns : Nat) (db : Db) :
    List ChatMessage :=
  if 0 < turns then (Window.latest turns (listForSession scope chatSessionId db)).map (·.2) else []

/-- The system message, with the excerpts of the search if it found any. -/
def systemContent (excerpts : List String) : String :=
  if excerpts.isEmpty then systemPrompt
  else systemPrompt ++ "\n\nRelevant knowledge base excerpts:\n" ++
    "\n".intercalate (excerpts.map fun content => "- " ++ content)

/-- INSERT into `chat_messages`. -/
def addChatMessage (ctx : ToolContext) (id : Uuid) (createdAt : Int) (role : ChatMessageRole)
    (content : String) (toolName toolCallId : Option String) : Service Unit := do
  if htool : role = .tool ↔ toolName ≠ none then
    if hcontent : role = .assistant ∨ Text.btrim content ≠ "" then
      let db ← Tx.store
      let chatMessages ← Tx.orRaise
        (db.chatMessages.insertNew id
          { chatSessionId := ctx.chatSessionId
            role := role
            content := content
            toolName := toolName
            toolCallId := toolCallId
            createdAt := createdAt
            tool_name_iff_role_tool := htool
            content_not_blank_unless_assistant := hcontent })
        (.integrityError .primaryKey)
      Tx.write { db with chatMessages := chatMessages }
    else Tx.raise (.integrityError .chatMessagesContentNotBlankUnlessAssistant)
  else Tx.raise (.integrityError .chatMessagesToolNameIffRoleTool)

/-! ## The three parts of a turn

`openTurn` stores the visitor's message and puts together the request; `runToolCalls` executes the calls of an
answer, in order; `closeTurn` stores the reply and sees to the streak. Keys and instants are inputs of each. -/

/-- What opening a turn draws: the key of the visitor's message, and the start of the transaction,
    which is the `created_at` of all its rows. -/
structure OpenDraws where
  messageId : Uuid
  createdAt : Int
  deriving DecidableEq

/-- Persist the visitor's message and build the message list; with it, the names of the tools that
    are offered. -/
def openTurn (settings : Settings) (ctx : ToolContext) (d : OpenDraws) (content : String)
    (excerpts : List String) : Service (List OpenaiMessage × List String) := do
  let chatSession ← getChatSession ctx
  addChatMessage ctx d.messageId d.createdAt .user content none none
  let db ← Tx.store
  let history := recentHistory ctx.scope ctx.chatSessionId settings.chatHistoryTurns db
  pure (.system (systemContent excerpts) :: history.map toOpenaiMessage,
    availableToolNames chatSession)

/-- The keys of `_TOOL_HANDLERS`. -/
def toolHandlerNames : List String :=
  ["check_ticket_status", "create_ticket", "schedule_visit", "escalate_to_human"]

/-- A value that is unpacked with `**`. -/
def asKeywords : Json → Service JsonObject
  | .obj items => pure items
  | _ => Tx.raise .typeError

/-- What the answer to a completion draws: for its `n`th tool call the key of the row and the draws
    of the handler, for a closing reply the key of its row and the clock. -/
structure ReplyDraws where
  rowIds : Nat → Uuid
  tools : Nat → ToolDraws
  messageId : Uuid
  escalation : ToolDraws
  now : Int

/-- One tool call: dispatch it, persist its result, and answer with the `tool` message. -/
def runToolCall (env : Env) (ctx : ToolContext) (createdAt : Int) (rowId : Uuid) (d : ToolDraws)
    (call : ToolCall) : Service OpenaiMessage := do
  let arguments := if call.arguments = "" then "\x7b\x7d" else call.arguments
  let args ← Tx.orRaise (env.loads arguments) .jsonDecodeError
  if call.name ∈ toolHandlerNames then
    let args ← asKeywords args
    let result ← callTool env ctx d call.name args
    let content := Json.dumps (.obj result)
    addChatMessage ctx rowId createdAt .tool content (some call.name) (some call.id)
    pure (.tool (some call.id) content)
  else Tx.raise (.keyError call.name)

/-- The tool calls of one completion, in order; the next one is number `n`. -/
def runToolCalls (env : Env) (ctx : ToolContext) (createdAt : Int) (d : ReplyDraws) :
    (n : Nat) → List ToolCall → Service (List OpenaiMessage)
  | _, [] => pure []
  | n, call :: rest => do
    let result ← runToolCall env ctx createdAt (d.rowIds n) (d.tools n) call
    let results ← runToolCalls env ctx createdAt d (n + 1) rest
    pure (result :: results)

/-- Escalate at the second low-confidence turn in a row. -/
def escalateAutomatically (env : Env) (ctx : ToolContext) (d : ToolDraws) :
    Service (Bool × Option Uuid) := do
  let chatSession ← getChatSession ctx
  if 2 ≤ chatSession.lowConfidenceStreak then
    let result ← escalateToHuman env ctx d (.str automaticEscalationReason)
    let escalated ← getChatSession ctx
    setChatSession ctx { escalated with lowConfidenceStreak := 0 }
    match List.lookup "ticket_id" result with
    | some (.str ticketId) =>
      let ticketId ← Tx.orRaise (parseUuid ticketId) .valueError
      pure (true, some ticketId)
    | _ => pure (true, escalated.ticketId)
  else pure (false, chatSession.ticketId)

/-- Persist the reply and update the session. -/
def closeTurn (env : Env) (ctx : ToolContext) (createdAt : Int) (d : ReplyDraws)
    (replyText : String) (lowConfidence : Bool) (toolsUsed : List String) :
    Service ChatTurnResult := do
  addChatMessage ctx d.messageId createdAt .assistant replyText none none
  let chatSession ← getChatSession ctx
  setChatSession ctx { chatSession with
    lowConfidenceStreak := if lowConfidence then chatSession.lowConfidenceStreak + 1 else 0 }
  let (escalated, ticketId) ← escalateAutomatically env ctx d.escalation
  let chatSession ← getChatSession ctx
  setChatSession ctx { chatSession with lastActivityAt := d.now }
  pure ⟨replyText, escalated, ticketId, toolsUsed⟩

end Helpdesk.Chat
