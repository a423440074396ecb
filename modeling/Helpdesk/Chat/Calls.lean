import Helpdesk.Chat.ToolFrames

/-! # The calls of a completion

The model may answer with any number of calls, and each of them runs on what the ones before have left. A
call is dispatched by its name, its arguments are bound to the parameters of the handler, and its result is
stored as a message.

**`completes_runToolCalls`**: the calls of a completion all return exactly if each of them is answerable when
its turn has come. `AlongCalls` says of a condition that it holds of each call at that moment. -/

namespace Helpdesk.Chat

open Tx

/-! ## The dispatch

A call gets to its handler if its name is registered and its fields are the handler's parameters. For a name that
has been offered and well-formed arguments, only unknown fields stand in the way. -/

section
variable {env : Env} {ctx : ToolContext} {db : Db} {d : ToolDraws} {items : JsonObject}

/-- Keywords bind if the required ones are there and no other one is. -/
theorem completes_bindArguments {required optional : List String} {values : List Json}
    {k : List Json → Service JsonObject}
    (hrequired : (required.mapM fun name => List.lookup name items) = some values) :
    Completes (bindArguments required optional items >>= k) db ↔
      (∀ item ∈ items, item.1 ∈ required ++ optional) ∧
        Completes (k (values ++ optional.map fun name => (List.lookup name items).getD .null)) db := by
  by_cases hfields : ∀ item ∈ items, item.1 ∈ required ++ optional
  · have hbind : exec (bindArguments required optional items) db =
        (.ok (values ++ optional.map fun name => (List.lookup name items).getD .null), db) := by
      unfold bindArguments
      rw [if_pos (by simpa using hfields), exec_bind, hrequired]
      rfl
    rw [completes_bind_of_ok hbind, and_iff_right hfields]
  · refine iff_of_false (completes_bind_of_not ?_) fun h => hfields h.1
    unfold bindArguments
    rw [if_neg (by simpa using hfields)]
    exact not_completes_raise _ _

theorem mapM_lookup_one {field : String} {v : Json} (h : items.lookup field = some v) :
    ([field].mapM fun name => List.lookup name items) = some [v] := by
  simp [List.mapM_cons, h]

theorem mapM_lookup_two {field field' : String} {v v' : Json} (h : items.lookup field = some v)
    (h' : items.lookup field' = some v') :
    ([field, field'].mapM fun name => List.lookup name items) = some [v, v'] := by
  simp [List.mapM_cons, h, h']

/-- **The handlers**, behind the dispatch. -/
theorem completes_callTool (hhosts : Hosts ctx db) (hkeys : NewKeys d db) {name : String}
    (hrequired : ∀ field ∈ requiredFields name, ∃ s, items.lookup field = some (.str s))
    (hoffered : ∃ s, db.chatSessions.lookup ctx.chatSessionId = some s ∧ name ∈ availableToolNames s) :
    Completes (callTool env ctx d name items) db ↔ Answerable env ctx db name items := by
  obtain ⟨s, hs, hname⟩ := hoffered
  obtain ⟨s', hs', horg, hidentified⟩ := hhosts.found
  obtain rfl := Option.some.inj (hs.symm.trans hs')
  -- an anonymous session is offered one of the tools only
  have hcases : name = "escalate_to_human" ∨ s.userId ≠ none ∧
      (name = "check_ticket_status" ∨ name = "create_ticket" ∨ name = "schedule_visit") := by
    unfold availableToolNames at hname
    split at hname
    · exact .inl (List.mem_singleton.mp hname)
    next huser =>
      simp only [List.mem_cons, List.not_mem_nil, or_false] at hname
      simp [huser]
      tauto
  rcases hcases with rfl | ⟨huser, rfl | rfl | rfl⟩
  · obtain ⟨reason, hreason⟩ := hrequired "reason" (by decide)
    show Completes (bindArguments ["reason"] [] items >>= _) db ↔ _
    rw [completes_bindArguments (mapM_lookup_one hreason)]
    show _ ∧ Completes (escalateToHuman env ctx d (.str reason)) db ↔ _
    rw [completes_escalateToHuman hhosts hkeys]
    constructor
    · rintro ⟨hfields, hescalate⟩
      refine ⟨hfields, ?_, ?_, ?_, fun _ reason' hreason' => ?_⟩
      · exact fun h => absurd h (by decide)
      · exact fun h => absurd h (by decide)
      · exact fun h => absurd h (by decide)
      · rw [hreason] at hreason'
        cases hreason'
        exact hescalate
    · exact fun h => ⟨h.fields, h.escalateToHuman rfl reason hreason⟩
  · obtain ⟨ticketId, hticketId⟩ := hrequired "ticket_id" (by decide)
    show Completes (bindArguments ["ticket_id"] [] items >>= _) db ↔ _
    rw [completes_bindArguments (mapM_lookup_one hticketId)]
    show _ ∧ Completes (checkTicketStatus ctx (.str ticketId)) db ↔ _
    rw [completes_checkTicketStatus]
    constructor
    · rintro ⟨hfields, hparses⟩
      refine ⟨hfields, fun _ s hs => ?_, ?_, ?_, ?_⟩
      · rw [hticketId] at hs
        cases hs
        exact hparses
      all_goals exact fun h => absurd h (by decide)
    · exact fun h => ⟨h.fields, h.checkTicketStatus rfl ticketId hticketId⟩
  · obtain ⟨title, htitle⟩ := hrequired "title" (by decide)
    obtain ⟨description, hdescription⟩ := hrequired "description" (by decide)
    obtain ⟨horganization, hmember⟩ := hidentified huser
    show Completes (bindArguments ["title", "description"] [] items >>= _) db ↔ _
    rw [completes_bindArguments (mapM_lookup_two htitle hdescription)]
    show _ ∧ Completes (createTicket env ctx d (.str title) (.str description)) db ↔ _
    rw [completes_createTicket hs horg huser horganization hmember hkeys]
    constructor
    · rintro ⟨hfields, hcreates⟩
      refine ⟨hfields, ?_, fun _ title' description' contractId contract htitle' hdescription' => ?_, ?_, ?_⟩
      · exact fun h => absurd h (by decide)
      · rw [htitle] at htitle'
        rw [hdescription] at hdescription'
        cases htitle'
        cases hdescription'
        exact hcreates contractId contract
      all_goals exact fun h => absurd h (by decide)
    · exact fun h => ⟨h.fields, fun contractId contract =>
        h.createTicket rfl title description contractId contract htitle hdescription⟩
  · obtain ⟨ticketId, hticketId⟩ := hrequired "ticket_id" (by decide)
    obtain ⟨preferredDate, hpreferredDate⟩ := hrequired "preferred_date" (by decide)
    show Completes (bindArguments ["ticket_id", "preferred_date"] ["notes"] items >>= _) db ↔ _
    rw [completes_bindArguments (mapM_lookup_two hticketId hpreferredDate)]
    show _ ∧ Completes (scheduleVisit env ctx d (.str ticketId) _ _) db ↔ _
    rw [completes_scheduleVisit hs horg hkeys]
    constructor
    · rintro ⟨hfields, hvisits⟩
      refine ⟨hfields, ?_, ?_, fun _ s' preferredDate' chatSession linkedId hs' hdate hsession => ?_, ?_⟩
      · exact fun h => absurd h (by decide)
      · exact fun h => absurd h (by decide)
      · rw [hticketId] at hs'
        rw [hpreferredDate] at hdate
        cases hs'
        cases hdate
        obtain rfl := Option.some.inj (hs.symm.trans hsession)
        exact hvisits linkedId
      · exact fun h => absurd h (by decide)
    · exact fun h => ⟨h.fields, fun linkedId =>
        h.scheduleVisit rfl ticketId preferredDate s linkedId hticketId hpreferredDate hs⟩

end

/-! ## Along a turn

The conditions of a turn cannot all be stated on the database at its beginning. `AlongCalls` and `AlongAnswers`
follow the execution, and ask each condition where it is due; they say nothing once the execution has raised. -/

/-- `P` holds before each of the calls of a completion; the next one is number `n`. -/
def AlongCalls (env : Env) (ctx : ToolContext) (createdAt : Int) (d : ReplyDraws)
    (P : Db → Uuid → ToolDraws → ToolCall → Prop) : (n : Nat) → List ToolCall → Db → Prop
  | _, [], _ => True
  | n, call :: rest, db =>
    P db (d.rowIds n) (d.tools n) call ∧
      ∀ message db', exec (runToolCall env ctx createdAt (d.rowIds n) (d.tools n) call) db = (.ok message, db') →
        AlongCalls env ctx createdAt d P (n + 1) rest db'

/-- `P` holds before each call of the turn, and `Q` before it is closed. -/
def AlongAnswers (env : Env) (settings : Settings) (ctx : ToolContext) (createdAt : Int)
    (P : Db → Uuid → ToolDraws → ToolCall → Prop) (Q : Db → ReplyDraws → Prop) :
    (round : Nat) → List Answer → Db → Prop
  | _, [], _ => True
  | round, ⟨completion, d⟩ :: rest, db =>
    if round < settings.chatMaxToolRounds ∧ completion.toolCalls ≠ [] then
      AlongCalls env ctx createdAt d P 0 completion.toolCalls db ∧
        ∀ messages db', exec (runToolCalls env ctx createdAt d 0 completion.toolCalls) db = (.ok messages, db') →
          AlongAnswers env settings ctx createdAt P Q (round + 1) rest db'
    else Q db d

/-- The same for a turn that is about to be opened. -/
def AlongTurn (env : Env) (settings : Settings) (ctx : ToolContext) (content : String) (input : TurnInput)
    (P : Db → Uuid → ToolDraws → ToolCall → Prop) (Q : Db → ReplyDraws → Prop) (db : Db) : Prop :=
  ∀ offered db', exec (openTurn settings ctx input.opening content input.excerpts) db = (.ok offered, db') →
    AlongAnswers env settings ctx input.opening.createdAt P Q 0 input.answers db'

/-- The keys that are drawn for a call are new. -/
def NewCallKeys (db : Db) (rowId : Uuid) (d : ToolDraws) (_ : ToolCall) : Prop :=
  NewKeys d db ∧ db.chatMessages.lookup rowId = none

def NewClosingKeys (db : Db) (d : ReplyDraws) : Prop :=
  NewKeys d.escalation db ∧ db.chatMessages.lookup d.messageId = none

/-- The call can be answered. -/
def CallAnswerable (env : Env) (ctx : ToolContext) (db : Db) (_ : Uuid) (_ : ToolDraws) (call : ToolCall) : Prop :=
  ∀ items, env.loads (argumentsText call) = some (.obj items) → Answerable env ctx db call.name items

/-- At the second low-confidence turn in a row, the session can be handed off. -/
def Closable (ctx : ToolContext) (lowConfidence : Bool) (db : Db) (_ : ReplyDraws) : Prop :=
  ∀ s, db.chatSessions.lookup ctx.chatSessionId = some s → lowConfidence = true → 1 ≤ s.lowConfidenceStreak →
    CanEscalate ctx db automaticEscalationReason

/-- What the turn relies on besides: the session is there, the message is not blank, the keys are new, the
    model answers, and its calls are well-formed. -/
structure Regular (env : Env) (settings : Settings) (ctx : ToolContext) (content : String) (input : TurnInput)
    (db : Db) : Prop where
  hosts : Hosts ctx db
  notBlank : Text.btrim content ≠ ""
  messageId : db.chatMessages.lookup input.opening.messageId = none
  newKeys : AlongTurn env settings ctx content input NewCallKeys NewClosingKeys db
  answers : settings.chatMaxToolRounds < input.answers.length
  calls : ∀ answer ∈ input.answers, ∀ call ∈ answer.completion.toolCalls, ∀ s,
    db.chatSessions.lookup ctx.chatSessionId = some s →
    ∃ items, WellFormedCall env (availableToolNames s) call items

/-! ## One call

A call that returns adds a message with its result, so it needs a new key as well. What the later calls rely on
is still there. -/

section
variable {env : Env} {settings : Settings} {ctx : ToolContext} {db db' : Db} {createdAt : Int}

theorem exec_addChatMessage (ctx : ToolContext) (createdAt : Int) {id : Uuid} {role : ChatMessageRole}
    {content : String} {toolName : Option String} (toolCallId : Option String)
    (htool : role = .tool ↔ toolName ≠ none) (hcontent : role = .assistant ∨ Text.btrim content ≠ "")
    (hfresh : db.chatMessages.lookup id = none) :
    ∃ row : ChatMessage, row.role = role ∧ row.content = content ∧ row.chatSessionId = ctx.chatSessionId ∧
      exec (addChatMessage ctx id createdAt role content toolName toolCallId) db =
        (.ok (), { db with chatMessages := AList.insert id row db.chatMessages }) := by
  unfold addChatMessage
  rw [dif_pos htool, dif_pos hcontent]
  refine ⟨⟨ctx.chatSessionId, role, content, toolName, toolCallId, createdAt, htool, hcontent⟩, rfl, rfl, rfl, ?_⟩
  simp [Table.insertNew_of_fresh _ hfresh]

theorem dumps_not_blank (items : JsonObject) : Text.btrim (Json.dumps (.obj items)) ≠ "" := by
  apply btrim_ne _ (by decide : '\x7b' ≠ ' ')
  rw [Json.dumps]
  simp

/-- **A tool call**: its handler answers, and the answer is stored. -/
theorem completes_runToolCall (hhosts : Hosts ctx db) {rowId : Uuid} {d : ToolDraws} {call : ToolCall}
    (hkeys : NewCallKeys db rowId d call) {s : ChatSession}
    (hs : db.chatSessions.lookup ctx.chatSessionId = some s) {items : JsonObject}
    (hcall : WellFormedCall env (availableToolNames s) call items) :
    Completes (runToolCall env ctx createdAt rowId d call) db ↔ CallAnswerable env ctx db rowId d call := by
  have hcondition : CallAnswerable env ctx db rowId d call ↔ Answerable env ctx db call.name items := by
    unfold CallAnswerable
    simp [hcall.loads]
  have hname : call.name ∈ toolHandlerNames := by
    have hoffered := hcall.offered
    unfold availableToolNames at hoffered
    split at hoffered
    · rw [List.mem_singleton.mp hoffered]
      decide
    · exact hoffered
  have hloads : exec (Tx.orRaise (env.loads (argumentsText call)) .jsonDecodeError : Service Json) db =
      (.ok (.obj items), db) := by
    rw [hcall.loads]
    rfl
  have hkeywords : exec (asKeywords (.obj items)) db = (.ok items, db) := rfl
  have hanswered : Completes (callTool env ctx d call.name items) db ↔ Answerable env ctx db call.name items :=
    completes_callTool hhosts hkeys.1 hcall.required ⟨s, hs, hcall.offered⟩
  rw [hcondition, ← hanswered]
  show Completes (Tx.orRaise (env.loads (argumentsText call)) Raised.jsonDecodeError >>= _) db ↔ _
  rw [completes_bind_of_ok hloads, if_pos hname, completes_bind_of_ok hkeywords]
  refine ⟨Completes.of_bind, ?_⟩
  rintro ⟨result, db₁, hcalled⟩
  have hframe : ToolFrame ctx db db₁ := (frame_callTool _ _).of_ok hcalled
  have hfresh : db₁.chatMessages.lookup rowId = none := by
    rw [hframe.chatMessages]
    exact hkeys.2
  obtain ⟨row, -, -, -, hadd⟩ := exec_addChatMessage ctx createdAt (some call.id)
    (by simp : ChatMessageRole.tool = .tool ↔ some call.name ≠ none) (.inr (dumps_not_blank result)) hfresh
  rw [completes_bind_of_ok hcalled, completes_bind_of_ok hadd]
  exact completes_pure _ _

theorem frame_addChatMessage (id : Uuid) (createdAt : Int) (role : ChatMessageRole) (content : String)
    (toolName toolCallId : Option String) :
    Tx.Does (TurnFrame ctx) (addChatMessage ctx id createdAt role content toolName toolCallId) := by
  intro db
  unfold addChatMessage
  split
  · split
    · rw [Tx.wp_bind, Tx.wp_store, Tx.wp_bind, Tx.wp_orRaise]
      refine ⟨fun chatMessages hinsert => ?_, fun _ => trivial⟩
      obtain ⟨hfresh, rfl⟩ := Table.insertNew_eq_some.mp hinsert
      rw [Tx.wp_write]
      refine ⟨SessionFrame.of_eq rfl rfl rfl, fun id' row hrow => ?_⟩
      by_cases heq : id' = id
      · rw [heq, hfresh] at hrow
        cases hrow
      · show (AList.insert id _ db.chatMessages).lookup id' = some row
        rwa [AList.lookup_insert_ne heq]
    · rw [Tx.wp_raise]
      trivial
  · rw [Tx.wp_raise]
    trivial

theorem frame_runToolCall (rowId : Uuid) (d : ToolDraws) (call : ToolCall) :
    Tx.Does (TurnFrame ctx) (runToolCall env ctx createdAt rowId d call) := by
  apply Tx.Does.bind (Tx.Does.orRaise _ _)
  intro args
  apply Tx.Does.ite _ (Tx.Does.raise _)
  apply Tx.Does.bind
  · cases args with
    | obj items => exact Tx.Does.pure items
    | _ => exact Tx.Does.raise _
  intro items
  apply Tx.Does.bind ((frame_callTool _ _).mono fun _ _ h => h.turnFrame)
  intro result
  exact Tx.Does.bind (frame_addChatMessage _ _ _ _ _ _) fun _ => Tx.Does.pure _

theorem frame_runToolCalls (d : ReplyDraws) (n : Nat) (calls : List ToolCall) :
    Tx.Does (TurnFrame ctx) (runToolCalls env ctx createdAt d n calls) := by
  induction calls generalizing n with
  | nil => exact Tx.Does.pure []
  | cons call rest ih =>
    apply Tx.Does.bind (frame_runToolCall _ _ _)
    exact fun _ => Tx.Does.bind (ih (n + 1)) fun _ => Tx.Does.pure _

/-! ## The calls of a completion

By induction on the calls. The tools that are offered depend on the session's user alone, and no call changes
that. -/

/-- The tools that are offered depend on the party of the session only. -/
def Offers (ctx : ToolContext) (offered : List String) (db : Db) : Prop :=
  ∃ s, db.chatSessions.lookup ctx.chatSessionId = some s ∧ availableToolNames s = offered

theorem Offers.frame {offered : List String} (h : Offers ctx offered db) (hframe : SessionFrame ctx db db') :
    Offers ctx offered db' := by
  obtain ⟨s, hs, rfl⟩ := h
  obtain ⟨s', hs', -, huser⟩ := hframe.session s hs
  refine ⟨s', hs', ?_⟩
  unfold availableToolNames
  rw [huser]

theorem completes_runToolCalls {offered : List String} {d : ReplyDraws} {n : Nat} {calls : List ToolCall}
    (hhosts : Hosts ctx db) (hoffers : Offers ctx offered db)
    (hcalls : ∀ call ∈ calls, ∃ items, WellFormedCall env offered call items)
    (hkeys : AlongCalls env ctx createdAt d NewCallKeys n calls db) :
    Completes (runToolCalls env ctx createdAt d n calls) db ↔
      AlongCalls env ctx createdAt d (CallAnswerable env ctx) n calls db := by
  induction calls generalizing n db with
  | nil => exact iff_of_true (completes_pure _ _) trivial
  | cons call rest ih =>
    obtain ⟨hnew, hrest⟩ := hkeys
    obtain ⟨s, hs, rfl⟩ := hoffers
    obtain ⟨items, hcall⟩ := hcalls call List.mem_cons_self
    have hfirst : Completes (runToolCall env ctx createdAt (d.rowIds n) (d.tools n) call) db ↔
        CallAnswerable env ctx db (d.rowIds n) (d.tools n) call := completes_runToolCall hhosts hnew hs hcall
    have hnext : ∀ message db', exec (runToolCall env ctx createdAt (d.rowIds n) (d.tools n) call) db =
        (.ok message, db') → (Completes (runToolCalls env ctx createdAt d (n + 1) rest) db' ↔
          AlongCalls env ctx createdAt d (CallAnswerable env ctx) (n + 1) rest db') := by
      intro message db' hexec
      have hframe : TurnFrame ctx db db' := (frame_runToolCall _ _ _).of_ok hexec
      exact ih (hhosts.frame hframe.toSessionFrame) (Offers.frame ⟨s, hs, rfl⟩ hframe.toSessionFrame)
        (fun call hmem => hcalls call (List.mem_cons_of_mem _ hmem)) (hrest message db' hexec)
    show Completes (runToolCall env ctx createdAt (d.rowIds n) (d.tools n) call >>= fun result =>
      runToolCalls env ctx createdAt d (n + 1) rest >>= fun results => pure (result :: results)) db ↔ _ ∧ _
    rw [← hfirst]
    constructor
    · intro h
      refine ⟨h.of_bind, fun message db' hexec => (hnext message db' hexec).mp ?_⟩
      rw [completes_bind_of_ok hexec] at h
      exact h.of_bind
    · rintro ⟨⟨message, db', hexec⟩, hall⟩
      obtain ⟨messages, db₂, hmessages⟩ := (hnext message db' hexec).mpr (hall message db' hexec)
      rw [completes_bind_of_ok hexec, completes_bind_of_ok hmessages]
      exact completes_pure _ _

end

end Helpdesk.Chat
