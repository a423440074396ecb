import Helpdesk.Chat.Streak

/-! # What a turn does to the hand-off

Four columns of a session row say how far its conversation has been handed over: the ticket, the status, the time
of the escalation, and the streak. `HandOff` is these columns by themselves. A turn takes them further by acts, and
an act is described by what the turn is given (the request of the model, what is drawn, whether the search has found
something), not by the row that it is applied to: so the acts of a turn can be applied to a row as any other turn has
left it.

**`performs_runToolCall`** and **`performs_closeTurn`**: the code does to the row what the acts do to the columns,
whatever else is stored. `performs_sendMessage` says the same of a turn in one piece, whose acts can be read off its
input. -/

namespace Helpdesk.Chat

open Tx (exec)

/-! ## The columns and the acts -/

/-- The columns of the hand-off. -/
structure HandOff where
  ticketId : Option Uuid
  status : ChatSessionStatus
  escalatedAt : Option Int
  lowConfidenceStreak : Int
  deriving DecidableEq

/-- The columns of a row. -/
def handOff (s : ChatSession) : HandOff := ⟨s.ticketId, s.status, s.escalatedAt, s.lowConfidenceStreak⟩

namespace HandOff

/-- A session that has just been opened. -/
def opened : HandOff := ⟨none, .active, none, 0⟩

/-- `escalate_to_human`: a time and a ticket are put in where there is none, a ticket only for a session that
    names a user. -/
def escalate (h : HandOff) (identified : Bool) (now : Int) (ticketId : Uuid) : HandOff where
  ticketId := if identified then some (h.ticketId.getD ticketId) else h.ticketId
  status := .escalated
  escalatedAt := some (h.escalatedAt.getD now)
  lowConfidenceStreak := h.lowConfidenceStreak

/-- The end of `send_message`: the streak, and the escalation that it comes to. -/
def close (h : HandOff) (identified lowConfidence : Bool) (now : Int) (ticketId : Uuid) : HandOff :=
  let counted := { h with lowConfidenceStreak := if lowConfidence then h.lowConfidenceStreak + 1 else 0 }
  if 2 ≤ counted.lowConfidenceStreak then
    { counted.escalate identified now ticketId with lowConfidenceStreak := 0 }
  else counted

end HandOff

/-- A part of a turn that writes the columns. -/
inductive HandOffAct where
  /-- `create_ticket`, which files a ticket -/
  | links (ticketId : Uuid)
  /-- `escalate_to_human`, with the id of the ticket that it files if it has to -/
  | escalates (now : Int) (ticketId : Uuid)
  /-- what follows the last completion -/
  | closes (lowConfidence : Bool) (now : Int) (ticketId : Uuid)
  deriving DecidableEq

/-- What an act makes of the columns of a session, which names a user or does not. -/
def HandOffAct.apply (identified : Bool) (h : HandOff) : HandOffAct → HandOff
  | links ticketId => { h with ticketId := some ticketId }
  | escalates now ticketId => h.escalate identified now ticketId
  | closes lowConfidence now ticketId => h.close identified lowConfidence now ticketId

/-- What the acts of a turn make of them. -/
def HandOff.perform (identified : Bool) (h : HandOff) (acts : List HandOffAct) : HandOff :=
  acts.foldl (HandOffAct.apply identified) h

/-- The acts of a tool call. `create_ticket` files a ticket for a caller with one active contract, and asks back
    otherwise. -/
def toolActs (ctx : ToolContext) (db : Db) (name : String) (d : ToolDraws) : List HandOffAct :=
  if name = "create_ticket" then
    match activeContractsForCaller ctx db with
    | [_] => [.links d.ticketId]
    | _ => []
  else if name = "escalate_to_human" then [.escalates d.now d.ticketId]
  else []

/-- The row of the turn's session keeps its user, and its columns are taken along by the acts. -/
def Performs (ctx : ToolContext) (acts : List HandOffAct) (db db' : Db) : Prop :=
  ∀ s, db.chatSessions.lookup ctx.chatSessionId = some s →
    ∃ s', db'.chatSessions.lookup ctx.chatSessionId = some s' ∧ s'.userId = s.userId ∧
      handOff s' = (handOff s).perform s.userId.isSome acts

section
variable {env : Env} {settings : Settings} {ctx : ToolContext} {d : ToolDraws} {db db₁ db' : Db}
  {acts acts' : List HandOffAct} {s s' : ChatSession}

theorem HandOff.perform_append (identified : Bool) (h : HandOff) (acts acts' : List HandOffAct) :
    h.perform identified (acts ++ acts') = (h.perform identified acts).perform identified acts' :=
  List.foldl_append

/-- One part after another. -/
theorem Performs.trans (h : Performs ctx acts db db₁) (h' : Performs ctx acts' db₁ db') :
    Performs ctx (acts ++ acts') db db' := by
  intro s hs
  obtain ⟨s₁, hs₁, huser₁, hacts₁⟩ := h s hs
  obtain ⟨s₂, hs₂, huser₂, hacts₂⟩ := h' s₁ hs₁
  refine ⟨s₂, hs₂, huser₂.trans huser₁, ?_⟩
  rw [hacts₂, hacts₁, huser₁, HandOff.perform_append]

theorem performs_of_eq (h : db'.chatSessions = db.chatSessions) : Performs ctx [] db db' :=
  fun s hs => ⟨s, by rwa [h], rfl, rfl⟩

/-- The row is written, after tickets and messages. -/
theorem performs_set (hfiles : Files db db₁) (hs : db.chatSessions.lookup ctx.chatSessionId = some s)
    (huser : s'.userId = s.userId) (hacts : handOff s' = (handOff s).perform s.userId.isSome acts) :
    Performs ctx acts db { db₁ with chatSessions := db₁.chatSessions.modify ctx.chatSessionId fun _ => s' } := by
  intro s₀ hs₀
  obtain rfl := Option.some.inj (hs.symm.trans hs₀)
  refine ⟨s', ?_, huser, hacts⟩
  show (db₁.chatSessions.modify ctx.chatSessionId fun _ => s').lookup ctx.chatSessionId = some s'
  rw [hfiles.chatSessions, Table.lookup_modify_self, hs, Option.map_some]

theorem handOff_link {ticketId : Uuid} {linked : ChatSession} (h : s.link ticketId = .ok linked) :
    linked.userId = s.userId ∧ handOff linked = { handOff s with ticketId := some ticketId } := by
  unfold ChatSession.link at h
  split at h
  · cases h
    exact ⟨rfl, rfl⟩
  · cases h

/-! ## The tools

`create_ticket` and `escalate_to_human` write the row once, at their end; the other two do not write it. -/

theorem performs_createTicket (title description : Json) (db : Db) :
    Tx.wp (createTicket env ctx d title description)
      (fun _ db' => Performs ctx (toolActs ctx db "create_ticket" d) db db') (fun _ => True) db := by
  unfold createTicket
  rw [Tx.wp_bind, Tx.wp_store, Tx.wp_bind]
  apply (looksUp_getOr404 _ _ _ _).wp _ fun _ _ => trivial
  intro chatSession hget
  obtain ⟨-, hs, -⟩ := getOr404_ok.mp hget
  rw [toolActs, if_pos rfl]
  split
  next contractId contract hcontracts =>
    rw [hcontracts, Tx.wp_bind]
    apply (looksUp_argumentText _).wp _ fun _ _ => trivial
    intro title _
    rw [Tx.wp_bind]
    apply (looksUp_asNullableText _).wp _ fun _ _ => trivial
    intro description _
    rw [Tx.wp_bind]
    apply Tx.wp_mono (files_createTicket db) _ fun _ _ => trivial
    intro ticket db₁ hcreated
    rw [Tx.wp_bind]
    apply Tx.wp_mono (files_copyChatMessagesToTicket d.messageIds d.ticketId db₁) _ fun _ _ => trivial
    intro _ db₂ hcopied
    rw [Tx.wp_bind, wp_raiseConstraint]
    refine ⟨fun linked hlink => ?_, fun _ _ => trivial⟩
    rw [Tx.wp_bind, setChatSession, Tx.wp_bind, Tx.wp_store, Tx.wp_write, Tx.wp_pure]
    obtain ⟨huser, hlinked⟩ := handOff_link hlink
    exact performs_set (IsTrans.trans _ _ _ hcreated hcopied) hs huser hlinked
  next contracts hmany =>
    -- no contract, or several of them
    rw [Tx.wp_pure]
    split
    next row hone => exact absurd hone (hmany row.1 row.2)
    · exact performs_of_eq rfl

/-- The ticket that an identified session escalates is the one it has, or the one that is filed. -/
theorem wp_escalationTicket_handOff {reason : Json} :
    Tx.wp (escalationTicket env ctx d reason s)
      (fun r db' => Files db db' ∧ r.2.userId = s.userId ∧
        handOff r.2 = { handOff s with ticketId := some (s.ticketId.getD d.ticketId) }) (fun _ => True) db := by
  unfold escalationTicket
  split
  next ticketId hticket =>
    rw [Tx.wp_pure]
    exact ⟨Std.Refl.refl db, rfl, by simp [handOff, hticket]⟩
  next hnone =>
    rw [Tx.wp_bind, Tx.wp_store, Tx.wp_bind]
    apply (looksUp_asNullableText _).wp _ fun _ _ => trivial
    intro reason _
    rw [Tx.wp_bind]
    apply Tx.wp_mono (files_createTicket db) _ fun _ _ => trivial
    intro ticket db₁ hcreated
    rw [Tx.wp_bind, wp_raiseConstraint]
    refine ⟨fun linked hlink => ?_, fun _ _ => trivial⟩
    rw [Tx.wp_pure]
    obtain ⟨huser, hlinked⟩ := handOff_link hlink
    exact ⟨hcreated, huser, by rw [hlinked, hnone]; rfl⟩

/-- **`escalate_to_human`** -/
theorem performs_escalateToHuman (reason : Json) :
    Tx.Does (Performs ctx [.escalates d.now d.ticketId]) (escalateToHuman env ctx d reason) := by
  intro db
  unfold escalateToHuman
  rw [Tx.wp_bind]
  apply (looksUp_getOr404 _ _ _ _).wp _ fun _ _ => trivial
  intro s hget
  obtain ⟨-, hs, -⟩ := getOr404_ok.mp hget
  dsimp only
  split
  next hanonymous =>
    rw [Tx.wp_bind, setChatSession, Tx.wp_bind, Tx.wp_store, Tx.wp_write, Tx.wp_pure]
    have hidentified : s.userId.isSome = false := by rw [hanonymous, Option.isSome_none]
    refine performs_set (Std.Refl.refl db) hs rfl ?_
    show _ = (handOff s).escalate s.userId.isSome d.now d.ticketId
    simp [HandOff.escalate, handOff, hidentified]
  next userId huser =>
    rw [Tx.wp_bind]
    apply Tx.wp_mono wp_escalationTicket_handOff _ fun _ _ => trivial
    rintro ⟨ticketId, linked⟩ db₁ ⟨hfiled, hlinkedUser, hlinked⟩
    dsimp only at hlinkedUser hlinked ⊢
    rw [Tx.wp_bind]
    apply (looksUp_getOr404 _ _ _ _).wp _ fun _ _ => trivial
    intro ticket _
    rw [Tx.wp_bind]
    apply Tx.wp_mono (files_flushTicket _ _ _ db₁) _ fun _ _ => trivial
    intro row db₂ hflushed
    rw [Tx.wp_bind, setChatSession, Tx.wp_bind, Tx.wp_store, Tx.wp_write, Tx.wp_pure]
    have hidentified : s.userId.isSome = true := by rw [huser, Option.isSome_some]
    refine performs_set (IsTrans.trans _ _ _ hfiled hflushed) hs hlinkedUser ?_
    show { handOff linked with status := .escalated } = (handOff s).escalate s.userId.isSome d.now d.ticketId
    rw [hlinked]
    simp [HandOff.escalate, handOff, hidentified]

instance : Std.Refl (Performs ctx []) := ⟨fun _ => performs_of_eq rfl⟩

instance : IsTrans Db (Performs ctx []) where
  trans _ _ _ h h' := h.trans h'

theorem performs_addMessage (id ticketId : Uuid) (authorType : AuthorType) (content : String) :
    Tx.Does (Performs ctx []) (addMessage id ticketId authorType content) :=
  (files_addMessage _ _ _ _).mono fun _ _ h => performs_of_eq h.chatSessions

theorem performs_scheduleVisit (ticketId preferredDate notes : Json) :
    Tx.Does (Performs ctx []) (scheduleVisit env ctx d ticketId preferredDate notes) := by
  apply Tx.Does.bind (looksUp_getOr404 _ _ _ _).does
  intro chatSession
  split
  · exact Tx.Does.pure _
  · apply Tx.Does.bind (looksUp_visitTicketId _).does
    intro ticketId
    split
    · exact Tx.Does.pure _
    · apply Tx.Does.ite (Tx.Does.pure _)
      apply Tx.Does.bind (looksUp_getOr404 _ _ _ _).does
      intro ticket
      apply Tx.Does.bind (looksUp_argumentText _).does
      intro content
      exact Tx.Does.bind (performs_addMessage _ _ _ _) fun _ => Tx.Does.pure _

theorem looksUp_bindArguments (required optional : List String) (args : JsonObject) :
    LooksUp (bindArguments required optional args) :=
  LooksUp.ite (LooksUp.bind (LooksUp.orRaise _ (by simp)) fun _ => LooksUp.pure _) (LooksUp.raise (by simp))

/-- **The dispatch**, by the name of the call. -/
theorem performs_callTool (name : String) (args : JsonObject) (db : Db) :
    Tx.wp (callTool env ctx d name args) (fun _ db' => Performs ctx (toolActs ctx db name d) db db')
      (fun _ => True) db := by
  unfold callTool
  split
  next hname =>
    subst hname
    rw [Tx.wp_bind]
    apply (looksUp_bindArguments _ _ _).wp _ fun _ _ => trivial
    intro values _
    split
    · exact ToolRule.checkTicketStatus (R := Performs ctx []) _ db
    · exact Tx.Does.raise _ db
  split
  next hname =>
    subst hname
    rw [Tx.wp_bind]
    apply (looksUp_bindArguments _ _ _).wp _ fun _ _ => trivial
    intro values _
    split
    · exact performs_createTicket _ _ db
    · exact Tx.Does.raise _ db
  split
  next hname =>
    subst hname
    rw [Tx.wp_bind]
    apply (looksUp_bindArguments _ _ _).wp _ fun _ _ => trivial
    intro values _
    split
    · exact performs_scheduleVisit _ _ _ db
    · exact Tx.Does.raise _ db
  split
  next hname =>
    subst hname
    rw [Tx.wp_bind]
    apply (looksUp_bindArguments _ _ _).wp _ fun _ _ => trivial
    intro values _
    split
    · exact performs_escalateToHuman _ db
    · exact Tx.Does.raise _ db
  · exact Tx.Does.raise _ db

/-! ## The parts of a turn

Opening a turn leaves the columns. A tool call does what its tool does, and storing its result adds nothing. -/

theorem performs_addChatMessage (id : Uuid) (createdAt : Int) (role : ChatMessageRole) (content : String)
    (toolName toolCallId : Option String) :
    Tx.Does (Performs ctx []) (addChatMessage ctx id createdAt role content toolName toolCallId) :=
  (Channels.does_addChatMessage _ _ _ _ _ _).mono fun _ _ h => performs_of_eq h.chatSessions

theorem performs_openTurn (o : OpenDraws) (content : String) (excerpts : List String) :
    Tx.Does (Performs ctx []) (openTurn settings ctx o content excerpts) := by
  apply Tx.Does.bind (looksUp_getOr404 _ _ _ _).does
  intro _
  apply Tx.Does.bind (performs_addChatMessage _ _ _ _ _ _)
  intro _
  exact Tx.Does.bind Tx.Does.store fun _ => Tx.Does.pure _

/-- **A tool call** -/
theorem performs_runToolCall {createdAt : Int} {rowId : Uuid} {call : ToolCall} {message : OpenaiMessage}
    (h : exec (runToolCall env ctx createdAt rowId d call) db = (.ok message, db')) :
    Performs ctx (toolActs ctx db call.name d) db db' := by
  obtain ⟨args, _, hloads, h₁⟩ := Tx.bind_ok.mp h
  obtain rfl := (LooksUp.orRaise _ (by simp)).same hloads
  rw [Tx.exec_ite] at h₁
  split at h₁
  · obtain ⟨items, _, hargs, h₂⟩ := Tx.bind_ok.mp h₁
    have hreads : LooksUp (asKeywords args) := by
      cases args with
      | obj items => exact LooksUp.pure items
      | _ => exact LooksUp.raise (by simp)
    obtain rfl := hreads.same hargs
    obtain ⟨result, db₁, hcall, h₃⟩ := Tx.bind_ok.mp h₂
    obtain ⟨_, _, hadd, h₄⟩ := Tx.bind_ok.mp h₃
    cases h₄
    rw [← List.append_nil (toolActs _ _ _ _)]
    exact (Tx.wp_ok (performs_callTool _ _ _) hcall).trans ((performs_addChatMessage _ _ _ _ _ _).of_ok hadd)
  · cases h₁

/-- The automatic escalation, after the streak has been counted. -/
theorem escalateAutomatically_handOff {result : Bool × Option Uuid}
    (h : exec (escalateAutomatically env ctx d) db = (.ok result, db'))
    (hs : db.chatSessions.lookup ctx.chatSessionId = some s) :
    ∃ s', db'.chatSessions.lookup ctx.chatSessionId = some s' ∧ s'.userId = s.userId ∧
      handOff s' = if 2 ≤ s.lowConfidenceStreak then
        { (handOff s).escalate s.userId.isSome d.now d.ticketId with lowConfidenceStreak := 0 }
      else handOff s := by
  obtain ⟨s₁, db₁, hget, hrest⟩ := Tx.bind_ok.mp h
  obtain ⟨rfl, hs₁, -⟩ := getOr404_ok.mp hget
  obtain rfl := Option.some.inj (hs.symm.trans hs₁)
  by_cases hlow : 2 ≤ s.lowConfidenceStreak
  · rw [if_pos hlow] at hrest ⊢
    obtain ⟨result, db₂, hescalate, hrest⟩ := Tx.bind_ok.mp hrest
    obtain ⟨s₂, hs₂, huser, hacts⟩ := (performs_escalateToHuman _).of_ok hescalate s hs
    have hset := updateChatSession_ok (f := fun s => { s with lowConfidenceStreak := 0 }) hrest hs₂
    have hleft : (db₂.chatSessions.modify ctx.chatSessionId fun _ =>
        { s₂ with lowConfidenceStreak := 0 }).lookup ctx.chatSessionId =
          some { s₂ with lowConfidenceStreak := 0 } := by
      rw [Table.lookup_modify_self, hs₂, Option.map_some]
    have hcolumns : handOff { s₂ with lowConfidenceStreak := 0 } =
        { (handOff s).escalate s.userId.isSome d.now d.ticketId with lowConfidenceStreak := 0 } := by
      show { handOff s₂ with lowConfidenceStreak := 0 } = _
      rw [hacts]
      rfl
    -- the ticket id that is returned is read off the result, or off the row
    split at hset
    · obtain ⟨id, db₃, hparse, hpure⟩ := Tx.bind_ok.mp hset
      obtain rfl := (LooksUp.orRaise _ (by simp)).same hparse
      cases hpure
      exact ⟨_, hleft, huser, hcolumns⟩
    · cases hset
      exact ⟨_, hleft, huser, hcolumns⟩
  · rw [if_neg hlow] at hrest ⊢
    cases hrest
    exact ⟨s, hs, rfl, rfl⟩

/-- **Closing** a turn -/
theorem performs_closeTurn {createdAt : Int} {d : ReplyDraws} {replyText : String} {lowConfidence : Bool}
    {toolsUsed : List String} {result : ChatTurnResult}
    (h : exec (closeTurn env ctx createdAt d replyText lowConfidence toolsUsed) db = (.ok result, db')) :
    Performs ctx [.closes lowConfidence d.escalation.now d.escalation.ticketId] db db' := by
  intro s hs
  obtain ⟨_, db₁, hadd, hrest⟩ := Tx.bind_ok.mp h
  obtain ⟨s₁, hs₁, huser₁, hsame⟩ := (performs_addChatMessage _ _ _ _ _ _).of_ok hadd s hs
  have hcounted := updateChatSession_ok
    (f := fun s => { s with lowConfidenceStreak := if lowConfidence then s.lowConfidenceStreak + 1 else 0 })
    hrest hs₁
  obtain ⟨fired, db₂, hescalate, hrest⟩ := Tx.bind_ok.mp hcounted
  obtain ⟨s₂, hs₂, huser₂, hacts⟩ := escalateAutomatically_handOff hescalate
    (by rw [Table.lookup_modify_self, hs₁, Option.map_some])
  have hclosed := updateChatSession_ok (f := fun s => { s with lastActivityAt := d.now }) hrest hs₂
  cases hclosed
  refine ⟨{ s₂ with lastActivityAt := d.now }, ?_, huser₂.trans huser₁, ?_⟩
  · rw [Table.lookup_modify_self, hs₂, Option.map_some]
  · show handOff s₂ = (handOff s).close s.userId.isSome lowConfidence d.escalation.now d.escalation.ticketId
    rw [hacts, ← show handOff s₁ = handOff s from hsame, ← huser₁]
    rfl

/-! ## A whole turn

The acts of `send_message` are read off its input. The calls of a turn may be some way apart, but what a caller has
contracts for is not changed in between. -/

/-- What the caller has contracts for stays. -/
def SameContracts (db db' : Db) : Prop := db'.contracts = db.contracts ∧ db'.properties = db.properties

instance : Std.Refl SameContracts := ⟨fun _ => ⟨rfl, rfl⟩⟩

instance : IsTrans Db SameContracts where
  trans _ _ _ h h' := ⟨h'.1.trans h.1, h'.2.trans h.2⟩

/-- The acts of the calls of a completion; the next one is number `n`. -/
def callsActs (ctx : ToolContext) (db : Db) (d : ReplyDraws) : (n : Nat) → List ToolCall → List HandOffAct
  | _, [] => []
  | n, call :: rest => toolActs ctx db call.name (d.tools n) ++ callsActs ctx db d (n + 1) rest

/-- The acts of a turn, from the request number `round` on. -/
def answersActs (settings : Settings) (ctx : ToolContext) (db : Db) (lowConfidence : Bool) :
    (round : Nat) → List Answer → List HandOffAct
  | _, [] => []
  | round, ⟨completion, d⟩ :: rest =>
    if round < settings.chatMaxToolRounds ∧ completion.toolCalls ≠ [] then
      callsActs ctx db d 0 completion.toolCalls ++ answersActs settings ctx db lowConfidence (round + 1) rest
    else [.closes lowConfidence d.escalation.now d.escalation.ticketId]

theorem toolActs_congr (h : SameContracts db db') (name : String) :
    toolActs ctx db' name d = toolActs ctx db name d := by
  have hcontracts : activeContractsForCaller ctx db' = activeContractsForCaller ctx db := by
    unfold activeContractsForCaller OrgScope.selectsContract
    rw [h.1, h.2]
  rw [toolActs, toolActs, hcontracts]

theorem callsActs_congr (h : SameContracts db db') (d : ReplyDraws) (n : Nat) (calls : List ToolCall) :
    callsActs ctx db' d n calls = callsActs ctx db d n calls := by
  induction calls generalizing n with
  | nil => rfl
  | cons call rest ih => rw [callsActs, callsActs, toolActs_congr h, ih]

theorem answersActs_congr (h : SameContracts db db') (lowConfidence : Bool) (round : Nat) (answers : List Answer) :
    answersActs settings ctx db' lowConfidence round answers =
      answersActs settings ctx db lowConfidence round answers := by
  induction answers generalizing round with
  | nil => rfl
  | cons answer rest ih => rw [answersActs, answersActs, callsActs_congr h, ih]

theorem toolRule_sameContracts : ToolRule ctx SameContracts where
  files db db' h := by
    obtain ⟨_, _, rfl⟩ := h
    exact ⟨rfl, rfl⟩
  session _ _ _ _ _ := ⟨rfl, rfl⟩

theorem sameContracts_addChatMessage (id : Uuid) (createdAt : Int) (role : ChatMessageRole) (content : String)
    (toolName toolCallId : Option String) :
    Tx.Does SameContracts (addChatMessage ctx id createdAt role content toolName toolCallId) :=
  (Channels.does_addChatMessage _ _ _ _ _ _).mono fun _ _ h => ⟨h.contracts, h.properties⟩

theorem sameContracts_openTurn (o : OpenDraws) (content : String) (excerpts : List String) :
    Tx.Does SameContracts (openTurn settings ctx o content excerpts) := by
  apply Tx.Does.bind (looksUp_getOr404 _ _ _ _).does
  intro _
  apply Tx.Does.bind (sameContracts_addChatMessage _ _ _ _ _ _)
  intro _
  exact Tx.Does.bind Tx.Does.store fun _ => Tx.Does.pure _

theorem sameContracts_runToolCall (createdAt : Int) (rowId : Uuid) (call : ToolCall) :
    Tx.Does SameContracts (runToolCall env ctx createdAt rowId d call) := by
  apply Tx.Does.bind (Tx.Does.orRaise _ _)
  intro args
  apply Tx.Does.ite _ (Tx.Does.raise _)
  apply Tx.Does.bind
  · cases args with
    | obj items => exact Tx.Does.pure _
    | _ => exact Tx.Does.raise _
  intro items
  apply Tx.Does.bind (toolRule_sameContracts.callTool _ _)
  intro result
  exact Tx.Does.bind (sameContracts_addChatMessage _ _ _ _ _ _) fun _ => Tx.Does.pure _

/-- The calls of a completion, one after another. -/
theorem performs_runToolCalls {createdAt : Int} {d : ReplyDraws} {n : Nat} {calls : List ToolCall}
    {messages : List OpenaiMessage} (h : exec (runToolCalls env ctx createdAt d n calls) db = (.ok messages, db')) :
    SameContracts db db' ∧ Performs ctx (callsActs ctx db d n calls) db db' := by
  induction calls generalizing db n messages with
  | nil =>
    cases h
    exact ⟨Std.Refl.refl _, performs_of_eq rfl⟩
  | cons call rest ih =>
    obtain ⟨message, db₁, hcall, hrest⟩ := Tx.bind_ok.mp h
    obtain ⟨messages, db₂, hcalls, hpure⟩ := Tx.bind_ok.mp hrest
    cases hpure
    have hsame := (sameContracts_runToolCall _ _ _).of_ok hcall
    obtain ⟨hsame', hacts⟩ := ih hcalls
    rw [callsActs_congr hsame] at hacts
    exact ⟨IsTrans.trans _ _ _ hsame hsame', (performs_runToolCall hcall).trans hacts⟩

theorem performs_answerTurn {createdAt : Int} {lowConfidence : Bool} {round : Nat} {toolsUsed : List String}
    {answers : List Answer} {result : ChatTurnResult}
    (h : exec (answerTurn env settings ctx createdAt lowConfidence round toolsUsed answers) db = (.ok result, db')) :
    Performs ctx (answersActs settings ctx db lowConfidence round answers) db db' := by
  induction answers generalizing db round toolsUsed with
  | nil => cases h
  | cons answer rest ih =>
    obtain ⟨completion, d⟩ := answer
    rw [answerTurn, Tx.exec_ite] at h
    rw [answersActs]
    split at h
    next hcalls =>
      obtain ⟨_, db₁, hrun, hrest⟩ := Tx.bind_ok.mp h
      obtain ⟨hsame, hacts⟩ := performs_runToolCalls hrun
      have hanswers := ih hrest
      rw [answersActs_congr hsame] at hanswers
      rw [if_pos hcalls]
      exact hacts.trans hanswers
    next hcloses =>
      rw [if_neg hcloses]
      exact performs_closeTurn h

/-- **`send_message`** does to the row what the acts of its input do to the columns. -/
theorem performs_sendMessage {content : String} {input : TurnInput} {result : ChatTurnResult}
    (h : exec (sendMessage env settings ctx content input) db = (.ok result, db')) :
    Performs ctx (answersActs settings ctx db input.excerpts.isEmpty 0 input.answers) db db' := by
  obtain ⟨_, db₁, hopen, hrest⟩ := Tx.bind_ok.mp h
  have hacts := performs_answerTurn hrest
  rw [answersActs_congr ((sameContracts_openTurn _ _ _).of_ok hopen)] at hacts
  exact ((performs_openTurn _ _ _).of_ok hopen).trans hacts

end

end Helpdesk.Chat
