import Mathlib.Algebra.Ring.Parity
import Helpdesk.Chat.History
import Helpdesk.Chat.Progress
import Helpdesk.Chat.Turn

/-! # The low-confidence streak

`send_message` adds up the low-confidence turns of a session, escalates at the second one in a row, and starts
again from zero. A tool call in the same turn may escalate too; it leaves the streak alone.

**`escalates_at_even`**: over every sequence of turns, the automatic escalation comes at the even positions of each
run of low-confidence turns, whatever the model asks for in between; it leaves the session escalated, with the time
of it; and an escalation is never taken back. -/

namespace Helpdesk.Chat

open Tx (exec)

/-! ## Turns one after another

`completedTurns` runs a list of turns on one session and keeps what each has left; a turn that raises is rolled back
and leaves nothing. The hand-off columns are compared by `HandOffKept`, the streak by `LeavesStreak`. -/

structure TurnRequest where
  scope : OrgScope
  content : String
  input : TurnInput

/-- `len(chunk_rows) == 0` -/
def TurnRequest.lowConfidence (r : TurnRequest) : Bool := r.input.excerpts.isEmpty

/-- A turn that has returned, with the row that it leaves of the session. -/
structure CompletedTurn where
  lowConfidence : Bool
  escalated : Bool
  session : ChatSession

/-- The turns of a session that return, each in a transaction of its own. One that raises is rolled back. -/
def completedTurns (env : Env) (settings : Settings) (chatSessionId : Uuid) : Db → List TurnRequest → List CompletedTurn
  | _, [] => []
  | db, r :: rest =>
    match exec (sendMessage env settings ⟨r.scope, chatSessionId⟩ r.content r.input) db with
    | (.ok result, db') =>
      (db'.chatSessions.lookup chatSessionId).toList.map (⟨r.lowConfidence, result.escalated, ·⟩) ++
        completedTurns env settings chatSessionId db' rest
    | (.error _, _) => completedTurns env settings chatSessionId db rest

/-- How many of the last turns were of low confidence: the position of the last one in its run. -/
def runLength (lows : List Bool) : Nat := (lows.reverse.takeWhile id).length

/-- A session that is escalated stays so, and keeps the time of its first escalation. -/
structure HandOffKept (s s' : ChatSession) : Prop where
  status : s.status = .escalated → s'.status = .escalated
  escalatedAt : ∀ t, s.escalatedAt = some t → s'.escalatedAt = some t

instance : Std.Refl HandOffKept := ⟨fun _ => ⟨id, fun _ h => h⟩⟩

instance : IsTrans ChatSession HandOffKept where
  trans _ _ _ h h' := ⟨fun hs => h'.status (h.status hs), fun t ht => h'.escalatedAt t (h.escalatedAt t ht)⟩

/-- The session keeps its hand-off, and its streak is `n`. -/
def LeavesStreak (ctx : ToolContext) (s : ChatSession) (n : Int) (db : Db) : Prop :=
  ∃ s', db.chatSessions.lookup ctx.chatSessionId = some s' ∧ HandOffKept s s' ∧ s'.lowConfidenceStreak = n

/-- The streak stays as it is. -/
def StreakStays (ctx : ToolContext) (db db' : Db) : Prop :=
  ∀ s, db.chatSessions.lookup ctx.chatSessionId = some s → LeavesStreak ctx s s.lowConfidenceStreak db'

section
variable {env : Env} {settings : Settings} {ctx : ToolContext} {db db' : Db} {s : ChatSession} {n : Int}

theorem StreakStays.of_eq (h : db'.chatSessions = db.chatSessions) : StreakStays ctx db db' :=
  fun s hs => ⟨s, by rwa [h], Std.Refl.refl s, rfl⟩

instance : Std.Refl (StreakStays ctx) := ⟨fun _ => .of_eq rfl⟩

instance : IsTrans Db (StreakStays ctx) where
  trans _ _ _ h h' s hs := by
    obtain ⟨s₁, hs₁, hkept, hstreak⟩ := h s hs
    obtain ⟨s₂, hs₂, hkept', hstreak'⟩ := h' s₁ hs₁
    exact ⟨s₂, hs₂, IsTrans.trans _ _ _ hkept hkept', hstreak'.trans hstreak⟩

/-- The row is written over. -/
theorem LeavesStreak.set {s₁ s' : ChatSession} (hs : db.chatSessions.lookup ctx.chatSessionId = some s₁)
    (hkept : HandOffKept s s') (hstreak : s'.lowConfidenceStreak = n) :
    LeavesStreak ctx s n { db with chatSessions := db.chatSessions.modify ctx.chatSessionId fun _ => s' } :=
  ⟨s', by rw [Table.lookup_modify_self, hs, Option.map_some], hkept, hstreak⟩

theorem toolRule_streakStays : ToolRule ctx (StreakStays ctx) where
  files db db' h := .of_eq h.chatSessions
  session db s s' hs hwrite s₀ hs₀ := by
    obtain rfl := Option.some.inj (hs.symm.trans hs₀)
    refine .set hs ⟨fun hescalated => ?_, hwrite.escalatedAt⟩ hwrite.lowConfidenceStreak
    exact hwrite.status.elim (fun h => h.trans hescalated) id

/-! ## The parts of a turn

Opening a turn and calling tools leave the streak. Only `closeTurn` writes it, and an escalation sets it back to
zero. -/

theorem does_addChatMessage_streak (id : Uuid) (createdAt : Int) (role : ChatMessageRole) (content : String)
    (toolName toolCallId : Option String) :
    Tx.Does (StreakStays ctx) (addChatMessage ctx id createdAt role content toolName toolCallId) := by
  intro db
  unfold addChatMessage
  split
  · split
    · rw [Tx.wp_bind, Tx.wp_store, Tx.wp_bind, Tx.wp_orRaise]
      refine ⟨fun chatMessages hinsert => ?_, fun _ => trivial⟩
      rw [Tx.wp_write]
      exact .of_eq rfl
    · exact Tx.Does.raise _ db
  · exact Tx.Does.raise _ db

theorem does_openTurn_streak (d : OpenDraws) (content : String) (excerpts : List String) :
    Tx.Does (StreakStays ctx) (openTurn settings ctx d content excerpts) := by
  apply Tx.Does.bind (looksUp_getOr404 _ _ _ _).does
  intro _
  apply Tx.Does.bind (does_addChatMessage_streak _ _ _ _ _ _)
  intro _
  exact Tx.Does.bind Tx.Does.store fun _ => Tx.Does.pure _

theorem does_runToolCall_streak (createdAt : Int) (rowId : Uuid) (d : ToolDraws) (call : ToolCall) :
    Tx.Does (StreakStays ctx) (runToolCall env ctx createdAt rowId d call) := by
  apply Tx.Does.bind (Tx.Does.orRaise _ _)
  intro args
  apply Tx.Does.ite _ (Tx.Does.raise _)
  apply Tx.Does.bind
  · cases args with
    | obj items => exact Tx.Does.pure _
    | _ => exact Tx.Does.raise _
  intro items
  apply Tx.Does.bind (toolRule_streakStays.callTool _ _)
  intro result
  exact Tx.Does.bind (does_addChatMessage_streak _ _ _ _ _ _) fun _ => Tx.Does.pure _

theorem does_runToolCalls_streak (createdAt : Int) (d : ReplyDraws) (n : Nat) (calls : List ToolCall) :
    Tx.Does (StreakStays ctx) (runToolCalls env ctx createdAt d n calls) := by
  induction calls generalizing n with
  | nil => exact Tx.Does.pure _
  | cons call rest ih =>
    apply Tx.Does.bind (does_runToolCall_streak _ _ _ _)
    intro _
    exact Tx.Does.bind (ih (n + 1)) fun _ => Tx.Does.pure _

/-- The row is loaded, changed and written, and then the rest. -/
theorem updateChatSession_ok {α : Type} {f : ChatSession → ChatSession} {k : ChatSession → Service α} {a : α}
    (h : exec (do
      let chatSession ← getChatSession ctx
      setChatSession ctx (f chatSession)
      k chatSession) db = (.ok a, db'))
    (hs : db.chatSessions.lookup ctx.chatSessionId = some s) :
    exec (k s) { db with chatSessions := db.chatSessions.modify ctx.chatSessionId fun _ => f s } = (.ok a, db') := by
  obtain ⟨s₁, db₁, hget, hrest⟩ := Tx.bind_ok.mp h
  obtain ⟨rfl, hs₁, -⟩ := getOr404_ok.mp hget
  obtain rfl := Option.some.inj (hs.symm.trans hs₁)
  obtain ⟨_, _, hset, hk⟩ := Tx.bind_ok.mp hrest
  cases hset
  exact hk

/-- **The automatic escalation** is made at a streak of two or more, which is over then. -/
theorem escalateAutomatically_ok {d : ToolDraws} {fired : Bool} {ticketId : Option Uuid}
    (h : exec (escalateAutomatically env ctx d) db = (.ok (fired, ticketId), db'))
    (hs : db.chatSessions.lookup ctx.chatSessionId = some s) :
    fired = decide (2 ≤ s.lowConfidenceStreak) ∧
      LeavesStreak ctx s (if 2 ≤ s.lowConfidenceStreak then 0 else s.lowConfidenceStreak) db' := by
  obtain ⟨s₁, db₁, hget, hrest⟩ := Tx.bind_ok.mp h
  obtain ⟨rfl, hs₁, -⟩ := getOr404_ok.mp hget
  obtain rfl := Option.some.inj (hs.symm.trans hs₁)
  by_cases hlow : 2 ≤ s.lowConfidenceStreak
  · rw [if_pos hlow] at hrest ⊢
    obtain ⟨result, db₂, hescalate, hrest⟩ := Tx.bind_ok.mp hrest
    obtain ⟨s₂, hs₂, hkept, -⟩ := (toolRule_streakStays.escalateToHuman _).of_ok hescalate s hs
    have hset := updateChatSession_ok (f := fun s => { s with lowConfidenceStreak := 0 }) hrest hs₂
    have hleft : LeavesStreak ctx s 0 { db₂ with
        chatSessions := db₂.chatSessions.modify ctx.chatSessionId fun _ =>
          { s₂ with lowConfidenceStreak := 0 } } :=
      .set hs₂ ⟨hkept.status, hkept.escalatedAt⟩ rfl
    rw [decide_eq_true hlow]
    -- the ticket id that is returned is read off the result, or off the row
    split at hset
    · obtain ⟨id, db₃, hparse, hpure⟩ := Tx.bind_ok.mp hset
      obtain rfl := (LooksUp.orRaise _ (by simp)).same hparse
      cases hpure
      exact ⟨rfl, hleft⟩
    · cases hset
      exact ⟨rfl, hleft⟩
  · rw [if_neg hlow] at hrest ⊢
    cases hrest
    exact ⟨(decide_eq_false hlow).symm, s, hs, Std.Refl.refl s, rfl⟩

/-- The streak at the end of a turn. -/
def nextStreak (lowConfidence : Bool) (streak : Int) : Int :=
  if lowConfidence then if 2 ≤ streak + 1 then 0 else streak + 1 else 0

/-- **Closing** a turn -/
theorem closeTurn_streak {createdAt : Int} {d : ReplyDraws} {replyText : String} {lowConfidence : Bool}
    {toolsUsed : List String} {result : ChatTurnResult}
    (h : exec (closeTurn env ctx createdAt d replyText lowConfidence toolsUsed) db = (.ok result, db'))
    (hs : db.chatSessions.lookup ctx.chatSessionId = some s) :
    result.escalated = (lowConfidence && decide (2 ≤ s.lowConfidenceStreak + 1)) ∧
      LeavesStreak ctx s (nextStreak lowConfidence s.lowConfidenceStreak) db' := by
  obtain ⟨_, db₁, hadd, hrest⟩ := Tx.bind_ok.mp h
  obtain ⟨s₁, hs₁, hkept₁, hstreak₁⟩ := (does_addChatMessage_streak _ _ _ _ _ _).of_ok hadd s hs
  have hcounted := updateChatSession_ok
    (f := fun s => { s with lowConfidenceStreak := if lowConfidence then s.lowConfidenceStreak + 1 else 0 })
    hrest hs₁
  obtain ⟨⟨fired, ticketId⟩, db₂, hescalate, hrest⟩ := Tx.bind_ok.mp hcounted
  obtain ⟨hfired, s₂, hs₂, hkept₂, hstreak₂⟩ := escalateAutomatically_ok hescalate
    (by rw [Table.lookup_modify_self, hs₁, Option.map_some])
  have hclosed := updateChatSession_ok (f := fun s => { s with lastActivityAt := d.now }) hrest hs₂
  cases hclosed
  have hkept : HandOffKept s { s₂ with lastActivityAt := d.now } :=
    ⟨fun hescalated => hkept₂.status (hkept₁.status hescalated),
      fun t ht => hkept₂.escalatedAt t (hkept₁.escalatedAt t ht)⟩
  refine ⟨?_, .set hs₂ hkept ?_⟩
  · show fired = _
    rw [hfired]
    cases lowConfidence with
    | true => simp [hstreak₁]
    | false => simp
  · show s₂.lowConfidenceStreak = _
    rw [hstreak₂]
    cases lowConfidence with
    | true => simp [nextStreak, hstreak₁]
    | false => simp [nextStreak]

theorem answerTurn_streak {createdAt : Int} {lowConfidence : Bool} {round : Nat} {toolsUsed : List String}
    {answers : List Answer} {result : ChatTurnResult}
    (h : exec (answerTurn env settings ctx createdAt lowConfidence round toolsUsed answers) db = (.ok result, db'))
    (hs : db.chatSessions.lookup ctx.chatSessionId = some s) :
    result.escalated = (lowConfidence && decide (2 ≤ s.lowConfidenceStreak + 1)) ∧
      LeavesStreak ctx s (nextStreak lowConfidence s.lowConfidenceStreak) db' := by
  induction answers generalizing round toolsUsed db s with
  | nil => cases h
  | cons answer rest ih =>
    obtain ⟨completion, d⟩ := answer
    rw [answerTurn, Tx.exec_ite] at h
    split at h
    · obtain ⟨_, db₁, hcalls, hrest⟩ := Tx.bind_ok.mp h
      obtain ⟨s₁, hs₁, hkept, hstreak⟩ := (does_runToolCalls_streak _ _ _ _).of_ok hcalls s hs
      obtain ⟨hfired, s₂, hs₂, hkept', hstreak'⟩ := ih hrest hs₁
      rw [hstreak] at hfired hstreak'
      exact ⟨hfired, s₂, hs₂, IsTrans.trans _ _ _ hkept hkept', hstreak'⟩
    · exact closeTurn_streak h hs

/-- **One turn** -/
theorem sendMessage_streak {content : String} {input : TurnInput} {result : ChatTurnResult}
    (h : exec (sendMessage env settings ctx content input) db = (.ok result, db'))
    (hs : db.chatSessions.lookup ctx.chatSessionId = some s) :
    result.escalated = (input.excerpts.isEmpty && decide (2 ≤ s.lowConfidenceStreak + 1)) ∧
      LeavesStreak ctx s (nextStreak input.excerpts.isEmpty s.lowConfidenceStreak) db' := by
  obtain ⟨_, db₁, hopen, hrest⟩ := Tx.bind_ok.mp h
  obtain ⟨s₁, hs₁, hkept, hstreak⟩ := (does_openTurn_streak _ _ _).of_ok hopen s hs
  obtain ⟨hfired, s₂, hs₂, hkept', hstreak'⟩ := answerTurn_streak hrest hs₁
  rw [hstreak] at hfired hstreak'
  exact ⟨hfired, s₂, hs₂, IsTrans.trans _ _ _ hkept hkept', hstreak'⟩

theorem answerTurn_handsOff {createdAt : Int} {lowConfidence : Bool} {round : Nat} {toolsUsed : List String}
    {answers : List Answer} {result : ChatTurnResult}
    (h : exec (answerTurn env settings ctx createdAt lowConfidence round toolsUsed answers) db = (.ok result, db'))
    (hescalated : result.escalated = true) : HandsOff ctx db' := by
  induction answers generalizing round toolsUsed db with
  | nil => cases h
  | cons answer rest ih =>
    rw [answerTurn, Tx.exec_ite] at h
    split at h
    · obtain ⟨_, _, _, hrest⟩ := Tx.bind_ok.mp h
      exact ih hrest
    · exact Tx.wp_ok (wp_closeTurn_handsOff _ _ _ _ _) h hescalated

/-- A turn that escalates by itself leaves the session in the hands of a human. -/
theorem sendMessage_handsOff {content : String} {input : TurnInput} {result : ChatTurnResult}
    (h : exec (sendMessage env settings ctx content input) db = (.ok result, db'))
    (hescalated : result.escalated = true) : HandsOff ctx db' := by
  obtain ⟨_, _, _, hrest⟩ := Tx.bind_ok.mp h
  exact answerTurn_handsOff hrest hescalated

end

/-! ## Runs of low confidence

After a turn the streak is the length of the current run of low-confidence turns, modulo two. From this the position
of each escalation follows. -/

theorem runLength_concat (lows : List Bool) (low : Bool) :
    runLength (lows ++ [low]) = if low then runLength lows + 1 else 0 := by
  unfold runLength
  rw [List.reverse_append, List.reverse_singleton, List.singleton_append]
  cases low with
  | true => simp
  | false => simp

/-- The streak is the position in the run, counted in twos. -/
theorem nextStreak_runLength (lows : List Bool) (low : Bool) :
    nextStreak low ((runLength lows % 2 : Nat) : Int) = ((runLength (lows ++ [low]) % 2 : Nat) : Int) := by
  rw [runLength_concat, nextStreak]
  cases low with
  | true =>
    simp only [if_true]
    split
    · omega
    · omega
  | false => simp

theorem fires_runLength (lows : List Bool) (low : Bool) :
    (low && decide (2 ≤ ((runLength lows % 2 : Nat) : Int) + 1)) = true ↔
      low = true ∧ Even (runLength (lows ++ [low])) := by
  rw [runLength_concat, Bool.and_eq_true, decide_eq_true_eq, Nat.even_iff]
  cases low with
  | true =>
    simp only [if_true, true_and]
    omega
  | false => simp

/-- **The run**, on a session whose streak stands where the turns `lows` before have brought it. -/
theorem completedTurns_run (env : Env) (settings : Settings) (chatSessionId : Uuid) (reqs : List TurnRequest)
    {db : Db} {s : ChatSession} {lows : List Bool} (hs : db.chatSessions.lookup chatSessionId = some s)
    (hstreak : s.lowConfidenceStreak = ((runLength lows % 2 : Nat) : Int)) :
    (∀ pre c post, completedTurns env settings chatSessionId db reqs = pre ++ c :: post →
      c.session.lowConfidenceStreak =
        ((runLength (lows ++ pre.map (·.lowConfidence) ++ [c.lowConfidence]) % 2 : Nat) : Int) ∧
      (c.escalated = true ↔ c.lowConfidence = true ∧
        Even (runLength (lows ++ pre.map (·.lowConfidence) ++ [c.lowConfidence])))) ∧
    (∀ c ∈ completedTurns env settings chatSessionId db reqs, HandOffKept s c.session) ∧
    (completedTurns env settings chatSessionId db reqs).Pairwise fun c c' => HandOffKept c.session c'.session := by
  induction reqs generalizing db s lows with
  | nil => simp [completedTurns]
  | cons r rest ih =>
    rw [completedTurns]
    cases hturn : exec (sendMessage env settings ⟨r.scope, chatSessionId⟩ r.content r.input) db with
    | mk out db' =>
    cases out with
    -- rolled back: the rest runs on the same database
    | error e => exact ih hs hstreak
    | ok result =>
      obtain ⟨hfired, s', hs', hkept, hnext⟩ := sendMessage_streak hturn hs
      rw [hstreak] at hfired hnext
      rw [nextStreak_runLength] at hnext
      obtain ⟨hrun, hall, hpairs⟩ := ih hs' hnext
      dsimp only at hs' ⊢
      rw [hs', Option.toList_some, List.map_singleton, List.singleton_append]
      refine ⟨fun pre c post heq => ?_, ?_, List.pairwise_cons.mpr ⟨hall, hpairs⟩⟩
      · -- the first turn, and the turns after it by induction
        cases pre with
        | nil =>
          obtain ⟨rfl, -⟩ := List.cons.inj heq
          rw [List.map_nil, List.append_nil]
          refine ⟨hnext, ?_⟩
          show result.escalated = true ↔ _
          rw [hfired]
          exact fires_runLength lows _
        | cons c' pre =>
          obtain ⟨rfl, htail⟩ := List.cons.inj heq
          have := hrun pre c post htail
          simpa [TurnRequest.lowConfidence] using this
      · intro c hc
        obtain rfl | hc := List.mem_cons.mp hc
        · exact hkept
        · exact IsTrans.trans _ _ _ hkept (hall c hc)

/-- The row that an escalating turn leaves. -/
theorem completedTurns_handedOff (env : Env) (settings : Settings) (chatSessionId : Uuid) (reqs : List TurnRequest)
    {db : Db} : ∀ c ∈ completedTurns env settings chatSessionId db reqs, c.escalated = true →
      c.session.status = .escalated ∧ HandedOff c.session := by
  induction reqs generalizing db with
  | nil => simp [completedTurns]
  | cons r rest ih =>
    rw [completedTurns]
    cases hturn : exec (sendMessage env settings ⟨r.scope, chatSessionId⟩ r.content r.input) db with
    | mk out db' =>
    cases out with
    | error e => exact ih
    | ok result =>
      intro c hc hescalated
      obtain hfirst | hlater := List.mem_append.mp hc
      · obtain ⟨s, hs, rfl⟩ := List.mem_map.mp hfirst
        obtain ⟨s', hs', hstatus, hhanded⟩ := sendMessage_handsOff hturn hescalated
        obtain rfl := Option.some.inj (hs'.symm.trans (Option.mem_toList.mp hs))
        exact ⟨hstatus, hhanded⟩
      · exact ih c hlater hescalated

/-- **Automatic escalation.** On a session whose streak is zero, after each turn that completes the streak is zero
    or one; the escalation comes exactly at the turns that are of low confidence and at an even position in their
    run of such turns, and leaves the session escalated and stamped, with a ticket if it is identified; and once the
    session is escalated, no later turn changes that or its time. -/
theorem escalates_at_even (env : Env) (settings : Settings) (chatSessionId : Uuid) (reqs : List TurnRequest)
    {db : Db} {s : ChatSession} (hs : db.chatSessions.lookup chatSessionId = some s)
    (hzero : s.lowConfidenceStreak = 0) :
    (∀ c ∈ completedTurns env settings chatSessionId db reqs,
      (c.session.lowConfidenceStreak = 0 ∨ c.session.lowConfidenceStreak = 1) ∧ HandOffKept s c.session) ∧
    (∀ pre c post, completedTurns env settings chatSessionId db reqs = pre ++ c :: post →
      (c.escalated = true ↔
        c.lowConfidence = true ∧ Even (runLength (pre.map (·.lowConfidence) ++ [c.lowConfidence])))) ∧
    (∀ c ∈ completedTurns env settings chatSessionId db reqs, c.escalated = true →
      c.session.status = .escalated ∧ HandedOff c.session) ∧
    (completedTurns env settings chatSessionId db reqs).Pairwise fun c c' => HandOffKept c.session c'.session := by
  have hstart : s.lowConfidenceStreak = ((runLength [] % 2 : Nat) : Int) := hzero
  obtain ⟨hrun, hall, hpairs⟩ := completedTurns_run env settings chatSessionId reqs hs hstart
  refine ⟨fun c hc => ⟨?_, hall c hc⟩, fun pre c post heq => (hrun pre c post heq).2,
    completedTurns_handedOff env settings chatSessionId reqs, hpairs⟩
  obtain ⟨pre, post, heq⟩ := List.append_of_mem hc
  have := (hrun pre c post heq).1
  omega

/-- A question to which the knowledge base has nothing. -/
def unanswered (n : Uuid) : TurnRequest where
  scope := visitor.scope
  content := "What about my ticket?"
  input := ⟨⟨n, days 739000⟩, [], [⟨⟨some "I cannot find it.", []⟩, drawsFrom (n + 1)⟩]⟩

/-- Three of them: the second one escalates. -/
theorem escalates_at_even_three :
    (completedTurns chatEnv ⟨10, 2⟩ 60 chatDb [unanswered 101, unanswered 103, unanswered 105]).map (·.escalated) =
      [false, true, false] ∧
    (completedTurns chatEnv ⟨10, 2⟩ 60 chatDb [unanswered 101, unanswered 103, unanswered 105]).Pairwise
      fun c c' => HandOffKept c.session c'.session :=
  ⟨by decide +kernel,
    (escalates_at_even chatEnv ⟨10, 2⟩ 60 [unanswered 101, unanswered 103, unanswered 105] rfl rfl).2.2.2⟩

end Helpdesk.Chat
