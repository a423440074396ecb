import Helpdesk.Channels.Effects
import Helpdesk.Chat.ToolRule
import Helpdesk.Library.Growth

/-! # The progress of a session

A turn takes the row of its session one way only: the link is never taken back, the time of the escalation
is never written over, and the status is left, or else the session is handed off with all that belongs to it.
**`progresses_runToolCall`** and **`progresses_closeTurn`** say so for every answer of the model.

`Progress` is what holds of the stored row as well, where two turns have written to it. That a turn does not
write over the time, `TurnProgress.stamp`, is only said of the row as this turn has read it. -/

namespace Helpdesk.Chat

open UnitOfWork

/-! ## The relations

`Progress` and `TurnProgress` are reflexive and transitive, so they can be shown part by part. `Progresses` is the
same of the whole table: one row may progress, the other ones stay. -/

/-- The session has been escalated, and an identified one has a ticket. -/
structure HandedOff (s : ChatSession) : Prop where
  stamped : s.escalatedAt ≠ none
  linked : s.userId ≠ none → s.ticketId ≠ none

/-- The turn's session is in the hands of a human: it is ESCALATED, with all that belongs to it. -/
def HandsOff (ctx : ToolContext) (db : Db) : Prop :=
  ∃ s, db.chatSessions.lookup ctx.chatSessionId = some s ∧ s.status = .escalated ∧ HandedOff s

/-- What may become of a session. -/
structure Progress (s s' : ChatSession) : Prop where
  userId : s'.userId = s.userId
  linked : s.ticketId ≠ none → s'.ticketId ≠ none
  stamped : s.escalatedAt ≠ none → s'.escalatedAt ≠ none
  status : s'.status = s.status ∨ s'.status = .escalated ∧ HandedOff s'

/-- What a turn makes of the session that it has read. -/
structure TurnProgress (s s' : ChatSession) : Prop extends Progress s s' where
  stamp : s.escalatedAt ≠ none → s'.escalatedAt = s.escalatedAt

/-- The turn's session progresses; the other ones are left, and there is no new one. -/
structure Progresses (ctx : ToolContext) (db db' : Db) : Prop where
  turn : Grows TurnProgress db.chatSessions db'.chatSessions
  adds : Adds (fun _ => False) db.chatSessions db'.chatSessions
  others : ∀ id, id ≠ ctx.chatSessionId → db'.chatSessions.lookup id = db.chatSessions.lookup id

section
variable {s s' linked : ChatSession} {ticketId : Uuid}

theorem HandedOff.progress (h : HandedOff s) (hprogress : Progress s s') : HandedOff s' := by
  refine ⟨hprogress.stamped h.stamped, fun huser => hprogress.linked (h.linked ?_)⟩
  rwa [← hprogress.userId]

instance : Std.Refl Progress := ⟨fun _ => ⟨rfl, id, id, .inl rfl⟩⟩

instance : IsTrans ChatSession Progress where
  trans s₁ s₂ s₃ h h' := by
    refine ⟨h'.userId.trans h.userId, fun hl => h'.linked (h.linked hl), fun hs => h'.stamped (h.stamped hs), ?_⟩
    rcases h'.status with hsame | hescalated
    · rcases h.status with hsame' | ⟨hstatus, hhanded⟩
      · exact .inl (hsame.trans hsame')
      · exact .inr ⟨hsame.trans hstatus, hhanded.progress h'⟩
    · exact .inr hescalated

instance : Std.Refl TurnProgress := ⟨fun s => ⟨Std.Refl.refl s, fun _ => rfl⟩⟩

instance : IsTrans ChatSession TurnProgress where
  trans s₁ s₂ s₃ h h' := by
    refine ⟨IsTrans.trans _ _ _ h.toProgress h'.toProgress, fun hstamp => ?_⟩
    have hkept := h.stamp hstamp
    exact (h'.stamp (by rwa [hkept])).trans hkept

/-- The columns of the hand-off are as they were. -/
theorem progress_of_eq (huser : s'.userId = s.userId) (hticket : s'.ticketId = s.ticketId)
    (hstamp : s'.escalatedAt = s.escalatedAt) (hstatus : s'.status = s.status) : TurnProgress s s' :=
  ⟨⟨huser, by rw [hticket]; exact id, by rw [hstamp]; exact id, .inl hstatus⟩, fun _ => hstamp⟩

theorem progress_link (h : s.link ticketId = .ok linked) : TurnProgress s linked := by
  unfold ChatSession.link at h
  split at h
  · cases h
    exact ⟨⟨rfl, by simp, id, .inl rfl⟩, fun _ => rfl⟩
  · cases h

section
variable {now : Int} {s₁ : ChatSession}

/-- The row that `escalate_to_human` leaves. -/
theorem handedOff_escalate (h : TurnProgress { s with escalatedAt := some (s.escalatedAt.getD now) } s₁)
    (hlinked : s.userId ≠ none → s₁.ticketId ≠ none) : HandedOff { s₁ with status := .escalated } :=
  ⟨h.stamped (by simp), fun huser => hlinked (by rwa [← h.userId])⟩

/-- The time is put in only where there is none. -/
theorem progress_escalate (h : TurnProgress { s with escalatedAt := some (s.escalatedAt.getD now) } s₁)
    (hlinked : s.userId ≠ none → s₁.ticketId ≠ none) : TurnProgress s { s₁ with status := .escalated } where
  userId := h.userId
  linked := h.linked
  stamped _ := h.stamped (by simp)
  status := .inr ⟨rfl, handedOff_escalate h hlinked⟩
  stamp hstamp := by
    obtain ⟨at₀, hat⟩ := Option.ne_none_iff_exists'.mp hstamp
    show s₁.escalatedAt = s.escalatedAt
    rw [h.stamp (by simp)]
    simp [hat]

end

end

section
variable {env : Env} {settings : Settings} {ctx : ToolContext} {d : ToolDraws} {db db₁ db' : Db}

instance : Std.Refl (Progresses ctx) := ⟨fun _ => ⟨Grows.refl _, Adds.of_eq rfl, fun _ _ => rfl⟩⟩

instance : IsTrans Db (Progresses ctx) where
  trans db₁ db₂ db₃ h h' := by
    refine ⟨h.turn.trans h'.turn, fun id s hnone hs => ?_, fun id hid => (h'.others id hid).trans (h.others id hid)⟩
    cases hmid : db₂.chatSessions.lookup id with
    | none => exact h'.adds id s hmid hs
    | some s₂ => exact (h.adds id s₂ hnone hmid).elim

theorem progresses_of_eq (h : db'.chatSessions = db.chatSessions) : Progresses ctx db db' :=
  ⟨Grows.of_eq h, Adds.of_eq h, fun id _ => by rw [h]⟩

theorem Progresses.grows (h : Progresses ctx db db') : Grows Progress db.chatSessions db'.chatSessions :=
  h.turn.mono fun _ _ hprogress => hprogress.toProgress

/-- The row of the turn's session is written, after tickets and messages. -/
theorem progresses_set {s s' : ChatSession} (hfiles : Files db db₁)
    (hs : db.chatSessions.lookup ctx.chatSessionId = some s) (hprogress : TurnProgress s s') :
    Progresses ctx db { db₁ with chatSessions := db₁.chatSessions.modify ctx.chatSessionId fun _ => s' } := by
  have hwritten : ({ db₁ with chatSessions := db₁.chatSessions.modify ctx.chatSessionId fun _ => s' } :
      Db).chatSessions = db.chatSessions.modify ctx.chatSessionId fun _ => s' := by
    rw [hfiles.chatSessions]
  refine ⟨?_, ?_, fun id hid => ?_⟩ <;> rw [hwritten]
  · refine Grows.modify fun s₀ hs₀ => ?_
    obtain rfl := Option.some.inj (hs.symm.trans hs₀)
    exact hprogress
  · exact Adds.modify
  · rw [Table.lookup_modify, if_neg hid]

/-- What has been handed off stays so. -/
theorem HandsOff.progress (h : HandsOff ctx db) (hprogress : Progresses ctx db db') : HandsOff ctx db' := by
  obtain ⟨s, hs, hstatus, hhanded⟩ := h
  obtain ⟨s', hs', hrow⟩ := hprogress.turn ctx.chatSessionId s hs
  refine ⟨s', hs', ?_, hhanded.progress hrow.toProgress⟩
  obtain hsame | ⟨hescalated, -⟩ := hrow.status
  · rw [hsame, hstatus]
  · exact hescalated

/-- The row of a session that is handed off is written. -/
theorem handsOff_set {s s' : ChatSession} (hfiles : Files db db₁)
    (hs : db.chatSessions.lookup ctx.chatSessionId = some s) (hstatus : s'.status = .escalated)
    (hhanded : HandedOff s') :
    HandsOff ctx { db₁ with chatSessions := db₁.chatSessions.modify ctx.chatSessionId fun _ => s' } := by
  refine ⟨s', ?_, hstatus, hhanded⟩
  show (db₁.chatSessions.modify ctx.chatSessionId fun _ => s').lookup ctx.chatSessionId = some s'
  rw [hfiles.chatSessions, Table.lookup_modify_self, hs, Option.map_some]

/-! ## The tools

One lemma for each tool that writes the session. The link is only ever set, and `escalate_to_human` puts in a time
where the row that it has read has none. -/

theorem progresses_createTicket (title description : Json) :
    Tx.Does (Progresses ctx) (createTicket env ctx d title description) := by
  apply Tx.Does.bind Tx.Does.store
  intro db₀ db
  rw [Tx.wp_bind]
  apply (looksUp_getOr404 _ _ _ _).wp _ fun _ _ => trivial
  intro chatSession hget
  obtain ⟨-, hs, -⟩ := getOr404_ok.mp hget
  split
  · rw [Tx.wp_bind]
    apply (looksUp_argumentText _).wp _ fun _ _ => trivial
    intro title _
    rw [Tx.wp_bind]
    apply (looksUp_asNullableText _).wp _ fun _ _ => trivial
    intro description _
    rw [Tx.wp_bind]
    apply Tx.wp_mono (files_createTicket db) _ fun _ _ => trivial
    intro ticket db₁ hcreated
    rw [Tx.wp_bind]
    apply Tx.wp_mono (files_copyChatMessagesToTicket d.messageIds d.ticketId db₁) _ fun _ _ => trivial
    intro _ db₂ hcopied
    rw [Tx.wp_bind, wp_raiseConstraint]
    refine ⟨fun linked hlink => ?_, fun _ _ => trivial⟩
    rw [Tx.wp_bind, setChatSession, Tx.wp_bind, Tx.wp_store, Tx.wp_write, Tx.wp_pure]
    exact progresses_set (IsTrans.trans _ _ _ hcreated hcopied) hs (progress_link hlink)
  · exact Tx.Does.pure _ db

theorem progresses_addMessage (id ticketId : Uuid) (authorType : AuthorType) (content : String) :
    Tx.Does (Progresses ctx) (addMessage id ticketId authorType content) :=
  (files_addMessage _ _ _ _).mono fun _ _ h => progresses_of_eq h.chatSessions

theorem progresses_scheduleVisit (ticketId preferredDate notes : Json) :
    Tx.Does (Progresses ctx) (scheduleVisit env ctx d ticketId preferredDate notes) := by
  apply Tx.Does.bind (looksUp_getOr404 _ _ _ _).does
  intro chatSession
  split
  · exact Tx.Does.pure _
  · apply Tx.Does.bind (looksUp_visitTicketId _).does
    intro ticketId
    split
    · exact Tx.Does.pure _
    · apply Tx.Does.ite (Tx.Does.pure _)
      apply Tx.Does.bind (looksUp_getOr404 _ _ _ _).does
      intro ticket
      apply Tx.Does.bind (looksUp_argumentText _).does
      intro content
      exact Tx.Does.bind (progresses_addMessage _ _ _ _) fun _ => Tx.Does.pure _

/-- The ticket to escalate, and the row of a session that has one. -/
theorem wp_escalationTicket_progress {reason : Json} {s : ChatSession} :
    Tx.wp (escalationTicket env ctx d reason s)
      (fun r db' => Files db db' ∧ TurnProgress s r.2 ∧ r.2.ticketId ≠ none) (fun _ => True) db := by
  unfold escalationTicket
  split
  next ticketId hticket =>
    rw [Tx.wp_pure]
    exact ⟨Std.Refl.refl db, Std.Refl.refl s, by simp [hticket]⟩
  · rw [Tx.wp_bind, Tx.wp_store, Tx.wp_bind]
    apply (looksUp_asNullableText _).wp _ fun _ _ => trivial
    intro reason _
    rw [Tx.wp_bind]
    apply Tx.wp_mono (files_createTicket db) _ fun _ _ => trivial
    intro ticket db₁ hcreated
    rw [Tx.wp_bind, wp_raiseConstraint]
    refine ⟨fun linked hlink => ?_, fun _ _ => trivial⟩
    rw [Tx.wp_pure]
    obtain ⟨-, -, hticket⟩ := Channels.link_ok hlink
    exact ⟨hcreated, progress_link hlink, by simp [hticket]⟩

/-- **`escalate_to_human`** leaves the session in the hands of a human, with a ticket or anonymous. -/
theorem wp_escalateToHuman (reason : Json) :
    Tx.wp (escalateToHuman env ctx d reason) (fun _ db' => Progresses ctx db db' ∧ HandsOff ctx db')
      (fun _ => True) db := by
  unfold escalateToHuman
  rw [Tx.wp_bind]
  apply (looksUp_getOr404 _ _ _ _).wp _ fun _ _ => trivial
  intro s hget
  obtain ⟨-, hs, -⟩ := getOr404_ok.mp hget
  dsimp only
  split
  next hanonymous =>
    rw [Tx.wp_bind, setChatSession, Tx.wp_bind, Tx.wp_store, Tx.wp_write, Tx.wp_pure]
    have hlinked : s.userId ≠ none → s.ticketId ≠ none := absurd hanonymous
    exact ⟨progresses_set (Std.Refl.refl db) hs (progress_escalate (Std.Refl.refl _) hlinked),
      handsOff_set (Std.Refl.refl db) hs rfl (handedOff_escalate (Std.Refl.refl _) hlinked)⟩
  · rw [Tx.wp_bind]
    apply Tx.wp_mono wp_escalationTicket_progress _ fun _ _ => trivial
    rintro ⟨ticketId, linked⟩ db₁ ⟨hfiled, hprogress, hlinked⟩
    dsimp only at hprogress hlinked ⊢
    rw [Tx.wp_bind]
    apply (looksUp_getOr404 _ _ _ _).wp _ fun _ _ => trivial
    intro ticket _
    rw [Tx.wp_bind]
    apply Tx.wp_mono (files_flushTicket _ _ _ db₁) _ fun _ _ => trivial
    intro row db₂ hflushed
    rw [Tx.wp_bind, setChatSession, Tx.wp_bind, Tx.wp_store, Tx.wp_write, Tx.wp_pure]
    have hfiles : Files db db₂ := IsTrans.trans _ _ _ hfiled hflushed
    exact ⟨progresses_set hfiles hs (progress_escalate hprogress fun _ => hlinked),
      handsOff_set hfiles hs rfl (handedOff_escalate hprogress fun _ => hlinked)⟩

theorem progresses_escalateToHuman (reason : Json) :
    Tx.Does (Progresses ctx) (escalateToHuman env ctx d reason) :=
  fun _ => Tx.wp_mono (wp_escalateToHuman reason) (fun _ _ h => h.1) fun _ _ => trivial

theorem progresses_callTool (name : String) (args : JsonObject) :
    Tx.Does (Progresses ctx) (callTool env ctx d name args) := by
  unfold callTool
  apply Tx.Does.ite
  · apply Tx.Does.bind (ToolRule.bindArguments _ _ _)
    intro values
    split
    · exact ToolRule.checkTicketStatus _
    · exact Tx.Does.raise _
  apply Tx.Does.ite
  · apply Tx.Does.bind (ToolRule.bindArguments _ _ _)
    intro values
    split
    · exact progresses_createTicket _ _
    · exact Tx.Does.raise _
  apply Tx.Does.ite
  · apply Tx.Does.bind (ToolRule.bindArguments _ _ _)
    intro values
    split
    · exact progresses_scheduleVisit _ _ _
    · exact Tx.Does.raise _
  apply Tx.Does.ite _ (Tx.Does.raise _)
  apply Tx.Does.bind (ToolRule.bindArguments _ _ _)
  intro values
  split
  · exact progresses_escalateToHuman _
  · exact Tx.Does.raise _

/-! ## The parts of a turn

Besides the tools a turn writes the streak, and may escalate by itself. Of that escalation it is also known what it
leaves: `wp_closeTurn_handsOff`. -/

theorem progresses_addChatMessage (id : Uuid) (createdAt : Int) (role : ChatMessageRole) (content : String)
    (toolName toolCallId : Option String) :
    Tx.Does (Progresses ctx) (addChatMessage ctx id createdAt role content toolName toolCallId) :=
  (Channels.does_addChatMessage _ _ _ _ _ _).mono fun _ _ h => progresses_of_eq h.chatSessions

theorem progresses_openTurn (o : OpenDraws) (content : String) (excerpts : List String) :
    Tx.Does (Progresses ctx) (openTurn settings ctx o content excerpts) := by
  apply Tx.Does.bind (looksUp_getOr404 _ _ _ _).does
  intro _
  apply Tx.Does.bind (progresses_addChatMessage _ _ _ _ _ _)
  intro _
  exact Tx.Does.bind Tx.Does.store fun _ => Tx.Does.pure _

/-- **A tool call** -/
theorem progresses_runToolCall (createdAt : Int) (rowId : Uuid) (call : ToolCall) :
    Tx.Does (Progresses ctx) (runToolCall env ctx createdAt rowId d call) := by
  apply Tx.Does.bind (Tx.Does.orRaise _ _)
  intro args
  apply Tx.Does.ite _ (Tx.Does.raise _)
  apply Tx.Does.bind
  · cases args with
    | obj items => exact Tx.Does.pure _
    | _ => exact Tx.Does.raise _
  intro items
  apply Tx.Does.bind (progresses_callTool _ _)
  intro result
  exact Tx.Does.bind (progresses_addChatMessage _ _ _ _ _ _) fun _ => Tx.Does.pure _

/-- Columns of the row that have nothing to do with the hand-off are written. -/
theorem progresses_update {α : Type} {f : ChatSession → ChatSession} {k : ChatSession → Service α}
    (hf : ∀ s, TurnProgress s (f s)) (hk : ∀ s, Tx.Does (Progresses ctx) (k s)) :
    Tx.Does (Progresses ctx) (do
      let chatSession ← getChatSession ctx
      setChatSession ctx (f chatSession)
      k chatSession) :=
  Channels.does_updateChatSession (fun db s hs => progresses_set (Std.Refl.refl db) hs (hf s)) hk

theorem progresses_escalateAutomatically : Tx.Does (Progresses ctx) (escalateAutomatically env ctx d) := by
  apply Tx.Does.bind (looksUp_getOr404 _ _ _ _).does
  intro chatSession
  apply Tx.Does.ite _ (Tx.Does.pure _)
  apply Tx.Does.bind (progresses_escalateToHuman _)
  intro result
  apply progresses_update (f := fun s => { s with lowConfidenceStreak := 0 })
    fun _ => progress_of_eq rfl rfl rfl rfl
  intro escalated
  split
  · exact Tx.Does.bind (Tx.Does.orRaise _ _) fun _ => Tx.Does.pure _
  · exact Tx.Does.pure _

/-- Where the automatic escalation fires, it hands off. -/
theorem wp_escalateAutomatically_handsOff :
    Tx.wp (escalateAutomatically env ctx d) (fun r db' => r.1 = true → HandsOff ctx db') (fun _ => True) db := by
  unfold escalateAutomatically
  rw [Tx.wp_bind]
  apply (looksUp_getOr404 _ _ _ _).wp _ fun _ _ => trivial
  intro chatSession _
  rw [Tx.wp_ite]
  constructor
  · intro _
    rw [Tx.wp_bind]
    apply Tx.wp_mono (wp_escalateToHuman _) _ fun _ _ => trivial
    rintro result db₁ ⟨-, hhanded⟩
    -- the streak starts again from zero
    suffices hrest : Tx.Does (Progresses ctx) _ from
      Tx.wp_mono (hrest db₁) (fun _ _ h _ => hhanded.progress h) fun _ _ => trivial
    apply progresses_update (f := fun s => { s with lowConfidenceStreak := 0 })
      fun _ => progress_of_eq rfl rfl rfl rfl
    intro escalated
    split
    · exact Tx.Does.bind (Tx.Does.orRaise _ _) fun _ => Tx.Does.pure _
    · exact Tx.Does.pure _
  · intro _
    rw [Tx.wp_pure]
    exact nofun

/-- **Closing** a turn -/
theorem progresses_closeTurn (createdAt : Int) (d : ReplyDraws) (replyText : String) (lowConfidence : Bool)
    (toolsUsed : List String) :
    Tx.Does (Progresses ctx) (closeTurn env ctx createdAt d replyText lowConfidence toolsUsed) := by
  apply Tx.Does.bind (progresses_addChatMessage _ _ _ _ _ _)
  intro _
  apply progresses_update (f := fun s =>
      { s with lowConfidenceStreak := if lowConfidence then s.lowConfidenceStreak + 1 else 0 })
    fun _ => progress_of_eq rfl rfl rfl rfl
  intro _
  apply Tx.Does.bind progresses_escalateAutomatically
  intro _
  exact progresses_update (f := fun s => { s with lastActivityAt := d.now })
    (fun _ => progress_of_eq rfl rfl rfl rfl) fun _ => Tx.Does.pure _

/-- A turn that has escalated leaves the session handed off. -/
theorem wp_closeTurn_handsOff (createdAt : Int) (d : ReplyDraws) (replyText : String) (lowConfidence : Bool)
    (toolsUsed : List String) :
    Tx.wp (closeTurn env ctx createdAt d replyText lowConfidence toolsUsed)
      (fun result db' => result.escalated = true → HandsOff ctx db') (fun _ => True) db := by
  unfold closeTurn
  rw [Tx.wp_bind]
  apply Tx.wp_mono (progresses_addChatMessage _ _ _ _ _ _ db) _ fun _ _ => trivial
  intro _ db₁ _
  rw [Tx.wp_bind]
  apply (looksUp_getOr404 _ _ _ _).wp _ fun _ _ => trivial
  intro chatSession _
  rw [Tx.wp_bind, setChatSession, Tx.wp_bind, Tx.wp_store, Tx.wp_write, Tx.wp_bind]
  apply Tx.wp_mono wp_escalateAutomatically_handsOff _ fun _ _ => trivial
  rintro ⟨escalated, ticketId⟩ db₂ hhanded
  rw [Tx.wp_bind]
  apply (looksUp_getOr404 _ _ _ _).wp _ fun _ _ => trivial
  intro chatSession hget
  obtain ⟨-, hs, -⟩ := getOr404_ok.mp hget
  rw [Tx.wp_bind, setChatSession, Tx.wp_bind, Tx.wp_store, Tx.wp_write, Tx.wp_pure]
  intro hescalated
  exact (hhanded hescalated).progress
    (progresses_set (Std.Refl.refl db₂) hs (progress_of_eq rfl rfl rfl rfl))

end

end Helpdesk.Chat
