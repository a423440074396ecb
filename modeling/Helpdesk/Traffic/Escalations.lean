import Helpdesk.Chat.Acts
import Helpdesk.Traffic.Answers
import Helpdesk.Traffic.Bookkeeping

/-! # Hand-offs, whatever overlaps

A turn decides on what it has loaded, and it may take several calls to the model until it commits. What
holds of the hand-offs in every run, without a condition on how the turns overlap:

* **`filedApart_of_run`**: a turn files one ticket at most with `escalate_to_human`, and of two turns on
  one session that have both filed one, the later to commit began before the earlier had committed;
* `HandOffFinal`: a session is handed off at most once, stays `escalated`, and has a time and, if it is
  identified, a ticket. -/

namespace Helpdesk.Traffic

open Chat WhatsApp UnitOfWork

/-! ## The laws

`FiledApart` is about the tickets that turns have filed with `escalate_to_human`, and looks at nothing but the
history. `HandOffFinal` looks at the stored sessions. -/

/-- The tickets that `escalate_to_human` has created for a session. -/
def Commit.filedOn (c : Commit) (id : Uuid) : List Uuid :=
  c.turns.flatMap fun t => if t.ctx.chatSessionId = id then t.filed else []

/-- Turns that have both filed a ticket for a session have overlapped. -/
structure FiledApart (s : Shared) : Prop where
  one : ∀ c ∈ s.history, ∀ id, (c.filedOn id).length ≤ 1
  overlap : ∀ id i j (earlier later : Commit), i < j → s.history[i]? = some earlier →
    s.history[j]? = some later → earlier.filedOn id ≠ [] → later.filedOn id ≠ [] →
      ∃ begun, later.transaction.begun = some begun ∧ begun ≤ i

/-- Sessions are handed off for good. -/
structure HandOffFinal (s : Shared) : Prop where
  once : (s.escalatedSince 0).Nodup
  final : ∀ id ∈ s.escalatedSince 0, ∃ x, s.db.chatSessions.lookup id = some x ∧
    x.status = .escalated ∧ HandedOff x

/-! ## The rows

Each column of a session that matters here only ever goes one way: from no ticket to one, from no time to
one, from another status to `escalated`. `Progress` says so, and it survives a write-back: a column that has
not been assigned is taken from the stored row, and one that has been assigned is set. -/

/-- An escalated session has been handed off. -/
def Standing (s : ChatSession) : Prop := s.status = .escalated → HandedOff s

section
variable {env : Env} {settings : Settings} {s : Shared} {t : Transaction} {own : Work} {db after : Db}

theorem Standing.progress (a a' : ChatSession) (h : Standing a) (hprogress : Progress a a') : Standing a' := by
  intro hstatus
  rcases hprogress.status with hsame | ⟨-, hhanded⟩
  · exact (h (hsame.symm.trans hstatus)).progress hprogress
  · exact hhanded

/-- A value that is never taken back is not taken back by the write either. -/
theorem flushAttr_ne_none {α : Type} [DecidableEq α] {loaded current stored : Option α}
    (hcurrent : loaded ≠ none → current ≠ none) (hstored : stored ≠ none) :
    WriteBack.flushAttr loaded current stored ≠ none := by
  unfold WriteBack.flushAttr
  split
  · exact hstored
  next hne =>
    intro hnone
    rw [hnone] at hne
    exact hcurrent (Ne.symm hne) hnone

/-- A value that has been put in is there after the write. -/
theorem flushAttr_ne_none_of_current {α : Type} [DecidableEq α] {loaded current stored : Option α}
    (hcurrent : current ≠ none) (hstored : loaded ≠ none → stored ≠ none) :
    WriteBack.flushAttr loaded current stored ≠ none := by
  unfold WriteBack.flushAttr
  split
  next heq => exact hstored (by rwa [← heq])
  · exact hcurrent

/-- **The merge** takes a session where it may go, whatever others have made of it. -/
theorem mergeGrows_progress : MergeGrows ChatSession.merge Progress := by
  intro loaded current stored a hcurrent hstored hmerge
  obtain ⟨-, hticket⟩ := Work.merge_ok hmerge
  unfold ChatSession.merge at hmerge
  dsimp only at hmerge
  split at hmerge
  swap
  · cases hmerge
  cases hmerge
  have huser : WriteBack.flushAttr loaded.userId current.userId stored.userId = stored.userId := by
    rw [hcurrent.userId, WriteBack.flushAttr_unassigned]
  refine ⟨huser, fun hlinked => flushAttr_ne_none hcurrent.linked hlinked,
    fun hstamp => flushAttr_ne_none hcurrent.stamped hstamp, ?_⟩
  show WriteBack.flushAttr loaded.status current.status stored.status = _ ∨
    WriteBack.flushAttr loaded.status current.status stored.status = _ ∧ _
  rcases hcurrent.status with hsame | ⟨hstatus, hhanded⟩
  · rw [hsame, WriteBack.flushAttr_unassigned]
    exact .inl rfl
  · by_cases heq : current.status = loaded.status
    · rw [heq, WriteBack.flushAttr_unassigned]
      exact .inl rfl
    · rw [WriteBack.flushAttr, if_neg heq]
      refine .inr ⟨hstatus, flushAttr_ne_none_of_current hhanded.stamped hstored.stamped, fun hidentified => ?_⟩
      refine flushAttr_ne_none_of_current (hhanded.linked ?_) hstored.linked
      rw [hcurrent.userId, ← hstored.userId]
      rwa [← huser]

/-- Deliveries and replies leave the hand-off of a session alone. -/
structure SameHandOff (x x' : ChatSession) : Prop where
  userId : x'.userId = x.userId
  columns : handOff x' = handOff x

instance : Std.Refl SameHandOff := ⟨fun _ => ⟨rfl, rfl⟩⟩

instance : IsTrans ChatSession SameHandOff where
  trans _ _ _ h h' := ⟨h'.userId.trans h.userId, h'.columns.trans h.columns⟩

theorem SameHandOff.progress {x x' : ChatSession} (h : SameHandOff x x') : Progress x x' :=
  (progress_of_eq h.userId (congrArg HandOff.ticketId h.columns) (congrArg HandOff.escalatedAt h.columns)
    (congrArg HandOff.status h.columns)).toProgress

/-- **An ingestion** leaves the hand-offs alone, and a session that it starts has none. -/
theorem sameHandOff_ingest {organizationId : Uuid} {inbound : Inbound} {d : IngestDraws}
    {result : WhatsAppIngestionResult} (h : Records settings.whatsapp organizationId inbound d db after result) :
    Grows SameHandOff db.chatSessions after.chatSessions ∧
      UnitOfWork.Adds (fun x => handOff x = .opened) db.chatSessions after.chatSessions := by
  cases h with
  | nothing _ hsessions => exact ⟨Grows.of_eq hsessions, Adds.of_eq hsessions⟩
  | @goesOn waId id existing _ _ _ _ hreuses _ hsessions _ =>
    have hexisting := (findExistingSession_some hreuses.found.1).1
    rw [hsessions]
    refine ⟨Grows.modify fun x hx => ?_, Adds.modify⟩
    obtain rfl := Option.some.inj (hexisting.symm.trans hx)
    exact ⟨rfl, rfl⟩
  | starts profileName scope _ _ _ _ _ hfresh hsessions _ =>
    rw [hsessions]
    exact ⟨Grows.insert hfresh, Adds.insert rfl⟩

/-- **A reply** that is deferred -/
theorem sameHandOff_defer {chatSessionId : Uuid} {entry : String}
    (h : Tx.exec (recordDeferredReply chatSessionId entry) db = (.ok (), after)) :
    Grows SameHandOff db.chatSessions after.chatSessions ∧
      UnitOfWork.Adds (fun _ => False) db.chatSessions after.chatSessions := by
  cases h
  exact ⟨Grows.modify fun x _ => ⟨rfl, rfl⟩, Adds.modify⟩

/-- The sessions of a transaction. -/
abbrev SessionsGrown (own : Work) (db : Db) : Prop := Grown Progress Standing own.chatSessions db.chatSessions

theorem SessionsGrown.progresses {ctx : ToolContext} (h : SessionsGrown own db)
    (hprogresses : Progresses ctx (own.view db) after) : SessionsGrown (own.track db after) db :=
  Grown.track h Standing.progress hprogresses.grows fun id x hnone hx => (hprogresses.adds id x hnone hx).elim

theorem SessionsGrown.ingest {organizationId : Uuid} {inbound : Inbound} {d : IngestDraws}
    {result : WhatsAppIngestionResult} (h : SessionsGrown own db)
    (hrecords : Records settings.whatsapp organizationId inbound d (own.view db) after result) :
    SessionsGrown (own.track db after) db := by
  obtain ⟨hgrows, hadds⟩ := sameHandOff_ingest hrecords
  refine Grown.track h Standing.progress (hgrows.mono fun _ _ hsame => hsame.progress) fun id x hnone hx hstatus => ?_
  have hactive : x.status = .active := congrArg HandOff.status (hadds id x hnone hx)
  rw [hactive] at hstatus
  cases hstatus

theorem SessionsGrown.defer {chatSessionId : Uuid} {entry : String} (h : SessionsGrown own db)
    (hexec : Tx.exec (recordDeferredReply chatSessionId entry) (own.view db) = (.ok (), after)) :
    SessionsGrown (own.track db after) db := by
  obtain ⟨hgrows, hadds⟩ := sameHandOff_defer hexec
  exact Grown.track h Standing.progress (hgrows.mono fun _ _ hsame => hsame.progress)
    fun id x hnone hx => (hadds id x hnone hx).elim

/-! ## The tickets that a turn files

The tickets of a part of a turn are those that are there after it and were not before. The list has no
repetitions, so one that is made of one ticket is no longer than one. -/

/-- The tickets that a part of a transaction creates. -/
theorem mem_newTickets {id : Uuid} (h : id ∈ newTickets own (own.track db after)) :
    (own.view db).tickets.lookup id = none ∧ after.tickets.lookup id ≠ none := by
  obtain ⟨entry, hentry, rfl⟩ := List.mem_map.mp h
  obtain ⟨hmem, hnew⟩ := List.mem_filter.mp hentry
  simp only [Bool.and_eq_true, Option.isNone_iff_eq_none] at hnew
  have hrow : (UnitOfWork.track own.tickets db.tickets after.tickets).lookup entry.1 = some entry.2 :=
    Table.mem_entries.mp hmem
  have hview : (UnitOfWork.view own.tickets db.tickets).lookup entry.1 = none := by
    rcases of_lookup_track hrow with ⟨row₀, hown, -⟩ | ⟨-, hloaded⟩
    · rw [hnew.2] at hown
      cases hown
    · exact (lookup_view_of_none hnew.2).trans (hloaded.symm.trans hnew.1)
  refine ⟨hview, fun hnone => ?_⟩
  rw [lookup_track, if_pos (hnone.trans hview.symm), hnew.2] at hrow
  cases hrow

theorem nodup_newTickets (before after : Work) : (newTickets before after).Nodup :=
  List.Nodup.sublist (List.Sublist.map _ List.filter_sublist) after.tickets.nodupKeys

/-! ## The invariants

What makes the second claim hard is that a turn may commit long after it has read its session. `Filing` keeps
both ends: what the session was when the turn began, by the number of commits at that time, and what the turn
has made of it since. -/

/-- A turn that began after `begun` commits has loaded its session. If that had no ticket, none had been
    filed for it by then; and what the turn has filed itself is one ticket, which the session has now. -/
structure Filing (s : Shared) (ctx : ToolContext) (begun : Nat) (own : Work) (filed : List Uuid) : Prop where
  past : begun ≤ s.history.length
  one : filed.length ≤ 1
  row : ∃ row loaded, own.chatSessions.lookup ctx.chatSessionId = some row ∧ row.loaded = some loaded ∧
    (loaded.ticketId = none → ∀ c ∈ s.history.take begun, c.filedOn ctx.chatSessionId = []) ∧
    (filed ≠ [] → loaded.ticketId = none ∧ row.current.ticketId ≠ none)

/-- What holds of an open transaction. -/
structure Escalating (s : Shared) (t : Transaction) : Prop where
  sessions : SessionsGrown t.own s.db
  turn : ∀ u, t = .turn u → Filing s u.ctx u.begun u.own u.filed

/-- What holds of the commits. -/
structure HandOffs (s : Shared) : Prop where
  apart : FiledApart s
  final : HandOffFinal s
  linked : ∀ c ∈ s.history, ∀ id, c.filedOn id ≠ [] →
    ∃ x, s.db.chatSessions.lookup id = some x ∧ x.ticketId ≠ none

section
variable {ctx : ToolContext} {begun : Nat} {filed : List Uuid}

/-- A part of a turn that files no ticket. -/
theorem Filing.keeps (h : Filing s ctx begun own filed) (hprogresses : Progresses ctx (own.view s.db) after) :
    Filing s ctx begun (own.track s.db after) filed := by
  obtain ⟨row, loaded, hown, hloaded, hunfiled, hfiled⟩ := h.row
  obtain ⟨x, hx, hprogress⟩ := hprogresses.grows _ _ (lookup_view_of_own hown)
  exact ⟨h.past, h.one, ⟨row.loaded, x⟩, loaded, lookup_track_of_own hown hx, hloaded, hunfiled,
    fun hne => ⟨(hfiled hne).1, hprogress.linked (hfiled hne).2⟩⟩

/-- **A part of a turn** that may file a ticket. -/
theorem Filing.files {ticketId : Uuid} (h : Filing s ctx begun own filed) (hsessions : SessionsGrown own s.db)
    (hprogresses : Progresses ctx (own.view s.db) after)
    (hcreated : ∀ id, (own.view s.db).tickets.lookup id = none → after.tickets.lookup id ≠ none →
      id = ticketId ∧ Unlinked ctx (own.view s.db) ∧ Linked ctx after) :
    Filing s ctx begun (own.track s.db after) (filed ++ newTickets own (own.track s.db after)) := by
  by_cases hnone : newTickets own (own.track s.db after) = []
  · rw [hnone, List.append_nil]
    exact h.keeps hprogresses
  obtain ⟨row, loaded, hown, hloaded, hunfiled, hfiled⟩ := h.row
  have hview : (own.view s.db).chatSessions.lookup ctx.chatSessionId = some row.current := lookup_view_of_own hown
  have hnew : ∀ id ∈ newTickets own (own.track s.db after),
      id = ticketId ∧ Unlinked ctx (own.view s.db) ∧ Linked ctx after := by
    intro id hid
    obtain ⟨hbefore, hafter⟩ := mem_newTickets hid
    exact hcreated id hbefore hafter
  -- there is a new ticket: the tool found no ticket on the session, and left one
  obtain ⟨id, hid⟩ := List.exists_mem_of_ne_nil _ hnone
  obtain ⟨-, ⟨y, hy, hunlinked⟩, x, hx, hlinked⟩ := hnew id hid
  obtain rfl := Option.some.inj (hview.symm.trans hy)
  -- the session had no ticket yet, so the turn has filed none
  have hfirst : filed = [] := by
    by_contra hne
    exact (hfiled hne).2 hunlinked
  refine ⟨h.past, ?_, ⟨row.loaded, x⟩, loaded, lookup_track_of_own hown hx, hloaded, hunfiled, fun _ => ⟨?_, hlinked⟩⟩
  · -- all the new tickets are the one that the tool has been given an id for
    rw [hfirst, List.nil_append]
    exact length_le_one (nodup_newTickets _ _) fun a ha b hb => (hnew a ha).1.trans (hnew b hb).1.symm
  · -- a session that was loaded with a ticket still has one
    by_contra hloadedLinked
    exact (hsessions.current _ row loaded hown hloaded).linked hloadedLinked hunlinked

/-- A turn that begins. -/
theorem filing_start (hI : HandOffs s) {x : ChatSession} (hx : s.db.chatSessions.lookup ctx.chatSessionId = some x) :
    Filing s ctx s.history.length (Work.empty.loadSession s.db ctx.chatSessionId) [] := by
  refine ⟨Nat.le_refl _, Nat.zero_le _, ⟨some x, x⟩, x, ?_, rfl, fun hunlinked c hc => ?_, fun hne => absurd rfl hne⟩
  · show (UnitOfWork.load _ _ _).lookup _ = _
    rw [lookup_load, if_pos rfl, hx]
    rfl
  · -- whoever has filed a ticket has linked it, and links stay
    by_contra hfiled
    rw [List.take_length] at hc
    obtain ⟨y, hy, hlinked⟩ := hI.linked c hc _ hfiled
    obtain rfl := Option.some.inj (hx.symm.trans hy)
    exact hlinked hunlinked

end

theorem escalating_empty (h : t.own = .empty) (hturn : ∀ u, t ≠ .turn u) : Escalating s t := by
  refine ⟨?_, fun u heq => absurd heq (hturn u)⟩
  rw [h]
  exact grown_empty _

/-- The session of a turn that has been opened is stored. -/
theorem lookup_of_openTurn {ctx : ToolContext} {o : OpenDraws} {content : String} {excerpts : List String}
    {offered : List OpenaiMessage × List String}
    (h : Tx.exec (openTurn settings.chat ctx o content excerpts) db = (.ok offered, after)) :
    ∃ x, db.chatSessions.lookup ctx.chatSessionId = some x := by
  obtain ⟨_, _, hget, -⟩ := Tx.bind_ok.mp h
  obtain ⟨-, hx, -⟩ := getOr404_ok.mp hget
  exact ⟨_, hx⟩

theorem Begins.escalating {ctx : ToolContext} {job : Option ProcessJob} {content : String} {o : OpenDraws}
    {excerpts : List String} (hI : HandOffs s) (h : Begins settings s ctx job content o excerpts t) :
    Escalating s t := by
  obtain ⟨offered, own, hexec, rfl⟩ := h
  obtain ⟨after, hok, rfl⟩ := Work.exec_ok hexec
  obtain ⟨x, hx⟩ := lookup_of_openTurn hok
  rw [Work.lookup_view_loadSession, Work.lookup_view_empty] at hx
  have hprogresses : Progresses ctx ((Work.empty.loadSession s.db ctx.chatSessionId).view s.db) after :=
    (progresses_openTurn _ _ _).of_ok hok
  refine ⟨SessionsGrown.progresses ((grown_empty _).load _) hprogresses, ?_⟩
  rintro _ ⟨⟩
  exact (filing_start hI hx).keeps hprogresses

/-- **What each event keeps.** -/
theorem escalating_next {e : Event} {t' : Transaction} (hnext : Next env settings s e t t') (hI : HandOffs s)
    (h : Escalating s t) : Escalating s t' := by
  cases hnext with
  | stays => exact h
  | ends => exact escalating_empty rfl (by simp)
  | receives => exact escalating_empty rfl (by simp)
  -- a delivery files nothing; its row of the session grows
  | @takes δ inbound rest d result own hpending hexec =>
    obtain ⟨after, hok, rfl⟩ := Work.exec_ok hexec
    have hload : SessionsGrown (δ.load s inbound d) s.db := by
      unfold Delivery.load
      split
      · split
        · exact Grown.load h.sessions _
        · exact h.sessions
      · exact h.sessions
    exact ⟨hload.ingest (records_of_ok hok), by simp⟩
  | skips => exact ⟨h.sessions, by simp⟩
  | posts _ hbegins => exact hbegins.escalating hI
  | processes _ _ hbegins => exact hbegins.escalating hI
  | @asks u =>
    refine ⟨h.sessions, ?_⟩
    rintro _ ⟨⟩
    exact h.turn u rfl
  | @closes u completion d result own _ hexec =>
    obtain ⟨after, hok, rfl⟩ := Work.exec_ok hexec
    have hprogresses : Progresses u.ctx (u.own.view s.db) after := (progresses_closeTurn _ _ _ _ _).of_ok hok
    refine ⟨h.sessions.progresses hprogresses, ?_⟩
    rintro _ ⟨⟩
    obtain ⟨db₁, ⟨row, -, -, -, rfl⟩, hescalates⟩ := closeTurn_ok hok
    exact (h.turn u rfl).files h.sessions hprogresses hescalates.created
  | @calls u call rest rowId d message own _ hexec =>
    obtain ⟨after, hok, rfl⟩ := Work.exec_ok hexec
    have hprogresses : Progresses u.ctx (u.own.view s.db) after := (progresses_runToolCall _ _ _).of_ok hok
    refine ⟨h.sessions.progresses hprogresses, ?_⟩
    rintro _ ⟨⟩
    obtain ⟨db₁, -, hescalates, row, -, -, -, rfl⟩ := runToolCall_ok hok
    dsimp only
    split
    -- only this tool counts as filing
    next hname => exact (h.turn u rfl).files h.sessions hprogresses (hescalates hname).created
    · rw [List.append_nil]
      exact (h.turn u rfl).keeps hprogresses
  | sends => exact ⟨(grown_empty _).load _, by simp⟩
  | @sendsLate _ _ _ reply _ entry own _ _ hexec =>
    obtain ⟨after, hok, rfl⟩ := Work.exec_ok hexec
    exact ⟨SessionsGrown.defer ((grown_empty _).load _) hok, by simp⟩
  | @defers σ _ _ entry own _ hexec =>
    obtain ⟨after, hok, rfl⟩ := Work.exec_ok hexec
    exact ⟨h.sessions.defer hok, by simp⟩
  | @opens _ _ id _ token own hexec =>
    obtain ⟨after, hok, rfl⟩ := Work.exec_ok hexec
    obtain ⟨_, _, _, _, _, hfresh, rfl⟩ := createChatSession_ok hok
    refine ⟨Grown.track (grown_empty _) Standing.progress (Grows.insert hfresh) (Adds.insert fun hstatus => ?_),
      by simp⟩
    cases hstatus

/-! ## The commits

A commit appends to the history. Of two filings in it, the later one is either old or the one that commits
now; in the second case the turn began before the other had been committed, since it has read a session
without a ticket. -/

/-- Only a turn on the session files a ticket for it. -/
theorem filedOn_eq (c : Commit) (id : Uuid) :
    c.filedOn id = [] ∨ ∃ u, c.transaction = .turn u ∧ u.ctx.chatSessionId = id ∧ c.filedOn id = u.filed := by
  obtain ⟨transaction, escalated⟩ := c
  cases transaction with
  | turn u =>
    by_cases heq : u.ctx.chatSessionId = id
    · exact .inr ⟨u, rfl, heq, by simp [Commit.filedOn, Commit.turns, heq]⟩
    · exact .inl (by simp [Commit.filedOn, Commit.turns, heq])
  | _ => exact .inl rfl

/-- Others may commit. -/
theorem Escalating.committed {t' : Transaction} (h : Escalating s t')
    (hgrows : Grows Progress s.db.chatSessions after.chatSessions) : Escalating (s.committed t after) t' := by
  refine ⟨Grown.grows h.sessions hgrows, fun u hu => ?_⟩
  obtain ⟨hpast, hone, row, loaded, hown, hloaded, hunfiled, hfiled⟩ := h.turn u hu
  refine ⟨?_, hone, row, loaded, hown, hloaded, fun hnone => ?_, hfiled⟩
  · simp only [Shared.committed, List.length_append, List.length_singleton]
    omega
  · rw [Shared.committed, List.take_append_of_le_length hpast]
    exact hunfiled hnone

/-- A turn that has filed a ticket and commits it. -/
theorem linked_committed {u : OpenTurn} (ht : Escalating s (.turn u))
    (hcommit : u.own.commit s.db env.toEnv = some after) (hfiled : u.filed ≠ []) :
    ∃ x, after.chatSessions.lookup u.ctx.chatSessionId = some x ∧ x.ticketId ≠ none := by
  obtain ⟨row, loaded, hown, hloaded, -, hticket⟩ := (ht.turn u rfl).row
  obtain ⟨hnone, hlinked⟩ := hticket hfiled
  -- the row has been loaded, so it is merged with what is stored
  rcases lookup_commit_own (Work.commit_ok hcommit).1 hown with
    ⟨hinserted, -⟩ | ⟨loaded', stored, merged, hloaded', -, hmerge, hafter⟩
  · rw [hloaded] at hinserted
    cases hinserted
  · obtain rfl := Option.some.inj (hloaded.symm.trans hloaded')
    refine ⟨merged, hafter, ?_⟩
    rw [(Work.merge_ok hmerge).2]
    exact flushAttr_ne_none_of_current hlinked fun hne => absurd hnone hne

theorem escalatedSince_zero : (s.committed t after).escalatedSince 0 = s.escalatedSince 0 ++ s.newlyEscalated after :=
  escalatedSince_committed after (Nat.zero_le _)

/-- The sessions that a commit has escalated are new ones. -/
theorem HandOffFinal.committed (h : HandOffFinal s) (ht : SessionsGrown own s.db)
    (hcommit : own.commit s.db env.toEnv = some after) : HandOffFinal (s.committed t after) := by
  have hsessions := (Work.commit_ok hcommit).1
  have hgrows := grows_commit mergeGrows_progress ht hsessions
  refine ⟨?_, fun id hid => ?_⟩
  · -- a session that is newly escalated was not so before
    rw [escalatedSince_zero, List.nodup_append]
    refine ⟨h.once, Table.select_keys_nodup _ _, fun id hid id' hid' => ?_⟩
    rintro rfl
    obtain ⟨x, hx, hstatus, -⟩ := h.final id hid
    exact isEscalated_eq_false.mp (mem_newlyEscalated.mp hid').2 x hx hstatus
  · -- it was escalated earlier, and lasts, or it is now, by a turn or on insertion
    rw [escalatedSince_zero] at hid
    show ∃ x, after.chatSessions.lookup id = some x ∧ _
    rcases List.mem_append.mp hid with hold | hnew
    · obtain ⟨x, hx, hstatus, hhanded⟩ := h.final id hold
      obtain ⟨x', hx', hprogress⟩ := hgrows id x hx
      refine ⟨x', hx', ?_, hhanded.progress hprogress⟩
      exact hprogress.status.elim (fun hsame => hsame.trans hstatus) (·.1)
    · obtain ⟨⟨x, hx, hstatus⟩, hbefore⟩ := mem_newlyEscalated.mp hnew
      refine ⟨x, hx, hstatus, ?_⟩
      cases hstored : s.db.chatSessions.lookup id with
      | none => exact adds_commit ht hsessions id x hstored hx hstatus
      | some y =>
        obtain ⟨x', hx', hprogress⟩ := hgrows id y hstored
        obtain rfl := Option.some.inj (hx.symm.trans hx')
        refine (hprogress.status.resolve_left fun hsame => ?_).2
        exact isEscalated_eq_false.mp hbefore y hstored (hsame.symm.trans hstatus)

/-- **A commit** keeps the laws. -/
theorem HandOffs.committed (h : HandOffs s) (ht : Escalating s t) (hready : t.ready = some own)
    (hcommit : own.commit s.db env.toEnv = some after) : HandOffs (s.committed t after) := by
  obtain rfl := ready_own hready
  have hgrows : Grows Progress s.db.chatSessions after.chatSessions :=
    grows_commit mergeGrows_progress ht.sessions (Work.commit_ok hcommit).1
  have hhistory : (s.committed t after).history = s.history ++ [⟨t, s.newlyEscalated after⟩] := rfl
  refine ⟨⟨fun c hc id => ?_, ?_⟩, h.final.committed ht.sessions hcommit, fun c hc id hfiled => ?_⟩
  · rw [hhistory] at hc
    rcases List.mem_append.mp hc with hc | hc
    · exact h.apart.one c hc id
    · obtain rfl := List.mem_singleton.mp hc
      rcases filedOn_eq ⟨t, s.newlyEscalated after⟩ id with hnone | ⟨u, hu, -, hfiled⟩
      · rw [hnone]
        exact Nat.zero_le _
      · rw [hfiled]
        exact (ht.turn u hu).one
  · intro id i j earlier later hij hi hj hearlier hlater
    rw [hhistory] at hi hj
    by_cases hold : j < s.history.length
    · rw [List.getElem?_append_left hold] at hj
      rw [List.getElem?_append_left (by omega)] at hi
      exact h.apart.overlap id i j earlier later hij hi hj hearlier hlater
    · -- the later one is the one that commits now
      have hlast : j = s.history.length := by
        have hlength := (List.getElem?_eq_some_iff.mp hj).1
        rw [List.length_append, List.length_singleton] at hlength
        omega
      subst hlast
      rw [List.getElem?_concat_length] at hj
      obtain rfl := Option.some.inj hj
      rw [List.getElem?_append_left hij] at hi
      obtain ⟨u, hu, rfl, hfiled⟩ := (filedOn_eq ⟨t, s.newlyEscalated after⟩ id).resolve_left hlater
      dsimp only at hu
      subst hu
      obtain ⟨row, loaded, -, -, hunfiled, hticket⟩ := (ht.turn u rfl).row
      refine ⟨u.begun, rfl, ?_⟩
      by_contra hbegan
      have hmem : earlier ∈ s.history.take u.begun := by
        apply List.mem_of_getElem? (i := i)
        rw [List.getElem?_take_of_lt (by omega), hi]
      exact hearlier (hunfiled (hticket (by rwa [← hfiled])).1 earlier hmem)
  · rw [hhistory] at hc
    rcases List.mem_append.mp hc with hc | hc
    · obtain ⟨x, hx, hlinked⟩ := h.linked c hc id hfiled
      obtain ⟨x', hx', hprogress⟩ := hgrows id x hx
      exact ⟨x', hx', hprogress.linked hlinked⟩
    · obtain rfl := List.mem_singleton.mp hc
      obtain ⟨u, hu, rfl, heq⟩ := (filedOn_eq ⟨t, s.newlyEscalated after⟩ id).resolve_left hfiled
      dsimp only at hu
      subst hu
      exact linked_committed ht hcommit (by rwa [← heq])

theorem escalating_idle (s : Shared) : Escalating s .idle := escalating_empty rfl (by simp)

/-- A commit as the invariant rule asks for it. -/
theorem handOffs_commit {own : Work} {after : Db} (hready : t.ready = some own)
    (hcommit : own.commit s.db env.toEnv = some after) (hI : HandOffs s) (hT : Escalating s t) :
    HandOffs (s.committed t after) ∧ ∀ t', Escalating s t' → Escalating (s.committed t after) t' := by
  refine ⟨hI.committed hT hready hcommit, fun t' hT' => ?_⟩
  obtain rfl := ready_own hready
  exact hT'.committed (grows_commit mergeGrows_progress hT.sessions (Work.commit_ok hcommit).1)

/-- **Hand-offs in every run** -/
theorem handOffs_of_run (env : Env) (settings : Settings) (db : Db) (events : List (Nat × Event)) :
    HandOffs (Run.run (World.step env settings) (World.start db) events).shared ∧
      ∀ n, Escalating (Run.run (World.step env settings) (World.start db) events).shared
        ((Run.run (World.step env settings) (World.start db) events).own n) :=
  inv_of_events (I := HandOffs) (T := Escalating) (G := fun _ _ _ => True) (s := ⟨db, []⟩)
    (fun _ => escalating_empty rfl (by simp)) escalating_idle
    (fun s e t t' hnext _ hI hT => escalating_next hnext hI hT)
    (fun s t own after hready hcommit _ hI hT => handOffs_commit hready hcommit hI hT)
    ⟨⟨by simp, by simp⟩, ⟨by simp [Shared.escalatedSince], by simp [Shared.escalatedSince]⟩, by simp⟩
    (Run.allSteps_of_forall (fun _ _ => trivial) _ events)

end

/-- **One hand-off ticket unless turns overlap**, in every run. -/
theorem filedApart_of_run (env : Env) (settings : Settings) (db : Db) (events : List (Nat × Event)) :
    FiledApart (Run.run (World.step env settings) (World.start db) events).shared :=
  (handOffs_of_run env settings db events).1.apart

end Helpdesk.Traffic
