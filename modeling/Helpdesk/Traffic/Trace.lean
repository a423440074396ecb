import Helpdesk.Traffic.Escalations

/-! # What turns do to the hand-off

A turn works on the row that it has loaded, and is committed as a whole. `Trace` is a run with the acts of its turns
(`Chat.HandOffAct`), which are recorded beside it, since nothing of them is stored.

* `carries_event`: the row of an open turn has the columns that its acts make of those it has loaded, and no other
  transaction changes the columns of a row;
* **`stores_committed`**: a commit takes the stored columns along by the acts of the turn, if they are still those that
  the turn has loaded. -/

namespace Helpdesk.Traffic

open Chat WhatsApp UnitOfWork

/-! ## The trace

What a turn has done to the hand-off is not stored anywhere, so it is recorded beside the run: `acts` for each
transaction, and for those that have been committed `performed`, in the order of the commits. The run itself does not
depend on it (`world_run`). -/

/-- What an event does to the hand-off of the session, where it takes the transaction from `t` to `t'`. -/
def Event.acts (e : Event) (s : Shared) (t t' : Transaction) : List HandOffAct :=
  match e, t, t' with
  | .callTool _ d, .turn u, _ =>
    match u.pending with
    | [] => []
    | call :: _ => toolActs u.ctx s.db call.name d
  | .complete _ d, .turn u, .turn u' =>
    -- the turn is closed if it has its reply now
    if u.reply.isNone && u'.reply.isSome then
      [.closes u.lowConfidence d.escalation.now d.escalation.ticketId]
    else []
  | _, _, _ => []

/-- A turn that has been committed. -/
structure Performed where
  chatSessionId : Uuid
  acts : List HandOffAct

structure Trace where
  world : World
  acts : Nat → List HandOffAct
  /-- oldest first -/
  performed : List Performed

namespace Trace

/-- Nothing is going on yet. -/
def start (db : Db) : Trace := ⟨World.start db, fun _ => [], []⟩

def step (env : Env) (settings : Settings) (w : Trace) (e : Nat × Event) : Trace :=
  let world := World.step env settings w.world e
  let commits := world.shared.history.drop w.world.shared.history.length
  { world := world
    acts := Function.update w.acts e.1
      (w.acts e.1 ++ e.2.acts w.world.shared (w.world.own e.1) (world.own e.1))
    performed := w.performed ++ (commits.flatMap (·.turns)).map fun u => ⟨u.ctx.chatSessionId, w.acts e.1⟩ }

/-- The turns that have been committed on a session, oldest first. -/
def turnsOn (w : Trace) (id : Uuid) : List (List HandOffAct) :=
  (w.performed.filter fun p => p.chatSessionId = id).map (·.acts)

end Trace

section
variable {env : Env} {settings : Settings}

/-- **The trace** only records. -/
theorem world_run (w : Trace) (events : List (Nat × Event)) :
    (Run.run (Trace.step env settings) w events).world = Run.run (World.step env settings) w.world events := by
  induction events generalizing w with
  | nil => rfl
  | cons e events ih => exact ih (w.step env settings e)

/-- A condition on the steps of a run is one on the steps with their trace. -/
theorem allSteps_trace {P : World → Nat × Event → Prop} {w : Trace} {events : List (Nat × Event)}
    (h : Run.AllSteps (World.step env settings) P w.world events) :
    Run.AllSteps (Trace.step env settings) (fun w e => P w.world e) w events := by
  induction events generalizing w with
  | nil => trivial
  | cons e events ih => exact ⟨h.1, ih h.2⟩

end

/-! ## The condition

Others may have written to the row in the meantime, as an inbound message does: only the columns of the hand-off
have to be as the turn has loaded them. -/

/-- One turn after another. -/
def serial (identified : Bool) (h : HandOff) (turns : List (List HandOffAct)) : HandOff :=
  turns.foldl (HandOff.perform identified) h

/-- The condition on a step: a turn that commits finds the columns of its session as it has loaded them. -/
def readsHandOff (e : Event) (s : Shared) (t : Transaction) : Bool :=
  match e, t with
  | .commit, .turn u =>
    u.reply.isNone ||
      (s.db.chatSessions.lookup u.ctx.chatSessionId).map handOff =
        ((u.own.chatSessions.lookup u.ctx.chatSessionId).bind (·.loaded)).map handOff
  | _, _ => true

/-! ## The rows

A turn has one row, that of its session; the others leave the columns of every row that they have. -/

/-- A turn has made of its row what its acts make of it, and has no other row. -/
structure TurnCarries (u : OpenTurn) (acts : List HandOffAct) : Prop where
  row : ∃ row loaded, u.own.chatSessions.lookup u.ctx.chatSessionId = some row ∧ row.loaded = some loaded ∧
    row.current.userId = loaded.userId ∧
    handOff row.current = (handOff loaded).perform loaded.userId.isSome acts
  others : ∀ id, id ≠ u.ctx.chatSessionId → u.own.chatSessions.lookup id = none

/-- The columns of the rows are left, and new rows have none. -/
structure Leaves (own : Work) : Prop where
  current : ∀ id, GrownAt SameHandOff own.chatSessions id
  inserted : ∀ id row, own.chatSessions.lookup id = some row → row.loaded = none → handOff row.current = .opened

/-- What holds of an open transaction with its acts. -/
def Carries (t : Transaction) (acts : List HandOffAct) : Prop :=
  match t with
  | .turn u => TurnCarries u acts
  | .idle => acts = []
  | t => Leaves t.own

section
variable {env : Env} {settings : Settings} {s : Shared} {t t' : Transaction} {own : Work} {db after : Db}
  {u : OpenTurn} {acts acts' : List HandOffAct} {ctx : ToolContext}

theorem leaves_empty : Leaves .empty := ⟨fun _ => grownAt_empty _, fun _ _ h => by cases h⟩

theorem Leaves.load (h : Leaves own) (id : Uuid) : Leaves (own.loadSession db id) := by
  refine ⟨fun id' => (h.current id').load _, fun id' row hrow hloaded => ?_⟩
  rcases of_lookup_load hrow with hown | ⟨_, _, rfl⟩
  · exact h.inserted id' row hown hloaded
  · cases hloaded

/-- A part of a transaction that leaves the columns. -/
theorem Leaves.track (h : Leaves own) (hsame : Grows SameHandOff (own.view db).chatSessions after.chatSessions)
    (hadds : UnitOfWork.Adds (fun x => handOff x = .opened) (own.view db).chatSessions after.chatSessions) :
    Leaves (own.track db after) :=
  ⟨fun id => (h.current id).track (hsame id),
    inserted_track h.inserted (fun _ _ hopened hleft => hleft.columns.trans hopened) hsame hadds⟩

theorem Leaves.defer {chatSessionId : Uuid} {entry : String} (h : Leaves own)
    (hexec : Tx.exec (recordDeferredReply chatSessionId entry) (own.view db) = (.ok (), after)) :
    Leaves (own.track db after) := by
  obtain ⟨hsame, hadds⟩ := sameHandOff_defer hexec
  exact h.track hsame fun id x hnone hx => (hadds id x hnone hx).elim

/-- **A part of a turn** does its acts. -/
theorem TurnCarries.part (h : TurnCarries u acts) (hperforms : Performs u.ctx acts' (u.own.view db) after)
    (hothers : ∀ id, id ≠ u.ctx.chatSessionId →
      after.chatSessions.lookup id = (u.own.view db).chatSessions.lookup id)
    {u' : OpenTurn} (hctx : u'.ctx = u.ctx) (hown : u'.own = u.own.track db after) :
    TurnCarries u' (acts ++ acts') := by
  obtain ⟨row, loaded, hrow, hloaded, huser, hcolumns⟩ := h.row
  obtain ⟨x, hx, huserx, hcolumnsx⟩ := hperforms _ (lookup_view_of_own hrow)
  rw [huser] at huserx hcolumnsx
  refine ⟨⟨⟨row.loaded, x⟩, loaded, ?_, hloaded, huserx, ?_⟩, fun id hid => ?_⟩
  · rw [hctx, hown]
    exact lookup_track_of_own hrow hx
  · show handOff x = _
    rw [hcolumnsx, hcolumns, HandOff.perform_append]
  · rw [hctx] at hid
    rw [hown]
    show (UnitOfWork.track _ _ _).lookup id = none
    rw [lookup_track]
    exact (if_pos (hothers id hid)).trans (h.others id hid)

theorem Begins.carries {job : Option ProcessJob} {content : String} {o : OpenDraws} {excerpts : List String}
    (h : Begins settings s ctx job content o excerpts t) : Carries t [] := by
  obtain ⟨offered, own, hexec, rfl⟩ := h
  obtain ⟨after, hok, rfl⟩ := Work.exec_ok hexec
  obtain ⟨x, hx⟩ := lookup_of_openTurn hok
  rw [Work.lookup_view_loadSession, Work.lookup_view_empty] at hx
  -- the turn as it has loaded its session, before anything is done
  let u := OpenTurn.start s ctx job o excerpts (Work.empty.loadSession s.db ctx.chatSessionId)
  have hloaded : ∀ id, u.own.chatSessions.lookup id =
      if id = ctx.chatSessionId then some ⟨some x, x⟩ else none := by
    intro id
    show (UnitOfWork.load _ _ _).lookup id = _
    rw [lookup_load, hx]
    rfl
  have hstart : TurnCarries u [] := by
    refine ⟨⟨⟨some x, x⟩, x, ?_, rfl, rfl, rfl⟩, fun id hid => ?_⟩
    · rw [hloaded]
      exact if_pos rfl
    · rw [hloaded]
      exact if_neg hid
  exact hstart.part (u := u) ((performs_openTurn _ _ _).of_ok hok) ((progresses_openTurn _ _ _).of_ok hok).others
    rfl rfl

/-! ## The events

An event of a turn adds its acts; one of another transaction has none. -/

/-- **An event of a turn** -/
theorem carries_turn (e : Event) (h : TurnCarries u acts) :
    Carries (e.next env settings s (.turn u)) (acts ++ e.acts s (.turn u) (e.next env settings s (.turn u))) := by
  have hstays : Carries (.turn u) (acts ++ []) := by
    rw [List.append_nil]
    exact h
  cases e with
  | callTool rowId d =>
    show Carries (u.call env s rowId d) (acts ++ match u.pending with
      | [] => []
      | call :: _ => toolActs u.ctx s.db call.name d)
    unfold OpenTurn.call
    cases u.pending with
    | nil => exact hstays
    | cons call rest =>
      dsimp only
      split
      next message own hexec =>
        obtain ⟨after, hok, rfl⟩ := Work.exec_ok hexec
        exact h.part (performs_runToolCall hok) ((progresses_runToolCall _ _ _).of_ok hok).others rfl rfl
      · exact leaves_empty
  | complete completion d =>
    show Carries (u.complete env settings s completion d) (acts ++ Event.acts (.complete completion d) s (.turn u)
      (u.complete env settings s completion d))
    -- a turn that has its reply has had it before
    have hreply : (u.reply.isNone && u.reply.isSome) = false := by
      cases u.reply <;> rfl
    unfold OpenTurn.complete
    split
    next hopen =>
      split
      · show TurnCarries _ (acts ++ if (u.reply.isNone && u.reply.isSome) = true then _ else [])
        rw [hreply]
        show TurnCarries _ (acts ++ [])
        rw [List.append_nil]
        exact ⟨h.row, h.others⟩
      · split
        next result own hexec =>
          obtain ⟨after, hok, rfl⟩ := Work.exec_ok hexec
          rw [Event.acts, hopen.2]
          show TurnCarries _ (acts ++ [.closes u.lowConfidence d.escalation.now d.escalation.ticketId])
          exact h.part (performs_closeTurn hok) ((progresses_closeTurn _ _ _ _ _).of_ok hok).others rfl rfl
        · exact leaves_empty
    · rw [Event.acts, hreply]
      exact hstays
  | abort => exact leaves_empty
  | _ => exact hstays

/-- **An event of another transaction** -/
theorem carries_next {e : Event} (hnext : Next env settings s e t t') (hturn : ∀ u, t ≠ .turn u)
    (h : Carries t acts) : Carries t' acts := by
  cases hnext with
  | stays => exact h
  | ends => exact leaves_empty
  | receives => exact leaves_empty
  | @takes δ inbound rest d result own hpending hexec =>
    obtain ⟨after, hok, rfl⟩ := Work.exec_ok hexec
    have hload : Leaves (δ.load s inbound d) := by
      unfold Delivery.load
      split
      · split
        · exact Leaves.load h _
        · exact h
      · exact h
    obtain ⟨hsame, hadds⟩ := sameHandOff_ingest (records_of_ok hok)
    exact hload.track hsame hadds
  | skips => exact h
  | posts _ hbegins =>
    obtain rfl : acts = [] := h
    exact hbegins.carries
  | processes _ _ hbegins =>
    obtain rfl : acts = [] := h
    exact hbegins.carries
  | asks => exact absurd rfl (hturn _)
  | closes => exact absurd rfl (hturn _)
  | calls => exact absurd rfl (hturn _)
  | sends => exact leaves_empty.load _
  | sendsLate _ _ hexec =>
    obtain ⟨after, hok, rfl⟩ := Work.exec_ok hexec
    exact (leaves_empty.load _).defer hok
  | defers _ hexec =>
    obtain ⟨after, hok, rfl⟩ := Work.exec_ok hexec
    exact Leaves.defer h hok
  | opens hexec =>
    obtain ⟨after, hok, rfl⟩ := Work.exec_ok hexec
    obtain ⟨_, _, _, _, _, hfresh, rfl⟩ := createChatSession_ok hok
    exact leaves_empty.track (Grows.insert hfresh) (UnitOfWork.Adds.insert rfl)

theorem acts_of_other {e : Event} (hturn : ∀ u, t ≠ .turn u) : e.acts s t t' = [] := by
  cases t with
  | turn u => exact absurd rfl (hturn u)
  | _ => cases e <;> rfl

theorem carries_event (e : Event) (h : Carries t acts) :
    Carries (e.next env settings s t) (acts ++ e.acts s t (e.next env settings s t)) := by
  cases t with
  | turn u => exact carries_turn e h
  | _ =>
    rw [acts_of_other (by simp), List.append_nil]
    exact carries_next (next_ok env settings e s _) (by simp) h

/-! ## The commits

Where a transaction has left the columns, the stored ones stay. Where a turn commits over the columns that it has
loaded, the stored ones become its own. -/

theorem merge_handOff {loaded current stored merged : ChatSession}
    (h : ChatSession.merge loaded current stored = some merged) :
    merged.userId = WriteBack.flushAttr loaded.userId current.userId stored.userId ∧
      handOff merged =
        { ticketId := WriteBack.flushAttr loaded.ticketId current.ticketId stored.ticketId
          status := WriteBack.flushAttr loaded.status current.status stored.status
          escalatedAt := WriteBack.flushAttr loaded.escalatedAt current.escalatedAt stored.escalatedAt
          lowConfidenceStreak :=
            WriteBack.flushAttr loaded.lowConfidenceStreak current.lowConfidenceStreak stored.lowConfidenceStreak } := by
  unfold ChatSession.merge at h
  dsimp only at h
  split at h
  · cases h
    exact ⟨rfl, rfl⟩
  · cases h

theorem SameHandOff.merge {loaded current stored merged : ChatSession} (h : SameHandOff loaded current)
    (hmerge : ChatSession.merge loaded current stored = some merged) : SameHandOff stored merged := by
  obtain ⟨huser, hcolumns⟩ := merge_handOff hmerge
  have hticket : current.ticketId = loaded.ticketId := congrArg HandOff.ticketId h.columns
  have hstatus : current.status = loaded.status := congrArg HandOff.status h.columns
  have hstamp : current.escalatedAt = loaded.escalatedAt := congrArg HandOff.escalatedAt h.columns
  have hstreak : current.lowConfidenceStreak = loaded.lowConfidenceStreak :=
    congrArg HandOff.lowConfidenceStreak h.columns
  rw [h.userId, WriteBack.flushAttr_unassigned] at huser
  rw [hticket, hstatus, hstamp, hstreak] at hcolumns
  simp only [WriteBack.flushAttr_unassigned] at hcolumns
  exact ⟨huser, hcolumns⟩

/-- Over the columns that have been loaded, the merge stores those of the transaction. -/
theorem handOff_merge_read {loaded current stored merged : ChatSession}
    (hmerge : ChatSession.merge loaded current stored = some merged) (huser : current.userId = loaded.userId)
    (hread : handOff stored = handOff loaded) : merged.userId = stored.userId ∧ handOff merged = handOff current := by
  obtain ⟨huser', hcolumns⟩ := merge_handOff hmerge
  have hticket : stored.ticketId = loaded.ticketId := congrArg HandOff.ticketId hread
  have hstatus : stored.status = loaded.status := congrArg HandOff.status hread
  have hstamp : stored.escalatedAt = loaded.escalatedAt := congrArg HandOff.escalatedAt hread
  have hstreak : stored.lowConfidenceStreak = loaded.lowConfidenceStreak :=
    congrArg HandOff.lowConfidenceStreak hread
  rw [huser, WriteBack.flushAttr_unassigned] at huser'
  rw [hticket, hstatus, hstamp, hstreak] at hcolumns
  simp only [WriteBack.flushAttr_loaded] at hcolumns
  exact ⟨huser', hcolumns⟩

/-- What a commit appends to the turns on a session. -/
def added (t : Transaction) (acts : List HandOffAct) (id : Uuid) : List (List HandOffAct) :=
  match t with
  | .turn u => if u.ctx.chatSessionId = id then [acts] else []
  | _ => []

/-- What a commit makes of the columns of a session. -/
structure Stores (s : Shared) (after : Db) (added : Uuid → List (List HandOffAct)) : Prop where
  old : ∀ id x y, s.db.chatSessions.lookup id = some y → after.chatSessions.lookup id = some x →
    x.userId = y.userId ∧ handOff x = serial y.userId.isSome (handOff y) (added id)
  new : ∀ id x, s.db.chatSessions.lookup id = none → after.chatSessions.lookup id = some x →
    handOff x = .opened ∧ added id = []
  none : ∀ id, after.chatSessions.lookup id = none → s.db.chatSessions.lookup id = none ∧ added id = []

/-- **The commit of a turn** -/
theorem stores_turn (hcarries : TurnCarries u acts) (hescalating : Escalating s (.turn u))
    (hcommit : u.own.commit s.db env.toEnv = some after) (hreply : u.reply ≠ none)
    (hread : readsHandOff .commit s (.turn u) = true) : Stores s after (added (.turn u) acts) := by
  obtain ⟨row, loaded, hrow, hloaded, huser, hcolumns⟩ := hcarries.row
  have hsessions := (Work.commit_ok hcommit).1
  -- the row has been loaded, so it is merged with what is stored
  obtain ⟨stored, merged, hstored, hmerge, hafter⟩ : ∃ stored merged,
      s.db.chatSessions.lookup u.ctx.chatSessionId = some stored ∧
      ChatSession.merge loaded row.current stored = some merged ∧
      after.chatSessions.lookup u.ctx.chatSessionId = some merged := by
    rcases lookup_commit_own hsessions hrow with ⟨hnone, -⟩ | ⟨l, stored, merged, hl, hstored, hmerge, hafter⟩
    · rw [hloaded] at hnone
      cases hnone
    · obtain rfl := Option.some.inj (hloaded.symm.trans hl)
      exact ⟨stored, merged, hstored, hmerge, hafter⟩
  have hsame : handOff stored = handOff loaded := by
    have hcurrent : u.reply.isNone = true ∨
        (s.db.chatSessions.lookup u.ctx.chatSessionId).map handOff =
          ((u.own.chatSessions.lookup u.ctx.chatSessionId).bind (·.loaded)).map handOff := by
      simpa [readsHandOff] using hread
    rw [hstored, hrow] at hcurrent
    have := hcurrent.resolve_left (by simp [hreply])
    rw [Option.bind_some, hloaded] at this
    exact Option.some.inj this
  have hstoredUser : stored.userId = loaded.userId := by
    obtain ⟨stored', hstored', hprogress⟩ := hescalating.sessions.stored _ row loaded hrow hloaded
    obtain rfl := Option.some.inj (hstored.symm.trans hstored')
    exact hprogress.userId
  obtain ⟨hmergedUser, hmerged⟩ := handOff_merge_read hmerge huser hsame
  have hother : ∀ id, id ≠ u.ctx.chatSessionId →
      after.chatSessions.lookup id = s.db.chatSessions.lookup id ∧ added (.turn u) acts id = [] := fun id hid =>
    ⟨lookup_commit_of_none hsessions (hcarries.others id hid), if_neg (Ne.symm hid)⟩
  refine ⟨fun id x y hy hx => ?_, fun id x hnone hx => ?_, fun id hnone => ?_⟩
  · by_cases hid : id = u.ctx.chatSessionId
    · subst hid
      obtain rfl := Option.some.inj (hstored.symm.trans hy)
      obtain rfl := Option.some.inj (hafter.symm.trans hx)
      refine ⟨hmergedUser, ?_⟩
      rw [hmerged, hcolumns, hsame, hstoredUser, added, if_pos rfl]
      rfl
    · obtain ⟨hlookup, hnone⟩ := hother id hid
      obtain rfl := Option.some.inj (hx.symm.trans (hlookup.trans hy))
      rw [hnone]
      exact ⟨rfl, rfl⟩
  · by_cases hid : id = u.ctx.chatSessionId
    · subst hid
      rw [hstored] at hnone
      cases hnone
    · rw [(hother id hid).1, hnone] at hx
      cases hx
  · by_cases hid : id = u.ctx.chatSessionId
    · subst hid
      rw [hafter] at hnone
      cases hnone
    · exact ⟨(hother id hid).1.symm.trans hnone, (hother id hid).2⟩

/-- **The commit of another transaction** -/
theorem stores_other (hleaves : Leaves own) (hcommit : own.commit s.db env.toEnv = some after) :
    Stores s after fun _ => [] := by
  have hsessions := (Work.commit_ok hcommit).1
  refine ⟨fun id x y hy hx => ?_, fun id x hnone hx => ⟨?_, rfl⟩, fun id hnone => ⟨?_, rfl⟩⟩
  · cases hrow : own.chatSessions.lookup id with
    | none =>
      obtain rfl := Option.some.inj (hx.symm.trans ((lookup_commit_of_none hsessions hrow).trans hy))
      exact ⟨rfl, rfl⟩
    | some row =>
      rcases lookup_commit_own hsessions hrow with
        ⟨-, hnone, -⟩ | ⟨loaded, stored, merged, hloaded, hstored, hmerge, hafter⟩
      · rw [hy] at hnone
        cases hnone
      · obtain rfl := Option.some.inj (hy.symm.trans hstored)
        obtain rfl := Option.some.inj (hafter.symm.trans hx)
        have hsame := (hleaves.current id row loaded hrow hloaded).merge hmerge
        exact ⟨hsame.userId, hsame.columns⟩
  · cases hrow : own.chatSessions.lookup id with
    | none =>
      rw [lookup_commit_of_none hsessions hrow, hnone] at hx
      cases hx
    | some row =>
      rcases lookup_commit_own hsessions hrow with ⟨hloaded, -, hafter⟩ | ⟨_, _, _, -, hstored, -⟩
      · obtain rfl := Option.some.inj (hafter.symm.trans hx)
        exact hleaves.inserted id row hrow hloaded
      · rw [hnone] at hstored
        cases hstored
  · cases hrow : own.chatSessions.lookup id with
    | none => rwa [lookup_commit_of_none hsessions hrow] at hnone
    | some row =>
      rcases lookup_commit_own hsessions hrow with ⟨-, -, hafter⟩ | ⟨_, _, _, -, -, -, hafter⟩ <;>
        · rw [hnone] at hafter
          cases hafter

/-- **A commit** stores the columns of a turn, and of nobody else. -/
theorem stores_committed (hcarries : Carries t acts) (hescalating : Escalating s t) (hready : t.ready = some own)
    (hcommit : own.commit s.db env.toEnv = some after) (hread : readsHandOff .commit s t = true) :
    Stores s after (added t acts) := by
  obtain rfl := ready_own hready
  cases t with
  | turn u =>
    refine stores_turn hcarries hescalating hcommit ?_ hread
    intro hreply
    simp [Transaction.ready, hreply] at hready
  | idle => cases hready
  | _ => exact stores_other hcarries hcommit

end

end Helpdesk.Traffic
