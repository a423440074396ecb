import Helpdesk.Traffic.Escalations

/-! # What lasts of a hand-off

A turn puts in `escalated_at` only where it has read none. Two turns that are open at once have both read
none, and the later commit writes over the time of the earlier one; the ticket is replaced in the same way,
and by `create_ticket` in a turn that runs on.

**`handOff_final_of_run`** says what lasts all the same, from any state of a run to any later one: the
session stays escalated, its user stays, and it goes on having a time and a ticket. The time is the same
one, if no turn was open on the session. -/

namespace Helpdesk.Traffic

open Chat WhatsApp UnitOfWork

/-! ## What lasts

Four columns: the status and the user stay as they are, and of the time and the ticket it is only said that
they do not become null again. -/

/-- What lasts of an escalated session. -/
structure Lasts (x x' : ChatSession) : Prop where
  status : x'.status = .escalated
  userId : x'.userId = x.userId
  stamped : x.escalatedAt ≠ none → x'.escalatedAt ≠ none
  linked : x.ticketId ≠ none → x'.ticketId ≠ none

/-- The transaction is a turn on the session. -/
def Transaction.attends (t : Transaction) (id : Uuid) : Prop :=
  match t with
  | turn u => u.ctx.chatSessionId = id
  | _ => False

/-- No turn is open on the session. -/
def World.unattended (w : World) (id : Uuid) : Prop := ∀ n, ¬ (w.own n).attends id

/-! ## The row of one transaction

A unit of work leaves `escalated_at` of a session where it has read a time, and everywhere if it is no turn
on the session. The relation is transitive, so each part of a transaction adds to it. -/

/-- The time is left as it was, where there was one or the transaction is no turn on the session. -/
def StampLeft (attended : Prop) (x x' : ChatSession) : Prop :=
  x.escalatedAt ≠ none ∨ ¬ attended → x'.escalatedAt = x.escalatedAt

instance (attended : Prop) : Std.Refl (StampLeft attended) := ⟨fun _ _ => rfl⟩

instance (attended : Prop) : IsTrans ChatSession (StampLeft attended) where
  trans x₁ x₂ x₃ h h' hleft := by
    have hsame := h hleft
    exact (h' (by rwa [hsame])).trans hsame

/-- What a transaction has made of the time. -/
def Stamping (id : Uuid) (t : Transaction) : Prop :=
  GrownAt (StampLeft (t.attends id)) t.own.chatSessions id

section
variable {env : Env} {settings : Settings} {s : Shared} {t : Transaction} {own : Work} {db after : Db}
  {id : Uuid} {attended : Prop}

/-- **A part of a turn** -/
theorem stampLeft_turn {ctx : ToolContext} (h : GrownAt (StampLeft (ctx.chatSessionId = id)) own.chatSessions id)
    (hprogresses : Progresses ctx (own.view db) after) :
    GrownAt (StampLeft (ctx.chatSessionId = id)) (own.track db after).chatSessions id := by
  refine GrownAt.track h fun x hx => ?_
  -- a turn writes to one session, and there it keeps a time that it has read
  by_cases hturn : ctx.chatSessionId = id
  · obtain ⟨x', hx', hprogress⟩ := hprogresses.turn id x hx
    exact ⟨x', hx', fun hleft => hprogress.stamp (hleft.resolve_right fun hnot => hnot hturn)⟩
  · exact ⟨x, (hprogresses.others id (Ne.symm hturn)).trans hx, Std.Refl.refl x⟩

/-- **A part of a delivery or of a reply** -/
theorem stampLeft_same (h : GrownAt (StampLeft attended) own.chatSessions id)
    (hsame : Grows SameHandOff (own.view db).chatSessions after.chatSessions) :
    GrownAt (StampLeft attended) (own.track db after).chatSessions id := by
  refine GrownAt.track h fun x hx => ?_
  obtain ⟨x', hx', hleft⟩ := hsame id x hx
  exact ⟨x', hx', fun _ => congrArg HandOff.escalatedAt hleft.columns⟩

theorem stamping_empty (h : t.own = .empty) : Stamping id t := by
  unfold Stamping
  rw [h]
  exact grownAt_empty id

theorem Begins.stamping {ctx : ToolContext} {job : Option ProcessJob} {content : String} {o : OpenDraws}
    {excerpts : List String} (h : Begins settings s ctx job content o excerpts t) : Stamping id t := by
  obtain ⟨offered, own, hexec, rfl⟩ := h
  obtain ⟨after, hok, rfl⟩ := Work.exec_ok hexec
  exact stampLeft_turn (GrownAt.load (grownAt_empty id) _) ((progresses_openTurn _ _ _).of_ok hok)

/-- **What each event keeps.** -/
theorem stamping_next {e : Event} {t' : Transaction} (hnext : Next env settings s e t t') (h : Stamping id t) :
    Stamping id t' := by
  cases hnext with
  | stays => exact h
  | ends => exact stamping_empty rfl
  | receives => exact stamping_empty rfl
  | @takes δ inbound rest d result own hpending hexec =>
    obtain ⟨after, hok, rfl⟩ := Work.exec_ok hexec
    have hload : GrownAt (StampLeft False) (δ.load s inbound d).chatSessions id := by
      unfold Delivery.load
      split
      · split
        · exact GrownAt.load h _
        · exact h
      · exact h
    exact stampLeft_same hload (sameHandOff_ingest (records_of_ok hok)).1
  | skips => exact h
  | posts _ hbegins => exact hbegins.stamping
  | processes _ _ hbegins => exact hbegins.stamping
  | asks => exact h
  | closes _ hexec =>
    obtain ⟨after, hok, rfl⟩ := Work.exec_ok hexec
    exact stampLeft_turn h ((progresses_closeTurn _ _ _ _ _).of_ok hok)
  | calls _ hexec =>
    obtain ⟨after, hok, rfl⟩ := Work.exec_ok hexec
    exact stampLeft_turn h ((progresses_runToolCall _ _ _).of_ok hok)
  | sends => exact GrownAt.load (grownAt_empty id) _
  | sendsLate _ _ hexec =>
    obtain ⟨after, hok, rfl⟩ := Work.exec_ok hexec
    exact stampLeft_same (GrownAt.load (grownAt_empty id) _) (sameHandOff_defer hok).1
  | defers _ hexec =>
    obtain ⟨after, hok, rfl⟩ := Work.exec_ok hexec
    exact stampLeft_same h (sameHandOff_defer hok).1
  | @opens _ _ newId _ token own hexec =>
    obtain ⟨after, hok, rfl⟩ := Work.exec_ok hexec
    obtain ⟨_, _, _, _, _, hfresh, rfl⟩ := createChatSession_ok hok
    exact stampLeft_same (grownAt_empty id) (Grows.insert hfresh)

/-! ## A time that is stored

Once a session has a time, a turn that begins reads it, and leaves it. A turn that began earlier may have
read none; `unattended` rules this out at the moment from which on the time is to stay. -/

/-- The session has been handed off at `at₀`. -/
def StampedAt (id : Uuid) (at₀ : Int) (s : Shared) : Prop :=
  ∃ x, s.db.chatSessions.lookup id = some x ∧ x.escalatedAt = some at₀

/-- A turn on the session has read the time. -/
structure HasRead (id : Uuid) (t : Transaction) : Prop where
  stamping : Stamping id t
  read : t.attends id → ∀ row loaded, t.own.chatSessions.lookup id = some row → row.loaded = some loaded →
    loaded.escalatedAt ≠ none

/-- A turn on the session reads what is stored. -/
theorem read_track {at₀ : Int} (hI : StampedAt id at₀ s)
    (h : ∀ row loaded, own.chatSessions.lookup id = some row → row.loaded = some loaded → loaded.escalatedAt ≠ none)
    (row : Tracked ChatSession) (loaded : ChatSession)
    (hrow : (own.track s.db after).chatSessions.lookup id = some row) (hloaded : row.loaded = some loaded) :
    loaded.escalatedAt ≠ none := by
  rcases of_lookup_track hrow with ⟨row₀, hown, hsame⟩ | ⟨-, hbase⟩
  · exact h row₀ loaded hown (hsame.symm.trans hloaded)
  · obtain ⟨x, hx, hstamp⟩ := hI
    obtain rfl := Option.some.inj (hx.symm.trans (hbase.symm.trans hloaded))
    simp [hstamp]

theorem Begins.hasRead {at₀ : Int} (hI : StampedAt id at₀ s) {ctx : ToolContext} {job : Option ProcessJob}
    {content : String} {o : OpenDraws} {excerpts : List String}
    (h : Begins settings s ctx job content o excerpts t) : HasRead id t := by
  refine ⟨h.stamping, fun _ => ?_⟩
  obtain ⟨offered, own, hexec, rfl⟩ := h
  obtain ⟨after, -, rfl⟩ := Work.exec_ok hexec
  refine read_track hI fun row loaded hrow hloaded => ?_
  rcases of_lookup_load hrow with hown | ⟨x, hx, rfl⟩
  · cases hown
  · cases hloaded
    obtain ⟨x', hx', hstamp⟩ := hI
    obtain rfl := Option.some.inj (hx.symm.trans hx')
    simp [hstamp]

/-- **What each event keeps**, of a session that has been handed off. -/
theorem hasRead_next {at₀ : Int} {e : Event} {t' : Transaction} (hnext : Next env settings s e t t')
    (hI : StampedAt id at₀ s) (h : HasRead id t) : HasRead id t' := by
  have hstamping := stamping_next hnext h.stamping
  cases hnext with
  | stays => exact h
  | posts _ hbegins => exact hbegins.hasRead hI
  | processes _ _ hbegins => exact hbegins.hasRead hI
  | asks => exact ⟨hstamping, h.read⟩
  | closes _ hexec =>
    obtain ⟨after, -, rfl⟩ := Work.exec_ok hexec
    exact ⟨hstamping, fun hattends => read_track hI (h.read hattends)⟩
  | calls _ hexec =>
    obtain ⟨after, -, rfl⟩ := Work.exec_ok hexec
    exact ⟨hstamping, fun hattends => read_track hI (h.read hattends)⟩
  | _ => exact ⟨hstamping, False.elim⟩

theorem merge_escalatedAt {loaded current stored merged : ChatSession}
    (h : ChatSession.merge loaded current stored = some merged) :
    merged.escalatedAt = WriteBack.flushAttr loaded.escalatedAt current.escalatedAt stored.escalatedAt := by
  unfold ChatSession.merge at h
  dsimp only at h
  split at h
  · cases h
    rfl
  · cases h

/-- **A commit** leaves the time. -/
theorem StampedAt.committed {at₀ : Int} (hI : StampedAt id at₀ s) (h : HasRead id t) (hready : t.ready = some own)
    (hcommit : own.commit s.db env.toEnv = some after) : StampedAt id at₀ (s.committed t after) := by
  obtain ⟨x, hx, hstamp⟩ := hI
  obtain rfl := ready_own hready
  have hsessions := (Work.commit_ok hcommit).1
  cases hown : t.own.chatSessions.lookup id with
  | none => exact ⟨x, (lookup_commit_of_none hsessions hown).trans hx, hstamp⟩
  | some row =>
    -- the row has been loaded, since the session is stored
    rcases lookup_commit_own hsessions hown with ⟨-, hnone, -⟩ | ⟨loaded, stored, merged, hloaded, hstored, hmerge, hafter⟩
    · rw [hx] at hnone
      cases hnone
    · obtain rfl := Option.some.inj (hx.symm.trans hstored)
      have hleft : row.current.escalatedAt = loaded.escalatedAt := by
        refine h.stamping row loaded hown hloaded ?_
        by_cases hattends : t.attends id
        · exact .inl (h.read hattends row loaded hown hloaded)
        · exact .inr hattends
      refine ⟨merged, hafter, ?_⟩
      rw [merge_escalatedAt hmerge, hleft, WriteBack.flushAttr_unassigned, hstamp]

end

/-! ## Runs

Three runs are put together. The one up to the first state shows what each open transaction has made of its
row; the one from there on shows that the time stays; and `progress_of_run` has what needs no condition. -/

section
variable (env : Env) (settings : Settings) (db : Db) (events later : List (Nat × Event))

theorem stamping_of_run (id : Uuid) (n : Nat) :
    Stamping id ((Run.run (World.step env settings) (World.start db) events).own n) :=
  (inv_of_events (I := fun _ => True) (T := fun _ t => Stamping id t) (G := fun _ _ _ => True) (s := ⟨db, []⟩)
    (fun _ => stamping_empty rfl) (fun _ => stamping_empty rfl)
    (fun _ _ _ _ hnext _ _ hT => stamping_next hnext hT) (fun _ _ _ _ _ _ _ _ _ => ⟨trivial, fun _ h => h⟩)
    trivial (Run.allSteps_of_forall (fun _ _ => trivial) _ events)).2 n

/-- **The time stays**, if no turn was open on the session. -/
theorem stampedAt_of_run {id : Uuid} {at₀ : Int}
    (hI : StampedAt id at₀ (Run.run (World.step env settings) (World.start db) events).shared)
    (hquiet : (Run.run (World.step env settings) (World.start db) events).unattended id) :
    StampedAt id at₀ (Run.run (World.step env settings)
      (Run.run (World.step env settings) (World.start db) events) later).shared :=
  (inv_of_events_from (I := StampedAt id at₀) (T := fun _ t => HasRead id t) (G := fun _ _ _ => True)
    (fun _ => ⟨stamping_empty rfl, False.elim⟩) (fun _ _ _ _ hnext _ hI hT => hasRead_next hnext hI hT)
    (fun _ _ _ _ hready hcommit _ hI hT => ⟨hI.committed hT hready hcommit, fun _ h => h⟩) hI
    (fun n => ⟨stamping_of_run env settings db events id n, fun hattends => absurd hattends (hquiet n)⟩)
    (Run.allSteps_of_forall (fun _ _ => trivial) _ later)).1

/-- **Sessions progress**, whatever overlaps. -/
theorem progress_of_run {id : Uuid} {x : ChatSession}
    (hx : (Run.run (World.step env settings) (World.start db) events).shared.db.chatSessions.lookup id = some x) :
    ∃ x', (Run.run (World.step env settings)
        (Run.run (World.step env settings) (World.start db) events) later).shared.db.chatSessions.lookup id = some x' ∧
      Progress x x' := by
  obtain ⟨hhandOffs, hescalating⟩ := handOffs_of_run env settings db events
  refine (inv_of_events_from
    (I := fun s => HandOffs s ∧ ∃ x', s.db.chatSessions.lookup id = some x' ∧ Progress x x') (T := Escalating)
    (G := fun _ _ _ => True) (fun _ => escalating_empty rfl (by simp))
    (fun s e t t' hnext _ hI hT => escalating_next hnext hI.1 hT) (fun s t own after hready hcommit _ hI hT => ?_)
    ⟨hhandOffs, x, hx, Std.Refl.refl x⟩ hescalating (Run.allSteps_of_forall (fun _ _ => trivial) _ later)).1.2
  obtain ⟨hI, y, hy, hprogress⟩ := hI
  obtain ⟨hhandOffs', hothers⟩ := handOffs_commit hready hcommit hI hT
  obtain rfl := ready_own hready
  obtain ⟨z, hz, hprogress'⟩ :=
    grows_commit mergeGrows_progress hT.sessions (Work.commit_ok hcommit).1 id y hy
  exact ⟨⟨hhandOffs', z, hz, IsTrans.trans _ _ _ hprogress hprogress'⟩, hothers⟩

end

/-- **A hand-off is final**: from every state of every run to every later one. -/
theorem handOff_final_of_run (env : Env) (settings : Settings) (db : Db) (events later : List (Nat × Event)) :
    let w := Run.run (World.step env settings) (World.start db) events
    let w' := Run.run (World.step env settings) w later
    HandOffFinal w.shared ∧
      ∀ id x, w.shared.db.chatSessions.lookup id = some x → x.status = .escalated →
        ∃ x', w'.shared.db.chatSessions.lookup id = some x' ∧ Lasts x x' ∧
          (w.unattended id → x.escalatedAt ≠ none → x'.escalatedAt = x.escalatedAt) := by
  intro w w'
  refine ⟨(handOffs_of_run env settings db events).1.final, fun id x hx hstatus => ?_⟩
  obtain ⟨x', hx', hprogress⟩ := progress_of_run env settings db events later hx
  refine ⟨x', hx', ⟨?_, hprogress.userId, hprogress.stamped, hprogress.linked⟩, fun hquiet hstamped => ?_⟩
  · exact hprogress.status.elim (fun hsame => hsame.trans hstatus) (·.1)
  · obtain ⟨at₀, hat⟩ := Option.ne_none_iff_exists'.mp hstamped
    obtain ⟨y, hy, hstamp⟩ := stampedAt_of_run env settings db events later ⟨x, hx, hat⟩ hquiet
    obtain rfl := Option.some.inj (hx'.symm.trans hy)
    rw [hstamp, hat]

end Helpdesk.Traffic
