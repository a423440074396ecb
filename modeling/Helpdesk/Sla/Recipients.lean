import Helpdesk.Sla.Passes

/-! # Whom an event is told

An event is recorded in one transaction and its users are looked up in the same one, but the ticket was
loaded when the pass began and the users change in between. The invariant therefore speaks of the history:
for each fan-out there is the moment at which it was carried out (`Resolved`), and before it the moment at
which the pass had loaded the ticket (`Loaded`). -/

namespace Helpdesk.Sla

open Run

/-! ## Recipients

Those whom an event is for, as a statement about users, and that `resolve_recipients` is right about them. The
agent of a ticket who is an admin as well appears once. -/

/-- The users that an event of the ticket is for: the active admins of its organization, and the
    assigned agent if active. -/
def Addresses (db : Db) (ticket : Ticket) (userId : Uuid) : Prop :=
  ∃ user, db.users.lookup userId = some user ∧ user.organizationId = some ticket.organizationId ∧
    user.status = .active ∧ (user.role = .admin ∨ ticket.agentId = some userId)

theorem selectsUser_iff {organizationId : Uuid} {user : User} :
    (OrgScope.forBackgroundWorker organizationId).selectsUser user = true ↔
      user.organizationId = some organizationId := by
  show decide (user.organizationId = some organizationId) = true ↔ _
  rw [decide_eq_true_iff]

/-- `resolve_recipients` returns exactly these. -/
theorem mem_resolveRecipients {ticket : Ticket} {db : Db} {userId : Uuid} :
    userId ∈ (resolveRecipients (OrgScope.forBackgroundWorker ticket.organizationId) ticket db).map (·.1) ↔
      Addresses db ticket userId := by
  unfold resolveRecipients Addresses
  -- who is among the admins
  set admins := db.users.select _ with hdef
  have hadmins : ∀ userId, userId ∈ admins.map (·.1) ↔ ∃ user, db.users.lookup userId = some user ∧
      user.organizationId = some ticket.organizationId ∧ user.status = .active ∧ user.role = .admin := by
    intro userId
    simp only [hdef, List.mem_map, Prod.exists, Table.mem_select, Bool.and_eq_true, selectsUser_iff,
      decide_eq_true_eq, exists_and_right, exists_eq_right]
    grind
  split
  next hagent =>
    rw [hadmins]
    grind
  next agentId hagent =>
    split
    next hlookup =>
      rw [hadmins]
      grind
    next agent hlookup =>
      dsimp only
      split
      next h =>
        obtain ⟨⟨hselects, hactive⟩, -⟩ := h
        rw [selectsUser_iff] at hselects
        rw [List.map_append, List.mem_append, hadmins, List.map_cons, List.map_nil, List.mem_singleton]
        grind
      next h =>
        -- the agent is not one of this organization's active users, or is an admin
        have hagain : (∃ user, db.users.lookup agentId = some user ∧
            user.organizationId = some ticket.organizationId ∧ user.status = .active) →
            agentId ∈ admins.map (·.1) := by
          rintro ⟨user, huser, horganization, hactive⟩
          obtain rfl := Option.some.inj (hlookup.symm.trans huser)
          by_contra hnot
          refine h ⟨⟨selectsUser_iff.mpr horganization, hactive⟩, ?_⟩
          rintro admin hadmin rfl
          exact hnot (List.mem_map_of_mem hadmin)
        rw [hadmins]
        constructor
        · rintro ⟨user, huser, horganization, hactive, hadmin⟩
          exact ⟨user, huser, horganization, hactive, .inl hadmin⟩
        · rintro ⟨user, huser, horganization, hactive, hadmin | hassigned⟩
          · exact ⟨user, huser, horganization, hactive, hadmin⟩
          · obtain rfl := Option.some.inj (hagent.symm.trans hassigned)
            exact (hadmins agentId).mp (hagain ⟨user, huser, horganization, hactive⟩)

/-! ## The moments

Places in the history of the run: a list of the events up to the moment, and the world they lead to. A moment
stays where it is when the history goes on, and this is all that most events need. -/

section
variable (sqlWarnAt : Int → Int → Int) (db : Db)

/-- The world after the events. -/
def reached (past : List Event) : World := run (Event.step sqlWarnAt) (World.start db) past

/-- The pass, which has been open since, has loaded the ticket as it was when the pass began. -/
def Loaded (past : List Event) (p : Nat) (ticketId : Uuid) (ticket : Ticket) : Prop :=
  ∃ loading now startedAt rank later, past = loading ++ .start p now startedAt rank :: later ∧
    (reached sqlWarnAt db loading).passes.lookup p = none ∧
    (reached sqlWarnAt db loading).db.tickets.lookup ticketId = some ticket ∧
    AllSteps (Event.step sqlWarnAt) (fun w _ => w.passes.lookup p ≠ none)
      (reached sqlWarnAt db (loading ++ [.start p now startedAt rank])) later

/-- A pass has looked up the recipients of an event of the ticket: those whom the ticket, as the pass
    had loaded it, addresses among the users of the moment. -/
def Resolved (past : List Event) (ticketId : Uuid) (recipients : List Uuid) : Prop :=
  ∃ resolving p d later ticket, past = resolving ++ .advance p d :: later ∧
    Loaded sqlWarnAt db resolving p ticketId ticket ∧
    ∀ userId, userId ∈ recipients ↔ Addresses (reached sqlWarnAt db resolving).db ticket userId

/-- Each fan-out goes back to such a moment. -/
def Traced (past : List Event) (x : Writes) : Prop :=
  ∀ f ∈ x.fanOuts, ∃ row, x.slaEvents.lookup f.slaEventId = some row ∧
    Resolved sqlWarnAt db past row.ticketId f.recipients

structure PassTraced (past : List Event) (p : Nat) (pass : Pass) : Prop where
  candidates : ∀ c ∈ pass.candidates, Loaded sqlWarnAt db past p c.1 c.2
  released : Traced sqlWarnAt db past pass.released
  held : Traced sqlWarnAt db past pass.held
  attempt : ∀ attempt, pass.attempt = some attempt →
    Loaded sqlWarnAt db past p attempt.ticketId attempt.ticket
  /-- the event that is fanned out next is one of the ticket -/
  own : ∀ attempt, pass.attempt = some attempt → ∀ id, attempt.stage.pending = some id →
    ∃ row, attempt.writes.slaEvents.lookup id = some row ∧ row.ticketId = attempt.ticketId

structure WorldTraced (past : List Event) (w : World) : Prop where
  committed : Traced sqlWarnAt db past w.committed
  passes : ∀ p pass, w.passes.lookup p = some pass → PassTraced sqlWarnAt db past p pass

end

section
variable {sqlWarnAt : Int → Int → Int} {db : Db} {past : List Event} {p : Nat} {pass : Pass}
  {ticketId : Uuid} {ticket : Ticket} {x y : Writes} {e : Event}

theorem Loaded.concat (h : Loaded sqlWarnAt db past p ticketId ticket)
    (hpass : (reached sqlWarnAt db past).passes.lookup p = some pass) :
    Loaded sqlWarnAt db (past ++ [e]) p ticketId ticket := by
  obtain ⟨loading, now, startedAt, rank, later, rfl, hnew, hticket, hopen⟩ := h
  refine ⟨loading, now, startedAt, rank, later ++ [e], by simp, hnew, hticket, ?_⟩
  rw [allSteps_append]
  refine ⟨hopen, ?_, trivial⟩
  have hpast : run (Event.step sqlWarnAt) (reached sqlWarnAt db (loading ++ [.start p now startedAt rank]))
      later = reached sqlWarnAt db (loading ++ .start p now startedAt rank :: later) := by
    unfold reached
    rw [← run_append, List.append_assoc, List.singleton_append]
  rw [hpast]
  show (reached sqlWarnAt db (loading ++ .start p now startedAt rank :: later)).passes.lookup p ≠ none
  rw [hpass]
  simp

theorem Resolved.concat {recipients : List Uuid} (h : Resolved sqlWarnAt db past ticketId recipients) :
    Resolved sqlWarnAt db (past ++ [e]) ticketId recipients := by
  obtain ⟨resolving, p, d, later, ticket, rfl, hloaded, hrecipients⟩ := h
  exact ⟨resolving, p, d, later ++ [e], ticket, by simp, hloaded, hrecipients⟩

theorem Traced.concat (h : Traced sqlWarnAt db past x) : Traced sqlWarnAt db (past ++ [e]) x := by
  intro f hf
  obtain ⟨row, hrow, hresolved⟩ := h f hf
  exact ⟨row, hrow, hresolved.concat⟩

/-- Rows that are added change nothing about the fan-outs that there are. -/
theorem Traced.mono (h : Traced sqlWarnAt db past x)
    (hevents : ∀ id row, x.slaEvents.lookup id = some row → y.slaEvents.lookup id = some row)
    (hfanOuts : y.fanOuts = x.fanOuts) : Traced sqlWarnAt db past y := by
  intro f hf
  rw [hfanOuts] at hf
  obtain ⟨row, hrow, hresolved⟩ := h f hf
  exact ⟨row, hevents f.slaEventId row hrow, hresolved⟩

theorem PassTraced.concat (h : PassTraced sqlWarnAt db past p pass)
    (hpass : (reached sqlWarnAt db past).passes.lookup p = some pass) :
    PassTraced sqlWarnAt db (past ++ [e]) p pass where
  candidates := fun c hc => (h.candidates c hc).concat hpass
  released := h.released.concat
  held := h.held.concat
  attempt := fun attempt hattempt => (h.attempt attempt hattempt).concat hpass
  own := h.own

theorem PassTraced.fail (h : PassTraced sqlWarnAt db past p pass) :
    PassTraced sqlWarnAt db past p pass.fail where
  candidates := h.candidates
  released := h.released
  held := h.released
  attempt := fun attempt hattempt => by cases hattempt
  own := fun attempt hattempt => by cases hattempt

/-! ## What a statement leaves

A statement either adds an event of the ticket, or looks its recipients up and adds the fan-out, at this very
moment. A commit and the other events move rows without touching them. -/

/-- **Statement**: a pass knows the ticket that it records an event of, and whom it then tells. -/
theorem PassTraced.advance {d : MonitorDraws} (h : PassTraced sqlWarnAt db past p pass)
    (hpass : (reached sqlWarnAt db past).passes.lookup p = some pass)
    (hok : PassOk (reached sqlWarnAt db past).committed pass) :
    PassTraced sqlWarnAt db (past ++ [.advance p d]) p (pass.advance (reached sqlWarnAt db past).db d) := by
  have hconcat : PassTraced sqlWarnAt db (past ++ [.advance p d]) p pass := h.concat hpass
  unfold Pass.advance
  split
  next attempt hattempt =>
    have hloaded := hconcat.attempt attempt hattempt
    have hheld : Traced sqlWarnAt db (past ++ [.advance p d]) attempt.writes := by
      simpa only [Pass.held, hattempt] using hconcat.held
    have hapart : Apart attempt.writes (reached sqlWarnAt db past).committed := by
      simpa only [Pass.held, hattempt] using hok.apart
    have hbase : ∀ id, attempt.writes.slaEvents.lookup id ≠ none →
        (reached sqlWarnAt db past).db.slaEvents.lookup id = none := hapart.events
    unfold Pass.process
    dsimp only
    split
    next kind hstage =>
      split
      next slaEventId db' hrecord =>
        -- a new row, of the ticket
        rcases (Tx.wp_of_ok hrecord).mp wp_recordDue with hnone | ⟨heq, -, hseen, row, hticket, -, rfl⟩
        · cases hnone
        · cases heq
          have hevents := Table.lookup_changes_insert (a := row) hbase hseen
          refine ⟨hconcat.candidates, hconcat.released, ?_, ?_, ?_⟩
          · refine hheld.mono (fun id' row' hrow' => ?_) rfl
            refine (hevents id').trans ?_
            rw [if_neg]
            · exact hrow'
            · rintro rfl
              have hshadowed : (Table.overlay attempt.writes.slaEvents
                  (reached sqlWarnAt db past).db.slaEvents).lookup d.slaEventId = some row' :=
                Table.lookup_overlay_eq_some.mpr (.inl hrow')
              cases hseen.symm.trans hshadowed
          · rintro _ ⟨rfl⟩
            exact hloaded
          · rintro _ ⟨rfl⟩ _ ⟨rfl⟩
            exact ⟨row, (hevents _).trans (if_pos rfl), hticket⟩
      -- nothing new is recorded
      next =>
        refine ⟨hconcat.candidates, hconcat.released, hheld, ?_, ?_⟩
        · rintro _ ⟨rfl⟩
          exact hloaded
        · rintro _ ⟨rfl⟩ id hpending
          rw [Stage.pending_after] at hpending
          cases hpending
      next => exact hconcat.fail
    next kind slaEventId hstage =>
      split
      next recipients db' hfanOut =>
        -- the event goes to whom it addresses now
        obtain ⟨rfl, notifications, rfl, -⟩ := (Tx.wp_of_ok hfanOut).mp wp_fanOut
        have hevents := fun id => Table.lookup_changes_overlay (k := id) hbase
        refine ⟨hconcat.candidates, hconcat.released, ?_, ?_, ?_⟩
        · intro f hf
          rcases List.mem_cons.mp hf with rfl | hf
          · obtain ⟨row, hrow, hticket⟩ := h.own attempt hattempt slaEventId (by rw [hstage]; rfl)
            refine ⟨row, (hevents slaEventId).trans hrow, past, p, d, [], attempt.ticket, rfl, ?_, ?_⟩
            · rw [hticket]
              exact h.attempt attempt hattempt
            · exact fun userId => mem_resolveRecipients
          · obtain ⟨row, hrow, hresolved⟩ := hheld f hf
            exact ⟨row, (hevents f.slaEventId).trans hrow, hresolved⟩
        · rintro _ ⟨rfl⟩
          exact hloaded
        · rintro _ ⟨rfl⟩ id hpending
          rw [Stage.pending_after] at hpending
          cases hpending
      next => exact hconcat.fail
    next =>
      exact ⟨hconcat.candidates, hheld, hheld, (fun _ h => by cases h), (fun _ h => by cases h)⟩
  -- the next of the tickets that were loaded at the beginning
  next candidateId candidate rest hattempt hcandidates =>
    refine ⟨?_, hconcat.released, hconcat.released, ?_, ?_⟩
    · exact fun c hc => hconcat.candidates c (hcandidates ▸ List.mem_cons_of_mem _ hc)
    · rintro _ ⟨rfl⟩
      exact hconcat.candidates _ (hcandidates ▸ List.mem_cons_self)
    · rintro _ ⟨rfl⟩ id hpending
      cases hpending
  next => exact hconcat

/-- **Step lemma**: whatever happens, the fan-outs can be traced back. -/
theorem WorldTraced.step (h : WorldTraced sqlWarnAt db past (reached sqlWarnAt db past)) (e : Event) :
    WorldTraced sqlWarnAt db (past ++ [e]) (e.step sqlWarnAt (reached sqlWarnAt db past)) := by
  have hw : Consistent (reached sqlWarnAt db past) := Consistent.run sqlWarnAt db past
  have hconcat : WorldTraced sqlWarnAt db (past ++ [e]) (reached sqlWarnAt db past) :=
    ⟨h.committed.concat, fun q pass hq => (h.passes q pass hq).concat hq⟩
  -- one pass moves on
  have hmodify : ∀ p (f : Pass → Pass), (∀ pass, (reached sqlWarnAt db past).passes.lookup p = some pass →
      PassTraced sqlWarnAt db (past ++ [e]) p (f pass)) →
      WorldTraced sqlWarnAt db (past ++ [e])
        { reached sqlWarnAt db past with passes := (reached sqlWarnAt db past).passes.modify p f } := by
    intro p f hf
    refine ⟨hconcat.committed, fun q after hq => ?_⟩
    replace hq : ((reached sqlWarnAt db past).passes.modify p f).lookup q = some after := hq
    rw [Table.lookup_modify] at hq
    split at hq
    next heq =>
      subst heq
      obtain ⟨pass, hpass, rfl⟩ := Option.map_eq_some_iff.mp hq
      exact hf pass hpass
    next => exact hconcat.passes q after hq
  have herase : ∀ p, ∀ q pass, ((reached sqlWarnAt db past).passes.erase p).lookup q = some pass →
      PassTraced sqlWarnAt db (past ++ [e]) q pass :=
    fun p q pass hq => hconcat.passes q pass (Table.lookup_of_lookup_erase hq)
  unfold Event.step
  split
  · exact hconcat
  cases e with
  | start p now startedAt rank =>
    simp only [Event.perform, World.startPass]
    split
    · exact hconcat
    -- the tickets of a new pass are loaded at this moment
    next hnew =>
      refine ⟨hconcat.committed, fun q pass hq => ?_⟩
      rw [Table.lookup_insert] at hq
      split at hq
      next heq =>
        subst heq
        obtain rfl := Option.some.inj hq
        have hnone : Traced sqlWarnAt db (past ++ [.start q now startedAt rank]) .none :=
          fun f hf => absurd hf List.not_mem_nil
        refine ⟨?_, hnone, hnone, (fun _ h => by cases h), (fun _ h => by cases h)⟩
        intro c hc
        rw [List.mem_insertionSort, Table.mem_select] at hc
        exact ⟨past, now, startedAt, rank, [], rfl, hnew, hc.1, trivial⟩
      next => exact hconcat.passes q pass hq
  | advance p d =>
    exact hmodify p _ fun pass hpass => (h.passes p pass hpass).advance hpass (hw.passes p pass hpass)
  | fail p => exact hmodify p _ fun pass hpass => (hconcat.passes p pass hpass).fail
  -- rows of the pass and rows that were committed have different ids
  | commit p =>
    simp only [Event.perform]
    split
    next pass hpass =>
      unfold World.commit
      split
      · refine ⟨?_, herase p⟩
        have hok := hw.passes p pass hpass
        have hapart : Apart pass.released (reached sqlWarnAt db past).committed := hok.apart.mono hok.keeps
        intro f hf
        rcases List.mem_append.mp hf with hf | hf
        · obtain ⟨row, hrow, hresolved⟩ := (hconcat.passes p pass hpass).released f hf
          exact ⟨row, Table.lookup_overlay_eq_some.mpr (.inl hrow), hresolved⟩
        · obtain ⟨row, hrow, hresolved⟩ := hconcat.committed f hf
          refine ⟨row, Table.lookup_overlay_eq_some.mpr (.inr ⟨?_, hrow⟩), hresolved⟩
          exact hapart.symm.events f.slaEventId (by simp [hrow])
      · exact hconcat
    next => exact hconcat
  | crash p => exact ⟨hconcat.committed, herase p⟩
  | editTicket ticketId ticket => exact ⟨hconcat.committed, hconcat.passes⟩
  | editUser userId user => exact ⟨hconcat.committed, hconcat.passes⟩
  | recordResolved scope ticketId slaDueAt d =>
    simp only [Event.perform]
    rcases settle_recordResolved scope ticketId slaDueAt d (reached sqlWarnAt db past).db with
      hsame | ⟨row, -, hfresh, hexec⟩
    · rw [hsame]
      exact hconcat
    · rw [Tx.settle_of_ok hexec]
      refine ⟨hconcat.committed.mono (fun id row' hrow' => ?_) rfl, hconcat.passes⟩
      show (AList.insert d.slaEventId row (reached sqlWarnAt db past).db.slaEvents).lookup id = some row'
      rw [AList.lookup_insert_ne]
      · exact hrow'
      · rintro rfl
        cases hfresh.symm.trans hrow'

/-- **Run lemma**. -/
theorem WorldTraced.run (sqlWarnAt : Int → Int → Int) (db : Db) (events : List Event) :
    WorldTraced sqlWarnAt db events (reached sqlWarnAt db events) := by
  apply inv_of_history
  · exact ⟨fun f hf => absurd hf List.not_mem_nil, fun p pass hp => by cases hp⟩
  · exact fun past e h => h.step e

end

/-- An event has been told to exactly the users that its ticket addressed when it was. -/
def Told (sqlWarnAt : Int → Int → Int) (db : Db) (events : List Event) (w : World) : Prop :=
  ∀ id row, w.db.slaEvents.lookup id = some row → row.event ≠ .resolved →
    ∃ recipients, Resolved sqlWarnAt db events row.ticketId recipients ∧
      ∀ userId, userId ∈ recipients ↔ ∃ nid n, w.db.notifications.lookup nid = some n ∧
        n.slaEventId = some id ∧ n.userId = userId

theorem told (sqlWarnAt : Int → Int → Int) (db : Db) (events : List Event) :
    Told sqlWarnAt db events (reached sqlWarnAt db events) := by
  intro id row hrow hcounted
  have haccounted : Accounted none (reached sqlWarnAt db events).committed :=
    (Consistent.run sqlWarnAt db events).committed
  -- the event has its fan-out, and no other has its id
  obtain ⟨f, hf, rfl⟩ : ∃ f ∈ (reached sqlWarnAt db events).committed.fanOuts, f.slaEventId = id := by
    simpa using (haccounted.fanned id).mp ⟨row, hrow, hcounted⟩
  obtain ⟨row', hrow', hresolved⟩ := (WorldTraced.run sqlWarnAt db events).committed f hf
  obtain rfl : row = row' := Option.some.inj (hrow.symm.trans hrow')
  refine ⟨f.recipients, hresolved, fun userId => ?_⟩
  constructor
  · exact haccounted.delivered f hf userId
  · rintro ⟨nid, n, hn, hevent, rfl⟩
    obtain ⟨f', hf', hevent', hmem⟩ := haccounted.notified nid n hn
    have hsame : f'.slaEventId = f.slaEventId := Option.some.inj (hevent'.symm.trans hevent)
    have hnodup : ((reached sqlWarnAt db events).fanOuts.map (·.slaEventId)).Nodup := haccounted.fannedOnce
    rw [List.inj_on_of_nodup_map hnodup hf' hf hsame] at hmem
    exact hmem

end Helpdesk.Sla
