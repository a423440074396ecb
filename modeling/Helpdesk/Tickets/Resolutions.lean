import Helpdesk.Library.Run
import Helpdesk.Tickets.Service

/-! # Resolutions

`update_ticket` records a `resolved` event where the ticket enters one of the two final states. It compares
the new status with the old one, not with both of them: a step from one final state to the other is an entry
too, and the tests of the repository say so.

**`recorded_entries`**: over every sequence of calls, the events are as many as the entries. **`recorded_iff`**
tells when they are as many as the crossings from outside: exactly if no call goes from one final state to the
other. Both read the same case analysis of a call, `step_cases`. -/

namespace Helpdesk.Tickets

open Run

/-- A call of `update_ticket`, in a transaction of its own. -/
structure TicketUpdate where
  scope : OrgScope
  ticketId : Uuid
  patch : TicketPatch
  draws : UpdateDraws

def TicketUpdate.step (env : Env) (db : Db) (c : TicketUpdate) : Db :=
  (Tx.settle (updateTicket env c.scope c.ticketId c.patch c.draws) db).2

/-- `(TicketStatus.RESOLVED, TicketStatus.CLOSED)` -/
def isResolvedOrClosed (status : TicketStatus) : Bool := status = .resolved || status = .closed

/-- The rows of `sla_events` with `event = 'resolved'`, of one ticket. -/
def resolvedEvents (ticketId : Uuid) (db : Db) : List (Uuid × SlaEvent) :=
  db.slaEvents.select fun _ e => decide (e.ticketId = ticketId) && decide (e.event = .resolved)

/-- The status of the ticket is a final one. -/
def Final (ticketId : Uuid) (db : Db) : Prop :=
  ∃ t, db.tickets.lookup ticketId = some t ∧ isResolvedOrClosed t.status = true

/-- The ticket crosses into the final states. -/
structure Crosses (ticketId : Uuid) (db db' : Db) : Prop where
  outside : ∃ t, db.tickets.lookup ticketId = some t ∧ isResolvedOrClosed t.status = false
  inside : Final ticketId db'

instance (ticketId : Uuid) (db : Db) : Decidable (Final ticketId db) :=
  decidable_of_iff ((db.tickets.lookup ticketId).any fun t => isResolvedOrClosed t.status)
    (by simp [Final, Option.any_eq_true])

instance (ticketId : Uuid) (db db' : Db) : Decidable (Crosses ticketId db db') :=
  decidable_of_iff (((db.tickets.lookup ticketId).any fun t => !isResolvedOrClosed t.status) ∧ Final ticketId db')
    ⟨fun h => ⟨by simpa [Option.any_eq_true] using h.1, h.2⟩,
      fun h => ⟨by simpa [Option.any_eq_true] using h.outside, h.inside⟩⟩

/-- The calls of a sequence at which the ticket crosses. -/
def crossings (env : Env) (ticketId : Uuid) : Db → List TicketUpdate → Nat
  | _, [] => 0
  | db, c :: rest =>
    (if Crosses ticketId db (c.step env db) then 1 else 0) + crossings env ticketId (c.step env db) rest

/-- The ticket is set to a final state from a different status. -/
def Enters (ticketId : Uuid) (db db' : Db) : Prop :=
  ∃ t t', db.tickets.lookup ticketId = some t ∧ db'.tickets.lookup ticketId = some t' ∧
    isResolvedOrClosed t'.status = true ∧ t'.status ≠ t.status

instance (ticketId : Uuid) (db db' : Db) : Decidable (Enters ticketId db db') :=
  decidable_of_iff ((db.tickets.lookup ticketId).any fun t => (db'.tickets.lookup ticketId).any fun t' =>
      isResolvedOrClosed t'.status && t'.status ≠ t.status)
    (by simp only [Enters, Option.any_eq_true, Bool.and_eq_true, decide_eq_true_eq]; grind)

/-- The calls of a sequence at which the ticket enters a final state. -/
def entries (env : Env) (ticketId : Uuid) : Db → List TicketUpdate → Nat
  | _, [] => 0
  | db, c :: rest =>
    (if Enters ticketId db (c.step env db) then 1 else 0) + entries env ticketId (c.step env db) rest

/-- The call goes through, and takes the ticket from one final state to the other. -/
structure SwitchesFinal (env : Env) (ticketId : Uuid) (db : Db) (c : TicketUpdate) : Prop where
  ticket : c.ticketId = ticketId
  succeeds : (Tx.settle (updateTicket env c.scope c.ticketId c.patch c.draws) db).1.isOk = true
  switches : ∃ t status, db.tickets.lookup ticketId = some t ∧ c.patch.status = some status ∧
    isResolvedOrClosed t.status = true ∧ isResolvedOrClosed status = true ∧ status ≠ t.status

/-! ## One call

The statements of `update_ticket` are followed once, in `updateTicket_ok`. The counts only need to know whether
the call goes through, which status it leaves and whether it has recorded an event, and this is `step_cases`. -/

section
variable {env : Env} {scope : OrgScope} {ticketId : Uuid} {patch : TicketPatch} {d : UpdateDraws} {db db' : Db}

/-- What a call that goes through has written. -/
theorem updateTicket_ok {row : Ticket}
    (h : Tx.exec (updateTicket env scope ticketId patch d) db = (.ok row, db')) :
    ∃ loaded : Ticket, db.tickets.lookup ticketId = some loaded ∧ row.status = patch.status.getD loaded.status ∧
      db'.tickets = db.tickets.modify ticketId (fun _ => row) ∧
      if enteredResolvedOrClosed loaded.status patch.status = true then
        db.slaEvents.lookup d.slaEventId = none ∧ ∃ event : SlaEvent, event.ticketId = ticketId ∧
          event.event = .resolved ∧ db'.slaEvents = AList.insert d.slaEventId event db.slaEvents
      else db'.slaEvents = db.slaEvents := by
  obtain ⟨loaded, db₁, hload, hrest⟩ := Tx.bind_ok.mp h
  obtain rfl : db = db₁ := ((looksUp_loadTicket _ _).same hload).symm
  obtain ⟨-, hloaded, -⟩ := loadTicket_ok hload
  obtain ⟨assigned, db₁, hassigned, hcommit⟩ := Tx.bind_ok.mp hrest
  obtain rfl : db = db₁ := ((looksUp_resolveUpdate _ _ _).same hassigned).symm
  obtain ⟨_, db₁, hmark, h₁⟩ := Tx.bind_ok.mp hcommit
  -- the mark of a correction is in another table
  have hkept : db₁.tickets = db.tickets ∧ db₁.slaEvents = db.slaEvents := by
    unfold Tx.when at hmark
    rw [Tx.exec_ite] at hmark
    split at hmark
    · cases hmark
      exact ⟨rfl, rfl⟩
    · cases hmark
      exact ⟨rfl, rfl⟩
  obtain ⟨_, db₂, hget, h₂⟩ := Tx.bind_ok.mp h₁
  obtain rfl : db₁ = db₂ := ((looksUp_getOr404 _ _ _ _).same hget).symm
  obtain ⟨row', db₂, hflush, h₃⟩ := Tx.bind_ok.mp h₂
  obtain ⟨current, hcurrent, hcolumns, rfl⟩ := flushTicket_ok hflush
  rw [hkept.1] at hcurrent
  obtain rfl := Option.some.inj (hloaded.symm.trans hcurrent)
  have hstatus : row'.status = patch.status.getD loaded.status := by
    rw [hcolumns, TicketColumns.writeBack_loaded]
    dsimp only
    rw [(resolveUpdate_ok hassigned).1]
    unfold TicketPatch.assignStatus
    cases patch.status with
    | none => rfl
    | some status => rfl
  obtain ⟨_, db₃, hrecord, h₄⟩ := Tx.bind_ok.mp h₃
  cases h₄
  refine ⟨loaded, hloaded, hstatus, ?_⟩
  unfold Tx.when at hrecord
  rw [Tx.exec_ite] at hrecord
  split at hrecord
  next hentered =>
    rw [if_pos hentered]
    obtain ⟨_, _, hstore, hinsert⟩ := Tx.bind_ok.mp hrecord
    cases hstore
    cases hnew : db₁.slaEvents.insertNew d.slaEventId _ with
    | none =>
      rw [hnew] at hinsert
      cases hinsert
    | some slaEvents =>
      rw [hnew] at hinsert
      cases hinsert
      obtain ⟨hfresh, rfl⟩ := Table.insertNew_eq_some.mp hnew
      rw [hkept.2] at hfresh
      exact ⟨congrArg _ hkept.1, hfresh, _, rfl, rfl, by rw [hkept.2]⟩
  next hentered =>
    rw [if_neg hentered]
    cases hrecord
    exact ⟨congrArg _ hkept.1, hkept.2⟩

theorem entered_iff {previous : TicketStatus} {status : Option TicketStatus} :
    enteredResolvedOrClosed previous status = true ↔
      ∃ s, status = some s ∧ isResolvedOrClosed s = true ∧ s ≠ previous := by
  unfold enteredResolvedOrClosed isResolvedOrClosed
  cases status with
  | none => simp
  | some s => simp

theorem length_insert_event (ticketId : Uuid) {id : Uuid} {event : SlaEvent} (hfresh : db.slaEvents.lookup id = none)
    (hevent : event.event = .resolved) (hdb : db'.slaEvents = AList.insert id event db.slaEvents) :
    (resolvedEvents ticketId db').length =
      (resolvedEvents ticketId db).length + if event.ticketId = ticketId then 1 else 0 := by
  unfold resolvedEvents
  rw [hdb, Table.select_insert_of_fresh event hfresh]
  by_cases hticket : event.ticketId = ticketId
  · simp [hticket, hevent]
  · simp [hticket]

/-- The call goes through. -/
def GoesThrough (env : Env) (db : Db) (c : TicketUpdate) : Prop :=
  (Tx.settle (updateTicket env c.scope c.ticketId c.patch c.draws) db).1.isOk = true

/-- **One call.** Either it leaves the row and the events of the ticket alone, or it goes through, sets the status,
    and records an event where the new status is a final one that the ticket did not have. -/
theorem step_cases (env : Env) (ticketId : Uuid) (db : Db) (c : TicketUpdate) :
    ((c.step env db).tickets.lookup ticketId = db.tickets.lookup ticketId ∧
        (resolvedEvents ticketId (c.step env db)).length = (resolvedEvents ticketId db).length ∧
        ¬ (c.ticketId = ticketId ∧ GoesThrough env db c)) ∨
      ∃ loaded row, c.ticketId = ticketId ∧ GoesThrough env db c ∧
        db.tickets.lookup ticketId = some loaded ∧ (c.step env db).tickets.lookup ticketId = some row ∧
        row.status = c.patch.status.getD loaded.status ∧
        (resolvedEvents ticketId (c.step env db)).length = (resolvedEvents ticketId db).length +
          if enteredResolvedOrClosed loaded.status c.patch.status = true then 1 else 0 := by
  cases hexec : Tx.exec (updateTicket env c.scope c.ticketId c.patch c.draws) db with
  | mk out db' =>
  cases out with
  | error e =>
    have hsettle := Tx.settle_of_error hexec
    have hstep : c.step env db = db := congrArg Prod.snd hsettle
    refine .inl ⟨by rw [hstep], by rw [hstep], fun h => ?_⟩
    have hok := h.2
    unfold GoesThrough at hok
    rw [hsettle] at hok
    cases hok
  | ok row =>
    have hsettle := Tx.settle_of_ok hexec
    have hstep : c.step env db = db' := congrArg Prod.snd hsettle
    obtain ⟨loaded, hloaded, hstatus, htickets, hevents⟩ := updateTicket_ok hexec
    rw [hstep]
    -- a call that goes through is on this ticket or on another one
    by_cases hticket : c.ticketId = ticketId
    · subst hticket
      have hrow : db'.tickets.lookup c.ticketId = some row := by
        rw [htickets, Table.lookup_modify_self, hloaded, Option.map_some]
      refine .inr ⟨loaded, row, rfl, by rw [GoesThrough, hsettle]; rfl, hloaded, hrow, hstatus, ?_⟩
      split at hevents
      next hentered =>
        obtain ⟨hfresh, event, hevent, hresolved, hinserted⟩ := hevents
        have hlength := length_insert_event c.ticketId hfresh hresolved hinserted
        rw [if_pos hentered, hlength, if_pos hevent]
      next hentered =>
        rw [if_neg hentered, resolvedEvents, hevents]
        rfl
    · -- a call on another ticket: what it records is an event of that one
      have hlookup : db'.tickets.lookup ticketId = db.tickets.lookup ticketId := by
        rw [htickets, Table.lookup_modify_of_ne _ (Ne.symm hticket)]
      refine .inl ⟨hlookup, ?_, fun h => hticket h.1⟩
      split at hevents
      next hentered =>
        obtain ⟨hfresh, event, hevent, hresolved, hinserted⟩ := hevents
        have hlength := length_insert_event ticketId hfresh hresolved hinserted
        rwa [if_neg (by rw [hevent]; exact hticket)] at hlength
      next hentered =>
        unfold resolvedEvents
        rw [hevents]

/-- **One call** records an entry. -/
theorem entered_step (env : Env) (ticketId : Uuid) (db : Db) (c : TicketUpdate) :
    (resolvedEvents ticketId (c.step env db)).length = (resolvedEvents ticketId db).length +
      if Enters ticketId db (c.step env db) then 1 else 0 := by
  obtain ⟨hrow, hlength, -⟩ | ⟨loaded, row, -, -, hloaded, hrow, hstatus, hlength⟩ := step_cases env ticketId db c
  · have hno : ¬ Enters ticketId db (c.step env db) := by
      rintro ⟨t, t', ht, ht', -, hne⟩
      rw [hrow, ht] at ht'
      obtain rfl := Option.some.inj ht'
      exact hne rfl
    rw [hlength, if_neg hno, Nat.add_zero]
  · rw [hlength]
    refine congrArg _ (if_congr ?_ rfl rfl)
    rw [entered_iff]
    unfold Enters
    simp only [hloaded, hrow, Option.some.injEq, exists_and_left, exists_eq_left']
    rw [hstatus]
    cases c.patch.status with
    | none => simp
    | some s => simp

/-- An entry is a crossing, or a switch between the two final states. -/
theorem enters_iff (env : Env) (ticketId : Uuid) (db : Db) (c : TicketUpdate) :
    Enters ticketId db (c.step env db) ↔
      Crosses ticketId db (c.step env db) ∨ SwitchesFinal env ticketId db c := by
  obtain ⟨hrow, -, hno⟩ | ⟨loaded, row, hticket, hok, hloaded, hrow, hstatus, -⟩ := step_cases env ticketId db c
  · refine iff_of_false ?_ (not_or.mpr ⟨?_, fun h => hno ⟨h.ticket, h.succeeds⟩⟩)
    · rintro ⟨t, t', ht, ht', -, hne⟩
      rw [hrow, ht] at ht'
      obtain rfl := Option.some.inj ht'
      exact hne rfl
    · rintro ⟨⟨t, ht, hout⟩, t', ht', hin⟩
      rw [hrow, ht] at ht'
      obtain rfl := Option.some.inj ht'
      rw [hout] at hin
      cases hin
  · constructor
    · rintro ⟨t, t', ht, ht', hin, hne⟩
      obtain rfl := Option.some.inj (hloaded.symm.trans ht)
      obtain rfl := Option.some.inj (hrow.symm.trans ht')
      -- from outside, or from the other final state
      cases hbefore : isResolvedOrClosed loaded.status with
      | false => exact .inl ⟨⟨loaded, hloaded, hbefore⟩, row, hrow, hin⟩
      | true =>
        cases hs : c.patch.status with
        | none =>
          rw [hs, Option.getD_none] at hstatus
          exact absurd hstatus hne
        | some s =>
          rw [hs, Option.getD_some] at hstatus
          exact .inr ⟨hticket, hok, loaded, s, hloaded, hs, hbefore, hstatus ▸ hin, hstatus ▸ hne⟩
    · rintro (⟨⟨t, ht, hout⟩, t', ht', hin⟩ | hswitch)
      · obtain rfl := Option.some.inj (hloaded.symm.trans ht)
        refine ⟨loaded, t', hloaded, ht', hin, fun heq => ?_⟩
        rw [heq, hout] at hin
        cases hin
      · obtain ⟨t, s, ht, hs, -, hin, hne⟩ := hswitch.switches
        obtain rfl := Option.some.inj (hloaded.symm.trans ht)
        rw [hs, Option.getD_some] at hstatus
        exact ⟨loaded, row, hloaded, hrow, hstatus ▸ hin, hstatus ▸ hne⟩

theorem not_crosses_of_switchesFinal {db' : Db} {c : TicketUpdate} (h : SwitchesFinal env ticketId db c) :
    ¬ Crosses ticketId db db' := by
  rintro ⟨⟨t, ht, hout⟩, -⟩
  obtain ⟨t', _, ht', -, hin, -⟩ := h.switches
  obtain rfl := Option.some.inj (ht.symm.trans ht')
  rw [hout] at hin
  cases hin

end

/-! ## A sequence of calls

Each call adds to both sides of the count. For the crossings the two sides differ by the switches, so they are
equal only if there is none. -/

/-- **Resolution events**: as many are recorded as there are calls that set the ticket to a final state from a
    different status. -/
theorem recorded_entries (env : Env) (ticketId : Uuid) (db : Db) (calls : List TicketUpdate) :
    (resolvedEvents ticketId (run (TicketUpdate.step env) db calls)).length =
      (resolvedEvents ticketId db).length + entries env ticketId db calls := by
  induction calls generalizing db with
  | nil => rfl
  | cons c rest ih =>
    rw [run_cons, ih, entered_step, entries]
    omega

/-- As many are recorded as there are crossings from outside exactly if no call that goes through takes the
    ticket from one final state to the other. -/
theorem recorded_iff (env : Env) (ticketId : Uuid) (db : Db) (calls : List TicketUpdate) :
    (resolvedEvents ticketId (run (TicketUpdate.step env) db calls)).length =
        (resolvedEvents ticketId db).length + crossings env ticketId db calls ↔
      AllSteps (TicketUpdate.step env) (fun db c => ¬ SwitchesFinal env ticketId db c) db calls := by
  suffices hcount : (resolvedEvents ticketId db).length + crossings env ticketId db calls ≤
      (resolvedEvents ticketId (run (TicketUpdate.step env) db calls)).length ∧ (_ ↔ _) from hcount.2
  induction calls generalizing db with
  | nil => exact ⟨Nat.le_refl _, iff_of_true rfl trivial⟩
  | cons c rest ih =>
    obtain ⟨hle, hiff⟩ := ih (c.step env db)
    have hstep := entered_step env ticketId db c
    rw [run_cons, allSteps_cons, ← hiff, crossings]
    by_cases hswitch : SwitchesFinal env ticketId db c
    · rw [if_pos ((enters_iff env ticketId db c).mpr (.inr hswitch))] at hstep
      rw [if_neg (not_crosses_of_switchesFinal hswitch)]
      refine ⟨by omega, iff_of_false (by omega) fun h => h.1 hswitch⟩
    · rw [if_congr ((enters_iff env ticketId db c).trans (or_iff_left hswitch)) rfl rfl] at hstep
      rw [and_iff_right hswitch]
      omega

/-! ## Resolved, then closed -/

def resolutionEnv : Env := ⟨fun _ => none, id⟩

def resolvingAgent : OrgScope := ⟨1, 11, .agent⟩

/-- A ticket that has just been created. -/
def resolutionDb : Db :=
  (Tx.settle (createTicket resolutionEnv ⟨1, 10, .tenant⟩ 50 (days 739000)
      ⟨none, none, "Leak", none, none, none, .web⟩)
    { Db.empty with
      organizations := AList.insert 1 ⟨"widget-1", none, none, "UTC", []⟩ ∅
      users := AList.insert 10 ⟨some 1, "Tenant", "tenant@example.com", .tenant, none, .active, none⟩ ∅ }).2

def setStatus (status : TicketStatus) (n : Nat) : TicketUpdate :=
  ⟨resolvingAgent, 50, ⟨some status, none, none, none⟩, ⟨days 739001, 70 + n, days 739001⟩⟩

/-- **Counterexample** to a count of crossings: the agent resolves the ticket and then closes it, and there are two
    events of one crossing. -/
theorem not_recorded :
    (resolvedEvents 50 (run (TicketUpdate.step resolutionEnv) resolutionDb
      [setStatus .resolved 0, setStatus .closed 1])).length = 2 ∧
    (resolvedEvents 50 resolutionDb).length = 0 ∧
    crossings resolutionEnv 50 resolutionDb [setStatus .resolved 0, setStatus .closed 1] = 1 := by
  refine ⟨by decide +kernel, by decide +kernel, by decide +kernel⟩

end Helpdesk.Tickets
