import Helpdesk.Library.Overlay
import Helpdesk.Library.Run
import Helpdesk.Tickets.Service

/-! # The SLA monitor

`monitor_sla` is one transaction over all tickets whose clock has run far enough, with a savepoint
around each of them. A pass is cut here into its statements, so that other passes, edits of tickets
and failures come in between them.

An INSERT that meets a unique key which another open transaction has written waits for that
transaction to end; an event that has to wait leaves the world as it is. -/

namespace Helpdesk.Sla

/-! ## The thresholds

The warning is due when four fifths of the time are over. The fraction is a float in Python, and Postgres
computes its own; a ticket that the SELECT has found may therefore not be due yet by Python's reckoning. -/

/-- `SLA_WARNING_ELAPSED_FRACTION`: the double nearest to 0.8, as the integer ratio it is. -/
def slaWarningElapsedFraction : Int × Int := (3602879701896397, 4503599627370496)

/-- `timedelta * float`: the nearest microsecond, and the even one of two. -/
def timesFraction (delta : Int) (fraction : Int × Int) : Int :=
  let quotient := delta * fraction.1 / fraction.2
  let remainder := delta * fraction.1 % fraction.2
  if fraction.2 < 2 * remainder ∨ (2 * remainder = fraction.2 ∧ quotient % 2 = 1) then quotient + 1
  else quotient

example : timesFraction (days 5) slaWarningElapsedFraction = days 4 := by decide

/-- The two checks of `_process_ticket` differ in what they are called and when they are due. -/
def eventOf : NotificationKind → SlaEventType
  | .slaWarning => .warning
  | .slaBreached => .breached

/-- `warn_at`, and the due date itself. -/
def threshold (ticket : Ticket) (dueAt : Int) : NotificationKind → Int
  | .slaWarning => ticket.createdAt + timesFraction (dueAt - ticket.createdAt) slaWarningElapsedFraction
  | .slaBreached => dueAt

/-- The WHERE clause of the pass. `sqlWarnAt` is `created_at + (sla_due_at - created_at) * 0.8` as
    Postgres computes it. -/
def isCandidate (sqlWarnAt : Int → Int → Int) (now : Int) (ticket : Ticket) : Bool :=
  match ticket.slaDueAt with
  | none => false
  | some dueAt =>
    ticket.status ≠ .resolved && ticket.status ≠ .closed && sqlWarnAt ticket.createdAt dueAt ≤ now

/-! ## Events and notifications

The statements of `_process_ticket`, each as a program over the database. `recordOnce` returns the id of a new
event, and nothing if there is one. -/

/-- The event is recorded for the ticket. -/
def recorded (slaEvents : Table Uuid SlaEvent) (ticketId : Uuid) (event : SlaEventType) : Bool :=
  ¬ (slaEvents.select fun _ row => row.ticketId = ticketId && row.event = event).isEmpty

/-- `record_once`: `INSERT ... ON CONFLICT DO NOTHING` on the partial unique index. -/
def recordOnce (scope : OrgScope) (ticketId : Uuid) (event : SlaEventType) (slaDueAt : Option Int)
    (id : Uuid) (occurredAt : Int) : Service (Option Uuid) := do
  let db ← Tx.store
  if event ≠ .resolved ∧ recorded db.slaEvents ticketId event then pure none
  else
    let slaEvents ← Tx.orRaise
      (db.slaEvents.insertNew id
        { organizationId := scope.organizationId
          ticketId := ticketId
          event := event
          occurredAt := occurredAt
          slaDueAt := slaDueAt })
      (.integrityError .primaryKey)
    if scope.organizationId ∈ db.organizations ∧ ticketId ∈ db.tickets then
      Tx.write { db with slaEvents := slaEvents }
      pure (some id)
    else Tx.raise (.integrityError .foreignKey)

/-- `resolve_recipients`: the active admins, and the assigned agent if active. -/
def resolveRecipients (scope : OrgScope) (ticket : Ticket) (db : Db) : List (Uuid × User) :=
  let admins := db.users.select fun _ user =>
    scope.selectsUser user && user.role = .admin && user.status = .active
  match ticket.agentId with
  | none => admins
  | some agentId =>
    match db.users.lookup agentId with
    | none => admins
    | some agent =>
      if (scope.selectsUser agent ∧ agent.status = .active) ∧ ∀ admin ∈ admins, admin.1 ≠ agentId then
        admins ++ [(agentId, agent)]
      else admins

/-- `_title_for`. -/
def titleFor (kind : NotificationKind) (ticketId : Uuid) : String :=
  match kind with
  | .slaWarning => "SLA warning: ticket " ++ uuidStr ticketId
  | .slaBreached => "SLA breached: ticket " ++ uuidStr ticketId

/-- What a notification says, to whomever. -/
structure Notice where
  organizationId : Uuid
  ticketId : Uuid
  slaEventId : Uuid
  kind : NotificationKind

/-- INSERT into `notifications`. -/
def insertNotification (notice : Notice) (id userId : Uuid) : Service Unit := do
  let title := titleFor notice.kind notice.ticketId
  if htitle : Text.btrim title ≠ "" then
    let db ← Tx.store
    let notifications ← Tx.orRaise
      (db.notifications.insertNew id
        { organizationId := notice.organizationId
          userId := userId
          ticketId := some notice.ticketId
          slaEventId := some notice.slaEventId
          kind := notice.kind
          title := title
          title_not_blank := htitle })
      (.integrityError .primaryKey)
    if notice.organizationId ∈ db.organizations ∧ userId ∈ db.users ∧ notice.ticketId ∈ db.tickets ∧
        notice.slaEventId ∈ db.slaEvents then
      Tx.write { db with notifications := notifications }
    else Tx.raise (.integrityError .foreignKey)
  else Tx.raise (.integrityError .notificationsTitleNotBlank)

/-- One notification for each user; the next one to be added is number `n`. -/
def insertNotifications (notice : Notice) (ids : Nat → Uuid) :
    (n : Nat) → List Uuid → Service Unit
  | _, [] => pure ()
  | n, userId :: rest => do
    insertNotification notice (ids n) userId
    insertNotifications notice ids (n + 1) rest

/-- `fan_out`, with the flush of what it adds. -/
def fanOut (scope : OrgScope) (ticketId : Uuid) (ticket : Ticket) (slaEventId : Uuid)
    (kind : NotificationKind) (ids : Nat → Uuid) : Service (List (Uuid × User)) := do
  let db ← Tx.store
  let recipients := resolveRecipients scope ticket db
  insertNotifications ⟨scope.organizationId, ticketId, slaEventId, kind⟩ ids 0 (recipients.map (·.1))
  pure recipients

/-- `record_once`, if the threshold has been reached. -/
def recordDue (scope : OrgScope) (ticketId : Uuid) (ticket : Ticket) (now : Int)
    (kind : NotificationKind) (id : Uuid) (occurredAt : Int) : Service (Option Uuid) := do
  let dueAt ← Tx.orRaise ticket.slaDueAt .typeError
  if threshold ticket dueAt kind ≤ now then
    recordOnce scope ticketId (eventOf kind) (some dueAt) id occurredAt
  else pure none

/-! ## Open transactions

The rows that a transaction has added are kept beside the database, and what it reads is the two of them
(`Writes.seen`). The monitor deletes and updates nothing, so rows are enough. `fanOuts` is no table: it is there
for the statements of the theorems. -/

/-- A fan-out that has been carried out, and for whom. -/
structure FanOut where
  slaEventId : Uuid
  recipients : List Uuid
  deriving DecidableEq

/-- The rows of a transaction of its own, and beside them the fan-outs. -/
structure Writes where
  slaEvents : Table Uuid SlaEvent
  notifications : Table Uuid Notification
  fanOuts : List FanOut

def Writes.none : Writes := ⟨∅, ∅, []⟩

/-- The database with the rows of an open transaction. -/
def Writes.seen (own : Writes) (db : Db) : Db :=
  { db with
    slaEvents := Table.overlay own.slaEvents db.slaEvents
    notifications := Table.overlay own.notifications db.notifications }

/-- The rows of the transaction once it sees `db'`. -/
def Writes.read (db db' : Db) (fanOuts : List FanOut) : Writes :=
  ⟨Table.changes db.slaEvents db'.slaEvents, Table.changes db.notifications db'.notifications, fanOuts⟩

/-- Both transactions have written a unique key: an id, or a warning or breach of one ticket. -/
def Writes.conflicts (own other : Writes) : Bool :=
  ¬ (own.slaEvents.select fun id row =>
      id ∈ other.slaEvents || (row.event ≠ .resolved && recorded other.slaEvents row.ticketId row.event)
    ).isEmpty ||
  ¬ (own.notifications.select fun id _ => id ∈ other.notifications).isEmpty

/-! ## Passes

A savepoint is the writes as they were before the ticket: leaving it with an exception forgets what was written
since. -/

/-- The next statement of `_process_ticket`. -/
inductive Stage where
  | record (kind : NotificationKind)
  | notify (kind : NotificationKind) (slaEventId : Uuid)
  | release
  deriving DecidableEq

/-- The breach is checked after the warning. -/
def Stage.after : NotificationKind → Stage
  | .slaWarning => .record .slaBreached
  | .slaBreached => .release

/-- A ticket inside its savepoint. -/
structure Attempt where
  ticketId : Uuid
  /-- the instance that the SELECT has loaded -/
  ticket : Ticket
  stage : Stage
  writes : Writes

structure Pass where
  now : Int
  /-- the start of the transaction, which is `now()` in it -/
  startedAt : Int
  candidates : List (Uuid × Ticket)
  attempt : Option Attempt
  /-- what the savepoints that are released have written -/
  released : Writes

/-- What the pass has written so far. -/
def Pass.held (pass : Pass) : Writes :=
  match pass.attempt with
  | some attempt => attempt.writes
  | none => pass.released

/-- An exception: back to the savepoint, and on to the next ticket. -/
def Pass.fail (pass : Pass) : Pass := { pass with attempt := none }

/-- What a statement draws. -/
structure MonitorDraws where
  slaEventId : Uuid
  notificationIds : Nat → Uuid

/-- The next statement of an attempt. -/
def Pass.process (db : Db) (pass : Pass) (attempt : Attempt) (d : MonitorDraws) : Pass :=
  let scope := OrgScope.forBackgroundWorker attempt.ticket.organizationId
  match attempt.stage with
  | .record kind =>
    match Tx.exec (recordDue scope attempt.ticketId attempt.ticket pass.now kind d.slaEventId
        pass.startedAt) (attempt.writes.seen db) with
    | (.ok (some slaEventId), db') =>
      { pass with
        attempt := some { attempt with
          stage := .notify kind slaEventId
          writes := .read db db' attempt.writes.fanOuts } }
    | (.ok none, _) => { pass with attempt := some { attempt with stage := .after kind } }
    | (.error _, _) => pass.fail
  | .notify kind slaEventId =>
    match Tx.exec (fanOut scope attempt.ticketId attempt.ticket slaEventId kind d.notificationIds)
        (attempt.writes.seen db) with
    | (.ok recipients, db') =>
      { pass with
        attempt := some { attempt with
          stage := .after kind
          writes := .read db db' (⟨slaEventId, recipients.map (·.1)⟩ :: attempt.writes.fanOuts) } }
    | (.error _, _) => pass.fail
  | .release => { pass with attempt := none, released := attempt.writes }

/-- The next statement of a pass; between two tickets, the savepoint of the next one. -/
def Pass.advance (db : Db) (pass : Pass) (d : MonitorDraws) : Pass :=
  match pass.attempt, pass.candidates with
  | some attempt, _ => pass.process db attempt d
  | none, (ticketId, ticket) :: rest =>
    { pass with
      candidates := rest
      attempt := some ⟨ticketId, ticket, .record .slaWarning, pass.released⟩ }
  | none, [] => pass

/-! ## The world

All open passes with the committed database. Tickets and users may be edited at any time, and `record_resolved`
is the other writer of `sla_events`. A pass that has not come to its end does not commit. -/

structure World where
  db : Db
  passes : Table Nat Pass
  /-- the fan-outs of the transactions that are committed -/
  fanOuts : List FanOut

/-- No event is recorded yet. -/
def World.start (db : Db) : World :=
  ⟨{ db with slaEvents := ∅, notifications := ∅ }, ∅, []⟩

inductive Event where
  /-- the SELECT of a new pass; the rows come in the order of `rank` -/
  | start (pass : Nat) (now startedAt : Int) (rank : Uuid → Nat)
  | advance (pass : Nat) (d : MonitorDraws)
  | fail (pass : Nat)
  | commit (pass : Nat)
  /-- the worker is gone, or the job is cancelled -/
  | crash (pass : Nat)
  | editTicket (ticketId : Uuid) (ticket : Ticket)
  | editUser (userId : Uuid) (user : User)
  | recordResolved (scope : OrgScope) (ticketId : Uuid) (slaDueAt : Option Int)
    (d : Tickets.UpdateDraws)

/-- Another open pass has written a unique key that `own` has written too. -/
def World.clashes (w : World) (pass : Option Nat) (own : Writes) : Bool :=
  ¬ (w.passes.select fun other p => some other ≠ pass && own.conflicts p.held).isEmpty

/-- What the event would write to, with the pass that it belongs to. -/
def Event.writing (w : World) : Event → Option (Option Nat × Writes)
  | .advance pass d => (w.passes.lookup pass).map fun p => (some pass, (p.advance w.db d).held)
  | .recordResolved scope ticketId slaDueAt d =>
    some (none, .read w.db (Tx.exec (Tickets.recordResolved scope ticketId slaDueAt d) w.db).2 [])
  | _ => none

/-- The event has to wait for another transaction. -/
def Event.waits (w : World) (e : Event) : Bool :=
  match e.writing w with
  | some (pass, own) => w.clashes pass own
  | none => false

def World.startPass (sqlWarnAt : Int → Int → Int) (w : World) (pass : Nat) (now startedAt : Int)
    (rank : Uuid → Nat) : World :=
  match w.passes.lookup pass with
  | some _ => w
  | none =>
    let candidates := (w.db.tickets.select fun _ ticket => isCandidate sqlWarnAt now ticket)
      |>.insertionSort fun r s => rank r.1 ≤ rank s.1
    { w with passes := AList.insert pass ⟨now, startedAt, candidates, none, .none⟩ w.passes }

/-- The commit at the end of the pass. -/
def World.commit (w : World) (pass : Nat) (p : Pass) : World :=
  if p.attempt.isNone ∧ p.candidates = [] then
    ⟨p.released.seen w.db, w.passes.erase pass, p.released.fanOuts ++ w.fanOuts⟩
  else w

/-- An event that need not wait. -/
def Event.perform (sqlWarnAt : Int → Int → Int) (w : World) : Event → World
  | .start pass now startedAt rank => w.startPass sqlWarnAt pass now startedAt rank
  | .advance pass d =>
    { w with passes := w.passes.modify pass fun p => p.advance w.db d }
  | .fail pass => { w with passes := w.passes.modify pass Pass.fail }
  | .commit pass =>
    match w.passes.lookup pass with
    | some p => w.commit pass p
    | none => w
  | .crash pass => { w with passes := w.passes.erase pass }
  | .editTicket ticketId ticket =>
    { w with db := { w.db with tickets := AList.insert ticketId ticket w.db.tickets } }
  | .editUser userId user =>
    { w with db := { w.db with users := AList.insert userId user w.db.users } }
  | .recordResolved scope ticketId slaDueAt d =>
    { w with db := (Tx.settle (Tickets.recordResolved scope ticketId slaDueAt d) w.db).2 }

def Event.step (sqlWarnAt : Int → Int → Int) (w : World) (e : Event) : World :=
  if e.waits w then w else e.perform sqlWarnAt w

end Helpdesk.Sla
