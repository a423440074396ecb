import Helpdesk.Library.UnitOfWork
import Helpdesk.Tickets.Service

/-! # The unit of work of a request

The database session of a request or a job: the rows that it has loaded or inserted, over what others
have committed. The tables here are those that a chat turn or a WhatsApp delivery writes. A row that
has been loaded is written back column by column, so a column that the transaction has not assigned
keeps what is stored by then. -/

namespace Helpdesk

open WriteBack

/-! ## Rows

What a flush makes of a stored row, given what was loaded and what is current. It fails where the result
violates a CHECK, which is an IntegrityError at the commit. -/

/-- `loaded` has become `current`: the UPDATE of the row that is stored by now. -/
def Ticket.merge (loaded current stored : Ticket) : Option Ticket :=
  (Ticket.check (TicketColumns.writeBack loaded.toTicketColumns current.toTicketColumns
    stored.toTicketColumns)).toOption

/-- `loaded` has become `current`: the UPDATE of the row that is stored by now. -/
def ChatSession.merge (loaded current stored : ChatSession) : Option ChatSession :=
  let userId := flushAttr loaded.userId current.userId stored.userId
  let ticketId := flushAttr loaded.ticketId current.ticketId stored.ticketId
  if h : ticketId = none ∨ userId ≠ none then
    some
      { organizationId := flushAttr loaded.organizationId current.organizationId stored.organizationId
        userId := userId
        ticketId := ticketId
        status := flushAttr loaded.status current.status stored.status
        lowConfidenceStreak :=
          flushAttr loaded.lowConfidenceStreak current.lowConfidenceStreak stored.lowConfidenceStreak
        lastActivityAt := flushAttr loaded.lastActivityAt current.lastActivityAt stored.lastActivityAt
        channel := flushAttr loaded.channel current.channel stored.channel
        escalatedAt := flushAttr loaded.escalatedAt current.escalatedAt stored.escalatedAt
        channelMetadata :=
          flushAttr loaded.channelMetadata current.channelMetadata stored.channelMetadata
        ticket_requires_user := h }
  else none

namespace Traffic

structure Work where
  users : Table Uuid (Tracked User)
  tickets : Table Uuid (Tracked Ticket)
  messages : Table Uuid (Tracked Message)
  chatSessions : Table Uuid (Tracked ChatSession)
  chatMessages : Table Uuid (Tracked ChatMessage)

namespace Work

def empty : Work := ⟨∅, ∅, ∅, ∅, ∅⟩

variable (own : Work) (db : Db)

/-- The database as the transaction sees it. -/
def view : Db :=
  { db with
    users := UnitOfWork.view own.users db.users
    tickets := UnitOfWork.view own.tickets db.tickets
    messages := UnitOfWork.view own.messages db.messages
    chatSessions := UnitOfWork.view own.chatSessions db.chatSessions
    chatMessages := UnitOfWork.view own.chatMessages db.chatMessages }

/-- The unit of work once the transaction sees `after`. -/
def track (after : Db) : Work where
  users := UnitOfWork.track own.users db.users after.users
  tickets := UnitOfWork.track own.tickets db.tickets after.tickets
  messages := UnitOfWork.track own.messages db.messages after.messages
  chatSessions := UnitOfWork.track own.chatSessions db.chatSessions after.chatSessions
  chatMessages := UnitOfWork.track own.chatMessages db.chatMessages after.chatMessages

/-- Load a session row. -/
def loadSession (id : Uuid) : Work :=
  { own with chatSessions := UnitOfWork.load own.chatSessions db.chatSessions id }

/-- Run a part of the transaction. -/
def exec {α : Type} (x : Service α) : Except Raised (α × Work) :=
  match Tx.exec x (own.view db) with
  | (.ok a, after) => .ok (a, own.track db after)
  | (.error e, _) => .error e

/-- No user that is inserted has the address or the number of one who is stored. -/
def insertsUniqueUsers (env : Tickets.Env) : Bool :=
  own.users.entries.all fun e => e.2.loaded.isSome ||
    (db.users.select fun _ other =>
      decide (env.lower other.email = env.lower e.2.current.email) ||
        decide (e.2.current.phoneNumber ≠ none ∧ other.phoneNumber = e.2.current.phoneNumber)).isEmpty

/-- A row of a table that the transaction only inserts into. -/
def keepStored {α : Type} (_ _ stored : α) : Option α := some stored

/-- The database after the commit; `none` if the commit fails. -/
def commit (env : Tickets.Env) : Option Db :=
  if own.insertsUniqueUsers db env then do
    let users ← UnitOfWork.commit keepStored own.users db.users
    let tickets ← UnitOfWork.commit Ticket.merge own.tickets db.tickets
    let messages ← UnitOfWork.commit keepStored own.messages db.messages
    let chatSessions ← UnitOfWork.commit ChatSession.merge own.chatSessions db.chatSessions
    let chatMessages ← UnitOfWork.commit keepStored own.chatMessages db.chatMessages
    some { db with
      users := users
      tickets := tickets
      messages := messages
      chatSessions := chatSessions
      chatMessages := chatMessages }
  else none

variable {own : Work} {db : Db}

/-! ## Chat sessions

The lemmas about one table of the unit of work: what is seen of a row after a load and after a part of a
transaction, and what a commit makes of it. -/

theorem exec_ok {α : Type} {x : Service α} {a : α} {own' : Work} (h : own.exec db x = .ok (a, own')) :
    ∃ after, Tx.exec x (own.view db) = (.ok a, after) ∧ own' = own.track db after := by
  unfold exec at h
  split at h
  next a' after hx =>
    cases h
    exact ⟨after, hx, rfl⟩
  · cases h

theorem lookup_view (own : Work) (db : Db) (id : Uuid) :
    (own.view db).chatSessions.lookup id =
      ((own.chatSessions.lookup id).map (·.current)).or (db.chatSessions.lookup id) :=
  UnitOfWork.lookup_view

/-- A session that has been loaded looks the same. -/
theorem lookup_view_loadSession (own : Work) (db : Db) (id id' : Uuid) :
    ((own.loadSession db id).view db).chatSessions.lookup id' =
      (own.view db).chatSessions.lookup id' :=
  UnitOfWork.lookup_view_load id'

theorem lookup_view_empty (db : Db) (id : Uuid) :
    (empty.view db).chatSessions.lookup id = db.chatSessions.lookup id :=
  UnitOfWork.lookup_view_empty

/-- The transaction sees what it has written. -/
theorem lookup_view_track {after : Db} {id : Uuid}
    (hgrown : (own.view db).chatSessions.lookup id ≠ none → after.chatSessions.lookup id ≠ none) :
    ((own.track db after).view db).chatSessions.lookup id = after.chatSessions.lookup id :=
  UnitOfWork.lookup_view_track hgrown

theorem merge_ok {loaded current stored a : ChatSession}
    (h : ChatSession.merge loaded current stored = some a) :
    a.channelMetadata =
        WriteBack.flushAttr loaded.channelMetadata current.channelMetadata stored.channelMetadata ∧
      a.ticketId = WriteBack.flushAttr loaded.ticketId current.ticketId stored.ticketId := by
  unfold ChatSession.merge at h
  dsimp only at h
  split at h
  · cases h
    exact ⟨rfl, rfl⟩
  · cases h

/-- A commit that succeeds has merged the sessions and the chat messages. -/
theorem commit_ok {env : Tickets.Env} {after : Db} (h : own.commit db env = some after) :
    UnitOfWork.commit ChatSession.merge own.chatSessions db.chatSessions = some after.chatSessions ∧
      UnitOfWork.commit keepStored own.chatMessages db.chatMessages = some after.chatMessages := by
  unfold commit at h
  split at h
  · obtain ⟨users, -, h⟩ := Option.bind_eq_some_iff.mp h
    obtain ⟨tickets, -, h⟩ := Option.bind_eq_some_iff.mp h
    obtain ⟨messages, -, h⟩ := Option.bind_eq_some_iff.mp h
    obtain ⟨chatSessions, hsessions, h⟩ := Option.bind_eq_some_iff.mp h
    obtain ⟨chatMessages, hmessages, h⟩ := Option.bind_eq_some_iff.mp h
    cases h
    exact ⟨hsessions, hmessages⟩
  · cases h

end Work

end Traffic

end Helpdesk
