import Mathlib.Data.Prod.Lex
import Helpdesk.Library.Run
import Helpdesk.Library.Window
import Helpdesk.Tickets.Messages

/-! # AI suggestions on a ticket

`suggest_response` and `create_message`, as transactions on one ticket under read committed. A
message is stamped with the start of its transaction and seen from its commit on; the two orders need
not agree. `suggest_response` holds a `FOR UPDATE` on the ticket while it writes a suggestion, and the
INSERT of a message waits for it, since the foreign key takes a `FOR KEY SHARE` on the same row.

A transaction is cut where another one can come in between: one event for each statement that reads
or writes `messages`. What the embeddings and the LLM answer is part of the events. -/

namespace Helpdesk.Rag

/-! ## Transactions on a ticket

How far a request has come, with what it has read on the way, and which lock on the ticket it has by then. -/

inductive Kind where
  | createMessage
  | suggestResponse
  deriving DecidableEq

/-- How far a transaction has come. -/
inductive Phase where
  /-- `create_message`, before its INSERT -/
  | posting
  | inserted (id : Uuid) (row : Message)
  /-- `suggest_response`, before `_latest_suggestion` -/
  | looking
  | cached (suggestion : Option Uuid)
  /-- the suggestion is missing or stale: the row lock comes next -/
  | waiting
  | locked
  | recached (suggestion : Option Uuid)
  /-- still missing or stale under the lock -/
  | reading
  | generating (thread : List Uuid)
  /-- a suggestion is returned as it is; the lock, if taken, is held to the end -/
  | returning (underLock : Bool)
  deriving DecidableEq

/-- The transaction has the ticket `FOR UPDATE`. -/
def Phase.holdsTicket : Phase → Bool
  | .locked | .recached _ | .reading | .generating _ => true
  | .returning underLock => underLock
  | .posting | .inserted _ _ | .looking | .cached _ | .waiting => false

/-- The transaction has some lock on the ticket. -/
def Phase.touchesTicket : Phase → Bool
  | .inserted _ _ => true
  | phase => phase.holdsTicket

structure Transaction where
  startedAt : Int
  scope : OrgScope
  phase : Phase
  deriving DecidableEq

structure World where
  db : Db
  /-- `messages.created_at` -/
  createdAt : Uuid → Int
  transactions : Table Nat Transaction
  /-- the thread that each suggestion was generated from -/
  generatedFrom : Uuid → List Uuid

section
variable (ticketId : Uuid) (w : World)

/-- The AI suggestions on the ticket. -/
def suggestions : List Uuid :=
  (w.db.messages.select fun _ m => m.ticketId = ticketId && m.isAiSuggestion).map Prod.fst

/-- The other messages on the ticket. -/
def conversation : List Uuid :=
  (w.db.messages.select fun _ m => m.ticketId = ticketId && !m.isAiSuggestion).map Prod.fst

/-- What messages are ordered by. -/
def sortKey (id : Uuid) : Int ×ₗ Uuid := toLex (w.createdAt id, id)

/-- `_latest_suggestion`. -/
def latestSuggestion : Option Uuid := Window.greatest (sortKey w) (suggestions ticketId w)

/-- `_is_fresh`. -/
def isFresh (suggestion : Uuid) : Bool :=
  (conversation ticketId w).all fun m => ¬ sortKey w suggestion < sortKey w m

/-- The messages that a draft is generated from, oldest first. -/
def threadMessages : List Uuid :=
  (conversation ticketId w).insertionSort fun a b => sortKey w a ≤ sortKey w b

end

/-! ## The events

An event whose transaction is not where the event starts from does nothing, and so does one that would have to
wait for a lock. A draft that is stored is committed in the same event: the row lock keeps others from seeing
the difference. -/

inductive Event where
  | begin (tx : Nat) (kind : Kind) (scope : OrgScope) (now : Int)
  /-- the statements of `create_message`, up to the flush -/
  | post (tx : Nat) (newId : Uuid) (content : String) (basedOnSuggestionId : Option Uuid)
  | commitMessage (tx : Nat)
  /-- the ticket, where it has not been looked up yet, and `_latest_suggestion` -/
  | look (tx : Nat)
  /-- `_is_fresh` -/
  | check (tx : Nat)
  /-- `get_or_404(ticket_id, for_update=True)` -/
  | lock (tx : Nat)
  | readThread (tx : Nat)
  /-- the LLM's draft is stored and committed -/
  | store (tx : Nat) (id : Uuid) (draft : String)
  /-- the request ends, whatever it has not committed is rolled back -/
  | finish (tx : Nat)

namespace World

variable (ticketId : Uuid) (w : World)

def setPhase (tx : Nat) (t : Transaction) (phase : Phase) : World :=
  { w with transactions := AList.insert tx { t with phase := phase } w.transactions }

def ended (tx : Nat) : World := { w with transactions := w.transactions.erase tx }

/-- The transactions whose phase satisfies `p`. -/
def inPhase (p : Phase → Bool) : List (Nat × Transaction) :=
  w.transactions.select fun _ t => p t.phase

def begin (tx : Nat) (kind : Kind) (scope : OrgScope) (now : Int) : World :=
  if w.transactions.lookup tx = none then
    w.setPhase tx ⟨now, scope, .posting⟩
      (match kind with
        | .createMessage => .posting
        | .suggestResponse => .looking)
  else w

/-- The INSERT waits while another transaction has the ticket `FOR UPDATE`. -/
def post (tx : Nat) (newId : Uuid) (content : String) (basedOnSuggestionId : Option Uuid) : World :=
  match w.transactions.lookup tx with
  | some t =>
    if t.phase = .posting ∧ w.inPhase Phase.holdsTicket = [] then
      match Tx.exec (Tickets.createMessage t.scope newId ticketId content basedOnSuggestionId) w.db with
      | (.ok posted, _) => w.setPhase tx t (.inserted newId posted.message)
      | (.error _, _) => w.ended tx
    else w
  | none => w

/-- A committed row, stamped with the start of its transaction. -/
def commitRow (tx : Nat) (t : Transaction) (id : Uuid) (row : Message) : World :=
  match w.db.messages.insertNew id row with
  | some messages =>
    { w.ended tx with
      db := { w.db with messages := messages }
      createdAt := Function.update w.createdAt id t.startedAt }
  | none => w.ended tx

def commitMessage (tx : Nat) : World :=
  match w.transactions.lookup tx with
  | some t =>
    match t.phase with
    | .inserted id row => w.commitRow tx t id row
    | _ => w
  | none => w

def look (tx : Nat) : World :=
  match w.transactions.lookup tx with
  | some t =>
    match t.phase with
    | .looking =>
      match Tx.exec (t.scope.getTicket ticketId) w.db with
      | (.ok _, _) => w.setPhase tx t (.cached (latestSuggestion ticketId w))
      | (.error _, _) => w.ended tx
    | .locked => w.setPhase tx t (.recached (latestSuggestion ticketId w))
    | _ => w
  | none => w

/-- The suggestion is there and fresh. -/
def servable (suggestion : Option Uuid) : Bool := suggestion.any (isFresh ticketId w)

def check (tx : Nat) : World :=
  match w.transactions.lookup tx with
  | some t =>
    match t.phase with
    | .cached suggestion =>
      w.setPhase tx t (if w.servable ticketId suggestion then .returning false else .waiting)
    | .recached suggestion =>
      w.setPhase tx t (if w.servable ticketId suggestion then .returning true else .reading)
    | _ => w
  | none => w

def lock (tx : Nat) : World :=
  match w.transactions.lookup tx with
  | some t =>
    if t.phase = .waiting ∧ w.inPhase Phase.touchesTicket = [] then
      match Tx.exec (t.scope.getTicket ticketId) w.db with
      | (.ok _, _) => w.setPhase tx t .locked
      | (.error _, _) => w.ended tx
    else w
  | none => w

def readThread (tx : Nat) : World :=
  match w.transactions.lookup tx with
  | some t =>
    if t.phase = .reading then w.setPhase tx t (.generating (threadMessages ticketId w)) else w
  | none => w

/-- An empty draft raises, and so does a blank one. -/
def store (tx : Nat) (id : Uuid) (draft : String) : World :=
  match w.transactions.lookup tx with
  | some t =>
    match t.phase with
    | .generating thread =>
      if h : Text.btrim (Text.strip draft) ≠ "" then
        { w.commitRow tx t id
            { ticketId := ticketId
              authorType := .bot
              content := Text.strip draft
              isAiSuggestion := true
              basedOnSuggestionId := none
              content_not_blank := h } with
          generatedFrom :=
            if w.db.messages.lookup id = none then Function.update w.generatedFrom id thread
            else w.generatedFrom }
      else w.ended tx
    | _ => w
  | none => w

def step : Event → World
  | .begin tx kind scope now => w.begin tx kind scope now
  | .post tx newId content basedOnSuggestionId => w.post ticketId tx newId content basedOnSuggestionId
  | .commitMessage tx => w.commitMessage tx
  | .look tx => w.look ticketId tx
  | .check tx => w.check ticketId tx
  | .lock tx => w.lock ticketId tx
  | .readThread tx => w.readThread ticketId tx
  | .store tx id draft => w.store ticketId tx id draft
  | .finish tx => w.ended tx

end World

end Helpdesk.Rag
