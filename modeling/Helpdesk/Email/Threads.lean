import Helpdesk.Email.System

/-! # The ids that a ticket records

`channel_metadata.message_ids` is read, extended and written back as a whole, by deliveries and by
reply jobs. `TicketEffect` says once what an event can do to the tickets; the invariants of the
channel are read off it.

**Key result**: `recordedIds_kept`. An id stays recorded as long as every run that commits has read the list
that it writes over. -/

namespace Helpdesk.Email

open Run

/-! ## What the writes do

The parts of a delivery and of a reply job that write, by the rules for `wp`. Each of them stores one ticket and
leaves the others; what is stored is what is there, with the metadata replaced. -/

section
variable {env : Env} {settings : Settings} {scope : OrgScope} {sender : Sender} {ticketId : Uuid}
  {loaded : Ticket} {inbound : InboundEmail} {d : IngestDraws} {db : Db}

/-- `row` is stored under `ticketId`, and the other tickets are as they were. -/
def StoresTicket (db db' : Db) (ticketId : Uuid) (row : Ticket) : Prop :=
  ∀ id, db'.tickets.lookup id = if id = ticketId then some row else db.tickets.lookup id

theorem storesTicket_modify {current row : Ticket} {db' : Db}
    (hcurrent : db.tickets.lookup ticketId = some current)
    (hdb' : db'.tickets = db.tickets.modify ticketId fun _ => row) :
    StoresTicket db db' ticketId row := by
  intro id
  rw [hdb', Table.lookup_modify]
  by_cases h : id = ticketId
  · rw [if_pos h, if_pos h, h, hcurrent, Option.map_some]
  · rw [if_neg h, if_neg h]

/-- A flush stores metadata that record other ids than the ones that were loaded. -/
theorem wp_flushMetadata {metadata : Metadata} {Q : Ticket → Db → Prop}
    (hids : messageIds (some metadata) ≠ messageIds loaded.channelMetadata)
    (hQ : ∀ (current row : Ticket) (db' : Db), db.tickets.lookup ticketId = some current →
      row.toTicketColumns = { current.toTicketColumns with channelMetadata := some metadata } →
      db'.tickets = db.tickets.modify ticketId (fun _ => row) →
      db'.messages = db.messages → Q row db') :
    Tx.wp (flushTicket ticketId loaded.toTicketColumns
      { loaded.toTicketColumns with channelMetadata := some metadata }) Q (fun _ => True) db := by
  apply wp_flushTicket
  · intro current row hcurrent hcols
    apply hQ current row _ hcurrent
    · have hne : some metadata ≠ loaded.channelMetadata := fun h => hids (by rw [h])
      rw [hcols]
      simp [TicketColumns.writeBack, WriteBack.flushAttr, hne]
    · rfl
    · rfl
  · exact fun _ _ => trivial
  · exact fun _ _ _ => trivial

/-- The INSERT of a sender leaves the tickets alone. -/
theorem wp_insertSender {Q : Unit → Db → Prop}
    (hQ : ∀ db' : Db, db'.tickets = db.tickets → Q () db') :
    Tx.wp (insertSender env sender) Q (fun _ => True) db := by
  cases sender with
  | existing userId user =>
    unfold insertSender
    rw [Tx.wp_pure]
    exact hQ db rfl
  | provisioned userId user =>
    unfold insertSender
    simp only [Tx.wp_bind, Tx.wp_store, Tx.wp_ite, Tx.wp_orRaise, Tx.wp_write, Tx.wp_raise,
      implies_true, and_true]
    intro _ users _
    exact hQ _ rfl

/-- Appending writes the loaded metadata, with the new id at the end, over what is stored. -/
theorem wp_commitAppend :
    Tx.wp (commitAppend env scope sender ticketId loaded inbound d)
      (fun _ db' => ∃ current row : Ticket, db.tickets.lookup ticketId = some current ∧
        row.toTicketColumns = { current.toTicketColumns with
          channelMetadata := some
            (withAppended loaded.channelMetadata "message_ids" inbound.providerMessageId none) } ∧
        row.organizationId = scope.organizationId ∧ StoresTicket db db' ticketId row)
      (fun _ => True) db := by
  unfold commitAppend
  rw [Tx.wp_bind]
  apply wp_insertSender
  intro db₁ htickets₁
  rw [Tx.wp_bind]
  apply wp_flushMetadata (by simp)
  intro current row db₂ hcurrent hkeeps htickets₂ _
  rw [Tx.wp_bind]
  apply Tickets.wp_createMessage
  intro ticket message hticket hsees _ _ _
  rw [Tx.wp_pure]
  rw [htickets₁] at hcurrent htickets₂
  -- the row that `create_message` selects is the one that has been flushed
  obtain rfl : row = ticket := by
    have hlookup := storesTicket_modify hcurrent htickets₂ ticketId
    rw [if_pos rfl, hticket] at hlookup
    exact (Option.some.inj hlookup).symm
  have hscope : row.organizationId = scope.organizationId := by
    simp only [OrgScope.selectsTicket, Bool.and_eq_true, decide_eq_true_eq] at hsees
    exact hsees.1
  exact ⟨current, row, hcurrent, hkeeps, hscope, storesTicket_modify hcurrent htickets₂⟩

/-- The title of a ticket that a mail creates. -/
def mailTitle (inbound : InboundEmail) : String :=
  if Text.strip inbound.subject = "" then "(no subject)" else Text.strip inbound.subject

/-- The ticket that a mail creates: it is about no property and no contract. -/
def mailTicket (inbound : InboundEmail) : Tickets.TicketCreate where
  propertyId := none
  contractId := none
  title := mailTitle inbound
  description := some inbound.textBody
  categoryId := none
  urgencyId := none
  channel := .email

/-- Creating stores a new ticket with the metadata of the mail. -/
theorem wp_commitCreate :
    Tx.wp (commitCreate env settings scope sender inbound d)
      (fun _ db' => db.tickets.lookup d.newId = none ∧ ∃ (row : Ticket) (slaDueAt : Option Int),
        row.toTicketColumns = { (mailTicket inbound).columns scope d.anchor slaDueAt with
          channelMetadata := some (newTicketMetadata env settings inbound) } ∧
        StoresTicket db db' d.newId row)
      (fun _ => True) db := by
  unfold commitCreate
  rw [Tx.wp_bind]
  apply wp_insertSender
  intro db₁ htickets₁
  rw [Tx.wp_bind]
  apply Tickets.wp_createTicket_columns
  · intro ticket urgency slaDueAt hfresh _ _ hticket _
    rw [Tx.wp_bind]
    apply wp_flushTicket
    · intro current row hcurrent hcols
      -- the flush is over the row that has just been inserted
      obtain rfl : ticket = current := by simpa using hcurrent
      rw [TicketColumns.writeBack_loaded, hticket] at hcols
      rw [Tx.wp_pure]
      refine ⟨htickets₁ ▸ hfresh, row, slaDueAt, hcols, ?_⟩
      intro id
      rw [Table.lookup_modify, Table.lookup_insert, htickets₁]
      by_cases h : id = d.newId
      · simp [h]
      · simp [h]
    · exact fun _ _ => trivial
    · exact fun _ _ _ => trivial
  · exact fun _ _ _ => trivial

/-- Recording a mail writes the loaded metadata, with the id of the mail at the end, over what is
    stored. -/
theorem wp_commitReply {job : ReplyJob} :
    Tx.wp (commitReply settings job loaded)
      (fun _ db' => ∃ current row : Ticket, db.tickets.lookup job.ticketId = some current ∧
        row.toTicketColumns = { current.toTicketColumns with
          channelMetadata := some (recordOutbound settings job.messageId loaded.channelMetadata) } ∧
        StoresTicket db db' job.ticketId row)
      (fun _ => True) db := by
  unfold commitReply
  rw [Tx.wp_bind]
  apply wp_flushMetadata (by simp)
  intro current row db' hcurrent hkeeps htickets _
  rw [Tx.wp_pure]
  exact ⟨current, row, hcurrent, hkeeps, storesTicket_modify hcurrent htickets⟩

end

/-! ## What an event does to the tickets

One case for each kind of write, with all that later proofs ask of it: who wrote, over what, and what the log
has got. -/

section
variable {env : Env} {settings : Settings} {w : World} {e : Event}

inductive TicketEffect (settings : Settings) (w w' : World) : Event → Prop where
  | unchanged {e : Event} (htickets : w'.db.tickets = w.db.tickets) : TicketEffect settings w w' e
  | appended {request : Nat} {d : IngestDraws} {r : Request} {sender : Sender} {ticketId : Uuid}
      {loaded current row : Ticket} (hrequest : w.requests.lookup request = some r)
      (hplan : r.plan = .append sender ticketId loaded true)
      (hcurrent : w.db.tickets.lookup ticketId = some current)
      (hkeeps : row.toTicketColumns = { current.toTicketColumns with
        channelMetadata := some
          (withAppended loaded.channelMetadata "message_ids" r.inbound.providerMessageId none) })
      (horg : row.organizationId = r.organizationId)
      (hids : messageIds row.channelMetadata =
        messageIds loaded.channelMetadata ++ [r.inbound.providerMessageId])
      (hstores : StoresTicket w.db w'.db ticketId row)
      (hlog : w'.ingested =
        ⟨r.organizationId, r.inbound.providerMessageId, ticketId⟩ :: w.ingested) :
      TicketEffect settings w w' (.commitInbound request d)
  | created {request : Nat} {d : IngestDraws} {r : Request} {row : Ticket}
      (hrequest : w.requests.lookup request = some r)
      (hfresh : w.db.tickets.lookup d.newId = none)
      (horg : row.organizationId = r.organizationId)
      (hids : messageIds row.channelMetadata = [r.inbound.providerMessageId])
      (hstores : StoresTicket w.db w'.db d.newId row)
      (hlog : w'.ingested =
        ⟨r.organizationId, r.inbound.providerMessageId, d.newId⟩ :: w.ingested) :
      TicketEffect settings w w' (.commitInbound request d)
  | replied {run : Nat} {r : ReplyRun} {current row : Ticket} (hrun : w.runs.lookup run = some r)
      (hcurrent : w.db.tickets.lookup r.job.ticketId = some current)
      (hkeeps : row.toTicketColumns = { current.toTicketColumns with
        channelMetadata := some
          (recordOutbound settings r.job.messageId r.draft.loaded.channelMetadata) })
      (hids : messageIds row.channelMetadata = messageIds r.draft.loaded.channelMetadata ++
        [outboundMessageId settings r.job.messageId])
      (hstores : StoresTicket w.db w'.db r.job.ticketId row) :
      TicketEffect settings w w' (.commitReply run)

@[simp] theorem Sender.scope_organizationId (sender : Sender) (organizationId : Uuid) :
    (sender.scope organizationId).organizationId = organizationId := by
  cases sender with
  | existing userId user => rfl
  | provisioned userId user => rfl

/-- A delivery that is finished commits its writes and an entry of the log, or nothing. -/
theorem finish_cases {request : Nat} {r : Request} {ticketId : Uuid} {writes : Service Unit} :
    (∃ db', Tx.exec writes w.db = (.ok (), db') ∧ w.finish request r ticketId writes =
      { w with
        db := db'
        requests := w.requests.erase request
        ingested := ⟨r.organizationId, r.inbound.providerMessageId, ticketId⟩ :: w.ingested }) ∨
    w.finish request r ticketId writes = { w with requests := w.requests.erase request } := by
  unfold World.finish
  split
  next db' hwrites => exact .inl ⟨db', hwrites, rfl⟩
  next => exact .inr rfl

/-- **What an event does to the tickets.** -/
theorem ticketEffect (env : Env) (settings : Settings) (w : World) (e : Event) :
    TicketEffect settings w (e.step env settings w) e := by
  cases e with
  -- a scan reads
  | receive request organizationId inbound d =>
    apply TicketEffect.unchanged
    simp only [Event.step, World.receive]
    split
    · split
      · rfl
      · rfl
    · rfl
  | lock request =>
    apply TicketEffect.unchanged
    simp only [Event.step]
    split
    · split
      · unfold World.lock
        split
        · rfl
        · split
          · rfl
          · rfl
      · rfl
      · rfl
    · rfl
  | commitInbound request d =>
    simp only [Event.step]
    split
    next r hrequest =>
      unfold World.commitInbound
      split
      · exact .unchanged rfl
      -- appending
      next sender ticketId loaded hplan =>
        rcases finish_cases (w := w) with ⟨db', hwrites, hfinish⟩ | hfinish
        · rw [hfinish]
          obtain ⟨current, row, hcurrent, hkeeps, horg, hstores⟩ :=
            Tx.wp_ok wp_commitAppend hwrites
          rw [Sender.scope_organizationId] at horg
          have hids : messageIds row.channelMetadata =
              messageIds loaded.channelMetadata ++ [r.inbound.providerMessageId] := by
            rw [hkeeps, messageIds_withAppended]
          exact .appended hrequest hplan hcurrent hkeeps horg hids hstores rfl
        · rw [hfinish]
          exact .unchanged rfl
      -- creating
      next sender hplan =>
        rcases finish_cases (w := w) with ⟨db', hwrites, hfinish⟩ | hfinish
        · rw [hfinish]
          obtain ⟨hfresh, row, slaDueAt, hcols, hstores⟩ := Tx.wp_ok wp_commitCreate hwrites
          have horg : row.organizationId = r.organizationId := by
            rw [hcols]
            exact Sender.scope_organizationId _ _
          have hids : messageIds row.channelMetadata = [r.inbound.providerMessageId] := by
            rw [hcols]
            simp [messageIds, newTicketMetadata, Metadata.list]
          exact .created hrequest hfresh horg hids hstores rfl
        · rw [hfinish]
          exact .unchanged rfl
    · exact .unchanged rfl
  | abortInbound request => exact .unchanged rfl
  -- a message is stored, and no ticket
  | postMessage scope messageId ticketId content basedOnSuggestionId =>
    apply TicketEffect.unchanged
    simp only [Event.step, World.postMessage]
    split
    next posted db' hpost =>
      have hspec : Tx.wp (Tickets.createMessage scope messageId ticketId content basedOnSuggestionId)
          (fun _ db' => db'.tickets = w.db.tickets) (fun _ => True) w.db :=
        Tickets.wp_createMessage fun _ _ _ _ _ _ _ => rfl
      have htickets : db'.tickets = w.db.tickets := (Tx.wp_of_ok hpost).mp hspec
      exact htickets
    · rfl
  | deliver run job =>
    apply TicketEffect.unchanged
    simp only [Event.step]
    split
    · unfold World.deliver
      split
      · rfl
      · rfl
    · rfl
  | smtp run outcome =>
    apply TicketEffect.unchanged
    simp only [Event.step]
    split
    · unfold World.smtp
      split
      · rfl
      · split
        · rfl
        · rfl
        · rfl
    · rfl
  | commitReply run =>
    simp only [Event.step]
    split
    next r hrun =>
      unfold World.settleReply
      split
      · split
        next db' hwrites =>
          obtain ⟨current, row, hcurrent, hkeeps, hstores⟩ := Tx.wp_ok wp_commitReply hwrites
          have hids : messageIds row.channelMetadata = messageIds r.draft.loaded.channelMetadata ++
              [outboundMessageId settings r.job.messageId] := by
            rw [hkeeps, messageIds_recordOutbound]
          exact .replied hrun hcurrent hkeeps hids hstores
        · exact .unchanged rfl
      · exact .unchanged rfl
    · exact .unchanged rfl
  | crash run => exact .unchanged rfl

end

/-! ## Lost updates

The list of ids is written as a whole, so a commit keeps what is recorded exactly as far as it has read it.
`CommitsCurrent` compares the stored list with the loaded one at the commit. -/

section
variable {env : Env} {settings : Settings} {w : World} {ticketId : Uuid} {id : String} {e : Event}

/-- The ids that the stored row of the ticket records. -/
def recordedIds (db : Db) (ticketId : Uuid) : List String :=
  match db.tickets.lookup ticketId with
  | some ticket => messageIds ticket.channelMetadata
  | none => []

theorem recordedIds_of_stores {db db' : Db} {row : Ticket} (h : StoresTicket db db' ticketId row) :
    recordedIds db' ticketId = messageIds row.channelMetadata := by
  rw [recordedIds, h ticketId, if_pos rfl]

theorem recordedIds_of_ne {db db' : Db} {row : Ticket} {other : Uuid}
    (h : StoresTicket db db' other row) (hne : ticketId ≠ other) :
    recordedIds db' ticketId = recordedIds db ticketId := by
  rw [recordedIds, recordedIds, h ticketId, if_neg hne]

/-- A run that commits has read the list that the ticket records by now: nobody has committed to the ticket since.
    A reply job that the relay has not accepted writes nothing. -/
def CommitsCurrent (w : World) : Event → Prop
  | .commitInbound request _ => ∀ r sender ticketId loaded, w.requests.lookup request = some r →
      r.plan = .append sender ticketId loaded true →
      recordedIds w.db ticketId = messageIds loaded.channelMetadata
  | .commitReply run => ∀ r, w.runs.lookup run = some r → r.accepted = true →
      recordedIds w.db r.job.ticketId = messageIds r.draft.loaded.channelMetadata
  | _ => True

/-- The event commits a run that appends `id` to the ticket. -/
def Appends (env : Env) (settings : Settings) (w : World) (ticketId : Uuid) (id : String) :
    Event → Prop
  | .commitInbound request d => ∃ r sender loaded, w.requests.lookup request = some r ∧
      r.plan = .append sender ticketId loaded true ∧ id = r.inbound.providerMessageId ∧
      (Tx.exec (commitAppend env (sender.scope r.organizationId) sender ticketId loaded r.inbound d)
        w.db).1 = .ok ()
  | .commitReply run => ∃ r, w.runs.lookup run = some r ∧ r.accepted = true ∧
      w.locked ticketId = false ∧ r.job.ticketId = ticketId ∧
      id = outboundMessageId settings r.job.messageId ∧
      (Tx.exec (commitReply settings r.job r.draft.loaded) w.db).1 = .ok ()
  | _ => False

/-- **One event**: a recorded id stays recorded if what is written over has been read. The list that is written is
    the one that was read, and an id more. -/
theorem mem_recordedIds_step (he : CommitsCurrent w e) (hid : id ∈ recordedIds w.db ticketId) :
    id ∈ recordedIds (e.step env settings w).db ticketId := by
  cases ticketEffect env settings w e with
  | unchanged htickets =>
    unfold recordedIds
    rwa [htickets]
  | appended hrequest hplan hcurrent hkeeps horg hids hstores hlog =>
    next request d r sender other loaded current row =>
    by_cases heq : ticketId = other
    · subst heq
      rw [recordedIds_of_stores hstores, hids, ← he r sender ticketId loaded hrequest hplan]
      exact List.mem_append_left _ hid
    · rwa [recordedIds_of_ne hstores heq]
  | created hrequest hfresh horg hids hstores hlog =>
    next request d r row =>
    by_cases heq : ticketId = d.newId
    · subst heq
      rw [recordedIds, hfresh] at hid
      cases hid
    · rwa [recordedIds_of_ne hstores heq]
  | replied hrun hcurrent hkeeps hids hstores =>
    next run r current row =>
    cases haccepted : r.accepted with
    | false =>
      have hsame : Event.step env settings w (.commitReply run) = w := by
        simp [Event.step, hrun, World.settleReply, haccepted]
      rwa [hsame]
    | true =>
      by_cases heq : ticketId = r.job.ticketId
      · subst heq
        rw [recordedIds_of_stores hstores, hids, ← he r hrun haccepted]
        exact List.mem_append_left _ hid
      · rwa [recordedIds_of_ne hstores heq]

/-- What a committing run appends is recorded. -/
theorem mem_recordedIds_of_appends (happends : Appends env settings w ticketId id e) :
    id ∈ recordedIds (e.step env settings w).db ticketId := by
  cases e with
  | commitInbound request d =>
    obtain ⟨r, sender, loaded, hrequest, hplan, rfl, hok⟩ := happends
    cases hexec : Tx.exec (commitAppend env (sender.scope r.organizationId) sender ticketId loaded
      r.inbound d) w.db with
    | mk out db' =>
      rw [hexec] at hok
      obtain rfl : out = .ok () := hok
      obtain ⟨current, row, -, hkeeps, -, hstores⟩ := Tx.wp_ok wp_commitAppend hexec
      have hstep : (Event.step env settings w (.commitInbound request d)).db = db' := by
        simp only [Event.step, hrequest, World.commitInbound, hplan, World.finish, hexec]
      rw [hstep, recordedIds_of_stores hstores, hkeeps]
      simp
  | commitReply run =>
    obtain ⟨r, hrun, haccepted, hlocked, rfl, rfl, hok⟩ := happends
    cases hexec : Tx.exec (commitReply settings r.job r.draft.loaded) w.db with
    | mk out db' =>
      rw [hexec] at hok
      obtain rfl : out = .ok () := hok
      obtain ⟨current, row, -, hkeeps, hstores⟩ := Tx.wp_ok wp_commitReply hexec
      have hstep : (Event.step env settings w (.commitReply run)).db = db' := by
        simp [Event.step, hrun, World.settleReply, haccepted, hlocked, hexec]
      rw [hstep, recordedIds_of_stores hstores, hkeeps]
      simp
  | _ => exact happends.elim

/-- **No lost update**: in a run in which every commit is over the list that has been read, what a committed run
    has appended is there in every later state. -/
theorem recordedIds_kept (env : Env) (settings : Settings) (w : World) (events : List Event)
    (hreads : AllSteps (Event.step env settings) CommitsCurrent w events)
    (pre later rest : List Event) (e : Event) (hevents : events = pre ++ e :: (later ++ rest))
    (ticketId : Uuid) (id : String)
    (happends : Appends env settings (run (Event.step env settings) w pre) ticketId id e) :
    id ∈ recordedIds (run (Event.step env settings) w (pre ++ e :: later)).db ticketId := by
  subst hevents
  obtain ⟨-, -, hlater⟩ := allSteps_append.mp hreads
  rw [run_append, run_cons]
  apply inv_of_preserved (I := fun w => id ∈ recordedIds w.db ticketId) _ _
    (allSteps_append.mp hlater).1
  · intro w e hid he
    exact mem_recordedIds_step he hid
  · exact mem_recordedIds_of_appends happends

end

/-! ## An answer that crosses a reply

The same answer and the same reply, one after the other and overlapping. -/

def emailEnv : Env where
  zoneInfo := fun _ => none
  lower := fun s => String.ofList (s.toList.map Char.toLower)
  parseaddr := fun s => ("", s)

def emailSettings : Settings :=
  ⟨"mailgun", 30, "helpdesk.local", "no-reply@real-estate-helpdesk.local"⟩

def tenant : User := ⟨some 1, "Ana", "ana@example.com", .tenant, none, .active, none⟩

/-- A ticket that came in with the mail `<m1>`. -/
def leakTicket : Ticket where
  organizationId := 1
  userId := 10
  propertyId := none
  contractId := none
  title := "Leak"
  description := some "The tap drips."
  categoryId := none
  urgencyId := none
  channel := .email
  status := .open
  classificationStatus := .pending
  agentId := none
  slaDueAt := none
  closedAt := none
  channelMetadata := some
    { lists := [("message_ids", ["<m1>"])]
      values :=
        [("provider", some "mailgun"), ("sender_address", some "ana@example.com"),
          ("subject_normalized", some "leak"), ("last_outbound_message_id", none)] }
  createdAt := days 739000
  classified_has_taxonomy := by decide
  closed_at_matches_status := by decide
  title_not_blank := by decide

def emailDb : Db :=
  { Db.empty with
    organizations := AList.insert 1 ⟨"widget-1", none, some "help@example.com", "UTC", []⟩ ∅
    users := AList.insert 10 tenant
      (AList.insert 11 ⟨some 1, "Agent", "agent@example.com", .agent, none, .active, none⟩ ∅)
    tickets := AList.insert 50 leakTicket ∅ }

/-- The customer's answer to `<m1>`. -/
def answer : InboundEmail where
  providerMessageId := "<m2>"
  inReplyTo := some "<m1>"
  references := []
  fromAddress := "ana@example.com"
  fromDisplayName := none
  toAddress := "help@example.com"
  subject := "Re: Leak"
  textBody := "Still dripping."

def receiveAnswer : List Event := [.receive 0 1 answer ⟨20, fun id => id, days 739001⟩, .lock 0]

def commitAnswer : Event := .commitInbound 0 ⟨80, days 739001⟩

/-- An agent's reply, mailed by run 0. -/
def mailReply : List Event :=
  [.postMessage ⟨1, 11, .agent⟩ 70 50 "We are on it." none, .deliver 0 0, .smtp 0 .accepted]

def lockedAnswer : Request := ⟨1, answer, .append (.existing 10 tenant) 50 leakTicket true⟩

/-- The answer comes in first, and then a reply is mailed and recorded. -/
theorem recordedIds_kept_answer :
    "<m2>" ∈ recordedIds (run (Event.step emailEnv emailSettings) (.start emailDb)
      (receiveAnswer ++ commitAnswer :: (mailReply ++ [.commitReply 0]))).db 50 := by
  have hrequest : (run (Event.step emailEnv emailSettings) (.start emailDb)
      receiveAnswer).requests.lookup 0 = some lockedAnswer := by
    decide +kernel
  set mailed := run (Event.step emailEnv emailSettings) (.start emailDb)
    (receiveAnswer ++ commitAnswer :: mailReply) with hmailed
  have hread : ((mailed.runs.lookup 0).all fun r =>
      recordedIds mailed.db r.job.ticketId = messageIds r.draft.loaded.channelMetadata) = true := by
    decide +kernel
  apply recordedIds_kept emailEnv emailSettings (.start emailDb)
    (receiveAnswer ++ commitAnswer :: ((mailReply ++ [Event.commitReply 0]) ++ [])) _ receiveAnswer
    (mailReply ++ [Event.commitReply 0]) [] commitAnswer rfl
  · exact ⟨lockedAnswer, .existing 10 tenant, leakTicket, hrequest, rfl, rfl, by decide +kernel⟩
  · refine allSteps_append.mpr ⟨⟨trivial, trivial, trivial⟩, ?_, trivial, trivial, trivial, ?_, trivial⟩
    · -- the delivery has read the row as the mail `<m1>` left it
      intro r sender ticketId loaded hr hplan
      obtain rfl := Option.some.inj (hrequest.symm.trans hr)
      cases hplan
      decide +kernel
    · -- the reply job has loaded it with both ids
      intro r hr _
      rw [Option.all_eq_true] at hread
      exact of_decide_eq_true (hread r hr)

/-- The answer commits while the relay has the reply. The reply then writes back the ids that it has
    read before, and the answer's id is gone. -/
theorem answer_lost :
    Appends emailEnv emailSettings (run (Event.step emailEnv emailSettings) (.start emailDb)
      (mailReply ++ receiveAnswer)) 50 "<m2>" commitAnswer ∧
    "<m2>" ∉ recordedIds (run (Event.step emailEnv emailSettings) (.start emailDb)
      (mailReply ++ receiveAnswer ++ commitAnswer :: [.commitReply 0])).db 50 := by
  constructor
  · exact ⟨lockedAnswer, .existing 10 tenant, leakTicket, by decide +kernel, rfl, rfl,
      by decide +kernel⟩
  · decide +kernel

end Helpdesk.Email
