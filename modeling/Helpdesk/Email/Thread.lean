import Helpdesk.Email.ReplyTags

/-! # What a ticket keeps of its mail

The ticket that a mail has started keeps the subject and the sender, whatever is done to it later, and the
ids that are recorded on it only become more. `Thread` is the invariant of the runs (`thread_step`), and
`thread_created` puts it in place.

`firstTag_of_beginReply` is what follows for the subject of a reply that is drafted in any later state. -/

namespace Helpdesk.Email

open Run

/-! ## What a ticket keeps of its mail

No write of the channel touches the columns in question, apart from the metadata; and these are always written
from a row that some transaction has loaded. So `Thread` is about the stored row and about the loaded ones. -/

/-- The ticket is one that the mail has created. -/
structure StartedBy (env : Env) (organizationId : Uuid) (inbound : InboundEmail) (t : TicketColumns) :
    Prop where
  organizationId : t.organizationId = organizationId
  channel : t.channel = .email
  propertyId : t.propertyId = none
  contractId : t.contractId = none
  title : t.title = mailTitle inbound
  subject : (t.channelMetadata.getD .empty).value "subject_normalized" =
    some (normalizeSubject env.lower inbound.subject)

section
variable {env : Env} {settings : Settings} {organizationId : Uuid} {inbound : InboundEmail} {w : World}
  {ticketId : Uuid} {e : Event}

theorem startedBy_created (env : Env) (settings : Settings) (scope : OrgScope)
    (inbound : InboundEmail) (anchor : Int) (slaDueAt : Option Int) :
    StartedBy env scope.organizationId inbound { (mailTicket inbound).columns scope anchor slaDueAt with
      channelMetadata := some (newTicketMetadata env settings inbound) } :=
  ⟨rfl, rfl, rfl, rfl, rfl, by simp [Metadata.value, newTicketMetadata, List.lookup_cons]⟩

/-- Metadata that keep the subject keep the mail. -/
theorem StartedBy.rewritten {current loaded : TicketColumns} {metadata : Metadata}
    (hcurrent : StartedBy env organizationId inbound current) (hloaded : StartedBy env organizationId inbound loaded)
    (hkeeps : metadata.value "subject_normalized" =
      (loaded.channelMetadata.getD .empty).value "subject_normalized") :
    StartedBy env organizationId inbound { current with channelMetadata := some metadata } :=
  ⟨hcurrent.organizationId, hcurrent.channel, hcurrent.propertyId, hcurrent.contractId, hcurrent.title,
    hkeeps.trans hloaded.subject⟩

/-- The ticket is one that the mail has created, wherever a transaction has loaded it. -/
structure Thread (env : Env) (organizationId : Uuid) (inbound : InboundEmail) (w : World)
    (ticketId : Uuid) : Prop where
  stored : ∃ t, w.db.tickets.lookup ticketId = some t ∧ StartedBy env organizationId inbound t.toTicketColumns
  requests : ∀ request r sender loaded locked, w.requests.lookup request = some r →
    r.plan = .append sender ticketId loaded locked → StartedBy env organizationId inbound loaded.toTicketColumns
  runs : ∀ run r, w.runs.lookup run = some r → r.job.ticketId = ticketId →
    StartedBy env organizationId inbound r.draft.loaded.toTicketColumns

theorem thread_step (h : Thread env organizationId inbound w ticketId) (e : Event) :
    Thread env organizationId inbound (e.step env settings w) ticketId where
  stored := by
    obtain ⟨t, ht, hstarted⟩ := h.stored
    -- a row that is written back over the ticket, or over another one
    have hrewritten : ∀ {other : Uuid} {current row loaded : Ticket} {metadata : Metadata},
        w.db.tickets.lookup other = some current →
        row.toTicketColumns = { current.toTicketColumns with channelMetadata := some metadata } →
        (other = ticketId → StartedBy env organizationId inbound loaded.toTicketColumns) →
        metadata.value "subject_normalized" =
          (loaded.channelMetadata.getD .empty).value "subject_normalized" →
        StoresTicket w.db (e.step env settings w).db other row →
        ∃ t, (e.step env settings w).db.tickets.lookup ticketId = some t ∧
          StartedBy env organizationId inbound t.toTicketColumns := by
      intro other current row loaded metadata hcurrent hrow hloaded hkeeps hstores
      by_cases heq : ticketId = other
      · subst heq
        obtain rfl : t = current := Option.some.inj (ht.symm.trans hcurrent)
        refine ⟨row, by rw [hstores, if_pos rfl], ?_⟩
        rw [hrow]
        exact hstarted.rewritten (hloaded rfl) hkeeps
      · exact ⟨t, by rw [hstores, if_neg heq, ht], hstarted⟩
    cases ticketEffect env settings w e with
    | unchanged htickets => exact ⟨t, by rw [htickets, ht], hstarted⟩
    | appended hrequest hplan hcurrent hkeeps horg hids hstores hlog =>
      apply hrewritten hcurrent hkeeps _ rfl hstores
      rintro rfl
      exact h.requests _ _ _ _ _ hrequest hplan
    -- a new ticket has a key that is not there
    | created hrequest hfresh horg hids hstores hlog =>
      refine ⟨t, ?_, hstarted⟩
      rw [hstores, if_neg, ht]
      rintro rfl
      rw [hfresh] at ht
      cases ht
    | replied hrun hcurrent hkeeps hids hstores =>
      refine hrewritten hcurrent hkeeps (h.runs _ _ hrun) ?_ hstores
      · simp [recordOutbound, withValues, withAppended, Metadata.value, lookup_dictSet]
  requests := by
    intro request r sender loaded locked hr hplan
    rcases request_origin hr hplan with ⟨r', locked', hr', -, hplan'⟩ | ⟨hloaded, -⟩
    · exact h.requests request r' sender loaded locked' hr' hplan'
    · obtain ⟨t, ht, hstarted⟩ := h.stored
      obtain rfl : t = loaded := Option.some.inj (ht.symm.trans hloaded)
      exact hstarted
  runs := by
    intro run r hr hticket
    rcases run_origin hr with ⟨r', hr', hjob, hdraft⟩ | ⟨hloaded, -⟩
    · rw [← hdraft]
      exact h.runs run r' hr' (by rw [hjob, hticket])
    · obtain ⟨t, ht, hstarted⟩ := h.stored
      rw [hticket] at hloaded
      obtain rfl : t = r.draft.loaded := Option.some.inj (ht.symm.trans hloaded)
      exact hstarted

/-- The tickets that open transactions have loaded are stored. -/
structure Grounded (w : World) : Prop where
  requests : ∀ request r sender ticketId loaded locked, w.requests.lookup request = some r →
    r.plan = .append sender ticketId loaded locked → ticketId ∈ w.db.tickets
  runs : ∀ run r, w.runs.lookup run = some r → r.job.ticketId ∈ w.db.tickets

theorem mem_tickets_step (h : ticketId ∈ w.db.tickets) :
    ticketId ∈ (e.step env settings w).db.tickets := by
  obtain ⟨t, ht⟩ := Table.mem_iff_lookup.mp h
  have hpersists : ∃ t', (e.step env settings w).db.tickets.lookup ticketId = some t' ∧
      t'.organizationId = t.organizationId := ticket_persists ht
  obtain ⟨t', ht', -⟩ := hpersists
  exact Table.mem_iff_lookup.mpr ⟨t', ht'⟩

theorem grounded_step (h : Grounded w) (e : Event) : Grounded (e.step env settings w) where
  requests := by
    intro request r sender ticketId loaded locked hr hplan
    apply mem_tickets_step
    rcases request_origin hr hplan with ⟨r', locked', hr', -, hplan'⟩ | ⟨hloaded, -⟩
    · exact h.requests request r' sender ticketId loaded locked' hr' hplan'
    · exact Table.mem_iff_lookup.mpr ⟨loaded, hloaded⟩
  runs := by
    intro run r hr
    apply mem_tickets_step
    rcases run_origin hr with ⟨r', hr', hjob, -⟩ | ⟨hloaded, -⟩
    · rw [← hjob]
      exact h.runs run r' hr'
    · exact Table.mem_iff_lookup.mpr ⟨_, hloaded⟩

/-- Where nobody refers to the ticket yet, its creation starts the thread. -/
theorem thread_created {request : Nat} {r : Request} {sender : Sender} {d : IngestDraws}
    (hw : Grounded w) (hrequest : w.requests.lookup request = some r)
    (hplan : r.plan = .create sender)
    (hcommit : (Tx.exec (commitCreate env settings (sender.scope r.organizationId) sender r.inbound d)
      w.db).1 = .ok ()) :
    Thread env r.organizationId r.inbound ((Event.commitInbound request d).step env settings w) d.newId := by
  cases hexec : Tx.exec (commitCreate env settings (sender.scope r.organizationId) sender r.inbound d)
    w.db with
  | mk out db' =>
    rw [hexec] at hcommit
    obtain rfl : out = .ok () := hcommit
    obtain ⟨hfresh, row, slaDueAt, hrow, hstores⟩ := Tx.wp_ok wp_commitCreate hexec
    have hstep : (Event.commitInbound request d).step env settings w =
        { w with
          db := db'
          requests := w.requests.erase request
          ingested := ⟨r.organizationId, r.inbound.providerMessageId, d.newId⟩ :: w.ingested } := by
      simp only [Event.step, hrequest, World.commitInbound, hplan, World.finish, hexec]
    have hnew : d.newId ∉ w.db.tickets := fun hmem => by
      obtain ⟨t, ht⟩ := Table.mem_iff_lookup.mp hmem
      rw [hfresh] at ht
      cases ht
    rw [hstep]
    constructor
    · refine ⟨row, by rw [hstores, if_pos rfl], ?_⟩
      have hstarted := startedBy_created env settings (sender.scope r.organizationId) r.inbound d.anchor
        slaDueAt
      rw [Sender.scope_organizationId] at hstarted
      rw [hrow]
      exact hstarted
    · intro request' r' sender' loaded locked hr' hplan'
      exact absurd (hw.requests _ _ _ _ _ _ (Table.lookup_of_lookup_erase hr') hplan') hnew
    · intro run r' hr' hticket
      exact absurd (hticket ▸ hw.runs run r' hr') hnew

end

/-! ## The subject of a reply

A reply is built from the normalized subject that the ticket has stored, or from its title where this is empty. -/

/-- The text that the subject of a reply is built from. -/
def threadSubject (env : Env) (inbound : InboundEmail) : String :=
  if normalizeSubject env.lower inbound.subject = "" then mailTitle inbound
  else normalizeSubject env.lower inbound.subject

section
variable {env : Env} {settings : Settings} {organizationId : Uuid} {inbound : InboundEmail}

/-- A reply to a ticket that the mail has created carries the tag of the mail's subject, or else the
    ticket's own. -/
theorem firstTag_of_beginReply {job : ReplyJob} {draft : ReplyDraft} {db db' : Db}
    (h : Tx.exec (beginReply settings job) db = (.ok (some draft), db'))
    (hstarted : StartedBy env organizationId inbound draft.loaded.toTicketColumns) :
    firstTag draft.mail.subject.toList =
      (firstTag (threadSubject env inbound).toList).or (some (ticketTag job.ticketId)) := by
  obtain ⟨message, _, hmessage, hafter⟩ := Tx.bind_ok.mp h
  obtain ⟨ticket, _, hticket, hcheck⟩ := Tx.bind_ok.mp hafter
  rw [Tx.exec_ite] at hcheck
  split at hcheck
  · cases hcheck
  · obtain ⟨organization, _, horganization, hdraft⟩ := Tx.bind_ok.mp hcheck
    cases hdraft
    have hsubject : (orElseEmpty
        ((ticket.channelMetadata.getD .empty).value "subject_normalized") none).getD ticket.title =
        threadSubject env inbound := by
      rw [hstarted.subject, hstarted.title]
      unfold threadSubject orElseEmpty
      dsimp only
      split
      · rfl
      · rfl
    unfold buildReply
    dsimp only
    rw [firstTag_buildReplyHeaders, hsubject]

end

end Helpdesk.Email
