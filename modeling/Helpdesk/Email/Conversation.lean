import Helpdesk.Email.Thread

/-! # A mail, a reply and an answer

A reply carries its ticket in two ways: in the Message-IDs that it names, and in a tag that is put
into its subject. The answer comes back with the subject, and with the ids if they survive.

The tag is put into the subject that the mail came with, and only if there is none in it yet: a
customer's own `[#xxxxxxxx]` stays where it is and keeps the ticket's tag out.

**`appended_iff`**: an answer is appended to its ticket exactly if its sender is no owner, it says
something, and the ids or the tag or the latest subject lead to the ticket. The ladder of the three is
`matched_iff`, on the candidates that the sender sees; what the delivery then writes is
`exec_commitAppend`. -/

namespace Helpdesk.Email

open Run

/-! ## The answer

`Correspondence` is a mail that creates a ticket, a reply to it and an answer to that reply, with any events in
between. `Conversation` adds what an answer needs to be one of the ticket's customer. The three ways of
`FindsThread` are the rungs of the ladder, each with the condition that the rungs before it have led nowhere. -/

/-- A ticket that the subject may lead to. -/
def Eligible (env : Env) (settings : Settings) (now : Int) (inbound : InboundEmail)
    (candidate : Candidate) : Bool :=
  let metadata := candidate.2.channelMetadata.getD .empty
  candidate.2.status ≠ .closed ∧
    metadata.value "sender_address" = some (env.lower inbound.fromAddress) ∧
    metadata.value "subject_normalized" = some (normalizeSubject env.lower inbound.subject) ∧
    candidate.2.createdAt > now - days settings.emailThreadSubjectMatchDays

theorem matchBySenderSubjectFallback_eq (env : Env) (settings : Settings) (now : Int)
    (candidates : List Candidate) (inbound : InboundEmail) :
    matchBySenderSubjectFallback env settings now candidates inbound =
      latestCreated (candidates.filter (Eligible env settings now inbound)) := rfl

theorem length_of_tagInFront {cs tag : List Char} (h : tagInFront cs = some tag) :
    tag.length = 8 := by
  unfold tagInFront at h
  split at h
  · split at h
    next hlength =>
      cases h
      exact hlength.1
    · cases h
  · cases h

theorem length_of_firstTag {cs tag : List Char} (h : firstTag cs = some tag) : tag.length = 8 := by
  obtain ⟨suffix, -, hfront⟩ := List.exists_of_findSome?_eq_some h
  exact length_of_tagInFront hfront

theorem isPrefixOf_hexDigits {tag : List Char} (h : tag.length = 8) (id : Uuid) :
    tag.isPrefixOf (hexDigits 32 id) = true ↔ ticketTag id = tag := by
  rw [List.isPrefixOf_iff_prefix, List.prefix_iff_eq_take, h, eq_comm]
  rfl

/-- The second rung, for a subject with a tag. -/
theorem matchBySubjectTag_of_tag {candidates : List Candidate} {inbound : InboundEmail}
    {tag : List Char} (h : firstTag inbound.subject.toList = some tag) :
    matchBySubjectTag candidates inbound =
      match candidates.filter fun candidate => ticketTag candidate.1 = tag with
      | [candidate] => some candidate
      | _ => none := by
  have hfilter : (candidates.filter fun candidate =>
      (String.ofList tag).toList.isPrefixOf (hexDigits 32 candidate.1)) =
      candidates.filter fun candidate => ticketTag candidate.1 = tag := by
    apply List.filter_congr
    intro candidate _
    rw [String.toList_ofList, Bool.eq_iff_iff, isPrefixOf_hexDigits (length_of_firstTag h)]
    simp
  unfold matchBySubjectTag
  rw [parseTicketTag_eq, h]
  exact congrArg (fun matches_ : List Candidate => match matches_ with
    | [candidate] => some candidate
    | _ => none) hfilter

/-- A mail, an agent's reply to its ticket, and a mail with the subject of the reply. -/
structure Correspondence (env : Env) (settings : Settings) where
  db : Db
  opening : List Event
  /-- the delivery of the mail, and what it draws: the key of the ticket that it creates -/
  request : Nat
  delivery : Request
  author : Sender
  d : IngestDraws
  isOpen : (run (Event.step env settings) (.start db) opening).requests.lookup request = some delivery
  creates : delivery.plan = .create author
  created : (Tx.exec (commitCreate env settings (author.scope delivery.organizationId) author
    delivery.inbound d) (run (Event.step env settings) (.start db) opening).db).1 = .ok ()
  before : List Event
  /-- the reply -/
  job : ReplyJob
  draft : ReplyDraft
  replies : (Tx.exec (beginReply settings job) (run (Event.step env settings) (.start db)
    (opening ++ .commitInbound request d :: before)).db).1 = .ok (some draft)
  repliesToTicket : job.ticketId = d.newId
  after : List Event
  /-- the answer -/
  answer : InboundEmail
  answers : AnswersTo draft.mail.subject.toList answer.subject.toList

/-- The state in which the answer comes in. -/
def Correspondence.world {env : Env} {settings : Settings} (c : Correspondence env settings) : World :=
  run (Event.step env settings) (.start c.db)
    (c.opening ++ .commitInbound c.request c.d :: (c.before ++ c.after))

/-- The answer comes from the reporter of the ticket, which is not closed; its Message-Id is new in the
    organization, and so is the key of the message it will be. -/
structure Conversation (env : Env) (settings : Settings) extends Correspondence env settings where
  ticket : Ticket
  stored : toCorrespondence.world.db.tickets.lookup d.newId = some ticket
  notClosed : ticket.status ≠ .closed
  uniqueTag : ∀ id t, toCorrespondence.world.db.tickets.lookup id = some t →
    t.organizationId = delivery.organizationId → ticketTag id = ticketTag d.newId → id = d.newId
  user : User
  scan : ScanDraws
  sameSender : Resolves env delivery.organizationId scan.newUserId answer toCorrespondence.world.db
    (.existing ticket.userId user)
  isNew : ∀ id t, toCorrespondence.world.db.tickets.lookup id = some t →
    t.organizationId = delivery.organizationId →
    answer.providerMessageId ∉ messageIds t.channelMetadata
  writes : IngestDraws
  freshKey : toCorrespondence.world.db.messages.lookup writes.newId = none

namespace Conversation

variable {env : Env} {settings : Settings} (c : Conversation env settings)

/-- The email tickets that the sender of the answer sees. -/
def candidates : List Candidate :=
  loadEmailCandidates (Sender.scope c.delivery.organizationId (.existing c.ticket.userId c.user))
    c.scan.rank c.world.db

/-- The answer ends up on the ticket. -/
def Appended : Prop :=
  ∃ sender loaded db' message,
    Tx.exec (ingestInboundEmail env settings c.delivery.organizationId c.answer c.scan c.writes)
      c.world.db = (.ok (.append sender c.d.newId loaded), db') ∧
    db'.messages.lookup c.writes.newId = some message ∧ message.ticketId = c.d.newId ∧
    message.content = c.answer.textBody

/-- The ids that the answer names, in the order in which they are tried. -/
def named : List String := extractReferenceIds c.answer.inReplyTo c.answer.references

/-- None of the sender's email tickets records an id that the answer names. -/
def NamesNothing (ids : List String) : Prop :=
  ∀ id ∈ ids, ∀ candidate ∈ c.candidates, id ∉ messageIds candidate.2.channelMetadata

/-- What leads the answer to its ticket. -/
inductive FindsThread : Prop where
  /-- the first id that any of the sender's email tickets records is recorded by the ticket -/
  | ids (before after : List String) (id : String) (hnamed : c.named = before ++ id :: after)
      (hbefore : c.NamesNothing before)
      (hid : findRecorded c.candidates id = some (c.d.newId, c.ticket))
  /-- the mail has left room for the ticket's tag -/
  | tag (hnothing : c.NamesNothing c.named)
      (htag : firstTag (threadSubject env c.delivery.inbound).toList = none ∨
        firstTag (threadSubject env c.delivery.inbound).toList = some (ticketTag c.d.newId))
  /-- a tag that the mail came with leads nowhere, and the subject leads to the ticket -/
  | subject (hnothing : c.NamesNothing c.named) (tag : List Char)
      (htag : firstTag (threadSubject env c.delivery.inbound).toList = some tag)
      (hother : tag ≠ ticketTag c.d.newId)
      (hsingle : ∀ candidate, c.candidates.filter (fun x => ticketTag x.1 = tag) ≠ [candidate])
      (hlatest : latestCreated (c.candidates.filter (Eligible env settings c.scan.now c.answer)) =
        some (c.d.newId, c.ticket))

/-! ### What is known of the ticket and of the answer

The ticket is followed from its creation by the invariant `Thread`, once up to the reply and once up to the
answer. The subject of the answer then has the tag that the reply was sent with. -/

theorem grounded_opening :
    Grounded (run (Event.step env settings) (.start c.db) c.opening) := by
  apply inv_of_always (I := Grounded) (fun _ e h => grounded_step h e)
  constructor
  · intro request r sender ticketId loaded locked hr
    cases hr
  · intro run r hr
    cases hr

/-- The thread is there when the reply is written. -/
theorem thread_before : Thread env c.delivery.organizationId c.delivery.inbound
    (run (Event.step env settings) (.start c.db) (c.opening ++ .commitInbound c.request c.d :: c.before))
    c.d.newId := by
  rw [run_append, run_cons]
  exact inv_of_always
    (I := fun w => Thread env c.delivery.organizationId c.delivery.inbound w c.d.newId)
    (fun _ e h => thread_step h e)
    (thread_created c.grounded_opening c.isOpen c.creates c.created) c.before

/-- The thread is there when the answer comes in. -/
theorem thread_world : Thread env c.delivery.organizationId c.delivery.inbound c.world c.d.newId := by
  have hsplit : c.world = run (Event.step env settings) (run (Event.step env settings) (.start c.db)
      (c.opening ++ .commitInbound c.request c.d :: c.before)) c.after := by
    rw [← run_append, List.append_assoc, List.cons_append]
    rfl
  rw [hsplit]
  exact inv_of_always
    (I := fun w => Thread env c.delivery.organizationId c.delivery.inbound w c.d.newId)
    (fun _ e h => thread_step h e) c.thread_before c.after

theorem startedBy_ticket :
    StartedBy env c.delivery.organizationId c.delivery.inbound c.ticket.toTicketColumns := by
  obtain ⟨t, ht, hstarted⟩ := c.thread_world.stored
  obtain rfl : t = c.ticket := Option.some.inj (ht.symm.trans c.stored)
  exact hstarted

/-- The answer carries the tag of the mail, or else the one of the ticket. -/
theorem firstTag_answer : firstTag c.answer.subject.toList =
    (firstTag (threadSubject env c.delivery.inbound).toList).or (some (ticketTag c.d.newId)) := by
  obtain ⟨db', hreplies⟩ : ∃ db', Tx.exec (beginReply settings c.job)
      (run (Event.step env settings) (.start c.db)
        (c.opening ++ .commitInbound c.request c.d :: c.before)).db = (.ok (some c.draft), db') :=
    ⟨_, Prod.ext c.replies rfl⟩
  obtain ⟨t, ht, hstarted⟩ := c.thread_before.stored
  obtain ⟨hloaded, -⟩ := loaded_of_beginReply hreplies
  rw [c.repliesToTicket] at hloaded
  obtain rfl : t = c.draft.loaded := Option.some.inj (ht.symm.trans hloaded)
  rw [firstTag_answersTo c.answers, firstTag_of_beginReply hreplies hstarted, c.repliesToTicket]

/-- Owners see no ticket that is about no property. -/
theorem mem_candidates_ticket :
    (c.d.newId, c.ticket) ∈ c.candidates ↔ c.user.role ≠ .owner := by
  have hstarted := c.startedBy_ticket
  unfold candidates
  rw [mem_loadEmailCandidates]
  simp only [c.stored, hstarted.channel, OrgScope.selectsTicket, OrgScope.roleSees, Sender.scope,
    hstarted.organizationId, hstarted.propertyId]
  cases c.user.role with
  | tenant => simp
  | owner => simp
  | agent => simp
  | admin => simp

theorem candidates_nodup : c.candidates.Nodup := by
  unfold candidates loadEmailCandidates
  exact (List.perm_insertionSort _ _).nodup_iff.mpr (Table.select_keys_nodup _ _).of_map

/-- A candidate is a ticket of the organization. -/
theorem of_mem_candidates {x : Candidate} (h : x ∈ c.candidates) :
    c.world.db.tickets.lookup x.1 = some x.2 ∧ x.2.organizationId = c.delivery.organizationId := by
  obtain ⟨hlookup, hsees, -⟩ := (mem_loadEmailCandidates _).mp h
  simp only [OrgScope.selectsTicket, Bool.and_eq_true, decide_eq_true_eq,
    Sender.scope_organizationId] at hsees
  exact ⟨hlookup, hsees.1⟩

/-- Only the ticket itself has its tag among the candidates. -/
theorem filter_ticketTag (hsees : (c.d.newId, c.ticket) ∈ c.candidates) :
    (c.candidates.filter fun x => ticketTag x.1 = ticketTag c.d.newId) = [(c.d.newId, c.ticket)] := by
  rw [← List.perm_singleton]
  apply (List.perm_ext_iff_of_nodup (c.candidates_nodup.filter _) (List.nodup_singleton _)).mpr
  rintro ⟨id, t⟩
  rw [List.mem_filter, List.mem_singleton]
  constructor
  · rintro ⟨hmem, htag⟩
    obtain ⟨hlookup, horg⟩ := c.of_mem_candidates hmem
    obtain rfl : id = c.d.newId := c.uniqueTag id t hlookup horg (of_decide_eq_true htag)
    obtain rfl : t = c.ticket := Option.some.inj (hlookup.symm.trans c.stored)
    rfl
  · intro heq
    rw [heq]
    exact ⟨hsees, by simp⟩

/-! ### The ladder

One equation for each rung, and then the three together. A rung that leads to another ticket ends the search as
well, so the conditions are about what is found and not only about whether something is. -/

theorem findReplay_answer : findReplay c.candidates c.answer.providerMessageId = none := by
  unfold findReplay findRecorded
  rw [List.find?_eq_none]
  intro x hx hcontains
  obtain ⟨hlookup, horg⟩ := c.of_mem_candidates hx
  exact c.isNew x.1 x.2 hlookup horg (contains_messageIds.mp hcontains)

theorem findRecorded_eq_none {candidates : List Candidate} {id : String} :
    findRecorded candidates id = none ↔ ∀ x ∈ candidates, id ∉ messageIds x.2.channelMetadata := by
  unfold findRecorded
  rw [List.find?_eq_none]
  simp only [contains_messageIds]

theorem matchByReference_eq_none :
    matchByReference c.candidates c.answer = none ↔ c.NamesNothing c.named := by
  unfold matchByReference NamesNothing named
  rw [List.findSome?_eq_none_iff]
  simp only [findRecorded_eq_none]

theorem matchByReference_eq_some {x : Candidate} :
    matchByReference c.candidates c.answer = some x ↔
      ∃ before id after, c.named = before ++ id :: after ∧ c.NamesNothing before ∧
        findRecorded c.candidates id = some x := by
  unfold matchByReference NamesNothing named
  rw [List.findSome?_eq_some_iff]
  simp only [findRecorded_eq_none]
  grind

/-- A foreign tag does not lead to the ticket. -/
theorem foreignTag_ne {tag : List Char} (h : tag ≠ ticketTag c.d.newId) :
    (match c.candidates.filter fun x => ticketTag x.1 = tag with
      | [candidate] => some candidate
      | _ => none) ≠ some (c.d.newId, c.ticket) := by
  intro hmatch
  split at hmatch
  next candidate heq =>
    obtain rfl := Option.some.inj hmatch
    have hmem : (c.d.newId, c.ticket) ∈ c.candidates.filter fun x => ticketTag x.1 = tag := by
      rw [heq]
      exact List.mem_singleton_self _
    have htag := (List.mem_filter.mp hmem).2
    exact h (of_decide_eq_true htag).symm
  next => cases hmatch

/-- **The ladder** leads to the ticket in one of three ways. -/
theorem matched_iff (hsees : (c.d.newId, c.ticket) ∈ c.candidates) :
    ((matchByReference c.candidates c.answer).or (matchBySubjectTag c.candidates c.answer)).or
      (matchBySenderSubjectFallback env settings c.scan.now c.candidates c.answer) =
        some (c.d.newId, c.ticket) ↔ c.FindsThread := by
  have htag := c.firstTag_answer
  rw [Option.or_assoc, Option.or_eq_some_iff, Option.or_eq_some_iff, c.matchByReference_eq_none,
    c.matchByReference_eq_some, matchBySenderSubjectFallback_eq]
  have hown : firstTag c.answer.subject.toList = some (ticketTag c.d.newId) →
      matchBySubjectTag c.candidates c.answer = some (c.d.newId, c.ticket) := by
    intro h
    rw [matchBySubjectTag_of_tag h, c.filter_ticketTag hsees]
  constructor
  · rintro (⟨before, id, after, hnamed, hbefore, hid⟩ | ⟨hnothing, hladder⟩)
    · exact .ids before after id hnamed hbefore hid
    -- no id leads anywhere, so it is up to the tag that the mail left
    · cases hmail : firstTag (threadSubject env c.delivery.inbound).toList with
      | none => exact .tag hnothing (.inl hmail)
      | some tag =>
        by_cases hsame : tag = ticketTag c.d.newId
        · exact .tag hnothing (.inr (hsame ▸ hmail))
        · rw [hmail, Option.some_or] at htag
          rw [matchBySubjectTag_of_tag htag] at hladder
          -- a ticket with that tag is another ticket
          rcases hladder with hsecond | ⟨hsecond, hthird⟩
          · exact absurd hsecond (c.foreignTag_ne hsame)
          · refine .subject hnothing tag hmail hsame ?_ hthird
            intro candidate hsingle
            rw [hsingle] at hsecond
            cases hsecond
  · rintro (⟨before, after, id, hnamed, hbefore, hid⟩ | ⟨hnothing, hmail⟩ |
      ⟨hnothing, tag, hmail, hother, hsingle, hlatest⟩)
    · exact .inl ⟨before, id, after, hnamed, hbefore, hid⟩
    · -- the ticket's own tag, or the one that the reply has added
      refine .inr ⟨hnothing, .inl (hown ?_)⟩
      rcases hmail with hnone | hsome
      · rw [htag, hnone, Option.none_or]
      · rw [htag, hsome, Option.some_or]
    · refine .inr ⟨hnothing, .inr ⟨?_, hlatest⟩⟩
      rw [hmail, Option.some_or] at htag
      rw [matchBySubjectTag_of_tag htag]
      split
      next candidate heq => exact absurd heq (hsingle candidate)
      · rfl

/-! ### The writes

What the sender may see, the sender may append to: the flush goes over the row that the scan has loaded, and a
message with a fresh key is stored unless it is blank. -/

/-- Metadata can be written back over a row that has not changed. -/
theorem exec_flushMetadata {db : Db} {ticketId : Uuid} {loaded : Ticket}
    (hstored : db.tickets.lookup ticketId = some loaded) (metadata : Metadata) :
    ∃ row : Ticket, row.toTicketColumns = { loaded.toTicketColumns with channelMetadata := some metadata } ∧
      Tx.exec (flushTicket ticketId loaded.toTicketColumns
        { loaded.toTicketColumns with channelMetadata := some metadata }) db =
        (.ok row, { db with tickets := db.tickets.modify ticketId fun _ => row }) := by
  have hwrite : TicketColumns.writeBack loaded.toTicketColumns
      { loaded.toTicketColumns with channelMetadata := some metadata } loaded.toTicketColumns =
      { loaded.toTicketColumns with channelMetadata := some metadata } :=
    TicketColumns.writeBack_loaded _ _
  refine ⟨⟨{ loaded.toTicketColumns with channelMetadata := some metadata },
    loaded.classified_has_taxonomy, loaded.closed_at_matches_status, loaded.title_not_blank⟩, rfl,
    exec_flushTicket hstored ?_ ?_⟩
  · rw [hwrite]
    exact Ticket.check_of _ _ _
  · rw [hwrite]
    simp [Ticket.foreignKeysOk, foreignKeyOk]

theorem selectsTicket_of_columns {scope : OrgScope} {db db' : Db} {t t' : Ticket} {metadata : Option Metadata}
    (h : t'.toTicketColumns = { t.toTicketColumns with channelMetadata := metadata })
    (hproperties : db'.properties = db.properties) (hcontracts : db'.contracts = db.contracts) :
    scope.selectsTicket db' t' = scope.selectsTicket db t := by
  unfold OrgScope.selectsTicket OrgScope.roleSees
  rw [h, hproperties, hcontracts]

/-- Posting a message on a ticket that the sender sees. -/
theorem exec_createMessage {scope : OrgScope} {db : Db} {newId ticketId : Uuid} {content : String}
    {ticket : Ticket} (hstored : db.tickets.lookup ticketId = some ticket)
    (hsees : scope.selectsTicket db ticket = true) (hcontent : Text.btrim content ≠ "")
    (hfresh : db.messages.lookup newId = none) :
    ∃ (posted : Tickets.PostedMessage), posted.message.ticketId = ticketId ∧
      posted.message.content = content ∧
      Tx.exec (Tickets.createMessage scope newId ticketId content none) db =
        (.ok posted, { db with messages := AList.insert newId posted.message db.messages }) := by
  have hget : Tx.exec (scope.getTicket ticketId) db = (.ok ticket, db) :=
    getOr404_ok.mpr ⟨rfl, hstored, hsees⟩
  have hmem : ticketId ∈ db.tickets := Table.mem_iff_lookup.mpr ⟨ticket, hstored⟩
  refine ⟨⟨⟨ticketId, Tickets.authorTypeFor scope, content, false, none, hcontent⟩,
    ticket.channel = .email && Tickets.authorTypeFor scope = .agent⟩, rfl, rfl, ?_⟩
  simp only [Tickets.createMessage, Tx.exec_bind, hget, Tickets.validateSuggestionReference,
    Tx.exec_pure, insertMessage, dif_pos hcontent, Tx.exec_store,
    Table.insertNew_of_fresh _ hfresh, Tx.exec_orRaise_some, if_pos hmem, Tx.exec_write]

/-- Who sees the ticket can append to it. -/
theorem exec_commitAppend (hsees : (c.d.newId, c.ticket) ∈ c.candidates)
    (hcontent : Text.btrim c.answer.textBody ≠ "") :
    ∃ db' message, Tx.exec (commitAppend env
        (Sender.scope c.delivery.organizationId (.existing c.ticket.userId c.user))
        (.existing c.ticket.userId c.user) c.d.newId c.ticket c.answer c.writes) c.world.db =
      (.ok (), db') ∧ db'.messages.lookup c.writes.newId = some message ∧
      message.ticketId = c.d.newId ∧ message.content = c.answer.textBody := by
  obtain ⟨-, hselects, -⟩ := (mem_loadEmailCandidates _).mp hsees
  obtain ⟨row, hrow, hflush⟩ := exec_flushMetadata c.stored
    (withAppended c.ticket.channelMetadata "message_ids" c.answer.providerMessageId none)
  have hstored : (c.world.db.tickets.modify c.d.newId fun _ => row).lookup c.d.newId = some row := by
    rw [Table.lookup_modify_self, c.stored, Option.map_some]
  let db : Db := { c.world.db with tickets := c.world.db.tickets.modify c.d.newId fun _ => row }
  have hselects' : (Sender.scope c.delivery.organizationId
      (.existing c.ticket.userId c.user)).selectsTicket db row = true := by
    rw [← hselects]
    exact selectsTicket_of_columns hrow rfl rfl
  have hfresh : db.messages.lookup c.writes.newId = none := c.freshKey
  obtain ⟨posted, hticket, hposted, hcreate⟩ := exec_createMessage hstored hselects' hcontent hfresh
  refine ⟨{ db with messages := AList.insert c.writes.newId posted.message db.messages },
    posted.message, ?_, AList.lookup_insert _, hticket, hposted⟩
  simp only [commitAppend, insertSender, Tx.exec_bind, Tx.exec_pure, hflush]
  rw [hcreate]

/-- What the scan decides. -/
def decision : Scan :=
  decideInbound env settings c.scan.now (.existing c.ticket.userId c.user) c.candidates c.answer

theorem exec_scan : Tx.exec (scanInbound env settings c.delivery.organizationId c.answer c.scan)
    c.world.db = (.ok c.decision, c.world.db) := by
  have hresolve : Tx.exec (resolveEmailSenderIdentity env c.delivery.organizationId c.scan.newUserId
      c.answer.fromAddress c.answer.fromDisplayName) c.world.db = (.ok (.existing c.ticket.userId c.user), c.world.db) :=
    Prod.ext c.sameSender (exec_resolve _ _ _ _ _ _)
  simp only [scanInbound, Tx.exec_bind, hresolve, Tx.exec_store, Tx.exec_pure]
  rfl

/-- The scan decides for the ticket exactly if the ladder leads to it. -/
theorem decision_iff {sender : Sender} {loaded : Ticket} :
    c.decision = .append sender c.d.newId loaded ↔ sender = .existing c.ticket.userId c.user ∧
      loaded = c.ticket ∧ c.user.role ≠ .owner ∧ c.FindsThread := by
  have hmatched : c.decision = .append sender c.d.newId loaded ↔
      sender = .existing c.ticket.userId c.user ∧
      ((matchByReference c.candidates c.answer).or (matchBySubjectTag c.candidates c.answer)).or
        (matchBySenderSubjectFallback env settings c.scan.now c.candidates c.answer) =
          some (c.d.newId, loaded) := by
    unfold decision decideInbound
    rw [c.findReplay_answer]
    dsimp only
    split
    next candidate heq =>
      rw [heq]
      constructor
      · intro h
        injection h with hsender hid hloaded
        exact ⟨hsender.symm, by rw [← hid, ← hloaded]⟩
      · rintro ⟨rfl, h⟩
        rw [Option.some.inj h]
    next heq =>
      rw [heq]
      simp
  constructor
  · intro h
    obtain ⟨hsender, hladder⟩ := hmatched.mp h
    -- a ticket that is matched is one that the sender sees
    have hmem : (c.d.newId, loaded) ∈ c.candidates := mem_of_decideInbound_append h
    obtain rfl : loaded = c.ticket :=
      Option.some.inj ((c.of_mem_candidates hmem).1.symm.trans c.stored)
    exact ⟨hsender, rfl, c.mem_candidates_ticket.mp hmem, (c.matched_iff hmem).mp hladder⟩
  · rintro ⟨hsender, rfl, hrole, hfinds⟩
    exact hmatched.mpr ⟨hsender, (c.matched_iff (c.mem_candidates_ticket.mpr hrole)).mpr hfinds⟩

end Conversation

/-! ## A customer's own tag

A mail whose subject has a tag in capitals, which is no tag until the subject has been lowercased: the reply
then finds it there and puts in none of its own. An answer that has lost the ids is not appended; one that still
has them is. -/

/-- The key of a ticket that starts with `abcdef01`. -/
def roofId : Uuid := 0xabcdef01000000000000000000000000

def roofMail : InboundEmail :=
  { answer with providerMessageId := "<r1>", inReplyTo := none, subject := "Roof", textBody := "It leaks." }

/-- The subject has a tag in capitals, which is none yet. -/
def taggedMail : InboundEmail :=
  { answer with
    providerMessageId := "<m1>", inReplyTo := none, subject := "Leak [#ABCDEF01]",
    textBody := "The tap drips." }

/-- The ticket of the tagged mail, with the ids of its thread. -/
def taggedTicket (ids : List String) (lastOutbound : Option String) : Ticket where
  organizationId := 1
  userId := 10
  propertyId := none
  contractId := none
  title := "Leak [#ABCDEF01]"
  description := some "The tap drips."
  categoryId := none
  urgencyId := none
  channel := .email
  status := .open
  classificationStatus := .pending
  agentId := none
  slaDueAt := none
  closedAt := none
  channelMetadata := some
    { lists := [("message_ids", ids)]
      values :=
        [("provider", some "mailgun"), ("sender_address", some "ana@example.com"),
          ("subject_normalized", some "leak [#abcdef01]"), ("last_outbound_message_id", lastOutbound)] }
  createdAt := days 739000
  classified_has_taxonomy := .inl (by simp)
  closed_at_matches_status := by simp [TicketColumns.ClosedAtMatchesStatus]
  title_not_blank := by
    show Text.btrim "Leak [#ABCDEF01]" ≠ ""
    decide

def replyId : String := outboundMessageId emailSettings 70

/-- The reply keeps the subject as it is: it has a tag already. -/
def taggedDraft : ReplyDraft :=
  ⟨taggedTicket ["<m1>"] none,
    { fromAddress := "help@example.com"
      replyTo := "help@example.com"
      toAddress := some "ana@example.com"
      subject := "leak [#abcdef01]"
      inReplyTo := "<m1>"
      references := "<m1>"
      messageId := replyId
      content := "We are on it." }⟩

def taggedCorrespondence : Correspondence emailEnv emailSettings where
  db := quietDb
  opening :=
    [.receive 0 1 roofMail ⟨20, fun id => id, days 739000⟩, .commitInbound 0 ⟨roofId, days 739000⟩,
      .receive 1 1 taggedMail ⟨20, fun id => id, days 739000⟩]
  request := 1
  delivery := ⟨1, taggedMail, .create (.existing 10 tenant)⟩
  author := .existing 10 tenant
  d := ⟨60, days 739000⟩
  isOpen := by decide +kernel
  creates := rfl
  created := by decide +kernel
  before := [.postMessage ⟨1, 11, .agent⟩ 70 60 "We are on it." none]
  job := ⟨70, 60, 1⟩
  draft := taggedDraft
  replies := by decide +kernel
  repliesToTicket := rfl
  after := [.deliver 0 0, .smtp 0 .accepted, .commitReply 0]
  -- the headers are lost on the way
  answer := { answer with inReplyTo := none, subject := "Re: leak [#abcdef01]" }
  answers := by
    have hprefixed : AnswersTo taggedDraft.mail.subject.toList
        (['R', 'e'] ++ [] ++ [':'] ++ [' '] ++ taggedDraft.mail.subject.toList) :=
      .prefixed (by decide) (List.forall_mem_singleton.mpr (by decide)) (.inr rfl) .same
    exact hprefixed

theorem tickets_tagged {p : Uuid → Ticket → Bool}
    (h : (taggedCorrespondence.world.db.tickets.entries.all fun e => p e.1 e.2) = true) (id : Uuid)
    (t : Ticket) (ht : taggedCorrespondence.world.db.tickets.lookup id = some t) : p id t = true :=
  List.all_eq_true.mp h ⟨id, t⟩ (Table.mem_entries.mpr ht)

theorem stored_tagged : taggedCorrespondence.world.db.tickets.lookup taggedCorrespondence.d.newId =
    some (taggedTicket ["<m1>", replyId] (some replyId)) := by
  decide +kernel

theorem uniqueTag_tagged (id : Uuid) (t : Ticket)
    (ht : taggedCorrespondence.world.db.tickets.lookup id = some t)
    (htag : ticketTag id = ticketTag taggedCorrespondence.d.newId) : id = taggedCorrespondence.d.newId := by
  have hid := tickets_tagged (p := fun id _ => ticketTag id = ticketTag taggedCorrespondence.d.newId →
    id = taggedCorrespondence.d.newId) (by decide +kernel) id t ht
  exact of_decide_eq_true hid htag

theorem isNew_tagged (id : Uuid) (t : Ticket)
    (ht : taggedCorrespondence.world.db.tickets.lookup id = some t) :
    "<m2>" ∉ messageIds t.channelMetadata := by
  have hid := tickets_tagged (p := fun _ t => "<m2>" ∉ messageIds t.channelMetadata)
    (by decide +kernel) id t ht
  exact of_decide_eq_true hid

theorem sameSender_tagged : Resolves emailEnv 1 20 taggedCorrespondence.answer
    taggedCorrespondence.world.db (.existing 10 tenant) := by
  unfold Resolves
  decide +kernel

theorem freshKey_tagged : taggedCorrespondence.world.db.messages.lookup 81 = none := by decide +kernel

def taggedConversation : Conversation emailEnv emailSettings :=
  ⟨taggedCorrespondence, taggedTicket ["<m1>", replyId] (some replyId), stored_tagged,
    (by decide : TicketStatus.open ≠ .closed), fun id t ht _ => uniqueTag_tagged id t ht, tenant,
    ⟨20, fun id => id, days 739001⟩, sameSender_tagged, fun id t ht _ => isNew_tagged id t ht,
    ⟨81, days 739001⟩, freshKey_tagged⟩

/-- The same answer, with the id of the reply in its header. -/
def namedCorrespondence : Correspondence emailEnv emailSettings :=
  { taggedCorrespondence with
    answer := { taggedCorrespondence.answer with inReplyTo := some replyId }
    answers := taggedCorrespondence.answers }

theorem world_named : namedCorrespondence.world = taggedCorrespondence.world := rfl

theorem sameSender_named : Resolves emailEnv 1 20 namedCorrespondence.answer namedCorrespondence.world.db
    (.existing 10 tenant) := by
  rw [world_named]
  exact sameSender_tagged

def namedConversation : Conversation emailEnv emailSettings :=
  ⟨namedCorrespondence, taggedTicket ["<m1>", replyId] (some replyId), stored_tagged,
    (by decide : TicketStatus.open ≠ .closed), fun id t ht _ => uniqueTag_tagged id t ht, tenant,
    ⟨20, fun id => id, days 739001⟩, sameSender_named, fun id t ht _ => isNew_tagged id t ht,
    ⟨81, days 739001⟩, freshKey_tagged⟩

end Helpdesk.Email
