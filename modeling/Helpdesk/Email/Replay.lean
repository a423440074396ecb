import Helpdesk.Email.Delivery

/-! # Replays of inbound mail

A delivery is a replay if a ticket that its sender sees records its Message-Id. The check stands for
"this mail has been ingested", and it misses that in two directions.

* `ingested_at_most_once`: a mail is ingested at most once as long as no scan misses an earlier or an
  open delivery of it, be it that the sender does not see the ticket, or that the id is not there yet.
* `replayed_iff`: a delivery that is taken for a replay is one, unless its Message-Id is empty or was
  recorded by a reply. -/

namespace Helpdesk.Email

open Run AtMostOnce

/-- `sender` is who `resolve_email_sender_identity` finds or provisions for the mail. -/
def Resolves (env : Env) (organizationId newUserId : Uuid) (inbound : InboundEmail) (db : Db)
    (sender : Sender) : Prop :=
  (Tx.exec (resolveEmailSenderIdentity env organizationId newUserId inbound.fromAddress
    inbound.fromDisplayName) db).1 =
    .ok sender

/-- An email ticket that the scope sees records the id. -/
def SeesRecorded (scope : OrgScope) (id : String) (db : Db) : Prop :=
  ∃ ticketId ticket, db.tickets.lookup ticketId = some ticket ∧ ticket.channel = .email ∧
    scope.selectsTicket db ticket = true ∧ id ∈ messageIds ticket.channelMetadata

/-- A mail with this id has been ingested in the organization. -/
def Logged (w : World) (organizationId : Uuid) (id : String) : Prop :=
  ∃ i ∈ w.ingested, i.organizationId = organizationId ∧ i.providerMessageId = id

/-- How often a mail with this id has been ingested in the organization. -/
def World.timesIngested (w : World) (organizationId : Uuid) (id : String) : Nat :=
  w.ingested.countP fun i => i.organizationId = organizationId ∧ i.providerMessageId = id

/-! ## The scan

What the scan decides, without the transaction around it: the sender that resolves, the candidates that it sees,
and the decision on these. A replay is reported exactly for an id that one of the candidates records. -/

section
variable {env : Env} {settings : Settings} {scope : OrgScope} {sender : Sender}
  {organizationId newUserId : Uuid} {inbound : InboundEmail} {d : ScanDraws} {db db' : Db}
  {scan : Scan}

theorem mem_loadEmailCandidates (rank : Uuid → Nat) {ticketId : Uuid} {ticket : Ticket} :
    (ticketId, ticket) ∈ loadEmailCandidates scope rank db ↔
      db.tickets.lookup ticketId = some ticket ∧ scope.selectsTicket db ticket = true ∧
        ticket.channel = .email := by
  unfold loadEmailCandidates
  rw [List.mem_insertionSort, Table.mem_select]
  simp

/-- Resolving a sender writes nothing. -/
theorem exec_resolve (env : Env) (organizationId newUserId : Uuid) (email : String) (displayName : Option String)
    (db : Db) : (Tx.exec (resolveEmailSenderIdentity env organizationId newUserId email displayName) db).2 = db := by
  unfold resolveEmailSenderIdentity
  rw [Tx.exec_bind, Tx.exec_store]
  dsimp only
  split
  · rfl
  · rw [Tx.exec_ite]
    split
    · rfl
    · rfl
  · rfl

/-- The scan is the decision for the sender that resolves. -/
theorem scanInbound_iff :
    (Tx.exec (scanInbound env settings organizationId inbound d) db).1 = .ok scan ↔
      ∃ sender, Resolves env organizationId d.newUserId inbound db sender ∧
        scan = decideInbound env settings d.now sender
          (loadEmailCandidates (sender.scope organizationId) d.rank db) inbound := by
  have hsame := exec_resolve env organizationId d.newUserId inbound.fromAddress inbound.fromDisplayName db
  unfold scanInbound Resolves
  rw [Tx.exec_bind]
  cases hresolve : Tx.exec (resolveEmailSenderIdentity env organizationId d.newUserId
    inbound.fromAddress inbound.fromDisplayName) db with
  | mk out db₁ =>
    rw [hresolve] at hsame
    obtain rfl : db₁ = db := hsame
    cases out with
    | error e => simp
    | ok sender =>
      simp only [Tx.exec_bind, Tx.exec_store, Tx.exec_pure, Except.ok.injEq]
      constructor
      · rintro rfl
        exact ⟨sender, rfl, rfl⟩
      · rintro ⟨_, rfl, rfl⟩
        rfl

/-- A mail is a replay exactly if a candidate records its id. -/
theorem decideInbound_replayed_iff (env : Env) (settings : Settings) (now : Int) (sender : Sender)
    {candidates : List Candidate} :
    (∃ ticketId, decideInbound env settings now sender candidates inbound = .replayed ticketId) ↔
      ∃ candidate ∈ candidates, inbound.providerMessageId ∈ messageIds candidate.2.channelMetadata := by
  unfold decideInbound findReplay findRecorded
  cases hfind : candidates.find? fun candidate =>
    contains candidate.2.channelMetadata "message_ids" inbound.providerMessageId with
  | some candidate =>
    have hmem := List.mem_of_find?_eq_some hfind
    have hcontains := List.find?_some hfind
    exact ⟨fun _ => ⟨candidate, hmem, contains_messageIds.mp hcontains⟩, fun _ => ⟨candidate.1, rfl⟩⟩
  | none =>
    rw [List.find?_eq_none] at hfind
    constructor
    · rintro ⟨ticketId, h⟩
      dsimp only at h
      split at h
      · cases h
      · cases h
    · rintro ⟨candidate, hmem, hid⟩
      exact absurd (contains_messageIds.mpr hid) (hfind candidate hmem)

/-- **Replays**: the mail is reported as a replay exactly if its sender sees its id recorded. -/
theorem scanInbound_replayed_iff :
    (∃ ticketId, (Tx.exec (scanInbound env settings organizationId inbound d) db).1 =
      .ok (.replayed ticketId)) ↔
      ∃ sender, Resolves env organizationId d.newUserId inbound db sender ∧
        SeesRecorded (sender.scope organizationId) inbound.providerMessageId db := by
  constructor
  · rintro ⟨ticketId, h⟩
    obtain ⟨sender, hresolves, hdecide⟩ := scanInbound_iff.mp h
    obtain ⟨⟨id, ticket⟩, hmem, hid⟩ :=
      (decideInbound_replayed_iff _ _ _ _).mp ⟨ticketId, hdecide.symm⟩
    obtain ⟨hlookup, hsees, hchannel⟩ := (mem_loadEmailCandidates _).mp hmem
    exact ⟨sender, hresolves, id, ticket, hlookup, hchannel, hsees, hid⟩
  · rintro ⟨sender, hresolves, id, ticket, hlookup, hchannel, hsees, hid⟩
    have hmem := (mem_loadEmailCandidates d.rank).mpr ⟨hlookup, hsees, hchannel⟩
    obtain ⟨ticketId, hdecide⟩ :=
      (decideInbound_replayed_iff env settings d.now sender).mpr ⟨(id, ticket), hmem, hid⟩
    exact ⟨ticketId, scanInbound_iff.mpr ⟨sender, hresolves, hdecide.symm⟩⟩

/-- A scan that goes on has seen no record of the mail. -/
theorem not_seesRecorded_of_plan {plan : Plan}
    (h : Tx.exec (scanInbound env settings organizationId inbound d) db = (.ok scan, db'))
    (hplan : scan.plan = some plan) : ∃ sender, Resolves env organizationId d.newUserId inbound db sender ∧
      ¬ SeesRecorded (sender.scope organizationId) inbound.providerMessageId db := by
  obtain ⟨sender, hresolves, hdecide⟩ := scanInbound_iff.mp (congrArg Prod.fst h)
  refine ⟨sender, hresolves, ?_⟩
  rintro ⟨id, ticket, hlookup, hchannel, hsees, hid⟩
  have hmem := (mem_loadEmailCandidates d.rank).mpr ⟨hlookup, hsees, hchannel⟩
  obtain ⟨ticketId, hreplayed⟩ :=
    (decideInbound_replayed_iff env settings d.now sender).mpr ⟨(id, ticket), hmem, hid⟩
  rw [hdecide, hreplayed] at hplan
  cases hplan

/-- A matched ticket is one of the candidates. -/
theorem mem_of_decideInbound_append {now : Int} {candidates : List Candidate} {sender' : Sender}
    {ticketId : Uuid} {loaded : Ticket}
    (h : decideInbound env settings now sender candidates inbound = .append sender' ticketId loaded) :
    (ticketId, loaded) ∈ candidates := by
  have hrecorded : ∀ {id candidate}, findRecorded candidates id = some candidate →
      candidate ∈ candidates := fun hfind => List.mem_of_find?_eq_some hfind
  have hreference : ∀ {candidate}, matchByReference candidates inbound = some candidate →
      candidate ∈ candidates := by
    intro candidate hmatch
    obtain ⟨id, -, hfind⟩ := List.exists_of_findSome?_eq_some hmatch
    exact hrecorded hfind
  have htag : ∀ {candidate}, matchBySubjectTag candidates inbound = some candidate →
      candidate ∈ candidates := by
    intro candidate hmatch
    unfold matchBySubjectTag at hmatch
    split at hmatch
    · cases hmatch
    · split at hmatch
      next heq =>
        cases hmatch
        have hmem : candidate ∈ [candidate] := List.mem_singleton_self _
        rw [← heq] at hmem
        exact List.mem_of_mem_filter hmem
      · cases hmatch
  have hfallback : ∀ {candidate},
      matchBySenderSubjectFallback env settings now candidates inbound = some candidate →
      candidate ∈ candidates := fun hmatch =>
    List.mem_of_mem_filter (List.argmax_mem hmatch)
  -- the three rungs, each of which picks a candidate
  unfold decideInbound at h
  split at h
  · cases h
  · dsimp only at h
    split at h
    next candidate hmatch =>
      cases h
      rcases Option.or_eq_some_iff.mp hmatch with hor | ⟨-, hlast⟩
      · rcases Option.or_eq_some_iff.mp hor with hfirst | ⟨-, hsecond⟩
        · exact hreference hfirst
        · exact htag hsecond
      · exact hfallback hlast
    · cases h

end

/-! ## At most once

Open deliveries are attempts to ingest a mail, and the log is what has been done. A mail without a Message-Id claims
nothing. The count is then the library's `once_run`. -/

/-- What a delivery claims: mails without an id are told apart by nothing. -/
def mailKey (organizationId : Uuid) (id : String) : Option (Uuid × String) :=
  if id = "" then none else some (organizationId, id)

theorem mailKey_eq_some {organizationId organizationId' : Uuid} {id id' : String} :
    mailKey organizationId id = some (organizationId', id') ↔
      id ≠ "" ∧ organizationId = organizationId' ∧ id = id' := by
  unfold mailKey
  split
  next h => simp [h]
  next h => simp [h]

/-- The deliveries as attempts to ingest a mail. -/
def World.ingesting (w : World) : AtMostOnce.State Nat (Uuid × String) where
  pending := fun request => (w.requests.lookup request).bind fun r =>
    mailKey r.organizationId r.inbound.providerMessageId
  done := w.ingested.filterMap fun i => mailKey i.organizationId i.providerMessageId

/-- A scan misses a mail: its sender does not see the id recorded, although the mail has been
    ingested in the organization or another delivery of it is open. -/
def MissesDelivery (env : Env) (w : World) : Event → Prop
  | .receive request organizationId inbound d =>
    w.requests.lookup request = none ∧ inbound.providerMessageId ≠ "" ∧
      (∃ sender, Resolves env organizationId d.newUserId inbound w.db sender ∧
        ¬ SeesRecorded (sender.scope organizationId) inbound.providerMessageId w.db) ∧
      (Logged w organizationId inbound.providerMessageId ∨ ∃ other r,
        w.requests.lookup other = some r ∧ r.organizationId = organizationId ∧
          r.inbound.providerMessageId = inbound.providerMessageId)
  | _ => False

section
variable {env : Env} {settings : Settings} {w : World} {e : Event}

/-- The deliveries after one of them has gone. -/
theorem ingesting_erase (w : World) (request : Nat) :
    World.ingesting { w with requests := w.requests.erase request } =
      (Action.drop request).step w.ingesting := by
  unfold World.ingesting
  rw [Table.bind_lookup_erase]
  rfl

theorem ingesting_congr {w' : World} (hrequests : w'.requests = w.requests)
    (hingested : w'.ingested = w.ingested) :
    w'.ingesting = (Action.skip : Action Nat (Uuid × String)).step w.ingesting := by
  unfold World.ingesting
  rw [hrequests, hingested]
  rfl

/-- A scan starts an attempt, or ends the delivery. -/
theorem ingesting_receive {request : Nat} {organizationId : Uuid} {inbound : InboundEmail}
    {d : ScanDraws} (he : ¬ MissesDelivery env w (.receive request organizationId inbound d)) :
    ∃ a : Action Nat (Uuid × String), Guarded w.ingesting a ∧
      (w.receive env settings request organizationId inbound d).ingesting = a.step w.ingesting := by
  unfold World.receive
  split
  next scan db' hfree hscan =>
    split
    next plan hplan =>
      have hinsert : World.ingesting { w with
          requests := AList.insert request ⟨organizationId, inbound, plan⟩ w.requests } =
          { w.ingesting with
            pending := Function.update w.ingesting.pending request
              (mailKey organizationId inbound.providerMessageId) } := by
        unfold World.ingesting
        rw [Table.bind_lookup_insert]
      by_cases hid : inbound.providerMessageId = ""
      · -- without an id nothing is claimed
        refine ⟨.skip, trivial, ?_⟩
        have hpending : w.ingesting.pending request = none := by
          simp [World.ingesting, hfree]
        rw [hinsert, mailKey, if_pos hid, ← hpending, Function.update_eq_self]
        rfl
      · refine ⟨.start request (organizationId, inbound.providerMessageId), ⟨?_, ?_⟩, ?_⟩
        · intro hdone
          obtain ⟨i, hi, hkey⟩ := List.mem_filterMap.mp hdone
          obtain ⟨-, horg, hsame⟩ := mailKey_eq_some.mp hkey
          exact he ⟨hfree, hid, not_seesRecorded_of_plan hscan hplan, .inl ⟨i, hi, horg, hsame⟩⟩
        · intro other hpending
          obtain ⟨r, hr, hkey⟩ := Option.bind_eq_some_iff.mp hpending
          obtain ⟨-, horg, hsame⟩ := mailKey_eq_some.mp hkey
          exact he ⟨hfree, hid, not_seesRecorded_of_plan hscan hplan,
            .inr ⟨other, r, hr, horg, hsame⟩⟩
        · rw [hinsert, mailKey, if_neg hid]
          rfl
    · exact ⟨.skip, trivial, rfl⟩
  · exact ⟨.skip, trivial, rfl⟩

/-- A delivery that gets the lock claims what it has claimed before. -/
theorem ingesting_lock {request : Nat} {r : Request} {sender : Sender} {ticketId : Uuid}
    {loaded : Ticket} (hr : w.requests.lookup request = some r) :
    ∃ a : Action Nat (Uuid × String), Guarded w.ingesting a ∧
      (w.lock request sender ticketId loaded r).ingesting = a.step w.ingesting := by
  unfold World.lock
  split
  · exact ⟨.skip, trivial, rfl⟩
  · split
    · refine ⟨.skip, trivial, ?_⟩
      have hpending : w.ingesting.pending request =
          mailKey r.organizationId r.inbound.providerMessageId := by
        simp [World.ingesting, hr]
      unfold World.ingesting
      rw [Table.bind_lookup_insert]
      dsimp only
      have hsame := Function.update_eq_self request w.ingesting.pending
      rw [hpending] at hsame
      rw [World.ingesting] at hsame
      rw [hsame]
      rfl
    · exact ⟨.drop request, trivial, ingesting_erase w request⟩

/-- A delivery that is finished acts, or is dropped. -/
theorem ingesting_finish {request : Nat} {r : Request} {ticketId : Uuid} {writes : Service Unit}
    (hr : w.requests.lookup request = some r) :
    ∃ a : Action Nat (Uuid × String), Guarded w.ingesting a ∧
      (w.finish request r ticketId writes).ingesting = a.step w.ingesting := by
  rcases finish_cases (w := w) with ⟨db', -, hfinish⟩ | hfinish
  · rw [hfinish]
    refine ⟨.act request, trivial, ?_⟩
    have hpending : w.ingesting.pending request =
        mailKey r.organizationId r.inbound.providerMessageId := by
      simp [World.ingesting, hr]
    have hdone : World.ingesting { w with
        db := db'
        requests := w.requests.erase request
        ingested := ⟨r.organizationId, r.inbound.providerMessageId, ticketId⟩ :: w.ingested } =
        ⟨Function.update w.ingesting.pending request none,
          (mailKey r.organizationId r.inbound.providerMessageId).toList ++ w.ingesting.done⟩ := by
      unfold World.ingesting
      rw [Table.bind_lookup_erase]
      cases hkey : mailKey r.organizationId r.inbound.providerMessageId with
      | none => simp [hkey]
      | some k => simp [hkey]
    rw [hdone, Action.step, hpending]
    cases hkey : mailKey r.organizationId r.inbound.providerMessageId with
    | none =>
      rw [hkey] at hpending
      rw [← hpending, Function.update_eq_self, hpending]
      rfl
    | some k => rfl
  · rw [hfinish]
    exact ⟨.drop request, trivial, ingesting_erase w request⟩

/-- What happens to reply jobs leaves the deliveries of inbound mail alone. -/
theorem outbound_frame (env : Env) (settings : Settings) (w : World) {e : Event}
    (he : e.isInbound = false) :
    (e.step env settings w).requests = w.requests ∧
      (e.step env settings w).ingested = w.ingested := by
  cases e with
  | postMessage scope messageId ticketId content basedOnSuggestionId =>
    simp only [Event.step, World.postMessage]
    split
    · exact ⟨rfl, rfl⟩
    · exact ⟨rfl, rfl⟩
  | deliver run job =>
    simp only [Event.step]
    split
    · unfold World.deliver
      split
      · exact ⟨rfl, rfl⟩
      · exact ⟨rfl, rfl⟩
    · exact ⟨rfl, rfl⟩
  | smtp run outcome =>
    simp only [Event.step]
    split
    · unfold World.smtp
      split
      · exact ⟨rfl, rfl⟩
      · split
        · exact ⟨rfl, rfl⟩
        · exact ⟨rfl, rfl⟩
        · exact ⟨rfl, rfl⟩
    · exact ⟨rfl, rfl⟩
  | commitReply run =>
    simp only [Event.step]
    split
    · unfold World.settleReply
      split
      · split
        · exact ⟨rfl, rfl⟩
        · exact ⟨rfl, rfl⟩
      · exact ⟨rfl, rfl⟩
    · exact ⟨rfl, rfl⟩
  | crash run => exact ⟨rfl, rfl⟩
  | _ => cases he

/-- **Simulation**: each event is an action on the attempts, and one that starts an attempt starts it
    unclaimed unless its scan misses a mail. -/
theorem ingesting_step (e : Event) (he : ¬ MissesDelivery env w e) :
    ∃ a : Action Nat (Uuid × String), Guarded w.ingesting a ∧
      (e.step env settings w).ingesting = a.step w.ingesting := by
  cases hin : e.isInbound with
  | false =>
    obtain ⟨hrequests, hingested⟩ := outbound_frame env settings w hin
    exact ⟨.skip, trivial, ingesting_congr hrequests hingested⟩
  | true =>
    cases e with
    | receive request organizationId inbound d => exact ingesting_receive he
    | lock request =>
      simp only [Event.step]
      cases hr : w.requests.lookup request with
      | none => exact ⟨.skip, trivial, rfl⟩
      | some r =>
        dsimp only
        split
        · exact ingesting_lock hr
        · exact ⟨.skip, trivial, rfl⟩
        · exact ⟨.skip, trivial, rfl⟩
    | commitInbound request d =>
      simp only [Event.step]
      cases hr : w.requests.lookup request with
      | none => exact ⟨.skip, trivial, rfl⟩
      | some r =>
        dsimp only [World.commitInbound]
        split
        · exact ⟨.skip, trivial, rfl⟩
        · exact ingesting_finish hr
        · exact ingesting_finish hr
    | abortInbound request => exact ⟨.drop request, trivial, ingesting_erase w request⟩
    | _ => cases hin

theorem once_ingesting_start (db : Db) : Once (World.start db).ingesting := by
  constructor
  · intro k
    simp [World.ingesting, World.start]
  · intro r k h
    simp [World.ingesting, World.start] at h
  · intro r r' k h
    simp [World.ingesting, World.start] at h

/-- **Each mail is ingested at most once**, in a run in which no scan misses an earlier or an open
    delivery of it. -/
theorem ingested_at_most_once (env : Env) (settings : Settings) (db : Db) (events : List Event)
    (hscans : AllSteps (Event.step env settings) (fun w e => ¬ MissesDelivery env w e) (.start db)
      events) (organizationId : Uuid) (id : String) (hid : id ≠ "") :
    (run (Event.step env settings) (.start db) events).timesIngested organizationId id ≤ 1 := by
  have honce := once_run (fun w e he => ingesting_step e he) (once_ingesting_start db) hscans
  have hcount := honce.done_once (organizationId, id)
  rw [World.ingesting, List.countP_filterMap] at hcount
  apply Nat.le_trans _ hcount
  apply List.countP_mono_left
  intro i _ hi
  obtain ⟨rfl, rfl⟩ : i.organizationId = organizationId ∧ i.providerMessageId = id := by
    simpa using hi
  simp [mailKey, hid]

/-- A scan misses nothing while nothing has been ingested and nothing is open. -/
theorem not_missesDelivery_of_idle (hingested : w.ingested = []) (hrequests : w.requests.entries = [])
    (e : Event) : ¬ MissesDelivery env w e := by
  cases e with
  | receive request organizationId inbound d =>
    rintro ⟨-, -, -, ⟨i, hi, -⟩ | ⟨other, r, hr, -⟩⟩
    · rw [hingested] at hi
      cases hi
    · have hmem := Table.mem_entries.mpr hr
      rw [hrequests] at hmem
      cases hmem
  | _ => exact id

/-- A scan that reports a replay misses nothing. -/
theorem not_missesDelivery_of_replayed {request : Nat} {organizationId ticketId : Uuid}
    {inbound : InboundEmail} {d : ScanDraws}
    (h : (Tx.exec (scanInbound env settings organizationId inbound d) w.db).1 =
      .ok (.replayed ticketId)) :
    ¬ MissesDelivery env w (.receive request organizationId inbound d) := by
  rintro ⟨-, -, ⟨sender, hresolves, hnot⟩, -⟩
  obtain ⟨sender', hresolves', hsees⟩ := scanInbound_replayed_iff.mp ⟨ticketId, h⟩
  obtain rfl : sender = sender' := Except.ok.inj (hresolves.symm.trans hresolves')
  exact hnot hsees

end

/-! ## No mail is taken for a replay by mistake

The invariant is `Accounted`: every id in the metadata of a ticket is one that a reply was given or one that has
come in. An open transaction writes back what it has loaded, so the same has to hold of the rows that they hold.
Where these come from is said by `request_origin` and `run_origin`. -/

section
variable {env : Env} {settings : Settings} {w : World} {e : Event} {organizationId : Uuid}
  {id : String}

/-- Where a recorded id can come from: a reply of the helpdesk, or an ingested mail. -/
def Known (settings : Settings) (w : World) (organizationId : Uuid) (id : String) : Prop :=
  (∃ messageId, id = outboundMessageId settings messageId) ∨ Logged w organizationId id

/-- Each id that a ticket records is known, and so is each one that an open transaction has read and
    may write back. -/
structure Accounted (settings : Settings) (w : World) : Prop where
  tickets : ∀ ticketId ticket, w.db.tickets.lookup ticketId = some ticket →
    ∀ id ∈ messageIds ticket.channelMetadata, Known settings w ticket.organizationId id
  requests : ∀ request r sender ticketId loaded locked, w.requests.lookup request = some r →
    r.plan = .append sender ticketId loaded locked →
    ∀ id ∈ messageIds loaded.channelMetadata, Known settings w r.organizationId id
  runs : ∀ run r, w.runs.lookup run = some r →
    (∃ ticket, w.db.tickets.lookup r.job.ticketId = some ticket ∧
      ticket.organizationId = r.job.organizationId) ∧
    ∀ id ∈ messageIds r.draft.loaded.channelMetadata, Known settings w r.job.organizationId id

/-- The log only grows. -/
theorem ingested_subset (env : Env) (settings : Settings) (w : World) (e : Event) :
    w.ingested ⊆ (e.step env settings w).ingested := by
  cases hin : e.isInbound with
  | false =>
    rw [(outbound_frame env settings w hin).2]
    exact List.Subset.refl _
  | true =>
    cases e with
    | receive request organizationId inbound d =>
      simp only [Event.step, World.receive]
      split
      · split
        · exact List.Subset.refl _
        · exact List.Subset.refl _
      · exact List.Subset.refl _
    | lock request =>
      simp only [Event.step]
      split
      · split
        · unfold World.lock
          split
          · exact List.Subset.refl _
          · split
            · exact List.Subset.refl _
            · exact List.Subset.refl _
        · exact List.Subset.refl _
        · exact List.Subset.refl _
      · exact List.Subset.refl _
    | commitInbound request d =>
      -- only a delivery that finishes adds to it
      have hfinish : ∀ (r : Request) (ticketId : Uuid) (writes : Service Unit),
          w.ingested ⊆ (w.finish request r ticketId writes).ingested := by
        intro r ticketId writes
        rcases finish_cases (w := w) with ⟨db', -, hfinish⟩ | hfinish
        · rw [hfinish]
          exact List.subset_cons_self _ _
        · rw [hfinish]
          exact List.Subset.refl _
      simp only [Event.step]
      split
      · unfold World.commitInbound
        split
        · exact List.Subset.refl _
        · exact hfinish _ _ _
        · exact hfinish _ _ _
      · exact List.Subset.refl _
    | abortInbound request => exact List.Subset.refl _
    | _ => cases hin

theorem Known.step (h : Known settings w organizationId id) :
    Known settings (e.step env settings w) organizationId id := by
  rcases h with hreply | ⟨i, hi, hkey⟩
  · exact .inl hreply
  · exact .inr ⟨i, ingested_subset env settings w e hi, hkey⟩

/-- Tickets stay, and stay in their organization. -/
theorem ticket_persists {ticketId : Uuid} {ticket : Ticket}
    (h : w.db.tickets.lookup ticketId = some ticket) :
    ∃ ticket', (e.step env settings w).db.tickets.lookup ticketId = some ticket' ∧
      ticket'.organizationId = ticket.organizationId := by
  have hrewritten : ∀ {other : Uuid} {current row : Ticket},
      w.db.tickets.lookup other = some current → row.organizationId = current.organizationId →
      StoresTicket w.db (e.step env settings w).db other row →
      ∃ ticket', (e.step env settings w).db.tickets.lookup ticketId = some ticket' ∧
        ticket'.organizationId = ticket.organizationId := by
    intro other current row hcurrent hkeeps hstores
    by_cases heq : ticketId = other
    · subst heq
      obtain rfl : ticket = current := Option.some.inj (h.symm.trans hcurrent)
      exact ⟨row, by rw [hstores, if_pos rfl], hkeeps⟩
    · exact ⟨ticket, by rw [hstores, if_neg heq, h], rfl⟩
  cases ticketEffect env settings w e with
  | unchanged htickets => exact ⟨ticket, by rw [htickets, h], rfl⟩
  | appended hrequest hplan hcurrent hkeeps horg hids hstores hlog =>
    exact hrewritten hcurrent (by rw [hkeeps]) hstores
  | created hrequest hfresh horg hids hstores hlog =>
    refine ⟨ticket, ?_, rfl⟩
    rw [hstores, if_neg, h]
    rintro rfl
    rw [hfresh] at h
    cases h
  | replied hrun hcurrent hkeeps hids hstores =>
    exact hrewritten hcurrent (by rw [hkeeps]) hstores

/-- The ticket that an open delivery appends to is as some scan has loaded it: an earlier one, or the
    one of this event. -/
theorem request_origin {request : Nat} {r : Request} {sender : Sender} {ticketId : Uuid}
    {loaded : Ticket} {locked : Bool}
    (hr : (e.step env settings w).requests.lookup request = some r)
    (hplan : r.plan = .append sender ticketId loaded locked) :
    (∃ r' locked', w.requests.lookup request = some r' ∧ r'.organizationId = r.organizationId ∧
      r'.plan = .append sender ticketId loaded locked') ∨
    (w.db.tickets.lookup ticketId = some loaded ∧ loaded.organizationId = r.organizationId) := by
  have hsame : w.requests.lookup request = some r →
      (∃ r' locked', w.requests.lookup request = some r' ∧ r'.organizationId = r.organizationId ∧
        r'.plan = .append sender ticketId loaded locked') ∨
      (w.db.tickets.lookup ticketId = some loaded ∧ loaded.organizationId = r.organizationId) :=
    fun h => .inl ⟨r, locked, h, rfl, hplan⟩
  -- reply jobs leave the deliveries alone
  cases hin : e.isInbound with
  | false =>
    rw [(outbound_frame env settings w hin).1] at hr
    exact hsame hr
  | true =>
    cases e with
    | receive request' organizationId inbound d =>
      simp only [Event.step, World.receive] at hr
      split at hr
      next scan db' hfree hscan =>
        split at hr
        next plan hscanPlan =>
          rw [Table.lookup_insert] at hr
          split at hr
          next heq =>
            cases hr
            obtain ⟨sender', -, hdecide⟩ := scanInbound_iff.mp (congrArg Prod.fst hscan)
            obtain rfl : plan = .append sender ticketId loaded locked := hplan
            -- a new delivery appends to what its scan has matched
            cases scan with
            | append s t l =>
              cases hscanPlan
              have hmem := mem_of_decideInbound_append hdecide.symm
              obtain ⟨hlookup, hsees, -⟩ := (mem_loadEmailCandidates _).mp hmem
              simp only [OrgScope.selectsTicket, Bool.and_eq_true, decide_eq_true_eq,
                Sender.scope_organizationId] at hsees
              exact .inr ⟨hlookup, hsees.1⟩
            | replayed t => cases hscanPlan
            | create s => cases hscanPlan
          · exact hsame hr
        · exact hsame hr
      · exact hsame hr
    -- the lock keeps the row that the scan has loaded
    | lock request' =>
      simp only [Event.step] at hr
      split at hr
      next r' hr' =>
        split at hr
        next sender' ticketId' loaded' hplan' =>
          unfold World.lock at hr
          split at hr
          · exact hsame hr
          · split at hr
            · rw [Table.lookup_insert] at hr
              split at hr
              next heq =>
                cases hr
                cases hplan
                exact .inl ⟨r', false, heq ▸ hr', rfl, hplan'⟩
              · exact hsame hr
            · exact hsame (Table.lookup_of_lookup_erase hr)
        · exact hsame hr
        · exact hsame hr
      · exact hsame hr
    | commitInbound request' d =>
      have hfinish : ∀ (r' : Request) (ticketId' : Uuid) (writes : Service Unit),
          (w.finish request' r' ticketId' writes).requests.lookup request = some r →
          w.requests.lookup request = some r := by
        intro r' ticketId' writes h
        rcases finish_cases (w := w) with ⟨db', -, hfinish⟩ | hfinish
        · rw [hfinish] at h
          exact Table.lookup_of_lookup_erase h
        · rw [hfinish] at h
          exact Table.lookup_of_lookup_erase h
      simp only [Event.step] at hr
      split at hr
      · unfold World.commitInbound at hr
        split at hr
        · exact hsame hr
        · exact hsame (hfinish _ _ _ hr)
        · exact hsame (hfinish _ _ _ hr)
      · exact hsame hr
    | abortInbound request' => exact hsame (Table.lookup_of_lookup_erase hr)
    | _ => cases hin

/-- What a job has loaded is in its organization. -/
theorem loaded_of_beginReply {job : ReplyJob} {draft : ReplyDraft} {db db' : Db}
    (h : Tx.exec (beginReply settings job) db = (.ok (some draft), db')) :
    db.tickets.lookup job.ticketId = some draft.loaded ∧
      draft.loaded.organizationId = job.organizationId := by
  obtain ⟨message, _, hmessage, hafter⟩ := Tx.bind_ok.mp h
  obtain ⟨rfl, -, -⟩ := getOr404_ok.mp hmessage
  obtain ⟨ticket, _, hticket, hcheck⟩ := Tx.bind_ok.mp hafter
  obtain ⟨rfl, hlookup, hsees⟩ := getOr404_ok.mp hticket
  rw [Tx.exec_ite] at hcheck
  split at hcheck
  · cases hcheck
  · obtain ⟨organization, _, horganization, hdraft⟩ := Tx.bind_ok.mp hcheck
    obtain ⟨rfl, -, -⟩ := getOr404_ok.mp horganization
    cases hdraft
    simp only [OrgScope.selectsTicket, Bool.and_eq_true, decide_eq_true_eq] at hsees
    exact ⟨hlookup, hsees.1⟩

/-- An open run was open before, or has just loaded its ticket. -/
theorem run_origin {run : Nat} {r : ReplyRun}
    (hr : (e.step env settings w).runs.lookup run = some r) :
    (∃ r', w.runs.lookup run = some r' ∧ r'.job = r.job ∧ r'.draft = r.draft) ∨
    (w.db.tickets.lookup r.job.ticketId = some r.draft.loaded ∧
      r.draft.loaded.organizationId = r.job.organizationId) := by
  cases hin : e.isInbound with
  | true =>
    rw [(inbound_frame env settings w hin).1] at hr
    exact .inl ⟨r, hr, rfl, rfl⟩
  | false =>
    cases e with
    | postMessage scope messageId ticketId content basedOnSuggestionId =>
      simp only [Event.step, World.postMessage] at hr
      split at hr
      · exact .inl ⟨r, hr, rfl, rfl⟩
      · exact .inl ⟨r, hr, rfl, rfl⟩
    -- a delivery of a job loads the ticket here
    | deliver run' i =>
      simp only [Event.step] at hr
      split at hr
      next job hjob =>
        unfold World.deliver at hr
        split at hr
        next draft db' hfree hbegin =>
          rw [Table.lookup_insert] at hr
          split at hr
          · cases hr
            exact .inr (loaded_of_beginReply hbegin)
          · exact .inl ⟨r, hr, rfl, rfl⟩
        · exact .inl ⟨r, hr, rfl, rfl⟩
      · exact .inl ⟨r, hr, rfl, rfl⟩
    -- the relay's answer leaves the draft
    | smtp run' outcome =>
      simp only [Event.step] at hr
      split at hr
      next r' hr' =>
        unfold World.smtp at hr
        split at hr
        · exact .inl ⟨r, hr, rfl, rfl⟩
        · split at hr
          · rw [Table.lookup_insert] at hr
            split at hr
            next heq =>
              cases hr
              exact .inl ⟨r', heq ▸ hr', rfl, rfl⟩
            · exact .inl ⟨r, hr, rfl, rfl⟩
          · exact .inl ⟨r, Table.lookup_of_lookup_erase hr, rfl, rfl⟩
          · exact .inl ⟨r, Table.lookup_of_lookup_erase hr, rfl, rfl⟩
      · exact .inl ⟨r, hr, rfl, rfl⟩
    | commitReply run' =>
      simp only [Event.step] at hr
      split at hr
      · unfold World.settleReply at hr
        split at hr
        · split at hr
          · exact .inl ⟨r, Table.lookup_of_lookup_erase hr, rfl, rfl⟩
          · exact .inl ⟨r, Table.lookup_of_lookup_erase hr, rfl, rfl⟩
        · exact .inl ⟨r, hr, rfl, rfl⟩
      · exact .inl ⟨r, hr, rfl, rfl⟩
    | crash run' => exact .inl ⟨r, Table.lookup_of_lookup_erase hr, rfl, rfl⟩
    | _ => cases hin

/-- **One event** keeps every recorded id accounted for. -/
theorem accounted_step (hw : Accounted settings w) (e : Event) :
    Accounted settings (e.step env settings w) where
  tickets := by
    intro ticketId ticket hticket id hid
    -- a row that has been written carries known ids only
    have hwritten : ∀ {other : Uuid} {row : Ticket}, StoresTicket w.db (e.step env settings w).db other row →
        (∀ id ∈ messageIds row.channelMetadata,
          Known settings (e.step env settings w) row.organizationId id) →
        Known settings (e.step env settings w) ticket.organizationId id := by
      intro other row hstores hrow
      rw [hstores] at hticket
      split at hticket
      · obtain rfl : row = ticket := Option.some.inj hticket
        exact hrow id hid
      · exact (hw.tickets ticketId ticket hticket id hid).step
    cases ticketEffect env settings w e with
    | unchanged htickets =>
      rw [htickets] at hticket
      exact (hw.tickets ticketId ticket hticket id hid).step
    | appended hrequest hplan hcurrent hkeeps horg hids hstores hlog =>
      apply hwritten hstores
      intro id' hid'
      rw [hids, List.mem_append, List.mem_singleton] at hid'
      rw [horg]
      rcases hid' with hloaded | rfl
      · -- written back as it was loaded
        exact (hw.requests _ _ _ _ _ _ hrequest hplan id' hloaded).step
      · exact .inr ⟨_, by rw [hlog]; exact List.mem_cons_self, rfl, rfl⟩
    | created hrequest hfresh horg hids hstores hlog =>
      apply hwritten hstores
      intro id' hid'
      rw [hids, List.mem_singleton] at hid'
      rw [horg, hid']
      exact .inr ⟨_, by rw [hlog]; exact List.mem_cons_self, rfl, rfl⟩
    | replied hrun hcurrent hkeeps hids hstores =>
      apply hwritten hstores
      intro id' hid'
      obtain ⟨⟨current', hcurrent', horg⟩, hloaded⟩ := hw.runs _ _ hrun
      obtain rfl := Option.some.inj (hcurrent.symm.trans hcurrent')
      rw [hids, List.mem_append, List.mem_singleton] at hid'
      have hrow := congrArg TicketColumns.organizationId hkeeps
      rw [hrow, horg]
      rcases hid' with hid' | rfl
      · -- written back as it was loaded
        exact (hloaded id' hid').step
      · -- the reply's own id
        exact .inl ⟨_, rfl⟩
  requests := by
    intro request r sender ticketId loaded locked hr hplan id hid
    rcases request_origin hr hplan with ⟨r', locked', hr', horg, hplan'⟩ | ⟨hloaded, horg⟩
    · rw [← horg]
      exact (hw.requests request r' sender ticketId loaded locked' hr' hplan' id hid).step
    · rw [← horg]
      exact (hw.tickets ticketId loaded hloaded id hid).step
  runs := by
    intro run r hr
    rcases run_origin hr with ⟨r', hr', hjob, hdraft⟩ | ⟨hloaded, horg⟩
    · obtain ⟨⟨ticket, hticket, horg⟩, hids⟩ := hw.runs run r' hr'
      rw [← hjob, ← hdraft]
      obtain ⟨ticket', hticket', horg'⟩ := ticket_persists (e := e) hticket
      exact ⟨⟨ticket', hticket', horg'.trans horg⟩, fun id hid => (hids id hid).step⟩
    · obtain ⟨ticket', hticket', horg'⟩ := ticket_persists (e := e) hloaded
      refine ⟨⟨ticket', hticket', horg'.trans horg⟩, fun id hid => ?_⟩
      rw [← horg]
      exact (hw.tickets _ _ hloaded id hid).step

theorem accounted_start {db : Db}
    (hnone : ∀ ticketId ticket, db.tickets.lookup ticketId = some ticket →
      messageIds ticket.channelMetadata = []) : Accounted settings (.start db) where
  tickets := by
    intro ticketId ticket hticket id hid
    rw [hnone ticketId ticket hticket] at hid
    cases hid
  requests := by
    intro request r sender ticketId loaded locked hr
    cases hr
  runs := by
    intro run r hr
    cases hr

/-- A delivery is reported as a replay. -/
def ReportsReplay (env : Env) (settings : Settings) (w : World) (request : Nat)
    (organizationId : Uuid) (inbound : InboundEmail) (d : ScanDraws) : Prop :=
  w.requests.lookup request = none ∧
    ∃ ticketId, (Tx.exec (scanInbound env settings organizationId inbound d) w.db).1 =
      .ok (.replayed ticketId)

/-- A delivery that is reported as a replay has a Message-Id, and a mail with this id has been
    ingested in the organization. -/
def ReplaysOnlyIngested (env : Env) (settings : Settings) (w : World) : Event → Prop
  | .receive request organizationId inbound d =>
    ReportsReplay env settings w request organizationId inbound d →
      inbound.providerMessageId ≠ "" ∧ Logged w organizationId inbound.providerMessageId
  | _ => True

/-- A mail is taken for a replay by mistake: its sender sees a ticket that records its id, which is
    the empty one, or the one of a reply that nobody has mailed back so far. -/
def Mistaken (env : Env) (settings : Settings) (w : World) : Event → Prop
  | .receive request organizationId inbound d =>
    w.requests.lookup request = none ∧
      (∃ sender, Resolves env organizationId d.newUserId inbound w.db sender ∧
        SeesRecorded (sender.scope organizationId) inbound.providerMessageId w.db) ∧
      (inbound.providerMessageId = "" ∨
        (∃ messageId, inbound.providerMessageId = outboundMessageId settings messageId) ∧
          ¬ Logged w organizationId inbound.providerMessageId)
  | _ => False

/-- Where every recorded id is accounted for, a mistake is the only way to take a new mail for a
    replay. -/
theorem replaysOnlyIngested_iff (hw : Accounted settings w) :
    ReplaysOnlyIngested env settings w e ↔ ¬ Mistaken env settings w e := by
  cases e with
  | receive request organizationId inbound d =>
    constructor
    · rintro hreplays ⟨hfree, hsees, hmistake⟩
      obtain ⟨hid, hlogged⟩ := hreplays ⟨hfree, scanInbound_replayed_iff.mpr hsees⟩
      rcases hmistake with hempty | ⟨-, hnot⟩
      · exact hid hempty
      · exact hnot hlogged
    · rintro hnot ⟨hfree, hreplayed⟩
      have hsees := scanInbound_replayed_iff.mp hreplayed
      have hid : inbound.providerMessageId ≠ "" := fun h => hnot ⟨hfree, hsees, .inl h⟩
      refine ⟨hid, ?_⟩
      obtain ⟨sender, -, ticketId, ticket, hticket, -, hscope, hrecorded⟩ := hsees
      have horg : ticket.organizationId = organizationId := by
        simp only [OrgScope.selectsTicket, Bool.and_eq_true, decide_eq_true_eq,
          Sender.scope_organizationId] at hscope
        exact hscope.1
      -- the id that the sender sees is one of a reply, or has come in
      rcases hw.tickets ticketId ticket hticket _ hrecorded with hreply | hlogged
      · by_contra hlogged
        exact hnot ⟨hfree, scanInbound_replayed_iff.mp hreplayed, .inr ⟨hreply, hlogged⟩⟩
      · rwa [horg] at hlogged
  | _ => exact ⟨fun _ => not_false, fun _ => trivial⟩

end

/-- The customer's answer is delivered again after it has been ingested. -/
theorem ingested_at_most_once_answer :
    (run (Event.step emailEnv emailSettings) (.start emailDb)
      (receiveAnswer ++ [commitAnswer, .receive 1 1 answer ⟨21, fun id => id, days 739001⟩])
      ).timesIngested 1 "<m2>" ≤ 1 := by
  apply ingested_at_most_once emailEnv emailSettings emailDb _ _ 1 "<m2>" (by decide)
  refine allSteps_append.mpr ⟨⟨?_, not_false, trivial⟩, not_false, ?_, trivial⟩
  · exact not_missesDelivery_of_idle rfl rfl _
  · have hreplayed : (Tx.exec (scanInbound emailEnv emailSettings 1 answer
        ⟨21, fun id => id, days 739001⟩) (run (Event.step emailEnv emailSettings) (.start emailDb)
        (receiveAnswer ++ [commitAnswer])).db).1 = .ok (.replayed 50) := by
      decide +kernel
    exact not_missesDelivery_of_replayed hreplayed

/-- The organization of the example with an owner among its users. -/
def ownerDb : Db :=
  { emailDb with
    users := AList.insert 12 ⟨some 1, "Owner", "owner@example.com", .owner, none, .active, none⟩ emailDb.users }

def ownerMail : InboundEmail :=
  { answer with
    providerMessageId := "<o1>", inReplyTo := none, fromAddress := "owner@example.com",
    subject := "Roof" }

/-- An owner sees the tickets of a property, and a mail is about none: the second delivery of an
    owner's mail does not see the ticket of the first. -/
theorem owner_ingested_twice :
    (run (Event.step emailEnv emailSettings) (.start ownerDb)
      [.receive 0 1 ownerMail ⟨20, fun id => id, days 739001⟩, .commitInbound 0 ⟨60, days 739001⟩,
        .receive 1 1 ownerMail ⟨20, fun id => id, days 739001⟩,
        .commitInbound 1 ⟨61, days 739001⟩]).timesIngested 1 "<o1>" = 2 := by
  decide +kernel

/-- The organization of the example before its first ticket. -/
def quietDb : Db := { emailDb with tickets := ∅ }

/-- What the provider posts for a mail without a Message-Id. -/
def mailWithoutId (subject body : String) : InboundEmail :=
  parse emailEnv [("From", "ana@example.com"), ("Subject", subject), ("body-plain", body)]

end Helpdesk.Email
