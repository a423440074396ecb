import Helpdesk.Library.Effect
import Helpdesk.WhatsApp.Ingestion

/-! # What the ingestion of a message comes to

`Ingested` says once what `ingest_inbound_whatsapp_message` may do: the sender is found or provisioned
(`Identified`), and then the message goes to a session (`Claim`), which already has it, goes on with
it, or starts with it. A sender who belongs to another organization is the one thing that the caller
recovers from, and nothing has been written by then.

**Key results**: `ingest_ok` and `ingest_conflict`. -/

namespace Helpdesk.WhatsApp

/-- The `wa_id` of a contact. -/
def contactWaId (contact : Json) : Option String :=
  match item "wa_id" contact with
  | .ok (.str waId) => some waId
  | _ => none

/-- The message is one that is taken up. -/
def isText (message : Json) : Bool :=
  match get "type" .null message with
  | .ok (.str messageType) => messageType = "text"
  | _ => false

/-- The number is that of a user of another organization. -/
def Conflicts (db : Db) (organizationId : Uuid) (phoneNumber : String) : Prop :=
  ∃ id user, db.users.lookup id = some user ∧ user.phoneNumber = some phoneNumber ∧
    user.organizationId ≠ some organizationId

/-- The message can be read, and its sender is a user of another organization. -/
structure Foreign (organizationId : Uuid) (inbound : Inbound) (db : Db) : Prop where
  profile : ∃ v, extractProfileName inbound.contact = .ok v
  text : ∃ v, extractTextBody inbound.message = .ok v
  sender : ∃ waId phoneNumber userId user, contactWaId inbound.contact = some waId ∧
    normalizeMsisdn waId = some phoneNumber ∧
    (db.users.select fun _ user => user.phoneNumber = some phoneNumber) = [(userId, user)] ∧
    user.organizationId ≠ some organizationId

/-- The sender with this phone number: the only user who has it, or a new one. -/
structure Identified (organizationId newUserId : Uuid) (phoneNumber : String) (db : Db) (userId : Uuid)
    (user : User) (db' : Db) : Prop where
  stored : db'.users.lookup userId = some user
  phone : user.phoneNumber = some phoneNumber
  organization : user.organizationId = some organizationId
  only : ∀ id other, db.users.lookup id = some other → other.phoneNumber = some phoneNumber →
    other = user
  frame : db' = db ∨ userId = newUserId ∧ db.users.lookup newUserId = none ∧
    db' = { db with users := AList.insert newUserId user db.users }

/-- The session that the message is for, if it has one to go on with. -/
def Reuses (settings : Settings) (organizationId : Uuid) (waId : String) (d : IngestDraws) (db : Db)
    (existing : Option (Uuid × ChatSession)) : Prop :=
  Tx.exec (reusableSession settings organizationId waId d.rank d.idleNow) db = (.ok existing, db)

/-- What becomes of the message's session. -/
inductive Claim (settings : Settings) (scope : OrgScope) (inbound : Inbound) (waId wamid : String)
    (profileName : Json) (d : IngestDraws) (db : Db) : Uuid → Option ChatSession → Db → Prop
  | replay {id existing} (hreuses : Reuses settings scope.organizationId waId d db (some (id, existing)))
      (hrecorded : contains existing.channelMetadata "processed_message_ids" wamid = true) :
      Claim settings scope inbound waId wamid profileName d db id none db
  | goesOn {id existing} (row : ChatSession)
      (hreuses : Reuses settings scope.organizationId waId d db (some (id, existing)))
      (hrecorded : contains existing.channelMetadata "processed_message_ids" wamid = false)
      (hrow : row = { existing with
        channelMetadata := some (recordInbound existing.channelMetadata wamid d.now)
        lastActivityAt := d.activityNow }) :
      Claim settings scope inbound waId wamid profileName d db id (some row)
        { db with chatSessions := db.chatSessions.modify id fun _ => row }
  | starts (hreuses : Reuses settings scope.organizationId waId d db none)
      (hfresh : db.chatSessions.lookup d.newSessionId = none) :
      Claim settings scope inbound waId wamid profileName d db d.newSessionId
        (some (newSession scope inbound waId wamid profileName d))
        { db with
          chatSessions := AList.insert d.newSessionId
            (newSession scope inbound waId wamid profileName d) db.chatSessions }

/-- What is said about a message that has been claimed, and the message that may be added to the
    ticket of an escalated session. -/
inductive Concludes (wamid : String) (textBody : Json) (d : IngestDraws) (id : Uuid) (db : Db) :
    Option ChatSession → WhatsAppIngestionResult → Db → Prop
  | replayed : Concludes wamid textBody d id db none ⟨.replayed, some id, wamid, .null⟩ db
  | appended {chatSession} (messages : Table Uuid Message) (hstatus : chatSession.status = .escalated) :
      Concludes wamid textBody d id db (some chatSession)
        ⟨.appendedToEscalatedTicket, some id, wamid, textBody⟩ { db with messages := messages }
  | queued {chatSession} (hstatus : chatSession.status ≠ .escalated) (hadmitted : d.admitted = true) :
      Concludes wamid textBody d id db (some chatSession) ⟨.botReplyQueued, some id, wamid, textBody⟩ db
  | limited {chatSession} (hstatus : chatSession.status ≠ .escalated) (hadmitted : d.admitted = false) :
      Concludes wamid textBody d id db (some chatSession) ⟨.rateLimited, some id, wamid, .null⟩ db

/-- What the ingestion of a message does, if it returns. -/
inductive Ingested (settings : Settings) (organizationId : Uuid) (inbound : Inbound) (d : IngestDraws)
    (db : Db) : WhatsAppIngestionResult → Db → Prop
  | unsupported (wamid : String) (hmessage : isText inbound.message = false) :
      Ingested settings organizationId inbound d db ⟨.unsupportedMessageType, none, wamid, .null⟩ db
  | taken {waId phoneNumber wamid : String} {profileName textBody v : Json} {userId id : Uuid}
      {user : User} {db₁ db₂ db' : Db} {claimed : Option ChatSession} {r : WhatsAppIngestionResult}
      (hmessage : isText inbound.message = true)
      (hwamid : item "id" inbound.message = .ok v ∧ wamid = idText v)
      (hwaId : contactWaId inbound.contact = some waId)
      (hphone : normalizeMsisdn waId = some phoneNumber)
      (hidentified : Identified organizationId d.newUserId phoneNumber db userId user db₁)
      (hclaim : Claim settings ⟨organizationId, userId, user.role⟩ inbound waId wamid profileName d db₁
        id claimed db₂)
      (hconcludes : Concludes wamid textBody d id db₂ claimed r db') :
      Ingested settings organizationId inbound d db r db'

section
variable {env : Tickets.Env} {settings : Settings} {organizationId newUserId : Uuid} {scope : OrgScope}
  {inbound : Inbound} {waId wamid : String} {profileName displayName : Json} {d : IngestDraws}
  {db db' : Db}

/-! ## The sender

Found by the number, provisioned, or refused. `Identified.only` says that there is no other user with the
number: otherwise the query would have returned two rows. -/

theorem asText_ok {v : Json} {s : String} (h : Tx.exec (Chat.asText v) db = (.ok s, db')) :
    v = .str s ∧ db' = db := by
  cases v with
  | str s' =>
    cases h
    exact ⟨rfl, rfl⟩
  | _ => cases h

theorem insertUser_ok {id : Uuid} {user : User}
    (h : Tx.exec (insertUser env id user) db = (.ok (), db')) :
    db.users.lookup id = none ∧ db' = { db with users := AList.insert id user db.users } := by
  rw [insertUser, Tx.exec_bind, Tx.exec_store] at h
  dsimp only at h
  cases hins : db.users.insertNew id user with
  | none => simp [hins] at h
  | some users =>
    obtain ⟨hfresh, rfl⟩ := Table.insertNew_eq_some.mp hins
    simp only [hins, Tx.exec_bind, Tx.exec_orRaise_some, Tx.exec_ite] at h
    split at h
    · cases h
    split at h
    · cases h
    split at h
    · cases h
      exact ⟨hfresh, rfl⟩
    · cases h

theorem resolveSender_ok {userId : Uuid} {user : User}
    (h : Tx.exec (resolveWhatsappSenderIdentity env organizationId newUserId waId displayName) db =
      (.ok (userId, user), db')) :
    ∃ phoneNumber, normalizeMsisdn waId = some phoneNumber ∧
      Identified organizationId newUserId phoneNumber db userId user db' := by
  unfold resolveWhatsappSenderIdentity at h
  cases hn : normalizeMsisdn waId with
  | none => simp [hn] at h
  | some phoneNumber =>
  refine ⟨phoneNumber, rfl, ?_⟩
  rw [hn, Tx.exec_bind, Tx.exec_orRaise_some] at h
  dsimp only at h
  rw [Tx.exec_bind, Tx.exec_store] at h
  dsimp only at h
  split at h
  -- nobody has the number: a user is provisioned
  next hnone =>
    obtain ⟨_, _, htext, hrest⟩ := Tx.bind_ok.mp h
    obtain ⟨-, rfl⟩ := asText_ok htext
    obtain ⟨_, _, hinsert, hdone⟩ := Tx.bind_ok.mp hrest
    obtain ⟨hfresh, rfl⟩ := insertUser_ok hinsert
    cases hdone
    refine ⟨AList.lookup_insert _, rfl, rfl, fun id other hother hnumber => ?_, .inr ⟨rfl, hfresh, rfl⟩⟩
    have hfalse := Table.select_eq_nil.mp hnone id other hother
    simp [hnumber] at hfalse
  -- one user has it, of this organization
  next id found hone =>
    rw [Tx.exec_ite] at h
    split at h
    · cases h
    next horg =>
      cases h
      have hmem : ∀ id other, (id, other) ∈ [(userId, user)] ↔ _ :=
        fun id other => hone ▸ Table.mem_select
      obtain ⟨hstored, hnumber⟩ := (hmem userId user).mp (by simp)
      refine ⟨hstored, by simpa using hnumber, by simpa using horg, fun id other hother hnumber' => ?_,
        .inl rfl⟩
      have := (hmem id other).mpr ⟨hother, by simpa using hnumber'⟩
      simp only [List.mem_singleton, Prod.mk.injEq] at this
      exact this.2
  · cases h

/-- A sender who is identified is in conflict with nobody. -/
theorem Identified.not_conflicts {phoneNumber : String} {userId : Uuid} {user : User}
    (h : Identified organizationId newUserId phoneNumber db userId user db') :
    ¬ Conflicts db organizationId phoneNumber := by
  rintro ⟨id, other, hother, hnumber, horg⟩
  rw [h.only id other hother hnumber] at horg
  exact horg h.organization

/-- The number of a foreign sender is in conflict. -/
theorem Foreign.conflicts (h : Foreign organizationId inbound db) :
    ∃ waId phoneNumber, contactWaId inbound.contact = some waId ∧ normalizeMsisdn waId = some phoneNumber ∧
      Conflicts db organizationId phoneNumber := by
  obtain ⟨waId, phoneNumber, userId, user, hwaId, hphone, hone, horg⟩ := h.sender
  have hmem : (userId, user) ∈ db.users.select fun _ user => user.phoneNumber = some phoneNumber := by
    rw [hone]
    exact List.mem_singleton_self _
  obtain ⟨hstored, hnumber⟩ := Table.mem_select.mp hmem
  exact ⟨waId, phoneNumber, hwaId, hphone, userId, user, hstored, by simpa using hnumber, horg⟩

/-- An error other than a `CrossOrgSenderConflict`. -/
def NoConflict (e : Raised) : Prop := ∀ a b c, e ≠ .crossOrgSenderConflict a b c

theorem raises_asText (v : Json) : Tx.Raises NoConflict (Chat.asText v) := by
  cases v with
  | str s => exact Tx.Ends.pure s
  | _ => exact Tx.Ends.raise (by simp [NoConflict])

theorem raises_insertUser {id : Uuid} {user : User} : Tx.Raises NoConflict (insertUser env id user) := by
  apply Tx.Ends.bind Tx.Ends.store
  intro db
  apply Tx.Ends.bind (Tx.Ends.orRaise _ (by simp [NoConflict]))
  intro users
  apply Tx.Ends.ite (Tx.Ends.raise (by simp [NoConflict]))
  apply Tx.Ends.ite (Tx.Ends.raise (by simp [NoConflict]))
  exact Tx.Ends.ite (Tx.Raises.write _) (Tx.Ends.raise (by simp [NoConflict]))

theorem resolveSender_conflict {a : Uuid} {b : Option Uuid} {c : TicketChannel}
    (h : Tx.exec (resolveWhatsappSenderIdentity env organizationId newUserId waId displayName) db =
      (.error (.crossOrgSenderConflict a b c), db')) :
    db' = db ∧ ∃ phoneNumber userId user, normalizeMsisdn waId = some phoneNumber ∧
      (db.users.select fun _ user => user.phoneNumber = some phoneNumber) = [(userId, user)] ∧
      user.organizationId ≠ some organizationId := by
  unfold resolveWhatsappSenderIdentity at h
  cases hn : normalizeMsisdn waId with
  | none => simp [hn] at h
  | some phoneNumber =>
    rw [hn, Tx.exec_bind, Tx.exec_orRaise_some] at h
    dsimp only at h
    rw [Tx.exec_bind, Tx.exec_store] at h
    dsimp only at h
    split at h
    next hnone =>
      exfalso
      have hraises : Tx.Raises NoConflict (do
          let name ← Chat.asText (orElse displayName (.str waId))
          insertUser env newUserId (buildNewUser organizationId name waId phoneNumber)
          pure (newUserId, buildNewUser organizationId name waId phoneNumber) : Service (Uuid × User)) := by
        apply Tx.Ends.bind (raises_asText _)
        intro _
        exact Tx.Ends.bind raises_insertUser fun _ => Tx.Ends.pure _
      exact hraises.error h _ _ _ rfl
    next id found hone =>
      rw [Tx.exec_ite] at h
      split at h
      next horg =>
        cases h
        exact ⟨rfl, phoneNumber, id, found, rfl, hone, horg⟩
      · cases h
    · cases h

/-! ## The session

The existing session is the latest one with the `wa_id`. Whether it is used again depends on its status and on
how long it has been idle. -/

theorem looksUp_reusesSession (now : Int) (existing : ChatSession) :
    LooksUp (reusesSession settings now existing) := by
  unfold reusesSession
  split
  · exact LooksUp.pure _
  · unfold isWithinIdleWindow
    split
    · exact LooksUp.pure _
    · exact LooksUp.pure _
    · split
      · exact LooksUp.pure _
      · exact LooksUp.pure _
      · exact LooksUp.raise (by simp)
  · exact LooksUp.pure _

theorem looksUp_reusableSession (rank : Uuid → Nat) (now : Int) :
    LooksUp (reusableSession settings organizationId waId rank now) := by
  apply LooksUp.bind LooksUp.store
  intro db
  split
  · exact LooksUp.pure _
  · exact LooksUp.bind (looksUp_reusesSession _ _) fun _ => LooksUp.ite (LooksUp.pure _) (LooksUp.pure _)

/-- A session that is found is one of the sender in the organization, and none of them has been active
    later. -/
theorem findExistingSession_some {rank : Uuid → Nat} {id : Uuid} {existing : ChatSession}
    (h : findExistingSession organizationId waId rank db = some (id, existing)) :
    db.chatSessions.lookup id = some existing ∧ existing.organizationId = organizationId ∧
      metadataValue existing "wa_id" = some waId := by
  have hmem := List.mem_of_mem_head? (Option.mem_def.mpr h)
  rw [List.mem_insertionSort] at hmem
  obtain ⟨hrow, hclause⟩ := Table.mem_select.mp hmem
  simp only [Bool.and_eq_true, decide_eq_true_eq] at hclause
  exact ⟨hrow, hclause⟩

theorem Reuses.found {id : Uuid} {existing : ChatSession}
    (h : Reuses settings organizationId waId d db (some (id, existing))) :
    findExistingSession organizationId waId d.rank db = some (id, existing) ∧
      Tx.exec (reusesSession settings d.idleNow existing) db = (.ok true, db) := by
  obtain ⟨_, _, hstore, h⟩ := Tx.bind_ok.mp h
  cases hstore
  split at h
  · cases h
  next id' existing' hfind =>
    obtain ⟨reuse, db', hreuse, h⟩ := Tx.bind_ok.mp h
    obtain rfl := (looksUp_reusesSession _ _).same hreuse
    cases reuse with
    | true =>
      cases h
      exact ⟨hfind, hreuse⟩
    | false => cases h

theorem claimSession_ok {id : Uuid} {claimed : Option ChatSession}
    (h : Tx.exec (claimSession settings scope scope.organizationId inbound waId wamid profileName d) db =
      (.ok (id, claimed), db')) :
    Claim settings scope inbound waId wamid profileName d db id claimed db' := by
  obtain ⟨_, _, hstore, h⟩ := Tx.bind_ok.mp h
  cases hstore
  obtain ⟨found, db₁, hfound, h⟩ := Tx.bind_ok.mp h
  obtain rfl := (looksUp_reusableSession _ _).same hfound
  cases found with
  | none =>
    obtain ⟨_, db₂, hinsert, hdone⟩ := Tx.bind_ok.mp h
    cases hdone
    obtain ⟨hfresh, rfl⟩ := Chat.insertChatSession_ok hinsert
    exact .starts hfound hfresh
  | some found =>
    obtain ⟨id', existing⟩ := found
    rw [Tx.exec_ite] at h
    split at h
    next hrecorded =>
      cases h
      exact .replay hfound hrecorded
    next hnew =>
      cases h
      exact .goesOn _ hfound (by simpa using hnew) rfl

/-! ## The message

`ingest_ok` reads the service from its first line to its last, and is the only place that does. -/

theorem liftRead_ok {α : Type} {x : Except Raised α} {a : α}
    (h : Tx.exec (liftRead x) db = (.ok a, db')) : x = .ok a ∧ db' = db := by
  cases x with
  | error e => cases h
  | ok b =>
    cases h
    exact ⟨rfl, rfl⟩

theorem asString_ok {v : Json} {s : String} (h : Tx.exec (asString v) db = (.ok s, db')) :
    v = .str s ∧ db' = db := by
  cases v with
  | str s' =>
    cases h
    exact ⟨rfl, rfl⟩
  | _ => cases h

/-- The ticket of an escalated session gets the message, and nothing else is written. -/
theorem appendMessage_ok {id messageId : Uuid} {chatSession : ChatSession} {textBody : Json}
    {r : WhatsAppIngestionResult}
    (h : Tx.exec (do
      let ticketId ← Tx.orRaise chatSession.ticketId (.notFound "Ticket" none)
      let content ← Chat.asText textBody
      let _ ← Tickets.createMessage scope messageId ticketId content none
      pure ⟨.appendedToEscalatedTicket, some id, wamid, textBody⟩) db = (.ok r, db')) :
    ∃ messages, r = ⟨.appendedToEscalatedTicket, some id, wamid, textBody⟩ ∧
      db' = { db with messages := messages } := by
  cases hticket : chatSession.ticketId with
  | none => simp [hticket] at h
  | some ticketId =>
  rw [hticket] at h
  obtain ⟨_, _, hsome, h₁⟩ := Tx.bind_ok.mp h
  cases hsome
  obtain ⟨content, db₁, htext, h₂⟩ := Tx.bind_ok.mp h₁
  obtain ⟨-, rfl⟩ := asText_ok htext
  obtain ⟨posted, db₂, hposted, h₃⟩ := Tx.bind_ok.mp h₂
  cases h₃
  have hspec : Tx.wp (Tickets.createMessage scope messageId ticketId content none)
      (fun _ db' => ∃ messages, db' = { db₁ with messages := messages }) (fun _ => True) db₁ :=
    Tickets.wp_createMessage fun _ _ _ _ _ _ _ => ⟨_, rfl⟩
  obtain ⟨messages, rfl⟩ := Tx.wp_ok hspec hposted
  exact ⟨messages, rfl, rfl⟩

/-- What an ingestion does that returns. -/
theorem ingest_ok {r : WhatsAppIngestionResult}
    (h : Tx.exec (ingestInboundWhatsappMessage env settings organizationId inbound d) db = (.ok r, db')) :
    Ingested settings organizationId inbound d db r db' := by
  obtain ⟨wamid, db₀, hid, h₁⟩ := Tx.bind_ok.mp h
  rw [Tx.exec_map] at hid
  cases hv : item "id" inbound.message with
  | error e =>
    rw [hv] at hid
    cases hid
  | ok v =>
  rw [hv] at hid
  cases hid
  obtain ⟨messageType, db₀, hget, h₂⟩ := Tx.bind_ok.mp h₁
  obtain ⟨htype, rfl⟩ := liftRead_ok hget
  split at h₂
  next =>
    have hmessage : isText inbound.message = true := by simp [isText, htype]
    obtain ⟨waIdValue, db₀, hitem, h₃⟩ := Tx.bind_ok.mp h₂
    obtain ⟨hcontact, rfl⟩ := liftRead_ok hitem
    obtain ⟨profileName, db₀, hprofile, h₄⟩ := Tx.bind_ok.mp h₃
    obtain ⟨-, rfl⟩ := liftRead_ok hprofile
    obtain ⟨textBody, db₀, htext, h₅⟩ := Tx.bind_ok.mp h₄
    obtain ⟨-, rfl⟩ := liftRead_ok htext
    obtain ⟨waId, db₀, hwaId, h₆⟩ := Tx.bind_ok.mp h₅
    obtain ⟨rfl, rfl⟩ := asString_ok hwaId
    obtain ⟨⟨userId, user⟩, db₁, hsender, h₇⟩ := Tx.bind_ok.mp h₆
    obtain ⟨phoneNumber, hphone, hidentified⟩ := resolveSender_ok hsender
    obtain ⟨⟨id, claimed⟩, db₂, hclaimed, h₈⟩ := Tx.bind_ok.mp h₇
    have hclaim : Claim settings ⟨organizationId, userId, user.role⟩ inbound waId (idText v) profileName d
        db₁ id claimed db₂ := claimSession_ok hclaimed
    have hconcludes : Concludes (idText v) textBody d id db₂ claimed r db' := by
      cases claimed with
      | none =>
        cases h₈
        exact .replayed
      | some chatSession =>
        dsimp only at h₈
        rw [Tx.exec_ite] at h₈
        split at h₈
        next hstatus =>
          obtain ⟨messages, rfl, rfl⟩ := appendMessage_ok h₈
          exact .appended messages hstatus
        next hstatus =>
          rw [Tx.exec_ite] at h₈
          split at h₈
          next hadmitted =>
            cases h₈
            exact .queued hstatus hadmitted
          next hlimited =>
            cases h₈
            exact .limited hstatus (by simpa using hlimited)
    exact .taken hmessage ⟨hv, rfl⟩ (by simp [contactWaId, hcontact]) hphone hidentified hclaim hconcludes
  next hother =>
    cases h₂
    refine .unsupported _ ?_
    unfold isText
    rw [htype]
    cases messageType with
    | str s =>
      show decide (s = "text") = false
      simp only [decide_eq_false_iff_not]
      rintro rfl
      exact hother rfl
    | _ => rfl

/-! ## The conflict

To know that the conflict comes first, each other part must be known not to raise it: `Raises NoConflict`. -/

theorem noConflict_item {key : String} {v : Json} {e : Raised} (h : item key v = .error e) :
    NoConflict e := by
  cases v with
  | obj items =>
    unfold item at h
    dsimp only at h
    split at h
    · cases h
    · cases h
      simp [NoConflict]
  | _ =>
    cases h
    simp [NoConflict]

theorem noConflict_get {key : String} {default v : Json} {e : Raised} (h : get key default v = .error e) :
    NoConflict e := by
  cases v with
  | obj items => cases h
  | _ =>
    cases h
    simp [NoConflict]

/-- Two accesses, one inside the other. -/
theorem noConflict_getGet {key key' : String} {default default' v : Json} {f : Json → Json} {e : Raised}
    (h : (get key default v >>= fun inner => get key' default' (f inner)) = .error e) : NoConflict e := by
  cases hget : get key default v with
  | error e' =>
    rw [hget] at h
    cases h
    exact noConflict_get hget
  | ok inner =>
    rw [hget] at h
    exact noConflict_get h

theorem raises_liftRead {α : Type} {x : Except Raised α} (hx : ∀ e, x = .error e → NoConflict e) :
    Tx.Raises NoConflict (liftRead x) := by
  cases x with
  | ok a => exact Tx.Ends.pure a
  | error e => exact Tx.Ends.raise (hx e rfl)

theorem raises_getOr404 {α : Type} (name : String) (table : Db → Table Uuid α) (clause : Db → α → Bool)
    (id : Uuid) : Tx.Raises NoConflict (getOr404 name table clause id) := by
  apply Tx.Ends.bind Tx.Ends.store
  intro db
  split
  · exact Tx.Ends.ite (Tx.Ends.pure _) (Tx.Ends.raise (by simp [NoConflict]))
  · exact Tx.Ends.raise (by simp [NoConflict])

theorem raises_createMessage {messageId ticketId : Uuid} {content : String} :
    Tx.Raises NoConflict (Tickets.createMessage scope messageId ticketId content none) := by
  apply Tx.Ends.bind (raises_getOr404 _ _ _ _)
  intro ticket
  apply Tx.Ends.bind (Tx.Ends.pure ())
  intro _
  refine Tx.Ends.bind ?_ fun _ => Tx.Ends.pure _
  unfold insertMessage
  split
  · apply Tx.Ends.bind Tx.Ends.store
    intro db
    apply Tx.Ends.bind (Tx.Ends.orRaise _ (by simp [NoConflict]))
    intro messages
    apply Tx.Ends.ite
    · exact Tx.Ends.bind (Tx.Raises.write _) fun _ => Tx.Ends.pure _
    · exact Tx.Ends.raise (by simp [NoConflict])
  · exact Tx.Ends.raise (by simp [NoConflict])

theorem raises_reusableSession (rank : Uuid → Nat) (now : Int) :
    Tx.Raises NoConflict (reusableSession settings organizationId waId rank now) := by
  apply Tx.Ends.bind Tx.Ends.store
  intro db
  split
  · exact Tx.Ends.pure _
  next id existing _ =>
    refine Tx.Ends.bind ?_ fun _ => Tx.Ends.ite (Tx.Ends.pure _) (Tx.Ends.pure _)
    unfold reusesSession
    split
    · exact Tx.Ends.pure _
    · unfold isWithinIdleWindow
      split
      · exact Tx.Ends.pure _
      · exact Tx.Ends.pure _
      · split
        · exact Tx.Ends.pure _
        · exact Tx.Ends.pure _
        · exact Tx.Ends.raise (by simp [NoConflict])
    · exact Tx.Ends.pure _

theorem raises_claimSession : Tx.Raises NoConflict
    (claimSession settings scope organizationId inbound waId wamid profileName d) := by
  apply Tx.Ends.bind Tx.Ends.store
  intro db
  apply Tx.Ends.bind (raises_reusableSession _ _)
  intro found
  split
  · apply Tx.Ends.ite (Tx.Ends.pure _)
    exact Tx.Ends.bind (Tx.Raises.write _) fun _ => Tx.Ends.pure _
  · refine Tx.Ends.bind ?_ fun _ => Tx.Ends.pure _
    apply Tx.Ends.bind Tx.Ends.store
    intro db
    apply Tx.Ends.bind (Tx.Ends.orRaise _ (by simp [NoConflict]))
    intro chatSessions
    exact Tx.Ends.ite (Tx.Raises.write _) (Tx.Ends.raise (by simp [NoConflict]))

/-- The one error that the caller recovers from, raised before anything has been written. -/
theorem ingest_conflict {a : Uuid} {b : Option Uuid} {c : TicketChannel}
    (h : Tx.exec (ingestInboundWhatsappMessage env settings organizationId inbound d) db =
      (.error (.crossOrgSenderConflict a b c), db')) :
    db' = db ∧ isText inbound.message = true ∧ (∃ v, item "id" inbound.message = .ok v) ∧
      Foreign organizationId inbound db := by
  -- a part that raises another error cannot be the one
  have hother : ∀ {α : Type} {x : Service α} {db db'}, Tx.Raises NoConflict x →
      Tx.exec x db = (.error (.crossOrgSenderConflict a b c), db') → False :=
    fun hx herror => hx.error herror _ _ _ rfl
  rcases Tx.bind_error.mp h with herror | ⟨wamid, db₀, hid, h₁⟩
  · exact (hother (Tx.Ends.map (raises_liftRead fun _ => noConflict_item)) herror).elim
  rw [Tx.exec_map] at hid
  cases hv : item "id" inbound.message with
  | error e =>
    rw [hv] at hid
    cases hid
  | ok v =>
  rw [hv] at hid
  cases hid
  rcases Tx.bind_error.mp h₁ with herror | ⟨messageType, db₀, hget, h₂⟩
  · exact (hother (raises_liftRead fun _ => noConflict_get) herror).elim
  obtain ⟨htype, rfl⟩ := liftRead_ok hget
  split at h₂
  next =>
    have hmessage : isText inbound.message = true := by simp [isText, htype]
    rcases Tx.bind_error.mp h₂ with herror | ⟨waIdValue, db₀, hitem, h₃⟩
    · exact (hother (raises_liftRead fun _ => noConflict_item) herror).elim
    obtain ⟨hcontact, rfl⟩ := liftRead_ok hitem
    rcases Tx.bind_error.mp h₃ with herror | ⟨profileName, db₀, hprofile, h₄⟩
    · exact (hother (raises_liftRead fun _ => noConflict_getGet) herror).elim
    obtain ⟨hname, rfl⟩ := liftRead_ok hprofile
    rcases Tx.bind_error.mp h₄ with herror | ⟨textBody, db₀, htext, h₅⟩
    · exact (hother (raises_liftRead fun _ => noConflict_getGet) herror).elim
    obtain ⟨hbody, rfl⟩ := liftRead_ok htext
    rcases Tx.bind_error.mp h₅ with herror | ⟨waId, db₀, hwaId, h₆⟩
    · cases waIdValue with
      | str s => cases herror
      | _ => cases herror
    obtain ⟨rfl, rfl⟩ := asString_ok hwaId
    rcases Tx.bind_error.mp h₆ with herror | ⟨⟨userId, user⟩, db₁, hsender, h₇⟩
    · obtain ⟨rfl, phoneNumber, userId, user, hphone, hone, horg⟩ := resolveSender_conflict herror
      refine ⟨rfl, hmessage, ⟨v, rfl⟩, ⟨profileName, hname⟩, ⟨textBody, hbody⟩, waId, phoneNumber, userId, user, ?_⟩
      exact ⟨by simp [contactWaId, hcontact], hphone, hone, horg⟩
    rcases Tx.bind_error.mp h₇ with herror | ⟨⟨id, claimed⟩, db₂, hclaimed, h₈⟩
    · exact (hother raises_claimSession herror).elim
    cases claimed with
    | none => cases h₈
    | some chatSession =>
      refine (hother ?_ h₈).elim
      apply Tx.Ends.ite
      · apply Tx.Ends.bind (Tx.Ends.orRaise _ (by simp [NoConflict]))
        intro ticketId
        apply Tx.Ends.bind (raises_asText _)
        intro content
        exact Tx.Ends.bind raises_createMessage fun _ => Tx.Ends.pure _
      · exact Tx.Ends.ite (Tx.Ends.pure _) (Tx.Ends.pure _)
  next => cases h₂

end

end Helpdesk.WhatsApp
