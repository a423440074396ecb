import Helpdesk.Library.UnitOfWork
import Helpdesk.WhatsApp.Effects
import Helpdesk.WhatsApp.Webhook

/-! # Whose message it is

A WhatsApp message names its sender in `from`. The webhook does not read it: all messages of a change
are ingested for the first of the change's contacts.

**`attributesSenders_iff`**: each message that is ingested is attributed to its own sender exactly if
the first contact of its change is the sender. -/

namespace Helpdesk.WhatsApp

open UnitOfWork

/-! ## The terms

Both sides are about the payload and the two databases. The identity of a sender is a user of the organization
with the sender's number; a session that is new belongs to the identity itself, one that was there is found by
its `wa_id`. -/

/-- The sender that a message names. -/
def sender (message : Json) : Option String :=
  match item "from" message with
  | .ok (.str waId) => some waId
  | _ => none

/-- The user is the organization's, with this number. -/
def IsIdentity (db : Db) (organizationId : Uuid) (waId : String) (userId : Uuid) : Prop :=
  ∃ phoneNumber user, normalizeMsisdn waId = some phoneNumber ∧ db.users.lookup userId = some user ∧
    user.organizationId = some organizationId ∧ user.phoneNumber = some phoneNumber

/-- The session of a message is one with `waId`, which is where replies go, and there is an identity with
    this number: the one whose session it is, if the session is new since `db`. -/
structure AttributedTo (db db' : Db) (organizationId chatSessionId : Uuid) (waId : String) : Prop where
  session : ∃ s, db'.chatSessions.lookup chatSessionId = some s ∧ s.organizationId = organizationId ∧
    metadataValue s "wa_id" = some waId
  identity : ∃ userId, IsIdentity db' organizationId waId userId ∧
    (db.chatSessions.lookup chatSessionId = none →
      ∀ s, db'.chatSessions.lookup chatSessionId = some s → s.userId = some userId)

/-- Every message that has been ingested into a session is attributed to the sender it names. -/
def AttributesSenders (db db' : Db) (ingests : List Ingest) : Prop :=
  ∀ ingest ∈ ingests, ∀ r chatSessionId waId, ingest.result = some r →
    r.chatSessionId = some chatSessionId → sender ingest.inbound.message = some waId →
    AttributedTo db db' ingest.organizationId chatSessionId waId

/-- A text message, and a contact whose number is not that of another organization's user. -/
def IsIngested (db : Db) (organizationId : Uuid) (inbound : Inbound) : Prop :=
  isText inbound.message = true ∧ ∀ waId phoneNumber, contactWaId inbound.contact = some waId →
    normalizeMsisdn waId = some phoneNumber → ¬ Conflicts db organizationId phoneNumber

/-- Each message that will be ingested names the first contact of its change. -/
def NamesFirstContact (db : Db) (payload : Json) : Prop :=
  ∀ organizationId first, extractPhoneNumberId payload = some first → Owns db organizationId first →
    ∀ inbound ∈ (iterMessages payload).items, IsIngested db organizationId inbound →
      ∀ waId, sender inbound.message = some waId → contactWaId inbound.contact = some waId

/-! ## One message

`KeepsAttribution` is the frame: what the ingestion of another message leaves of users and sessions. It is
transitive, so that what holds of a message when it is ingested still holds at the end of the loop. -/

def userIdentity (user : User) : Option Uuid × Option String := (user.organizationId, user.phoneNumber)

def sessionAddress (s : ChatSession) : Uuid × Option Uuid × Option String :=
  (s.organizationId, s.userId, metadataValue s "wa_id")

/-- The session belongs to the identity that has its number. -/
def OwnSession (db : Db) (organizationId : Uuid) (s : ChatSession) : Prop :=
  ∃ waId userId, metadataValue s "wa_id" = some waId ∧ s.userId = some userId ∧
    IsIdentity db organizationId waId userId

/-- What the ingestion of other messages leaves as it is, and how it opens sessions. -/
structure KeepsAttribution (organizationId : Uuid) (db db' : Db) : Prop where
  users : Kept userIdentity db.users db'.users
  chatSessions : Kept sessionAddress db.chatSessions db'.chatSessions
  opened : ∀ id s, db.chatSessions.lookup id = none → db'.chatSessions.lookup id = some s →
    OwnSession db' organizationId s
  conflicts : ∀ phoneNumber, Conflicts db' organizationId phoneNumber ↔
    Conflicts db organizationId phoneNumber

section
variable {settings : Settings} {organizationId newUserId : Uuid} {scope : OrgScope} {inbound : Inbound}
  {d : IngestDraws} {db db₁ db₂ db' : Db}

theorem IsIdentity.keep {waId : String} {userId : Uuid} (h : IsIdentity db organizationId waId userId)
    (husers : Kept userIdentity db.users db'.users) : IsIdentity db' organizationId waId userId := by
  obtain ⟨phoneNumber, user, hnormal, huser, horg, hphone⟩ := h
  obtain ⟨user', huser', hsame⟩ := husers _ user huser
  obtain ⟨hsameOrg, hsamePhone⟩ := Prod.mk.inj hsame
  exact ⟨phoneNumber, user', hnormal, huser', hsameOrg.trans horg, hsamePhone.trans hphone⟩

theorem OwnSession.keep {s s' : ChatSession} (h : OwnSession db organizationId s)
    (husers : Kept userIdentity db.users db'.users) (hsame : sessionAddress s' = sessionAddress s) :
    OwnSession db' organizationId s' := by
  obtain ⟨waId, userId, hwaId, huser, hidentity⟩ := h
  obtain ⟨-, hsame⟩ := Prod.mk.inj hsame
  obtain ⟨hsameUser, hsameWaId⟩ := Prod.mk.inj hsame
  exact ⟨waId, userId, hsameWaId.trans hwaId, hsameUser.trans huser, hidentity.keep husers⟩

/-- No session is opened. -/
theorem opened_of_eq (h : db'.chatSessions = db.chatSessions) (id : Uuid) (s : ChatSession)
    (hnone : db.chatSessions.lookup id = none) (hs : db'.chatSessions.lookup id = some s) :
    OwnSession db' organizationId s := by
  rw [h, hnone] at hs
  cases hs

theorem KeepsAttribution.refl (db : Db) : KeepsAttribution organizationId db db :=
  ⟨Kept.refl _, Kept.refl _, opened_of_eq rfl, fun _ => Iff.rfl⟩

theorem KeepsAttribution.trans (h : KeepsAttribution organizationId db db₁)
    (h' : KeepsAttribution organizationId db₁ db') : KeepsAttribution organizationId db db' where
  users := h.users.trans h'.users
  chatSessions := h.chatSessions.trans h'.chatSessions
  opened id s hnone hs := by
    cases hmid : db₁.chatSessions.lookup id with
    | none => exact h'.opened id s hmid hs
    | some s₁ =>
      obtain ⟨s', hs', hsame⟩ := h'.chatSessions id s₁ hmid
      obtain rfl : s = s' := Option.some.inj (hs.symm.trans hs')
      exact (h.opened id s₁ hnone hmid).keep h'.users hsame
  conflicts phoneNumber := (h'.conflicts phoneNumber).trans (h.conflicts phoneNumber)

/-- Recording a message keeps the address. -/
theorem metadataValue_recordInbound (metadata : Option Metadata) (wamid : String) (now : Int) :
    (recordInbound metadata wamid now).value "wa_id" = (metadata.getD .empty).value "wa_id" := by
  simp [recordInbound, withValues, withAppended, Metadata.value, lookup_dictSet]

/-- **What a message was ingested under** lasts, seen from before and after all messages. -/
theorem AttributedTo.extend {chatSessionId : Uuid} {waId : String}
    (h : AttributedTo db₁ db₂ organizationId chatSessionId waId)
    (hbefore : KeepsAttribution organizationId db db₂) (hafter : KeepsAttribution organizationId db₂ db') :
    AttributedTo db db' organizationId chatSessionId waId := by
  obtain ⟨⟨s, hs, horg, hwaId⟩, userId, hidentity, -⟩ := h
  obtain ⟨s', hs', hsame⟩ := hafter.chatSessions _ s hs
  obtain ⟨hsameOrg, hsame⟩ := Prod.mk.inj hsame
  have hwaId' : metadataValue s' "wa_id" = some waId := (Prod.mk.inj hsame).2.trans hwaId
  refine ⟨⟨s', hs', hsameOrg.trans horg, hwaId'⟩, ?_⟩
  by_cases hnew : db.chatSessions.lookup chatSessionId = none
  · obtain ⟨waId₁, owner, hwaId₁, howner, howns⟩ := (hbefore.trans hafter).opened _ s' hnew hs'
    obtain rfl : waId = waId₁ := Option.some.inj (hwaId'.symm.trans hwaId₁)
    refine ⟨owner, howns, fun _ s₁ hs₁ => ?_⟩
    obtain rfl := Option.some.inj (hs'.symm.trans hs₁)
    exact howner
  · exact ⟨userId, hidentity.keep hafter.users, fun hnone => absurd hnone hnew⟩

/-- Two people are not attributed one session. -/
theorem AttributedTo.unique {chatSessionId : Uuid} {waId waId' : String}
    (h : AttributedTo db₁ db' organizationId chatSessionId waId)
    (h' : AttributedTo db₂ db' organizationId chatSessionId waId') : waId = waId' := by
  obtain ⟨⟨s, hs, -, hwaId⟩, -⟩ := h
  obtain ⟨⟨s', hs', -, hwaId'⟩, -⟩ := h'
  obtain rfl : s = s' := Option.some.inj (hs.symm.trans hs')
  exact Option.some.inj (hwaId.symm.trans hwaId')

/-- A sender who is provisioned is in conflict with nobody. -/
theorem Identified.keeps {phoneNumber : String} {userId : Uuid} {user : User}
    (h : Identified organizationId newUserId phoneNumber db userId user db') :
    KeepsAttribution organizationId db db' := by
  rcases h.frame with rfl | ⟨rfl, hfresh, rfl⟩
  · exact KeepsAttribution.refl _
  · refine ⟨Kept.insert hfresh, Kept.refl _, opened_of_eq rfl, fun phoneNumber' => ⟨?_, ?_⟩⟩
    · rintro ⟨id, other, hother, hphone, horg⟩
      rw [Table.lookup_insert] at hother
      split at hother
      · cases hother
        exact absurd h.organization horg
      · exact ⟨id, other, hother, hphone, horg⟩
    · rintro ⟨id, other, hother, hphone, horg⟩
      refine ⟨id, other, ?_, hphone, horg⟩
      rw [Table.lookup_insert, if_neg]
      · exact hother
      · rintro rfl
        rw [hfresh] at hother
        cases hother

/-- The session of a message has the number that the message was taken up under, and the sender if it
    is new. -/
theorem Claim.keeps {waId wamid : String} {profileName : Json} {id : Uuid}
    {claimed : Option ChatSession}
    (h : Claim settings scope inbound waId wamid profileName d db id claimed db')
    (hidentity : IsIdentity db organizationId waId scope.userId) :
    db'.users = db.users ∧ KeepsAttribution organizationId db db' ∧
      (∃ s, db'.chatSessions.lookup id = some s ∧ s.organizationId = scope.organizationId ∧
        metadataValue s "wa_id" = some waId) ∧
      (db.chatSessions.lookup id = none →
        ∀ s, db'.chatSessions.lookup id = some s → s.userId = some scope.userId) := by
  cases h with
  -- the session has the message already
  | replay hreuses _ =>
    obtain ⟨hs, horg, hwaId⟩ := findExistingSession_some hreuses.found.1
    exact ⟨rfl, KeepsAttribution.refl _, ⟨_, hs, horg, hwaId⟩, fun hnone => by rw [hs] at hnone; cases hnone⟩
  -- the session was found by the number
  | @goesOn _ existing row hreuses _ hrow =>
    obtain ⟨hs, horg, hwaId⟩ := findExistingSession_some hreuses.found.1
    have haddress : sessionAddress row = sessionAddress existing := by
      subst hrow
      show (_, _, (recordInbound _ _ _).value _) = (_, _, _)
      rw [metadataValue_recordInbound]
      rfl
    obtain ⟨horg', hrest⟩ := Prod.mk.inj haddress
    refine ⟨rfl, ⟨Kept.refl _, Kept.modify ?_, fun id' s hnone hs' => ?_, fun _ => Iff.rfl⟩,
      ⟨row, ?_, horg'.trans horg, (Prod.mk.inj hrest).2.trans hwaId⟩, fun hnone => ?_⟩
    · intro s hs'
      obtain rfl : existing = s := Option.some.inj (hs.symm.trans hs')
      exact haddress
    · -- the row is written over
      rw [Table.lookup_modify, hnone] at hs'
      split at hs' <;> cases hs'
    · rw [Table.lookup_modify_self, hs, Option.map_some]
    · rw [hs] at hnone
      cases hnone
  -- the new session is the sender's
  | starts _ hfresh =>
    refine ⟨rfl, ⟨Kept.refl _, Kept.insert hfresh, fun id s hnone hs => ?_, fun _ => Iff.rfl⟩,
      ⟨_, AList.lookup_insert _, rfl, rfl⟩, fun _ s hs => ?_⟩
    · rw [Table.lookup_insert] at hs
      split at hs
      · cases hs
        exact ⟨waId, scope.userId, rfl, rfl, hidentity⟩
      · rw [hnone] at hs
        cases hs
    · rw [AList.lookup_insert] at hs
      cases hs
      rfl

theorem Concludes.tables {wamid : String} {textBody : Json} {id : Uuid} {claimed : Option ChatSession}
    {r : WhatsAppIngestionResult} (h : Concludes wamid textBody d id db claimed r db') :
    db'.users = db.users ∧ db'.chatSessions = db.chatSessions ∧ r.chatSessionId = some id := by
  cases h <;> exact ⟨rfl, rfl, rfl⟩

theorem keepsAttribution_of_tables (husers : db'.users = db.users)
    (hsessions : db'.chatSessions = db.chatSessions) : KeepsAttribution organizationId db db' := by
  refine ⟨?_, ?_, opened_of_eq hsessions, fun phoneNumber => ?_⟩
  · rw [husers]
    exact Kept.refl _
  · rw [hsessions]
    exact Kept.refl _
  · unfold Conflicts
    rw [husers]

/-- **One message** is attributed to the contact. -/
theorem Ingested.attributed {r : WhatsAppIngestionResult}
    (h : Ingested settings organizationId inbound d db r db') :
    KeepsAttribution organizationId db db' ∧
      (isText inbound.message = false ∧ r.chatSessionId = none ∨
        IsIngested db organizationId inbound ∧ ∃ chatSessionId waId, r.chatSessionId = some chatSessionId ∧
          contactWaId inbound.contact = some waId ∧ AttributedTo db db' organizationId chatSessionId waId) := by
  cases h with
  | unsupported wamid hmessage => exact ⟨KeepsAttribution.refl _, .inl ⟨hmessage, rfl⟩⟩
  | @taken waId phoneNumber _ _ _ _ userId id user db₁ db₂ _ _ _ hmessage _ hwaId hphone hidentified hclaim
      hconcludes =>
    have hidentity : IsIdentity db₁ organizationId waId userId :=
      ⟨phoneNumber, user, hphone, hidentified.stored, hidentified.organization, hidentified.phone⟩
    obtain ⟨husers₂, hkeeps₂, ⟨s, hs, horg, hsession⟩, hopened⟩ := hclaim.keeps hidentity
    obtain ⟨husers, hsessions, hid⟩ := hconcludes.tables
    have hkeeps₁ : KeepsAttribution organizationId db db₁ := hidentified.keeps
    have hkeeps' : KeepsAttribution organizationId db₂ db' := keepsAttribution_of_tables husers hsessions
    refine ⟨(hkeeps₁.trans hkeeps₂).trans hkeeps', .inr
      ⟨⟨hmessage, fun waId' phoneNumber' hwaId' hphone' => ?_⟩, id, waId, hid, hwaId, ?_⟩⟩
    · obtain rfl : waId = waId' := Option.some.inj (hwaId.symm.trans hwaId')
      obtain rfl : phoneNumber = phoneNumber' := Option.some.inj (hphone.symm.trans hphone')
      exact hidentified.not_conflicts
    · have hclaimed : AttributedTo db₁ db₂ organizationId id waId :=
        ⟨⟨s, hs, horg, hsession⟩, userId, hidentity.keep hkeeps₂.users, hopened⟩
      exact hclaimed.extend (hkeeps₁.trans hkeeps₂) hkeeps'

end

/-! ## The loop

`Handled` is seen from before the loop and from after it, so each iteration only has to carry it over to both
sides. -/

section
variable {env : Tickets.Env} {settings : Settings} {payload : Json} {organizationId : Uuid}
  {db db₁ db' : Db}

/-- How the loop has dealt with a message, seen from before the loop and from after it. -/
structure Handled (organizationId : Uuid) (db db' : Db) (ingest : Ingest) : Prop where
  organization : ingest.organizationId = organizationId
  ingested : ∀ r chatSessionId, ingest.result = some r → r.chatSessionId = some chatSessionId →
    IsIngested db organizationId ingest.inbound ∧ ∃ waId, contactWaId ingest.inbound.contact = some waId ∧
      AttributedTo db db' organizationId chatSessionId waId
  other : (∀ r chatSessionId, ingest.result = some r → r.chatSessionId ≠ some chatSessionId) →
    ¬ IsIngested db organizationId ingest.inbound

theorem IsIngested.congr {inbound : Inbound} (h : KeepsAttribution organizationId db db') :
    IsIngested db' organizationId inbound ↔ IsIngested db organizationId inbound := by
  unfold IsIngested
  simp only [h.conflicts]

theorem ingestOrSkip_ok {inbound : Inbound} {d : IngestDraws} {result : Option WhatsAppIngestionResult}
    (h : Tx.exec (ingestOrSkip env settings organizationId inbound d) db = (.ok result, db')) :
    KeepsAttribution organizationId db db' ∧
      Handled organizationId db db' ⟨organizationId, inbound, result⟩ := by
  rw [ingestOrSkip, Tx.exec_recover, Tx.exec_map] at h
  cases hx : Tx.exec (ingestInboundWhatsappMessage env settings organizationId inbound d) db with
  | mk out db₁ =>
  rw [hx] at h
  cases out with
  | ok r =>
    cases h
    obtain ⟨hkeeps, hcases⟩ := (ingest_ok hx).attributed
    refine ⟨hkeeps, rfl, ?_, fun hno => ?_⟩
    · rintro _ chatSessionId ⟨⟩ hid
      rcases hcases with ⟨-, hnone⟩ | ⟨hingested, id, waId, hid', hwaId, hattributed⟩
      · rw [hnone] at hid
        cases hid
      · rw [hid] at hid'
        cases hid'
        exact ⟨hingested, waId, hwaId, hattributed⟩
    · rcases hcases with ⟨hmessage, -⟩ | ⟨-, id, waId, hid, -⟩
      · rintro ⟨htext, -⟩
        rw [hmessage] at htext
        cases htext
      · exact absurd hid (hno r id rfl)
  | error e =>
    -- the only error that does not end the delivery
    cases e with
    | crossOrgSenderConflict a b c =>
      cases h
      obtain ⟨rfl, -, -, hforeign⟩ := ingest_conflict hx
      obtain ⟨waId, phoneNumber, hwaId, hphone, hconflicts⟩ := hforeign.conflicts
      refine ⟨KeepsAttribution.refl _, rfl, ?_, fun _ => ?_⟩
      · rintro r chatSessionId ⟨⟩
      · exact fun hingested => hingested.2 waId phoneNumber hwaId hphone hconflicts
    | _ => cases h

theorem ingestEach_handled {d : Nat → IngestDraws} {n : Nat} {items : List Inbound}
    {ingests : List Ingest}
    (h : Tx.exec (ingestEach env settings organizationId d n items) db = (.ok ingests, db')) :
    KeepsAttribution organizationId db db' ∧ ∀ ingest ∈ ingests, Handled organizationId db db' ingest := by
  induction items generalizing n db ingests with
  | nil =>
    cases h
    exact ⟨KeepsAttribution.refl _, by simp⟩
  | cons inbound rest ih =>
    obtain ⟨result, db₁, hresult, hrest⟩ := Tx.bind_ok.mp h
    obtain ⟨ingests', db₂, hingests, hdone⟩ := Tx.bind_ok.mp hrest
    cases hdone
    obtain ⟨hkeeps, hfirst⟩ := ingestOrSkip_ok hresult
    obtain ⟨hkeeps', hothers⟩ := ih hingests
    refine ⟨hkeeps.trans hkeeps', fun ingest hmem => ?_⟩
    rcases List.mem_cons.mp hmem with rfl | hmem
    · refine ⟨rfl, fun r id hr hid => ?_, hfirst.other⟩
      obtain ⟨hingested, waId, hwaId, hattributed⟩ := hfirst.ingested r id hr hid
      exact ⟨hingested, waId, hwaId, hattributed.extend hkeeps hkeeps'⟩
    · obtain ⟨horg, hingested, hother⟩ := hothers ingest hmem
      refine ⟨horg, fun r id hr hid => ?_, fun hno => ?_⟩
      · obtain ⟨hnew, waId, hwaId, hattributed⟩ := hingested r id hr hid
        exact ⟨(IsIngested.congr hkeeps).mp hnew, waId, hwaId,
          hattributed.extend (hkeeps.trans hkeeps') (KeepsAttribution.refl _)⟩
      · rw [← IsIngested.congr hkeeps]
        exact hother hno

/-- A delivery does what each of its ingestions does. -/
theorem does_receiveWhatsappWebhook {R : Db → Db → Prop} [Std.Refl R] [IsTrans Db R]
    (hR : ∀ organizationId inbound d db r db', Ingested settings organizationId inbound d db r db' → R db db')
    (d : Nat → IngestDraws) : Tx.Does R (receiveWhatsappWebhook env settings payload d) := by
  have hskip : ∀ organizationId inbound d,
      Tx.Does R (ingestOrSkip env settings organizationId inbound d) := by
    intro organizationId inbound d db
    apply Tx.wp_of_forall_ok
    intro result db' h
    rw [ingestOrSkip, Tx.exec_recover, Tx.exec_map] at h
    cases hx : Tx.exec (ingestInboundWhatsappMessage env settings organizationId inbound d) db with
    | mk out db₁ =>
    rw [hx] at h
    cases out with
    | ok r =>
      cases h
      exact hR _ _ _ _ _ _ (ingest_ok hx)
    | error e =>
      cases e with
      | crossOrgSenderConflict a b c =>
        cases h
        obtain ⟨rfl, -⟩ := ingest_conflict hx
        exact Std.Refl.refl _
      | _ => cases h
  have heach : ∀ organizationId (n : Nat) items,
      Tx.Does R (ingestEach env settings organizationId d n items) := by
    intro organizationId n items
    induction items generalizing n with
    | nil => exact Tx.Does.pure _
    | cons inbound rest ih =>
      apply Tx.Does.bind (hskip organizationId inbound (d n))
      exact fun _ => Tx.Does.bind (ih (n + 1)) fun _ => Tx.Does.pure _
  apply Tx.Does.bind
  · intro db
    apply Tx.wp_of_forall_ok
    intro found db' hfound
    obtain ⟨rfl, -⟩ := webhookOrganization_ok hfound
    exact Std.Refl.refl _
  · intro found
    cases found with
    | none => exact Tx.Does.pure _
    | some organizationId =>
      apply Tx.Does.bind (heach organizationId 0 _)
      intro ingests
      split
      · exact Tx.Does.raise _
      · exact Tx.Does.pure _

/-- Every message of an acknowledged payload has been handled, under the owner of the first phone
    number id. -/
theorem receiveWhatsappWebhook_handled {d : Nat → IngestDraws} {ingests : List Ingest}
    (h : Tx.exec (receiveWhatsappWebhook env settings payload d) db = (.ok ingests, db'))
    {ingest : Ingest} (hmem : ingest ∈ ingests) : Handled ingest.organizationId db db' ingest := by
  obtain ⟨found, db₁, hfound, hrest⟩ := Tx.bind_ok.mp h
  obtain ⟨rfl, -⟩ := webhookOrganization_ok hfound
  cases found with
  | none =>
    cases hrest
    cases hmem
  | some owner =>
    obtain ⟨ingests', db₂, hingests, hend⟩ := Tx.bind_ok.mp hrest
    have hsame : ingests' = ingests ∧ db₂ = db' := by
      split at hend
      · cases hend
      · cases hend
        exact ⟨rfl, rfl⟩
    obtain ⟨rfl, rfl⟩ := hsame
    have hhandled := (ingestEach_handled hingests).2 ingest hmem
    rw [hhandled.organization]
    exact hhandled

end

/-! ## The law

A message is attributed to the contact whatever it says, so it is attributed to its own sender exactly if the
two agree. -/

/-- **Attribution**: in a payload that the route acknowledges, each ingested message is attributed to
    the sender that it names, exactly if that is the first contact of its change. -/
theorem attributesSenders_iff (env : Tickets.Env) (settings : Settings) (payload : Json)
    (d : Nat → IngestDraws) (db db' : Db) (ingests : List Ingest)
    (h : Tx.exec (receiveWhatsappWebhook env settings payload d) db = (.ok ingests, db')) :
    AttributesSenders db db' ingests ↔ NamesFirstContact db payload := by
  have hreceived := receiveWhatsappWebhook_ok h
  constructor
  · intro hattributes organizationId first hfirst howns inbound hitem hingested waId hsender
    obtain ⟨ingest, hmem, rfl, rfl⟩ :=
      (hreceived organizationId inbound).mpr ⟨hitem, first, hfirst, howns⟩
    have hhandled := receiveWhatsappWebhook_handled h hmem
    by_cases hno : ∀ r chatSessionId, ingest.result = some r → r.chatSessionId ≠ some chatSessionId
    · exact absurd hingested (hhandled.other hno)
    · push Not at hno
      obtain ⟨r, chatSessionId, hr, hid⟩ := hno
      obtain ⟨-, waId', hwaId, hattributed⟩ := hhandled.ingested r chatSessionId hr hid
      rw [hwaId, hattributed.unique (hattributes ingest hmem r chatSessionId waId hr hid hsender)]
  · intro hnames ingest hmem r chatSessionId waId hr hid hsender
    have hhandled := receiveWhatsappWebhook_handled h hmem
    obtain ⟨hingested, waId', hwaId, hattributed⟩ := hhandled.ingested r chatSessionId hr hid
    obtain ⟨hitem, first, hfirst, howns⟩ :=
      (hreceived ingest.organizationId ingest.inbound).mp ⟨ingest, hmem, rfl, rfl⟩
    have hsame := hnames ingest.organizationId first hfirst howns ingest.inbound hitem hingested waId
      hsender
    rw [hwaId] at hsame
    cases hsame
    exact hattributed

/-! ## Two contacts in one change

The second contact's message is ingested for the first one. With a change for each contact, nothing is mixed up. -/

def contactOf (waId : String) : Json := .obj [("wa_id", .str waId)]

def textFrom (waId wamid : String) : Json :=
  .obj [("from", .str waId), ("id", .str wamid), ("type", .str "text"),
    ("text", .obj [("body", .str "Hello")])]

/-- A change with these contacts and messages. -/
def changeOf (contacts messages : List Json) : Json :=
  .obj [("value", .obj
    [("metadata", .obj [("phone_number_id", .str "111")]), ("contacts", .arr contacts),
      ("messages", .arr messages)])]

/-- Two changes. The first contact of each is the one whose messages it has. -/
def pairedChanges : List Json :=
  [changeOf [contactOf "34600111222", contactOf "34600333444"]
      [textFrom "34600111222" "wamid.1", textFrom "34600111222" "wamid.2"],
    changeOf [contactOf "34600333444"] [textFrom "34600333444" "wamid.3"]]

theorem attributesSenders_paired : ∃ ingests db',
    Tx.exec (receiveChanges pairedChanges) webhookDb = (.ok ingests, db') ∧
      AttributesSenders webhookDb db' ingests := by
  have hok : (Tx.exec (receiveChanges pairedChanges) webhookDb).1.isOk = true := by
    decide +kernel
  cases h : Tx.exec (receiveChanges pairedChanges) webhookDb with
  | mk out db' =>
  rw [h] at hok
  cases out with
  | error e => cases hok
  | ok ingests =>
    refine ⟨ingests, db', rfl, (attributesSenders_iff webhookEnv webhookSettings _ webhookDraws webhookDb
      db' ingests h).mpr ?_⟩
    intro organizationId first _ _ inbound hitem _ waId hsender
    have hitems : (iterMessages (webhookPayload pairedChanges)).items =
        [⟨.str "111", contactOf "34600111222", textFrom "34600111222" "wamid.1"⟩,
          ⟨.str "111", contactOf "34600111222", textFrom "34600111222" "wamid.2"⟩,
          ⟨.str "111", contactOf "34600333444", textFrom "34600333444" "wamid.3"⟩] := rfl
    rw [hitems, List.mem_cons, List.mem_cons, List.mem_singleton] at hitem
    -- the sender of each is its contact
    obtain rfl | rfl | rfl := hitem
    · exact hsender
    · exact hsender
    · exact hsender

/-- The second contact writes in the first one's change. -/
def crossedChanges : List Json :=
  [changeOf [contactOf "34600111222", contactOf "34600333444"] [textFrom "34600333444" "wamid.1"]]

/-- The second contact's message goes to the conversation of the first one. -/
theorem not_attributesSenders : ∃ ingests db',
    Tx.exec (receiveChanges crossedChanges) webhookDb = (.ok ingests, db') ∧
    ¬ AttributesSenders webhookDb db' ingests := by
  have hrun : (match Tx.exec (receiveChanges crossedChanges) webhookDb with
    | (.ok ingests, db') => ingests.map fun ingest =>
        (sender ingest.inbound.message, ingest.result.map (·.chatSessionId),
          (db'.chatSessions.lookup 40).bind (metadataValue · "wa_id"))
    | (.error _, _) => []) = [(some "34600333444", some (some 40), some "34600111222")] := by
    decide +kernel
  cases h : Tx.exec (receiveChanges crossedChanges) webhookDb with
  | mk out db' =>
  rw [h] at hrun
  cases out with
  | error e => cases hrun
  | ok ingests =>
    refine ⟨ingests, db', rfl, fun hattributes => ?_⟩
    obtain ⟨ingest, hone, hcols⟩ := List.map_eq_singleton_iff.mp hrun
    obtain ⟨hsender, hcols⟩ := Prod.mk.inj hcols
    obtain ⟨hresult, hwaId⟩ := Prod.mk.inj hcols
    obtain ⟨r, hr, hid⟩ := Option.map_eq_some_iff.mp hresult
    obtain ⟨⟨s, hs, -, hsWaId⟩, -⟩ := hattributes ingest (by simp [hone]) r 40 _ hr hid hsender
    rw [hs, Option.bind_some, hsWaId] at hwaId
    exact absurd hwaId (by decide)

end Helpdesk.WhatsApp
