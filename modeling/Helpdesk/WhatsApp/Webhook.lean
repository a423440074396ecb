import Helpdesk.WhatsApp.Ingestion

/-! # The WhatsApp webhook

`receive_whatsapp_webhook` behind its dependency, for a body whose signature has been verified. The
dependency finds one organization for the whole payload, by the phone number id of the first change
of the first entry; the route then ingests the messages of all changes under it.

**`isolated_iff`**: each message goes to the owner of its own change's phone number id exactly if that
is the id of the first change too, or nobody owns either. -/

namespace Helpdesk.WhatsApp

/-! ## The dependency

An unknown phone number is acknowledged without an organization, so that it is not delivered again. -/

/-- `OrganizationRepository.get_by_whatsapp_phone_number_id`. -/
def getByWhatsappPhoneNumberId (phoneNumberId : Json) : Service (Option Uuid) := do
  let phoneNumberId ← Chat.asText phoneNumberId
  let db ← Tx.store
  match db.organizations.select fun _ org => org.whatsappPhoneNumberId = some phoneNumberId with
  | [] => pure none
  | [(id, _)] => pure (some id)
  | _ => Tx.raise .multipleResultsFound

/-- The organization of the `WhatsAppWebhookRequest`. -/
def webhookOrganization (payload : Json) : Service (Option Uuid) :=
  match extractPhoneNumberId payload with
  | none => pure none
  | some phoneNumberId => getByWhatsappPhoneNumberId phoneNumberId

/-! ## The route

The loop, with the draws of each message. The jobs are enqueued after the commit. -/

/-- A `CrossOrgSenderConflict` is logged, and the loop goes on. -/
def skipsConflict : Raised → Option (Option WhatsAppIngestionResult)
  | .crossOrgSenderConflict _ _ _ => some none
  | _ => none

/-- The body of the route's loop. -/
def ingestOrSkip (env : Tickets.Env) (settings : Settings) (organizationId : Uuid) (inbound : Inbound)
    (d : IngestDraws) : Service (Option WhatsAppIngestionResult) :=
  Tx.recover (some <$> ingestInboundWhatsappMessage env settings organizationId inbound d)
    skipsConflict

/-- A message that has been ingested, or skipped. -/
structure Ingest where
  organizationId : Uuid
  inbound : Inbound
  result : Option WhatsAppIngestionResult

/-- The loop of the route; the next message is number `n`. -/
def ingestEach (env : Tickets.Env) (settings : Settings) (organizationId : Uuid)
    (d : Nat → IngestDraws) : (n : Nat) → List Inbound → Service (List Ingest)
  | _, [] => pure []
  | n, inbound :: rest => do
    let result ← ingestOrSkip env settings organizationId inbound (d n)
    let ingests ← ingestEach env settings organizationId d (n + 1) rest
    pure (⟨organizationId, inbound, result⟩ :: ingests)

/-- The arguments of a `process_whatsapp_message` job. -/
structure ProcessJob where
  chatSessionId : Uuid
  wamid : String
  textBody : Json

/-- The job that the route enqueues for a message. -/
def WhatsAppIngestionResult.job (result : WhatsAppIngestionResult) : Option ProcessJob :=
  match result.outcome, result.chatSessionId with
  | .botReplyQueued, some chatSessionId => some ⟨chatSessionId, result.wamid, result.textBody⟩
  | _, _ => none

/-- `receive_whatsapp_webhook`. -/
def receiveWhatsappWebhook (env : Tickets.Env) (settings : Settings) (payload : Json)
    (d : Nat → IngestDraws) : Service (List Ingest) := do
  match ← webhookOrganization payload with
  | none => pure []
  | some organizationId =>
    let messages := iterMessages payload
    let ingests ← ingestEach env settings organizationId d 0 messages.items
    match messages.raised with
    | some e => Tx.raise e
    | none => pure ingests

/-! ## Who owns a phone number id

The column is unique among the organizations that have one. `SharesPhoneNumber` is the condition, on the payload
and on who owns its numbers. -/

/-- The organization has this WhatsApp phone number id. -/
def Owns (db : Db) (organizationId : Uuid) (phoneNumberId : Json) : Prop :=
  ∃ org number, db.organizations.lookup organizationId = some org ∧ phoneNumberId = .str number ∧
    org.whatsappPhoneNumberId = some number

/-- Each message goes to the owner of the phone number id of its own change, and to nobody else. -/
def Isolated (db : Db) (payload : Json) (ingests : List Ingest) : Prop :=
  ∀ organizationId inbound,
    (∃ ingest ∈ ingests, ingest.organizationId = organizationId ∧ ingest.inbound = inbound) ↔
      inbound ∈ (iterMessages payload).items ∧ Owns db organizationId inbound.phoneNumberId

/-- No change with messages has a phone number id that is owned and not the first one, or not owned
    while the first one is. -/
def SharesPhoneNumber (db : Db) (payload : Json) : Prop :=
  ∀ inbound ∈ (iterMessages payload).items,
    extractPhoneNumberId payload = some inbound.phoneNumberId ∨
      (∀ organizationId, ¬ Owns db organizationId inbound.phoneNumberId) ∧
        ∀ first, extractPhoneNumberId payload = some first →
          ∀ organizationId, ¬ Owns db organizationId first

section
variable {env : Tickets.Env} {settings : Settings} {payload phoneNumberId : Json} {db db' : Db}
  {organizationId : Uuid}

/-- Two phone number ids with one owner are one. -/
theorem Owns.unique {other : Json} (h : Owns db organizationId phoneNumberId)
    (hother : Owns db organizationId other) : phoneNumberId = other := by
  obtain ⟨org, number, hlookup, rfl, hnumber⟩ := h
  obtain ⟨org', number', hlookup', rfl, hnumber'⟩ := hother
  grind

/-- **The lookup** of a phone number id finds its only owner. -/
theorem getByWhatsappPhoneNumberId_ok {found : Option Uuid}
    (h : Tx.exec (getByWhatsappPhoneNumberId phoneNumberId) db = (.ok found, db')) :
    db' = db ∧ ∀ organizationId, Owns db organizationId phoneNumberId ↔ found = some organizationId := by
  obtain ⟨number, db₁, htext, hrest⟩ := Tx.bind_ok.mp h
  have hnumber : phoneNumberId = .str number ∧ db₁ = db := by
    cases phoneNumberId with
    | str s =>
      cases htext
      exact ⟨rfl, rfl⟩
    | _ => cases htext
  obtain ⟨rfl, rfl⟩ := hnumber
  have howns : ∀ organizationId, Owns db₁ organizationId (.str number) ↔ ∃ org,
      (organizationId, org) ∈ db₁.organizations.select fun _ org =>
        org.whatsappPhoneNumberId = some number := by
    intro organizationId
    show (∃ org number', _) ↔ _
    simp only [Json.str.injEq, Table.mem_select, decide_eq_true_eq]
    grind
  simp only [Tx.exec_bind, Tx.exec_store] at hrest
  split at hrest
  next hnone =>
    cases hrest
    exact ⟨rfl, fun organizationId => by simp [howns, hnone]⟩
  next id org hone =>
    cases hrest
    exact ⟨rfl, fun organizationId => by simp [howns, hone, eq_comm]⟩
  · cases hrest

/-- The organization of the request is the owner of the first phone number id. -/
theorem webhookOrganization_ok {found : Option Uuid}
    (h : Tx.exec (webhookOrganization payload) db = (.ok found, db')) :
    db' = db ∧ ∀ organizationId, found = some organizationId ↔
      ∃ first, extractPhoneNumberId payload = some first ∧ Owns db organizationId first := by
  unfold webhookOrganization at h
  split at h
  next hnone =>
    cases h
    exact ⟨rfl, fun organizationId => by simp [hnone]⟩
  next first hfirst =>
    obtain ⟨hdb, howns⟩ := getByWhatsappPhoneNumberId_ok h
    exact ⟨hdb, fun organizationId => by simp [hfirst, howns]⟩

/-- The loop ingests each message, under the one organization. -/
theorem ingestEach_ok {d : Nat → IngestDraws} {n : Nat} {items : List Inbound}
    {ingests : List Ingest}
    (h : Tx.exec (ingestEach env settings organizationId d n items) db = (.ok ingests, db')) :
    ingests.map (fun ingest => (ingest.organizationId, ingest.inbound)) =
      items.map fun inbound => (organizationId, inbound) := by
  induction items generalizing n db ingests with
  | nil =>
    cases h
    rfl
  | cons inbound rest ih =>
    obtain ⟨result, db₁, -, hrest⟩ := Tx.bind_ok.mp h
    obtain ⟨ingests', db₂, hingests, hdone⟩ := Tx.bind_ok.mp hrest
    cases hdone
    show (organizationId, inbound) :: _ = (organizationId, inbound) :: _
    rw [ih hingests]

/-- What the route has ingested when it acknowledges the payload. -/
theorem receiveWhatsappWebhook_ok {d : Nat → IngestDraws} {ingests : List Ingest}
    (h : Tx.exec (receiveWhatsappWebhook env settings payload d) db = (.ok ingests, db'))
    (organizationId : Uuid) (inbound : Inbound) :
    (∃ ingest ∈ ingests, ingest.organizationId = organizationId ∧ ingest.inbound = inbound) ↔
      inbound ∈ (iterMessages payload).items ∧
        ∃ first, extractPhoneNumberId payload = some first ∧ Owns db organizationId first := by
  obtain ⟨found, db₁, hfound, hrest⟩ := Tx.bind_ok.mp h
  obtain ⟨rfl, hfirst⟩ := webhookOrganization_ok hfound
  rw [← hfirst organizationId]
  cases found with
  | none =>
    cases hrest
    simp
  | some owner =>
    obtain ⟨ingests', db₂, hingests, hend⟩ := Tx.bind_ok.mp hrest
    have hsame : ingests' = ingests := by
      split at hend
      · cases hend
      · cases hend
        rfl
    subst hsame
    have hpairs := ingestEach_ok hingests
    have hmem : (∃ ingest ∈ ingests', ingest.organizationId = organizationId ∧
        ingest.inbound = inbound) ↔ (organizationId, inbound) ∈
          ingests'.map fun ingest => (ingest.organizationId, ingest.inbound) := by
      simp
    rw [hmem, hpairs]
    simp

end

/-! ## The law

All messages go to one organization, so they go to the right ones exactly if there is only one right one. -/

/-- **Tenant isolation**: in a payload that the route acknowledges, every message goes to the owner of
    the phone number id of its own change, exactly if these ids are the first one's, or unowned. -/
theorem isolated_iff (env : Tickets.Env) (settings : Settings) (payload : Json)
    (d : Nat → IngestDraws) (db : Db) (ingests : List Ingest)
    (h : (Tx.exec (receiveWhatsappWebhook env settings payload d) db).1 = .ok ingests) :
    Isolated db payload ingests ↔ SharesPhoneNumber db payload := by
  have hreceived := receiveWhatsappWebhook_ok (Prod.ext h rfl)
  constructor
  · intro hisolated inbound hmem
    have howners : ∀ organizationId, Owns db organizationId inbound.phoneNumberId ↔
        ∃ first, extractPhoneNumberId payload = some first ∧ Owns db organizationId first := by
      intro organizationId
      have := (hisolated organizationId inbound).symm.trans (hreceived organizationId inbound)
      simpa [hmem] using this
    by_cases howned : ∃ organizationId, Owns db organizationId inbound.phoneNumberId
    · obtain ⟨organizationId, howns⟩ := howned
      obtain ⟨first, hfirst, hfirstOwns⟩ := (howners organizationId).mp howns
      exact .inl (by rw [hfirst, hfirstOwns.unique howns])
    · refine .inr ⟨fun organizationId howns => howned ⟨organizationId, howns⟩, ?_⟩
      intro first hfirst organizationId howns
      exact howned ⟨organizationId, (howners organizationId).mpr ⟨first, hfirst, howns⟩⟩
  · intro hshares organizationId inbound
    rw [hreceived organizationId inbound]
    refine and_congr_right fun hmem => ?_
    rcases hshares inbound hmem with hfirst | ⟨hunowned, hfirstUnowned⟩
    · simp [hfirst]
    · constructor
      · rintro ⟨first, hfirst, howns⟩
        exact absurd howns (hfirstUnowned first hfirst organizationId)
      · exact fun howns => absurd howns (hunowned organizationId)

/-! ## Two customers in one payload

Messages of two customers in one payload all go to the owner of the first number. A change with statuses of
another customer does no harm, since it has no message. -/

def webhookEnv : Tickets.Env where
  zoneInfo := fun _ => none
  lower := id

def webhookSettings : Settings := ⟨1440, 24⟩

/-- Organization `1` has the phone number id `111`, and organization `2` has `222`. -/
def webhookDb : Db :=
  { Db.empty with
    organizations :=
      AList.insert 1 ⟨"widget-1", some "111", none, "UTC", []⟩
        (AList.insert 2 ⟨"widget-2", some "222", none, "UTC", []⟩ ∅) }

def textMessage (wamid : String) : Json :=
  .obj [("id", .str wamid), ("type", .str "text"), ("text", .obj [("body", .str "Hello")])]

def webhookContact : Json := .obj [("wa_id", .str "34600111222")]

/-- A change with one message. -/
def oneMessage (phoneNumberId wamid : String) : Json :=
  .obj [("value", .obj
    [("metadata", .obj [("phone_number_id", .str phoneNumberId)]),
      ("contacts", .arr [webhookContact]),
      ("messages", .arr [textMessage wamid])])]

def webhookPayload (changes : List Json) : Json :=
  .obj [("entry", .arr [.obj [("changes", .arr changes)]])]

def webhookDraws (n : Nat) : IngestDraws where
  newUserId := 10 + n
  newSessionId := 40 + n
  messageId := 60 + n
  rank := id
  idleNow := days 739000
  now := days 739000
  activityNow := days 739000
  startedAt := days 739000
  admitted := true

def receiveChanges (changes : List Json) : Service (List Ingest) :=
  receiveWhatsappWebhook webhookEnv webhookSettings (webhookPayload changes) webhookDraws

/-- A change without a message: a status of organization `1`'s number. -/
def statusChange : Json :=
  .obj [("value", .obj
    [("metadata", .obj [("phone_number_id", .str "111")]), ("statuses", .arr [.obj []])])]

/-- Two messages of organization `2`, with a status of organization `1` in between. -/
def sharedChanges : List Json := [oneMessage "222" "wamid.1", statusChange, oneMessage "222" "wamid.2"]

theorem isolated_iff_shared : ∃ ingests,
    (Tx.exec (receiveChanges sharedChanges) webhookDb).1 = .ok ingests ∧
      Isolated webhookDb (webhookPayload sharedChanges) ingests := by
  have hok : (Tx.exec (receiveChanges sharedChanges) webhookDb).1.isOk = true := by
    decide +kernel
  cases h : (Tx.exec (receiveChanges sharedChanges) webhookDb).1 with
  | error e =>
    rw [h] at hok
    cases hok
  | ok ingests =>
    refine ⟨ingests, rfl, (isolated_iff webhookEnv webhookSettings _ webhookDraws webhookDb _ h).mpr ?_⟩
    have hitems : (iterMessages (webhookPayload sharedChanges)).items =
        [⟨.str "222", webhookContact, textMessage "wamid.1"⟩,
          ⟨.str "222", webhookContact, textMessage "wamid.2"⟩] := rfl
    intro inbound hmem
    rw [hitems, List.mem_cons, List.mem_singleton] at hmem
    obtain rfl | rfl := hmem
    · exact .inl rfl
    · exact .inl rfl

/-- The second change is organization `2`'s, and its message is ingested under organization `1`. -/
theorem not_isolated : ∃ ingests,
    (Tx.exec (receiveChanges [oneMessage "111" "wamid.1", oneMessage "222" "wamid.2"]) webhookDb).1 =
      .ok ingests ∧
    ¬ Isolated webhookDb (webhookPayload [oneMessage "111" "wamid.1", oneMessage "222" "wamid.2"])
      ingests := by
  have hok : (Tx.exec (receiveChanges [oneMessage "111" "wamid.1", oneMessage "222" "wamid.2"])
      webhookDb).1.isOk = true := by
    decide +kernel
  cases h : (Tx.exec (receiveChanges [oneMessage "111" "wamid.1", oneMessage "222" "wamid.2"])
      webhookDb).1 with
  | error e =>
    rw [h] at hok
    cases hok
  | ok ingests =>
    refine ⟨ingests, rfl, fun hisolated => ?_⟩
    have hmem : (⟨.str "222", webhookContact, textMessage "wamid.2"⟩ : Inbound) ∈
        (iterMessages (webhookPayload [oneMessage "111" "wamid.1", oneMessage "222" "wamid.2"])).items :=
      List.mem_cons_of_mem _ List.mem_cons_self
    have hingested := (receiveWhatsappWebhook_ok (Prod.ext h rfl) 1 _).mpr
      ⟨hmem, .str "111", rfl, _, "111", rfl, rfl, rfl⟩
    obtain ⟨-, org, number, hlookup, hnumber, howns⟩ := (hisolated 1 _).mp hingested
    have hone : (webhookDb.organizations.lookup 1).map (·.whatsappPhoneNumberId) =
        some (some "111") := rfl
    rw [hlookup] at hone
    cases hnumber
    rw [Option.map_some, howns] at hone
    exact absurd hone (by decide)

end Helpdesk.WhatsApp
