import Helpdesk.WhatsApp.Effects
import Helpdesk.WhatsApp.Webhook

/-! # Messages of one delivery

All messages of a payload share one loop and one transaction. A message that the loop skips leaves no
trace; one that raises takes the others with it.

**`independent_iff`**: each message that cannot be ingested is without effect on the others exactly if
the loop skips them all. -/

namespace Helpdesk.WhatsApp

open Tx

/-! ## A message less

The comparison is with a payload that differs in one message, and with the draws of the others. The organization
is taken from the first change, so it must be found in both. -/

/-- The jobs that the route enqueues. -/
def enqueuedJobs (ingests : List Ingest) : List ProcessJob :=
  ingests.filterMap fun ingest => ingest.result.bind (·.job)

/-- The payload without its message number `n`. -/
structure Without (payload : Json) (n : Nat) (payload' : Json) : Prop where
  phoneNumberId : extractPhoneNumberId payload' = extractPhoneNumberId payload
  items : (iterMessages payload').items = (iterMessages payload).items.eraseIdx n
  raised : (iterMessages payload').raised = (iterMessages payload).raised

/-- The draws of the other messages. -/
def skipDraws (n : Nat) (d : Nat → IngestDraws) (i : Nat) : IngestDraws := if i < n then d i else d (i + 1)

/-- The payload is acknowledged, and ingested and enqueued as if message `n` were absent. -/
def AsIfAbsent (env : Tickets.Env) (settings : Settings) (payload : Json) (d : Nat → IngestDraws) (db : Db)
    (n : Nat) : Prop :=
  ∃ ingests db', exec (receiveWhatsappWebhook env settings payload d) db = (.ok ingests, db') ∧
    ∀ payload', Without payload n payload' → ∃ ingests',
      exec (receiveWhatsappWebhook env settings payload' (skipDraws n d)) db = (.ok ingests', db') ∧
        ingests' = ingests.eraseIdx n ∧ enqueuedJobs ingests' = enqueuedJobs ingests

/-! ## Messages that cannot be ingested

Whether a message can be ingested depends on what those before it have left, so it is asked where the loop gets
to it. The loop recovers from one error only, and a message of another type is no error. -/

/-- The loop gets to message number `n`, under the organization and in the state `db'`. -/
structure Reaches (env : Tickets.Env) (settings : Settings) (payload : Json) (d : Nat → IngestDraws) (db : Db)
    (n : Nat) (organizationId : Uuid) (inbound : Inbound) (db' : Db) : Prop where
  organization : exec (webhookOrganization payload) db = (.ok (some organizationId), db)
  message : (iterMessages payload).items[n]? = some inbound
  before : ∃ ingests, exec (ingestEach env settings organizationId d 0 ((iterMessages payload).items.take n)) db =
    (.ok ingests, db')

/-- The ingestion raises, or the type of the message is not supported. -/
def CannotIngest (env : Tickets.Env) (settings : Settings) (organizationId : Uuid) (inbound : Inbound)
    (d : IngestDraws) (db : Db) : Prop :=
  ∀ r db', exec (ingestInboundWhatsappMessage env settings organizationId inbound d) db = (.ok r, db') →
    r.outcome = .unsupportedMessageType

/-- What the loop skips: a message with an id, of another type than text or from the user of another
    organization. -/
structure Skips (organizationId : Uuid) (inbound : Inbound) (db : Db) : Prop where
  id : ∃ v, item "id" inbound.message = .ok v
  skips : isText inbound.message = true → Foreign organizationId inbound db

/-- No message stands in the way of the others. -/
def Independent (env : Tickets.Env) (settings : Settings) (payload : Json) (d : Nat → IngestDraws) (db : Db) :
    Prop :=
  ∀ n organizationId inbound db', Reaches env settings payload d db n organizationId inbound db' →
    CannotIngest env settings organizationId inbound (d n) db' → AsIfAbsent env settings payload d db n

/-- All messages that cannot be ingested are skipped, and what follows them can be read. -/
def OnlySkips (env : Tickets.Env) (settings : Settings) (payload : Json) (d : Nat → IngestDraws) (db : Db) :
    Prop :=
  ∀ n organizationId inbound db', Reaches env settings payload d db n organizationId inbound db' →
    CannotIngest env settings organizationId inbound (d n) db' →
      Skips organizationId inbound db' ∧ (iterMessages payload).raised = none

/-! ## Skipping

A message that is skipped leaves the database, and enqueues nothing. -/

section
variable {env : Tickets.Env} {settings : Settings} {organizationId : Uuid} {inbound : Inbound} {d : IngestDraws}
  {db db' : Db}

theorem exec_ingest_unsupported {v : Json} (hid : item "id" inbound.message = .ok v)
    (htext : isText inbound.message = false) :
    exec (ingestInboundWhatsappMessage env settings organizationId inbound d) db =
      (.ok ⟨.unsupportedMessageType, none, idText v, .null⟩, db) := by
  obtain ⟨phoneNumberId, contact, message⟩ := inbound
  dsimp only at hid htext
  cases message with
  | obj items =>
    have hwamid : exec (idText <$> liftRead (item "id" (.obj items))) db = (.ok (idText v), db) := by
      rw [exec_map, hid]
      rfl
    have htype : exec (liftRead (get "type" .null (.obj items))) db =
        (.ok ((List.lookup "type" items).getD .null), db) := rfl
    unfold ingestInboundWhatsappMessage
    rw [exec_bind, hwamid]
    dsimp only
    rw [exec_bind, htype]
    dsimp only
    split
    next hv =>
      have : isText (.obj items) = true := by simp [isText, get, hv]
      rw [htext] at this
      cases this
    · rfl
  | _ => cases hid

theorem exec_ingest_foreign (env : Tickets.Env) (settings : Settings) (d : IngestDraws) {v : Json}
    (hid : item "id" inbound.message = .ok v) (htext : isText inbound.message = true)
    (h : Foreign organizationId inbound db) :
    ∃ a b c, exec (ingestInboundWhatsappMessage env settings organizationId inbound d) db =
      (.error (.crossOrgSenderConflict a b c), db) := by
  obtain ⟨profileName, hprofile⟩ := h.profile
  obtain ⟨textBody, hbody⟩ := h.text
  obtain ⟨waId, phoneNumber, userId, user, hcontact, hphone, hone, horg⟩ := h.sender
  have hwamid : exec (idText <$> liftRead (item "id" inbound.message)) db = (.ok (idText v), db) := by
    rw [exec_map, hid]
    rfl
  have htype : get "type" .null inbound.message = .ok (.str "text") := by
    unfold isText at htext
    split at htext
    next heq => rw [heq, of_decide_eq_true htext]
    · cases htext
  have hwaId : item "wa_id" inbound.contact = .ok (.str waId) := by
    unfold contactWaId at hcontact
    split at hcontact
    next heq => rw [heq, Option.some.inj hcontact]
    · cases hcontact
  have hresolve : exec (resolveWhatsappSenderIdentity env organizationId d.newUserId waId profileName) db =
      (.error (.crossOrgSenderConflict organizationId user.organizationId .whatsapp), db) := by
    simp [resolveWhatsappSenderIdentity, hphone, hone, horg]
  refine ⟨organizationId, user.organizationId, .whatsapp, ?_⟩
  unfold ingestInboundWhatsappMessage
  rw [exec_bind, hwamid]
  dsimp only
  rw [htype, hwaId, hprofile, hbody]
  simp only [liftRead, asString, exec_bind, exec_pure, hresolve]

/-- **A message that is skipped** leaves no trace, and no job. -/
theorem exec_ingestOrSkip_of_skips (env : Tickets.Env) (settings : Settings) (d : IngestDraws)
    (h : Skips organizationId inbound db) : ∃ result,
    exec (ingestOrSkip env settings organizationId inbound d) db = (.ok result, db) ∧
      result.bind (·.job) = none := by
  obtain ⟨v, hid⟩ := h.id
  rw [ingestOrSkip, exec_recover, exec_map]
  cases htext : isText inbound.message with
  | false =>
    rw [exec_ingest_unsupported hid htext]
    exact ⟨_, rfl, rfl⟩
  | true =>
    obtain ⟨a, b, c, hraises⟩ := exec_ingest_foreign env settings d hid htext (h.skips htext)
    rw [hraises]
    exact ⟨_, rfl, rfl⟩

/-- The loop goes on after a message that cannot be ingested only if it skips it. -/
theorem skips_of_ok {result : Option WhatsAppIngestionResult}
    (hcannot : CannotIngest env settings organizationId inbound d db)
    (h : exec (ingestOrSkip env settings organizationId inbound d) db = (.ok result, db')) :
    Skips organizationId inbound db := by
  rw [ingestOrSkip, exec_recover, exec_map] at h
  cases hx : exec (ingestInboundWhatsappMessage env settings organizationId inbound d) db with
  | mk out db₁ =>
  rw [hx] at h
  cases out with
  -- it has returned, and so with the one outcome that is left
  | ok r =>
    have hid : ∃ v, item "id" inbound.message = .ok v := by
      obtain ⟨wamid, db₀, hwamid, -⟩ := Tx.bind_ok.mp hx
      rw [exec_map] at hwamid
      cases hv : item "id" inbound.message with
      | ok v => exact ⟨v, rfl⟩
      | error e =>
        rw [hv] at hwamid
        cases hwamid
    refine ⟨hid, fun htext => absurd (hcannot r db₁ hx) ?_⟩
    cases ingest_ok hx with
    | unsupported wamid hmessage =>
      rw [htext] at hmessage
      cases hmessage
    | taken _ _ _ _ _ _ hconcludes =>
      cases hconcludes with
      | replayed => exact fun h => by cases h
      | appended => exact fun h => by cases h
      | queued => exact fun h => by cases h
      | limited => exact fun h => by cases h
  | error e =>
    -- the only error that does not end the delivery
    cases e with
    | crossOrgSenderConflict a b c =>
      obtain ⟨-, -, hid, hforeign⟩ := ingest_conflict hx
      exact ⟨hid, fun _ => hforeign⟩
    | _ => cases h

end

/-! ## The loop

The loop over a list in two parts, and with other draws that agree on the messages. -/

section
variable {env : Tickets.Env} {settings : Settings} {organizationId : Uuid} {db db' : Db}

theorem ingestEach_append {d : Nat → IngestDraws} {n : Nat} {items items' : List Inbound}
    {ingests : List Ingest} :
    exec (ingestEach env settings organizationId d n (items ++ items')) db = (.ok ingests, db') ↔
      ∃ before db₁ after, exec (ingestEach env settings organizationId d n items) db = (.ok before, db₁) ∧
        exec (ingestEach env settings organizationId d (n + items.length) items') db₁ = (.ok after, db') ∧
        ingests = before ++ after := by
  induction items generalizing n db ingests with
  | nil =>
    constructor
    · exact fun h => ⟨[], db, ingests, rfl, h, rfl⟩
    · rintro ⟨_, _, after, hnil, h, rfl⟩
      cases hnil
      exact h
  | cons inbound rest ih =>
    rw [List.cons_append, List.length_cons, show n + (rest.length + 1) = n + 1 + rest.length by omega]
    constructor
    · intro h
      obtain ⟨result, db₁, hresult, hrest⟩ := Tx.bind_ok.mp h
      obtain ⟨ingests', db₂, hingests, hdone⟩ := Tx.bind_ok.mp hrest
      cases hdone
      obtain ⟨before, db₂, after, hbefore, hafter, rfl⟩ := ih.mp hingests
      refine ⟨⟨organizationId, inbound, result⟩ :: before, db₂, after, ?_, hafter, rfl⟩
      exact Tx.bind_ok.mpr ⟨result, db₁, hresult, Tx.bind_ok.mpr ⟨before, db₂, hbefore, rfl⟩⟩
    · rintro ⟨_, db₂, after, h, hafter, rfl⟩
      obtain ⟨result, db₁, hresult, hrest⟩ := Tx.bind_ok.mp h
      obtain ⟨before, db₃, hbefore, hdone⟩ := Tx.bind_ok.mp hrest
      cases hdone
      refine Tx.bind_ok.mpr ⟨result, db₁, hresult, ?_⟩
      exact Tx.bind_ok.mpr ⟨before ++ after, db', ih.mpr ⟨before, db₂, after, hbefore, hafter, rfl⟩, rfl⟩

/-- Only the draws of the messages that are ingested matter. -/
theorem ingestEach_congr {d d' : Nat → IngestDraws} {n n' : Nat} {items : List Inbound}
    (h : ∀ i, i < items.length → d (n + i) = d' (n' + i)) :
    ingestEach env settings organizationId d n items = ingestEach env settings organizationId d' n' items := by
  induction items generalizing n n' with
  | nil => rfl
  | cons inbound rest ih =>
    have hrest : ingestEach env settings organizationId d (n + 1) rest =
        ingestEach env settings organizationId d' (n' + 1) rest := by
      apply ih
      intro i hi
      have := h (i + 1) (Nat.succ_lt_succ hi)
      rwa [Nat.add_right_comm, Nat.add_right_comm n', Nat.add_assoc, Nat.add_assoc]
    have hfirst : d n = d' n' := h 0 (Nat.succ_pos _)
    rw [ingestEach, ingestEach, hfirst, hrest]

theorem length_ingestEach {d : Nat → IngestDraws} {n : Nat} {items : List Inbound} {ingests : List Ingest}
    (h : exec (ingestEach env settings organizationId d n items) db = (.ok ingests, db')) :
    ingests.length = items.length := by
  have hlength := congrArg List.length (ingestEach_ok h)
  rwa [List.length_map, List.length_map] at hlength

end

/-! ## The delivery

From right to left: if everything that cannot be ingested is skipped, the loop gets to its end, and the message
at hand can be taken out. From left to right: the payload is acknowledged, so the loop has got past the message. -/

section
variable {env : Tickets.Env} {settings : Settings} {payload : Json} {d : Nat → IngestDraws} {db db' : Db}
  {organizationId : Uuid} {n : Nat} {inbound : Inbound}

theorem receive_ok (horganization : exec (webhookOrganization payload) db = (.ok (some organizationId), db))
    {ingests : List Ingest} :
    exec (receiveWhatsappWebhook env settings payload d) db = (.ok ingests, db') ↔
      exec (ingestEach env settings organizationId d 0 (iterMessages payload).items) db = (.ok ingests, db') ∧
        (iterMessages payload).raised = none := by
  constructor
  · intro h
    obtain ⟨found, db₁, hfound, hrest⟩ := Tx.bind_ok.mp h
    rw [horganization] at hfound
    cases hfound
    obtain ⟨ingests', db₂, hingests, hend⟩ := Tx.bind_ok.mp hrest
    split at hend
    · cases hend
    next hraised =>
      cases hend
      exact ⟨hingests, hraised⟩
  · rintro ⟨hingests, hraised⟩
    refine Tx.bind_ok.mpr ⟨_, db, horganization, Tx.bind_ok.mpr ⟨ingests, db', hingests, ?_⟩⟩
    rw [hraised]
    rfl

/-- The list of messages around one of them. -/
theorem items_eq {items : List Inbound} (h : items[n]? = some inbound) :
    items = items.take n ++ inbound :: items.drop (n + 1) ∧ (items.take n).length = n := by
  obtain ⟨hn, rfl⟩ := List.getElem?_eq_some_iff.mp h
  refine ⟨?_, List.length_take_of_le hn.le⟩
  rw [List.getElem_cons_drop, List.take_append_drop]

/-- If all that cannot be ingested is skipped, the loop comes to its end. -/
theorem completes_ingestEach (h : OnlySkips env settings payload d db)
    (horganization : exec (webhookOrganization payload) db = (.ok (some organizationId), db)) (k : Nat) :
    Completes (ingestEach env settings organizationId d 0 ((iterMessages payload).items.take k)) db := by
  induction k with
  | zero => exact completes_pure _ _
  | succ k ih =>
    cases hk : (iterMessages payload).items[k]? with
    | none =>
      rw [List.getElem?_eq_none_iff] at hk
      rw [List.take_of_length_le hk] at ih
      rwa [List.take_of_length_le (by omega)]
    | some inbound =>
      obtain ⟨before, db₁, hbefore⟩ := ih
      have hlength : ((iterMessages payload).items.take k).length = k := (items_eq hk).2
      -- either it can be ingested, or it is skipped
      have hnext : Completes (ingestOrSkip env settings organizationId inbound (d k)) db₁ := by
        by_cases hcannot : CannotIngest env settings organizationId inbound (d k) db₁
        · obtain ⟨hskips, -⟩ := h k organizationId inbound db₁ ⟨horganization, hk, before, hbefore⟩ hcannot
          obtain ⟨result, hresult, -⟩ := exec_ingestOrSkip_of_skips env settings (d k) hskips
          exact ⟨result, db₁, hresult⟩
        · unfold CannotIngest at hcannot
          push Not at hcannot
          obtain ⟨r, db₂, hr, -⟩ := hcannot
          refine ⟨some r, db₂, ?_⟩
          rw [ingestOrSkip, exec_recover, exec_map, hr]
          rfl
      obtain ⟨result, db₂, hresult⟩ := hnext
      refine ⟨before ++ [⟨organizationId, inbound, result⟩], db₂, ?_⟩
      rw [List.take_add_one, hk]
      refine ingestEach_append.mpr ⟨before, db₁, _, hbefore, ?_, rfl⟩
      rw [hlength, Nat.zero_add]
      exact Tx.bind_ok.mpr ⟨result, db₂, hresult, rfl⟩

theorem asIfAbsent_of_onlySkips (h : OnlySkips env settings payload d db)
    (hreaches : Reaches env settings payload d db n organizationId inbound db')
    (hcannot : CannotIngest env settings organizationId inbound (d n) db') :
    AsIfAbsent env settings payload d db n := by
  obtain ⟨hskips, hraised⟩ := h n organizationId inbound db' hreaches hcannot
  obtain ⟨hitems, hlength⟩ := items_eq hreaches.message
  obtain ⟨ingests, db₂, hingests⟩ := completes_ingestEach h hreaches.organization (iterMessages payload).items.length
  rw [List.take_length] at hingests
  refine ⟨ingests, db₂, (receive_ok hreaches.organization).mpr ⟨hingests, hraised⟩, fun payload' hwithout => ?_⟩
  obtain ⟨before, hbefore⟩ := hreaches.before
  rw [hitems] at hingests
  obtain ⟨before', db₁, after, hbefore', hafter, rfl⟩ := ingestEach_append.mp hingests
  obtain ⟨hsame, rfl⟩ := Prod.mk.inj (hbefore.symm.trans hbefore')
  obtain rfl := Except.ok.inj hsame
  rw [hlength, Nat.zero_add] at hafter
  obtain ⟨result, db₃, hresult, hrest⟩ := Tx.bind_ok.mp hafter
  obtain ⟨after', db₄, hafter', hdone⟩ := Tx.bind_ok.mp hrest
  cases hdone
  -- the message itself leaves no trace
  obtain ⟨result', hskipped, hjob⟩ := exec_ingestOrSkip_of_skips env settings (d n) hskips
  obtain ⟨hresults, rfl⟩ := Prod.mk.inj (hskipped.symm.trans hresult)
  obtain rfl := Except.ok.inj hresults
  have horganization' : exec (webhookOrganization payload') db = (.ok (some organizationId), db) := by
    rw [webhookOrganization, hwithout.phoneNumberId]
    exact hreaches.organization
  -- the loop over the rest goes on from the same database
  have herase : (before ++ ⟨organizationId, inbound, result'⟩ :: after').eraseIdx n = before ++ after' := by
    rw [List.eraseIdx_append_of_length_le (by rw [length_ingestEach hbefore, hlength]), length_ingestEach hbefore,
      hlength, Nat.sub_self]
    rfl
  refine ⟨before ++ after', (receive_ok horganization').mpr ⟨?_, hwithout.raised.trans hraised⟩, herase.symm, ?_⟩
  · rw [hwithout.items, List.eraseIdx_eq_take_drop_succ]
    refine ingestEach_append.mpr ⟨before, db', after', ?_, ?_, rfl⟩
    · rw [← hbefore]
      refine congrArg (fun x => exec x db) (ingestEach_congr fun i hi => ?_)
      rw [hlength] at hi
      simp [skipDraws, hi]
    · rw [← hafter', hlength]
      refine congrArg (fun x => exec x db') (ingestEach_congr fun i _ => ?_)
      show (if 0 + n + i < n then _ else d (0 + n + i + 1)) = d (n + 1 + i)
      rw [if_neg (by omega), show 0 + n + i + 1 = n + 1 + i by omega]
  · unfold enqueuedJobs
    rw [List.filterMap_append, List.filterMap_append, List.filterMap_cons]
    dsimp only
    rw [hjob]

/-- **Independence**: the messages that cannot be ingested are without effect on the others, and the
    payload is acknowledged, exactly if all that cannot be ingested is skipped. -/
theorem independent_iff (env : Tickets.Env) (settings : Settings) (payload : Json) (d : Nat → IngestDraws)
    (db : Db) : Independent env settings payload d db ↔ OnlySkips env settings payload d db := by
  constructor
  · intro h n organizationId inbound db' hreaches hcannot
    obtain ⟨ingests, db₂, hexec, -⟩ := h n organizationId inbound db' hreaches hcannot
    obtain ⟨hingests, hraised⟩ := (receive_ok hreaches.organization).mp hexec
    refine ⟨?_, hraised⟩
    obtain ⟨before, hbefore⟩ := hreaches.before
    obtain ⟨hitems, hlength⟩ := items_eq hreaches.message
    rw [hitems] at hingests
    obtain ⟨before', db₁, after, hbefore', hafter, -⟩ := ingestEach_append.mp hingests
    obtain ⟨-, rfl⟩ := Prod.mk.inj (hbefore.symm.trans hbefore')
    rw [hlength, Nat.zero_add] at hafter
    obtain ⟨result, db₃, hresult, -⟩ := Tx.bind_ok.mp hafter
    exact skips_of_ok hcannot hresult
  · exact fun h n organizationId inbound db' hreaches hcannot => asIfAbsent_of_onlySkips h hreaches hcannot

end

/-! ## A sender without a number

The `wa_id` has too few digits for a number. The ingestion raises, and the message behind it is lost with it. -/

/-- A change with one message from a number that is too short. -/
def shortNumber : Json :=
  .obj [("value", .obj
    [("metadata", .obj [("phone_number_id", .str "111")]),
      ("contacts", .arr [.obj [("wa_id", .str "911")]]),
      ("messages", .arr [textMessage "wamid.1"])])]

/-- The second message would be ingested, and is lost with the first one. -/
theorem not_independent :
    (exec (receiveChanges [oneMessage "111" "wamid.2"]) webhookDb).1.isOk = true ∧
      (exec (receiveChanges [shortNumber, oneMessage "111" "wamid.2"]) webhookDb).1.isOk = false ∧
      ¬ Independent webhookEnv webhookSettings (webhookPayload [shortNumber, oneMessage "111" "wamid.2"])
        webhookDraws webhookDb := by
  have hraises : (exec (receiveChanges [shortNumber, oneMessage "111" "wamid.2"]) webhookDb).1.isOk = false := by
    decide +kernel
  refine ⟨by decide +kernel, hraises, fun h => ?_⟩
  have hcannot : CannotIngest webhookEnv webhookSettings 1
      ⟨.str "111", .obj [("wa_id", .str "911")], textMessage "wamid.1"⟩ (webhookDraws 0) webhookDb := by
    intro r db' hexec
    have hingest : (exec (ingestInboundWhatsappMessage webhookEnv webhookSettings 1
        ⟨.str "111", .obj [("wa_id", .str "911")], textMessage "wamid.1"⟩ (webhookDraws 0)) webhookDb).1.isOk =
          false := by
      decide +kernel
    rw [hexec] at hingest
    cases hingest
  obtain ⟨ingests, db', hexec, -⟩ := h 0 1 _ webhookDb ⟨rfl, rfl, [], rfl⟩ hcannot
  have hok : (exec (receiveChanges [shortNumber, oneMessage "111" "wamid.2"]) webhookDb).1.isOk = true := by
    unfold receiveChanges
    rw [hexec]
    rfl
  rw [hraises] at hok
  cases hok

end Helpdesk.WhatsApp
