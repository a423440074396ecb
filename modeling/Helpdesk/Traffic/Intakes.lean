import Helpdesk.Traffic.Steps

/-! # A message is ingested once

WhatsApp delivers a message again until it is acknowledged, and later if it likes. What keeps it from
being ingested twice is the list of ids on the session that it goes to: the last fifty of them, and of
a session that may have been replaced by then.

**`ingestedOnce_of_run`**: no message is ingested twice, in every run in which a message that is
delivered again still finds its id on the session that it would go on with, and no two deliveries of a
message overlap. -/

namespace Helpdesk.Traffic

open Chat WhatsApp

/-! ## What an ingestion records

`Records` is the spec of `ingest_inbound_whatsapp_message`, as an inductive type with the three ways in which
it returns. `records_of_ok` is the only place that unfolds the service. -/

/-- The id of a message. -/
def messageId (message : Json) : Option String :=
  match item "id" message with
  | .ok v => some (idText v)
  | .error _ => none

/-- What an ingestion does to the chat sessions: nothing, or it records the message on the session
    that it goes on with, or it starts one with it. -/
inductive Records (settings : WhatsApp.Settings) (organizationId : Uuid) (inbound : Inbound)
    (d : IngestDraws) (before after : Db) (result : WhatsAppIngestionResult) : Prop
  | nothing (htaken : takenUp result = none) (hsessions : after.chatSessions = before.chatSessions)
  | goesOn {waId : String} {id : Uuid} {existing : ChatSession} (htaken : takenUp result = some id)
      (hmessage : isText inbound.message = true)
      (hwamid : messageId inbound.message = some result.wamid)
      (hwaId : contactWaId inbound.contact = some waId)
      (hreuses : Reuses settings organizationId waId d before (some (id, existing)))
      (hnew : contains existing.channelMetadata "processed_message_ids" result.wamid = false)
      (hsessions : after.chatSessions = before.chatSessions.modify id fun _ =>
        { existing with
          channelMetadata := some (recordInbound existing.channelMetadata result.wamid d.now)
          lastActivityAt := d.activityNow })
      (hjob : ∀ job, result.job = some job → job.chatSessionId = id ∧ job.wamid = result.wamid ∧
        existing.status ≠ .escalated)
  | starts {waId : String} (profileName : Json) (scope : OrgScope)
      (htaken : takenUp result = some d.newSessionId)
      (hmessage : isText inbound.message = true)
      (hwamid : messageId inbound.message = some result.wamid)
      (hwaId : contactWaId inbound.contact = some waId)
      (hreuses : Reuses settings organizationId waId d before none)
      (hfresh : before.chatSessions.lookup d.newSessionId = none)
      (hsessions : after.chatSessions = AList.insert d.newSessionId
        (newSession scope inbound waId result.wamid profileName d) before.chatSessions)
      (hjob : ∀ job, result.job = some job → job.chatSessionId = d.newSessionId ∧
        job.wamid = result.wamid)

section
variable {env : Tickets.Env} {settings : WhatsApp.Settings} {organizationId : Uuid} {inbound : Inbound}
  {d : IngestDraws} {db db' : Db}

/-- Whether a session is gone on with is read off the session alone. -/
theorem exec_reusesSession (now : Int) (existing : ChatSession) (db db' : Db) :
    Tx.exec (reusesSession settings now existing) db' =
      ((Tx.exec (reusesSession settings now existing) db).1, db') := by
  unfold reusesSession
  split
  · rfl
  · unfold isWithinIdleWindow
    split
    · rfl
    · rfl
    · split <;> rfl
  · rfl

/-- Which session a message goes on with is read off the chat sessions. -/
theorem reuses_congr {waId : String} {existing : Option (Uuid × ChatSession)}
    (h : Reuses settings organizationId waId d db existing)
    (hsessions : db'.chatSessions = db.chatSessions) :
    Reuses settings organizationId waId d db' existing := by
  have hfind : findExistingSession organizationId waId d.rank db' =
      findExistingSession organizationId waId d.rank db := by
    unfold findExistingSession
    rw [hsessions]
  unfold Reuses reusableSession at h ⊢
  rw [Tx.exec_bind, Tx.exec_store] at h ⊢
  dsimp only at h ⊢
  rw [hfind]
  split at h
  · cases h
    rfl
  next id existing _ =>
    rw [Tx.exec_bind, exec_reusesSession d.idleNow existing db db] at h
    rw [Tx.exec_bind, exec_reusesSession d.idleNow existing db db']
    cases hreuse : (Tx.exec (reusesSession settings d.idleNow existing) db).1 with
    | error e =>
      rw [hreuse] at h
      cases h
    | ok reuse =>
      rw [hreuse] at h
      cases reuse <;> cases h <;> rfl

theorem concludes_job {wamid : String} {textBody : Json} {id : Uuid} {claimed : ChatSession}
    {result : WhatsAppIngestionResult} (h : Concludes wamid textBody d id db (some claimed) result db') :
    takenUp result = some id ∧ result.wamid = wamid ∧ db'.chatSessions = db.chatSessions ∧
      ∀ job, result.job = some job → job.chatSessionId = id ∧ job.wamid = result.wamid ∧
        claimed.status ≠ .escalated := by
  cases h with
  | appended messages hstatus => exact ⟨rfl, rfl, rfl, by rintro job ⟨⟩⟩
  | queued hstatus _ =>
    refine ⟨rfl, rfl, rfl, ?_⟩
    rintro job ⟨⟩
    exact ⟨rfl, rfl, hstatus⟩
  | limited hstatus _ => exact ⟨rfl, rfl, rfl, by rintro job ⟨⟩⟩

/-- **What an ingestion records.** -/
theorem records_of_ok {result : WhatsAppIngestionResult}
    (h : Tx.exec (ingestInboundWhatsappMessage env settings organizationId inbound d) db =
      (.ok result, db')) : Records settings organizationId inbound d db db' result := by
  cases ingest_ok h with
  | unsupported wamid hmessage => exact .nothing rfl rfl
  | @taken waId phoneNumber wamid profileName textBody v userId id user db₁ db₂ _ claimed _ hmessage hwamid
      hwaId _ hidentified hclaim hconcludes =>
    have hwamid' : messageId inbound.message = some wamid := by
      rw [messageId, hwamid.1, hwamid.2]
    have hsame : db₁.chatSessions = db.chatSessions := by
      rcases hidentified.frame with rfl | ⟨-, -, rfl⟩
      · rfl
      · rfl
    cases hclaim with
    | replay hreuses hrecorded =>
      cases hconcludes
      exact .nothing rfl hsame
    | goesOn row hreuses hnew hrow =>
      subst hrow
      obtain ⟨htaken, rfl, hsessions, hjob⟩ := concludes_job hconcludes
      refine .goesOn htaken hmessage hwamid' hwaId (reuses_congr hreuses hsame.symm) hnew ?_ hjob
      rw [hsessions, ← hsame]
    | starts hreuses hfresh =>
      obtain ⟨htaken, rfl, hsessions, hjob⟩ := concludes_job hconcludes
      refine .starts profileName ⟨organizationId, userId, user.role⟩ htaken hmessage hwamid' hwaId
        (reuses_congr hreuses hsame.symm) (hsame ▸ hfresh) ?_ fun job hsome => ⟨(hjob job hsome).1, (hjob job hsome).2.1⟩
      rw [hsessions, ← hsame]

end

/-! ## The law

A message is known by its id and the organization that it was sent to. The condition has two halves. A
message that is delivered again is remembered: the session with which it would go on has its id. And two
deliveries of it do not overlap: none is committed between the moment at which the other has taken it up and
that one's own commit. -/

/-- The message, as its organization knows it. -/
def Intake.key (i : Intake) : Uuid × String := (i.organizationId, i.wamid)

/-- No message of an organization is ingested twice, nor has it two jobs. -/
def IngestedOnce (s : Shared) : Prop :=
  ∀ organizationId wamid, s.intakes.countP (fun i => i.key = (organizationId, wamid)) ≤ 1 ∧
    s.intakes.countP (fun i => i.key = (organizationId, wamid) ∧ i.job.isSome) ≤ 1

/-- If the delivery is about to ingest a message that has been ingested before, by itself or by another
    one, then the sender has a session to go on with, and that has the id of the message. -/
def remembersRepeated (settings : Settings) (s : Shared) (δ : Delivery) (d : IngestDraws) : Bool :=
  match δ.pending with
  | [] => true
  | inbound :: _ =>
    match isText inbound.message, contactWaId inbound.contact, messageId inbound.message with
    | true, some waId, some wamid =>
      if (δ.organizationId, wamid) ∈ (s.intakes ++ δ.intakes).map Intake.key then
        match (Tx.exec (reusableSession settings.whatsapp δ.organizationId waId d.rank d.idleNow)
            ((δ.load s inbound d).view s.db)).1 with
        | .ok (some (_, existing)) => contains existing.channelMetadata "processed_message_ids" wamid
        | .ok none => false
        | .error _ => true
      else true
    | _, _, _ => true

/-- No message of the delivery has been committed by another one since it was ingested. -/
def notOvertaken (s : Shared) (δ : Delivery) : Bool :=
  δ.intakes.all fun i => (s.history.drop i.moment).all fun c => c.intakes.all fun j => j.key ≠ i.key

/-- The condition on a step. -/
def singleIntake (settings : Settings) (e : Event) (s : Shared) (t : Transaction) : Bool :=
  match e, t with
  | .ingest d, .delivery δ => remembersRepeated settings s δ d
  | .commit, .delivery δ => notOvertaken s δ
  | _, _ => true

/-- The messages that a delivery has taken up were new, and are different ones. -/
structure New (s : Shared) (intakes : List Intake) : Prop where
  moments : ∀ i ∈ intakes, i.moment ≤ s.history.length
  unheard : ∀ i ∈ intakes, ∀ c ∈ s.history.take i.moment, ∀ j ∈ c.intakes, j.key ≠ i.key
  distinct : (intakes.map Intake.key).Nodup

section
variable {env : Env} {settings : Settings} {s : Shared} {t : Transaction} {intakes : List Intake}

theorem New.committed (h : New s intakes) (after : Db) : New (s.committed t after) intakes := by
  have hlength : (s.committed t after).history.length = s.history.length + 1 := by
    simp [Shared.committed]
  refine ⟨fun i hi => ?_, fun i hi c hc => ?_, h.distinct⟩
  · have := h.moments i hi
    omega
  · refine h.unheard i hi c ?_
    rwa [Shared.committed, List.take_append_of_le_length (h.moments i hi)] at hc

/-- What is committed has not been heard of, if nobody has overtaken the delivery. -/
theorem New.disjoint {δ : Delivery} (h : New s δ.intakes) (hovertaken : notOvertaken s δ = true)
    {i j : Intake}
    (hi : i ∈ δ.intakes) (hj : j ∈ s.intakes) : j.key ≠ i.key := by
  obtain ⟨c, hc, hj⟩ := List.mem_flatMap.mp hj
  rw [← List.take_append_drop i.moment s.history] at hc
  rcases List.mem_append.mp hc with hc | hc
  · -- committed before it was taken up
    exact h.unheard i hi c hc j hj
  · -- committed since
    simp only [notOvertaken, List.all_eq_true, decide_eq_true_eq] at hovertaken
    exact hovertaken i hi c hc j hj

/-- A message that is recorded has not been ingested before. -/
theorem not_repeated {δ : Delivery} {inbound : Inbound} {rest : List Inbound} {d : IngestDraws}
    {result : WhatsAppIngestionResult} {after : Db} {id : Uuid}
    (hremembers : remembersRepeated settings s δ d = true) (hpending : δ.pending = inbound :: rest)
    (hrecords : Records settings.whatsapp δ.organizationId inbound d ((δ.load s inbound d).view s.db) after
      result) (htaken : takenUp result = some id) :
    (δ.organizationId, result.wamid) ∉ (s.intakes ++ δ.intakes).map Intake.key := by
  intro hrepeated
  cases hrecords with
  -- it has not been recorded
  | nothing hnone _ =>
    rw [hnone] at htaken
    cases htaken
  -- the session does not have the id, and by the condition it has
  | goesOn _ hmessage hwamid hwaId hreuses hnew _ _ =>
    simp only [remembersRepeated, hpending, hmessage, hwamid, hwaId] at hremembers
    rw [if_pos hrepeated, hreuses] at hremembers
    exact absurd hremembers (by simp [hnew])
  -- there is no session to go on with, and by the condition there is
  | starts _ _ _ hmessage hwamid hwaId hreuses _ _ _ =>
    simp only [remembersRepeated, hpending, hmessage, hwamid, hwaId] at hremembers
    rw [if_pos hrepeated, hreuses] at hremembers
    cases hremembers

/-- **One more message.** -/
theorem New.takes {δ : Delivery} {inbound : Inbound} {rest : List Inbound} {d : IngestDraws}
    {result : WhatsAppIngestionResult} {own : Work} (h : New s δ.intakes)
    (hremembers : remembersRepeated settings s δ d = true) (hpending : δ.pending = inbound :: rest)
    (hexec : (δ.load s inbound d).exec s.db
      (ingestInboundWhatsappMessage env.toEnv settings.whatsapp δ.organizationId inbound d) =
        .ok (result, own)) :
    New s (δ.intakes ++ (intakeOf s δ.organizationId d.now result).toList) := by
  obtain ⟨after, hok, -⟩ := Work.exec_ok hexec
  unfold intakeOf
  cases htaken : takenUp result with
  | none => simpa using h
  | some id =>
    have hfresh : ∀ i ∈ s.intakes ++ δ.intakes, i.key ≠ (δ.organizationId, result.wamid) :=
      fun i hi hkey => not_repeated hremembers hpending (records_of_ok hok) htaken
        (List.mem_map.mpr ⟨i, hi, hkey⟩)
    show New s (δ.intakes ++ [_])
    refine ⟨fun i hi => ?_, fun i hi c hc j hj => ?_, ?_⟩
    · rcases List.mem_append.mp hi with hi | hi
      · exact h.moments i hi
      · rw [List.mem_singleton.mp hi]
    · rcases List.mem_append.mp hi with hi | hi
      · exact h.unheard i hi c hc j hj
      · rw [List.mem_singleton.mp hi] at hc ⊢
        refine hfresh j (List.mem_append_left _ (List.mem_flatMap.mpr ⟨c, ?_, hj⟩))
        exact List.mem_of_mem_take hc
    · rw [List.map_append, List.map_singleton]
      refine List.nodup_append.mpr ⟨h.distinct, by simp, ?_⟩
      intro key hkey key' hkey' heq
      obtain ⟨i, hi, rfl⟩ := List.mem_map.mp hkey
      rw [List.mem_singleton.mp hkey'] at heq
      exact hfresh i (List.mem_append_right _ hi) heq

theorem intakes_committed (after : Db) :
    (s.committed t after).intakes = s.intakes ++
      match t with
      | .delivery δ => δ.intakes
      | _ => [] := by
  simp only [Shared.intakes, Shared.committed, List.flatMap_append, List.flatMap_singleton]
  cases t <;> rfl

theorem ingestedOnce_of_nodup (h : (s.intakes.map Intake.key).Nodup) : IngestedOnce s := by
  intro organizationId wamid
  have hone : s.intakes.countP (fun i => i.key = (organizationId, wamid)) ≤ 1 := by
    have hcount := List.nodup_iff_count_le_one.mp h (organizationId, wamid)
    rw [List.count_eq_countP, List.countP_map] at hcount
    refine (List.countP_mono_left fun i _ hi => ?_).trans hcount
    simpa using hi
  refine ⟨hone, (List.countP_mono_left fun i _ hi => ?_).trans hone⟩
  simp only [decide_eq_true_eq] at hi ⊢
  exact hi.1

/-- What each transaction knows of its messages. -/
def TakesNew (s : Shared) : Transaction → Prop
  | .delivery δ => New s δ.intakes
  | _ => True

theorem takesNew_next {e : Event} {t' : Transaction} (hnext : Next env settings s e t t')
    (hsingle : singleIntake settings e s t = true) (h : TakesNew s t) : TakesNew s t' := by
  cases hnext with
  | stays => exact h
  | receives => exact ⟨by simp, by simp, List.nodup_nil⟩
  | takes hpending hexec => exact New.takes h hsingle hpending hexec
  | skips hpending => exact h
  | posts _ hbegins =>
    obtain ⟨_, _, _, rfl⟩ := hbegins
    trivial
  | processes _ _ hbegins =>
    obtain ⟨_, _, _, rfl⟩ := hbegins
    trivial
  | _ => trivial

theorem takesNew_committed (after : Db) {t' : Transaction} (h : TakesNew s t') :
    TakesNew (s.committed t after) t' := by
  cases t' with
  | delivery δ => exact New.committed h after
  | _ => trivial

end

/-- **At most once**: no message is ingested twice, in every run in which a message that comes again is
    remembered and no two deliveries of one overlap. -/
theorem ingestedOnce_of_run (env : Env) (settings : Settings) (db : Db) (events : List (Nat × Event))
    (h : Run.AllSteps (World.step env settings)
      (fun w e => singleIntake settings e.2 w.shared (w.own e.1) = true) (World.start db) events) :
    IngestedOnce (Run.run (World.step env settings) (World.start db) events).shared := by
  have hrun := inv_of_events (I := fun s => (s.intakes.map Intake.key).Nodup) (T := TakesNew)
    (G := fun e s t => singleIntake settings e s t = true) (s := ⟨db, []⟩) (fun _ => trivial) (fun _ => trivial)
    (fun s e t t' hnext hsingle _ hT => takesNew_next hnext hsingle hT) ?_ List.nodup_nil h
  · exact ingestedOnce_of_nodup hrun.1
  · intro s t own after _ _ hsingle hI hT
    refine ⟨?_, fun t' => takesNew_committed after⟩
    rw [intakes_committed]
    cases t with
    | delivery δ =>
      rw [List.map_append]
      refine List.nodup_append.mpr ⟨hI, hT.distinct, ?_⟩
      intro key hkey key' hkey' heq
      obtain ⟨j, hj, rfl⟩ := List.mem_map.mp hkey
      obtain ⟨i, hi, rfl⟩ := List.mem_map.mp hkey'
      exact hT.disjoint hsingle hi hj heq
    | _ => simpa using hI

/-! ## A message that comes again after two days

The session has been idle for longer than it is kept, so the message begins another one, whose list is
empty. When it comes again at once, the first session has its id. -/

/-- Decodes the arguments of the one tool call that the runs below make. -/
def trafficEnv : Env where
  zoneInfo := fun _ => none
  lower := id
  loads := fun s =>
    if s = "\x7b\"reason\": \"Leak\"\x7d" then some (.obj [("reason", .str "Leak")]) else none
  str := fun _ => ""

def trafficSettings : Settings where
  chat := ⟨20, 3⟩
  whatsapp := webhookSettings

/-- A delivery of one payload, with as many messages as there are draws. -/
def deliver (n : Nat) (payload : Json) (draws : List IngestDraws) : List (Nat × Event) :=
  (n, .receive payload) :: draws.map (fun d => (n, .ingest d)) ++ [(n, .commit)]

/-- The draws of an ingestion at `now`. -/
def drawsAt (n : Nat) (now : Int) : IngestDraws :=
  { webhookDraws n with
    idleNow := now
    now := now
    activityNow := now
    startedAt := now }

def firstPayload : Json := webhookPayload [oneMessage "111" "wamid.1"]

/-- Two deliveries of one message, the second one at `now`. -/
def deliversTwice (now : Int) : List (Nat × Event) :=
  deliver 0 firstPayload [drawsAt 0 (days 739000)] ++ deliver 1 firstPayload [drawsAt 1 now]

/-- The message comes again at once. -/
theorem ingestedOnce_of_run_twice :
    IngestedOnce (Run.run (World.step trafficEnv trafficSettings) (World.start webhookDb)
      (deliversTwice (days 739000))).shared := by
  apply ingestedOnce_of_run
  decide +kernel

/-- The sender's session has been idle for two days by the time that the message comes again. -/
theorem not_ingestedOnce :
    ¬ IngestedOnce (Run.run (World.step trafficEnv trafficSettings) (World.start webhookDb)
      (deliversTwice (days 739002))).shared := by
  intro h
  have htwice : (Run.run (World.step trafficEnv trafficSettings) (World.start webhookDb)
      (deliversTwice (days 739002))).shared.intakes.countP
        (fun i => i.key = (1, "wamid.1") ∧ i.job.isSome) = 2 := by
    decide +kernel
  have hone := (h 1 "wamid.1").2
  omega

end Helpdesk.Traffic
