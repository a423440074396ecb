import Helpdesk.Traffic.Intakes

/-! # The bot is silent after the hand-off

A session is `escalated` when a human takes over. The widget's route answers 409 then, and a WhatsApp
message that comes in goes to the ticket. A message that came in before has its job in the queue, and
the job does not look at the status again.

**`silent_of_run`**: no turn is run on a session that was escalated when the turn began, in every run
in which no job is executed on a session that has been escalated since the delivery of its message
began. -/

namespace Helpdesk.Traffic

open Chat WhatsApp

/-! ## The law

What the law is about is recorded when a turn begins: whether its session was escalated, as far as had been
committed by then. `stillActive` is the condition on a step. It concerns the execution of a job, and asks
about the escalations since the delivery that has enqueued it began. -/

/-- No turn runs, has been persisted or has its reply sent on a session that was escalated before the
    turn began. -/
structure Silent (w : World) : Prop where
  running : ∀ n t, w.own n = .turn t → t.onEscalated = false
  persisted : ∀ t ∈ w.shared.turns, t.onEscalated = false
  sent : ∀ reply ∈ w.shared.replies, reply.onEscalated = false

/-- The condition on a step: the session of a job that is executed has not been escalated since the
    delivery that enqueued the job began. -/
def stillActive (e : Event) (s : Shared) : Bool :=
  match e with
  | .process i _ _ =>
    match s.jobs[i]? with
    | some queued => queued.job.chatSessionId ∉ s.escalatedSince queued.begun
    | none => true
  | _ => true

/-! ## Escalations that have been noticed

A session was active when a transaction began after `n` commits, or has been escalated since: that is
`Noticed`. It holds for ever once it holds, because each commit records the sessions that it escalates. -/

/-- If the session is escalated, it has become so since there were `n` commits. -/
def Noticed (s : Shared) (n : Nat) (id : Uuid) : Prop :=
  id ∈ s.escalatedSince n ∨ s.isEscalated id = false

section
variable {env : Env} {settings : Settings} {s : Shared} {t : Transaction} {n : Nat} {id : Uuid}

theorem isEscalated_eq_false :
    s.isEscalated id = false ↔ ∀ x, s.db.chatSessions.lookup id = some x → x.status ≠ .escalated := by
  unfold Shared.isEscalated
  cases s.db.chatSessions.lookup id with
  | none => simp
  | some x => simp

theorem mem_newlyEscalated {after : Db} :
    id ∈ s.newlyEscalated after ↔
      (∃ x, after.chatSessions.lookup id = some x ∧ x.status = .escalated) ∧ s.isEscalated id = false := by
  simp only [Shared.newlyEscalated, List.mem_map, Prod.exists, Table.mem_select]
  constructor
  · rintro ⟨id', x, ⟨hx, hclause⟩, rfl⟩
    simp only [Bool.and_eq_true, decide_eq_true_eq, Bool.not_eq_true] at hclause
    exact ⟨⟨x, hx, hclause.1⟩, hclause.2⟩
  · rintro ⟨⟨x, hx, hstatus⟩, hbefore⟩
    exact ⟨id, x, ⟨hx, by simp [hstatus, hbefore]⟩, rfl⟩

theorem escalatedSince_committed (after : Db) (hn : n ≤ s.history.length) :
    (s.committed t after).escalatedSince n = s.escalatedSince n ++ s.newlyEscalated after := by
  simp [Shared.escalatedSince, Shared.committed, List.drop_append_of_le_length hn]

/-- **A commit is noticed**, whatever it does. -/
theorem Noticed.committed (h : Noticed s n id) (after : Db) (hn : n ≤ s.history.length) :
    Noticed (s.committed t after) n id := by
  unfold Noticed
  rw [escalatedSince_committed after hn]
  rcases h with hsince | hbefore
  · exact .inl (List.mem_append_left _ hsince)
  · by_cases hafter : ∃ x, after.chatSessions.lookup id = some x ∧ x.status = .escalated
    · exact .inl (List.mem_append_right _ (mem_newlyEscalated.mpr ⟨hafter, hbefore⟩))
    · refine .inr (isEscalated_eq_false.mpr fun x hx hstatus => ?_)
      exact hafter ⟨x, hx, hstatus⟩

/-! ## What a delivery sees

A delivery reads a session once and does not look again. It enqueues a job for a session that it sees as
active, so the session was active when the delivery began or later. -/

/-- A session that a delivery sees as not escalated has been so until it began, at least. -/
def AsRead (s : Shared) (n : Nat) (own : Work) : Prop :=
  ∀ id x, (own.view s.db).chatSessions.lookup id = some x → x.status ≠ .escalated → Noticed s n id

theorem asRead_empty : AsRead s n .empty := by
  intro id x hx hstatus
  rw [Work.lookup_view_empty] at hx
  refine .inr (isEscalated_eq_false.mpr fun y hy => ?_)
  rw [hx] at hy
  cases hy
  exact hstatus

theorem AsRead.load {own : Work} (h : AsRead s n own) (id : Uuid) :
    AsRead s n (own.loadSession s.db id) := by
  intro id' x hx
  rw [Work.lookup_view_loadSession] at hx
  exact h id' x hx

/-- A session that is not seen is not escalated. -/
theorem noticed_of_unseen {own : Work} (h : (own.view s.db).chatSessions.lookup id = none) :
    Noticed s n id := by
  rw [Work.lookup_view, Option.or_eq_none_iff] at h
  refine .inr (isEscalated_eq_false.mpr fun x hx => ?_)
  rw [h.2] at hx
  cases hx

theorem AsRead.track {own : Work} {after : Db}
    (hgrown : ∀ id, (own.view s.db).chatSessions.lookup id ≠ none → after.chatSessions.lookup id ≠ none)
    (h : ∀ id x, after.chatSessions.lookup id = some x → x.status ≠ .escalated → Noticed s n id) :
    AsRead s n (own.track s.db after) := by
  intro id x hx
  rw [Work.lookup_view_track (hgrown id)] at hx
  exact h id x hx

theorem AsRead.committed {own : Work} (h : AsRead s n own) (after : Db) (hn : n ≤ s.history.length) :
    AsRead (s.committed t after) n own := by
  intro id x hx hstatus
  rw [Work.lookup_view] at hx
  cases hown : own.chatSessions.lookup id with
  | some row =>
    rw [hown] at hx
    refine (h id x ?_ hstatus).committed after hn
    rw [Work.lookup_view, hown]
    exact hx
  | none =>
    rw [hown] at hx
    refine .inr (isEscalated_eq_false.mpr fun y hy => ?_)
    obtain rfl : x = y := Option.some.inj (hx.symm.trans hy)
    exact hstatus

/-- **An ingestion** leaves the status of every session, and a job that it comes to is for a session
    that was not escalated. -/
theorem AsRead.ingest {own : Work} {organizationId : Uuid} {inbound : Inbound} {d : IngestDraws}
    {after : Db} {result : WhatsAppIngestionResult} (h : AsRead s n own)
    (hrecords : Records settings.whatsapp organizationId inbound d (own.view s.db) after result) :
    AsRead s n (own.track s.db after) ∧
      ∀ job, result.job = some job → takenUp result ≠ none → Noticed s n job.chatSessionId := by
  cases hrecords with
  -- no session has changed, and there is no job
  | nothing htaken hsessions =>
    refine ⟨AsRead.track (fun id hid => by rwa [hsessions]) fun id x hx => ?_, fun _ _ hsome => ?_⟩
    · rw [hsessions] at hx
      exact h id x hx
    · exact absurd htaken hsome
  -- the metadata has changed, the status has not
  | @goesOn waId id existing _ _ _ _ hreuses _ hsessions hjob =>
    have hexisting := (findExistingSession_some hreuses.found.1).1
    refine ⟨AsRead.track (fun id' hid' => ?_) fun id' x hx hstatus => ?_, fun job hsome _ => ?_⟩
    · rw [hsessions, Table.lookup_modify]
      split
      · simpa using hid'
      · exact hid'
    · rw [hsessions, Table.lookup_modify] at hx
      split at hx
      next heq =>
        subst heq
        rw [hexisting] at hx
        cases hx
        exact h id' existing hexisting hstatus
      · exact h id' x hx hstatus
    · obtain ⟨hid, -, hstatus⟩ := hjob job hsome
      rw [hid]
      exact h id existing hexisting hstatus
  -- nobody has escalated a session that was not there
  | starts _ _ _ _ _ _ _ hfresh hsessions hjob =>
    refine ⟨AsRead.track (fun id hid => ?_) fun id x hx hstatus => ?_, fun job hsome _ => ?_⟩
    · rw [hsessions, Table.lookup_insert]
      split
      · simp
      · exact hid
    · rw [hsessions, Table.lookup_insert] at hx
      split at hx
      next heq =>
        subst heq
        exact noticed_of_unseen hfresh
      · exact h id x hx hstatus
    · rw [(hjob job hsome).1]
      exact noticed_of_unseen hfresh

/-! ## The invariants

`Silence` is the law with what its proof needs of the queue: each job is for a session that was active when
its delivery began, or has been escalated since. With `stillActive` only the first is left. -/

/-- A job is for a session that was not escalated when the delivery began. -/
structure Silence (s : Shared) : Prop where
  jobs : ∀ queued ∈ s.jobs, queued.begun ≤ s.history.length ∧
    Noticed s queued.begun queued.job.chatSessionId
  turns : ∀ t ∈ s.turns, t.onEscalated = false
  replies : ∀ reply ∈ s.replies, reply.onEscalated = false

structure ReadsStatus (s : Shared) (δ : Delivery) : Prop where
  begun : δ.begun ≤ s.history.length
  reads : AsRead s δ.begun δ.own
  jobs : ∀ i ∈ δ.intakes, ∀ job, i.job = some job → Noticed s δ.begun job.chatSessionId

def Unescalated (s : Shared) : Transaction → Prop
  | .delivery δ => ReadsStatus s δ
  | .turn t => t.onEscalated = false
  | _ => True

theorem Begins.unescalated {ctx : ToolContext} {job : Option ProcessJob} {content : String}
    {o : OpenDraws} {excerpts : List String} {t' : Transaction}
    (h : Begins settings s ctx job content o excerpts t') (hstatus : s.isEscalated ctx.chatSessionId = false) :
    Unescalated s t' := by
  obtain ⟨_, _, _, rfl⟩ := h
  exact hstatus

/-- A posted message gets its turn on a session that is not escalated. -/
theorem not_escalated_of_posted {credential : Credential} {sessionId : Uuid} {admitted : Bool}
    {ctx : ToolContext} (h : postedContext credential sessionId admitted s.db = some ctx) :
    s.isEscalated ctx.chatSessionId = false := by
  obtain ⟨scope, x, hprincipal, hactive, rfl⟩ := postedContext_eq_some h
  obtain ⟨_, _, _, h₁⟩ := Tx.bind_ok.mp hprincipal
  obtain ⟨_, _, hget, h₂⟩ := Tx.bind_ok.mp h₁
  cases h₂
  obtain ⟨hsame, hx, -⟩ := getOr404_ok.mp hget
  subst hsame
  refine isEscalated_eq_false.mpr fun y hy => ?_
  obtain rfl : x = y := Option.some.inj (hx.symm.trans hy)
  rw [hactive]
  decide

theorem unescalated_next {e : Event} {t' : Transaction} (hnext : Next env settings s e t t')
    (hactive : stillActive e s = true) (hsilence : Silence s) (h : Unescalated s t) : Unescalated s t' := by
  cases hnext with
  | stays => exact h
  | ends => trivial
  | receives => exact ⟨Nat.le_refl _, asRead_empty, by simp⟩
  | @takes δ inbound rest d result own hpending hexec =>
    obtain ⟨after, hok, rfl⟩ := Work.exec_ok hexec
    have hload : AsRead s δ.begun (δ.load s inbound d) := by
      unfold Delivery.load
      split
      · split
        · exact h.reads.load _
        · exact h.reads
      · exact h.reads
    obtain ⟨hreads, hjob⟩ := hload.ingest (records_of_ok hok)
    refine ⟨h.begun, hreads, fun i hi job hsome => ?_⟩
    rcases List.mem_append.mp hi with hi | hi
    · exact h.jobs i hi job hsome
    · rw [Option.mem_toList, intakeOf, Option.map_eq_some_iff] at hi
      obtain ⟨id, htaken, rfl⟩ := hi
      exact hjob job hsome (by simp [htaken])
  | skips hpending => exact ⟨h.begun, h.reads, h.jobs⟩
  | posts hctx hbegins => exact hbegins.unescalated (not_escalated_of_posted hctx)
  -- the only case in which the condition is used
  | @processes i queued _ _ _ ctx _ hjob hctx hbegins =>
    have hsession : ctx.chatSessionId = queued.job.chatSessionId := by
      obtain ⟨_, _, _, _, rfl⟩ := queuedContext_eq_some hctx
      rfl
    refine hbegins.unescalated ?_
    rw [hsession]
    refine (hsilence.jobs queued (List.mem_of_getElem? hjob)).2.resolve_left ?_
    simpa [stillActive, hjob] using hactive
  | asks => exact h
  | closes => exact h
  | calls => exact h
  | _ => trivial

theorem unescalated_committed (after : Db) {t' : Transaction} (h : Unescalated s t') :
    Unescalated (s.committed t after) t' := by
  cases t' with
  | delivery δ =>
    refine ⟨?_, h.reads.committed after h.begun, fun i hi job hsome => ?_⟩
    · have := h.begun
      simp only [Shared.committed, List.length_append, List.length_singleton]
      omega
    · exact (h.jobs i hi job hsome).committed after h.begun
  | turn t => exact h
  | _ => trivial

theorem Silence.committed (hsilence : Silence s) (h : Unescalated s t) (after : Db) :
    Silence (s.committed t after) := by
  -- each list of the history gets what this commit adds
  have hlast : ∀ {α : Type} (f : Commit → List α),
      (s.committed t after).history.flatMap f =
        s.history.flatMap f ++ f ⟨t, s.newlyEscalated after⟩ := by
    intro α f
    simp [Shared.committed]
  refine ⟨fun queued hq => ?_, fun turn hturn => ?_, fun reply hreply => ?_⟩
  · -- jobs come from deliveries
    have hnoticed : queued.begun ≤ s.history.length ∧ Noticed s queued.begun queued.job.chatSessionId := by
      rw [Shared.jobs, hlast] at hq
      rcases List.mem_append.mp hq with hq | hq
      · exact hsilence.jobs queued hq
      · cases t with
        | delivery δ =>
          obtain ⟨i, hi, hjob⟩ := List.mem_filterMap.mp hq
          obtain ⟨job, hsome, rfl⟩ := Option.map_eq_some_iff.mp hjob
          exact ⟨h.begun, h.jobs i hi job hsome⟩
        | _ => cases hq
    refine ⟨?_, hnoticed.2.committed after hnoticed.1⟩
    have := hnoticed.1
    simp only [Shared.committed, List.length_append, List.length_singleton]
    omega
  · -- turns
    rw [Shared.turns, hlast] at hturn
    rcases List.mem_append.mp hturn with hturn | hturn
    · exact hsilence.turns turn hturn
    · cases t with
      | turn t =>
        rw [List.mem_singleton.mp hturn]
        exact h
      | _ => cases hturn
  · -- replies come from turns that answer a job
    rw [Shared.replies, hlast] at hreply
    rcases List.mem_append.mp hreply with hreply | hreply
    · exact hsilence.replies reply hreply
    · cases t with
      | turn t =>
        simp only [Commit.replies] at hreply
        split at hreply
        · obtain ⟨content, -, rfl⟩ := List.mem_map.mp hreply
          exact h
        · cases hreply
      | _ => cases hreply

end

/-- **Silence**: no turn is run on an escalated session, in every run whose jobs are executed on
    sessions that have not been escalated in the meantime. -/
theorem silent_of_run (env : Env) (settings : Settings) (db : Db) (events : List (Nat × Event))
    (h : Run.AllSteps (World.step env settings) (fun w e => stillActive e.2 w.shared = true)
      (World.start db) events) :
    Silent (Run.run (World.step env settings) (World.start db) events) := by
  have hstart : Silence ⟨db, []⟩ := ⟨by simp [Shared.jobs], by simp [Shared.turns], by simp [Shared.replies]⟩
  obtain ⟨hsilence, hrunning⟩ := inv_of_events (I := Silence) (T := Unescalated)
    (G := fun e s _ => stillActive e s = true) (fun _ => trivial) (fun _ => trivial)
    (fun s e t t' hnext hactive hI hT => unescalated_next hnext hactive hI hT)
    (fun s t own after _ _ _ hI hT => ⟨hI.committed hT after, fun t' => unescalated_committed after⟩)
    hstart h
  refine ⟨fun n t ht => ?_, hsilence.turns, hsilence.replies⟩
  have hturn := hrunning n
  rw [show (Run.run (World.step env settings) ⟨⟨db, []⟩, fun _ => .idle⟩ events).own n = .turn t from ht]
    at hturn
  exact hturn

/-! ## Two messages, and the first one's turn escalates

Both messages have their job in the queue when the first turn hands the session over. In the first run
the second job has begun by then; in the other one it begins afterwards, and the bot answers. -/

def leakCall : ToolCall := ⟨"call_1", "escalate_to_human", "\x7b\"reason\": \"Leak\"\x7d"⟩

def turnDraws (n : Uuid) : ReplyDraws where
  rowIds := fun i => n + i
  tools := fun _ => ⟨0, 0, 90, fun _ => 0⟩
  messageId := n + 10
  escalation := ⟨0, 0, 90, fun _ => 0⟩
  now := 0

/-- An execution of the job number `i` up to the first call to the model. -/
def executes (n i : Nat) : Nat × Event := (n, .process i ⟨100 * n, 0⟩ ["Opening hours"])

/-- The model escalates, and closes the turn. -/
def escalates (n : Nat) : List (Nat × Event) :=
  [(n, .complete ⟨none, [leakCall]⟩ (turnDraws 0)), (n, .callTool (100 * n + 1) ⟨0, 0, 90, fun _ => 0⟩),
    (n, .complete ⟨some "A colleague will answer.", []⟩ (turnDraws (100 * n + 2))), (n, .commit)]

def twoMessages : List (Nat × Event) :=
  deliver 0 (webhookPayload [oneMessage "111" "wamid.1", oneMessage "111" "wamid.2"])
    [drawsAt 0 (days 739000), drawsAt 1 (days 739000)]

/-- The first message is answered, and the second one's turn begins before the session is escalated. -/
theorem silent_of_run_overlapping :
    Silent (Run.run (World.step trafficEnv trafficSettings) (World.start webhookDb)
      (twoMessages ++ [executes 1 0, executes 2 1] ++ escalates 1)) := by
  apply silent_of_run
  decide +kernel

/-- The second message's turn begins after the first one has escalated. -/
theorem not_silent :
    ¬ Silent (Run.run (World.step trafficEnv trafficSettings) (World.start webhookDb)
      (twoMessages ++ [executes 1 0] ++ escalates 1 ++ [executes 2 1])) := by
  intro h
  have hturn : (Commit.turns ⟨(Run.run (World.step trafficEnv trafficSettings) (World.start webhookDb)
      (twoMessages ++ [executes 1 0] ++ escalates 1 ++ [executes 2 1])).own 2, []⟩).any (·.onEscalated) = true := by
    decide +kernel
  cases hown : (Run.run (World.step trafficEnv trafficSettings) (World.start webhookDb)
      (twoMessages ++ [executes 1 0] ++ escalates 1 ++ [executes 2 1])).own 2 with
  | turn t =>
    rw [hown] at hturn
    replace hturn : [t].any (·.onEscalated) = true := hturn
    rw [List.any_cons, h.running 2 t hown] at hturn
    cases hturn
  | _ =>
    rw [hown] at hturn
    cases hturn

end Helpdesk.Traffic
