import Helpdesk.Email.Threads
import Helpdesk.Library.AtMostOnce

/-! # Mailing a reply once

A reply job is a check, an act and a mark: the ticket's ids, the SMTP call, the commit. The mail is
out before the mark is stored, and nothing keeps a second delivery of the job from checking in
between. **Key result**: `sent_at_most_once`, for runs in which no delivery does. -/

namespace Helpdesk.Email

open Run AtMostOnce

/-! ## The jobs as attempts

A run that has passed its check is an attempt to mail its message until the relay has accepted it. Each event is
an action on the attempts in the sense of the library, and only a delivery can start one. -/

/-- The message that an open run is about to mail. -/
def ReplyRun.pending (r : ReplyRun) : Option Uuid :=
  if r.accepted then none else some r.job.messageId

/-- The reply jobs as attempts to mail a message. -/
def World.mailing (w : World) : AtMostOnce.State Nat Uuid :=
  ⟨fun run => (w.runs.lookup run).bind ReplyRun.pending, w.sent.map (·.1)⟩

/-- A delivery of a job passes its check, since the ticket does not record the mail, although the
    mail has been accepted or another run is about to send it. -/
def MissesMail (settings : Settings) (w : World) : Event → Prop
  | .deliver run job => w.runs.lookup run = none ∧ ∃ j, w.jobs[job]? = some j ∧
      outboundMessageId settings j.messageId ∉ recordedIds w.db j.ticketId ∧
      ((∃ sent ∈ w.sent, sent.1 = j.messageId) ∨
        ∃ run' r, w.runs.lookup run' = some r ∧ r.accepted = false ∧ r.job.messageId = j.messageId)
  | _ => False

section
variable {env : Env} {settings : Settings} {w : World} {run : Nat} {job : ReplyJob}

/-- A job that goes on to send has not found its mail recorded. -/
theorem not_mem_of_beginReply {draft : ReplyDraft} {db db' : Db}
    (h : Tx.exec (beginReply settings job) db = (.ok (some draft), db')) :
    outboundMessageId settings job.messageId ∉ recordedIds db job.ticketId := by
  obtain ⟨message, _, hmessage, hafter⟩ := Tx.bind_ok.mp h
  obtain ⟨rfl, -, -⟩ := getOr404_ok.mp hmessage
  obtain ⟨ticket, _, hticket, hcheck⟩ := Tx.bind_ok.mp hafter
  obtain ⟨rfl, hlookup, -⟩ := getOr404_ok.mp hticket
  rw [Tx.exec_ite] at hcheck
  split at hcheck
  · cases hcheck
  next hnot =>
    rw [contains_messageIds] at hnot
    rwa [recordedIds, hlookup]

/-- The runs after one of them has gone. -/
theorem mailing_erase (w : World) (run : Nat) :
    World.mailing { w with runs := w.runs.erase run } = (AtMostOnce.Action.drop run).step w.mailing := by
  unfold World.mailing
  rw [Table.bind_lookup_erase]
  rfl

/-- An event that leaves the runs and the log alone. -/
theorem mailing_congr {w' : World} (hruns : w'.runs = w.runs) (hsent : w'.sent = w.sent) :
    w'.mailing = (AtMostOnce.Action.skip : AtMostOnce.Action Nat Uuid).step w.mailing := by
  unfold World.mailing
  rw [hruns, hsent]
  rfl

/-- A delivery of a job starts an attempt, or is over. -/
theorem mailing_deliver {i : Nat} (hjob : w.jobs[i]? = some job)
    (he : ¬ MissesMail settings w (.deliver run i)) :
    ∃ a : AtMostOnce.Action Nat Uuid, Guarded w.mailing a ∧
      (w.deliver settings run job).mailing = a.step w.mailing := by
  unfold World.deliver
  split
  next draft _ hfree hbegin =>
    refine ⟨.start run job.messageId, ⟨?_, ?_⟩, ?_⟩
    · intro hsent
      obtain ⟨sent, hmem, heq⟩ := List.mem_map.mp hsent
      exact he ⟨hfree, job, hjob, not_mem_of_beginReply hbegin, .inl ⟨sent, hmem, heq⟩⟩
    · intro run' hpending
      obtain ⟨r, hr, hmessage⟩ := Option.bind_eq_some_iff.mp hpending
      unfold ReplyRun.pending at hmessage
      split at hmessage
      · cases hmessage
      next haccepted =>
        exact he ⟨hfree, job, hjob, not_mem_of_beginReply hbegin,
          .inr ⟨run', r, hr, by simpa using haccepted, Option.some.inj hmessage⟩⟩
    · unfold World.mailing
      rw [Table.bind_lookup_insert]
      rfl
  · exact ⟨.skip, trivial, rfl⟩

/-- The SMTP call acts, or drops the attempt. -/
theorem mailing_smtp {r : ReplyRun} (hr : w.runs.lookup run = some r) (outcome : SmtpOutcome) :
    ∃ a : AtMostOnce.Action Nat Uuid, Guarded w.mailing a ∧
      (w.smtp run r outcome).mailing = a.step w.mailing := by
  unfold World.smtp
  split
  · exact ⟨.skip, trivial, rfl⟩
  next haccepted =>
    cases outcome with
    | accepted =>
      refine ⟨.act run, trivial, ?_⟩
      have hpending : w.mailing.pending run = some r.job.messageId := by
        simp [World.mailing, hr, ReplyRun.pending, haccepted]
      rw [AtMostOnce.Action.step, hpending]
      unfold World.mailing
      rw [Table.bind_lookup_insert]
      rfl
    | transient => exact ⟨.drop run, trivial, mailing_erase w run⟩
    | permanent => exact ⟨.drop run, trivial, mailing_erase w run⟩

/-- The commit of an accepted mail ends the run, or waits. -/
theorem mailing_settleReply (r : ReplyRun) :
    ∃ a : AtMostOnce.Action Nat Uuid, Guarded w.mailing a ∧
      (w.settleReply settings run r).mailing = a.step w.mailing := by
  unfold World.settleReply
  split
  · split
    · exact ⟨.drop run, trivial, mailing_erase w run⟩
    · exact ⟨.drop run, trivial, mailing_erase w run⟩
  · exact ⟨.skip, trivial, rfl⟩

/-- The event is part of a delivery of inbound mail. -/
def Event.isInbound : Event → Bool
  | .receive _ _ _ _ | .lock _ | .commitInbound _ _ | .abortInbound _ => true
  | .postMessage _ _ _ _ _ | .deliver _ _ | .smtp _ _ | .commitReply _ | .crash _ => false

/-- A delivery of inbound mail leaves the reply runs and the log of the relay alone. -/
theorem inbound_frame (env : Env) (settings : Settings) (w : World) {e : Event}
    (he : e.isInbound = true) :
    (e.step env settings w).runs = w.runs ∧ (e.step env settings w).sent = w.sent := by
  cases e with
  | receive request organizationId inbound d =>
    simp only [Event.step, World.receive]
    split
    · split
      · exact ⟨rfl, rfl⟩
      · exact ⟨rfl, rfl⟩
    · exact ⟨rfl, rfl⟩
  | lock request =>
    simp only [Event.step]
    split
    · split
      · unfold World.lock
        split
        · exact ⟨rfl, rfl⟩
        · split
          · exact ⟨rfl, rfl⟩
          · exact ⟨rfl, rfl⟩
      · exact ⟨rfl, rfl⟩
      · exact ⟨rfl, rfl⟩
    · exact ⟨rfl, rfl⟩
  | commitInbound request d =>
    simp only [Event.step]
    split
    · unfold World.commitInbound
      split
      · exact ⟨rfl, rfl⟩
      · rcases finish_cases (w := w) with ⟨_, _, hfinish⟩ | hfinish
        · rw [hfinish]
          exact ⟨rfl, rfl⟩
        · rw [hfinish]
          exact ⟨rfl, rfl⟩
      · rcases finish_cases (w := w) with ⟨_, _, hfinish⟩ | hfinish
        · rw [hfinish]
          exact ⟨rfl, rfl⟩
        · rw [hfinish]
          exact ⟨rfl, rfl⟩
    · exact ⟨rfl, rfl⟩
  | abortInbound request => exact ⟨rfl, rfl⟩
  | _ => cases he

/-- **Simulation**: each event is an action on the attempts, and one that starts an attempt starts it
    unclaimed unless it misses a mail. -/
theorem mailing_step (e : Event) (he : ¬ MissesMail settings w e) :
    ∃ a : AtMostOnce.Action Nat Uuid, Guarded w.mailing a ∧
      (e.step env settings w).mailing = a.step w.mailing := by
  have hinbound : e.isInbound = true → ∃ a : AtMostOnce.Action Nat Uuid, Guarded w.mailing a ∧
      (e.step env settings w).mailing = a.step w.mailing := by
    intro hin
    obtain ⟨hruns, hsent⟩ := inbound_frame env settings w hin
    exact ⟨.skip, trivial, mailing_congr hruns hsent⟩
  cases e with
  | receive request organizationId inbound d => exact hinbound rfl
  | lock request => exact hinbound rfl
  | commitInbound request d => exact hinbound rfl
  | abortInbound request => exact hinbound rfl
  | postMessage scope messageId ticketId content basedOnSuggestionId =>
    refine ⟨.skip, trivial, ?_⟩
    simp only [Event.step, World.postMessage]
    split
    · rfl
    · rfl
  | deliver run job =>
    simp only [Event.step]
    cases hjob : w.jobs[job]? with
    | some j => exact mailing_deliver hjob he
    | none => exact ⟨.skip, trivial, rfl⟩
  | smtp run outcome =>
    simp only [Event.step]
    cases hrun : w.runs.lookup run with
    | some r => exact mailing_smtp hrun outcome
    | none => exact ⟨.skip, trivial, rfl⟩
  | commitReply run =>
    simp only [Event.step]
    cases w.runs.lookup run with
    | some r => exact mailing_settleReply r
    | none => exact ⟨.skip, trivial, rfl⟩
  | crash run => exact ⟨.drop run, trivial, mailing_erase w run⟩

/-- **Each reply is mailed at most once**, in a run in which no delivery of a job misses the mail of
    an earlier one. -/
theorem sent_at_most_once (env : Env) (settings : Settings) (db : Db) (events : List Event)
    (hchecks : AllSteps (Event.step env settings) (fun w e => ¬ MissesMail settings w e) (.start db)
      events) (messageId : Uuid) :
    ((Run.run (Event.step env settings) (.start db) events).sent.map (·.1)).count messageId ≤ 1 := by
  have hstart : Once (World.start db).mailing := by
    constructor
    · intro k
      simp [World.mailing, World.start]
    · intro r k h
      simp [World.mailing, World.start] at h
    · intro r r' k h
      simp [World.mailing, World.start] at h
  have honce := once_run (fun w e he => mailing_step e he) hstart hchecks
  have hcount := honce.done_once messageId
  rwa [List.count_eq_countP]

/-- A delivery misses nothing while nothing has been sent and nothing runs. -/
theorem not_missesMail_of_idle (hsent : w.sent = []) (hruns : w.runs.entries = []) (e : Event) :
    ¬ MissesMail settings w e := by
  cases e with
  | deliver run job =>
    rintro ⟨-, j, -, -, ⟨sent, hmem, -⟩ | ⟨run', r, hr, -⟩⟩
    · rw [hsent] at hmem
      cases hmem
    · have hmem := Table.mem_entries.mpr hr
      rw [hruns] at hmem
      cases hmem
  | _ => exact id

/-- A delivery misses nothing if its ticket records the mail. -/
theorem not_missesMail_of_recorded {i : Nat} (hjob : w.jobs[i]? = some job)
    (h : outboundMessageId settings job.messageId ∈ recordedIds w.db job.ticketId) :
    ¬ MissesMail settings w (.deliver run i) := by
  rintro ⟨-, j, hj, hnot, -⟩
  obtain rfl : job = j := Option.some.inj (hjob.symm.trans hj)
  exact hnot h

end

/-- The job is delivered again after its first run has committed. -/
theorem sent_at_most_once_redelivered :
    ((Run.run (Event.step emailEnv emailSettings) (.start emailDb)
      (mailReply ++ [.commitReply 0, .deliver 1 0])).sent.map (·.1)).count 70 ≤ 1 := by
  apply sent_at_most_once emailEnv emailSettings emailDb
  refine allSteps_append.mpr ⟨⟨not_false, ?_, not_false, trivial⟩, not_false, ?_, trivial⟩
  · exact not_missesMail_of_idle (by decide +kernel) (by decide +kernel) _
  · exact not_missesMail_of_recorded (show _ = some (⟨70, 50, 1⟩ : ReplyJob) by decide +kernel)
      (by decide +kernel)

/-- The worker dies between the relay's answer and the commit, and the job is delivered again. -/
theorem sent_twice :
    ((Run.run (Event.step emailEnv emailSettings) (.start emailDb)
      (mailReply ++ [.crash 0, .deliver 1 0, .smtp 1 .accepted])).sent.map (·.1)).count 70 = 2 := by
  decide +kernel

end Helpdesk.Email
