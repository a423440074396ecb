import Helpdesk.Traffic.HandOff
import Helpdesk.Traffic.Turns
import Mathlib.Data.Set.Subsingleton

/-! # One answer to a message

`process_whatsapp_message` is executed at least once. It is given the id of the message, and does not
look at it: whoever executes it runs a turn.

**`answeredOnce_of_run`**: there is at most one row of the visitor and at most one of the assistant for
a message, in every run in which a turn commits only as the first one for its message. An execution
that ends before its commit leaves nothing behind, wherever it ends.

**`answeredOnce_of_executesAlone`** puts the condition on the schedule: no execution begins for a message
that has been answered, or while another one is open for it. -/

namespace Helpdesk.Traffic

open Chat WhatsApp UnitOfWork

/-! ## The law

A turn answers the job that it executes. Which turns have answered a message is read off the history, and
which rows they have left is asked of the database: `AnsweredOnce` counts the stored rows, not the turns. -/

/-- The turn is one for the message. -/
def OpenTurn.answers (t : OpenTurn) (chatSessionId : Uuid) (wamid : String) : Bool :=
  t.job.any fun job => job.chatSessionId = chatSessionId && job.wamid = wamid

/-- The turn has inserted the row. -/
def OpenTurn.inserted (t : OpenTurn) (id : Uuid) : Bool :=
  (t.own.chatMessages.lookup id).any (·.loaded.isNone)

/-- The turns for a message that have been committed. -/
def Shared.answersTo (s : Shared) (chatSessionId : Uuid) (wamid : String) : List OpenTurn :=
  s.turns.filter fun t => t.answers chatSessionId wamid

/-- The rows of one role that there are for a message. -/
def Shared.persisted (s : Shared) (chatSessionId : Uuid) (wamid : String) (role : ChatMessageRole) :
    List Uuid :=
  (s.db.chatMessages.select fun id row =>
    row.role = role && (s.answersTo chatSessionId wamid).any fun t => t.inserted id).map (·.1)

def AnsweredOnce (s : Shared) : Prop :=
  ∀ chatSessionId wamid, (s.persisted chatSessionId wamid .user).length ≤ 1 ∧
    (s.persisted chatSessionId wamid .assistant).length ≤ 1

/-- The condition on a step: a turn that commits is the first one for its message. -/
def commitsFirst (e : Event) (s : Shared) (t : Transaction) : Bool :=
  match e, t with
  | .commit, .turn t =>
    t.reply.isNone || t.job.all fun job => (s.answersTo job.chatSessionId job.wamid).isEmpty
  | _, _ => true

/-! ## The rows of a turn

From its beginning to its commit a turn inserts one row of the visitor and, with its reply, one of the
assistant; each of the tool calls in between inserts a row of its own kind. `WroteOnce` is what holds of the
unit of work all along. A turn that is open has inserted no reply yet. -/

/-- The rows of one role in the unit of work. -/
def Work.wrote (own : Work) (role : ChatMessageRole) : Set Uuid :=
  {id | ∃ row, own.chatMessages.lookup id = some row ∧ row.current.role = role}

/-- A turn has at most one row of the visitor, and at most one of the assistant, which comes last. -/
structure WroteOnce (t : OpenTurn) : Prop where
  user : (t.own.wrote .user).Subsingleton
  assistant : (t.own.wrote .assistant).Subsingleton
  unanswered : t.reply = none → t.own.wrote .assistant = ∅

section
variable {own : Work} {db db₁ db₂ after : Db} {ctx : ToolContext} {id id' : Uuid}
  {role role' : ChatMessageRole}

theorem wrote_empty (role : ChatMessageRole) : Work.empty.wrote role = ∅ := by
  refine Set.eq_empty_of_forall_notMem fun id => ?_
  rintro ⟨row, hrow, -⟩
  simp [Work.empty] at hrow

/-- **A part of a turn** that adds one row to the conversation. -/
theorem mem_wrote_track (hbefore : db₁.chatMessages = (own.view db).chatMessages)
    (hadds : Adds ctx id role db₁ db₂) (hafter : after.chatMessages = db₂.chatMessages) :
    id' ∈ (own.track db after).wrote role' ↔ id' ∈ own.wrote role' ∨ id' = id ∧ role = role' := by
  obtain ⟨row, rfl, -, hfresh, rfl⟩ := hadds
  have hlookup : (own.track db after).chatMessages.lookup id' =
      if after.chatMessages.lookup id' = (own.view db).chatMessages.lookup id' then
        own.chatMessages.lookup id'
      else ((after.chatMessages.lookup id').map (touched own.chatMessages db.chatMessages id')).or
        (own.chatMessages.lookup id') := lookup_track
  show (∃ r, (own.track db after).chatMessages.lookup id' = some r ∧ _) ↔
    (∃ r, own.chatMessages.lookup id' = some r ∧ _) ∨ _
  rw [hbefore] at hfresh
  rw [hlookup, hafter, hbefore]
  by_cases heq : id' = id
  · subst heq
    -- the row is new to the map as well
    have hown : own.chatMessages.lookup id' = none := by
      have hview : (view own.chatMessages db.chatMessages).lookup id' = none := hfresh
      rw [lookup_view, Option.or_eq_none_iff, Option.map_eq_none_iff] at hview
      exact hview.1
    rw [AList.lookup_insert, hfresh, if_neg (by simp)]
    simp [touched, hown]
  · rw [AList.lookup_insert_ne heq, if_pos rfl]
    simp [heq]

end

section
variable {env : Env} {settings : Settings} {s : Shared} {t : OpenTurn} {own : Work}

theorem wroteOnce_start {ctx : ToolContext} {job : Option ProcessJob} {content : String}
    {o : OpenDraws} {excerpts : List String} {offered : List OpenaiMessage × List String}
    (hexec : (Work.empty.loadSession s.db ctx.chatSessionId).exec s.db
      (openTurn settings.chat ctx o content excerpts) = .ok (offered, own)) :
    WroteOnce (.start s ctx job o excerpts own) := by
  obtain ⟨after, hok, rfl⟩ := Work.exec_ok hexec
  have hwrote : ∀ role id, id ∈ ((Work.empty.loadSession s.db ctx.chatSessionId).track s.db after).wrote role ↔
      id = o.messageId ∧ .user = role := by
    intro role id
    rw [mem_wrote_track rfl (openTurn_ok hok) rfl]
    show id ∈ Work.empty.wrote role ∨ _ ↔ _
    simp [wrote_empty]
  refine ⟨fun id hid id' hid' => ?_, fun id hid => ?_, fun _ => Set.eq_empty_of_forall_notMem fun id hid => ?_⟩
  · exact ((hwrote _ _).mp hid).1.trans ((hwrote _ _).mp hid').1.symm
  · cases ((hwrote _ _).mp hid).2
  · cases ((hwrote _ _).mp hid).2

/-- **A tool call** adds neither a row of the visitor nor one of the assistant. -/
theorem WroteOnce.calls (h : WroteOnce t) {rowId : Uuid} {d : ToolDraws} {call : ToolCall}
    {message : OpenaiMessage} {rest : List ToolCall} {toolsUsed : List String} {filed : List Uuid}
    (hexec : t.own.exec s.db (runToolCall env t.ctx t.createdAt rowId d call) = .ok (message, own)) :
    WroteOnce { t with
      own := own
      pending := rest
      toolsUsed := toolsUsed
      filed := filed } := by
  obtain ⟨after, hok, rfl⟩ := Work.exec_ok hexec
  obtain ⟨db₁, heffect, -, hadds⟩ := runToolCall_ok hok
  have hsame : ∀ role, .tool ≠ role → (t.own.track s.db after).wrote role = t.own.wrote role := by
    intro role hne
    ext id
    rw [mem_wrote_track heffect.chatMessages hadds rfl]
    simp [hne]
  have huser := hsame .user (by decide)
  have hassistant := hsame .assistant (by decide)
  exact ⟨huser.symm ▸ h.user, hassistant.symm ▸ h.assistant, fun hopen => hassistant.trans (h.unanswered hopen)⟩

/-- **Closing** the turn adds the row of the assistant. -/
theorem WroteOnce.closes (h : WroteOnce t) {d : ReplyDraws} {replyText : String} {result : ChatTurnResult}
    {filed : List Uuid} (hopen : t.reply = none)
    (hexec : t.own.exec s.db (closeTurn env t.ctx t.createdAt d replyText t.lowConfidence t.toolsUsed) =
      .ok (result, own)) :
    WroteOnce { t with
      own := own
      filed := filed
      reply := some result.reply } := by
  obtain ⟨after, hok, rfl⟩ := Work.exec_ok hexec
  obtain ⟨db₁, hadds, hescalates⟩ := closeTurn_ok hok
  have hwrote : ∀ role id, id ∈ (t.own.track s.db after).wrote role ↔
      id ∈ t.own.wrote role ∨ id = d.messageId ∧ .assistant = role := by
    intro role id
    exact mem_wrote_track rfl hadds hescalates.effect.chatMessages
  refine ⟨fun id hid id' hid' => ?_, fun id hid id' hid' => ?_, fun hnone => by cases hnone⟩
  · simp only [hwrote, reduceCtorEq, and_false, or_false] at hid hid'
    exact h.user hid hid'
  · simp only [hwrote, h.unanswered hopen, Set.mem_empty_iff_false, false_or, and_true] at hid hid'
    rw [hid, hid']

/-! ## The commits

`Answered` is the invariant of the history: what a turn has inserted is stored, a committed turn has
written once, and no two committed turns are for one message. Rows are never deleted and never written over,
so what has been stored stays. -/

/-- What each transaction knows of its rows. -/
def Answers : Transaction → Prop
  | .turn t => WroteOnce t
  | _ => True

theorem answers_next {e : Event} {t t' : Transaction} (hnext : Next env settings s e t t') (h : Answers t) :
    Answers t' := by
  cases hnext with
  | stays => exact h
  | posts _ hbegins =>
    obtain ⟨offered, own, hexec, rfl⟩ := hbegins
    exact wroteOnce_start hexec
  | processes _ _ hbegins =>
    obtain ⟨offered, own, hexec, rfl⟩ := hbegins
    exact wroteOnce_start hexec
  | asks => exact ⟨h.user, h.assistant, h.unanswered⟩
  | closes hopen hexec => exact WroteOnce.closes h hopen hexec
  | calls _ hexec => exact WroteOnce.calls h hexec
  | _ => trivial

/-- The rows of a turn that has been committed are stored, and there is one turn for a message. -/
structure Answered (s : Shared) : Prop where
  stored : ∀ t ∈ s.turns, ∀ id row, t.own.chatMessages.lookup id = some row → row.loaded = none →
    s.db.chatMessages.lookup id = some row.current
  wrote : ∀ t ∈ s.turns, WroteOnce t
  once : ∀ chatSessionId wamid, ∀ t ∈ s.answersTo chatSessionId wamid,
    ∀ t' ∈ s.answersTo chatSessionId wamid, t = t'

theorem turns_committed (t : Transaction) (after : Db) :
    (s.committed t after).turns = s.turns ++ Commit.turns ⟨t, []⟩ := by
  simp only [Shared.turns, Shared.committed, List.flatMap_append, List.flatMap_singleton]
  rfl

theorem turns_cases (t : Transaction) : (∃ turn, t = .turn turn) ∨ Commit.turns ⟨t, []⟩ = [] := by
  cases t with
  | turn turn => exact .inl ⟨turn, rfl⟩
  | _ => exact .inr rfl

/-- A commit leaves the messages that are stored. -/
theorem lookup_commit_stored {after : Db} {id : Uuid} {row : ChatMessage}
    (hcommit : own.commit s.db env.toEnv = some after) (hstored : s.db.chatMessages.lookup id = some row) :
    after.chatMessages.lookup id = some row := by
  have hmessages := (Work.commit_ok hcommit).2
  cases hown : own.chatMessages.lookup id with
  | none => rw [lookup_commit_of_none hmessages hown, hstored]
  | some tracked =>
    rcases lookup_commit_own hmessages hown with ⟨_, hnone, _⟩ | ⟨_, stored, kept, _, hbase, hmerge, hafter⟩
    · rw [hstored] at hnone
      cases hnone
    · cases hmerge
      rw [hafter, ← hbase, hstored]

theorem Answered.committed (h : Answered s) {t : Transaction} {after : Db} (ht : Answers t)
    (hready : t.ready = some own) (hcommit : own.commit s.db env.toEnv = some after)
    (hfirst : commitsFirst .commit s t = true) : Answered (s.committed t after) := by
  -- what earlier turns have inserted
  have hold : ∀ t ∈ s.turns, ∀ id row, t.own.chatMessages.lookup id = some row → row.loaded = none →
      after.chatMessages.lookup id = some row.current :=
    fun t ht id row hrow hloaded => lookup_commit_stored hcommit (h.stored t ht id row hrow hloaded)
  rcases turns_cases t with ⟨t, rfl⟩ | hnone
  · obtain ⟨hreply, hown⟩ := Option.ite_none_right_eq_some.mp hready
    cases hown
    -- a turn commits: its rows are inserted now, and it is the first one for its message
    have hturns : (s.committed (.turn t) after).turns = s.turns ++ [t] := turns_committed _ _
    refine ⟨fun turn hturn => ?_, fun turn hturn => ?_, fun chatSessionId wamid => ?_⟩
    · rw [hturns] at hturn
      rcases List.mem_append.mp hturn with hturn | hturn
      · exact hold turn hturn
      · obtain rfl := List.mem_singleton.mp hturn
        intro id row hrow hloaded
        rcases lookup_commit_own (Work.commit_ok hcommit).2 hrow with
          ⟨_, _, hafter⟩ | ⟨_, _, _, hsome, _⟩
        · exact hafter
        · rw [hloaded] at hsome
          cases hsome
    · rw [hturns] at hturn
      rcases List.mem_append.mp hturn with hturn | hturn
      · exact h.wrote turn hturn
      · obtain rfl := List.mem_singleton.mp hturn
        exact ht
    · have hanswersTo : (s.committed (.turn t) after).answersTo chatSessionId wamid =
          s.answersTo chatSessionId wamid ++ [t].filter fun t => t.answers chatSessionId wamid := by
        rw [Shared.answersTo, hturns, List.filter_append]
        rfl
      rw [hanswersTo]
      by_cases hanswers : t.answers chatSessionId wamid = true
      · obtain ⟨job, hjob, hkey⟩ := (Option.any_eq_true _ _).mp hanswers
        simp only [Bool.and_eq_true, decide_eq_true_eq] at hkey
        obtain ⟨rfl, rfl⟩ := hkey
        simp only [commitsFirst, hjob, Option.all_some, Bool.or_eq_true, List.isEmpty_iff,
          Option.isNone_iff_eq_none] at hfirst
        rw [hfirst.resolve_left (Option.isSome_iff_ne_none.mp hreply), List.nil_append]
        intro t₁ h₁ t₂ h₂
        rw [List.mem_singleton.mp (List.mem_filter.mp h₁).1, List.mem_singleton.mp (List.mem_filter.mp h₂).1]
      · have hother : [t].filter (fun t => t.answers chatSessionId wamid) = [] := by simp [hanswers]
        rw [hother, List.append_nil]
        exact h.once chatSessionId wamid
  · -- anything else commits: the turns are those that there were
    have hturns : (s.committed t after).turns = s.turns := by
      rw [turns_committed, hnone, List.append_nil]
    refine ⟨?_, ?_, fun chatSessionId wamid => ?_⟩
    · rw [hturns]
      exact hold
    · rw [hturns]
      exact h.wrote
    · rw [Shared.answersTo, hturns]
      exact h.once chatSessionId wamid

theorem length_le_one {α : Type} {l : List α} (hnodup : l.Nodup) (h : ∀ a ∈ l, ∀ b ∈ l, a = b) :
    l.length ≤ 1 := by
  match l, hnodup, h with
  | [], _, _ => simp
  | [a], _, _ => simp
  | a :: b :: l, hnodup, h =>
    have heq := h a (by simp) b (by simp)
    simp [heq] at hnodup

/-- All the rows of the visitor, or of the assistant, are those of one turn. -/
theorem Answered.length_persisted (h : Answered s) {role : ChatMessageRole}
    (hrole : ∀ t, WroteOnce t → (t.own.wrote role).Subsingleton) (chatSessionId : Uuid) (wamid : String) :
    (s.persisted chatSessionId wamid role).length ≤ 1 := by
  have hwrote : ∀ id ∈ s.persisted chatSessionId wamid role,
      ∃ t ∈ s.answersTo chatSessionId wamid, id ∈ t.own.wrote role := by
    intro id hid
    obtain ⟨⟨_, row⟩, hselect, rfl⟩ := List.mem_map.mp hid
    obtain ⟨hrow, hpersisted⟩ := Table.mem_select.mp hselect
    simp only [Bool.and_eq_true, decide_eq_true_eq, List.any_eq_true] at hpersisted
    obtain ⟨rfl, t, ht, hinserted⟩ := hpersisted
    obtain ⟨tracked, htracked, hloaded⟩ := (Option.any_eq_true _ _).mp hinserted
    have hstored := h.stored t (List.mem_filter.mp ht).1 _ _ htracked (Option.isNone_iff_eq_none.mp hloaded)
    refine ⟨t, ht, tracked, htracked, ?_⟩
    rw [Option.some.inj (hstored.symm.trans hrow)]
  refine length_le_one (Table.select_keys_nodup _ _) fun id hid id' hid' => ?_
  obtain ⟨t, ht, hmem⟩ := hwrote id hid
  obtain ⟨t', ht', hmem'⟩ := hwrote id' hid'
  obtain rfl := h.once chatSessionId wamid t ht t' ht'
  exact hrole t (h.wrote t (List.mem_filter.mp ht).1) hmem hmem'

theorem Answered.answeredOnce (h : Answered s) : AnsweredOnce s :=
  fun chatSessionId wamid => ⟨h.length_persisted (fun _ h => h.user) chatSessionId wamid,
    h.length_persisted (fun _ h => h.assistant) chatSessionId wamid⟩

theorem answered_of_run (db : Db) (events : List (Nat × Event))
    (h : Run.AllSteps (World.step env settings)
      (fun w e => commitsFirst e.2 w.shared (w.own e.1) = true) (World.start db) events) :
    Answered (Run.run (World.step env settings) (World.start db) events).shared :=
  (inv_of_events (I := Answered) (T := fun _ => Answers)
    (G := fun e s t => commitsFirst e s t = true) (s := ⟨db, []⟩) (fun _ => trivial) (fun _ => trivial)
    (fun s e t t' hnext _ _ hT => answers_next hnext hT)
    (fun s t own after hready hcommit hfirst hI hT =>
      ⟨hI.committed hT hready hcommit hfirst, fun _ h => h⟩)
    ⟨by simp [Shared.turns], by simp [Shared.turns], by simp [Shared.answersTo, Shared.turns]⟩ h).1

end

/-- **One answer**: a message has one row of the visitor and one of the assistant at most, in every run
    in which a turn commits only as the first one for its message. -/
theorem answeredOnce_of_run (env : Env) (settings : Settings) (db : Db) (events : List (Nat × Event))
    (h : Run.AllSteps (World.step env settings)
      (fun w e => commitsFirst e.2 w.shared (w.own e.1) = true) (World.start db) events) :
    AnsweredOnce (Run.run (World.step env settings) (World.start db) events).shared :=
  (answered_of_run db events h).answeredOnce

/-! ## Executions that are alone

`commitsFirst` speaks of the commit, and a scheduler cannot see it coming. Here the condition is on the
events: while an execution is open for a message no other one begins, and none begins once there is an answer.
`Alone` is the invariant, and from it each commit is a first one. -/

/-- The transaction is an execution for the message. -/
def Transaction.answers (t : Transaction) (chatSessionId : Uuid) (wamid : String) : Bool :=
  match t with
  | turn t => t.answers chatSessionId wamid
  | _ => false

/-- The condition on a schedule: where an execution begins, its message has not been answered, and no
    other execution is open for it. -/
def executesAlone (w : World) (e : Nat × Event) : Prop :=
  ∀ i o excerpts queued, e.2 = .process i o excerpts → w.shared.jobs[i]? = some queued →
    w.shared.answersTo queued.job.chatSessionId queued.job.wamid = [] ∧
      ∀ n, (w.own n).answers queued.job.chatSessionId queued.job.wamid = false

/-- An open execution is the only one, and nothing has been committed for its message. -/
def Alone (w : World) : Prop :=
  ∀ n chatSessionId wamid, (w.own n).answers chatSessionId wamid = true →
    w.shared.answersTo chatSessionId wamid = [] ∧
      ∀ m, (w.own m).answers chatSessionId wamid = true → m = n

section
variable {env : Env} {settings : Settings} {s : Shared} {t t' : Transaction} {e : Event} {w : World}
  {chatSessionId : Uuid} {wamid : String}

/-- Only the beginning of a job makes a transaction an execution for a message. -/
theorem answering_next (hnext : Next env settings s e t t') (h : t'.answers chatSessionId wamid = true) :
    t.answers chatSessionId wamid = true ∨ ∃ i o excerpts queued, e = .process i o excerpts ∧
      s.jobs[i]? = some queued ∧ queued.job.chatSessionId = chatSessionId ∧ queued.job.wamid = wamid := by
  cases hnext with
  | stays => exact .inl h
  | posts _ hbegins =>
    obtain ⟨_, _, _, rfl⟩ := hbegins
    cases h
  | processes hjob _ hbegins =>
    obtain ⟨_, _, _, rfl⟩ := hbegins
    obtain ⟨hsession, hwamid⟩ := (Bool.and_eq_true _ _).mp h
    exact .inr ⟨_, _, _, _, rfl, hjob, of_decide_eq_true hsession, of_decide_eq_true hwamid⟩
  | asks => exact .inl h
  | closes => exact .inl h
  | calls => exact .inl h
  | _ => cases h

/-- The commit of another transaction answers nothing. -/
theorem answersTo_committed {after : Db} (h : t.answers chatSessionId wamid = false) :
    (s.committed t after).answersTo chatSessionId wamid = s.answersTo chatSessionId wamid := by
  obtain ⟨turn, rfl⟩ | hnone := turns_cases t
  · have hother : [turn].filter (fun t => t.answers chatSessionId wamid) = [] := by
      rw [List.filter_singleton, show turn.answers chatSessionId wamid = false from h]
      rfl
    unfold Shared.answersTo
    rw [turns_committed, List.filter_append]
    show _ ++ [turn].filter (fun t => t.answers chatSessionId wamid) = _
    rw [hother, List.append_nil]
  · unfold Shared.answersTo
    rw [turns_committed, hnone, List.append_nil]

/-- **Step lemma** -/
theorem alone_step {e : Nat × Event} (hw : Alone w) (hschedule : executesAlone w e) :
    Alone (World.step env settings w e) := by
  obtain ⟨n₀, e⟩ := e
  obtain ⟨t', hact, hnext⟩ | ⟨own, after, rfl, -, -, hact⟩ := act_ok env settings e w.shared (w.own n₀)
  · -- no commit: what is shared stays, and one transaction goes on
    have hshared : (World.step env settings w (n₀, e)).shared = w.shared := congrArg Prod.fst hact
    -- an execution has been open before, or begins and is alone
    have hback : ∀ n chatSessionId wamid,
        ((World.step env settings w (n₀, e)).own n).answers chatSessionId wamid = true →
          (w.own n).answers chatSessionId wamid = true ∨ n = n₀ ∧
            w.shared.answersTo chatSessionId wamid = [] ∧
            ∀ m, (w.own m).answers chatSessionId wamid = false := by
      intro n chatSessionId wamid h
      have hown : (World.step env settings w (n₀, e)).own n = if n = n₀ then t' else w.own n := by
        rw [World.step, Interleaving.step_own, hact]
      rw [hown] at h
      split at h
      next hn =>
        subst hn
        obtain hold | ⟨i, o, excerpts, queued, he, hjob, rfl, rfl⟩ := answering_next hnext h
        · exact .inl hold
        · exact .inr ⟨rfl, hschedule i o excerpts queued he hjob⟩
      · exact .inl h
    intro n chatSessionId wamid h
    rw [hshared]
    obtain hold | ⟨rfl, hnone, hfresh⟩ := hback n chatSessionId wamid h
    · refine ⟨(hw n chatSessionId wamid hold).1, fun m hm => ?_⟩
      obtain hm | ⟨-, -, hfresh⟩ := hback m chatSessionId wamid hm
      · exact (hw n chatSessionId wamid hold).2 m hm
      · exact absurd hold (by simp [hfresh n])
    · refine ⟨hnone, fun m hm => ?_⟩
      obtain hm | ⟨rfl, -⟩ := hback m chatSessionId wamid hm
      · exact absurd hm (by simp [hfresh m])
      · rfl
  · -- a commit: there may be an answer more, and one execution less
    have hshared : (World.step env settings w (n₀, .commit)).shared = w.shared.committed (w.own n₀) after :=
      congrArg Prod.fst hact
    have hown : ∀ n, (World.step env settings w (n₀, .commit)).own n = if n = n₀ then .ended else w.own n := by
      intro n
      rw [World.step, Interleaving.step_own, hact]
    intro n chatSessionId wamid h
    rw [hown] at h
    split at h
    · cases h
    next hn =>
      obtain ⟨hnone, hunique⟩ := hw n chatSessionId wamid h
      -- what commits is another transaction, and so not an execution for this message
      have hother : (w.own n₀).answers chatSessionId wamid = false :=
        Bool.eq_false_iff.mpr fun h₀ => hn (hunique n₀ h₀).symm
      rw [hshared, answersTo_committed hother]
      refine ⟨hnone, fun m hm => ?_⟩
      rw [hown] at hm
      split at hm
      · cases hm
      · exact hunique m hm

theorem commitsFirst_of_alone (hw : Alone w) (n : Nat) (e : Event) :
    commitsFirst e w.shared (w.own n) = true := by
  unfold commitsFirst
  split
  next t ht =>
    rw [Bool.or_eq_true]
    refine .inr ?_
    cases hjob : t.job with
    | none => rfl
    | some job =>
      have hanswers : (w.own n).answers job.chatSessionId job.wamid = true := by
        rw [ht]
        simp [Transaction.answers, OpenTurn.answers, hjob]
      simp [(hw n _ _ hanswers).1]
  · rfl

end

/-- One answer, in every run whose schedule begins no execution for a message that has been answered, or
    that another execution is open for. Executions that crash may be tried again at once. -/
theorem answeredOnce_of_executesAlone (env : Env) (settings : Settings) (db : Db) (events : List (Nat × Event))
    (h : Run.AllSteps (World.step env settings) executesAlone (World.start db) events) :
    AnsweredOnce (Run.run (World.step env settings) (World.start db) events).shared := by
  have halone : Run.AllSteps (World.step env settings) (fun w e => Alone w ∧ executesAlone w e)
      (World.start db) events :=
    Run.allSteps_of_inv (fun _ _ hw hschedule => alone_step hw hschedule) (fun _ _ _ h => by cases h) h
  exact (answered_of_run db events
    (halone.mono fun _ e hw => commitsFirst_of_alone hw.1 e.1 e.2)).answeredOnce

/-! ## A job that is executed twice

An execution that dies in front of its commit is followed by one that commits, and that is fine. Two that
are open at once both commit, and the visitor has two answers. -/

/-- One execution of the job is given up in front of its commit, another one is completed. -/
def executedAgain (second : List (Nat × Event)) : List (Nat × Event) :=
  deliver 0 firstPayload [drawsAt 0 (days 739000)] ++
    [executes 1 0, (1, .complete ⟨some "At nine.", []⟩ (turnDraws 102))] ++ second ++
    [executes 2 0, (2, .complete ⟨some "At nine.", []⟩ (turnDraws 202)), (2, .commit)]

/-- The first execution ends in front of its commit. -/
theorem answeredOnce_of_run_aborted :
    AnsweredOnce (Run.run (World.step trafficEnv trafficSettings) (World.start webhookDb)
      (executedAgain [(1, .abort)])).shared := by
  apply answeredOnce_of_run
  decide +kernel

/-- Both executions are completed. -/
theorem not_answeredOnce :
    ¬ AnsweredOnce (Run.run (World.step trafficEnv trafficSettings) (World.start webhookDb)
      (executedAgain [(1, .commit)])).shared := by
  intro h
  have htwice : ((Run.run (World.step trafficEnv trafficSettings) (World.start webhookDb)
      (executedAgain [(1, .commit)])).shared.persisted 40 "wamid.1" .user).length = 2 := by
    decide +kernel
  have hone := (h 40 "wamid.1").1
  omega

end Helpdesk.Traffic
