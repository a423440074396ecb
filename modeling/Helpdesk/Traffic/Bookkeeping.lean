import Helpdesk.Traffic.HandOff
import Helpdesk.Traffic.Turns

/-! # The books of a WhatsApp session

`channel_metadata` is one JSON column: the ids of the last messages, the replies that have been
deferred, and the time of the last message. A delivery and a reply job each write all of it, from what
they have read without a lock.

* `NoLostUpdate` is the law, on the stored column: it has the last fifty messages and the last twenty
  deferred replies that have been committed on the session, and the time of the last message.
* `readsCurrent` is the condition on a step: a commit of what has been recorded or deferred finds the
  column as the transaction has read it. It says nothing of other steps.
* **`noLostUpdate_of_run`**: the law holds in every run whose steps all meet the condition.
* `not_noLostUpdate`: a message that comes in during the call to the API is lost when the deferral commits.

The argument has three parts. A single write keeps a list up to date (`Writes.upToDate`); a transaction is a
sequence of such writes on top of what it has loaded (`Booked`); and a commit puts them on top of what is
stored, which is the same by `readsCurrent` (`Books.committed`). -/

namespace Helpdesk.Traffic

open Chat WhatsApp UnitOfWork

/-! ## The law

What has been recorded on a session is read off the history of the commits, whatever the column says. The
lists in the column are capped, so the law is about the latest entries only. `Transaction.intakesOn` and
`deferralsOn` are what one open transaction would add. -/

/-- The messages that have been recorded on a session, in the order of the commits. -/
def Shared.intakesOn (s : Shared) (id : Uuid) : List Intake :=
  s.intakes.filter fun i => i.chatSessionId = id

/-- The replies that have been deferred on a session, in the order of the commits. -/
def Shared.deferralsOn (s : Shared) (id : Uuid) : List String :=
  (s.deferrals.filter fun d => d.1 = id).map (·.2)

/-- The metadata of each session has the last fifty messages, the last twenty deferred replies, and the
    time of the last message. -/
def NoLostUpdate (s : Shared) : Prop :=
  ∀ id chatSession, s.db.chatSessions.lookup id = some chatSession →
    (∀ i ∈ Window.latest processedMessageIdsCap (s.intakesOn id),
      contains chatSession.channelMetadata "processed_message_ids" i.wamid = true) ∧
    (∀ entry ∈ Window.latest deferredRepliesCap (s.deferralsOn id),
      contains chatSession.channelMetadata "deferred_replies" entry = true) ∧
    ∀ i, (s.intakesOn id).getLast? = some i →
      metadataValue chatSession "last_inbound_at" = some (isoformat i.now)

namespace Transaction

def own : Transaction → Work
  | delivery δ => δ.own
  | turn t => t.own
  | send σ => σ.own
  | opening _ own => own
  | idle | ended => .empty

/-- The messages that the transaction has recorded on a session. -/
def intakesOn (t : Transaction) (id : Uuid) : List Intake :=
  (Commit.intakes ⟨t, []⟩).filter fun i => i.chatSessionId = id

/-- The reply that the transaction has deferred on a session. -/
def deferralsOn (t : Transaction) (id : Uuid) : List String :=
  ((Commit.deferrals ⟨t, []⟩).filter fun d => d.1 = id).map (·.2)

end Transaction

/-- The condition on a step: at a commit, the metadata of each session on which the transaction has
    recorded a message or deferred a reply is what the transaction has read. -/
def readsCurrent (e : Event) (s : Shared) (t : Transaction) : Bool :=
  match e with
  | .commit => t.own.chatSessions.entries.all fun e =>
    (t.intakesOn e.1).isEmpty && (t.deferralsOn e.1).isEmpty ||
      match e.2.loaded, s.db.chatSessions.lookup e.1 with
      | some loaded, some stored => stored.channelMetadata = loaded.channelMetadata
      | _, _ => true
  | _ => true

/-! ## Metadata that is up to date

`UpToDate` compares a column with the messages and the deferrals in the order in which they were written.
It asks for suffixes and not for equal lists: a session may have had entries before the first commit of the
run. `Writes` has the three things that a transaction can do to the column; each keeps `UpToDate`, on top of
whatever was there. -/

/-- The metadata has what has been recorded and deferred, at the end of its lists. -/
structure UpToDate (metadata : Option Metadata) (intakes : List Intake) (deferrals : List String) : Prop where
  wamids : Window.latest processedMessageIdsCap (intakes.map (·.wamid)) <:+
    (metadata.getD .empty).list "processed_message_ids"
  deferred : Window.latest deferredRepliesCap deferrals <:+
    (metadata.getD .empty).list "deferred_replies"
  last : ∀ i, intakes.getLast? = some i →
    (metadata.getD .empty).value "last_inbound_at" = some (isoformat i.now)

/-- One part of a transaction: it leaves the metadata, or records a message, or defers a reply. -/
inductive Writes (metadata : Option Metadata) (intakes : List Intake) (deferrals : List String) :
    Option Metadata → List Intake → List String → Prop
  | nothing : Writes metadata intakes deferrals metadata intakes deferrals
  | records (i : Intake) :
      Writes metadata intakes deferrals (some (recordInbound metadata i.wamid i.now)) (intakes ++ [i]) deferrals
  | defers (entry : String) :
      Writes metadata intakes deferrals
        (some (withAppended metadata "deferred_replies" entry (some deferredRepliesCap))) intakes
        (deferrals ++ [entry])

section
variable {metadata metadata' : Option Metadata} {intakes intakes' : List Intake}
  {deferrals deferrals' : List String}

theorem upToDate_nil (metadata : Option Metadata) : UpToDate metadata [] [] :=
  ⟨List.nil_suffix, List.nil_suffix, by simp⟩

theorem UpToDate.records (h : UpToDate metadata intakes deferrals) (i : Intake) :
    UpToDate (some (recordInbound metadata i.wamid i.now)) (intakes ++ [i]) deferrals := by
  -- one list gets the id, the other one is left
  have hlist : ∀ key, (recordInbound metadata i.wamid i.now).list key =
      if key = "processed_message_ids" then
        Window.latest processedMessageIdsCap
          ((metadata.getD .empty).list "processed_message_ids" ++ [i.wamid])
      else (metadata.getD .empty).list key := by
    intro key
    rw [recordInbound, list_withValues]
    exact list_withAppended _ _ _ 49 _
  refine ⟨?_, ?_, fun j hj => ?_⟩
  · rw [List.map_append, List.map_singleton, Option.getD_some, hlist, if_pos rfl]
    exact Window.latest_concat_suffix h.wamids
  · rw [Option.getD_some, hlist, if_neg (by decide)]
    exact h.deferred
  · obtain rfl : i = j := by simpa using hj
    rw [Option.getD_some, recordInbound, value_withValues_one]

theorem UpToDate.defers (h : UpToDate metadata intakes deferrals) (entry : String) :
    UpToDate (some (withAppended metadata "deferred_replies" entry (some deferredRepliesCap))) intakes
      (deferrals ++ [entry]) := by
  have hlist : ∀ key,
      (withAppended metadata "deferred_replies" entry (some deferredRepliesCap)).list key =
      if key = "deferred_replies" then
        Window.latest deferredRepliesCap ((metadata.getD .empty).list "deferred_replies" ++ [entry])
      else (metadata.getD .empty).list key :=
    list_withAppended _ _ _ 19
  refine ⟨?_, ?_, fun i hi => ?_⟩
  · rw [Option.getD_some, hlist, if_neg (by decide)]
    exact h.wamids
  · rw [Option.getD_some, hlist, if_pos rfl]
    exact Window.latest_concat_suffix h.deferred
  · rw [Option.getD_some, value_withAppended]
    exact h.last i hi

/-- A part of a transaction keeps the metadata up to date, on top of what others have written. -/
theorem Writes.upToDate (h : Writes metadata intakes deferrals metadata' intakes' deferrals')
    {intakes₀ : List Intake} {deferrals₀ : List String}
    (hdate : UpToDate metadata (intakes₀ ++ intakes) (deferrals₀ ++ deferrals)) :
    UpToDate metadata' (intakes₀ ++ intakes') (deferrals₀ ++ deferrals') := by
  cases h with
  | nothing => exact hdate
  | records i =>
    rw [← List.append_assoc]
    exact hdate.records i
  | defers entry =>
    rw [← List.append_assoc]
    exact hdate.defers entry

/-- What has written nothing has changed nothing. -/
theorem Writes.of_nil (h : Writes metadata intakes deferrals metadata' [] []) :
    metadata' = metadata ∧ intakes = [] ∧ deferrals = [] := by
  -- the indices are no variables, so `cases` needs them as equations
  generalize hintakes : ([] : List Intake) = intakes' at h
  generalize hdeferrals : ([] : List String) = deferrals' at h
  cases h with
  | nothing => exact ⟨rfl, rfl, rfl⟩
  | records i => simp at hintakes
  | defers entry => simp at hdeferrals

/-- The law, of one session. -/
theorem UpToDate.contains (h : UpToDate metadata intakes deferrals) :
    (∀ i ∈ Window.latest processedMessageIdsCap intakes,
      contains metadata "processed_message_ids" i.wamid = true) ∧
    ∀ entry ∈ Window.latest deferredRepliesCap deferrals,
      contains metadata "deferred_replies" entry = true := by
  have hcontains : ∀ key value, value ∈ (metadata.getD .empty).list key →
      Helpdesk.contains metadata key value = true := by
    intro key value hmem
    cases metadata with
    | none => simp [Metadata.list, Metadata.empty] at hmem
    | some metadata => simpa [Helpdesk.contains] using hmem
  refine ⟨fun i hi => hcontains _ _ (h.wamids.subset ?_), fun entry hentry =>
    hcontains _ _ (h.deferred.subset hentry)⟩
  have hmap : Window.latest processedMessageIdsCap (intakes.map (·.wamid)) =
      (Window.latest processedMessageIdsCap intakes).map (·.wamid) := by
    simp [Window.latest]
  rw [hmap]
  exact List.mem_map_of_mem hi

end

/-! ## The rows of a transaction

`Advances` is about the row of one session in a unit of work: what has been made of it, relative to what was
loaded, if it was loaded, and by itself, if it is a new session. `Booked` is the same of all rows, and says of
sessions without a row that nothing has been written. `Booked.track` carries it over one more part of the
transaction; the two lemmas behind it are for parts of a known kind. -/

/-- What a transaction has made of a session's metadata. -/
structure Advances (row : Tracked ChatSession) (intakes : List Intake) (deferrals : List String) : Prop where
  merged : ∀ loaded, row.loaded = some loaded → ∀ intakes₀ deferrals₀,
    UpToDate loaded.channelMetadata intakes₀ deferrals₀ →
      UpToDate row.current.channelMetadata (intakes₀ ++ intakes) (deferrals₀ ++ deferrals)
  untouched : ∀ loaded, row.loaded = some loaded → intakes = [] → deferrals = [] →
    row.current.channelMetadata = loaded.channelMetadata
  inserted : row.loaded = none → UpToDate row.current.channelMetadata intakes deferrals

/-- A transaction that has recorded `intakes` and deferred `deferrals` on the sessions. -/
structure Booked (own : Work) (intakes : Uuid → List Intake) (deferrals : Uuid → List String) : Prop where
  rows : ∀ id row, own.chatSessions.lookup id = some row → Advances row (intakes id) (deferrals id)
  others : ∀ id, own.chatSessions.lookup id = none → intakes id = [] ∧ deferrals id = []

section
variable {own : Work} {intakes intakes' : Uuid → List Intake} {deferrals deferrals' : Uuid → List String}
  {db after : Db}

theorem booked_empty : Booked .empty (fun _ => []) fun _ => [] :=
  ⟨fun id row h => by simp [Work.empty] at h, fun _ _ => ⟨rfl, rfl⟩⟩

/-- A row that has just been loaded. -/
theorem advances_loaded (loaded : ChatSession) : Advances ⟨some loaded, loaded⟩ [] [] := by
  -- merged, untouched, and it has not been inserted
  refine ⟨?_, ?_, fun h => by cases h⟩
  · rintro _ ⟨⟩ intakes₀ deferrals₀ h
    simpa using h
  · rintro _ ⟨⟩ _ _
    rfl

theorem Booked.load (h : Booked own intakes deferrals) (id : Uuid) :
    Booked (own.loadSession db id) intakes deferrals := by
  have hlookup : ∀ id', (own.loadSession db id).chatSessions.lookup id' =
      if id' = id then (own.chatSessions.lookup id).or
        ((db.chatSessions.lookup id).map fun a => ⟨some a, a⟩)
      else own.chatSessions.lookup id' := lookup_load
  refine ⟨fun id' row hrow => ?_, fun id' hnone => ?_⟩
  · rw [hlookup] at hrow
    split at hrow
    next heq =>
      subst heq
      -- a row that is there already is kept; a new one is as it is stored
      rcases Option.or_eq_some_iff.mp hrow with hown | ⟨hown, hnew⟩
      · exact h.rows id' row hown
      · obtain ⟨loaded, -, rfl⟩ := Option.map_eq_some_iff.mp hnew
        obtain ⟨hintakes, hdeferrals⟩ := h.others id' hown
        rw [hintakes, hdeferrals]
        exact advances_loaded loaded
    · exact h.rows id' row hrow
  · rw [hlookup] at hnone
    split at hnone
    next heq =>
      subst heq
      exact h.others id' (Option.or_eq_none_iff.mp hnone).1
    · exact h.others id' hnone

/-- **A part of a transaction**, given what it has made of each session that it has seen, and of those
    that it has started. -/
theorem Booked.track (h : Booked own intakes deferrals)
    (hseen : ∀ id y, (own.view db).chatSessions.lookup id = some y →
      ∃ x, after.chatSessions.lookup id = some x ∧ Writes y.channelMetadata (intakes id) (deferrals id)
        x.channelMetadata (intakes' id) (deferrals' id))
    (hstarted : ∀ id x, (own.view db).chatSessions.lookup id = none →
      after.chatSessions.lookup id = some x → UpToDate x.channelMetadata (intakes' id) (deferrals' id))
    (hkept : ∀ id, own.chatSessions.lookup id = none →
      after.chatSessions.lookup id = (own.view db).chatSessions.lookup id →
        intakes' id = [] ∧ deferrals' id = []) :
    Booked (own.track db after) intakes' deferrals' := by
  have hgrown : ∀ id, (own.view db).chatSessions.lookup id ≠ none → after.chatSessions.lookup id ≠ none := by
    intro id hsome
    obtain ⟨y, hy⟩ := Option.ne_none_iff_exists'.mp hsome
    obtain ⟨x, hx, -⟩ := hseen id y hy
    simp [hx]
  refine ⟨fun id row hrow => ?_, fun id hout => ?_⟩
  · -- what is written to the row is what is seen afterwards
    have hafter : after.chatSessions.lookup id = some row.current := by
      rw [← Work.lookup_view_track (hgrown id), Work.lookup_view, hrow]
      rfl
    -- the row was there before this part, or the part has added it
    have hloaded : (∃ row₀, own.chatSessions.lookup id = some row₀ ∧ row.loaded = row₀.loaded) ∨
        own.chatSessions.lookup id = none ∧ row.loaded = db.chatSessions.lookup id :=
      of_lookup_track hrow
    rcases hloaded with ⟨row₀, hown, hsame⟩ | ⟨hown, hbase⟩
    · have hview : (own.view db).chatSessions.lookup id = some row₀.current := by
        rw [Work.lookup_view, hown]
        rfl
      obtain ⟨x, hx, hwrites⟩ := hseen id row₀.current hview
      obtain rfl : row.current = x := Option.some.inj (hafter.symm.trans hx)
      have hadvances := h.rows id row₀ hown
      refine ⟨fun loaded hl intakes₀ deferrals₀ hdate => ?_, fun loaded hl hi hd => ?_, fun hl => ?_⟩
      · exact hwrites.upToDate (hadvances.merged loaded (hsame.symm.trans hl) _ _ hdate)
      · rw [hi, hd] at hwrites
        obtain ⟨heq, hi₀, hd₀⟩ := hwrites.of_nil
        exact heq.trans (hadvances.untouched loaded (hsame.symm.trans hl) hi₀ hd₀)
      · have hdate := hadvances.inserted (hsame.symm.trans hl)
        exact @Writes.upToDate _ _ _ _ _ _ hwrites [] [] hdate
    · have hview : (own.view db).chatSessions.lookup id = db.chatSessions.lookup id := by
        rw [Work.lookup_view, hown]
        rfl
      obtain ⟨hi₀, hd₀⟩ := h.others id hown
      cases hstored : db.chatSessions.lookup id with
      -- the part has started the session
      | none =>
        refine ⟨fun loaded hl => ?_, fun loaded hl => ?_, fun _ => ?_⟩
        · rw [hbase, hstored] at hl
          cases hl
        · rw [hbase, hstored] at hl
          cases hl
        · exact hstarted id row.current (hview.trans hstored) hafter
      -- the row is seen through to what is stored
      | some y =>
        obtain ⟨x, hx, hwrites⟩ := hseen id y (hview.trans hstored)
        obtain rfl : row.current = x := Option.some.inj (hafter.symm.trans hx)
        rw [hi₀, hd₀] at hwrites
        refine ⟨fun loaded hl intakes₀ deferrals₀ hdate => ?_, fun loaded hl hi hd => ?_, fun hl => ?_⟩
        · obtain rfl : y = loaded := Option.some.inj (hstored.symm.trans (hbase.symm.trans hl))
          exact hwrites.upToDate (by simpa using hdate)
        · obtain rfl : y = loaded := Option.some.inj (hstored.symm.trans (hbase.symm.trans hl))
          rw [hi, hd] at hwrites
          exact hwrites.of_nil.1
        · rw [hbase, hstored] at hl
          cases hl
  · -- a row that is not in the map has not been written to
    have hview : ((own.track db after).view db).chatSessions.lookup id = db.chatSessions.lookup id := by
      rw [Work.lookup_view, hout]
      rfl
    rw [Work.lookup_view_track (hgrown id)] at hview
    have hown : own.chatSessions.lookup id = none := by
      by_contra hsome
      obtain ⟨row₀, hrow₀⟩ := Option.ne_none_iff_exists'.mp hsome
      have htrack : (UnitOfWork.track own.chatSessions db.chatSessions after.chatSessions).lookup id = none :=
        hout
      rw [lookup_track, hrow₀] at htrack
      split at htrack
      · cases htrack
      · rw [Option.or_eq_none_iff] at htrack
        cases htrack.2
    have hsame : after.chatSessions.lookup id = (own.view db).chatSessions.lookup id := by
      rw [hview, Work.lookup_view, hown]
      rfl
    exact hkept id hown hsame

/-- A part of a transaction that leaves the metadata of all sessions. -/
theorem Booked.trackSame (h : Booked own intakes deferrals)
    (hsame : ∀ id, (after.chatSessions.lookup id).map (·.channelMetadata) =
      ((own.view db).chatSessions.lookup id).map (·.channelMetadata)) :
    Booked (own.track db after) intakes deferrals := by
  refine h.track (fun id y hy => ?_) (fun id x hnone hx => ?_) fun id hown _ => h.others id hown
  · have hcols := hsame id
    rw [hy, Option.map_some] at hcols
    obtain ⟨x, hx, heq⟩ := Option.map_eq_some_iff.mp hcols
    refine ⟨x, hx, ?_⟩
    rw [heq]
    exact .nothing
  · have hcols := hsame id
    rw [hx, hnone] at hcols
    cases hcols

end

/-! ## The parts of the transactions

An ingestion records one message at most, and a deferral writes one entry. Turns write to session rows too,
with their escalations, but leave the metadata. `BookedTransaction` puts this together, and
`bookedTransaction_next` goes through the events. -/

section
variable {env : Env} {settings : Settings} {s : Shared} {t : Transaction} {own : Work}
  {intakes : Uuid → List Intake} {deferrals : Uuid → List String} {after : Db}

/-- The message that has been recorded is on the list. -/
theorem contains_recordInbound (metadata : Option Metadata) (wamid : String) (now : Int) :
    contains (some (recordInbound metadata wamid now)) "processed_message_ids" wamid = true := by
  have hlist : (recordInbound metadata wamid now).list "processed_message_ids" =
      Window.latest processedMessageIdsCap ((metadata.getD .empty).list "processed_message_ids" ++ [wamid]) := by
    rw [recordInbound, list_withValues]
    exact (list_withAppended _ _ _ 49 _).trans (if_pos rfl)
  have hlast : [wamid] <:+ (recordInbound metadata wamid now).list "processed_message_ids" := by
    rw [hlist]
    exact Window.suffix_latest (List.suffix_append _ _) (show 1 ≤ 50 by decide)
  simpa [contains] using hlast.subset (List.mem_singleton_self wamid)

/-- **An ingestion.** -/
theorem Booked.ingest {organizationId : Uuid} {inbound : Inbound} {d : IngestDraws}
    {result : WhatsAppIngestionResult} (h : Booked own intakes deferrals)
    (hrecords : Records settings.whatsapp organizationId inbound d (own.view s.db) after result) :
    Booked (own.track s.db after)
      (fun id => intakes id ++ (intakeOf s organizationId d.now result).toList.filter fun i =>
        i.chatSessionId = id) deferrals := by
  cases hrecords with
  -- the message was a repetition, or no text: no session has changed
  | nothing htaken hsessions =>
    have hnone : intakeOf s organizationId d.now result = none := by simp [intakeOf, htaken]
    simp only [hnone, Option.toList_none, List.filter_nil, List.append_nil]
    exact h.trackSame fun id => by rw [hsessions]
  -- the session goes on, with the id on its list
  | @goesOn waId id existing htaken _ _ _ hreuses hnew hsessions _ =>
    have hexisting := (findExistingSession_some hreuses.found.1).1
    simp only [intakeOf, htaken, Option.map_some, Option.toList_some]
    refine h.track (fun id' y hy => ?_) (fun id' x hnone hx => ?_) fun id' hown hsame => ?_
    · rw [hsessions]
      by_cases heq : id' = id
      · subst heq
        obtain rfl : existing = y := Option.some.inj (hexisting.symm.trans hy)
        refine ⟨_, by rw [Table.lookup_modify_self, hy, Option.map_some], ?_⟩
        simp only [decide_true, List.filter_cons_of_pos, List.filter_nil]
        exact .records ⟨organizationId, result.wamid, id', d.now, result.job, s.history.length⟩
      · refine ⟨y, by rw [Table.lookup_modify_of_ne _ heq, hy], ?_⟩
        rw [List.filter_cons_of_neg (by simpa using Ne.symm heq), List.filter_nil, List.append_nil]
        exact .nothing
    · -- no session is new
      rw [hsessions, Table.lookup_modify, hnone] at hx
      split at hx <;> cases hx
    · by_cases heq : id' = id
      · -- the row has changed, since it has the message now
        subst heq
        rw [hsessions, Table.lookup_modify_self, hexisting, Option.map_some, Option.some.injEq] at hsame
        have hmetadata := congrArg ChatSession.channelMetadata hsame
        rw [← hmetadata, contains_recordInbound] at hnew
        cases hnew
      · rw [List.filter_cons_of_neg (by simpa using Ne.symm heq), List.filter_nil, List.append_nil]
        exact h.others id' hown
  -- a new session has this message as its only one
  | starts profileName scope htaken _ _ _ _ hfresh hsessions _ =>
    simp only [intakeOf, htaken, Option.map_some, Option.toList_some]
    have hother : ∀ id', id' ≠ d.newSessionId →
        after.chatSessions.lookup id' = (own.view s.db).chatSessions.lookup id' := by
      intro id' hne
      rw [hsessions, AList.lookup_insert_ne hne]
    refine h.track (fun id' y hy => ?_) (fun id' x hnone hx => ?_) fun id' hown hsame => ?_
    · have hne : id' ≠ d.newSessionId := by
        rintro rfl
        rw [hfresh] at hy
        cases hy
      refine ⟨y, (hother id' hne).trans hy, ?_⟩
      rw [List.filter_cons_of_neg (by simpa using Ne.symm hne), List.filter_nil, List.append_nil]
      exact .nothing
    · have heq : id' = d.newSessionId := by
        by_contra hne
        rw [hother id' hne, hnone] at hx
        cases hx
      subst heq
      have hown : own.chatSessions.lookup d.newSessionId = none := by
        rw [Work.lookup_view, Option.or_eq_none_iff, Option.map_eq_none_iff] at hfresh
        exact hfresh.1
      obtain ⟨hi, hd⟩ := h.others _ hown
      rw [hsessions, AList.lookup_insert] at hx
      cases hx
      rw [hi, hd]
      simp only [decide_true, List.filter_cons_of_pos, List.filter_nil, List.nil_append]
      refine ⟨⟨[], rfl⟩, List.nil_suffix, fun i hi => ?_⟩
      obtain rfl := Option.some.inj hi
      rfl
    · have hne : id' ≠ d.newSessionId := by
        rintro rfl
        rw [hsessions, AList.lookup_insert, hfresh] at hsame
        cases hsame
      rw [List.filter_cons_of_neg (by simpa using Ne.symm hne), List.filter_nil, List.append_nil]
      exact h.others id' hown

/-- **A reply that is deferred.** -/
theorem Booked.defer {chatSessionId : Uuid} {entry : String} (h : Booked own intakes deferrals)
    (hloaded : own.chatSessions.lookup chatSessionId ≠ none)
    (hexec : Tx.exec (recordDeferredReply chatSessionId entry) (own.view s.db) = (.ok (), after)) :
    Booked (own.track s.db after) intakes
      (fun id => deferrals id ++ if chatSessionId = id then [entry] else []) := by
  cases hexec
  refine h.track (fun id y hy => ?_) (fun id x hnone hx => ?_) fun id hown _ => ?_
  · by_cases heq : id = chatSessionId
    · subst heq
      refine ⟨_, by rw [Table.lookup_modify_self, hy, Option.map_some], ?_⟩
      rw [if_pos rfl]
      exact .defers entry
    · refine ⟨y, by rw [Table.lookup_modify_of_ne _ heq, hy], ?_⟩
      rw [if_neg (Ne.symm heq), List.append_nil]
      exact .nothing
  · rw [Table.lookup_modify, hnone] at hx
    split at hx <;> cases hx
  · have hne : chatSessionId ≠ id := by
      rintro rfl
      exact hloaded hown
    rw [if_neg hne, List.append_nil]
    exact h.others id hown

/-- What each transaction has written. A reply job has loaded its session. -/
structure BookedTransaction (t : Transaction) : Prop where
  booked : Booked t.own t.intakesOn t.deferralsOn
  loaded : ∀ σ, t = .send σ → σ.own.chatSessions.lookup σ.chatSessionId ≠ none

theorem bookedTransaction_turn {t : OpenTurn} (h : Booked t.own (fun _ => []) fun _ => []) :
    BookedTransaction (.turn t) :=
  ⟨h, fun _ heq => by cases heq⟩

/-- A part of a turn. -/
theorem Booked.adds {ctx : ToolContext} {db₁ : Db} {id : Uuid} {role : ChatMessageRole}
    (h : Booked own intakes deferrals) (heffect : ToolEffect ctx (own.view s.db) db₁)
    (hadds : Adds ctx id role db₁ after) : Booked (own.track s.db after) intakes deferrals := by
  obtain ⟨row, -, -, -, rfl⟩ := hadds
  exact h.trackSame heffect.metadata

theorem Begins.booked {ctx : ToolContext} {job : Option ProcessJob} {content : String} {o : OpenDraws}
    {excerpts : List String} (h : Begins settings s ctx job content o excerpts t) :
    BookedTransaction t := by
  obtain ⟨offered, own, hexec, rfl⟩ := h
  obtain ⟨after, hok, rfl⟩ := Work.exec_ok hexec
  exact bookedTransaction_turn ((booked_empty.load _).adds (Std.Refl.refl _) (openTurn_ok hok))

/-- A session that is stored has been loaded. -/
theorem lookup_start {reply : Reply} {chatSession : ChatSession}
    (hsession : s.db.chatSessions.lookup reply.chatSessionId = some chatSession) :
    (Send.start s reply).own.chatSessions.lookup reply.chatSessionId ≠ none := by
  have hload : (Send.start s reply).own.chatSessions.lookup reply.chatSessionId =
      (Option.map (fun a => (⟨some a, a⟩ : Tracked ChatSession)) (some chatSession)) := by
    rw [← hsession]
    exact (lookup_load _).trans (if_pos rfl)
  rw [hload]
  simp

/-- The row of a session that is loaded stays in the map. -/
theorem lookup_track_ne_none {id : Uuid} (h : own.chatSessions.lookup id ≠ none) :
    (own.track s.db after).chatSessions.lookup id ≠ none := by
  show (UnitOfWork.track _ _ _).lookup id ≠ none
  rw [lookup_track]
  split
  · exact h
  · intro hnone
    exact h (Option.or_eq_none_iff.mp hnone).2

theorem deferralsOn_send {σ : Send} {entry : String} (h : σ.deferred = some entry) (id : Uuid) :
    Transaction.deferralsOn (.send σ) id = if σ.chatSessionId = id then [entry] else [] := by
  simp only [Transaction.deferralsOn, Commit.deferrals, h, Option.toList_some, List.map_singleton]
  split
  next heq => simp [heq]
  next hne => simp [hne]

/-- A reply job that defers its reply. -/
theorem bookedTransaction_defer {σ : Send} {entry : String} (h : Booked σ.own (fun _ => []) fun _ => [])
    (hloaded : σ.own.chatSessions.lookup σ.chatSessionId ≠ none)
    (hexec : Tx.exec (recordDeferredReply σ.chatSessionId entry) (σ.own.view s.db) = (.ok (), after)) :
    BookedTransaction (.send { σ with own := σ.own.track s.db after, deferred := some entry }) := by
  have hdefer := h.defer hloaded hexec
  refine ⟨⟨fun id row hrow => ?_, fun id hnone => ?_⟩, ?_⟩
  · rw [deferralsOn_send rfl]
    exact hdefer.rows id row hrow
  · rw [deferralsOn_send rfl]
    exact hdefer.others id hnone
  · rintro _ ⟨⟩
    exact lookup_track_ne_none hloaded

/-- **What each event keeps.** -/
theorem bookedTransaction_next {e : Event} {t' : Transaction} (hnext : Next env settings s e t t')
    (h : BookedTransaction t) : BookedTransaction t' := by
  cases hnext with
  | stays => exact h
  | ends => exact ⟨booked_empty, fun _ heq => by cases heq⟩
  | receives => exact ⟨booked_empty, fun _ heq => by cases heq⟩
  -- the load in front of an ingestion leaves the books, and the ingestion adds its message
  | @takes δ inbound rest d result own hpending hexec =>
    obtain ⟨after, hok, rfl⟩ := Work.exec_ok hexec
    have hload : Booked (δ.load s inbound d) (Transaction.intakesOn (.delivery δ)) fun _ => [] := by
      have hbooked : Booked δ.own (Transaction.intakesOn (.delivery δ)) fun _ => [] := h.booked
      unfold Delivery.load
      split
      · split
        · exact hbooked.load _
        · exact hbooked
      · exact hbooked
    refine ⟨?_, fun _ heq => by cases heq⟩
    have hingest := hload.ingest (records_of_ok hok)
    have hintakes : ∀ id, Transaction.intakesOn
        (.delivery { δ with
          pending := rest
          own := (δ.load s inbound d).track s.db after
          intakes := δ.intakes ++ (intakeOf s δ.organizationId d.now result).toList }) id =
        Transaction.intakesOn (.delivery δ) id ++
          (intakeOf s δ.organizationId d.now result).toList.filter fun i => i.chatSessionId = id :=
      fun id => List.filter_append _ _
    exact ⟨fun id row hrow => by rw [hintakes]; exact hingest.rows id row hrow,
      fun id hnone => by rw [hintakes]; exact hingest.others id hnone⟩
  | skips hpending => exact ⟨h.booked, fun _ heq => by cases heq⟩
  | posts _ hbegins => exact hbegins.booked
  | processes _ _ hbegins => exact hbegins.booked
  | asks => exact bookedTransaction_turn h.booked
  | @closes t _ _ _ _ _ hexec =>
    obtain ⟨after, hok, rfl⟩ := Work.exec_ok hexec
    obtain ⟨db₁, ⟨row, -, -, -, rfl⟩, hescalates⟩ := closeTurn_ok hok
    have hbooked : Booked t.own (fun _ => []) fun _ => [] := h.booked
    exact bookedTransaction_turn (hbooked.trackSame hescalates.effect.metadata)
  | @calls t _ _ _ _ _ _ _ hexec =>
    obtain ⟨after, hok, rfl⟩ := Work.exec_ok hexec
    obtain ⟨db₁, heffect, -, hadds⟩ := runToolCall_ok hok
    have hbooked : Booked t.own (fun _ => []) fun _ => [] := h.booked
    exact bookedTransaction_turn (hbooked.adds heffect hadds)
  | sends hreply hsession =>
    refine ⟨booked_empty.load _, ?_⟩
    rintro σ ⟨⟩
    exact lookup_start hsession
  | @sendsLate _ _ _ reply _ entry _ hreply hsession hexec =>
    obtain ⟨after, hok, rfl⟩ := Work.exec_ok hexec
    exact bookedTransaction_defer (booked_empty.load _) (lookup_start hsession) hok
  -- a reply that is open has deferred nothing yet
  | @defers σ _ _ _ _ hopen hexec =>
    obtain ⟨after, hok, rfl⟩ := Work.exec_ok hexec
    have hnone : Transaction.deferralsOn (.send σ) = fun _ => [] := by
      funext id
      simp [Transaction.deferralsOn, Commit.deferrals, hopen]
    have hbooked : Booked σ.own (fun _ => []) (Transaction.deferralsOn (.send σ)) := h.booked
    rw [hnone] at hbooked
    exact bookedTransaction_defer hbooked (h.loaded σ rfl) hok
  -- a session of the widget has no metadata, and nothing has been recorded on it
  | @opens _ _ id _ token _ hexec =>
    obtain ⟨after, hok, rfl⟩ := Work.exec_ok hexec
    obtain ⟨_, _, _, _, _, hfresh, rfl⟩ := createChatSession_ok hok
    have hother : ∀ id', id' ≠ id → ∀ row,
        (AList.insert id row (Work.empty.view s.db).chatSessions).lookup id' =
          (Work.empty.view s.db).chatSessions.lookup id' :=
      fun id' hne row => AList.lookup_insert_ne hne
    refine ⟨?_, fun _ heq => by cases heq⟩
    refine booked_empty.track (fun id' y hy => ⟨y, ?_, .nothing⟩) (fun id' x hnone hx => ?_)
      fun _ _ _ => ⟨rfl, rfl⟩
    · have hne : id' ≠ id := by
        rintro rfl
        rw [hfresh] at hy
        cases hy
      exact (hother id' hne _).trans hy
    · have heq : id' = id := by
        by_contra hne
        rw [hother id' hne, hnone] at hx
        cases hx
      subst heq
      exact upToDate_nil _

/-! ## The commits

`Books` is the invariant of what is shared. Of a session that is not stored nothing is known, so a session
that is inserted begins with its own messages. -/

/-- The stored metadata is up to date, and nothing is known of sessions that there are not. -/
structure Books (s : Shared) : Prop where
  upToDate : ∀ id x, s.db.chatSessions.lookup id = some x →
    UpToDate x.channelMetadata (s.intakesOn id) (s.deferralsOn id)
  known : ∀ id, s.db.chatSessions.lookup id = none → s.intakesOn id = [] ∧ s.deferralsOn id = []

theorem ready_own {own : Work} (h : t.ready = some own) : own = t.own := by
  cases t with
  | opening begun own =>
    cases h
    rfl
  | delivery δ => exact (Option.some.inj (Option.ite_none_right_eq_some.mp h).2).symm
  | turn t => exact (Option.some.inj (Option.ite_none_right_eq_some.mp h).2).symm
  | send σ => exact (Option.some.inj (Option.ite_none_right_eq_some.mp h).2).symm
  | idle => cases h
  | ended => cases h

theorem intakesOn_committed (id : Uuid) :
    (s.committed t after).intakesOn id = s.intakesOn id ++ t.intakesOn id := by
  simp only [Shared.intakesOn, Shared.intakes, Shared.committed, List.flatMap_append,
    List.flatMap_singleton, List.filter_append]
  rfl

theorem deferralsOn_committed (id : Uuid) :
    (s.committed t after).deferralsOn id = s.deferralsOn id ++ t.deferralsOn id := by
  simp only [Shared.deferralsOn, Shared.deferrals, Shared.committed, List.flatMap_append,
    List.flatMap_singleton, List.filter_append, List.map_append]
  rfl

/-- **A commit** keeps the books, if the transaction has read what it writes over. -/
theorem Books.committed (h : Books s) (ht : BookedTransaction t) (hready : t.ready = some own)
    (hcommit : own.commit s.db env.toEnv = some after) (hcurrent : readsCurrent .commit s t = true) :
    Books (s.committed t after) := by
  obtain rfl := ready_own hready
  have hsessions := (Work.commit_ok hcommit).1
  -- the condition, for the row of one session
  have hread : ∀ id row loaded stored, t.own.chatSessions.lookup id = some row →
      row.loaded = some loaded → s.db.chatSessions.lookup id = some stored →
      t.intakesOn id = [] ∧ t.deferralsOn id = [] ∨ stored.channelMetadata = loaded.channelMetadata := by
    intro id row loaded stored hrow hloaded hstored
    have hentry := List.all_eq_true.mp hcurrent ⟨id, row⟩ (Table.mem_entries.mpr hrow)
    simp only [hloaded, hstored, Bool.or_eq_true, Bool.and_eq_true, List.isEmpty_iff,
      decide_eq_true_eq] at hentry
    exact hentry
  refine ⟨fun id x hx => ?_, fun id hnone => ?_⟩
  · rw [intakesOn_committed, deferralsOn_committed]
    have hx' : after.chatSessions.lookup id = some x := hx
    cases hrow : t.own.chatSessions.lookup id with
    | none =>
      obtain ⟨hi, hd⟩ := ht.booked.others id hrow
      rw [lookup_commit_of_none hsessions hrow] at hx'
      rw [hi, hd, List.append_nil, List.append_nil]
      exact h.upToDate id x hx'
    | some row =>
      have hadvances := ht.booked.rows id row hrow
      -- the transaction has inserted the session, or written over it
      rcases lookup_commit_own hsessions hrow with
        ⟨hloaded, hbase, hcurrent'⟩ | ⟨loaded, stored, merged, hloaded, hstored, hmerge, hmerged⟩
      · obtain ⟨hi, hd⟩ := h.known id hbase
        obtain rfl : row.current = x := Option.some.inj (hcurrent'.symm.trans hx')
        rw [hi, hd, List.nil_append, List.nil_append]
        exact hadvances.inserted hloaded
      · obtain rfl : merged = x := Option.some.inj (hmerged.symm.trans hx')
        rw [(Work.merge_ok hmerge).1]
        have hstoredDate := h.upToDate id stored hstored
        -- nothing to write: the column stays as it is stored. Otherwise it has been read as it is stored
        rcases hread id row loaded stored hrow hloaded hstored with ⟨hi, hd⟩ | hsame
        · rw [hi, hd, hadvances.untouched loaded hloaded hi hd, WriteBack.flushAttr_unassigned,
            List.append_nil, List.append_nil]
          exact hstoredDate
        · rw [hsame, WriteBack.flushAttr_loaded]
          exact hadvances.merged loaded hloaded _ _ (hsame ▸ hstoredDate)
  · -- a session that is not stored afterwards was not stored before, and has no row
    rw [intakesOn_committed, deferralsOn_committed]
    have hnone' : after.chatSessions.lookup id = none := hnone
    cases hrow : t.own.chatSessions.lookup id with
    | none =>
      obtain ⟨hi, hd⟩ := ht.booked.others id hrow
      rw [lookup_commit_of_none hsessions hrow] at hnone'
      rw [hi, hd, List.append_nil, List.append_nil]
      exact h.known id hnone'
    | some row =>
      rcases lookup_commit_own hsessions hrow with ⟨_, _, hsome⟩ | ⟨_, _, _, _, _, _, hsome⟩
      · rw [hsome] at hnone'
        cases hnone'
      · rw [hsome] at hnone'
        cases hnone'

end

/-- **No lost update**, in every run in which each transaction that has written the metadata of a
    session finds it at its commit as it has read it. -/
theorem noLostUpdate_of_run (env : Env) (settings : Settings) (db : Db) (events : List (Nat × Event))
    (h : Run.AllSteps (World.step env settings)
      (fun w e => readsCurrent e.2 w.shared (w.own e.1) = true) (World.start db) events) :
    NoLostUpdate (Run.run (World.step env settings) (World.start db) events).shared := by
  have hbooks := (inv_of_events (I := Books) (T := fun _ => BookedTransaction)
    (G := fun e s t => readsCurrent e s t = true) (s := ⟨db, []⟩)
    (fun _ => ⟨booked_empty, fun _ heq => by cases heq⟩)
    (fun _ => ⟨booked_empty, fun _ heq => by cases heq⟩)
    (fun s e t t' hnext _ _ hT => bookedTransaction_next hnext hT)
    (fun s t own after hready hcommit hcurrent hI hT =>
      ⟨hI.committed hT hready hcommit hcurrent, fun _ h => h⟩)
    ⟨fun _ _ _ => upToDate_nil _, fun _ _ => ⟨rfl, rfl⟩⟩ h).1
  intro id chatSession hsession
  have hdate := hbooks.upToDate id chatSession hsession
  exact ⟨hdate.contains.1, hdate.contains.2, hdate.last⟩

/-! ## A message that comes in while a reply is being sent

The same four transactions in two orders. Before the job loads the session, the second message is safe.
During the call it is stored, but the job writes the list that it has read. -/

/-- The model closes the turn at once. -/
def answers (n : Nat) (text : String) : List (Nat × Event) :=
  [(n, .complete ⟨some text, []⟩ (turnDraws (100 * n + 2))), (n, .commit)]

/-- A message, its answer, and the reply job up to the call; the API rejects the reply. In between
    comes another message. -/
def deferredMeanwhile (before after : List (Nat × Event)) : List (Nat × Event) :=
  deliver 0 firstPayload [drawsAt 0 (days 739000)] ++ [executes 1 0] ++ answers 1 "At nine." ++ before ++
    [(2, .send 0 (days 739000) (days 739000))] ++ after ++
    [(2, .sent (.whatsappSendError (some metaOutsideWindowErrorCode)) (days 739001)), (2, .commit)]

def secondMessage : List (Nat × Event) :=
  deliver 3 (webhookPayload [oneMessage "111" "wamid.2"]) [drawsAt 1 (days 739000 + 1)]

/-- The second message is there before the reply job loads the session. -/
theorem noLostUpdate_of_run_before :
    NoLostUpdate (Run.run (World.step trafficEnv trafficSettings) (World.start webhookDb)
      (deferredMeanwhile secondMessage [])).shared := by
  apply noLostUpdate_of_run
  decide +kernel

/-- The second message comes in during the call, and the deferral is written over it. -/
theorem not_noLostUpdate :
    ¬ NoLostUpdate (Run.run (World.step trafficEnv trafficSettings) (World.start webhookDb)
      (deferredMeanwhile [] secondMessage)).shared := by
  intro h
  have hlost : (((Run.run (World.step trafficEnv trafficSettings) (World.start webhookDb)
      (deferredMeanwhile [] secondMessage)).shared.db.chatSessions.lookup 40).any fun x =>
        ! contains x.channelMetadata "processed_message_ids" "wamid.2") = true := by
    decide +kernel
  have hcommitted : ((Window.latest processedMessageIdsCap ((Run.run
      (World.step trafficEnv trafficSettings) (World.start webhookDb)
      (deferredMeanwhile [] secondMessage)).shared.intakesOn 40)).any fun i => i.wamid = "wamid.2") =
        true := by
    decide +kernel
  obtain ⟨x, hx, hmissing⟩ := (Option.any_eq_true _ _).mp hlost
  obtain ⟨i, hi, hwamid⟩ := List.any_eq_true.mp hcommitted
  have hcontains := (h 40 x hx).1 i hi
  rw [of_decide_eq_true hwamid] at hcontains
  simp [hcontains] at hmissing

end Helpdesk.Traffic
