import Helpdesk.Analytics.Rates
import Helpdesk.Knowledge.Freshness

/-! # Rates over a history

Suggestions and replies on any number of tickets, between whatever else the services write. What a reply is based
on is a suggestion that its ticket has got before (`Grounded`), and so is one of the day's own if it was generated
on the day of the reply. **`rates_of_run`**: where every reply is stored on the day of the suggestion that it is
based on, each day's rates are rates, in every state of the run. -/

namespace Helpdesk.Analytics

open Sla Run

/-! ## What a message is based on

`validate_suggestion_reference` looks the suggestion up before the message is stored, so a posted message names
one that has been committed, on its own ticket. -/

section
variable {ticketId : Uuid}

/-- The suggestion that a posted message names is there, on the ticket. -/
theorem wp_createMessage_based {scope : OrgScope} {newId : Uuid} {content : String}
    {basedOnSuggestionId : Option Uuid} {db : Db} :
    Tx.wp (Tickets.createMessage scope newId ticketId content basedOnSuggestionId)
      (fun posted _ => posted.message.ticketId = ticketId ∧
        ∀ s, posted.message.basedOnSuggestionId = some s → ∃ referenced,
          db.messages.lookup s = some referenced ∧ referenced.ticketId = ticketId ∧ referenced.isAiSuggestion = true)
      (fun _ => True) db := by
  -- the reference has been validated, and the row has it
  have hinsert : (∀ s, basedOnSuggestionId = some s → ∃ referenced, db.messages.lookup s = some referenced ∧
      referenced.ticketId = ticketId ∧ referenced.isAiSuggestion = true) → ∀ channelIsEmail : Bool,
      Tx.wp (do
          let message ← insertMessage newId ticketId (Tickets.authorTypeFor scope) content basedOnSuggestionId
          pure (⟨message, channelIsEmail⟩ : Tickets.PostedMessage))
        (fun posted _ => posted.message.ticketId = ticketId ∧
          ∀ s, posted.message.basedOnSuggestionId = some s → ∃ referenced,
            db.messages.lookup s = some referenced ∧ referenced.ticketId = ticketId ∧
              referenced.isAiSuggestion = true)
        (fun _ => True) db := by
    intro hreferenced channelIsEmail
    rw [Tx.wp_bind]
    unfold insertMessage
    split
    · simpa using fun _ _ _ => hreferenced
    · simp
  unfold Tickets.createMessage
  rw [Tx.wp_bind]
  apply (looksUp_getOr404 _ _ _ _).wp _ (fun _ _ => trivial)
  intro ticket _
  rw [Tx.wp_bind]
  unfold Tickets.validateSuggestionReference
  -- without a reference there is nothing to validate
  cases basedOnSuggestionId with
  | none =>
    rw [Tx.wp_pure]
    exact hinsert (fun s h => by cases h) _
  | some suggestionId =>
    dsimp only
    split
    · simp
    · rw [Tx.wp_bind, Tx.wp_store]
      split
      · simp
      next referenced hlookup =>
        split
        · simp
        next hvalid =>
          rw [Tx.wp_pure]
          refine hinsert (fun s hs => ?_) _
          obtain rfl := Option.some.inj hs
          obtain ⟨hticket, hsuggestion⟩ := not_or.mp hvalid
          exact ⟨referenced, hlookup, not_not.mp hticket, not_not.mp hsuggestion⟩

end

/-! ## The history

Requests on a ticket go through the same steps as in the part about suggestions (`Rag.World`), and the tickets
share the messages. What else is stored comes in between, whole: rows of other services, and writes to other
tables. -/

/-- The messages with their stamps, and what is under way on each ticket. -/
structure Conversations where
  db : Db
  /-- `messages.created_at` -/
  createdAt : Uuid → Int
  /-- the requests of `suggest_response` and `create_message`, by ticket -/
  transactions : Uuid → Table Nat Rag.Transaction
  generatedFrom : Uuid → List Uuid

/-- What happens on one ticket goes on in its part of the history. -/
def Conversations.ticket (w : Conversations) (ticketId : Uuid) : Rag.World :=
  ⟨w.db, w.createdAt, w.transactions ticketId, w.generatedFrom⟩

def Conversations.withTicket (w : Conversations) (ticketId : Uuid) (part : Rag.World) : Conversations where
  db := part.db
  createdAt := part.createdAt
  transactions := Function.update w.transactions ticketId part.transactions
  generatedFrom := part.generatedFrom

/-- No message is there yet. -/
def Conversations.start (db : Db) : Conversations where
  db := { db with messages := ∅ }
  createdAt _ := 0
  transactions _ := ∅
  generatedFrom _ := []

inductive Event where
  | onTicket (ticketId : Uuid) (e : Rag.Event)
  /-- a message of another service, which is neither a suggestion nor based on one -/
  | message (id : Uuid) (row : Message) (createdAt : Int)
  /-- a write to other tables -/
  | elsewhere (db : Db)

def Conversations.step (w : Conversations) : Event → Conversations
  | .onTicket ticketId e => w.withTicket ticketId ((w.ticket ticketId).step ticketId e)
  | .message id row createdAt =>
    if row.isAiSuggestion ∨ row.basedOnSuggestionId ≠ none then w
    else match w.db.messages.insertNew id row with
      | some messages =>
        { w with db := { w.db with messages := messages }, createdAt := Function.update w.createdAt id createdAt }
      | none => w
  | .elsewhere db => { w with db := { db with messages := w.db.messages } }

/-- A reply that is stored is stored on the local day on which the suggestion that it is based on was. -/
def UsedOnItsDay (tz : Zone) (w : Conversations) : Event → Prop
  | .onTicket ticketId (.commitMessage tx) => ∀ t id row s, (w.transactions ticketId).lookup tx = some t →
      t.phase = .inserted id row → row.basedOnSuggestionId = some s →
        ∀ localDay, OnDay tz localDay t.startedAt → OnDay tz localDay (w.createdAt s)
  | _ => True

/-! ## The invariant

`Grounded` is about the stored rows and about those that wait for their commit; a suggestion that has been
committed is never taken back, so what a waiting row is based on is there when it is committed. Most steps of a
request store nothing (`Quiet`). -/

/-- The ticket has got the suggestion. -/
def Suggested (db : Db) (ticketId s : Uuid) : Prop :=
  ∃ row, db.messages.lookup s = some row ∧ row.ticketId = ticketId ∧ row.isAiSuggestion = true

/-- A message is based on a suggestion of its ticket, and of its day. -/
structure Grounded (tz : Zone) (w : Conversations) : Prop where
  based : ∀ id row s, w.db.messages.lookup id = some row → row.basedOnSuggestionId = some s →
    Suggested w.db row.ticketId s ∧
      ∀ localDay, OnDay tz localDay (w.createdAt id) → OnDay tz localDay (w.createdAt s)
  inserted : ∀ ticketId tx t id row, (w.transactions ticketId).lookup tx = some t → t.phase = .inserted id row →
    row.ticketId = ticketId ∧ ∀ s, row.basedOnSuggestionId = some s → Suggested w.db ticketId s

/-- Nothing is committed, and nothing else is posted. -/
structure Quiet (w w' : Rag.World) : Prop where
  db : w'.db = w.db
  createdAt : w'.createdAt = w.createdAt
  inserted : ∀ tx t id row, w'.transactions.lookup tx = some t → t.phase = .inserted id row →
    w.transactions.lookup tx = some t

section
variable {w : Rag.World} {ticketId : Uuid} {tx : Nat} {t : Rag.Transaction}

theorem Quiet.refl (w : Rag.World) : Quiet w w := ⟨rfl, rfl, fun _ _ _ _ h _ => h⟩

theorem quiet_ended (w : Rag.World) (tx : Nat) : Quiet w (w.ended tx) :=
  ⟨rfl, rfl, fun _ _ _ _ h _ => Table.lookup_of_lookup_erase h⟩

theorem quiet_setPhase {phase : Rag.Phase} (hphase : ∀ id row, phase ≠ .inserted id row) :
    Quiet w (w.setPhase tx t phase) := by
  refine ⟨rfl, rfl, fun tx' t' id row h hinserted => ?_⟩
  simp only [Rag.World.setPhase, Table.lookup_insert] at h
  split at h
  · cases h
    exact absurd hinserted (hphase id row)
  · exact h

theorem quiet_begin (kind : Rag.Kind) (scope : OrgScope) (now : Int) : Quiet w (w.begin tx kind scope now) := by
  unfold Rag.World.begin
  split
  · cases kind with
    | createMessage => exact quiet_setPhase nofun
    | suggestResponse => exact quiet_setPhase nofun
  · exact .refl w

theorem quiet_look : Quiet w (w.look ticketId tx) := by
  unfold Rag.World.look
  split
  · split
    · split
      · exact quiet_setPhase nofun
      · exact quiet_ended w tx
    · exact quiet_setPhase nofun
    · exact .refl w
  · exact .refl w

theorem quiet_check : Quiet w (w.check ticketId tx) := by
  unfold Rag.World.check
  split
  · split
    · exact quiet_setPhase (by split <;> exact nofun)
    · exact quiet_setPhase (by split <;> exact nofun)
    · exact .refl w
  · exact .refl w

theorem quiet_lock : Quiet w (w.lock ticketId tx) := by
  unfold Rag.World.lock
  split
  · split
    · split
      · exact quiet_setPhase nofun
      · exact quiet_ended w tx
    · exact .refl w
  · exact .refl w

theorem quiet_readThread : Quiet w (w.readThread ticketId tx) := by
  unfold Rag.World.readThread
  split
  · split
    · exact quiet_setPhase nofun
    · exact .refl w
  · exact .refl w

end

section
variable {tz : Zone} {w : Conversations} {ticketId id : Uuid} {row : Message}

theorem Suggested.insert {s : Uuid} (h : Suggested w.db ticketId s) (hfresh : w.db.messages.lookup id = none) :
    Suggested { w.db with messages := AList.insert id row w.db.messages } ticketId s := by
  obtain ⟨referenced, hlookup, hsuggestion⟩ := h
  refine ⟨referenced, ?_, hsuggestion⟩
  show (AList.insert id row w.db.messages).lookup s = some referenced
  rw [AList.lookup_insert_ne]
  · exact hlookup
  · rintro rfl
    cases hfresh.symm.trans hlookup

/-- A row that is based on nothing, or on a suggestion of its ticket and its day. -/
theorem Grounded.insert {createdAt : Int} {transactions : Uuid → Table Nat Rag.Transaction}
    {generatedFrom : Uuid → List Uuid} (h : Grounded tz w) (hfresh : w.db.messages.lookup id = none)
    (hrow : ∀ s, row.basedOnSuggestionId = some s → Suggested w.db row.ticketId s ∧
      ∀ localDay, OnDay tz localDay createdAt → OnDay tz localDay (w.createdAt s))
    (htransactions : ∀ ticketId tx t id row, (transactions ticketId).lookup tx = some t →
      t.phase = .inserted id row → (w.transactions ticketId).lookup tx = some t) :
    Grounded tz ⟨{ w.db with messages := AList.insert id row w.db.messages },
      Function.update w.createdAt id createdAt, transactions, generatedFrom⟩ := by
  have hstamp : ∀ {ticketId s : Uuid}, Suggested w.db ticketId s →
      Function.update w.createdAt id createdAt s = w.createdAt s := by
    rintro ticketId s ⟨referenced, hlookup, -⟩
    apply Function.update_of_ne
    rintro rfl
    cases hfresh.symm.trans hlookup
  constructor
  · intro id' row' s hlookup hbased
    dsimp only at hlookup ⊢
    rw [Table.lookup_insert] at hlookup
    split at hlookup
    -- the row itself
    next heq =>
      cases hlookup
      subst heq
      obtain ⟨hsuggested, hday⟩ := hrow s hbased
      rw [hstamp hsuggested, Function.update_self]
      exact ⟨hsuggested.insert hfresh, hday⟩
    -- a row that was there: neither it nor what it is based on is the new one
    next hne =>
      obtain ⟨hsuggested, hday⟩ := h.based id' row' s hlookup hbased
      rw [hstamp hsuggested, Function.update_of_ne hne]
      exact ⟨hsuggested.insert hfresh, hday⟩
  · intro ticketId tx t id' row' hlookup hphase
    obtain ⟨hticket, hsuggested⟩ := h.inserted ticketId tx t id' row'
      (htransactions ticketId tx t id' row' hlookup hphase) hphase
    exact ⟨hticket, fun s hs => (hsuggested s hs).insert hfresh⟩

/-- The requests that are posted after something on one ticket, where they are those of before. -/
theorem inserted_withTicket {part : Rag.World} (hinserted : ∀ tx t id row,
      part.transactions.lookup tx = some t → t.phase = .inserted id row →
      (w.transactions ticketId).lookup tx = some t) (other : Uuid) (tx : Nat) (t : Rag.Transaction) (id : Uuid)
    (row : Message) (h : ((w.withTicket ticketId part).transactions other).lookup tx = some t)
    (hphase : t.phase = .inserted id row) : (w.transactions other).lookup tx = some t := by
  replace h : (Function.update w.transactions ticketId part.transactions other).lookup tx = some t := h
  by_cases heq : other = ticketId
  · subst heq
    rw [Function.update_self] at h
    exact hinserted tx t id row h hphase
  · rwa [Function.update_of_ne heq] at h

theorem Grounded.quiet {part : Rag.World} (h : Grounded tz w) (hquiet : Quiet (w.ticket ticketId) part) :
    Grounded tz (w.withTicket ticketId part) := by
  obtain ⟨hdb, hcreatedAt, hinserted⟩ := hquiet
  constructor
  · intro id row s hlookup hbased
    show Suggested part.db row.ticketId s ∧ ∀ localDay, OnDay tz localDay (part.createdAt id) →
      OnDay tz localDay (part.createdAt s)
    replace hlookup : part.db.messages.lookup id = some row := hlookup
    rw [hdb, hcreatedAt] at *
    exact h.based id row s hlookup hbased
  · intro other tx t id row hlookup hphase
    show row.ticketId = other ∧ ∀ s, row.basedOnSuggestionId = some s → Suggested part.db other s
    rw [hdb]
    exact h.inserted other tx t id row (inserted_withTicket hinserted other tx t id row hlookup hphase) hphase

/-- A message that is posted is based on a suggestion that its ticket has got. -/
theorem Grounded.post {tx : Nat} {newId : Uuid} {content : String} {basedOnSuggestionId : Option Uuid}
    (h : Grounded tz w) :
    Grounded tz (w.withTicket ticketId
      ((w.ticket ticketId).post ticketId tx newId content basedOnSuggestionId)) := by
  unfold Rag.World.post
  split
  next t hl =>
    split
    · split
      next posted db' hexec =>
        have hposted := (Tx.wp_of_ok hexec).mp wp_createMessage_based
        constructor
        · exact h.based
        · intro other tx' t' id row hlookup hphase
          -- only this request waits with a new row
          by_cases heq : other = ticketId
          · subst heq
            simp only [Conversations.withTicket, Function.update_self, Rag.World.setPhase,
              Table.lookup_insert] at hlookup
            split at hlookup
            · cases hlookup
              cases hphase
              exact hposted
            · exact h.inserted other tx' t' id row hlookup hphase
          · simp only [Conversations.withTicket, Function.update_of_ne heq] at hlookup
            exact h.inserted other tx' t' id row hlookup hphase
      next => exact h.quiet (quiet_ended _ tx)
    · exact h.quiet (.refl _)
  next => exact h.quiet (.refl _)

/-- A row that is committed on the ticket. -/
theorem Grounded.commitRow {tx : Nat} {t : Rag.Transaction} (h : Grounded tz w)
    (hrow : ∀ s, row.basedOnSuggestionId = some s → Suggested w.db row.ticketId s ∧
      ∀ localDay, OnDay tz localDay t.startedAt → OnDay tz localDay (w.createdAt s)) :
    Grounded tz (w.withTicket ticketId ((w.ticket ticketId).commitRow tx t id row)) := by
  have hcases : _ ∨ _ ∧ (w.ticket ticketId).commitRow tx t id row = _ :=
    Rag.commitRow_cases (w.ticket ticketId) tx t id
  obtain ⟨hfresh, hcommit⟩ | ⟨-, hcommit⟩ := hcases
  · rw [hcommit]
    exact h.insert hfresh hrow (inserted_withTicket (quiet_ended (w.ticket ticketId) tx).inserted)
  · rw [hcommit]
    exact h.quiet (quiet_ended _ tx)

/-- **Step lemma**. -/
theorem Grounded.step (h : Grounded tz w) {e : Event} (he : UsedOnItsDay tz w e) : Grounded tz (w.step e) := by
  cases e with
  | onTicket ticketId e =>
    simp only [Conversations.step]
    cases e with
    | begin tx kind scope now => exact h.quiet (quiet_begin kind scope now)
    | post tx newId content basedOnSuggestionId => exact h.post
    | look tx => exact h.quiet quiet_look
    | check tx => exact h.quiet quiet_check
    | lock tx => exact h.quiet quiet_lock
    | readThread tx => exact h.quiet quiet_readThread
    | finish tx => exact h.quiet (quiet_ended _ tx)
    -- a reply is stored: here its day counts
    | commitMessage tx =>
      show Grounded tz (w.withTicket ticketId ((w.ticket ticketId).commitMessage tx))
      unfold Rag.World.commitMessage
      split
      next t hl =>
        split
        next id row hphase =>
          obtain ⟨rfl, hsuggested⟩ := h.inserted ticketId tx t id row hl hphase
          exact h.commitRow fun s hs => ⟨hsuggested s hs, he t id row s hl hphase hs⟩
        next => exact h.quiet (.refl _)
      next => exact h.quiet (.refl _)
    | store tx id draft =>
      show Grounded tz (w.withTicket ticketId ((w.ticket ticketId).store ticketId tx id draft))
      unfold Rag.World.store
      split
      next t hl =>
        split
        next thread hphase =>
          split
          next hdraft =>
            -- a suggestion is based on nothing
            let row : Message := {
              ticketId := ticketId
              authorType := .bot
              content := Text.strip draft
              isAiSuggestion := true
              basedOnSuggestionId := none
              content_not_blank := hdraft }
            have hcommitted : Grounded tz (w.withTicket ticketId ((w.ticket ticketId).commitRow tx t id row)) :=
              h.commitRow fun s hs => by cases hs
            exact ⟨hcommitted.based, hcommitted.inserted⟩
          · exact h.quiet (quiet_ended _ tx)
        next => exact h.quiet (.refl _)
      next => exact h.quiet (.refl _)
  -- a row that is based on nothing
  | message id row createdAt =>
    simp only [Conversations.step]
    split
    · exact h
    next hplain =>
      obtain ⟨-, hbased⟩ := not_or.mp hplain
      split
      next messages hinsert =>
        obtain ⟨hfresh, rfl⟩ := Table.insertNew_eq_some.mp hinsert
        refine h.insert hfresh (fun s hs => ?_) fun _ _ _ _ _ h _ => h
        rw [not_not.mp hbased] at hs
        cases hs
      next => exact h
  | elsewhere db => exact ⟨h.based, h.inserted⟩

/-! ## Rates

With the invariant, the suggestions that are used on a day are a subset of those generated on it, and then the
rate needs no more than `rates_iff`. -/

/-- What the messages of a day are based on has been generated on the day. -/
theorem Grounded.used_subset (h : Grounded tz w) (stamps : Stamps) (hstamps : stamps.message = w.createdAt)
    (organizationId : Uuid) {localDay : Int} {window : Int × Int}
    (hwindow : localDayUtcBounds tz localDay = .ok window) :
    usedOnDay ⟨w.db, stamps, organizationId, window⟩ ⊆ generatedOnDay ⟨w.db, stamps, organizationId, window⟩ := by
  intro s hs
  simp only [usedOnDay, List.mem_toFinset, List.mem_filterMap, messagesOnDay, Prod.exists, Table.mem_select,
    Reading.within, hstamps, Bool.and_eq_true, decide_eq_true_eq] at hs
  obtain ⟨id, row, ⟨hlookup, horganization, hfrom, hto⟩, hbased⟩ := hs
  obtain ⟨⟨referenced, hreferenced, hticket, hsuggestion⟩, hday⟩ := h.based id row s hlookup hbased
  obtain ⟨window', hwindow', hfrom', hto'⟩ := hday localDay ⟨window, hwindow, hfrom, hto⟩
  obtain rfl : window = window' := Except.ok.inj (hwindow.symm.trans hwindow')
  simp only [generatedOnDay, List.mem_toFinset, List.mem_map, List.mem_filter, messagesOnDay, Prod.exists,
    Table.mem_select, Reading.within, hstamps, Bool.and_eq_true, decide_eq_true_eq, exists_and_right,
    exists_eq_right]
  exact ⟨referenced, ⟨hreferenced, hticket ▸ horganization, hfrom', hto'⟩, hsuggestion⟩

end

/-- **Rates over a history**: where every reply is stored on the day of the suggestion that it is based on, what
    the rollup writes as a ratio is a rate, for each organization and day and in every state of the run. -/
theorem rates_of_run (tz : Zone) (db : Db) (events : List Event)
    (hsame : AllSteps Conversations.step (UsedOnItsDay tz) (Conversations.start db) events)
    (chatSession classification : Uuid → Int) (organizationId : Uuid) (localDay : Int)
    (window : Int × Int) (hwindow : localDayUtcBounds tz localDay = .ok window) :
    let w := run Conversations.step (Conversations.start db) events
    RatesAreRates ⟨w.db, ⟨w.createdAt, chatSession, classification⟩, organizationId, window⟩ := by
  intro w
  have hstart : Grounded tz (Conversations.start db) :=
    ⟨(fun _ _ _ h => by cases h), (fun _ _ _ _ _ h => by cases h)⟩
  have hgrounded : Grounded tz w := inv_of_preserved (fun _ _ h he => h.step he) hstart hsame
  rw [rates_iff]
  exact .inr (Finset.card_le_card (hgrounded.used_subset _ rfl organizationId hwindow))

/-! ## Today's suggestion, and yesterday's

Two short histories of one ticket, with the condition and without it. -/

def agent : OrgScope := ⟨1, 9, .agent⟩

/-- A suggestion that is generated, up to its commit. -/
def suggested (tx : Nat) (id : Uuid) (now : Int) : List Rag.Event :=
  [.begin tx .suggestResponse agent now, .look tx, .check tx, .lock tx, .look tx, .check tx, .readThread tx,
    .store tx id "Please call us."]

def posted (tx : Nat) (scope : OrgScope) (id : Uuid) (basedOnSuggestionId : Option Uuid) (now : Int) :
    List Rag.Event :=
  [.begin tx .createMessage scope now, .post tx id "It is leaking again." basedOnSuggestionId, .commitMessage tx]

/-- An open ticket without messages. -/
def openTicket : Db := { Db.empty with tickets := AList.insert 3 (clocked .open open_ne_closed 0 0) ∅ }

/-- A suggestion, and two hours later the agent's reply that is based on it. -/
def usedAtOnce : List Event :=
  (suggested 1 50 (days 739001) ++ posted 2 agent 60 (some 50) (days 739001 + hours 2)).map (.onTicket 3)

/-- What a message that is about to be committed is based on. -/
def postedOn : Rag.Phase → Option Uuid
  | .inserted _ row => row.basedOnSuggestionId
  | _ => none

/-- One suggestion used of one generated. -/
theorem rates_of_run_usedAtOnce :
    let w := run Conversations.step (Conversations.start openTicket) usedAtOnce
    ragSuggestionDayTotals ⟨w.db, ⟨w.createdAt, fun _ => 0, fun _ => 0⟩, 1, (days 739001, days 739002)⟩ = (1, 1) ∧
      RatesAreRates ⟨w.db, ⟨w.createdAt, fun _ => 0, fun _ => 0⟩, 1, (days 739001, days 739002)⟩ := by
  refine ⟨by decide +kernel, rates_of_run utc.zone openTicket usedAtOnce ?_ _ _ 1 739001 _ rfl⟩
  refine ⟨trivial, trivial, trivial, trivial, trivial, trivial, trivial, trivial, trivial, trivial, ?_, trivial⟩
  intro t id row s hl hphase hs localDay hday
  -- the reply is of two o'clock, and based on the suggestion of midnight
  let before := run Conversations.step (Conversations.start openTicket) (usedAtOnce.take 10)
  have hposted : ((before.transactions 3).lookup 2).map (fun t => (t.startedAt, postedOn t.phase)) =
      some (days 739001 + hours 2, some 50) := by decide +kernel
  replace hl : (before.transactions 3).lookup 2 = some t := hl
  rw [hl, Option.map_some, hphase] at hposted
  obtain ⟨hstarted, hbased⟩ : t.startedAt = days 739001 + hours 2 ∧ row.basedOnSuggestionId = some 50 := by
    simpa [postedOn] using hposted
  obtain rfl : 50 = s := Option.some.inj (hbased.symm.trans hs)
  have hgains : utc.GainsLess dayLength := by
    have hwithin : ∀ offset ∈ utc.initial :: utc.changes.map (·.2), 0 ≤ offset ∧ offset < 0 + dayLength := by
      decide
    exact Clock.gainsLess_of_within hwithin
  have htwo : OnDay utc.zone 739001 (days 739001 + hours 2) := ⟨_, rfl, by decide, by decide⟩
  obtain rfl := day_unique hgains (hstarted ▸ hday) htwo
  exact ⟨(days 739001, days 739002), rfl, by decide +kernel, by decide +kernel⟩

/-- A ticket gets a suggestion on one day; on the next one the tenant writes, there is another suggestion, and the
    agent sends both. -/
def answeredNextDay : List Event :=
  (suggested 1 50 (days 739000) ++ posted 2 ⟨1, 10, .tenant⟩ 40 none (days 739001) ++
    suggested 3 51 (days 739001 + hours 1) ++ posted 4 agent 60 (some 50) (days 739001 + hours 2) ++
    posted 5 agent 61 (some 51) (days 739001 + hours 3)).map (.onTicket 3)

/-- Two suggestions used and one generated: the rate of the day is two. -/
theorem not_ratesAreRates : ¬ ∀ (tz : Zone) (db : Db) (events : List Event)
    (chatSession classification : Uuid → Int) (organizationId : Uuid) (localDay : Int) (window : Int × Int),
    localDayUtcBounds tz localDay = .ok window →
      let w := run Conversations.step (Conversations.start db) events
      RatesAreRates ⟨w.db, ⟨w.createdAt, chatSession, classification⟩, organizationId, window⟩ := by
  intro h
  have hrates := h utc.zone openTicket answeredNextDay (fun _ => 0) (fun _ => 0) 1 739001 _ rfl
  have hrate := hrates "rag_suggestion_usage_rate" 2 1 (by decide +kernel) (by decide +kernel)
  exact absurd hrate.2.2 (by decide)

end Helpdesk.Analytics
