import Helpdesk.Knowledge.Suggestions

/-! # When a suggestion is reused

A suggestion is reused as long as no message of the conversation sorts after it. That says what it is
meant to say, that every message was part of the thread it was generated from, as long as stamps agree
with commits. **Key results**: `Inv.step`, and `freshness_of_run`, the two-sided law over whole runs. -/

namespace Helpdesk.Rag

variable {ticketId : Uuid} {w : World} {tx : Nat} {t : Transaction} {s m id : Uuid}

/-! ## The law

Both sides of the law are about the thread that a suggestion was generated from, which the service does not
store; what it compares are stamps. `KeepsOrder` says at the two kinds of commits that the stamps agree. -/

/-- The event is a check that finds the suggestion `s` fresh, and so returns it. -/
def Reuses (ticketId : Uuid) (w : World) (e : Event) (s : Uuid) : Prop :=
  ∃ tx t, e = .check tx ∧ w.transactions.lookup tx = some t ∧
    (t.phase = .cached (some s) ∨ t.phase = .recached (some s)) ∧ isFresh ticketId w s = true

/-- The event is the check under the lock, and goes on to generate a suggestion. -/
def Generates (ticketId : Uuid) (w : World) (e : Event) : Prop :=
  ∃ tx t suggestion, e = .check tx ∧ w.transactions.lookup tx = some t ∧
    t.phase = .recached suggestion ∧ w.servable ticketId suggestion = false

/-- A suggestion that is reused has seen every committed message, and one is generated only if every
    suggestion there is has missed one. -/
def FreshnessLaw (ticketId : Uuid) (w : World) (e : Event) : Prop :=
  (∀ s, Reuses ticketId w e s → ∀ m ∈ conversation ticketId w, m ∈ w.generatedFrom s) ∧
    (Generates ticketId w e →
      ∀ s ∈ suggestions ticketId w, ∃ m ∈ conversation ticketId w, m ∉ w.generatedFrom s)

/-- Stamps agree with commits: a message that is committed sorts after every suggestion that is still
    fresh, and a suggestion that is committed sorts after every message of its thread. -/
def KeepsOrder (ticketId : Uuid) (w : World) : Event → Prop
  | .commitMessage tx =>
    match w.transactions.lookup tx with
    | some ⟨startedAt, _, .inserted id _⟩ =>
      ∀ s ∈ suggestions ticketId w, isFresh ticketId w s = true → sortKey w s < toLex (startedAt, id)
    | _ => True
  | .store tx id _ =>
    match w.transactions.lookup tx with
    | some ⟨startedAt, _, .generating thread⟩ => ∀ m ∈ thread, sortKey w m < toLex (startedAt, id)
    | _ => True
  | _ => True

instance (ticketId : Uuid) (w : World) (e : Event) : Decidable (KeepsOrder ticketId w e) := by
  unfold KeepsOrder
  split
  · split <;> infer_instance
  · split <;> infer_instance
  · infer_instance

/-! ## Reading the queries

The queries as statements about rows. A suggestion that is stale makes the earlier ones stale too, so that it is
enough for the service to look at the latest. -/

theorem mem_suggestions : s ∈ suggestions ticketId w ↔
    ∃ row, w.db.messages.lookup s = some row ∧ row.ticketId = ticketId ∧ row.isAiSuggestion = true := by
  simp [suggestions]

theorem mem_conversation : m ∈ conversation ticketId w ↔
    ∃ row, w.db.messages.lookup m = some row ∧ row.ticketId = ticketId ∧
      row.isAiSuggestion = false := by
  simp [conversation]

theorem isFresh_iff : isFresh ticketId w s = true ↔
    ∀ m ∈ conversation ticketId w, ¬ sortKey w s < sortKey w m := by
  simp [isFresh]

/-- Every suggestion is stale. -/
def AllStale (ticketId : Uuid) (w : World) : Prop :=
  ∀ s ∈ suggestions ticketId w, isFresh ticketId w s = false

/-- If the latest suggestion is stale, they all are. -/
theorem allStale_of_not_servable (h : w.servable ticketId (latestSuggestion ticketId w) = false) :
    AllStale ticketId w := by
  intro s hs
  cases hlatest : latestSuggestion ticketId w with
  | none =>
    have hnil : suggestions ticketId w = [] := Window.greatest_eq_none.mp hlatest
    rw [hnil] at hs
    cases hs
  | some latest =>
    rw [hlatest] at h
    have hstale : isFresh ticketId w latest = false := h
    rw [← Bool.not_eq_true, isFresh_iff] at hstale ⊢
    intro hfresh
    apply hstale
    intro m hm hlt
    exact hfresh m hm (lt_of_le_of_lt (Window.le_greatest hlatest hs) hlt)

/-! ## The invariant

Besides the two fields that the law needs, it says what an open transaction has read and may rely on. Under the
row lock this is all of it, since nobody else commits on the ticket; without the lock it is only that rows stay. -/

/-- A transaction that has the ticket `FOR UPDATE` is alone on it. -/
def LocksApart (w : World) : Prop :=
  ∀ tx t tx' t', w.transactions.lookup tx = some t → w.transactions.lookup tx' = some t' → tx ≠ tx' →
    t.phase.holdsTicket = true → t'.phase.touchesTicket = false

/-- What a phase has read is still so. -/
def PhaseOk (ticketId : Uuid) (w : World) : Phase → Prop
  | .inserted _ row => row.ticketId = ticketId ∧ row.isAiSuggestion = false
  | .cached suggestion => ∀ s ∈ suggestion, s ∈ suggestions ticketId w
  | .recached suggestion => suggestion = latestSuggestion ticketId w
  | .reading => AllStale ticketId w
  | .generating thread => AllStale ticketId w ∧ ∀ m, m ∈ thread ↔ m ∈ conversation ticketId w
  | .posting | .looking | .waiting | .locked | .returning _ => True

structure Inv (ticketId : Uuid) (w : World) : Prop where
  locks : LocksApart w
  phases : ∀ tx t, w.transactions.lookup tx = some t → PhaseOk ticketId w t.phase
  /-- a suggestion sorts after its thread -/
  below : ∀ s ∈ suggestions ticketId w, ∀ m ∈ w.generatedFrom s,
    m ∈ conversation ticketId w ∧ sortKey w m < sortKey w s
  /-- a fresh suggestion has seen everything -/
  covers : ∀ s ∈ suggestions ticketId w, isFresh ticketId w s = true →
    ∀ m ∈ conversation ticketId w, m ∈ w.generatedFrom s

/-- Whoever holds the ticket touches it. -/
theorem Phase.touches_of_holds {phase : Phase} (h : phase.touchesTicket = false) :
    phase.holdsTicket = false := by
  cases phase with
  | inserted => rfl
  | _ => exact h

/-- A transaction that does not hold the ticket has read nothing that a commit could change. -/
theorem PhaseOk.mono {w' : World} {phase : Phase} (h : PhaseOk ticketId w phase)
    (hfree : phase.holdsTicket = false)
    (hsub : ∀ s ∈ suggestions ticketId w, s ∈ suggestions ticketId w') :
    PhaseOk ticketId w' phase := by
  cases phase with
  | inserted => exact h
  | cached suggestion => exact fun s hs => hsub s (h s hs)
  | posting => trivial
  | looking => trivial
  | waiting => trivial
  | returning => trivial
  | locked => trivial
  | recached => cases hfree
  | reading => cases hfree
  | generating => cases hfree

/-- The row of a message that `create_message` posts. -/
theorem wp_createMessage_row {scope : OrgScope} {newId : Uuid} {content : String}
    {basedOnSuggestionId : Option Uuid} {db : Db} :
    Tx.wp (Tickets.createMessage scope newId ticketId content basedOnSuggestionId)
      (fun posted _ => posted.message.ticketId = ticketId ∧ posted.message.isAiSuggestion = false)
      (fun _ => True) db := by
  unfold Tickets.createMessage
  rw [Tx.wp_bind]
  apply (looksUp_getOr404 _ _ _ _).wp _ (fun _ _ => trivial)
  intro ticket _
  rw [Tx.wp_bind]
  apply Tickets.looksUp_validateSuggestionReference.wp _ (fun _ _ => trivial)
  intro _ _
  rw [Tx.wp_bind]
  unfold insertMessage
  split
  · simp
  · simp

/-! ## Events that commit nothing

A phase is entered: with the locks of the phase before, or with a lock that is taken now. The guard of the event
says that it can be taken. -/

/-- A transaction goes on to a phase that has no more of the ticket than the one before. -/
theorem LocksApart.setPhase_of_le {phase : Phase} (h : LocksApart w)
    (hl : w.transactions.lookup tx = some t)
    (hholds : phase.holdsTicket = true → t.phase.holdsTicket = true)
    (htouches : phase.touchesTicket = true → t.phase.touchesTicket = true) :
    LocksApart (w.setPhase tx t phase) := by
  intro tx₁ t₁ tx₂ t₂ h₁ h₂ hne hholds₁
  simp only [World.setPhase, Table.lookup_insert] at h₁ h₂
  split at h₁ <;> split at h₂
  next he₁ he₂ => exact absurd (he₁.trans he₂.symm) hne
  -- the one that goes on holds the ticket, as it did before
  next he₁ _ =>
    cases h₁
    exact h tx t tx₂ t₂ hl h₂ (by rw [← he₁]; exact hne) (hholds hholds₁)
  -- another one holds it, so it did not touch it before
  next _ he₂ =>
    cases h₂
    have hfalse := h tx₁ t₁ tx t h₁ hl (by rw [← he₂]; exact hne) hholds₁
    rw [← Bool.not_eq_true]
    intro htrue
    rw [htouches htrue] at hfalse
    cases hfalse
  next => exact h tx₁ t₁ tx₂ t₂ h₁ h₂ hne hholds₁

/-- A transaction that enters a phase: if the phase touches the ticket, nobody has it `FOR UPDATE`, and
    if it has the ticket, nobody touches it. -/
theorem LocksApart.acquire {phase : Phase} (h : LocksApart w)
    (hfree : ∀ tx' t', w.transactions.lookup tx' = some t' →
      (phase.touchesTicket = true → t'.phase.holdsTicket = false) ∧
        (phase.holdsTicket = true → t'.phase.touchesTicket = false)) :
    LocksApart (w.setPhase tx t phase) := by
  intro tx₁ t₁ tx₂ t₂ h₁ h₂ hne hholds₁
  simp only [World.setPhase, Table.lookup_insert] at h₁ h₂
  split at h₁ <;> split at h₂
  next he₁ he₂ => exact absurd (he₁.trans he₂.symm) hne
  next =>
    cases h₁
    exact (hfree tx₂ t₂ h₂).2 hholds₁
  next =>
    cases h₂
    rw [← Bool.not_eq_true]
    intro htouches
    rw [(hfree tx₁ t₁ h₁).1 htouches] at hholds₁
    cases hholds₁
  next => exact h tx₁ t₁ tx₂ t₂ h₁ h₂ hne hholds₁

theorem Inv.setPhase {phase : Phase} (h : Inv ticketId w) (hlocks : LocksApart (w.setPhase tx t phase))
    (hok : PhaseOk ticketId w phase) : Inv ticketId (w.setPhase tx t phase) := by
  refine ⟨hlocks, ?_, h.below, h.covers⟩
  intro tx' t' hl
  simp only [World.setPhase, Table.lookup_insert] at hl
  split at hl
  · cases hl
    exact hok
  · exact h.phases tx' t' hl

theorem Inv.ended (h : Inv ticketId w) (tx : Nat) : Inv ticketId (w.ended tx) := by
  refine ⟨?_, ?_, h.below, h.covers⟩
  · intro tx₁ t₁ tx₂ t₂ h₁ h₂
    exact h.locks tx₁ t₁ tx₂ t₂ (Table.lookup_of_lookup_erase h₁) (Table.lookup_of_lookup_erase h₂)
  · intro tx' t' hl
    exact h.phases tx' t' (Table.lookup_of_lookup_erase hl)

/-- No transaction is in a phase that the select found none in. -/
theorem of_inPhase_eq_nil {p : Phase → Bool} (h : w.inPhase p = []) {tx' : Nat} {t' : Transaction}
    (hl : w.transactions.lookup tx' = some t') : p t'.phase = false :=
  Table.select_eq_nil.mp h tx' t' hl

theorem inv_begin {kind : Kind} {scope : OrgScope} {now : Int} (h : Inv ticketId w) :
    Inv ticketId (w.begin tx kind scope now) := by
  unfold World.begin
  split
  · cases kind with
    | createMessage => exact h.setPhase (h.locks.acquire fun _ _ _ => ⟨nofun, nofun⟩) trivial
    | suggestResponse => exact h.setPhase (h.locks.acquire fun _ _ _ => ⟨nofun, nofun⟩) trivial
  · exact h

theorem inv_post {newId : Uuid} {content : String} {basedOnSuggestionId : Option Uuid}
    (h : Inv ticketId w) : Inv ticketId (w.post ticketId tx newId content basedOnSuggestionId) := by
  unfold World.post
  split
  next t hl =>
    split
    next hguard =>
      split
      next posted db' hexec =>
        have hrow : posted.message.ticketId = ticketId ∧ posted.message.isAiSuggestion = false :=
          (Tx.wp_of_ok hexec).mp wp_createMessage_row
        refine h.setPhase (h.locks.acquire fun tx' t' hl' => ⟨fun _ => ?_, nofun⟩) hrow
        exact of_inPhase_eq_nil hguard.2 hl'
      next => exact h.ended tx
    next => exact h
  next => exact h

theorem inv_look (h : Inv ticketId w) : Inv ticketId (w.look ticketId tx) := by
  unfold World.look
  split
  next t hl =>
    split
    next hphase =>
      split
      next =>
        refine h.setPhase (h.locks.setPhase_of_le hl nofun nofun) ?_
        intro s hs
        exact Window.greatest_mem hs
      next => exact h.ended tx
    next hphase =>
      refine h.setPhase (h.locks.setPhase_of_le hl ?_ ?_) rfl
      · exact fun _ => by rw [hphase]; rfl
      · exact fun _ => by rw [hphase]; rfl
    next => exact h
  next => exact h

theorem inv_check (h : Inv ticketId w) : Inv ticketId (w.check ticketId tx) := by
  unfold World.check
  split
  next t hl =>
    split
    next suggestion hphase =>
      split
      · exact h.setPhase (h.locks.setPhase_of_le hl nofun nofun) trivial
      · exact h.setPhase (h.locks.setPhase_of_le hl nofun nofun) trivial
    next suggestion hphase =>
      have hholds : t.phase.holdsTicket = true := by rw [hphase]; rfl
      have htouches : t.phase.touchesTicket = true := by rw [hphase]; rfl
      split
      · exact h.setPhase (h.locks.setPhase_of_le hl (fun _ => hholds) (fun _ => htouches)) trivial
      next hstale =>
        refine h.setPhase (h.locks.setPhase_of_le hl (fun _ => hholds) (fun _ => htouches)) ?_
        -- under the lock the suggestion is still the latest one
        have hok : PhaseOk ticketId w t.phase := h.phases tx t hl
        rw [hphase] at hok
        have hlatest : suggestion = latestSuggestion ticketId w := hok
        rw [hlatest, Bool.not_eq_true] at hstale
        exact allStale_of_not_servable hstale
    next => exact h
  next => exact h

theorem inv_lock (h : Inv ticketId w) : Inv ticketId (w.lock ticketId tx) := by
  unfold World.lock
  split
  next t hl =>
    split
    next hguard =>
      split
      next =>
        refine h.setPhase (h.locks.acquire fun tx' t' hl' => ?_) trivial
        have hfree := of_inPhase_eq_nil hguard.2 hl'
        exact ⟨fun _ => Phase.touches_of_holds hfree, fun _ => hfree⟩
      next => exact h.ended tx
    next => exact h
  next => exact h

theorem inv_readThread (h : Inv ticketId w) : Inv ticketId (w.readThread ticketId tx) := by
  unfold World.readThread
  split
  next t hl =>
    split
    next hphase =>
      refine h.setPhase (h.locks.setPhase_of_le hl ?_ ?_) ?_
      · exact fun _ => by rw [hphase]; rfl
      · exact fun _ => by rw [hphase]; rfl
      · have hok : PhaseOk ticketId w t.phase := h.phases tx t hl
        rw [hphase] at hok
        exact ⟨hok, fun m => List.mem_insertionSort _⟩
    next => exact h
  next => exact h

/-! ## Commits

A row comes in, stamped with the start of its transaction. It is a message, and makes the fresh suggestions
stale, or a suggestion, which is the only fresh one then. No transaction that goes on has the row lock in either
case. -/

/-- The world with a new row, stamped `startedAt`. -/
def World.withRow (w : World) (id : Uuid) (startedAt : Int) (row : Message) : World :=
  { w with
    db := { w.db with messages := AList.insert id row w.db.messages }
    createdAt := Function.update w.createdAt id startedAt }

section
variable {startedAt : Int} {row : Message}

theorem mem_suggestions_withRow (hfresh : w.db.messages.lookup id = none) :
    s ∈ suggestions ticketId (w.withRow id startedAt row) ↔
      (s = id ∧ row.ticketId = ticketId ∧ row.isAiSuggestion = true) ∨ s ∈ suggestions ticketId w := by
  rw [mem_suggestions, mem_suggestions]
  simp only [World.withRow, Table.lookup_insert]
  by_cases hs : s = id
  · subst hs
    simp [hfresh]
  · simp [hs]

theorem mem_conversation_withRow (hfresh : w.db.messages.lookup id = none) :
    m ∈ conversation ticketId (w.withRow id startedAt row) ↔
      (m = id ∧ row.ticketId = ticketId ∧ row.isAiSuggestion = false) ∨
        m ∈ conversation ticketId w := by
  rw [mem_conversation, mem_conversation]
  simp only [World.withRow, Table.lookup_insert]
  by_cases hm : m = id
  · subst hm
    simp [hfresh]
  · simp [hm]

theorem sortKey_withRow_self : sortKey (w.withRow id startedAt row) id = toLex (startedAt, id) := by
  simp [sortKey, World.withRow]

theorem sortKey_withRow_of_ne (h : m ≠ id) : sortKey (w.withRow id startedAt row) m = sortKey w m := by
  simp [sortKey, World.withRow, h]

/-- A message that is there already is not the new one. -/
theorem ne_of_mem_conversation (hfresh : w.db.messages.lookup id = none)
    (hm : m ∈ conversation ticketId w) : m ≠ id := by
  rintro rfl
  obtain ⟨_, hl, -⟩ := mem_conversation.mp hm
  rw [hfresh] at hl
  cases hl

theorem ne_of_mem_suggestions (hfresh : w.db.messages.lookup id = none)
    (hs : s ∈ suggestions ticketId w) : s ≠ id := by
  rintro rfl
  obtain ⟨_, hl, -⟩ := mem_suggestions.mp hs
  rw [hfresh] at hl
  cases hl

/-- A suggestion that was stale is stale with a row more. -/
theorem isFresh_of_withRow (hfresh : w.db.messages.lookup id = none)
    (hs : s ∈ suggestions ticketId w)
    (h : isFresh ticketId (w.withRow id startedAt row) s = true) : isFresh ticketId w s = true := by
  rw [isFresh_iff] at h ⊢
  intro m hm hlt
  apply h m ((mem_conversation_withRow hfresh).mpr (.inr hm))
  rwa [sortKey_withRow_of_ne (ne_of_mem_suggestions hfresh hs),
    sortKey_withRow_of_ne (ne_of_mem_conversation hfresh hm)]

end

/-- What the commit of a row makes of the world. -/
theorem commitRow_cases {row : Message} (w : World) (tx : Nat) (t : Transaction) (id : Uuid) :
    (w.db.messages.lookup id = none ∧ w.commitRow tx t id row = (w.ended tx).withRow id t.startedAt row) ∨
      (w.db.messages.lookup id ≠ none ∧ w.commitRow tx t id row = w.ended tx) := by
  unfold World.commitRow
  split
  next messages hinsert =>
    obtain ⟨hfresh, rfl⟩ := Table.insertNew_eq_some.mp hinsert
    exact .inl ⟨hfresh, rfl⟩
  next hnone =>
    right
    refine ⟨fun hfresh => ?_, rfl⟩
    rw [Table.insertNew_of_fresh row hfresh] at hnone
    cases hnone

/-- Nobody has the ticket `FOR UPDATE`. -/
def Unlocked (w : World) : Prop :=
  ∀ tx t, w.transactions.lookup tx = some t → t.phase.holdsTicket = false

/-- A transaction on the ticket that ends leaves nobody behind who has it `FOR UPDATE`. -/
theorem LocksApart.unlocked_ended (h : LocksApart w) (hl : w.transactions.lookup tx = some t)
    (htouches : t.phase.touchesTicket = true) : Unlocked (w.ended tx) := by
  intro tx' t' hl'
  have hne : tx' ≠ tx := by
    rintro rfl
    change (w.transactions.erase _).lookup _ = some t' at hl'
    rw [AList.lookup_erase] at hl'
    cases hl'
  rw [← Bool.not_eq_true]
  intro hholds
  rw [h tx' t' tx t (Table.lookup_of_lookup_erase hl') hl hne hholds] at htouches
  cases htouches

section
variable {startedAt : Int} {row : Message}

/-- A new message sorts after every suggestion that was fresh, so that it makes them all stale. -/
theorem Inv.withMessage (h : Inv ticketId w) (hunlocked : Unlocked w)
    (hfresh : w.db.messages.lookup id = none) (hticket : row.ticketId = ticketId)
    (hkind : row.isAiSuggestion = false)
    (hafter : ∀ s ∈ suggestions ticketId w, isFresh ticketId w s = true →
      sortKey w s < toLex (startedAt, id)) :
    Inv ticketId (w.withRow id startedAt row) := by
  have hsuggestions : ∀ s, s ∈ suggestions ticketId (w.withRow id startedAt row) ↔
      s ∈ suggestions ticketId w := by
    intro s
    rw [mem_suggestions_withRow hfresh, hkind]
    simp
  refine ⟨h.locks, ?_, ?_, ?_⟩
  · intro tx t hl
    exact (h.phases tx t hl).mono (hunlocked tx t hl) fun s hs => (hsuggestions s).mpr hs
  · intro s hs m hm
    have hs := (hsuggestions s).mp hs
    obtain ⟨hm, hlt⟩ := h.below s hs m hm
    refine ⟨(mem_conversation_withRow hfresh).mpr (.inr hm), ?_⟩
    rwa [sortKey_withRow_of_ne (ne_of_mem_suggestions hfresh hs),
      sortKey_withRow_of_ne (ne_of_mem_conversation hfresh hm)]
  · -- a suggestion that is still fresh would sort after the new message
    intro s hs hstill
    have hs := (hsuggestions s).mp hs
    have hlt := hafter s hs (isFresh_of_withRow hfresh hs hstill)
    exfalso
    refine isFresh_iff.mp hstill id
      ((mem_conversation_withRow hfresh).mpr (.inl ⟨rfl, hticket, hkind⟩)) ?_
    rwa [sortKey_withRow_self, sortKey_withRow_of_ne (ne_of_mem_suggestions hfresh hs)]

/-- A new suggestion has the whole conversation as its thread and sorts after it, and the others were
    stale before. -/
theorem Inv.withSuggestion {thread : List Uuid} (h : Inv ticketId w) (hunlocked : Unlocked w)
    (hfresh : w.db.messages.lookup id = none) (hkind : row.isAiSuggestion = true)
    (hstale : AllStale ticketId w) (hthread : ∀ m, m ∈ thread ↔ m ∈ conversation ticketId w)
    (hafter : ∀ m ∈ thread, sortKey w m < toLex (startedAt, id)) :
    Inv ticketId { w.withRow id startedAt row with
      generatedFrom := Function.update w.generatedFrom id thread } := by
  have hsuggestions : ∀ s, s ∈ suggestions ticketId (w.withRow id startedAt row) →
      s = id ∨ (s ≠ id ∧ s ∈ suggestions ticketId w) := by
    intro s hs
    rcases (mem_suggestions_withRow hfresh).mp hs with ⟨rfl, -⟩ | hs
    · exact .inl rfl
    · exact .inr ⟨ne_of_mem_suggestions hfresh hs, hs⟩
  have hconversation : ∀ m, m ∈ conversation ticketId (w.withRow id startedAt row) ↔
      m ∈ conversation ticketId w := by
    intro m
    rw [mem_conversation_withRow hfresh, hkind]
    simp
  refine ⟨h.locks, ?_, ?_, ?_⟩
  · intro tx t hl
    refine (h.phases tx t hl).mono (hunlocked tx t hl) ?_
    intro s hs
    show s ∈ suggestions ticketId (w.withRow id startedAt row)
    exact (mem_suggestions_withRow hfresh).mpr (.inr hs)
  · intro s hs m hm
    rcases hsuggestions s hs with rfl | ⟨hne, hs⟩
    · have hm : m ∈ thread := by simpa using hm
      have hconv := (hthread m).mp hm
      refine ⟨(hconversation m).mpr hconv, ?_⟩
      show sortKey (w.withRow s startedAt row) m < sortKey (w.withRow s startedAt row) s
      rw [sortKey_withRow_self, sortKey_withRow_of_ne (ne_of_mem_conversation hfresh hconv)]
      exact hafter m hm
    · have hm : m ∈ w.generatedFrom s := by simpa [hne] using hm
      obtain ⟨hconv, hlt⟩ := h.below s hs m hm
      refine ⟨(hconversation m).mpr hconv, ?_⟩
      show sortKey (w.withRow id startedAt row) m < sortKey (w.withRow id startedAt row) s
      rwa [sortKey_withRow_of_ne hne, sortKey_withRow_of_ne (ne_of_mem_conversation hfresh hconv)]
  · -- the new one has seen everything, and the others are stale
    intro s hs hstill m hm
    have hconv := (hconversation m).mp hm
    rcases hsuggestions s hs with rfl | ⟨hne, hs⟩
    · simpa using (hthread m).mpr hconv
    · have hstill : isFresh ticketId (w.withRow id startedAt row) s = true := hstill
      have hfalse := hstale s hs
      rw [isFresh_of_withRow hfresh hs hstill] at hfalse
      cases hfalse

end

theorem inv_commitMessage (h : Inv ticketId w) (horder : KeepsOrder ticketId w (.commitMessage tx)) :
    Inv ticketId (w.commitMessage tx) := by
  unfold World.commitMessage
  split
  next t hl =>
    split
    next id row hphase =>
      obtain ⟨startedAt, scope, phase⟩ := t
      obtain rfl : phase = .inserted id row := hphase
      obtain ⟨hticket, hkind⟩ : row.ticketId = ticketId ∧ row.isAiSuggestion = false :=
        h.phases tx _ hl
      simp only [KeepsOrder, hl] at horder
      obtain ⟨hfresh, hcommit⟩ | ⟨-, hcommit⟩ := commitRow_cases w tx ⟨startedAt, scope, _⟩ id
      · rw [hcommit]
        exact (h.ended tx).withMessage (h.locks.unlocked_ended hl rfl) hfresh hticket hkind horder
      · rw [hcommit]
        exact h.ended tx
    next => exact h
  next => exact h

theorem inv_store {draft : String} (h : Inv ticketId w)
    (horder : KeepsOrder ticketId w (.store tx id draft)) :
    Inv ticketId (w.store ticketId tx id draft) := by
  unfold World.store
  split
  next t hl =>
    split
    next thread hphase =>
      split
      next hdraft =>
        obtain ⟨startedAt, scope, phase⟩ := t
        obtain rfl : phase = .generating thread := hphase
        obtain ⟨hstale, hthread⟩ : AllStale ticketId w ∧
            ∀ m, m ∈ thread ↔ m ∈ conversation ticketId w := h.phases tx _ hl
        simp only [KeepsOrder, hl] at horder
        obtain ⟨hfresh, hcommit⟩ | ⟨htaken, hcommit⟩ :=
          commitRow_cases w tx ⟨startedAt, scope, .generating thread⟩ id
        · rw [hcommit, if_pos hfresh]
          exact (h.ended tx).withSuggestion (h.locks.unlocked_ended hl rfl) hfresh rfl hstale hthread
            horder
        · rw [hcommit, if_neg htaken]
          exact h.ended tx
      next => exact h.ended tx
    next => exact h
  next => exact h

/-- **Step lemma**. -/
theorem Inv.step (h : Inv ticketId w) {e : Event} (horder : KeepsOrder ticketId w e) :
    Inv ticketId (w.step ticketId e) := by
  cases e with
  | begin => exact inv_begin h
  | post => exact inv_post h
  | commitMessage => exact inv_commitMessage h horder
  | look => exact inv_look h
  | check => exact inv_check h
  | lock => exact inv_lock h
  | readThread => exact inv_readThread h
  | store => exact inv_store h horder
  | finish tx => exact h.ended tx

/-! ## Runs

Nothing is open at the start, and there is no suggestion yet. -/

/-- The invariant is what the law needs. -/
theorem Inv.freshnessLaw (h : Inv ticketId w) (e : Event) : FreshnessLaw ticketId w e := by
  constructor
  · rintro s ⟨tx, t, -, hl, hphase, hfresh⟩
    have hok := h.phases tx t hl
    have hs : s ∈ suggestions ticketId w := by
      rcases hphase with hphase | hphase
      · rw [hphase] at hok
        exact hok s rfl
      · rw [hphase] at hok
        have hlatest : some s = latestSuggestion ticketId w := hok
        exact Window.greatest_mem hlatest.symm
    exact h.covers s hs hfresh
  · rintro ⟨tx, t, suggestion, -, hl, hphase, hnot⟩ s hs
    have hok := h.phases tx t hl
    rw [hphase] at hok
    have hlatest : suggestion = latestSuggestion ticketId w := hok
    rw [hlatest] at hnot
    have hstale := allStale_of_not_servable hnot s hs
    rw [← Bool.not_eq_true, isFresh_iff] at hstale
    push Not at hstale
    obtain ⟨m, hm, hlt⟩ := hstale
    refine ⟨m, hm, fun hmem => ?_⟩
    exact lt_asymm hlt (h.below s hs m hmem).2

/-- **Freshness**: in every run in which stamps agree with commits, a suggestion that is reused has seen
    every committed message, and one is generated only if each that there is has missed one. -/
theorem freshness_of_run {w₀ : World} (hidle : w₀.transactions = ∅)
    (hnone : suggestions ticketId w₀ = []) {events : List Event}
    (horder : Run.AllSteps (World.step ticketId) (KeepsOrder ticketId) w₀ events) :
    Run.AllSteps (World.step ticketId) (FreshnessLaw ticketId) w₀ events := by
  have hstart : Inv ticketId w₀ := by
    refine ⟨?_, ?_, ?_, ?_⟩
    · intro _ _ _ _ hl
      rw [hidle] at hl
      cases hl
    · intro _ _ hl
      rw [hidle] at hl
      cases hl
    · intro s hs
      rw [hnone] at hs
      cases hs
    · intro s hs
      rw [hnone] at hs
      cases hs
  refine (Run.allSteps_of_inv (fun _ _ h horder => h.step horder) hstart horder).mono ?_
  exact fun w e h => h.1.freshnessLaw e

/-! ## Stamps against commits

The tenant's request has begun, and so is stamped, before the agent's; her message is stored while the
agent's suggestion is already committed. -/

namespace Overtaken

def tenant : User where
  organizationId := some 1
  name := "Maria"
  email := "maria@example.com"
  role := .tenant
  passwordHash := none
  status := .active
  phoneNumber := none

def ticket : Ticket where
  organizationId := 1
  userId := 7
  propertyId := none
  contractId := none
  title := "Water damage"
  description := none
  categoryId := none
  urgencyId := none
  channel := .web
  status := .open
  classificationStatus := .pending
  agentId := none
  slaDueAt := none
  closedAt := none
  channelMetadata := none
  createdAt := 0
  classified_has_taxonomy := .inl (by decide)
  closed_at_matches_status := by decide
  title_not_blank := by decide

/-- A ticket of user `7`, without messages. -/
def start : World where
  db :=
    { Db.empty with
      users := AList.insert 7 tenant ∅
      tickets := AList.insert 3 ticket ∅ }
  createdAt _ := 0
  transactions := ∅
  generatedFrom _ := []

def tenantScope : OrgScope := ⟨1, 7, .tenant⟩

def agentScope : OrgScope := ⟨1, 9, .agent⟩

/-- A suggestion request that generates, up to its commit. -/
def suggest (tx : Nat) (id : Uuid) : List Event :=
  [.look tx, .check tx, .lock tx, .look tx, .check tx, .readThread tx, .store tx id "Please call us."]

def message (tx : Nat) (newId : Uuid) : List Event :=
  [.post tx newId "It is leaking again." none, .commitMessage tx]

/-- The message's transaction starts first and commits last. -/
def overtaken : List Event :=
  [.begin 1 .createMessage tenantScope 1000, .begin 2 .suggestResponse agentScope 2000] ++
    suggest 2 50 ++ message 1 40 ++ [.begin 3 .suggestResponse agentScope 3000, .look 3]

/-- The suggestion's transaction starts first, and reads the message's row. -/
def overtaking : List Event :=
  [.begin 2 .suggestResponse agentScope 1000, .begin 1 .createMessage tenantScope 2000] ++
    message 1 40 ++ suggest 2 50 ++
    [.begin 3 .suggestResponse agentScope 3000, .look 3, .check 3, .lock 3, .look 3]

/-- Each transaction commits before the next one starts. -/
def serial : List Event :=
  .begin 1 .createMessage tenantScope 1000 :: message 1 40 ++
    .begin 2 .suggestResponse agentScope 2000 :: suggest 2 50 ++
    [.begin 3 .suggestResponse agentScope 3000, .look 3, .check 3, .finish 3]

end Overtaken

open Overtaken in
/-- **Counterexample**: a suggestion is reused that has not seen a message committed since, and one is
    generated although the one there is has seen everything. -/
theorem freshness_fails :
    ¬ Run.AllSteps (World.step 3) (FreshnessLaw 3) start (overtaken ++ [.check 3]) ∧
      ¬ Run.AllSteps (World.step 3) (FreshnessLaw 3) start (overtaking ++ [.check 3]) := by
  constructor
  · intro h
    obtain ⟨hreuse, -⟩ := Run.allSteps_iff.mp h overtaken (.check 3) [] rfl
    have hmem := hreuse 50
      ⟨3, ⟨3000, agentScope, .cached (some 50)⟩, rfl, by decide +kernel, .inl rfl, by decide +kernel⟩
      40 (by decide +kernel)
    revert hmem
    decide +kernel
  · intro h
    obtain ⟨-, hgenerate⟩ := Run.allSteps_iff.mp h overtaking (.check 3) [] rfl
    obtain ⟨m, hm, hmissed⟩ := hgenerate
      ⟨3, ⟨3000, agentScope, .recached (some 50)⟩, some 50, rfl, by decide +kernel, rfl,
        by decide +kernel⟩
      50 (by decide +kernel)
    have hall : ∀ m ∈ conversation 3 (Run.run (World.step 3) start overtaking),
        m ∈ (Run.run (World.step 3) start overtaking).generatedFrom 50 := by decide +kernel
    exact hmissed (hall m hm)

open Overtaken in
/-- A serial run keeps the order. -/
theorem freshness_of_run_serial :
    Run.AllSteps (World.step 3) (FreshnessLaw 3) start serial :=
  freshness_of_run rfl (by decide +kernel) (by decide +kernel)

end Helpdesk.Rag
