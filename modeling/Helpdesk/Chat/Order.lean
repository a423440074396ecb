import Helpdesk.Chat.Completion
import Helpdesk.Chat.History

/-! # The order of a conversation

`list_for_session` orders by `created_at` and then by the key. The rows of one transaction share their
`created_at`, and keys are drawn at random.

* `listsInAddOrder_iff`: a state lists the messages of a session in the order in which they were added, exactly
  if their keys increase in this order.
* `Copied.reads_iff`: the thread that `create_ticket` copies reads in order, exactly if the keys of the copies
  increase.
* **`keepsOrder_iff`**: every event of a run keeps the order, exactly if all keys are drawn in order.

The order in which rows have been added is no column. It is the order of the table here, which no query sees. -/

namespace Helpdesk.Chat

open Tx Run

/-! ## Orders

`addOrder` is the order of the table, reversed, since the newest row comes first there. A sorted list equals it
exactly if it is sorted itself. -/

/-- The messages of a session in the order in which they were added: a new row comes first in a select. -/
def addOrder (sid : Uuid) (db : Db) : List (Uuid × ChatMessage) :=
  (db.chatMessages.select fun _ m => decide (m.chatSessionId = sid)).reverse

/-- `list_for_session` returns the messages in the order in which they were added. -/
def ListsInAddOrder (sid : Uuid) (db : Db) : Prop :=
  ∀ (scope : OrgScope) (s : ChatSession), db.chatSessions.lookup sid = some s →
    s.organizationId = scope.organizationId → listForSession scope sid db = addOrder sid db

/-- The messages were added in the order of their keys. -/
def KeysIncrease (sid : Uuid) (db : Db) : Prop :=
  (addOrder sid db).Pairwise fun r s => rowKey r < rowKey s

/-- A message with this key comes last in the session. -/
def ComesLast (sid : Uuid) (db : Db) (key : Int ×ₗ Uuid) : Prop := ∀ row ∈ addOrder sid db, rowKey row < key

section
variable {sid id : Uuid} {row : ChatMessage} {db db' : Db}

theorem addOrder_congr (h : db'.chatMessages = db.chatMessages) : addOrder sid db' = addOrder sid db := by
  unfold addOrder
  rw [h]

theorem addOrder_insert (hfresh : db.chatMessages.lookup id = none) (hrow : row.chatSessionId = sid) :
    addOrder sid { db with chatMessages := AList.insert id row db.chatMessages } = addOrder sid db ++ [(id, row)] := by
  show (Table.select _ (AList.insert id row db.chatMessages)).reverse = _
  rw [Table.select_insert_of_fresh row hfresh, if_pos (by simpa using hrow), List.reverse_cons]
  rfl

theorem addOrder_insert_of_ne (hfresh : db.chatMessages.lookup id = none) (hrow : row.chatSessionId ≠ sid) :
    addOrder sid { db with chatMessages := AList.insert id row db.chatMessages } = addOrder sid db := by
  show (Table.select _ (AList.insert id row db.chatMessages)).reverse = _
  rw [Table.select_insert_of_fresh row hfresh, if_neg (by simpa using hrow)]
  rfl

theorem keysIncrease_insert (hfresh : db.chatMessages.lookup id = none) (hrow : row.chatSessionId = sid) :
    KeysIncrease sid { db with chatMessages := AList.insert id row db.chatMessages } ↔
      KeysIncrease sid db ∧ ComesLast sid db (rowKey (id, row)) := by
  unfold KeysIncrease ComesLast
  rw [addOrder_insert hfresh hrow, List.pairwise_append]
  simp

theorem keysIncrease_congr (h : db'.chatMessages = db.chatMessages) : KeysIncrease sid db' ↔ KeysIncrease sid db := by
  unfold KeysIncrease
  rw [addOrder_congr h]

theorem listForSession_eq_iff {scope : OrgScope} {s : ChatSession} (hs : db.chatSessions.lookup sid = some s)
    (horg : s.organizationId = scope.organizationId) :
    listForSession scope sid db = addOrder sid db ↔ KeysIncrease sid db := by
  unfold listForSession KeysIncrease
  simp only [← rowKey_le, hs, horg, decide_true, Bool.and_true]
  refine Window.ordered_eq_iff ?_ (List.reverse_perm _).symm
  have hnodup := Table.select_keys_nodup (fun _ m => decide (m.chatSessionId = sid)) db.chatMessages
  rw [List.nodup_iff_pairwise_ne, List.pairwise_map] at hnodup ⊢
  refine hnodup.imp fun hne heq => hne ?_
  exact (Prod.ext_iff.mp (toLex.injective heq)).2

/-- **Chat order**: the messages of a session are listed in the order in which they were added exactly if
    that is the order of their keys. -/
theorem listsInAddOrder_iff (h : sid ∈ db.chatSessions) : ListsInAddOrder sid db ↔ KeysIncrease sid db := by
  obtain ⟨s, hs⟩ := Table.mem_iff_lookup.mp h
  constructor
  · intro hlists
    have heq : listForSession ⟨s.organizationId, 0, .tenant⟩ sid db = addOrder sid db := hlists _ s hs rfl
    exact (listForSession_eq_iff hs rfl).mp heq
  · exact fun hkeys scope s' hs' horg => (listForSession_eq_iff hs' horg).mpr hkeys

/-- One more message is listed last exactly if its key comes last. -/
theorem listsInAddOrder_insert (h : sid ∈ db.chatSessions) (hfresh : db.chatMessages.lookup id = none)
    (hrow : row.chatSessionId = sid) :
    ListsInAddOrder sid { db with chatMessages := AList.insert id row db.chatMessages } ↔
      KeysIncrease sid db ∧ ComesLast sid db (rowKey (id, row)) := by
  let db' : Db := { db with chatMessages := AList.insert id row db.chatMessages }
  have hsession : sid ∈ db'.chatSessions := h
  exact (listsInAddOrder_iff hsession).trans (keysIncrease_insert hfresh hrow)

theorem KeysIncrease.lists (h : KeysIncrease sid db) : ListsInAddOrder sid db :=
  fun _ _ hs horg => (listForSession_eq_iff hs horg).mpr h

end

/-! ## The thread of a ticket

The copies of a conversation are inserted one by one under keys of their own, and share their `created_at`. What
reads them sorts by the key. -/

/-- The messages that a call has added to a ticket, as `list_messages` returns them: they share their
    `created_at`. -/
def copiedThread (ticketId : Uuid) (db db' : Db) : List (Uuid × Message) :=
  (db'.messages.select fun id m => decide (m.ticketId = ticketId) && decide (db.messages.lookup id = none))
    |>.insertionSort fun r s => r.1 ≤ s.1

/-- What a ticket is told of a conversation. -/
def conversation (sid : Uuid) (db : Db) : List (AuthorType × String) :=
  ((addOrder sid db).filter (·.2.role = .user)).map (fun row => (.user, row.2.content)) ++ [(.bot, chatOriginNote)]

/-- The thread reads in the order of the conversation. -/
def ReadsInOrder (sid : Uuid) (d : ToolDraws) (db db' : Db) : Prop :=
  (copiedThread d.ticketId db db').map (fun row => (row.1, row.2.authorType, row.2.content)) =
    (conversation sid db).mapIdx fun i item => (d.messageIds i, item)

/-- The keys of the copies are drawn in increasing order. -/
def CopiesIncrease (sid : Uuid) (d : ToolDraws) (db : Db) : Prop :=
  (List.range (conversation sid db).length).Pairwise fun i j => d.messageIds i < d.messageIds j

/-- The copying of a call. -/
structure Copied (ctx : ToolContext) (d : ToolDraws) (db db' : Db) : Prop where
  listed : ∃ s, db.chatSessions.lookup ctx.chatSessionId = some s ∧ s.organizationId = ctx.scope.organizationId
  copies : ∃ db₁ db₂, db₁.messages = db.messages ∧ db₁.chatMessages = db.chatMessages ∧
    db₁.chatSessions = db.chatSessions ∧
    exec (copyChatMessagesToTicket ctx d.messageIds d.ticketId) db₁ = (.ok (), db₂) ∧ db'.messages = db₂.messages

section
variable {env : Env} {ctx : ToolContext} {d : ToolDraws} {db db' : Db} {sid : Uuid}

theorem addMessage_ok {id ticketId : Uuid} {authorType : AuthorType} {content : String}
    (h : exec (addMessage id ticketId authorType content) db = (.ok (), db')) :
    db.messages.lookup id = none ∧ ∃ row : Message, row.ticketId = ticketId ∧ row.authorType = authorType ∧
      row.content = content ∧ db' = { db with messages := AList.insert id row db.messages } := by
  obtain ⟨row, db₁, hinsert, hdone⟩ := Tx.bind_ok.mp h
  cases hdone
  unfold insertMessage at hinsert
  split at hinsert
  · simp only [exec_bind, exec_store] at hinsert
    cases hnew : db.messages.insertNew id _ with
    | none =>
      rw [hnew] at hinsert
      cases hinsert
    | some messages =>
      rw [hnew] at hinsert
      obtain ⟨hfresh, rfl⟩ := Table.insertNew_eq_some.mp hnew
      simp only [exec_orRaise_some] at hinsert
      rw [exec_ite] at hinsert
      split at hinsert
      · cases hinsert
        exact ⟨hfresh, _, rfl, rfl, rfl, rfl⟩
      · cases hinsert
  · cases hinsert

/-- The messages that are added, in this order. -/
theorem addMessages_ok {messageIds : Nat → Uuid} {ticketId : Uuid} {items : List (AuthorType × String)} {n : Nat}
    (h : exec (addMessages messageIds ticketId n items) db = (.ok (), db')) :
    ∃ rows : List (Uuid × Message),
      rows.map (fun row => (row.1, row.2.authorType, row.2.content)) =
        items.mapIdx (fun i item => (messageIds (n + i), item)) ∧
      (∀ row ∈ rows, row.2.ticketId = ticketId ∧ db.messages.lookup row.1 = none) ∧
      ∀ p : Uuid → Message → Bool, (∀ row ∈ rows, p row.1 row.2 = true) →
        db'.messages.select p = rows.reverse ++ db.messages.select p := by
  induction items generalizing n db with
  | nil =>
    cases h
    exact ⟨[], rfl, by simp, fun p _ => rfl⟩
  | cons item items ih =>
    obtain ⟨authorType, content⟩ := item
    obtain ⟨_, db₁, hadd, hrest⟩ := Tx.bind_ok.mp h
    obtain ⟨hfresh, row, hticket, hauthor, hcontent, rfl⟩ := addMessage_ok hadd
    obtain ⟨rows, hrows, hnew, hselect⟩ := ih hrest
    refine ⟨(messageIds n, row) :: rows, ?_, ?_, ?_⟩
    · rw [List.map_cons, hrows, List.mapIdx_cons, hauthor, hcontent]
      simp [Nat.add_assoc, Nat.add_comm 1]
    · intro row' hrow'
      rcases List.mem_cons.mp hrow' with rfl | hrow'
      · exact ⟨hticket, hfresh⟩
      · obtain ⟨hticket', hfresh'⟩ := hnew row' hrow'
        have hlookup : (AList.insert (messageIds n) row db.messages).lookup row'.1 = none := hfresh'
        rw [Table.lookup_insert] at hlookup
        split at hlookup
        · cases hlookup
        · exact ⟨hticket', hlookup⟩
    · intro p hp
      rw [hselect p fun row' hrow' => hp row' (List.mem_cons_of_mem _ hrow')]
      show rows.reverse ++ Table.select p (AList.insert (messageIds n) row db.messages) = _
      rw [Table.select_insert_of_fresh row hfresh, if_pos (hp _ List.mem_cons_self), List.reverse_cons,
        List.append_assoc]
      rfl

/-- **A copied thread** reads in order exactly if its keys increase. -/
theorem Copied.reads_iff (h : Copied ctx d db db') (hkeys : KeysIncrease ctx.chatSessionId db) :
    ReadsInOrder ctx.chatSessionId d db db' ↔ CopiesIncrease ctx.chatSessionId d db := by
  obtain ⟨s, hs, horg⟩ := h.listed
  obtain ⟨db₁, db₂, hmessages, hchat, hsessions, hexec, hmessages'⟩ := h.copies
  -- the conversation is read in the order in which it was added
  have hlisted : listForSession ctx.scope ctx.chatSessionId db₁ = addOrder ctx.chatSessionId db := by
    rw [← addOrder_congr hchat]
    exact ((keysIncrease_congr hchat).mpr hkeys).lists _ _ (by rw [hsessions]; exact hs) horg
  unfold copyChatMessagesToTicket at hexec
  rw [exec_bind, exec_store] at hexec
  dsimp only at hexec
  rw [hlisted] at hexec
  obtain ⟨rows, hmapped, hnew, hselect⟩ := addMessages_ok hexec
  have hrows : rows.map (fun row => (row.1, row.2.authorType, row.2.content)) =
      (conversation ctx.chatSessionId db).mapIdx fun i item => (d.messageIds i, item) := by
    simp only [Nat.zero_add] at hmapped
    exact hmapped
  -- the new rows of the ticket are the copies
  have hselected : db'.messages.select (fun id m => decide (m.ticketId = d.ticketId) &&
      decide (db.messages.lookup id = none)) = rows.reverse := by
    have hempty : db.messages.select (fun id m => decide (m.ticketId = d.ticketId) &&
        decide (db.messages.lookup id = none)) = [] := by
      rw [Table.select_eq_nil]
      intro id m hm
      simp [hm]
    rw [hmessages', hselect, hmessages, hempty, List.append_nil]
    intro row hrow
    obtain ⟨hticket, hfresh⟩ := hnew row hrow
    rw [hmessages] at hfresh
    simp [hticket, hfresh]
  -- their keys are those that have been drawn, in this order
  have hids : rows.map Prod.fst = (List.range (conversation ctx.chatSessionId db).length).map d.messageIds := by
    have hfst : rows.map Prod.fst = (rows.map fun row => (row.1, row.2.authorType, row.2.content)).map Prod.fst := by
      rw [List.map_map]
      rfl
    rw [hfst, hrows]
    exact List.ext_getElem (by simp) (by simp)
  have hnodup : (rows.reverse.map Prod.fst).Nodup := hselected ▸ Table.select_keys_nodup _ _
  have hincrease : CopiesIncrease ctx.chatSessionId d db ↔ rows.Pairwise fun r s => r.1 < s.1 := by
    unfold CopiesIncrease
    rw [← List.pairwise_map (f := d.messageIds) (R := fun r s => r < s), ← hids, List.pairwise_map]
  rw [hincrease]
  unfold ReadsInOrder copiedThread
  rw [hselected]
  constructor
  · -- what reads in order is sorted, and no key comes twice
    intro hreads
    have hsorted : rows.map Prod.fst = (rows.reverse.insertionSort fun r s => r.1 ≤ s.1).map Prod.fst := by
      have hfst := congrArg (List.map Prod.fst) (hreads.trans hrows.symm)
      rw [List.map_map, List.map_map] at hfst
      exact hfst.symm
    have hle : (rows.map Prod.fst).Pairwise fun i j => i ≤ j := by
      rw [hsorted, List.pairwise_map]
      exact Window.pairwise_ordered Prod.fst _
    rw [List.map_reverse, List.nodup_reverse] at hnodup
    rw [← List.pairwise_map (f := Prod.fst) (R := fun i j => i < j)]
    exact (hle.and hnodup).imp fun h => lt_of_le_of_ne h.1 h.2
  · intro hrise
    rw [(Window.ordered_eq_iff hnodup (List.reverse_perm rows)).mpr hrise]
    exact hrows

/-- `create_ticket` asks back, or copies the conversation to its ticket. -/
theorem createTicket_copies {title description : Json} {result : JsonObject}
    (h : exec (createTicket env ctx d title description) db = (.ok result, db')) :
    db' = db ∨ Copied ctx d db db' := by
  suffices hwp : Tx.wp (createTicket env ctx d title description) (fun _ db' => db' = db ∨ Copied ctx d db db')
      (fun _ => True) db from (Tx.wp_of_ok h).mp hwp
  unfold createTicket
  rw [Tx.wp_bind, Tx.wp_store, Tx.wp_bind]
  apply (looksUp_getOr404 _ _ _ _).wp _ fun _ _ => trivial
  intro chatSession hget
  obtain ⟨-, hs, horg⟩ := getOr404_ok.mp hget
  split
  · rw [Tx.wp_bind]
    apply (looksUp_argumentText _).wp _ fun _ _ => trivial
    intro title _
    rw [Tx.wp_bind]
    apply (looksUp_asNullableText _).wp _ fun _ _ => trivial
    intro description _
    rw [Tx.wp_bind]
    apply Tickets.wp_createTicket_columns _ fun _ _ _ => trivial
    intro ticket _ _ _ _ _ _ _
    rw [Tx.wp_bind]
    apply Tx.wp_of_forall_ok
    intro _ db₂ hcopied
    rw [Tx.wp_bind, wp_raiseConstraint]
    refine ⟨fun linked _ => ?_, fun _ _ => trivial⟩
    rw [Tx.wp_bind, setChatSession, Tx.wp_bind, Tx.wp_store, Tx.wp_write, Tx.wp_pure]
    refine .inr ⟨⟨chatSession, hs, by simpa using horg⟩, ?_⟩
    exact ⟨{ db with tickets := AList.insert d.ticketId ticket db.tickets }, db₂, rfl, rfl, rfl, hcopied, rfl⟩
  · rw [Tx.wp_pure]
    exact .inl rfl

end

/-! ## Calls

A call adds a message with its result, and `create_ticket` copies besides. `CallKeepsOrder` is about what is read
afterwards, `CallInKeyOrder` about the keys that are drawn. -/

/-- The call creates a ticket from the conversation. -/
structure CreatesTicket (d : ToolDraws) (call : ToolCall) (db db' : Db) : Prop where
  name : call.name = "create_ticket"
  absent : d.ticketId ∉ db.tickets
  created : d.ticketId ∈ db'.tickets

/-- After the call, the conversation is in order, and so is the thread of a ticket that it has created. -/
def CallKeepsOrder (env : Env) (ctx : ToolContext) (createdAt : Int) (db : Db) (rowId : Uuid) (d : ToolDraws)
    (call : ToolCall) : Prop :=
  ∀ message db', exec (runToolCall env ctx createdAt rowId d call) db = (.ok message, db') →
    ListsInAddOrder ctx.chatSessionId db' ∧
      (CreatesTicket d call db db' → ReadsInOrder ctx.chatSessionId d db db')

/-- The keys that the call draws are in order. -/
def CallInKeyOrder (env : Env) (ctx : ToolContext) (createdAt : Int) (db : Db) (rowId : Uuid) (d : ToolDraws)
    (call : ToolCall) : Prop :=
  ∀ message db', exec (runToolCall env ctx createdAt rowId d call) db = (.ok message, db') →
    ComesLast ctx.chatSessionId db (toLex (createdAt, rowId)) ∧
      (CreatesTicket d call db db' → CopiesIncrease ctx.chatSessionId d db)

section
variable {env : Env} {ctx : ToolContext} {createdAt : Int} {d : ToolDraws} {db db' : Db} {rowId sid : Uuid}
  {call : ToolCall} {message : OpenaiMessage}

/-- **What a call adds**: one message to the conversation, after its handler has run. -/
theorem runToolCall_adds (h : exec (runToolCall env ctx createdAt rowId d call) db = (.ok message, db')) :
    ∃ items result db₁, ∃ row : ChatMessage, exec (callTool env ctx d call.name items) db = (.ok result, db₁) ∧
      ToolFrame ctx db db₁ ∧ db.chatMessages.lookup rowId = none ∧ row.chatSessionId = ctx.chatSessionId ∧
      row.createdAt = createdAt ∧ db' = { db₁ with chatMessages := AList.insert rowId row db₁.chatMessages } := by
  obtain ⟨args, db₀, hloads, h₁⟩ := Tx.bind_ok.mp h
  obtain rfl : db = db₀ := by
    cases hargs : env.loads (if call.arguments = "" then "\x7b\x7d" else call.arguments) with
    | none =>
      rw [hargs] at hloads
      cases hloads
    | some v =>
      rw [hargs] at hloads
      cases hloads
      rfl
  rw [exec_ite] at h₁
  split at h₁
  · obtain ⟨items, db₀, hkeywords, h₂⟩ := Tx.bind_ok.mp h₁
    obtain rfl : db = db₀ := by
      cases args with
      | obj items =>
        cases hkeywords
        rfl
      | _ => cases hkeywords
    obtain ⟨result, db₁, hcalled, h₃⟩ := Tx.bind_ok.mp h₂
    obtain ⟨_, db₂, hadd, hdone⟩ := Tx.bind_ok.mp h₃
    cases hdone
    have hframe : ToolFrame ctx db db₁ := (frame_callTool _ _).of_ok hcalled
    obtain ⟨hfresh, row, hsession, hcreated, -, -, rfl⟩ := addChatMessage_ok hadd
    rw [hframe.chatMessages] at hfresh
    exact ⟨items, result, db₁, row, hcalled, hframe, hfresh, hsession, hcreated, rfl⟩
  · cases h₁

theorem CreatesTicket.copied {items : JsonObject} {result : JsonObject} (h : CreatesTicket d call db db')
    (hcalled : exec (callTool env ctx d call.name items) db = (.ok result, db')) : Copied ctx d db db' := by
  rw [h.name] at hcalled
  obtain ⟨values, db₀, hbound, hhandled⟩ := Tx.bind_ok.mp hcalled
  have hbinds : LooksUp (bindArguments ["title", "description"] [] items) :=
    LooksUp.ite (LooksUp.bind (LooksUp.orRaise _ (by simp)) fun _ => LooksUp.pure _) (LooksUp.raise (by simp))
  obtain rfl : db = db₀ := (hbinds.same hbound).symm
  split at hhandled
  · refine (createTicket_copies hhandled).resolve_left fun hsame => h.absent ?_
    rw [← hsame]
    exact h.created
  · cases hhandled

/-- **One call**: it keeps the order exactly if its keys are drawn in order. -/
theorem callKeepsOrder_iff (hsession : ctx.chatSessionId ∈ db.chatSessions)
    (hkeys : KeysIncrease ctx.chatSessionId db) :
    CallKeepsOrder env ctx createdAt db rowId d call ↔ CallInKeyOrder env ctx createdAt db rowId d call := by
  unfold CallKeepsOrder CallInKeyOrder
  refine forall_congr' fun message => forall_congr' fun db' => imp_congr_right fun h => ?_
  obtain ⟨items, result, db₁, row, hcalled, hframe, hfresh, hrow, hcreated, rfl⟩ := runToolCall_adds h
  have hfresh₁ : db₁.chatMessages.lookup rowId = none := by
    rw [hframe.chatMessages]
    exact hfresh
  have hsession' : ctx.chatSessionId ∈ db₁.chatSessions := by
    obtain ⟨s, hs⟩ := Table.mem_iff_lookup.mp hsession
    obtain ⟨s', hs', -⟩ := hframe.session s hs
    exact Table.mem_iff_lookup.mpr ⟨s', hs'⟩
  have hkeys₁ : KeysIncrease ctx.chatSessionId db₁ := (keysIncrease_congr hframe.chatMessages).mpr hkeys
  have hlast : ComesLast ctx.chatSessionId db₁ (rowKey (rowId, row)) ↔
      ComesLast ctx.chatSessionId db (toLex (createdAt, rowId)) := by
    unfold ComesLast
    rw [addOrder_congr hframe.chatMessages, rowKey, hcreated]
  have hlists : ListsInAddOrder ctx.chatSessionId
      { db₁ with chatMessages := AList.insert rowId row db₁.chatMessages } ↔
        ComesLast ctx.chatSessionId db (toLex (createdAt, rowId)) := by
    rw [listsInAddOrder_insert hsession' hfresh₁ hrow, and_iff_right hkeys₁, hlast]
  refine and_congr hlists (imp_congr_right fun hcreates => ?_)
  have hcreates₁ : CreatesTicket d call db db₁ := ⟨hcreates.name, hcreates.absent, hcreates.created⟩
  exact (hcreates₁.copied hcalled).reads_iff hkeys

/-- What a call leaves, if its keys are drawn in order. -/
theorem CallInKeyOrder.leaves (h : CallInKeyOrder env ctx createdAt db rowId d call)
    (hsession : ctx.chatSessionId ∈ db.chatSessions) (hkeys : KeysIncrease ctx.chatSessionId db)
    (hexec : exec (runToolCall env ctx createdAt rowId d call) db = (.ok message, db')) :
    ctx.chatSessionId ∈ db'.chatSessions ∧ KeysIncrease ctx.chatSessionId db' := by
  obtain ⟨hlists, -⟩ := (callKeepsOrder_iff hsession hkeys).mpr h message db' hexec
  have hframe : TurnFrame ctx db db' := (frame_runToolCall _ _ _).of_ok hexec
  obtain ⟨s, hs⟩ := Table.mem_iff_lookup.mp hsession
  obtain ⟨s', hs', -⟩ := hframe.session s hs
  have hsession' : ctx.chatSessionId ∈ db'.chatSessions := Table.mem_iff_lookup.mpr ⟨s', hs'⟩
  exact ⟨hsession', (listsInAddOrder_iff hsession').mp hlists⟩

/-- **The calls of a completion**. -/
theorem alongCalls_keepsOrder_iff {draws : ReplyDraws} {n : Nat} {calls : List ToolCall}
    (hsession : ctx.chatSessionId ∈ db.chatSessions) (hkeys : KeysIncrease ctx.chatSessionId db) :
    AlongCalls env ctx createdAt draws (CallKeepsOrder env ctx createdAt) n calls db ↔
      AlongCalls env ctx createdAt draws (CallInKeyOrder env ctx createdAt) n calls db := by
  induction calls generalizing n db with
  | nil => exact Iff.rfl
  | cons call rest ih =>
    rw [AlongCalls, AlongCalls, callKeepsOrder_iff hsession hkeys]
    refine and_congr_right fun hcall => forall_congr' fun message => forall_congr' fun db' => ?_
    refine imp_congr_right fun hexec => ?_
    obtain ⟨hsession', hkeys'⟩ := hcall.leaves hsession hkeys hexec
    exact ih hsession' hkeys'

/-- What the calls of a completion leave. -/
theorem alongCalls_leave {draws : ReplyDraws} {n : Nat} {calls : List ToolCall} {messages : List OpenaiMessage}
    (h : AlongCalls env ctx createdAt draws (CallInKeyOrder env ctx createdAt) n calls db)
    (hsession : ctx.chatSessionId ∈ db.chatSessions) (hkeys : KeysIncrease ctx.chatSessionId db)
    (hexec : exec (runToolCalls env ctx createdAt draws n calls) db = (.ok messages, db')) :
    KeysIncrease ctx.chatSessionId db' := by
  induction calls generalizing n db messages with
  | nil =>
    cases hexec
    exact hkeys
  | cons call rest ih =>
    obtain ⟨message, db₁, hcalled, hrest⟩ := Tx.bind_ok.mp hexec
    obtain ⟨messages', db₂, hcalls, hdone⟩ := Tx.bind_ok.mp hrest
    cases hdone
    obtain ⟨hsession', hkeys'⟩ := h.1.leaves hsession hkeys hcalled
    exact ih (h.2 message db₁ hcalled) hsession' hkeys' hcalls

end

/-! ## Turns

An event can be opening a turn, an answer of the model, or an abort. `KeepsOrder` has what an outside reader sees,
what the open turn sees itself, with what history it is opened, and its calls. `Orderly` is the invariant. -/

/-- The history that a turn is opened with ends with the message that opens it, whatever its length is. -/
def HistoryEnds (env : Env) (settings : Settings) (sid : Uuid) (w : World) (e : Event) : Prop :=
  ∀ ctx d content excerpts t, e = .openTurn ctx d content excerpts → ctx.chatSessionId = sid → w.turn = none →
    (e.step env settings w).turn = some t → ∃ row, t.db.chatMessages.lookup d.messageId = some row ∧
      row.role = .user ∧ row.content = content ∧
      ∀ turns, 0 < turns → (recentHistory ctx.scope sid turns t.db).getLast? = some row

/-- The completion has its calls run. -/
def RunsCalls (settings : Settings) (t : Turn) (completion : Completion) : Prop :=
  t.round < settings.chatMaxToolRounds ∧ completion.toolCalls ≠ []

/-- The calls of a completion keep the order. -/
def CallsKeepOrder (env : Env) (settings : Settings) (sid : Uuid) (w : World) (e : Event) : Prop :=
  ∀ completion d t, e = .reply completion d → w.turn = some t → t.ctx.chatSessionId = sid →
    RunsCalls settings t completion →
    AlongCalls env t.ctx t.createdAt d (CallKeepsOrder env t.ctx t.createdAt) 0 completion.toolCalls t.db

/-- The event keeps the conversation in the order in which it was added, for those who are outside of the
    turn and for the turn itself. -/
structure KeepsOrder (env : Env) (settings : Settings) (sid : Uuid) (w : World) (e : Event) : Prop where
  stored : ListsInAddOrder sid (e.step env settings w).db
  opened : ∀ t, (e.step env settings w).turn = some t → ListsInAddOrder sid t.db
  history : HistoryEnds env settings sid w e
  calls : CallsKeepOrder env settings sid w e

/-- The keys of the rows that the event adds are in order. -/
def InKeyOrder (env : Env) (settings : Settings) (sid : Uuid) (w : World) : Event → Prop
  | .openTurn ctx d content _ =>
    ctx.chatSessionId = sid → w.turn = none → Accepts ctx d content w.db →
      ComesLast sid w.db (toLex (d.createdAt, d.messageId))
  | .reply completion d =>
    ∀ t, w.turn = some t → t.ctx.chatSessionId = sid →
      (RunsCalls settings t completion →
        AlongCalls env t.ctx t.createdAt d (CallInKeyOrder env t.ctx t.createdAt) 0 completion.toolCalls t.db) ∧
      (¬ RunsCalls settings t completion →
        Completes (closeTurn env t.ctx t.createdAt d (completion.content.getD "") t.lowConfidence t.toolsUsed) t.db →
          ComesLast sid t.db (toLex (t.createdAt, d.messageId)))
  | .abort => True

/-- The conversation is in order, and an open turn has its session. -/
structure Orderly (sid : Uuid) (w : World) : Prop where
  stored : KeysIncrease sid w.db
  opened : ∀ t, w.turn = some t → KeysIncrease sid t.db ∧ t.ctx.chatSessionId ∈ t.db.chatSessions

section
variable {env : Env} {settings : Settings} {ctx : ToolContext} {db db' : Db} {sid : Uuid} {w : World}

theorem openTurn_adds {d : OpenDraws} {content : String} {excerpts : List String}
    {opened : List OpenaiMessage × List String}
    (h : exec (openTurn settings ctx d content excerpts) db = (.ok opened, db')) :
    ctx.chatSessionId ∈ db.chatSessions ∧ db.chatMessages.lookup d.messageId = none ∧ ∃ row : ChatMessage,
      row.chatSessionId = ctx.chatSessionId ∧ row.role = .user ∧ row.content = content ∧
      row.createdAt = d.createdAt ∧ db' = { db with chatMessages := AList.insert d.messageId row db.chatMessages } := by
  obtain ⟨chatSession, _, hget, hrest⟩ := Tx.bind_ok.mp h
  obtain ⟨rfl, hs, -⟩ := getOr404_ok.mp hget
  obtain ⟨_, db₁, hadd, hbuild⟩ := Tx.bind_ok.mp hrest
  obtain ⟨hfresh, row, hsid, hcreated, hrole, hcontent, rfl⟩ := addChatMessage_ok hadd
  cases hbuild
  exact ⟨Table.mem_iff_lookup.mpr ⟨_, hs⟩, hfresh, row, hsid, hrole, hcontent, hcreated, rfl⟩

/-- A turn of another session adds nothing. -/
theorem runToolCalls_elsewhere {createdAt : Int} {d : ReplyDraws} {n : Nat} {calls : List ToolCall}
    {messages : List OpenaiMessage} (hne : ctx.chatSessionId ≠ sid)
    (h : exec (runToolCalls env ctx createdAt d n calls) db = (.ok messages, db')) :
    addOrder sid db' = addOrder sid db := by
  induction calls generalizing n db messages with
  | nil =>
    cases h
    rfl
  | cons call rest ih =>
    obtain ⟨message, db₁, hcalled, hrest⟩ := Tx.bind_ok.mp h
    obtain ⟨messages', db₂, hcalls, hdone⟩ := Tx.bind_ok.mp hrest
    cases hdone
    obtain ⟨items, result, db₀, row, -, hframe, hfresh, hrow, -, rfl⟩ := runToolCall_adds hcalled
    rw [← hframe.chatMessages] at hfresh
    rw [ih hcalls, addOrder_insert_of_ne hfresh (by rw [hrow]; exact hne), addOrder_congr hframe.chatMessages]

theorem closeTurn_elsewhere {createdAt : Int} {d : ReplyDraws} {replyText : String} {lowConfidence : Bool}
    {toolsUsed : List String} {result : ChatTurnResult} (hne : ctx.chatSessionId ≠ sid)
    (h : exec (closeTurn env ctx createdAt d replyText lowConfidence toolsUsed) db = (.ok result, db')) :
    addOrder sid db' = addOrder sid db := by
  obtain ⟨db₁, hadd, hframe⟩ := closeTurn_adds h
  obtain ⟨hfresh, row, hrow, -, -, -, rfl⟩ := addChatMessage_ok hadd
  rw [addOrder_congr hframe.chatMessages, addOrder_insert_of_ne hfresh (by rw [hrow]; exact hne)]

/-- **One event** leaves the conversation in order, if its keys are. -/
theorem Orderly.step {e : Event} (h : Orderly sid w) (he : InKeyOrder env settings sid w e) :
    Orderly sid (e.step env settings w) := by
  cases e with
  | openTurn ctx d content excerpts =>
    simp only [Event.step, World.startTurn]
    split
    · exact h
    next hnone =>
      split
      next messages tools db' hopen =>
        refine ⟨h.stored, fun t ht => ?_⟩
        cases ht
        obtain ⟨hsession, hfresh, row, hrow, -, -, hcreated, rfl⟩ := openTurn_adds hopen
        refine ⟨?_, hsession⟩
        -- the turn is on this session or on another one, which adds nothing to it
        by_cases hsid : ctx.chatSessionId = sid
        · have hlast := he hsid hnone (openTurn_ok hopen).1
          refine (keysIncrease_insert hfresh (hrow.trans hsid)).mpr ⟨h.stored, ?_⟩
          rwa [rowKey, hcreated]
        · unfold KeysIncrease
          rw [addOrder_insert_of_ne hfresh (by rw [hrow]; exact hsid)]
          exact h.stored
      · exact h
  | reply completion d =>
    simp only [Event.step]
    split
    next t hturn =>
      obtain ⟨hkeys, hsession⟩ := h.opened t hturn
      have hclosed : ∀ db', KeysIncrease sid db' → Orderly sid ⟨db', none⟩ :=
        fun db' hdb' => ⟨hdb', fun t ht => by cases ht⟩
      unfold World.reply
      split
      -- the calls of a completion
      next hruns =>
        unfold World.callTools
        split
        next results db' hrun =>
          refine ⟨h.stored, fun t' ht' => ?_⟩
          cases ht'
          have hframe : TurnFrame t.ctx t.db db' := (frame_runToolCalls _ _ _).of_ok hrun
          obtain ⟨s, hs⟩ := Table.mem_iff_lookup.mp hsession
          obtain ⟨s', hs', -⟩ := hframe.session s hs
          refine ⟨?_, Table.mem_iff_lookup.mpr ⟨s', hs'⟩⟩
          by_cases hsid : t.ctx.chatSessionId = sid
          · have halong := (he t hturn hsid).1 hruns
            subst hsid
            exact alongCalls_leave halong hsession hkeys hrun
          · unfold KeysIncrease
            rw [runToolCalls_elsewhere hsid hrun]
            exact hkeys
        · exact hclosed w.db h.stored
      -- the reply, and the commit
      next hruns =>
        unfold World.close
        split
        next result db' hclose =>
          apply hclosed
          by_cases hsid : t.ctx.chatSessionId = sid
          · have hlast := (he t hturn hsid).2 hruns ⟨result, db', hclose⟩
            obtain ⟨db₁, hadd, hframe⟩ := closeTurn_adds hclose
            obtain ⟨hfresh, row, hrow, hcreated, -, -, rfl⟩ := addChatMessage_ok hadd
            rw [keysIncrease_congr hframe.chatMessages, keysIncrease_insert hfresh (hrow.trans hsid), rowKey, hcreated]
            exact ⟨hkeys, hlast⟩
          · unfold KeysIncrease
            rw [closeTurn_elsewhere hsid hclose]
            exact hkeys
        · exact hclosed w.db h.stored
    next hnone => exact h
  | abort => exact ⟨h.stored, fun t ht => by cases ht⟩

/-- The history ends with the message that has been added last. -/
theorem Orderly.historyEnds {e : Event} (h : Orderly sid (e.step env settings w)) :
    HistoryEnds env settings sid w e := by
  rintro ctx d content excerpts t rfl rfl hnone ht
  obtain ⟨hkeys, -⟩ := h.opened t ht
  simp only [Event.step, World.startTurn, hnone] at ht
  split at ht
  next messages tools db' hopen =>
    cases ht
    obtain ⟨⟨s, hs, horg⟩, -⟩ := (openTurn_ok hopen).1
    obtain ⟨-, hfresh, row, hrow, hrole, hcontent, -, rfl⟩ := openTurn_adds hopen
    refine ⟨row, AList.lookup_insert _, hrole, hcontent, fun turns hturns => ?_⟩
    have hlist := hkeys.lists ctx.scope s hs horg
    unfold recentHistory
    rw [if_pos hturns, hlist, addOrder_insert hfresh hrow, List.getLast?_map,
      Window.getLast?_latest_concat hturns, Option.map_some]
  · rw [hnone] at ht
    cases ht

/-- **One event** keeps the order exactly if its keys are in order. -/
theorem Orderly.keeps_iff {e : Event} (h : Orderly sid w) :
    KeepsOrder env settings sid w e ↔ InKeyOrder env settings sid w e := by
  constructor
  · -- from what is listed to the keys
    intro hkeeps
    cases e with
    | openTurn ctx d content excerpts =>
      intro hsid hnone haccepts
      obtain ⟨messages, tools, db', hopen⟩ := openTurn_of_accepts settings excerpts haccepts
      have hlists := hkeeps.opened
      simp only [Event.step, World.startTurn, hnone, hopen] at hlists
      obtain ⟨hsession, hfresh, row, hrow, -, -, hcreated, rfl⟩ := openTurn_adds hopen
      rw [hsid] at hsession
      obtain ⟨-, hlast⟩ := (listsInAddOrder_insert hsession hfresh (hrow.trans hsid)).mp (hlists _ rfl)
      rwa [rowKey, hcreated] at hlast
    | reply completion d =>
      intro t hturn hsid
      obtain ⟨hkeys, hsession⟩ := h.opened t hturn
      constructor
      · intro hruns
        subst hsid
        exact (alongCalls_keepsOrder_iff hsession hkeys).mp (hkeeps.calls completion d t rfl hturn rfl hruns)
      · rintro hruns ⟨result, db', hclose⟩
        have hlists := hkeeps.stored
        simp only [Event.step, hturn, World.reply] at hlists
        unfold RunsCalls at hruns
        rw [if_neg hruns] at hlists
        simp only [World.close, hclose] at hlists
        obtain ⟨db₁, hadd, hframe⟩ := closeTurn_adds hclose
        obtain ⟨hfresh, row, hrow, hcreated, -, -, rfl⟩ := addChatMessage_ok hadd
        obtain ⟨s, hs⟩ := Table.mem_iff_lookup.mp hsession
        obtain ⟨s', hs', -⟩ := hframe.session s hs
        subst hsid
        have hkeys' := (listsInAddOrder_iff (Table.mem_iff_lookup.mpr ⟨s', hs'⟩)).mp hlists
        rw [keysIncrease_congr hframe.chatMessages, keysIncrease_insert hfresh hrow, rowKey, hcreated] at hkeys'
        exact hkeys'.2
    | abort => trivial
  · -- from the keys to what is listed
    intro he
    have hstep : Orderly sid (e.step env settings w) := h.step he
    refine ⟨hstep.stored.lists, fun t ht => (hstep.opened t ht).1.lists, hstep.historyEnds, ?_⟩
    rintro completion d t rfl hturn rfl hruns
    obtain ⟨hkeys, hsession⟩ := h.opened t hturn
    exact (alongCalls_keepsOrder_iff hsession hkeys).mpr ((he t hturn rfl).1 hruns)

/-- **Chat order over a run**: every event keeps the conversation in the order in which it was added, the
    histories end with the current message and the copied threads read in order, exactly if all keys are
    drawn in order. -/
theorem keepsOrder_iff (env : Env) (settings : Settings) (sid : Uuid) (db : Db) (events : List Event)
    (h : KeysIncrease sid db) :
    AllSteps (Event.step env settings) (KeepsOrder env settings sid) ⟨db, none⟩ events ↔
      AllSteps (Event.step env settings) (InKeyOrder env settings sid) ⟨db, none⟩ events := by
  have hstart : Orderly sid ⟨db, none⟩ := ⟨h, fun t ht => by cases ht⟩
  exact allSteps_iff_of_inv (fun w e hw => hw.keeps_iff) (fun w e hw he => hw.step he) hstart

end

/-! ## A greeting

The message and its reply share their `created_at`. With one pair of keys they are listed in order, with the other
one the reply comes first. -/

def greeting : Event := .openTurn visitor ⟨101, days 739000⟩ "Good morning" ["Opening hours"]

/-- The model greets back; the reply has the key `n`. -/
def greetingBack (n : Uuid) : Event := .reply ⟨some "Good morning.", []⟩ (drawsFrom n)

theorem keepsOrder_iff_greeting :
    AllSteps (Event.step chatEnv ⟨10, 2⟩) (KeepsOrder chatEnv ⟨10, 2⟩ 60) ⟨chatDb, none⟩
        [greeting, greetingBack 102] ↔
      AllSteps (Event.step chatEnv ⟨10, 2⟩) (InKeyOrder chatEnv ⟨10, 2⟩ 60) ⟨chatDb, none⟩
        [greeting, greetingBack 102] :=
  keepsOrder_iff chatEnv ⟨10, 2⟩ 60 chatDb _ List.Pairwise.nil

/-- A reply whose key comes before that of the message is listed before it. -/
theorem not_keepsOrder : ¬ AllSteps (Event.step chatEnv ⟨10, 2⟩) (KeepsOrder chatEnv ⟨10, 2⟩ 60) ⟨chatDb, none⟩
    [greeting, greetingBack 100] := by
  intro h
  have hstored := h.2.1.stored
  let db := ((greetingBack 100).step chatEnv ⟨10, 2⟩ (greeting.step chatEnv ⟨10, 2⟩ ⟨chatDb, none⟩)).db
  have hsession : (db.chatSessions.lookup 60).map (·.organizationId) = some 1 := by decide +kernel
  have hlisted : (listForSession visitor.scope 60 db).map (·.1) = [100, 101] := by decide +kernel
  have hadded : (addOrder 60 db).map (·.1) = [101, 100] := by decide +kernel
  obtain ⟨s, hs, horg⟩ := Option.map_eq_some_iff.mp hsession
  rw [hstored visitor.scope s hs horg, hadded] at hlisted
  exact absurd hlisted (by decide)

end Helpdesk.Chat
