import Helpdesk.Tenancy.Attached

/-! # The writes of the services

Each write of the services, twice.

* `touches_insertTicket` and its like: the write touches one organization. It takes away no row and moves none,
  what the new row names is of the row's organization, and the parts of all other organizations are what they
  were.
* `simulates_insertTicket` and its like: on the part of the organization, the same write has the same outcome
  and leaves the part of what it leaves on the whole database. This is where the keys that are drawn have to be
  new: on the part a taken key of another organization would not be seen.

An INSERT needs the new row's organization; an UPDATE needs to know that the row does not change it. The proofs
come in these two shapes, over `Table.keepRows_insert` and `Table.keepRows_modify`. -/

namespace Helpdesk.Tenancy

open Tx (Simulates)

variable {db : Db} {organizationId id : Uuid}

/-- A lookup touches nothing. -/
theorem LooksUp.touches {α : Type} {x : Service α} (hx : LooksUp x) (organizationId : Uuid) :
    Tx.wp x (fun _ => Touches organizationId db) (fun _ => True) db :=
  hx.wp (fun _ _ => Touches.refl organizationId db) fun _ _ => trivial

theorem simulates_raiseConstraint {α : Type} {f : Db → Db} (x : Except Constraint α) :
    Simulates f (raiseConstraint x) (raiseConstraint x) db := by
  cases x with
  | error k => exact Simulates.raise _
  | ok a => exact Simulates.pure a

/-! ## Tickets

The flush of an update writes the columns back over the stored row. Of the columns that other tables rely on
it leaves everything, and the agent is the only reference that it may change. -/

theorem touches_insertTicket {c : TicketColumns} (hc : Attached db → AttachedTicket db c) :
    Tx.wp (insertTicket id c) (fun _ => Touches c.organizationId db) (fun _ => True) db := by
  refine Tx.wp_of_forall_ok fun row db' h => ?_
  obtain ⟨rfl, hfresh, rfl⟩ := insertTicket_ok h
  have hkept : Extends db { db with tickets := AList.insert id row db.tickets } :=
    { Extends.refl db with tickets := sameAt_insert hfresh }
  refine ⟨hkept, fun hdb => ?_, fun hdb other hne => ?_⟩
  · -- the new row names what it should, and all other rows are as before
    refine hkept.attached hdb.properties hdb.contracts (fun id' t ht => ?_) hdb.messages hdb.classifications
    rw [Table.lookup_insert] at ht
    split at ht
    · cases ht
      exact hc hdb
    · exact hdb.tickets id' t ht
  · -- the row is of another organization, so their parts do not get it
    rw [part_withTickets hdb.joined (sameAt_insert hfresh), Table.keepRows_insert_of_other]
    · rfl
    · exact decide_eq_false (Ne.symm hne)
    · intro old hold
      rw [hfresh] at hold
      cases hold

theorem simulates_insertTicket {c : TicketColumns} (hdb : Joined db) (hfresh : db.tickets.lookup id = none)
    (horg : c.organizationId = organizationId)
    (hkeys : Ticket.foreignKeysOk (db.part organizationId) none c = Ticket.foreignKeysOk db none c) :
    Simulates (Db.part organizationId) (insertTicket id c) (insertTicket id c) db := by
  unfold insertTicket
  refine .bind (simulates_raiseConstraint _) fun row db' h => ?_
  obtain ⟨hcheck, rfl⟩ := raiseConstraint_ok.mp h
  have hrow : row.organizationId = organizationId := by rw [Ticket.check_ok hcheck, horg]
  -- the key is free on both sides, and the foreign keys agree by assumption
  refine .store_bind (.orRaise_bind (Table.insertNew_of_fresh row hfresh) (Table.insertNew_keepRows hfresh) ?_)
  refine .ite (by rw [hkeys]) (fun _ => .write_bind ?_ (.pure _)) fun _ => .raise _
  rw [part_withTickets hdb (sameAt_insert hfresh), Table.keepRows_insert (by exact decide_eq_true hrow)]

/-- The row as it is after a flush of what has been assigned to it. -/
theorem filed_writeBack {loaded row : Ticket} {assigned : TicketColumns}
    (hrow : row.toTicketColumns =
      TicketColumns.writeBack loaded.toTicketColumns assigned loaded.toTicketColumns) :
    filed row = filed loaded ∧ row.agentId = assigned.agentId := by
  rw [TicketColumns.writeBack_loaded] at hrow
  unfold filed
  rw [hrow]
  exact ⟨rfl, rfl⟩

theorem attachedTicket_writeBack {loaded row : Ticket} {assigned : TicketColumns}
    (hloaded : AttachedTicket db loaded.toTicketColumns)
    (hrow : row.toTicketColumns =
      TicketColumns.writeBack loaded.toTicketColumns assigned loaded.toTicketColumns)
    (hagent : ∀ agentId, assigned.agentId = some agentId →
      loaded.agentId = some agentId ∨ UserOf db loaded.organizationId agentId) :
    AttachedTicket db row.toTicketColumns := by
  obtain ⟨hfiled, hrowAgent⟩ := filed_writeBack hrow
  obtain ⟨horg, huser, hproperty, hcontract, -⟩ := by simpa only [filed, Prod.mk.injEq] using hfiled
  exact
    { reporter := by rw [horg, huser]; exact hloaded.reporter
      property := by rw [horg, hproperty]; exact hloaded.property
      contract := by rw [horg, hcontract]; exact hloaded.contract
      agent := by
        rw [horg, hrowAgent]
        exact fun agentId h => (hagent agentId h).elim (hloaded.agent agentId) fun huser => huser }

theorem touches_flushTicket {loaded : Ticket} {assigned : TicketColumns} (hloaded : db.tickets.lookup id = some loaded)
    (hagent : ∀ agentId, assigned.agentId = some agentId →
      loaded.agentId = some agentId ∨ UserOf db loaded.organizationId agentId) :
    Tx.wp (flushTicket id loaded.toTicketColumns assigned) (fun _ => Touches loaded.organizationId db)
      (fun _ => True) db := by
  refine Tx.wp_of_forall_ok fun row db' h => ?_
  obtain ⟨current, hcurrent, hrow, rfl⟩ := flushTicket_ok h
  obtain rfl := Option.some.inj (hcurrent.symm.trans hloaded)
  have hfiled := (filed_writeBack hrow).1
  -- the row that is stored is the one that has been loaded
  have hsame : ∀ old, db.tickets.lookup id = some old → filed row = filed old := by
    intro old hold
    rw [Option.some.inj (hold.symm.trans hcurrent), hfiled]
  have hkept : Extends db { db with tickets := db.tickets.modify id fun _ => row } :=
    { Extends.refl db with tickets := sameAt_modify hsame }
  have horg : row.organizationId = current.organizationId := congrArg Prod.fst hfiled
  refine ⟨hkept, fun hdb => ?_, fun hdb other hne => ?_⟩
  · -- the row that is written, and the others
    refine hkept.attached hdb.properties hdb.contracts (fun id' t ht => ?_) hdb.messages hdb.classifications
    by_cases hid : id' = id
    · subst hid
      rw [Table.lookup_modify_self, hcurrent, Option.map_some] at ht
      cases ht
      exact attachedTicket_writeBack (hdb.tickets id' current hcurrent) hrow hagent
    · rw [Table.lookup_modify_of_ne _ hid] at ht
      exact hdb.tickets id' t ht
  · -- before and after the row is of an organization that is not theirs
    rw [part_withTickets hdb.joined (sameAt_modify fun old hold => congrArg Prod.fst (hsame old hold)),
      Table.keepRows_modify_of_other]
    · rfl
    · intro old hold
      obtain rfl := Option.some.inj (hold.symm.trans hcurrent)
      exact ⟨decide_eq_false (Ne.symm hne), by rw [horg]; exact decide_eq_false (Ne.symm hne)⟩

theorem simulates_flushTicket {loaded : Ticket} {assigned : TicketColumns} (hdb : Joined db)
    (hloaded : db.tickets.lookup id = some loaded) (horg : loaded.organizationId = organizationId)
    (hkeys : ∀ row : Ticket, row.toTicketColumns =
        TicketColumns.writeBack loaded.toTicketColumns assigned loaded.toTicketColumns →
      Ticket.foreignKeysOk (db.part organizationId) (some loaded.toTicketColumns) row.toTicketColumns =
        Ticket.foreignKeysOk db (some loaded.toTicketColumns) row.toTicketColumns) :
    Simulates (Db.part organizationId) (flushTicket id loaded.toTicketColumns assigned)
      (flushTicket id loaded.toTicketColumns assigned) db := by
  unfold flushTicket
  refine .store_bind ?_
  have hpart : (db.part organizationId).tickets.lookup id = some loaded :=
    Table.lookup_keepRows_of hloaded (decide_eq_true horg)
  rw [hloaded, hpart]
  -- the CHECKs look at the columns only
  refine .bind (simulates_raiseConstraint _) fun row db' h => ?_
  obtain ⟨hcheck, rfl⟩ := raiseConstraint_ok.mp h
  have hrow := Ticket.check_ok hcheck
  have horgRow : row.organizationId = loaded.organizationId := congrArg Prod.fst (filed_writeBack hrow).1
  have hsame : ∀ old, db'.tickets.lookup id = some old → row.organizationId = old.organizationId := by
    intro old hold
    rw [Option.some.inj (hold.symm.trans hloaded), horgRow]
  refine .ite (by rw [← hrow, hkeys row hrow]) (fun _ => ?_) fun _ => .raise _
  refine .write_bind ?_ (.pure _)
  rw [part_withTickets hdb (sameAt_modify hsame), Table.keepRows_modify]
  · rfl
  · intro old hold
    rw [hsame old hold]

/-! ## What goes with a ticket

Classifications, events and messages belong to a ticket and through it to an organization. The ticket has been
looked up, so it is known whose it is. -/

section
variable {t : Ticket}

theorem ownsTicket_of (ht : db.tickets.lookup id = some t) (horg : t.organizationId = organizationId) :
    ownsTicket organizationId db id = true := by
  unfold ownsTicket
  rw [ht, Option.any_some]
  exact decide_eq_true horg

theorem not_ownsTicket {other : Uuid} (ht : db.tickets.lookup id = some t) (hne : other ≠ t.organizationId) :
    ownsTicket other db id = false := by
  unfold ownsTicket
  rw [ht, Option.any_some]
  exact decide_eq_false (Ne.symm hne)

/-- The row at the key of a ticket is written. -/
theorem touches_classifications {classifications : Table Uuid Classification} (ht : db.tickets.lookup id = some t)
    (hmem : ∀ ticketId, ticketId ∈ classifications → ticketId ≠ id → ticketId ∈ db.classifications)
    (hothers : ∀ other, other ≠ t.organizationId →
      (classifications.keepRows fun ticketId _ => ownsTicket other db ticketId) =
        db.classifications.keepRows fun ticketId _ => ownsTicket other db ticketId) :
    Touches t.organizationId db { db with classifications := classifications } := by
  have hkept : Extends db { db with classifications := classifications } := { Extends.refl db with }
  refine ⟨hkept, fun hdb => ?_, fun _ other hne => ?_⟩
  · refine hkept.attached hdb.properties hdb.contracts hdb.tickets hdb.messages fun ticketId hticketId => ?_
    by_cases hid : ticketId = id
    · exact Table.mem_iff_lookup.mpr ⟨t, hid ▸ ht⟩
    · exact hdb.classifications ticketId (hmem ticketId hticketId hid)
  · rw [part_withClassifications, hothers other hne]
    rfl

theorem touches_markHumanCorrected (ht : db.tickets.lookup id = some t) :
    Tx.wp (Tickets.markHumanCorrected id) (fun _ => Touches t.organizationId db) (fun _ => True) db := by
  unfold Tickets.markHumanCorrected
  rw [Tx.wp_bind, Tx.wp_store, Tx.wp_write]
  refine touches_classifications ht (fun ticketId h _ => Table.mem_modify.mp h) fun other hne => ?_
  exact Table.keepRows_modify_of_other fun _ _ => ⟨not_ownsTicket ht hne, not_ownsTicket ht hne⟩

theorem simulates_markHumanCorrected :
    Simulates (Db.part organizationId) (Tickets.markHumanCorrected id) (Tickets.markHumanCorrected id) db := by
  unfold Tickets.markHumanCorrected
  refine .store_bind (.write_of ?_)
  rw [part_withClassifications, Table.keepRows_modify]
  · rfl
  · exact fun _ _ => rfl

theorem touches_upsertClassification {r : Tickets.ClassificationResult} (ht : db.tickets.lookup id = some t) :
    Tx.wp (Tickets.upsertClassification id r) (fun _ => Touches t.organizationId db) (fun _ => True) db := by
  unfold Tickets.upsertClassification
  simp only [Tx.wp_bind, Tx.wp_store, Tx.wp_ite, Tx.wp_raise, implies_true, true_and, Tx.wp_write]
  intro _ _
  refine touches_classifications ht (fun ticketId h hne => (AList.mem_insert _).mp h |>.resolve_left hne) ?_
  intro other hne
  exact Table.keepRows_insert_of_other (not_ownsTicket ht hne) fun _ _ => not_ownsTicket ht hne

theorem simulates_upsertClassification {r : Tickets.ClassificationResult} (ht : db.tickets.lookup id = some t)
    (horg : t.organizationId = organizationId) :
    Simulates (Db.part organizationId) (Tickets.upsertClassification id r) (Tickets.upsertClassification id r) db := by
  -- the row that is replaced is one of the part
  have hold : (Db.part organizationId db).classifications.lookup id = db.classifications.lookup id := by
    show (db.classifications.keepRows fun ticketId _ => ownsTicket organizationId db ticketId).lookup id = _
    rw [Table.lookup_keepRows, ownsTicket_of ht horg]
    cases db.classifications.lookup id with
    | none => rfl
    | some c => rfl
  unfold Tickets.upsertClassification
  refine .store_bind (.ite Iff.rfl (fun _ => .raise _) fun _ => .ite Iff.rfl (fun _ => .raise _) fun _ => ?_)
  refine .write_of ?_
  rw [hold, part_withClassifications, Table.keepRows_insert (by exact ownsTicket_of ht horg)]
  rfl

end

section
variable {scope : OrgScope} {slaDueAt : Option Int} {d : Tickets.UpdateDraws}

theorem touches_recordResolved :
    Tx.wp (Tickets.recordResolved scope id slaDueAt d) (fun _ => Touches scope.organizationId db)
      (fun _ => True) db := by
  unfold Tickets.recordResolved
  simp only [Tx.wp_bind, Tx.wp_store, Tx.wp_orRaise, implies_true, and_true, Tx.wp_write]
  intro slaEvents hinsert
  obtain ⟨hfresh, rfl⟩ := Table.insertNew_eq_some.mp hinsert
  refine touches_of { Extends.refl db with slaEvents := sameAt_insert hfresh } (fun hkept hdb => ?_) fun _ other hne => ?_
  · exact hkept.attached hdb.properties hdb.contracts hdb.tickets hdb.messages hdb.classifications
  · rw [part_withSlaEvents, Table.keepRows_insert_of_other (by exact decide_eq_false (Ne.symm hne))]
    · rfl
    · intro old hold
      rw [hfresh] at hold
      cases hold

theorem simulates_recordResolved (hfresh : db.slaEvents.lookup d.slaEventId = none)
    (horg : scope.organizationId = organizationId) :
    Simulates (Db.part organizationId) (Tickets.recordResolved scope id slaDueAt d)
      (Tickets.recordResolved scope id slaDueAt d) db := by
  unfold Tickets.recordResolved
  refine .store_bind ?_
  refine .orRaise_bind (Table.insertNew_of_fresh _ hfresh) (Table.insertNew_keepRows hfresh) (.write_of ?_)
  rw [part_withSlaEvents, Table.keepRows_insert (by exact decide_eq_true horg)]

end

section
variable {newId : Uuid} {authorType : AuthorType} {content : String} {basedOnSuggestionId : Option Uuid} {t : Ticket}

theorem touches_insertMessage (ht : db.tickets.lookup id = some t) :
    Tx.wp (insertMessage newId id authorType content basedOnSuggestionId) (fun _ => Touches t.organizationId db)
      (fun _ => True) db := by
  refine Tickets.wp_insertMessage fun row hticket _ hfresh => ?_
  refine touches_of { Extends.refl db with messages := sameAt_insert hfresh } (fun hkept hdb => ?_) fun _ other hne => ?_
  · refine hkept.attached hdb.properties hdb.contracts hdb.tickets (fun id' m hm => ?_) hdb.classifications
    rw [Table.lookup_insert] at hm
    split at hm
    · cases hm
      exact Table.mem_iff_lookup.mpr ⟨t, hticket ▸ ht⟩
    · exact hdb.messages id' m hm
  · rw [part_withMessages, Table.keepRows_insert_of_other (by rw [hticket]; exact not_ownsTicket ht hne)]
    · rfl
    · intro old hold
      rw [hfresh] at hold
      cases hold

theorem simulates_insertMessage (hfresh : db.messages.lookup newId = none) (ht : db.tickets.lookup id = some t)
    (horg : t.organizationId = organizationId) :
    Simulates (Db.part organizationId) (insertMessage newId id authorType content basedOnSuggestionId)
      (insertMessage newId id authorType content basedOnSuggestionId) db := by
  have hmem : id ∈ db.tickets := Table.mem_iff_lookup.mpr ⟨t, ht⟩
  have hpart : id ∈ (Db.part organizationId db).tickets :=
    Table.mem_keepRows.mpr ⟨t, ht, decide_eq_true horg⟩
  unfold insertMessage
  split
  · refine .store_bind (.orRaise_bind (Table.insertNew_of_fresh _ hfresh) (Table.insertNew_keepRows hfresh) ?_)
    -- the ticket is there on both sides
    refine .ite (iff_of_true hmem hpart) (fun _ => .write_bind ?_ (.pure _)) fun _ => .raise _
    rw [part_withMessages, Table.keepRows_insert (by exact ownsTicket_of ht horg)]
    rfl
  · exact .raise _

end

/-! ## The taxonomy

`Parted T` has what is used of a taxonomy table: the part keeps the rows of one organization in it, and the
other tables do not depend on it. Both tables are of this kind. -/

section
open Tickets (TaxonomyTable)
variable {α : Type} {T : TaxonomyTable α}

/-- The part has the rows of the organization in the table `T`. -/
structure Parted (T : TaxonomyTable α) : Prop where
  rows_part : ∀ organizationId db, T.rows (Db.part organizationId db) =
    (T.rows db).keepRows fun _ row => T.organizationId row = organizationId
  part_withRows : ∀ organizationId db rows, Db.part organizationId (T.withRows db rows) =
    T.withRows (Db.part organizationId db) (rows.keepRows fun _ row => T.organizationId row = organizationId)
  withRows_rows : ∀ db, T.withRows db (T.rows db) = db
  kept : ∀ db rows, Extends db (T.withRows db rows)
  attached : ∀ db rows, Attached db → Attached (T.withRows db rows)

theorem parted_categoryTable : Parted Tickets.categoryTable where
  rows_part := fun _ _ => rfl
  part_withRows := fun _ _ _ => rfl
  withRows_rows := fun _ => rfl
  kept := fun db _ => { Extends.refl db with }
  attached := fun db rows hdb =>
    have hkept : Extends db { db with categories := rows } := { Extends.refl db with }
    hkept.attached hdb.properties hdb.contracts hdb.tickets hdb.messages hdb.classifications

theorem parted_urgencyTable : Parted Tickets.urgencyTable where
  rows_part := fun _ _ => rfl
  part_withRows := fun _ _ _ => rfl
  withRows_rows := fun _ => rfl
  kept := fun db _ => { Extends.refl db with }
  attached := fun db rows hdb =>
    have hkept : Extends db { db with urgencyLevels := rows } := { Extends.refl db with }
    hkept.attached hdb.properties hdb.contracts hdb.tickets hdb.messages hdb.classifications

/-- Rows of the organization are written. -/
theorem Parted.touches (h : Parted T) {rows : Table Uuid α}
    (hothers : ∀ other, other ≠ organizationId → (rows.keepRows fun _ row => T.organizationId row = other) =
      (T.rows db).keepRows fun _ row => T.organizationId row = other) :
    Touches organizationId db (T.withRows db rows) where
  kept := h.kept db rows
  attached := h.attached db rows
  others := fun _ other hne => by
    rw [h.part_withRows, hothers other hne, ← h.rows_part, h.withRows_rows]

/-- A name is taken by a row of the same organization. -/
theorem Parted.nameTaken (h : Parted T) {env : Tickets.Env} {row : α} (horg : T.organizationId row = organizationId) :
    T.nameTaken env (Db.part organizationId db) id row = T.nameTaken env db id row := by
  unfold TaxonomyTable.nameTaken
  rw [h.rows_part, Table.select_keepRows_of]
  -- a row that has the name is of the organization of the row to be saved
  intro id' row' _ hrow'
  grind

theorem Parted.touches_save (h : Parted T) {env : Tickets.Env} {row : α} {name : String}
    (hold : ∀ old, (T.rows db).lookup id = some old → T.organizationId old = T.organizationId row) :
    Tx.wp (T.save env id row name) (fun _ => Touches (T.organizationId row) db) (fun _ => True) db := by
  unfold TaxonomyTable.save
  simp only [Tx.wp_bind, Tx.wp_store, Tx.wp_ite, Tx.wp_write, Tx.wp_raise, implies_true, and_true]
  intro _
  refine h.touches fun other hne => Table.keepRows_insert_of_other (decide_eq_false (Ne.symm hne)) fun old h => ?_
  rw [hold old h]
  exact decide_eq_false (Ne.symm hne)

theorem Parted.simulates_save (h : Parted T) {env : Tickets.Env} {row : α} {name : String}
    (horg : T.organizationId row = organizationId) :
    Simulates (Db.part organizationId) (T.save env id row name) (T.save env id row name) db := by
  unfold TaxonomyTable.save
  refine .store_bind (.ite (by rw [h.nameTaken horg]) (fun _ => .write_of ?_) fun _ => .raise _)
  rw [h.part_withRows, Table.keepRows_insert (by exact decide_eq_true horg), h.rows_part]

end

/-! ## Properties, contracts and users

A property names its owner, and a contract its property and its tenant. A contract has no organization of its
own, it belongs to that of its property. A user is written in place, and stays in its organization. -/

section
variable {row : Property}

theorem touches_insertProperty (howner : UserOf db row.organizationId row.ownerId) :
    Tx.wp (Directory.insertProperty id row) (fun _ => Touches row.organizationId db) (fun _ => True) db := by
  unfold Directory.insertProperty
  simp only [Tx.wp_bind, Tx.wp_store, Tx.wp_ite, Tx.wp_orRaise, Tx.wp_write, Tx.wp_pure, Tx.wp_raise, implies_true,
    and_true]
  intro properties hinsert _
  obtain ⟨hfresh, rfl⟩ := Table.insertNew_eq_some.mp hinsert
  -- a deleted property is another row, and stays
  have hdeleted : ∀ id' p, db.properties.lookup id' = some p → p.deletedAt ≠ none →
      (AList.insert id row db.properties).lookup id' = some p := by
    intro id' p hp _
    have hsame : SameAt (fun p => p) db.properties (AList.insert id row db.properties) := sameAt_insert hfresh
    obtain ⟨p', hp', rfl⟩ := hsame id' p hp
    exact hp'
  refine touches_of { Extends.refl db with properties := sameAt_insert hfresh, deleted := hdeleted }
    (fun hkept hdb => ?_) fun hdb other hne => ?_
  · refine hkept.attached (fun id' p hp => ?_) hdb.contracts hdb.tickets hdb.messages hdb.classifications
    rw [Table.lookup_insert] at hp
    split at hp
    · cases hp
      exact howner
    · exact hdb.properties id' p hp
  · rw [part_withProperties hdb.joined (sameAt_insert hfresh), Table.keepRows_insert_of_other]
    · rfl
    · exact decide_eq_false (Ne.symm hne)
    · intro old hold
      rw [hfresh] at hold
      cases hold

theorem simulates_insertProperty (hdb : Joined db) (hfresh : db.properties.lookup id = none)
    (horg : row.organizationId = organizationId) (howner : UserOf db organizationId row.ownerId) :
    Simulates (Db.part organizationId) (Directory.insertProperty id row) (Directory.insertProperty id row) db := by
  obtain ⟨u, hu, huOrg⟩ := howner
  -- the owner is one of the part, so both sides find the same
  have hkeys : row.organizationId ∈ db.organizations ∧ row.ownerId ∈ db.users ↔
      row.organizationId ∈ (Db.part organizationId db).organizations ∧
        row.ownerId ∈ (Db.part organizationId db).users := by
    refine and_congr ?_ (iff_of_true (Table.mem_iff_lookup.mpr ⟨u, hu⟩) (Table.mem_keepRows.mpr ⟨u, hu, ?_⟩))
    · refine (Table.mem_keepRows_iff fun _ _ => ?_).symm
      exact decide_eq_true horg
    · exact decide_eq_true huOrg
  unfold Directory.insertProperty
  refine .store_bind (.orRaise_bind (Table.insertNew_of_fresh row hfresh) (Table.insertNew_keepRows hfresh) ?_)
  refine .ite hkeys (fun _ => .write_bind ?_ (.pure _)) fun _ => .raise _
  rw [part_withProperties hdb (sameAt_insert hfresh), Table.keepRows_insert (by exact decide_eq_true horg)]

/-- A property that has been looked up is written, with its owner. -/
theorem touches_flushProperty {old : Property} (hold : db.properties.lookup id = some old) (hlive : old.deletedAt = none)
    (horg : row.organizationId = old.organizationId) (howner : row.ownerId = old.ownerId) :
    Tx.wp (Directory.flushProperty id row) (fun _ => Touches row.organizationId db) (fun _ => True) db := by
  -- the stored row is the one that has been looked up
  have hsame : ∀ p, db.properties.lookup id = some p →
      row.organizationId = p.organizationId ∧ row.ownerId = p.ownerId := by
    intro p hp
    obtain rfl := Option.some.inj (hp.symm.trans hold)
    exact ⟨horg, howner⟩
  unfold Directory.flushProperty
  rw [Tx.wp_bind, Tx.wp_store, Tx.wp_bind, Tx.wp_write, Tx.wp_pure]
  refine touches_of
    { Extends.refl db with
      properties := sameAt_modify fun p hp => by rw [(hsame p hp).1, (hsame p hp).2]
      deleted := fun id' p hp hdeleted => ?_ } (fun hkept hdb => ?_) fun hdb other hne => ?_
  · -- what is deleted is not looked up, so it is another row
    have hid : id' ≠ id := by
      rintro rfl
      rw [Option.some.inj (hp.symm.trans hold)] at hdeleted
      exact hdeleted hlive
    rw [Table.lookup_modify_of_ne _ hid, hp]
  · refine hkept.attached (fun id' p hp => ?_) hdb.contracts hdb.tickets hdb.messages hdb.classifications
    by_cases hid : id' = id
    · subst hid
      rw [Table.lookup_modify_self, hold, Option.map_some] at hp
      cases hp
      rw [horg, howner]
      exact hdb.properties id' old hold
    · rw [Table.lookup_modify_of_ne _ hid] at hp
      exact hdb.properties id' p hp
  · rw [part_withProperties hdb.joined (sameAt_modify fun p hp => (hsame p hp).1), Table.keepRows_modify_of_other]
    · rfl
    · intro p hp
      rw [← (hsame p hp).1]
      exact ⟨decide_eq_false (Ne.symm hne), decide_eq_false (Ne.symm hne)⟩

theorem simulates_flushProperty {old : Property} (hdb : Joined db) (hold : db.properties.lookup id = some old)
    (horg : row.organizationId = old.organizationId) :
    Simulates (Db.part organizationId) (Directory.flushProperty id row) (Directory.flushProperty id row) db := by
  have hsame : ∀ p, db.properties.lookup id = some p → row.organizationId = p.organizationId := by
    intro p hp
    rw [horg, Option.some.inj (hp.symm.trans hold)]
  unfold Directory.flushProperty
  refine .store_bind (.write_bind ?_ (.pure _))
  rw [part_withProperties hdb (sameAt_modify hsame), Table.keepRows_modify fun p hp => by rw [hsame p hp]]
  rfl

end

section
variable {row : Contract} {propertyId tenantId : Uuid} {startDate endDate : Int}

theorem touches_insertContract (hproperty : PropertyOf db organizationId propertyId)
    (htenant : UserOf db organizationId tenantId) :
    Tx.wp (Directory.insertContract id propertyId tenantId startDate endDate) (fun _ => Touches organizationId db)
      (fun _ => True) db := by
  unfold Directory.insertContract
  simp only [Tx.wp_bind, Tx.wp_store, Tx.wp_ite, Tx.wp_orRaise, Tx.wp_write, Tx.wp_pure, Tx.wp_raise, implies_true,
    and_true]
  intro row hnew contracts hinsert _
  obtain ⟨rfl, rfl⟩ := Directory.newContract_parties hnew
  obtain ⟨hfresh, rfl⟩ := Table.insertNew_eq_some.mp hinsert
  refine touches_of { Extends.refl db with contracts := sameAt_insert hfresh } (fun hkept hdb => ?_) fun _ other hne => ?_
  · refine hkept.attached hdb.properties (fun id' c hc => ?_) hdb.tickets hdb.messages hdb.classifications
    rw [Table.lookup_insert] at hc
    split at hc
    · cases hc
      exact ⟨organizationId, hproperty, htenant⟩
    · exact hdb.contracts id' c hc
  · -- its property is not theirs
    obtain ⟨p, hp, horg⟩ := hproperty
    rw [part_withContracts, Table.keepRows_insert_of_other]
    · rfl
    · rw [hp, Option.any_some, horg]
      exact decide_eq_false (Ne.symm hne)
    · intro old hold
      rw [hfresh] at hold
      cases hold

theorem simulates_insertContract (hfresh : db.contracts.lookup id = none)
    (hproperty : PropertyOf db organizationId propertyId) (htenant : UserOf db organizationId tenantId) :
    Simulates (Db.part organizationId) (Directory.insertContract id propertyId tenantId startDate endDate)
      (Directory.insertContract id propertyId tenantId startDate endDate) db := by
  obtain ⟨p, hp, horg⟩ := hproperty
  obtain ⟨u, hu, huOrg⟩ := htenant
  have hkeys : propertyId ∈ db.properties ∧ tenantId ∈ db.users :=
    ⟨Table.mem_iff_lookup.mpr ⟨p, hp⟩, Table.mem_iff_lookup.mpr ⟨u, hu⟩⟩
  have hpart : propertyId ∈ (Db.part organizationId db).properties ∧ tenantId ∈ (Db.part organizationId db).users :=
    ⟨Table.mem_keepRows.mpr ⟨p, hp, decide_eq_true horg⟩, Table.mem_keepRows.mpr ⟨u, hu, decide_eq_true huOrg⟩⟩
  unfold Directory.insertContract
  cases hnew : Directory.newContract propertyId tenantId startDate endDate with
  -- the CHECK on the dates does not depend on the database
  | none => exact .raise _
  | some row =>
    obtain ⟨hrow, -⟩ := Directory.newContract_parties hnew
    refine .store_bind (.orRaise_bind (Table.insertNew_of_fresh row hfresh) (Table.insertNew_keepRows hfresh) ?_)
    refine .ite (iff_of_true hkeys hpart) (fun _ => .write_bind ?_ (.pure _)) fun _ => .raise _
    rw [part_withContracts, Table.keepRows_insert]
    rw [hrow, hp, Option.any_some]
    exact decide_eq_true horg

/-- A contract that has been looked up is written, with what was agreed. -/
theorem touches_flushContract {old : Contract} (hold : db.contracts.lookup id = some old)
    (horg : PropertyOf db organizationId old.propertyId) (hagreed : agreed row = agreed old) :
    Tx.wp (Directory.flushContract id row) (fun _ => Touches organizationId db) (fun _ => True) db := by
  have hproperty : row.propertyId = old.propertyId := congrArg Prod.fst hagreed
  have htenant : row.tenantId = old.tenantId := congrArg (Prod.fst ∘ Prod.snd) hagreed
  have hsame : ∀ c, db.contracts.lookup id = some c → agreed row = agreed c := by
    intro c hc
    obtain rfl := Option.some.inj (hc.symm.trans hold)
    exact hagreed
  unfold Directory.flushContract
  rw [Tx.wp_bind, Tx.wp_store, Tx.wp_bind, Tx.wp_write, Tx.wp_pure]
  refine touches_of
    { Extends.refl db with contracts := sameAt_modify hsame }
    (fun hkept hdb => ?_) fun _ other hne => ?_
  · refine hkept.attached hdb.properties (fun id' c hc => ?_) hdb.tickets hdb.messages hdb.classifications
    by_cases hid : id' = id
    · subst hid
      rw [Table.lookup_modify_self, hold, Option.map_some] at hc
      cases hc
      unfold AttachedContract
      rw [hproperty, htenant]
      exact hdb.contracts id' old hold
    · rw [Table.lookup_modify_of_ne _ hid] at hc
      exact hdb.contracts id' c hc
  · -- a contract is with the same property before and after
    obtain ⟨p, hp, hpOrg⟩ := horg
    have hother : ((db.properties.lookup old.propertyId).any fun p => decide (p.organizationId = other)) = false := by
      rw [hp, Option.any_some, hpOrg]
      exact decide_eq_false (Ne.symm hne)
    rw [part_withContracts, Table.keepRows_modify_of_other]
    · rfl
    · intro c hc
      have hc' : row.propertyId = c.propertyId := congrArg Prod.fst (hsame c hc)
      rw [← hc', hproperty]
      exact ⟨hother, hother⟩

theorem simulates_flushContract {old : Contract} (hold : db.contracts.lookup id = some old)
    (hproperty : row.propertyId = old.propertyId) :
    Simulates (Db.part organizationId) (Directory.flushContract id row) (Directory.flushContract id row) db := by
  unfold Directory.flushContract
  refine .store_bind (.write_bind ?_ (.pure _))
  rw [part_withContracts, Table.keepRows_modify]
  · rfl
  · intro c hc
    rw [hproperty, Option.some.inj (hc.symm.trans hold)]

end

section
variable {row : User}

/-- A user that has been looked up is written, in its organization. -/
theorem touches_flushUser {old : User} (hold : db.users.lookup id = some old)
    (hsome : row.organizationId = some organizationId) (horg : row.organizationId = old.organizationId) :
    Tx.wp (Auth.flushUser id row) (fun _ => Touches organizationId db) (fun _ => True) db := by
  have hsame : ∀ u, db.users.lookup id = some u → row.organizationId = u.organizationId := by
    intro u hu
    rw [horg, Option.some.inj (hu.symm.trans hold)]
  unfold Auth.flushUser
  simp only [Tx.wp_bind, Tx.wp_store, Tx.wp_ite, Tx.wp_write, Tx.wp_raise, implies_true, and_true]
  intro _
  refine touches_of
    { Extends.refl db with users := sameAt_modify hsame, nobody := fun _ h => Table.mem_modify.mp h }
    (fun hkept hdb => ?_) fun _ other hne => ?_
  · exact hkept.attached hdb.properties hdb.contracts hdb.tickets hdb.messages hdb.classifications
  · have hother : row.organizationId ≠ some other := by
      rw [hsome]
      exact fun h => hne (Option.some.inj h).symm
    rw [part_withUsers, Table.keepRows_modify_of_other]
    · rfl
    · intro u hu
      rw [← hsame u hu]
      exact ⟨decide_eq_false hother, decide_eq_false hother⟩

theorem simulates_flushUser {old : User} (hold : db.users.lookup id = some old)
    (horg : row.organizationId = old.organizationId) :
    Simulates (Db.part organizationId) (Auth.flushUser id row) (Auth.flushUser id row) db := by
  unfold Auth.flushUser
  refine .store_bind (.ite Iff.rfl (fun _ => .write_of ?_) fun _ => .raise _)
  rw [part_withUsers, Table.keepRows_modify]
  · rfl
  · intro u hu
    rw [horg, Option.some.inj (hu.symm.trans hold)]

end

end Helpdesk.Tenancy
