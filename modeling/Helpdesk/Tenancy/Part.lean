import Helpdesk.Library.Parts
import Helpdesk.Library.Projection
import Helpdesk.Tenancy.Requests

/-! # The part of an organization

`Db.part` keeps the rows of one organization. Contracts, messages and classifications have no organization of
their own; they belong to that of their property or ticket.

A write of the services is, on the part, the same write. The lemmas of this file say so for each table, given
that the rows without an organization hang on rows that exist (`Joined`). -/

namespace Helpdesk

/-! ## The part

`SameAt f` compares two versions of a table by a function of the rows. With the organization for `f` it says
that no row has gone and none has changed sides, and then tests on related tables have the same result. -/

/-- The rows of the organization. No request here reads or writes the tables that are left as they are. -/
def Db.part (organizationId : Uuid) (db : Db) : Db :=
  let ownsTicket := fun ticketId =>
    (db.tickets.lookup ticketId).any fun t => t.organizationId = organizationId
  { db with
    organizations := db.organizations.keepRows fun id _ => id = organizationId
    users := db.users.keepRows fun _ u => u.organizationId = some organizationId
    properties := db.properties.keepRows fun _ p => p.organizationId = organizationId
    contracts := db.contracts.keepRows fun _ c =>
      (db.properties.lookup c.propertyId).any fun p => p.organizationId = organizationId
    categories := db.categories.keepRows fun _ c => c.organizationId = organizationId
    urgencyLevels := db.urgencyLevels.keepRows fun _ u => u.organizationId = organizationId
    tickets := db.tickets.keepRows fun _ t => t.organizationId = organizationId
    messages := db.messages.keepRows fun _ m => ownsTicket m.ticketId
    slaEvents := db.slaEvents.keepRows fun _ e => e.organizationId = organizationId
    classifications := db.classifications.keepRows fun ticketId _ => ownsTicket ticketId }

namespace Tenancy

/-- The rows without an organization hang on rows that exist. -/
structure Joined (db : Db) : Prop where
  contracts : ∀ id c, db.contracts.lookup id = some c → c.propertyId ∈ db.properties
  messages : ∀ id m, db.messages.lookup id = some m → m.ticketId ∈ db.tickets
  classifications : ∀ ticketId, ticketId ∈ db.classifications → ticketId ∈ db.tickets

/-- Every row of the one table is in the other, with the same value of `f`. -/
def SameAt {α β : Type} (f : α → β) (rows rows' : Table Uuid α) : Prop :=
  ∀ id row, rows.lookup id = some row → ∃ row', rows'.lookup id = some row' ∧ f row' = f row

section
variable {α β : Type} {f : α → β} {rows rows' rows'' : Table Uuid α} {id : Uuid} {row : α}

theorem SameAt.refl (f : α → β) (rows : Table Uuid α) : SameAt f rows rows := fun _ row h => ⟨row, h, rfl⟩

theorem SameAt.trans (h : SameAt f rows rows') (h' : SameAt f rows' rows'') : SameAt f rows rows'' := by
  intro id row hrow
  obtain ⟨row', hrow', heq⟩ := h id row hrow
  obtain ⟨row'', hrow'', heq'⟩ := h' id row' hrow'
  exact ⟨row'', hrow'', heq'.trans heq⟩

theorem SameAt.mem (h : SameAt f rows rows') (hid : id ∈ rows) : id ∈ rows' := by
  obtain ⟨row, hrow⟩ := Table.mem_iff_lookup.mp hid
  obtain ⟨row', hrow', -⟩ := h id row hrow
  exact Table.mem_iff_lookup.mpr ⟨row', hrow'⟩

theorem sameAt_insert (h : rows.lookup id = none) : SameAt f rows (AList.insert id row rows) := by
  intro id' row' hrow'
  have hne : id' ≠ id := by
    rintro rfl
    rw [h] at hrow'
    cases hrow'
  exact ⟨row', by rw [AList.lookup_insert_ne hne, hrow'], rfl⟩

theorem sameAt_modify {g : α → α} (h : ∀ row, rows.lookup id = some row → f (g row) = f row) :
    SameAt f rows (rows.modify id g) := by
  intro id' row' hrow'
  by_cases hid : id' = id
  · subst hid
    exact ⟨g row', by rw [Table.lookup_modify_self, hrow', Option.map_some], h row' hrow'⟩
  · exact ⟨row', by rw [Table.lookup_modify_of_ne _ hid, hrow'], rfl⟩

/-- A test of `f` has the same result on both tables, where there is a row. -/
theorem SameAt.any (h : SameAt f rows rows') (hid : id ∈ rows) (p : β → Bool) :
    ((rows'.lookup id).any fun row => p (f row)) = (rows.lookup id).any fun row => p (f row) := by
  obtain ⟨row, hrow⟩ := Table.mem_iff_lookup.mp hid
  obtain ⟨row', hrow', heq⟩ := h id row hrow
  rw [hrow, hrow', Option.any_some, Option.any_some, heq]

end

/-! ## Writes to one table

For five of the tables the equation holds by definition. The tickets decide to whom messages and
classifications belong, and the properties to whom contracts do, so these two need `Joined`. -/

section
variable {organizationId : Uuid} {db : Db}

/-- The ticket is one of the organization's. -/
def ownsTicket (organizationId : Uuid) (db : Db) (ticketId : Uuid) : Bool :=
  (db.tickets.lookup ticketId).any fun t => t.organizationId = organizationId

theorem part_withClassifications (classifications : Table Uuid Classification) :
    Db.part organizationId { db with classifications := classifications } = { Db.part organizationId db with
      classifications := classifications.keepRows fun ticketId _ => ownsTicket organizationId db ticketId } := rfl

theorem part_withMessages (messages : Table Uuid Message) :
    Db.part organizationId { db with messages := messages } = { Db.part organizationId db with
      messages := messages.keepRows fun _ m => ownsTicket organizationId db m.ticketId } := rfl

theorem part_withSlaEvents (slaEvents : Table Uuid SlaEvent) :
    Db.part organizationId { db with slaEvents := slaEvents } = { Db.part organizationId db with
      slaEvents := slaEvents.keepRows fun _ e => e.organizationId = organizationId } := rfl

theorem part_withUsers (users : Table Uuid User) :
    Db.part organizationId { db with users := users } = { Db.part organizationId db with
      users := users.keepRows fun _ u => u.organizationId = some organizationId } := rfl

theorem part_withContracts (contracts : Table Uuid Contract) :
    Db.part organizationId { db with contracts := contracts } = { Db.part organizationId db with
      contracts := contracts.keepRows fun _ c =>
        (db.properties.lookup c.propertyId).any fun p => p.organizationId = organizationId } := rfl

theorem part_withTickets {tickets : Table Uuid Ticket} (hjoined : Joined db)
    (hsame : SameAt (·.organizationId) db.tickets tickets) :
    Db.part organizationId { db with tickets := tickets } = { Db.part organizationId db with
      tickets := tickets.keepRows fun _ t => t.organizationId = organizationId } := by
  have howns : ∀ ticketId ∈ db.tickets,
      ((tickets.lookup ticketId).any fun t => decide (t.organizationId = organizationId)) =
        (db.tickets.lookup ticketId).any fun t => decide (t.organizationId = organizationId) :=
    fun _ hid => hsame.any hid fun org => decide (org = organizationId)
  have hmessages := Table.keepRows_congr (t := db.messages) fun id m hm => howns m.ticketId (hjoined.messages id m hm)
  have hclassifications := Table.keepRows_congr (t := db.classifications) fun ticketId c hc =>
    howns ticketId (hjoined.classifications ticketId (Table.mem_iff_lookup.mpr ⟨c, hc⟩))
  unfold Db.part
  simp only [hmessages, hclassifications]

theorem part_withProperties {properties : Table Uuid Property} (hjoined : Joined db)
    (hsame : SameAt (·.organizationId) db.properties properties) :
    Db.part organizationId { db with properties := properties } = { Db.part organizationId db with
      properties := properties.keepRows fun _ p => p.organizationId = organizationId } := by
  have hcontracts := Table.keepRows_congr (t := db.contracts) fun id c hc =>
    hsame.any (hjoined.contracts id c hc) fun org => decide (org = organizationId)
  unfold Db.part
  simp only [hcontracts]

end

end Tenancy

end Helpdesk
