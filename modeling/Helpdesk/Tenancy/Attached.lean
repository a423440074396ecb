import Helpdesk.Tenancy.Part

/-! # What a request may touch

A row that names a user, a property, a contract or a ticket names one of its own organization (`Attached`).
Whatever ids a caller supplies, a request keeps it so, takes no row away from its organization, and leaves the
part of every other organization as it was. `Touches` is all of this of one request. -/

namespace Helpdesk.Tenancy

/-! ## Rows and those they name

What a row of a table names is of the same organization. A foreign key alone does not say so, it only asks for
a row; it is the services that look the ids up under a scope. -/

def UserOf (db : Db) (organizationId id : Uuid) : Prop :=
  ∃ u, db.users.lookup id = some u ∧ u.organizationId = some organizationId

def PropertyOf (db : Db) (organizationId id : Uuid) : Prop :=
  ∃ p, db.properties.lookup id = some p ∧ p.organizationId = organizationId

def ContractOf (db : Db) (organizationId id : Uuid) : Prop :=
  ∃ c, db.contracts.lookup id = some c ∧ PropertyOf db organizationId c.propertyId

structure AttachedTicket (db : Db) (t : TicketColumns) : Prop where
  reporter : UserOf db t.organizationId t.userId
  property : ∀ id, t.propertyId = some id → PropertyOf db t.organizationId id
  contract : ∀ id, t.contractId = some id → ContractOf db t.organizationId id
  agent : ∀ id, t.agentId = some id → UserOf db t.organizationId id

/-- The parties of a contract are of one organization. -/
def AttachedContract (db : Db) (c : Contract) : Prop :=
  ∃ organizationId, PropertyOf db organizationId c.propertyId ∧ UserOf db organizationId c.tenantId

/-- **Attached**: whom or what a row names is of the row's organization. -/
structure Attached (db : Db) : Prop where
  properties : ∀ id p, db.properties.lookup id = some p → UserOf db p.organizationId p.ownerId
  contracts : ∀ id c, db.contracts.lookup id = some c → AttachedContract db c
  tickets : ∀ id t, db.tickets.lookup id = some t → AttachedTicket db t.toTicketColumns
  messages : ∀ id m, db.messages.lookup id = some m → m.ticketId ∈ db.tickets
  classifications : ∀ ticketId, ticketId ∈ db.classifications → ticketId ∈ db.tickets

variable {db db' db'' : Db} {organizationId other id : Uuid}

theorem PropertyOf.mem (h : PropertyOf db organizationId id) : id ∈ db.properties := by
  obtain ⟨p, hp, -⟩ := h
  exact Table.mem_iff_lookup.mpr ⟨p, hp⟩

theorem Attached.joined (h : Attached db) : Joined db where
  contracts := fun id c hc => by
    obtain ⟨_, hproperty, -⟩ := h.contracts id c hc
    exact hproperty.mem
  messages := h.messages
  classifications := h.classifications

/-! ## Nothing is lost, and nothing moves

`Extends` compares two databases of one run. Some columns of a row are settled when the row is made, and these
are what the other tables rely on: a ticket keeps its reporter, a property its owner, a contract its parties.
The order is reflexive and transitive, and what a row names is still there later on. -/

/-- What a ticket was filed with. -/
def filed (t : Ticket) : Uuid × Uuid × Option Uuid × Option Uuid × String × Option String × TicketChannel × Int :=
  (t.organizationId, t.userId, t.propertyId, t.contractId, t.title, t.description, t.channel, t.createdAt)

/-- What was agreed in a contract. No service writes it again. -/
def agreed (c : Contract) : Uuid × Uuid × Int × Int :=
  (c.propertyId, c.tenantId, c.startDate, c.endDate)

/-- The rows of `db` are still there, each with what it was made for. There is no new user, and a deleted property
    is not touched again. -/
structure Extends (db db' : Db) : Prop where
  organizations : db'.organizations = db.organizations
  users : SameAt (·.organizationId) db.users db'.users
  nobody : ∀ id, id ∈ db'.users → id ∈ db.users
  properties : SameAt (fun p => (p.organizationId, p.ownerId)) db.properties db'.properties
  deleted : ∀ id p, db.properties.lookup id = some p → p.deletedAt ≠ none → db'.properties.lookup id = some p
  contracts : SameAt agreed db.contracts db'.contracts
  tickets : SameAt filed db.tickets db'.tickets
  messages : SameAt (fun m => m) db.messages db'.messages
  slaEvents : SameAt (fun e => e) db.slaEvents db'.slaEvents

theorem Extends.refl (db : Db) : Extends db db where
  organizations := rfl
  users := SameAt.refl _ _
  nobody := fun _ h => h
  properties := SameAt.refl _ _
  deleted := fun _ _ h _ => h
  contracts := SameAt.refl _ _
  tickets := SameAt.refl _ _
  messages := SameAt.refl _ _
  slaEvents := SameAt.refl _ _

theorem Extends.trans (h : Extends db db') (h' : Extends db' db'') : Extends db db'' where
  organizations := h'.organizations.trans h.organizations
  users := h.users.trans h'.users
  nobody := fun id hid => h.nobody id (h'.nobody id hid)
  properties := h.properties.trans h'.properties
  deleted := fun id p hp hdeleted => h'.deleted id p (h.deleted id p hp hdeleted) hdeleted
  contracts := h.contracts.trans h'.contracts
  tickets := h.tickets.trans h'.tickets
  messages := h.messages.trans h'.messages
  slaEvents := h.slaEvents.trans h'.slaEvents

namespace Extends

theorem userOf (h : Extends db db') (hid : UserOf db organizationId id) : UserOf db' organizationId id := by
  obtain ⟨u, hu, horg⟩ := hid
  obtain ⟨u', hu', hsame⟩ := h.users id u hu
  exact ⟨u', hu', hsame.trans horg⟩

/-- Nobody joins an organization. -/
theorem userOf_iff (h : Extends db db') : UserOf db' organizationId id ↔ UserOf db organizationId id := by
  refine ⟨fun hid => ?_, h.userOf⟩
  obtain ⟨u', hu', horg⟩ := hid
  obtain ⟨u, hu⟩ := Table.mem_iff_lookup.mp (h.nobody id (Table.mem_iff_lookup.mpr ⟨u', hu'⟩))
  obtain ⟨u'', hu'', hsame⟩ := h.users id u hu
  obtain rfl := Option.some.inj (hu'.symm.trans hu'')
  exact ⟨u, hu, hsame.symm.trans horg⟩

theorem propertyOf (h : Extends db db') (hid : PropertyOf db organizationId id) : PropertyOf db' organizationId id := by
  obtain ⟨p, hp, horg⟩ := hid
  obtain ⟨p', hp', hsame⟩ := h.properties id p hp
  exact ⟨p', hp', (Prod.mk.inj hsame).1.trans horg⟩

theorem contractOf (h : Extends db db') (hid : ContractOf db organizationId id) : ContractOf db' organizationId id := by
  obtain ⟨c, hc, hproperty⟩ := hid
  obtain ⟨c', hc', hsame⟩ := h.contracts id c hc
  refine ⟨c', hc', ?_⟩
  rw [(Prod.mk.inj hsame).1]
  exact h.propertyOf hproperty

theorem attachedTicket (h : Extends db db') {t : TicketColumns} (ht : AttachedTicket db t) : AttachedTicket db' t where
  reporter := h.userOf ht.reporter
  property := fun id hid => h.propertyOf (ht.property id hid)
  contract := fun id hid => h.contractOf (ht.contract id hid)
  agent := fun id hid => h.userOf (ht.agent id hid)

/-- The rows of `db'` that name rows of `db` properly, name rows of `db'` properly. -/
theorem attached (h : Extends db db')
    (hproperties : ∀ id p, db'.properties.lookup id = some p → UserOf db p.organizationId p.ownerId)
    (hcontracts : ∀ id c, db'.contracts.lookup id = some c → AttachedContract db c)
    (htickets : ∀ id t, db'.tickets.lookup id = some t → AttachedTicket db t.toTicketColumns)
    (hmessages : ∀ id m, db'.messages.lookup id = some m → m.ticketId ∈ db.tickets)
    (hclassifications : ∀ ticketId, ticketId ∈ db'.classifications → ticketId ∈ db.tickets) : Attached db' where
  properties := fun id p hp => h.userOf (hproperties id p hp)
  contracts := fun id c hc => by
    obtain ⟨organizationId, hproperty, htenant⟩ := hcontracts id c hc
    exact ⟨organizationId, h.propertyOf hproperty, h.userOf htenant⟩
  tickets := fun id t ht => h.attachedTicket (htickets id t ht)
  messages := fun id m hm => h.tickets.mem (hmessages id m hm)
  classifications := fun ticketId hc => h.tickets.mem (hclassifications ticketId hc)

end Extends

/-! ## Touching one organization

The three clauses go together because each needs the others along a service: the second write of a service
starts from what the first one has left. -/

/-- The request was the organization's own. -/
structure Touches (organizationId : Uuid) (db db' : Db) : Prop where
  kept : Extends db db'
  attached : Attached db → Attached db'
  others : Attached db → ∀ other, other ≠ organizationId → Db.part other db' = Db.part other db

theorem touches_of (kept : Extends db db') (attached : Extends db db' → Attached db → Attached db')
    (others : Attached db → ∀ other, other ≠ organizationId → Db.part other db' = Db.part other db) :
    Touches organizationId db db' :=
  ⟨kept, attached kept, others⟩

theorem Touches.refl (organizationId : Uuid) (db : Db) : Touches organizationId db db :=
  ⟨Extends.refl db, fun h => h, fun _ _ _ => rfl⟩

theorem Touches.trans (h : Touches organizationId db db') (h' : Touches organizationId db' db'') :
    Touches organizationId db db'' where
  kept := h.kept.trans h'.kept
  attached := fun hdb => h'.attached (h.attached hdb)
  others := fun hdb other hne => (h'.others (h.attached hdb) other hne).trans (h.others hdb other hne)

end Helpdesk.Tenancy
