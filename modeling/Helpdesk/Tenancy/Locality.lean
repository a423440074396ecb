import Helpdesk.Tenancy.Services

/-! # The services on the part of their organization

A service under a scope does on the part of the scope's organization what it does on the whole database. What it
looks up is in the part, and so is what its foreign keys refer to, but for two columns: the category of a ticket,
and a taxonomy of which one id is given, refer to whatever row has the id. `Route.OwnIds` says that this is a
row of the organization, if there is one. -/

namespace Helpdesk.Tenancy

open Tx (Simulates)
open Tickets (TicketCreate TicketPatch UpdateDraws TaxonomyTable)

variable {db : Db} {scope : OrgScope} {id ticketId : Uuid}

/-! ## Lookups

A lookup under a scope finds on the part what it finds on the whole, because its clause asks for the scope's
organization. The clauses for contracts and tickets look into other tables, of which the part has the rows
that matter. -/

theorem exec_getOr404 {α : Type} (name : String) (table : Db → Table Uuid α) (clause : Db → α → Bool) (id : Uuid)
    (db : Db) : Tx.exec (getOr404 name table clause id) db =
      ((((table db).lookup id).filter (clause db)).elim (.error (.notFound name (some id))) .ok, db) := by
  unfold getOr404
  rw [Tx.exec_bind, Tx.exec_store]
  dsimp only
  cases (table db).lookup id with
  | none => rfl
  | some row =>
    by_cases hrow : clause db row = true
    · rw [Option.filter_some_pos hrow]
      simp [hrow]
    · rw [Option.filter_some_neg (by simpa using hrow)]
      simp [hrow]

/-- The clause selects the same row of both. -/
theorem simulates_getOr404 {α : Type} {name : String} {table : Db → Table Uuid α} {clause : Db → α → Bool}
    {f : Db → Db} (h : ((table (f db)).lookup id).filter (clause (f db)) = ((table db).lookup id).filter (clause db)) :
    Simulates f (getOr404 name table clause id) (getOr404 name table clause id) db := by
  unfold Simulates
  rw [exec_getOr404, exec_getOr404, h]

/-- A clause finds in a part what another one finds in the table. -/
theorem filter_lookup_keepRows {α : Type} {t : Table Uuid α} {p : Uuid → α → Bool} {clause clause' : α → Bool}
    (h : ∀ row, t.lookup id = some row → (p id row && clause row) = clause' row) :
    ((t.keepRows p).lookup id).filter clause = (t.lookup id).filter clause' := by
  rw [Table.lookup_keepRows, Option.filter_filter]
  cases hrow : t.lookup id with
  | none => rfl
  | some row =>
    have := h row hrow
    grind

section
variable {organizationId : Uuid} (horg : scope.organizationId = organizationId)
include horg

theorem simulates_getUser :
    Simulates (Db.part organizationId) (scope.getUser id) (scope.getUser id) db := by
  refine simulates_getOr404 (filter_lookup_keepRows fun u _ => ?_)
  unfold OrgScope.selectsUser
  rw [horg, Bool.and_self]

theorem simulates_getProperty :
    Simulates (Db.part organizationId) (scope.getProperty id) (scope.getProperty id) db := by
  refine simulates_getOr404 (filter_lookup_keepRows fun p _ => ?_)
  unfold OrgScope.selectsProperty
  rw [horg]
  simp

theorem simulates_getOrganization :
    Simulates (Db.part organizationId) (getOrganization scope.organizationId) (getOrganization scope.organizationId)
      db := by
  refine simulates_getOr404 (filter_lookup_keepRows fun _ _ => ?_)
  rw [horg]
  simp

theorem selectsContract_part {c : Contract} :
    scope.selectsContract (db.part organizationId) c = scope.selectsContract db c := by
  rw [Bool.eq_iff_iff, selectsContract_iff, selectsContract_iff]
  unfold PropertyOf
  refine exists_congr fun p => ?_
  show (Table.keepRows _ db.properties).lookup _ = _ ∧ _ ↔ _
  rw [Table.lookup_keepRows, Option.filter_eq_some_iff, horg]
  simp

theorem part_of_selectsContract {c : Contract} (hsees : scope.selectsContract db c = true) :
    ((db.properties.lookup c.propertyId).any fun p => p.organizationId = organizationId) = true := by
  obtain ⟨p, hp, hpOrg⟩ := selectsContract_iff.mp hsees
  rw [hp, Option.any_some]
  exact decide_eq_true (hpOrg.trans horg)

theorem simulates_getContract :
    Simulates (Db.part organizationId) (scope.getContract id) (scope.getContract id) db := by
  refine simulates_getOr404 (filter_lookup_keepRows fun c _ => ?_)
  rw [selectsContract_part horg]
  exact Bool.and_eq_right_iff_imp.mpr (part_of_selectsContract horg)

omit horg in
/-- Rule C looks at the contract and the property of the ticket. -/
theorem selectsTicket_part {t : Ticket} (ht : AttachedTicket db t.toTicketColumns)
    (htOrg : t.organizationId = organizationId) :
    scope.selectsTicket (db.part organizationId) t = scope.selectsTicket db t := by
  have hcontract : t.contractId.bind (db.part organizationId).contracts.lookup =
      t.contractId.bind db.contracts.lookup := by
    cases hid : t.contractId with
    | none => rfl
    | some contractId =>
      obtain ⟨c, hc, p, hp, hpOrg⟩ := ht.contract contractId hid
      rw [Option.bind_some, Option.bind_some, hc]
      refine Table.lookup_keepRows_of hc ?_
      rw [hp, Option.any_some]
      exact decide_eq_true (hpOrg.trans htOrg)
  have hproperty : t.propertyId.bind (db.part organizationId).properties.lookup =
      t.propertyId.bind db.properties.lookup := by
    cases hid : t.propertyId with
    | none => rfl
    | some propertyId =>
      obtain ⟨p, hp, hpOrg⟩ := ht.property propertyId hid
      rw [Option.bind_some, Option.bind_some, hp]
      exact Table.lookup_keepRows_of hp (decide_eq_true (hpOrg.trans htOrg))
  unfold OrgScope.selectsTicket OrgScope.roleSees
  rw [hcontract, hproperty]

theorem selects_part {t : Ticket} (ht : AttachedTicket db t.toTicketColumns) :
    (decide (t.organizationId = organizationId) && scope.selectsTicket (db.part organizationId) t) =
      scope.selectsTicket db t := by
  by_cases htOrg : t.organizationId = organizationId
  · rw [selectsTicket_part ht htOrg, decide_eq_true htOrg, Bool.true_and]
  · have hhidden : scope.selectsTicket db t = false := by
      unfold OrgScope.selectsTicket
      rw [horg, decide_eq_false htOrg, Bool.false_and]
    rw [decide_eq_false htOrg, hhidden, Bool.false_and]

theorem simulates_getTicket (hdb : Attached db) :
    Simulates (Db.part organizationId) (scope.getTicket id) (scope.getTicket id) db :=
  simulates_getOr404 (filter_lookup_keepRows fun t ht => selects_part horg (hdb.tickets id t ht))

theorem simulates_taxonomyGet {α : Type} {T : TaxonomyTable α} (h : Parted T) :
    Simulates (Db.part organizationId) (T.get scope id) (T.get scope id) db := by
  refine simulates_getOr404 ?_
  rw [h.rows_part]
  refine filter_lookup_keepRows fun row _ => ?_
  rw [horg, Bool.and_self]

end

/-! ## Foreign keys

A foreign key asks whether there is a row at all, in whatever organization. On the part it has the same answer
if the row that it refers to is one of the part, or is not asked for because the column has not changed.
`OwnTaxonomy` says this of the two columns about which `Attached` says nothing. -/

/-- An id that nobody looks at: if there is such a row, it is the organization's. -/
def OwnRow {α : Type} (T : TaxonomyTable α) (db : Db) (organizationId id : Uuid) : Prop :=
  ∀ row, (T.rows db).lookup id = some row → T.organizationId row = organizationId

/-- The ids that the services do not look at are the organization's. -/
def Route.OwnIds (db : Db) (organizationId : Uuid) : Route → Prop
  | createTicket _ _ p =>
    -- a single id is not looked at
    (∀ id, p.categoryId = some id → p.urgencyId = none → OwnRow Tickets.categoryTable db organizationId id) ∧
    ∀ id, p.urgencyId = some id → p.categoryId = none → OwnRow Tickets.urgencyTable db organizationId id
  | updateTicket _ patch _ =>
    ∀ id, patch.categoryId = some id → OwnRow Tickets.categoryTable db organizationId id
  | _ => True

/-- What is referred to anew is in the part, if it is anywhere. -/
theorem foreignKeyOk_keepRows {α : Type} {t : Table Uuid α} {p : Uuid → α → Bool} {old new : Option Uuid}
    (h : ∀ id row, new = some id → new ≠ old → t.lookup id = some row → p id row = true) :
    foreignKeyOk (t.keepRows p) old new = foreignKeyOk t old new := by
  unfold foreignKeyOk
  by_cases hsame : new = old
  · rw [decide_eq_true hsame, Bool.true_or, Bool.true_or]
  · cases hnew : new with
    | none => rfl
    | some id =>
      have hmem : id ∈ t.keepRows p ↔ id ∈ t :=
        Table.mem_keepRows_iff fun row hrow => h id row hnew (hnew ▸ hsame) hrow
      simp only [hmem]

/-- A category and an urgency that the ticket gets are of the organization, if there are such rows. -/
structure OwnTaxonomy (db : Db) (organizationId : Uuid) (old : Option TicketColumns) (c : TicketColumns) : Prop where
  category : ∀ id row, c.categoryId = some id → old.bind (·.categoryId) ≠ some id →
    db.categories.lookup id = some row → row.organizationId = organizationId
  urgency : ∀ id row, c.urgencyId = some id → old.bind (·.urgencyId) ≠ some id →
    db.urgencyLevels.lookup id = some row → row.organizationId = organizationId

theorem foreignKeysOk_part {organizationId : Uuid} {old : Option TicketColumns} {c : TicketColumns}
    (hc : AttachedTicket db c) (horg : c.organizationId = organizationId) (hown : OwnTaxonomy db organizationId old c) :
    Ticket.foreignKeysOk (db.part organizationId) old c = Ticket.foreignKeysOk db old c := by
  -- one equation for each foreign key of `tickets`
  have huser : ∀ {old : Option Uuid} {userId : Uuid}, UserOf db c.organizationId userId →
      foreignKeyOk (db.part organizationId).users old (some userId) = foreignKeyOk db.users old (some userId) := by
    intro old userId huser
    refine foreignKeyOk_keepRows fun id row hid _ hrow => ?_
    obtain rfl := Option.some.inj hid
    obtain ⟨u, hu, huOrg⟩ := huser
    rw [Option.some.inj (hrow.symm.trans hu), huOrg, horg]
    exact decide_eq_true rfl
  have hagent : foreignKeyOk (db.part organizationId).users (old.bind (·.agentId)) c.agentId =
      foreignKeyOk db.users (old.bind (·.agentId)) c.agentId := by
    cases hid : c.agentId with
    | none => rfl
    | some agentId => exact huser (hc.agent agentId hid)
  have hproperty : foreignKeyOk (db.part organizationId).properties (old.bind (·.propertyId)) c.propertyId =
      foreignKeyOk db.properties (old.bind (·.propertyId)) c.propertyId := by
    refine foreignKeyOk_keepRows fun id row hid _ hrow => ?_
    obtain ⟨p, hp, hpOrg⟩ := hc.property id hid
    rw [Option.some.inj (hrow.symm.trans hp)]
    exact decide_eq_true (hpOrg.trans horg)
  have hcontract : foreignKeyOk (db.part organizationId).contracts (old.bind (·.contractId)) c.contractId =
      foreignKeyOk db.contracts (old.bind (·.contractId)) c.contractId := by
    refine foreignKeyOk_keepRows fun id row hid _ hrow => ?_
    obtain ⟨k, hk, p, hp, hpOrg⟩ := hc.contract id hid
    rw [Option.some.inj (hrow.symm.trans hk), hp, Option.any_some]
    exact decide_eq_true (hpOrg.trans horg)
  have hcategory : foreignKeyOk (db.part organizationId).categories (old.bind (·.categoryId)) c.categoryId =
      foreignKeyOk db.categories (old.bind (·.categoryId)) c.categoryId :=
    foreignKeyOk_keepRows fun id row hid hne hrow =>
      decide_eq_true (hown.category id row hid (fun h => hne (hid.trans h.symm)) hrow)
  have hurgency : foreignKeyOk (db.part organizationId).urgencyLevels (old.bind (·.urgencyId)) c.urgencyId =
      foreignKeyOk db.urgencyLevels (old.bind (·.urgencyId)) c.urgencyId :=
    foreignKeyOk_keepRows fun id row hid hne hrow =>
      decide_eq_true (hown.urgency id row hid (fun h => hne (hid.trans h.symm)) hrow)
  have horganization : foreignKeyOk (db.part organizationId).organizations (old.map (·.organizationId))
      (some c.organizationId) = foreignKeyOk db.organizations (old.map (·.organizationId)) (some c.organizationId) := by
    refine foreignKeyOk_keepRows fun id _ hid _ _ => ?_
    obtain rfl := Option.some.inj hid
    exact decide_eq_true horg
  unfold Ticket.foreignKeysOk
  rw [horganization, huser hc.reporter, hproperty, hcontract, hcategory, hurgency, hagent]

/-! ## Tickets

The services in the order in which they are called. Each `simulates_` lemma has the shape of its service, so a
change to one service is a change to one lemma. -/

section
variable {env : Tickets.Env} {organizationId : Uuid}

theorem simulates_fetchZone {f : Db → Db} {urgency : UrgencyLevel} {organization : Organization} :
    Simulates f (Tickets.fetchZone env urgency organization) (Tickets.fetchZone env urgency organization) db := by
  unfold Tickets.fetchZone
  exact .ite Iff.rfl (fun _ => .orRaise _ _) fun _ => .pure _

theorem simulates_resolveSlaDueAt {urgency : UrgencyLevel} {fromTimestamp : Int}
    (horg : scope.organizationId = organizationId) :
    Simulates (Db.part organizationId) (Tickets.resolveSlaDueAt env scope.organizationId urgency fromTimestamp)
      (Tickets.resolveSlaDueAt env scope.organizationId urgency fromTimestamp) db := by
  unfold Tickets.resolveSlaDueAt
  refine .bind (simulates_getOrganization horg) fun organization db' _ => .bind simulates_fetchZone fun zone _ _ => ?_
  split
  · exact .pure _
  · exact .raise _

theorem simulates_fetchOptional {α : Type} {f : Db → Db} {get : Uuid → Service α}
    (hget : ∀ id, Simulates f (get id) (get id) db) (optional : Option Uuid) :
    Simulates f (Tickets.fetchOptional get optional) (Tickets.fetchOptional get optional) db := by
  cases optional with
  | none => exact .pure _
  | some id => exact .bind (hget id) fun _ _ _ => .pure _

theorem simulates_checkContract {f : Db → Db} (propertyId : Option Uuid) (contract : Option (Uuid × Contract)) :
    Simulates f (Tickets.checkContract propertyId contract) (Tickets.checkContract propertyId contract) db := by
  have hactive : ∀ (contractId : Uuid) (c : Contract), Simulates f
      (if c.status ≠ .active then Tx.raise (.contractNotActive contractId) else pure () : Service Unit)
      (if c.status ≠ .active then Tx.raise (.contractNotActive contractId) else pure ()) db :=
    fun _ _ => .ite Iff.rfl (fun _ => .raise _) fun _ => .pure _
  cases contract with
  | none => exact .pure _
  | some contract =>
    cases propertyId with
    | none => exact hactive _ _
    | some propertyId => exact .ite Iff.rfl (fun _ => .raise _) fun _ => hactive _ _

theorem simulates_checkTenant {f : Db → Db} (contract : Option (Uuid × Contract)) :
    Simulates f (Tickets.checkTenant scope contract) (Tickets.checkTenant scope contract) db := by
  cases contract with
  | none => exact .pure _
  | some contract => exact .ite Iff.rfl (fun _ => .raise _) fun _ => .pure _

theorem simulates_fetchUrgency (horg : scope.organizationId = organizationId) (categoryId urgencyId : Option Uuid) :
    Simulates (Db.part organizationId) (Tickets.fetchUrgency scope categoryId urgencyId)
      (Tickets.fetchUrgency scope categoryId urgencyId) db := by
  cases categoryId with
  | none => exact .pure _
  | some categoryId =>
    cases urgencyId with
    | none => exact .pure _
    | some urgencyId =>
      refine .bind (simulates_taxonomyGet horg parted_categoryTable) fun category db' _ => ?_
      refine .ite Iff.rfl (fun _ => .raise _) fun _ => ?_
      refine .bind (simulates_taxonomyGet horg parted_urgencyTable) fun urgency db'' _ => ?_
      exact .ite Iff.rfl (fun _ => .raise _) fun _ => .pure _

theorem simulates_resolveNewSlaDueAt {anchor : Int} (urgency : Option UrgencyLevel) :
    Simulates (Db.part scope.organizationId) (Tickets.resolveNewSlaDueAt env scope anchor urgency)
      (Tickets.resolveNewSlaDueAt env scope anchor urgency) db := by
  cases urgency with
  | none => exact .pure _
  | some urgency => exact .map _ (simulates_resolveSlaDueAt rfl)

/-- Where both ids of a new ticket are given, both are looked up. -/
theorem ownTaxonomy_create {anchor : Int} {p : TicketCreate} {slaDueAt : Option Int} {urgency : Option UrgencyLevel}
    (hown : (Route.createTicket ticketId anchor p).OwnIds db scope.organizationId)
    (hurgency : Tx.exec (Tickets.fetchUrgency scope p.categoryId p.urgencyId) db = (.ok urgency, db)) :
    OwnTaxonomy db scope.organizationId none (p.columns scope anchor slaDueAt) where
  category := fun id row hid _ hrow => by
    have hid : p.categoryId = some id := hid
    cases hsecond : p.urgencyId with
    | none => exact hown.1 id hid hsecond row hrow
    | some urgencyId =>
      rw [hid, hsecond] at hurgency
      obtain ⟨⟨row', hrow', horg, -⟩, -⟩ := Tickets.fetchUrgency_ok hurgency
      rw [Option.some.inj (hrow.symm.trans hrow')]
      exact horg
  urgency := fun id row hid _ hrow => by
    have hid : p.urgencyId = some id := hid
    cases hsecond : p.categoryId with
    | none => exact hown.2 id hid hsecond row hrow
    | some categoryId =>
      rw [hid, hsecond] at hurgency
      obtain ⟨-, row', hrow', horg, -⟩ := Tickets.fetchUrgency_ok hurgency
      rw [Option.some.inj (hrow.symm.trans hrow')]
      exact horg

theorem simulates_createTicket {anchor : Int} {p : TicketCreate} (hdb : Attached db)
    (hscope : UserOf db scope.organizationId scope.userId) (hfresh : db.tickets.lookup ticketId = none)
    (hown : (Route.createTicket ticketId anchor p).OwnIds db scope.organizationId) :
    Simulates (Db.part scope.organizationId) (Tickets.createTicket env scope ticketId anchor p)
      (Tickets.createTicket env scope ticketId anchor p) db := by
  unfold Tickets.createTicket
  refine .bind (simulates_fetchOptional (fun _ => simulates_getProperty rfl) _) fun property db₁ hproperty => ?_
  obtain rfl := (Tickets.looksUp_fetchOptional (fun _ => looksUp_getOr404 _ _ _ _) _).same hproperty
  refine .bind (simulates_fetchOptional (fun _ => simulates_getContract rfl) _) fun contract db₂ hcontract => ?_
  obtain rfl := (Tickets.looksUp_fetchOptional (fun _ => looksUp_getOr404 _ _ _ _) _).same hcontract
  refine .bind (simulates_checkContract _ _) fun _ db₃ hcheck => ?_
  obtain rfl := (Tickets.looksUp_checkContract _ _).same hcheck
  refine .bind (simulates_fetchUrgency rfl _ _) fun urgency db₄ hurgency => ?_
  obtain rfl := (Tickets.looksUp_fetchUrgency _ _).same hurgency
  refine .bind (simulates_checkTenant _) fun _ db₅ htenant => ?_
  obtain rfl := (Tickets.looksUp_checkTenant _).same htenant
  refine .bind (simulates_resolveNewSlaDueAt _) fun slaDueAt db₆ hdue => ?_
  obtain rfl := (Tickets.looksUp_resolveNewSlaDueAt _ _).same hdue
  -- what has been looked up is of the organization, and so are the columns
  have hattached : AttachedTicket _ (p.columns scope anchor slaDueAt) :=
    attachedTicket_create hscope hproperty hcontract
  exact simulates_insertTicket hdb.joined hfresh rfl (foreignKeysOk_part hattached rfl (ownTaxonomy_create hown hurgency))

/-! ## Updating a ticket

The update loads the ticket, resolves what is to be assigned, and writes it back. Between the load and the
flush only lookups come, so the row that is flushed is the one that has been loaded. -/

theorem simulates_checkUpdateRoles {f : Db → Db} (patch : TicketPatch) :
    Simulates f (Tickets.checkUpdateRoles scope patch) (Tickets.checkUpdateRoles scope patch) db :=
  .ite Iff.rfl (fun _ => .raise _) fun _ => .ite Iff.rfl (fun _ => .raise _) fun _ =>
    .ite Iff.rfl (fun _ => .raise _) fun _ => .pure _

theorem simulates_checkAgent (agentId : Option Uuid) :
    Simulates (Db.part scope.organizationId) (Tickets.checkAgent scope agentId) (Tickets.checkAgent scope agentId) db := by
  cases agentId with
  | none => exact .pure _
  | some agentId =>
    exact .bind (simulates_getUser rfl) fun _ _ _ => .ite Iff.rfl (fun _ => .pure _) fun _ => .raise _

theorem simulates_assignTaxonomy (loaded : Ticket) (patch : TicketPatch) (c : TicketColumns) :
    Simulates (Db.part scope.organizationId) (Tickets.assignTaxonomy env scope loaded patch c)
      (Tickets.assignTaxonomy env scope loaded patch c) db := by
  unfold Tickets.assignTaxonomy
  refine .ite Iff.rfl (fun _ => ?_) fun _ => .pure _
  split
  · exact .raise _
  · refine .bind (simulates_taxonomyGet rfl parted_urgencyTable) fun urgency _ _ => ?_
    exact .bind (simulates_resolveSlaDueAt rfl) fun _ _ _ => .pure _

theorem simulates_resolveUpdate (loaded : Ticket) (patch : TicketPatch) (d : UpdateDraws) :
    Simulates (Db.part scope.organizationId) (Tickets.resolveUpdate env scope loaded patch d)
      (Tickets.resolveUpdate env scope loaded patch d) db :=
  .bind (simulates_checkAgent _) fun _ _ _ => simulates_assignTaxonomy _ _ _

/-- A category that an update assigns is in its patch, and an urgency that it assigns has been looked up. -/
theorem ownTaxonomy_resolveUpdate {loaded : Ticket} {patch : TicketPatch} {d : UpdateDraws} {assigned : TicketColumns}
    (hown : (Route.updateTicket ticketId patch d).OwnIds db scope.organizationId)
    (h : Tx.exec (Tickets.resolveUpdate env scope loaded patch d) db = (.ok assigned, db)) :
    OwnTaxonomy db scope.organizationId (some loaded.toTicketColumns) assigned := by
  cases hsets : patch.setsTaxonomy with
  | false =>
    obtain ⟨hcategory, hurgency, -⟩ := (Tickets.resolveUpdate_ok h).2 hsets
    exact
      { category := fun id row hid hne => absurd (hcategory.symm.trans hid) hne
        urgency := fun id row hid hne => absurd (hurgency.symm.trans hid) hne }
  | true =>
    obtain ⟨urgencyId, urgency, slaDueAt, -, hget, -, hcategory, hurgency, -⟩ := Tickets.resolveUpdate_taxonomy h hsets
    refine ⟨fun id row hid hne hrow => ?_, fun id row hid _ hrow => ?_⟩
    · refine hown id ?_ row hrow
      rw [hcategory] at hid
      cases hpatch : patch.categoryId with
      | none =>
        rw [hpatch, Option.none_or] at hid
        exact absurd hid hne
      | some categoryId =>
        rwa [hpatch, Option.some_or] at hid
    · rw [hurgency] at hid
      obtain rfl := Option.some.inj hid
      obtain ⟨-, hrow', hclause⟩ := getOr404_ok.mp hget
      rw [Option.some.inj (hrow.symm.trans hrow')]
      exact of_decide_eq_true hclause

/-- What a flush finds in the part, it finds in the database. -/
theorem foreignKeysOk_writeBack {loaded row : Ticket} {assigned : TicketColumns} {organizationId : Uuid}
    (hloaded : AttachedTicket db loaded.toTicketColumns) (horg : loaded.organizationId = organizationId)
    (hagent : ∀ agentId, assigned.agentId = some agentId →
      loaded.agentId = some agentId ∨ UserOf db loaded.organizationId agentId)
    (hown : OwnTaxonomy db organizationId (some loaded.toTicketColumns) assigned)
    (hrow : row.toTicketColumns =
      TicketColumns.writeBack loaded.toTicketColumns assigned loaded.toTicketColumns) :
    Ticket.foreignKeysOk (db.part organizationId) (some loaded.toTicketColumns) row.toTicketColumns =
      Ticket.foreignKeysOk db (some loaded.toTicketColumns) row.toTicketColumns := by
  refine foreignKeysOk_part (attachedTicket_writeBack hloaded hrow hagent) ?_ ?_
  · rw [hrow, TicketColumns.writeBack_loaded]
    exact horg
  · rw [hrow, TicketColumns.writeBack_loaded]
    exact ⟨hown.category, hown.urgency⟩

/-- The writes of a commit that come after the correction mark. -/
theorem simulates_flushUpdate {loaded : Ticket} {assigned : TicketColumns} {c : Prop} [Decidable c] {d : UpdateDraws}
    (hdb : Attached db) (hloaded : db.tickets.lookup ticketId = some loaded)
    (horg : loaded.organizationId = scope.organizationId)
    (hagent : ∀ agentId, assigned.agentId = some agentId →
      loaded.agentId = some agentId ∨ UserOf db loaded.organizationId agentId)
    (hown : OwnTaxonomy db scope.organizationId (some loaded.toTicketColumns) assigned)
    (hfresh : db.slaEvents.lookup d.slaEventId = none) :
    let flush : Service Ticket := do
      let _ ← scope.getTicket ticketId
      let row ← flushTicket ticketId loaded.toTicketColumns assigned
      Tx.when c (Tickets.recordResolved scope ticketId assigned.slaDueAt d)
      pure row
    Simulates (Db.part scope.organizationId) flush flush db := by
  refine .bind (simulates_getTicket rfl hdb) fun _ db₁ hget => ?_
  obtain rfl := (looksUp_getOr404 _ _ _ _).same hget
  have hattached := hdb.tickets ticketId loaded hloaded
  refine .bind (simulates_flushTicket hdb.joined hloaded horg fun row hrow =>
    foreignKeysOk_writeBack hattached horg hagent hown hrow) fun row db₂ hflush => ?_
  obtain ⟨-, -, -, rfl⟩ := flushTicket_ok hflush
  exact .bind (.when fun _ => simulates_recordResolved hfresh rfl) fun _ _ _ => .pure _

theorem simulates_commitUpdate {loaded : Ticket} {assigned : TicketColumns} {patch : TicketPatch} {d : UpdateDraws}
    (hdb : Attached db) (hloaded : db.tickets.lookup ticketId = some loaded)
    (horg : loaded.organizationId = scope.organizationId)
    (hagent : ∀ agentId, assigned.agentId = some agentId →
      loaded.agentId = some agentId ∨ UserOf db loaded.organizationId agentId)
    (hown : OwnTaxonomy db scope.organizationId (some loaded.toTicketColumns) assigned)
    (hfresh : db.slaEvents.lookup d.slaEventId = none) :
    Simulates (Db.part scope.organizationId) (Tickets.commitUpdate scope ticketId loaded assigned patch d)
      (Tickets.commitUpdate scope ticketId loaded assigned patch d) db := by
  unfold Tickets.commitUpdate
  refine .bind (.when fun _ => simulates_markHumanCorrected) fun _ db₁ hmark => ?_
  by_cases hsets : patch.setsTaxonomy = true
  · rw [Tx.when, if_pos hsets] at hmark
    have hdb₁ := (Tx.wp_ok (touches_markHumanCorrected hloaded) hmark).attached hdb
    cases hmark
    exact simulates_flushUpdate hdb₁ hloaded horg hagent ⟨hown.category, hown.urgency⟩ hfresh
  · rw [Tx.when, if_neg hsets] at hmark
    cases hmark
    exact simulates_flushUpdate hdb hloaded horg hagent hown hfresh

theorem simulates_updateTicket {patch : TicketPatch} {d : UpdateDraws} (hdb : Attached db)
    (hown : (Route.updateTicket ticketId patch d).OwnIds db scope.organizationId)
    (hfresh : db.slaEvents.lookup d.slaEventId = none) :
    Simulates (Db.part scope.organizationId) (Tickets.updateTicket env scope ticketId patch d)
      (Tickets.updateTicket env scope ticketId patch d) db := by
  unfold Tickets.updateTicket
  refine .bind (.bind (simulates_checkUpdateRoles _) fun _ db₁ hroles => ?_) fun loaded db₁ hload => ?_
  · obtain rfl := (Tickets.looksUp_checkUpdateRoles _).same hroles
    exact simulates_getTicket rfl hdb
  obtain rfl := (Tickets.looksUp_loadTicket _ _).same hload
  obtain ⟨hloaded, horg⟩ := loadTicket_ok hload
  refine .bind (simulates_resolveUpdate _ _ _) fun assigned db₂ hresolve => ?_
  obtain rfl := (Tickets.looksUp_resolveUpdate _ _ _).same hresolve
  refine simulates_commitUpdate hdb hloaded horg (fun agentId hagentId => ?_) (ownTaxonomy_resolveUpdate hown hresolve)
    hfresh
  rw [horg]
  exact agent_resolveUpdate hresolve hagentId

/-! ## Classifying a ticket

The classifier is asked with the active categories and urgency levels of the organization. These are the same
lists on the part, so it gives the same answer. -/

theorem activeCategories_part : Tickets.activeCategories scope (db.part scope.organizationId) =
    Tickets.activeCategories scope db := by
  unfold Tickets.activeCategories
  refine Table.select_keepRows_of fun _ c _ hc => ?_
  rw [Bool.and_eq_true] at hc
  exact hc.1

theorem activeUrgencyLevels_part : Tickets.activeUrgencyLevels scope (db.part scope.organizationId) =
    Tickets.activeUrgencyLevels scope db := by
  unfold Tickets.activeUrgencyLevels
  congr 1
  refine Table.select_keepRows_of fun _ u _ hu => ?_
  rw [Bool.and_eq_true] at hu
  exact hu.1

theorem askClassifier_part {classify : Tickets.Classifier} {ticket : Ticket} :
    Tickets.askClassifier classify scope ticket (db.part scope.organizationId) =
      Tickets.askClassifier classify scope ticket db := by
  unfold Tickets.askClassifier
  rw [activeCategories_part, activeUrgencyLevels_part]

/-- The classifier chooses among the rows of the organization. -/
theorem ownTaxonomy_classified {m : Tickets.ClassifierModel} {ticket : Ticket} {r : Tickets.ClassificationResult}
    {old : Option TicketColumns} {assigned : TicketColumns}
    (hask : Tickets.askClassifier m.classifier scope ticket db = .result r)
    (hcategory : assigned.categoryId = some r.categoryId) (hurgency : assigned.urgencyId = some r.urgencyId) :
    OwnTaxonomy db scope.organizationId old assigned := by
  obtain ⟨⟨category, hcategories, hid⟩, urgency, hlevels, hid'⟩ := Tickets.classifier_offered hask
  obtain ⟨⟨categoryId, row⟩, hmem, rfl⟩ := List.mem_map.mp hcategories
  obtain ⟨⟨urgencyId, row'⟩, hmem', rfl⟩ := List.mem_map.mp hlevels
  obtain ⟨hrow, hselected⟩ := Table.mem_select.mp hmem
  obtain ⟨hrow', hselected'⟩ := Table.mem_select.mp ((List.mem_insertionSort _).mp hmem')
  rw [Bool.and_eq_true] at hselected hselected'
  obtain rfl : categoryId = r.categoryId := hid
  obtain rfl : urgencyId = r.urgencyId := hid'
  refine ⟨fun id stored hassigned _ hstored => ?_, fun id stored hassigned _ hstored => ?_⟩
  · obtain rfl := Option.some.inj (hcategory.symm.trans hassigned)
    rw [Option.some.inj (hstored.symm.trans hrow)]
    exact of_decide_eq_true hselected.1
  · obtain rfl := Option.some.inj (hurgency.symm.trans hassigned)
    rw [Option.some.inj (hstored.symm.trans hrow')]
    exact of_decide_eq_true hselected'.1

theorem simulates_applyClassification {m : Tickets.ClassifierModel} {loaded : Ticket} {r : Tickets.ClassificationResult}
    (hdb : Attached db) (hloaded : db.tickets.lookup ticketId = some loaded)
    (horg : loaded.organizationId = scope.organizationId)
    (hask : Tickets.askClassifier m.classifier scope loaded db = .result r) :
    Simulates (Db.part scope.organizationId) (Tickets.applyClassification env scope ticketId loaded r)
      (Tickets.applyClassification env scope ticketId loaded r) db := by
  unfold Tickets.applyClassification
  refine .store_bind ?_
  rw [activeUrgencyLevels_part]
  refine .bind (.orRaise _ _) fun urgency db₁ hurgency => ?_
  obtain rfl := (LooksUp.orRaise _ (by simp)).same hurgency
  refine .bind (simulates_resolveSlaDueAt rfl) fun slaDueAt db₂ hdue => ?_
  obtain rfl := (Tickets.looksUp_resolveSlaDueAt _ _ _).same hdue
  refine .bind (simulates_flushTicket hdb.joined hloaded horg fun row hrow =>
    foreignKeysOk_writeBack (hdb.tickets ticketId loaded hloaded) horg (by exact fun _ h => .inl h)
      (ownTaxonomy_classified hask rfl rfl) hrow) fun row db₃ hflush => ?_
  obtain ⟨current, hcurrent, hrow, rfl⟩ := flushTicket_ok hflush
  obtain rfl := Option.some.inj (hcurrent.symm.trans hloaded)
  refine simulates_upsertClassification (t := row) ?_ ((congrArg Prod.fst (filed_writeBack hrow).1).trans horg)
  rw [Table.lookup_modify_self, hcurrent, Option.map_some]

theorem simulates_classifyTicket {m : Tickets.ClassifierModel} {jobTry : Nat} {organizationId : Uuid} (hdb : Attached db) :
    Simulates (Db.part organizationId) (Tickets.classifyTicket env m.classifier jobTry ticketId organizationId)
      (Tickets.classifyTicket env m.classifier jobTry ticketId organizationId) db := by
  unfold Tickets.classifyTicket
  refine .bind (simulates_getTicket rfl hdb) fun loaded db₁ hget => ?_
  obtain rfl := (looksUp_getOr404 _ _ _ _).same hget
  obtain ⟨hloaded, horg⟩ := getTicket_ok hget
  refine .ite Iff.rfl (fun _ => .pure _) fun _ => .store_bind ?_
  have hpart : Tickets.askClassifier m.classifier (.forBackgroundWorker organizationId) loaded
      (Db.part organizationId db₁) = Tickets.askClassifier m.classifier (.forBackgroundWorker organizationId) loaded db₁ :=
    askClassifier_part
  rw [hpart]
  cases hask : Tickets.askClassifier m.classifier (.forBackgroundWorker organizationId) loaded db₁ with
  | transientError => exact .raise _
  | unavailableError => exact .pure _
  | otherError => exact .raise _
  | result r => exact simulates_applyClassification hdb hloaded horg hask

end

end Helpdesk.Tenancy
