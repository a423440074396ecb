import Helpdesk.Tenancy.Writes

/-! # What the services touch

Each service touches the organization of its scope: from the lookups that it makes it knows whose the rows are
that it writes, and whose the rows are that these name.

**`touches_step`** puts them together, and **`attached_of_run`** is what comes of it in every run. -/

namespace Helpdesk.Tenancy

open Tickets (TicketCreate TicketPatch UpdateDraws TaxonomyTable)

variable {db : Db} {scope : OrgScope} {organizationId id ticketId : Uuid}

/-! ## Lookups

What is known of a row that a lookup under a scope has returned: it is stored, and it is of the scope's
organization. -/

theorem getUser_ok {u : User} {db' : Db} (h : Tx.exec (scope.getUser id) db = (.ok u, db')) :
    db.users.lookup id = some u ∧ u.organizationId = some scope.organizationId := by
  obtain ⟨-, hrow, hclause⟩ := getOr404_ok.mp h
  exact ⟨hrow, of_decide_eq_true hclause⟩

theorem getProperty_ok {p : Property} {db' : Db} (h : Tx.exec (scope.getProperty id) db = (.ok p, db')) :
    db.properties.lookup id = some p ∧ p.organizationId = scope.organizationId ∧ p.deletedAt = none := by
  obtain ⟨-, hrow, hclause⟩ := getOr404_ok.mp h
  exact ⟨hrow, of_decide_eq_true hclause⟩

theorem selectsContract_iff {c : Contract} :
    scope.selectsContract db c = true ↔ PropertyOf db scope.organizationId c.propertyId := by
  unfold OrgScope.selectsContract PropertyOf
  cases db.properties.lookup c.propertyId with
  | none => simp
  | some p => simp

theorem getContract_ok {c : Contract} {db' : Db} (h : Tx.exec (scope.getContract id) db = (.ok c, db')) :
    db.contracts.lookup id = some c ∧ PropertyOf db scope.organizationId c.propertyId := by
  obtain ⟨-, hrow, hclause⟩ := getOr404_ok.mp h
  exact ⟨hrow, selectsContract_iff.mp hclause⟩

theorem getTicket_ok {t : Ticket} {db' : Db} (h : Tx.exec (scope.getTicket id) db = (.ok t, db')) :
    db.tickets.lookup id = some t ∧ t.organizationId = scope.organizationId := by
  obtain ⟨-, hrow, hclause⟩ := getOr404_ok.mp h
  unfold OrgScope.selectsTicket at hclause
  rw [Bool.and_eq_true] at hclause
  exact ⟨hrow, of_decide_eq_true hclause.1⟩

/-- What an optional id refers to has been looked up. -/
theorem fetchOptional_ok {α : Type} {get : Uuid → Service α} (hget : ∀ id, LooksUp (get id)) {optional : Option Uuid}
    {found : Option (Uuid × α)} (h : Tx.exec (Tickets.fetchOptional get optional) db = (.ok found, db)) :
    ∀ id, optional = some id → ∃ row, found = some (id, row) ∧ Tx.exec (get id) db = (.ok row, db) := by
  rintro id rfl
  obtain ⟨row, db', hrow, hpure⟩ := Tx.bind_ok.mp h
  obtain rfl := (hget id).same hrow
  cases hpure
  exact ⟨row, rfl, hrow⟩

theorem checkAgent_ok {agentId : Option Uuid} {db' : Db}
    (h : Tx.exec (Tickets.checkAgent scope agentId) db = (.ok (), db')) :
    ∀ id, agentId = some id → UserOf db scope.organizationId id := by
  rintro id rfl
  obtain ⟨agent, _, hagent, -⟩ := Tx.bind_ok.mp h
  exact ⟨agent, getUser_ok hagent⟩

/-! ## Tickets

A new ticket names what has just been looked up. An update may name another agent, who has been looked up as
well, and otherwise what the ticket has named before. -/

section
variable {env : Tickets.Env}

/-- What a new ticket names has been looked up. -/
theorem attachedTicket_create {p : TicketCreate} {anchor : Int} {slaDueAt : Option Int}
    {property : Option (Uuid × Property)} {contract : Option (Uuid × Contract)}
    (hscope : UserOf db scope.organizationId scope.userId)
    (hproperty : Tx.exec (Tickets.fetchOptional scope.getProperty p.propertyId) db = (.ok property, db))
    (hcontract : Tx.exec (Tickets.fetchOptional scope.getContract p.contractId) db = (.ok contract, db)) :
    AttachedTicket db (p.columns scope anchor slaDueAt) where
  reporter := hscope
  property := fun id hid => by
    obtain ⟨row, -, hrow⟩ := fetchOptional_ok (fun _ => looksUp_getOr404 _ _ _ _) hproperty id hid
    obtain ⟨hlookup, horg, -⟩ := getProperty_ok hrow
    exact ⟨row, hlookup, horg⟩
  contract := fun id hid => by
    obtain ⟨row, -, hrow⟩ := fetchOptional_ok (fun _ => looksUp_getOr404 _ _ _ _) hcontract id hid
    exact ⟨row, getContract_ok hrow⟩
  agent := fun _ h => by cases h

theorem touches_createTicket {anchor : Int} {p : TicketCreate} (hscope : UserOf db scope.organizationId scope.userId) :
    Tx.wp (Tickets.createTicket env scope ticketId anchor p) (fun _ => Touches scope.organizationId db)
      (fun _ => True) db := by
  unfold Tickets.createTicket
  rw [Tx.wp_bind]
  refine (Tickets.looksUp_fetchOptional (fun _ => looksUp_getOr404 _ _ _ _) _).wp (fun _ hproperty => ?_)
    fun _ _ => trivial
  rw [Tx.wp_bind]
  refine (Tickets.looksUp_fetchOptional (fun _ => looksUp_getOr404 _ _ _ _) _).wp (fun contract hcontract => ?_)
    fun _ _ => trivial
  rw [Tx.wp_bind]
  refine (Tickets.looksUp_checkContract _ _).wp (fun _ _ => ?_) fun _ _ => trivial
  rw [Tx.wp_bind]
  refine (Tickets.looksUp_fetchUrgency _ _).wp (fun urgency _ => ?_) fun _ _ => trivial
  rw [Tx.wp_bind]
  refine (Tickets.looksUp_checkTenant _).wp (fun _ _ => ?_) fun _ _ => trivial
  rw [Tx.wp_bind]
  refine (Tickets.looksUp_resolveNewSlaDueAt _ _).wp (fun slaDueAt _ => ?_) fun _ _ => trivial
  exact touches_insertTicket fun _ => attachedTicket_create hscope hproperty hcontract

/-- The writes of a commit that come after the correction mark. -/
theorem touches_flushUpdate {loaded : Ticket} {assigned : TicketColumns} {c : Prop} [Decidable c] {d : UpdateDraws}
    (hloaded : db.tickets.lookup ticketId = some loaded) (horg : loaded.organizationId = scope.organizationId)
    (hagent : ∀ agentId, assigned.agentId = some agentId →
      loaded.agentId = some agentId ∨ UserOf db loaded.organizationId agentId) :
    Tx.wp
      (do
        let _ ← scope.getTicket ticketId
        let row ← flushTicket ticketId loaded.toTicketColumns assigned
        Tx.when c (Tickets.recordResolved scope ticketId assigned.slaDueAt d)
        pure row)
      (fun _ => Touches scope.organizationId db) (fun _ => True) db := by
  rw [Tx.wp_bind]
  refine (looksUp_getOr404 _ _ _ _).wp (fun _ _ => ?_) fun _ _ => trivial
  rw [Tx.wp_bind]
  refine Tx.wp_mono (touches_flushTicket hloaded hagent) (fun row db₁ h₁ => ?_) fun _ _ => trivial
  rw [horg] at h₁
  simp only [Tx.wp_bind, Tx.wp_when, Tx.wp_pure]
  refine ⟨fun _ => ?_, fun _ => h₁⟩
  exact Tx.wp_mono touches_recordResolved (fun _ _ h₂ => h₁.trans h₂) fun _ _ => trivial

theorem touches_commitUpdate {loaded : Ticket} {assigned : TicketColumns} {patch : TicketPatch} {d : UpdateDraws}
    (hloaded : db.tickets.lookup ticketId = some loaded) (horg : loaded.organizationId = scope.organizationId)
    (hagent : ∀ agentId, assigned.agentId = some agentId →
      loaded.agentId = some agentId ∨ UserOf db loaded.organizationId agentId) :
    Tx.wp (Tickets.commitUpdate scope ticketId loaded assigned patch d) (fun _ => Touches scope.organizationId db)
      (fun _ => True) db := by
  unfold Tickets.commitUpdate
  rw [Tx.wp_bind, Tx.wp_when]
  refine ⟨fun _ => ?_, fun _ => touches_flushUpdate hloaded horg hagent⟩
  have hmark := touches_markHumanCorrected hloaded
  unfold Tickets.markHumanCorrected at hmark ⊢
  rw [Tx.wp_bind, Tx.wp_store, Tx.wp_write] at hmark ⊢
  rw [horg] at hmark
  exact Tx.wp_mono (touches_flushUpdate hloaded horg hagent) (fun _ _ h => hmark.trans h) fun _ _ => trivial

theorem agentId_resolveUpdate {loaded : Ticket} {patch : TicketPatch} {d : UpdateDraws} {assigned : TicketColumns}
    {db' : Db} (h : Tx.exec (Tickets.resolveUpdate env scope loaded patch d) db = (.ok assigned, db')) :
    assigned.agentId = patch.agentId.or loaded.agentId := by
  rw [(Tickets.resolveUpdate_ok h).1]
  unfold TicketPatch.assignStatus
  split
  · rfl
  · rfl

/-- An agent that an update assigns is of the organization. -/
theorem agent_resolveUpdate {loaded : Ticket} {patch : TicketPatch} {d : UpdateDraws} {assigned : TicketColumns}
    {db' : Db} (h : Tx.exec (Tickets.resolveUpdate env scope loaded patch d) db = (.ok assigned, db'))
    {agentId : Uuid} (hagentId : assigned.agentId = some agentId) :
    loaded.agentId = some agentId ∨ UserOf db scope.organizationId agentId := by
  rw [agentId_resolveUpdate h] at hagentId
  obtain ⟨_, _, hcheck, -⟩ := Tx.bind_ok.mp h
  cases hpatch : patch.agentId with
  | none =>
    rw [hpatch, Option.none_or] at hagentId
    exact .inl hagentId
  | some agentId' =>
    rw [hpatch, Option.some_or] at hagentId
    exact .inr (checkAgent_ok hcheck agentId (hpatch.trans hagentId))

/-- What `update_ticket` loads is a ticket of the organization. -/
theorem loadTicket_ok {patch : TicketPatch} {loaded : Ticket} {db' : Db}
    (h : Tx.exec (Tickets.loadTicket scope ticketId patch) db = (.ok loaded, db')) :
    db.tickets.lookup ticketId = some loaded ∧ loaded.organizationId = scope.organizationId := by
  obtain ⟨_, _, hroles, hget⟩ := Tx.bind_ok.mp h
  obtain rfl := (Tickets.looksUp_checkUpdateRoles _).same hroles
  exact getTicket_ok hget

theorem touches_updateTicket {patch : TicketPatch} {d : UpdateDraws} :
    Tx.wp (Tickets.updateTicket env scope ticketId patch d) (fun _ => Touches scope.organizationId db)
      (fun _ => True) db := by
  unfold Tickets.updateTicket
  rw [Tx.wp_bind]
  refine (Tickets.looksUp_loadTicket _ _).wp (fun loaded hload => ?_) fun _ _ => trivial
  obtain ⟨hloaded, horg⟩ := loadTicket_ok hload
  rw [Tx.wp_bind]
  refine (Tickets.looksUp_resolveUpdate _ _ _).wp (fun assigned hresolve => ?_) fun _ _ => trivial
  refine touches_commitUpdate hloaded horg fun agentId hagentId => ?_
  rw [horg]
  exact agent_resolveUpdate hresolve hagentId

/-- The writes of a classification. -/
theorem touches_applyClassification {loaded : Ticket} {r : Tickets.ClassificationResult}
    (hloaded : db.tickets.lookup ticketId = some loaded) (horg : loaded.organizationId = scope.organizationId) :
    Tx.wp (Tickets.applyClassification env scope ticketId loaded r) (fun _ => Touches scope.organizationId db)
      (fun _ => True) db := by
  unfold Tickets.applyClassification
  simp only [Tx.wp_bind, Tx.wp_store, Tx.wp_orRaise, implies_true, and_true]
  intro urgency _
  refine (Tickets.looksUp_resolveSlaDueAt _ _ _).wp (fun slaDueAt _ => ?_) fun _ _ => trivial
  refine Tx.wp_of_forall_ok fun row db' hflush => ?_
  obtain ⟨current, hcurrent, hrow, rfl⟩ := flushTicket_ok hflush
  obtain rfl := Option.some.inj (hcurrent.symm.trans hloaded)
  have hfirst := Tx.wp_ok (touches_flushTicket hloaded (by exact fun _ h => .inl h)) hflush
  have hstored : ({ db with tickets := db.tickets.modify ticketId fun _ => row } : Db).tickets.lookup ticketId =
      some row := by
    show (db.tickets.modify ticketId fun _ => row).lookup ticketId = some row
    rw [Table.lookup_modify_self, hcurrent, Option.map_some]
  have hrowOrg : row.organizationId = scope.organizationId :=
    (congrArg Prod.fst (filed_writeBack hrow).1).trans horg
  rw [horg] at hfirst
  have hsecond := touches_upsertClassification (r := r) hstored
  rw [hrowOrg] at hsecond
  exact Tx.wp_mono hsecond (fun _ _ h => hfirst.trans h) fun _ _ => trivial

theorem touches_classifyTicket {classify : Tickets.Classifier} {jobTry : Nat} :
    Tx.wp (Tickets.classifyTicket env classify jobTry ticketId organizationId) (fun _ => Touches organizationId db)
      (fun _ => True) db := by
  unfold Tickets.classifyTicket
  rw [Tx.wp_bind]
  refine (looksUp_getOr404 _ _ _ _).wp (fun loaded hget => ?_) fun _ _ => trivial
  obtain ⟨hloaded, horg⟩ := getTicket_ok hget
  simp only [Tx.wp_ite, Tx.wp_pure, Tx.wp_bind, Tx.wp_store]
  refine ⟨fun _ => Touches.refl _ _, fun _ => ?_⟩
  split
  · rw [Tx.wp_raise]
    trivial
  · rw [Tx.wp_pure]
    exact Touches.refl _ _
  · rw [Tx.wp_raise]
    trivial
  · exact touches_applyClassification hloaded horg

end

theorem touches_createMessage {newId : Uuid} {content : String} {basedOnSuggestionId : Option Uuid} :
    Tx.wp (Tickets.createMessage scope newId ticketId content basedOnSuggestionId)
      (fun _ => Touches scope.organizationId db) (fun _ => True) db := by
  unfold Tickets.createMessage
  rw [Tx.wp_bind]
  refine (looksUp_getOr404 _ _ _ _).wp (fun ticket hget => ?_) fun _ _ => trivial
  obtain ⟨hticket, horg⟩ := getTicket_ok hget
  rw [Tx.wp_bind]
  refine Tickets.looksUp_validateSuggestionReference.wp (fun _ _ => ?_) fun _ _ => trivial
  rw [Tx.wp_bind, ← horg]
  exact Tx.wp_mono (touches_insertMessage hticket) (fun _ _ h => by rwa [Tx.wp_pure]) fun _ _ => trivial

/-! ## The taxonomy

The two taxonomy tables have one service each, with the same three operations, so there is one lemma for each
operation. -/

section
variable {α : Type} {T : TaxonomyTable α} {env : Tickets.Env}

theorem taxonomyGet_ok {row : α} {db' : Db} (h : Tx.exec (T.get scope id) db = (.ok row, db')) :
    (T.rows db).lookup id = some row ∧ T.organizationId row = scope.organizationId := by
  obtain ⟨-, hrow, hclause⟩ := getOr404_ok.mp h
  exact ⟨hrow, of_decide_eq_true hclause⟩

theorem Parted.touches_create (h : Parted T) {row : α} :
    Tx.wp (T.create env id row) (fun _ => Touches (T.organizationId row) db) (fun _ => True) db := by
  unfold TaxonomyTable.create
  simp only [Tx.wp_bind, Tx.wp_store, Tx.wp_ite, Tx.wp_raise, implies_true, true_and]
  intro hfresh
  refine h.touches_save fun old hold => ?_
  exact absurd (Table.mem_iff_lookup.mpr ⟨old, hold⟩) hfresh

theorem Parted.touches_update (h : Parted T) {assign : α → α} {name : Option String}
    (hassign : ∀ row, T.organizationId (assign row) = T.organizationId row) :
    Tx.wp (T.update env scope id assign name) (fun _ => Touches scope.organizationId db) (fun _ => True) db := by
  unfold TaxonomyTable.update
  rw [Tx.wp_bind]
  refine (looksUp_getOr404 _ _ _ _).wp (fun row hget => ?_) fun _ _ => trivial
  obtain ⟨hrow, horg⟩ := taxonomyGet_ok hget
  rw [← horg, ← hassign row]
  refine h.touches_save fun old hold => ?_
  rw [hassign, Option.some.inj (hold.symm.trans hrow)]

theorem Parted.touches_deleteOrDeactivate (h : Parted T) :
    Tx.wp (T.deleteOrDeactivate scope id) (fun _ => Touches scope.organizationId db) (fun _ => True) db := by
  unfold TaxonomyTable.deleteOrDeactivate
  rw [Tx.wp_bind]
  refine (looksUp_getOr404 _ _ _ _).wp (fun row hget => ?_) fun _ _ => trivial
  obtain ⟨hrow, horg⟩ := taxonomyGet_ok hget
  have hother : ∀ other, other ≠ scope.organizationId → ∀ old, (T.rows db).lookup id = some old →
      decide (T.organizationId old = other) = false := by
    intro other hne old hold
    rw [Option.some.inj (hold.symm.trans hrow), horg]
    exact decide_eq_false (Ne.symm hne)
  simp only [Tx.wp_bind, Tx.wp_store, Tx.wp_ite, Tx.wp_write, Tx.wp_pure]
  refine ⟨fun _ => h.touches fun other hne => ?_, fun _ => h.touches fun other hne => ?_⟩
  · refine Table.keepRows_insert_of_other ?_ (hother other hne)
    rw [T.organizationId_deactivate]
    exact hother other hne row hrow
  · exact Table.keepRows_erase_of_other (hother other hne)

end

/-! ## The directory

Properties, contracts and users. The handlers of these routes map the errors of the services to responses, and
`wp_ofService` and `wp_ofAccount` look through that. -/

open Directory (ofService ofAccount)

theorem wp_ofService {α : Type} {x : Service α} {Q : α → Db → Prop} (h : Tx.wp x Q (fun _ => True) db) :
    Tx.wp (ofService x) Q (fun _ => True) db :=
  Tx.wp_mapError.mpr h

theorem wp_ofAccount {α : Type} {x : Tx Db Auth.Raised α} {Q : α → Db → Prop} (h : Tx.wp x Q (fun _ => True) db) :
    Tx.wp (ofAccount x) Q (fun _ => True) db :=
  Tx.wp_mapError.mpr h

/-- What follows a lookup knows what has been found. -/
theorem wp_lookup_bind {α β : Type} {x : Service α} {f : α → Directory.Handler β} {Q : β → Db → Prop}
    (hx : LooksUp x) (hf : ∀ a, Tx.exec x db = (.ok a, db) → Tx.wp (f a) Q (fun _ => True) db) :
    Tx.wp (ofService x >>= f) Q (fun _ => True) db := by
  rw [Tx.wp_bind]
  exact wp_ofService (hx.wp hf fun _ _ => trivial)

theorem wp_requireNotNull {α : Type} {column : String} {value : Option (Option α)} {Q : Option α → Db → Prop}
    (hQ : ∀ a, Q a db) : Tx.wp (Directory.requireNotNull column value) Q (fun _ => True) db := by
  match value with
  | none => exact Tx.wp_pure _ |>.mpr (hQ _)
  | some none => exact Tx.wp_raise _ |>.mpr trivial
  | some (some a) => exact Tx.wp_pure _ |>.mpr (hQ _)

theorem touches_createProperty {ownerId : Uuid} {address : String} {type : PropertyType} :
    Tx.wp (Directory.createProperty scope id ownerId address type) (fun _ => Touches scope.organizationId db)
      (fun _ => True) db := by
  refine wp_lookup_bind (looksUp_getOr404 _ _ _ _) fun owner hget => ?_
  rw [Tx.wp_ite]
  refine ⟨fun _ => Tx.wp_raise _ |>.mpr trivial, fun _ => wp_ofService ?_⟩
  exact touches_insertProperty ⟨owner, getUser_ok hget⟩

theorem touches_updateProperty {fields : Directory.PropertyUpdate} :
    Tx.wp (Directory.updateProperty scope id fields) (fun _ => Touches scope.organizationId db)
      (fun _ => True) db := by
  refine wp_lookup_bind (looksUp_getOr404 _ _ _ _) fun row hget => ?_
  obtain ⟨hrow, horg, hlive⟩ := getProperty_ok hget
  rw [Tx.wp_bind]
  refine wp_requireNotNull fun _ => ?_
  rw [Tx.wp_bind]
  refine wp_requireNotNull fun _ => ?_
  rw [← horg]
  exact wp_ofService (touches_flushProperty hrow hlive rfl rfl)

theorem touches_deleteProperty {now : Int} :
    Tx.wp (Directory.deleteProperty scope id now) (fun _ => Touches scope.organizationId db) (fun _ => True) db := by
  refine wp_lookup_bind (looksUp_getOr404 _ _ _ _) fun row hget => ?_
  obtain ⟨hrow, horg, hlive⟩ := getProperty_ok hget
  rw [← horg]
  exact wp_ofService (touches_flushProperty hrow hlive rfl rfl)

theorem touches_createContract {propertyId tenantId : Uuid} {startDate endDate : Int} :
    Tx.wp (Directory.createContract scope id propertyId tenantId startDate endDate)
      (fun _ => Touches scope.organizationId db) (fun _ => True) db := by
  refine wp_lookup_bind (looksUp_getOr404 _ _ _ _) fun property hproperty => ?_
  refine wp_lookup_bind (looksUp_getOr404 _ _ _ _) fun tenant htenant => ?_
  obtain ⟨hrow, horg, -⟩ := getProperty_ok hproperty
  rw [Tx.wp_ite]
  refine ⟨fun _ => Tx.wp_raise _ |>.mpr trivial, fun _ => ?_⟩
  exact touches_insertContract ⟨property, hrow, horg⟩ ⟨tenant, getUser_ok htenant⟩

theorem touches_updateContract {status : ContractStatus} :
    Tx.wp (Directory.updateContract scope id status) (fun _ => Touches scope.organizationId db)
      (fun _ => True) db := by
  refine wp_lookup_bind (looksUp_getOr404 _ _ _ _) fun row hget => ?_
  obtain ⟨hrow, horg⟩ := getContract_ok hget
  exact wp_ofService (touches_flushContract hrow horg rfl)

theorem touches_updateUser {fields : Directory.UserUpdate} :
    Tx.wp (Directory.updateUser scope id fields) (fun _ => Touches scope.organizationId db) (fun _ => True) db := by
  refine wp_lookup_bind (looksUp_getOr404 _ _ _ _) fun user hget => ?_
  obtain ⟨hrow, horg⟩ := getUser_ok hget
  rw [Tx.wp_bind]
  refine wp_requireNotNull fun _ => ?_
  rw [Tx.wp_bind]
  refine wp_requireNotNull fun role => ?_
  rw [Tx.wp_bind]
  refine wp_ofAccount (Tx.wp_mono (touches_flushUser hrow horg rfl) (fun _ _ h => ?_) fun _ _ => trivial)
  rwa [Tx.wp_pure]

/-- `disable_user` as a lookup and a flush. -/
theorem disableUser_eq : Auth.disableUser scope id = (do
    let db ← Tx.store
    match db.users.lookup id with
    | none => Tx.raise (.notFound "User" id)
    | some user =>
      if scope.selectsUser user then do
        Auth.flushUser id { user with status := .disabled }
        pure (id, { user with status := .disabled })
      else Tx.raise (.notFound "User" id)) := rfl

theorem touches_disableUser :
    Tx.wp (Directory.disableUser scope id) (fun _ => Touches scope.organizationId db) (fun _ => True) db := by
  unfold Directory.disableUser
  rw [Tx.wp_map]
  refine wp_ofAccount ?_
  rw [disableUser_eq, Tx.wp_bind, Tx.wp_store]
  cases hrow : db.users.lookup id with
  | none => exact Tx.wp_raise _ |>.mpr trivial
  | some user =>
    show Tx.wp (if scope.selectsUser user then _ else _) _ _ db
    rw [Tx.wp_ite]
    refine ⟨fun hsees => ?_, fun _ => Tx.wp_raise _ |>.mpr trivial⟩
    have horg : user.organizationId = some scope.organizationId := of_decide_eq_true hsees
    rw [Tx.wp_bind]
    exact Tx.wp_mono (touches_flushUser hrow horg rfl) (fun _ _ h => by rwa [Tx.wp_pure]) fun _ _ => trivial

/-! ## Requests

A request concerns the organization of its principal, or that of its job. It touches this one, and no other:
`touches_step`. -/

theorem looksUp_getTicket : LooksUp (Tickets.getTicket scope ticketId) := by
  refine LooksUp.bind (looksUp_getOr404 _ _ _ _) fun ticket => ?_
  refine LooksUp.bind (LooksUp.bind LooksUp.store fun _ => LooksUp.pure _) fun c => ?_
  exact LooksUp.ite (LooksUp.pure _) (LooksUp.pure _)

theorem looksUp_listMessages {createdAt : Uuid → Int} : LooksUp (Tickets.listMessages scope createdAt ticketId) :=
  LooksUp.bind (looksUp_getOr404 _ _ _ _) fun _ => LooksUp.bind LooksUp.store fun _ => LooksUp.pure _

theorem touches_looksUp {α : Type} {x : Service α} (hx : LooksUp x) :
    Tx.wp (ofService x) (fun _ => Touches organizationId db) (fun _ => True) db :=
  wp_ofService (LooksUp.touches hx organizationId)

/-- **A route** touches the organization of the scope. -/
theorem touches_serve (env : Env) (route : Route) (hscope : UserOf db scope.organizationId scope.userId) :
    Tx.wp (route.serve env scope) (fun _ => Touches scope.organizationId db) (fun _ => True) db := by
  -- one service for each route; the reads touch nothing
  cases route with
  | listTickets filters =>
    exact Tx.wp_map.mpr (touches_looksUp (LooksUp.bind LooksUp.store fun _ => LooksUp.pure _))
  | getTicket ticketId => exact Tx.wp_map.mpr (touches_looksUp looksUp_getTicket)
  | createTicket ticketId anchor p => exact Tx.wp_map.mpr (wp_ofService (touches_createTicket hscope))
  | updateTicket ticketId patch d => exact Tx.wp_map.mpr (wp_ofService touches_updateTicket)
  | listMessages ticketId => exact Tx.wp_map.mpr (touches_looksUp looksUp_listMessages)
  | createMessage newId ticketId content basedOnSuggestionId =>
    exact Tx.wp_map.mpr (wp_ofService touches_createMessage)
  | listCategories includeInactive =>
    exact Tx.wp_map.mpr (touches_looksUp (LooksUp.bind LooksUp.store fun _ => LooksUp.pure _))
  | getCategory id => exact Tx.wp_map.mpr (touches_looksUp (looksUp_getOr404 _ _ _ _))
  | createCategory id name description =>
    exact Tx.wp_map.mpr (wp_ofService parted_categoryTable.touches_create)
  | updateCategory id fields =>
    exact Tx.wp_map.mpr (wp_ofService (parted_categoryTable.touches_update fun _ => rfl))
  | deleteCategory id => exact Tx.wp_map.mpr (wp_ofService parted_categoryTable.touches_deleteOrDeactivate)
  | listUrgencyLevels includeInactive =>
    exact Tx.wp_map.mpr (touches_looksUp (LooksUp.bind LooksUp.store fun _ => LooksUp.pure _))
  | getUrgencyLevel id => exact Tx.wp_map.mpr (touches_looksUp (looksUp_getOr404 _ _ _ _))
  | createUrgencyLevel id name slaHours sortOrder respectsBusinessHours =>
    exact Tx.wp_map.mpr (wp_ofService parted_urgencyTable.touches_create)
  | updateUrgencyLevel id fields =>
    exact Tx.wp_map.mpr (wp_ofService (parted_urgencyTable.touches_update fun _ => rfl))
  | deleteUrgencyLevel id => exact Tx.wp_map.mpr (wp_ofService parted_urgencyTable.touches_deleteOrDeactivate)
  | listProperties => exact Tx.wp_map.mpr (Tx.wp_bind.mpr (Tx.wp_store.mpr (Tx.wp_pure _ |>.mpr (Touches.refl _ _))))
  | getProperty propertyId => exact Tx.wp_map.mpr (touches_looksUp (looksUp_getOr404 _ _ _ _))
  | createProperty id ownerId address type => exact Tx.wp_map.mpr touches_createProperty
  | updateProperty propertyId fields => exact Tx.wp_map.mpr touches_updateProperty
  | deleteProperty propertyId now => exact Tx.wp_map.mpr touches_deleteProperty
  | listContracts => exact Tx.wp_map.mpr (Tx.wp_bind.mpr (Tx.wp_store.mpr (Tx.wp_pure _ |>.mpr (Touches.refl _ _))))
  | getContract contractId => exact Tx.wp_map.mpr (touches_looksUp (looksUp_getOr404 _ _ _ _))
  | createContract id propertyId tenantId startDate endDate => exact Tx.wp_map.mpr touches_createContract
  | updateContract contractId status => exact Tx.wp_map.mpr touches_updateContract
  | listUsers role status =>
    exact Tx.wp_map.mpr (Tx.wp_bind.mpr (Tx.wp_store.mpr (Tx.wp_pure _ |>.mpr (Touches.refl _ _))))
  | getUser userId => exact Tx.wp_map.mpr (touches_looksUp (looksUp_getOr404 _ _ _ _))
  | updateUser userId fields => exact Tx.wp_map.mpr touches_updateUser
  | disableUser userId => exact Tx.wp_map.mpr touches_disableUser

theorem Authorized.userOf {principal : Uuid} {guard : Guard} (h : Authorized db principal guard scope) :
    UserOf db scope.organizationId scope.userId := by
  obtain ⟨user, hlookup, -, horg, -⟩ := h.user
  rw [h.userId]
  exact ⟨user, hlookup, horg⟩

/-- The scope is of the organization that its principal is in. -/
theorem Authorized.organizationId_eq {principal : Uuid} {guard : Guard} (h : Authorized db principal guard scope)
    (hprincipal : UserOf db organizationId principal) : scope.organizationId = organizationId := by
  obtain ⟨user, hlookup, -, horg, -⟩ := h.user
  obtain ⟨user', hlookup', horg'⟩ := hprincipal
  rw [Option.some.inj (hlookup.symm.trans hlookup'), horg'] at horg
  exact (Option.some.inj horg).symm

/-- A request of the organization: of one of its users, or a job for one of its tickets. -/
def Request.Concerns (db : Db) (organizationId : Uuid) : Request → Prop
  | .call principal _ => UserOf db organizationId principal
  | .classifyTicket _ _ _ jobOrganizationId => jobOrganizationId = organizationId

/-- **A request** changes nothing, or touches an organization that it is a request of. -/
theorem touches_step (env : Env) (db : Db) (r : Request) :
    r.step env db = db ∨ ∃ organizationId, r.Concerns db organizationId ∧
      Touches organizationId db (r.step env db) := by
  have hsettle : ∀ {organizationId} {x : Directory.Handler Response},
      Tx.wp x (fun _ => Touches organizationId db) (fun _ => True) db →
        Touches organizationId db (Tx.settle x db).2 :=
    fun hx => Tx.settle_post hx (Touches.refl _ _)
  cases r with
  | call principal route =>
    obtain ⟨scope, hauthorized, hserve⟩ | ⟨e, hrefused⟩ := settle_call env principal route db
    · refine .inr ⟨scope.organizationId, hauthorized.userId ▸ hauthorized.userOf, ?_⟩
      unfold Request.step
      rw [hserve]
      exact hsettle (touches_serve env route hauthorized.userOf)
    · left
      unfold Request.step
      rw [hrefused]
  | classifyTicket m jobTry ticketId organizationId =>
    exact .inr ⟨organizationId, rfl, hsettle (Tx.wp_map.mpr (wp_ofService touches_classifyTicket))⟩

theorem extends_step (env : Env) (db : Db) (r : Request) : Extends db (r.step env db) := by
  obtain hsame | ⟨_, -, htouches⟩ := touches_step env db r
  · rw [hsame]
    exact Extends.refl db
  · exact htouches.kept

theorem attached_step (env : Env) (h : Attached db) (r : Request) : Attached (r.step env db) := by
  obtain hsame | ⟨_, -, htouches⟩ := touches_step env db r
  · rwa [hsame]
  · exact htouches.attached h

/-! ## Runs

`Attached` holds of the database of a new installation, and then for ever. -/

def plainEnv : Env := ⟨Tickets.taxonomyEnv, fun _ => 0⟩

/-- An administrator, an owner and a tenant. -/
def membersDb : Db :=
  { Db.empty with
    organizations := AList.insert 1 ⟨"widget-1", none, none, "UTC", []⟩ ∅
    users := AList.insert 12 ⟨some 1, "Admin", "admin@example.com", .admin, none, .active, none⟩
      (AList.insert 13 ⟨some 1, "Owner", "owner@example.com", .owner, none, .active, none⟩
        (AList.insert 14 ⟨some 1, "Tenant", "tenant@example.com", .tenant, none, .active, none⟩ ∅)) }

theorem attached_members : Attached membersDb where
  properties := fun id p h => by cases h
  contracts := fun id c h => by cases h
  tickets := fun id t h => by cases h
  messages := fun id m h => by cases h
  classifications := fun ticketId h => by
    obtain ⟨c, hc⟩ := Table.mem_iff_lookup.mp h
    cases hc

/-- The tenant of a contract files a ticket on it, and the property is deleted. -/
def filedRequests : List Request :=
  [.call 12 (.createProperty 40 13 "2 High St" .house), .call 12 (.createContract 60 40 14 0 1),
    .call 14 (.createTicket 50 (days 739000) ⟨some 40, some 60, "Leak", none, none, none, .web⟩),
    .call 12 (.deleteProperty 40 (days 739001))]

end Helpdesk.Tenancy
