import Helpdesk.Tenancy.Locality

/-! # Every route on the part of its organization

**`simulates_serve`**: whatever the route, its response and its writes are the same on the part of the scope's
organization. What it needs is that the keys it draws are new, that the ids which nobody looks at are the
organization's own, and that no ticket of another organization holds on to its taxonomy. -/

namespace Helpdesk.Tenancy

open Tx (Simulates)
open Tickets (TaxonomyTable OwnRows Isolated)
open Directory (ofService ofAccount)

variable {db : Db} {scope : OrgScope} {id ticketId : Uuid}

/-- The primary keys that the server draws are new. -/
def Route.NewKeys (db : Db) : Route → Prop
  | createTicket ticketId _ _ => db.tickets.lookup ticketId = none
  | updateTicket _ _ d => db.slaEvents.lookup d.slaEventId = none
  | createMessage newId _ _ _ => db.messages.lookup newId = none
  | createCategory id _ _ => db.categories.lookup id = none
  | createUrgencyLevel id _ _ _ _ => db.urgencyLevels.lookup id = none
  | createProperty id _ _ _ => db.properties.lookup id = none
  | createContract id _ _ _ _ => db.contracts.lookup id = none
  | _ => True

/-! ## Messages

A message may refer to a suggestion, which is looked up among the messages of the same ticket. These are in the
part if the ticket is. -/

/-- A message of another organization's ticket is refused as one that does not exist. -/
theorem simulates_validateSuggestionReference {t : Ticket} (ht : db.tickets.lookup ticketId = some t)
    (horg : t.organizationId = scope.organizationId) (basedOnSuggestionId : Option Uuid) (newId : Uuid) :
    Simulates (Db.part scope.organizationId) (Tickets.validateSuggestionReference ticketId basedOnSuggestionId newId)
      (Tickets.validateSuggestionReference ticketId basedOnSuggestionId newId) db := by
  cases basedOnSuggestionId with
  | none => exact .pure _
  | some suggestionId =>
    refine .ite Iff.rfl (fun _ => .raise _) fun _ => .store_bind ?_
    have hlookup : (Db.part scope.organizationId db).messages.lookup suggestionId =
        (db.messages.lookup suggestionId).filter fun m => ownsTicket scope.organizationId db m.ticketId :=
      Table.lookup_keepRows _ _ _
    rw [hlookup]
    cases db.messages.lookup suggestionId with
    | none => exact .raise _
    | some m =>
      by_cases hown : ownsTicket scope.organizationId db m.ticketId = true
      · rw [Option.filter_some_pos (p := fun m : Message => ownsTicket scope.organizationId db m.ticketId) hown]
        exact .ite Iff.rfl (fun _ => .raise _) fun _ => .pure _
      · have hother : m.ticketId ≠ ticketId := by
          rintro rfl
          exact hown (ownsTicket_of ht horg)
        rw [Option.filter_some_neg (p := fun m : Message => ownsTicket scope.organizationId db m.ticketId) (by simpa using hown)]
        show Simulates _ (if _ then _ else _) _ db
        rw [if_pos (.inl hother)]
        exact .raise _

theorem simulates_createMessage {newId : Uuid} {content : String} {basedOnSuggestionId : Option Uuid}
    (hdb : Attached db) (hfresh : db.messages.lookup newId = none) :
    Simulates (Db.part scope.organizationId) (Tickets.createMessage scope newId ticketId content basedOnSuggestionId)
      (Tickets.createMessage scope newId ticketId content basedOnSuggestionId) db := by
  unfold Tickets.createMessage
  refine .bind (simulates_getTicket rfl hdb) fun ticket db₁ hget => ?_
  obtain rfl := (looksUp_getOr404 _ _ _ _).same hget
  obtain ⟨hticket, horg⟩ := getTicket_ok hget
  refine .bind (simulates_validateSuggestionReference hticket horg _ _) fun _ db₂ hvalid => ?_
  obtain rfl := Tickets.looksUp_validateSuggestionReference.same hvalid
  exact .bind (simulates_insertMessage hfresh hticket horg) fun _ _ _ => .pure _

/-! ## The taxonomy

A name must be free within the organization. A row that some ticket refers to is deactivated and not deleted;
here it matters that no ticket of another organization refers to it. -/

section
variable {α : Type} {T : TaxonomyTable α} {env : Tickets.Env}

theorem Parted.simulates_create (h : Parted T) {row : α} (horg : T.organizationId row = scope.organizationId)
    (hfresh : (T.rows db).lookup id = none) :
    Simulates (Db.part scope.organizationId) (T.create env id row) (T.create env id row) db := by
  have hmem : id ∉ T.rows db := AList.lookup_eq_none.mp hfresh
  have hpart : id ∉ T.rows (Db.part scope.organizationId db) := by
    rw [h.rows_part, Table.mem_keepRows]
    rintro ⟨row, hrow, -⟩
    rw [hfresh] at hrow
    cases hrow
  unfold TaxonomyTable.create
  exact .store_bind (.ite (iff_of_false hmem hpart) (fun _ => .raise _) fun _ => h.simulates_save horg)

theorem Parted.simulates_update (h : Parted T) {assign : α → α} {name : Option String}
    (hassign : ∀ row, T.organizationId (assign row) = T.organizationId row) :
    Simulates (Db.part scope.organizationId) (T.update env scope id assign name) (T.update env scope id assign name)
      db := by
  unfold TaxonomyTable.update
  refine .bind (simulates_taxonomyGet rfl h) fun row db₁ hget => ?_
  obtain rfl := (looksUp_getOr404 _ _ _ _).same hget
  exact h.simulates_save ((hassign row).trans (taxonomyGet_ok hget).2)

/-- What refers to a row of the organization is a ticket of the organization. -/
theorem referenced_part {organizationId : Uuid} (hown : OwnRows T db) {row : α}
    (hrow : (T.rows db).lookup id = some row) (horg : T.organizationId row = organizationId) :
    T.referenced (Db.part organizationId db) id = T.referenced db id := by
  unfold TaxonomyTable.referenced
  show decide ¬ (Table.select _ (Table.keepRows _ db.tickets)).isEmpty = true = _
  rw [Table.select_keepRows_of]
  intro ticketId t ht hrefers
  obtain ⟨row', hrow', hsame⟩ := hown ticketId t ht id (of_decide_eq_true hrefers)
  rw [Option.some.inj (hrow'.symm.trans hrow)] at hsame
  exact decide_eq_true (hsame.symm.trans horg)

theorem Parted.simulates_deleteOrDeactivate (h : Parted T) (hown : OwnRows T db) :
    Simulates (Db.part scope.organizationId) (T.deleteOrDeactivate scope id) (T.deleteOrDeactivate scope id) db := by
  unfold TaxonomyTable.deleteOrDeactivate
  refine .bind (simulates_taxonomyGet rfl h) fun row db₁ hget => ?_
  obtain rfl := (looksUp_getOr404 _ _ _ _).same hget
  obtain ⟨hrow, horg⟩ := taxonomyGet_ok hget
  refine .store_bind (.ite (by rw [referenced_part hown hrow horg]) (fun _ => ?_) fun _ => ?_)
  · refine .write_bind ?_ (.pure _)
    rw [h.part_withRows, Table.keepRows_insert, h.rows_part]
    rw [T.organizationId_deactivate]
    exact decide_eq_true horg
  · refine .write_bind ?_ (.pure _)
    rw [h.part_withRows, Table.keepRows_erase, h.rows_part]

end

/-! ## The directory

The same shape as for tickets: lookups, then one write. -/

/-- A lookup, as the directory makes it. -/
theorem ofService_lookup {α : Type} {x : Service α} (hx : LooksUp x) {a : α} {db' : Db}
    (h : Tx.exec (ofService x) db = (.ok a, db')) : Tx.exec x db = (.ok a, db) ∧ db' = db := by
  unfold ofService at h
  rw [Tx.exec_mapError] at h
  rcases hexec : Tx.exec x db with ⟨_ | b, s⟩
  · rw [hexec] at h
    cases h
  · rw [hexec] at h
    cases h
    obtain rfl := hx.same hexec
    exact ⟨rfl, rfl⟩

theorem requireNotNull_same {α : Type} {column : String} {value : Option (Option α)} {a : Option α} {db' : Db}
    (h : Tx.exec (Directory.requireNotNull column value) db = (.ok a, db')) : db' = db := by
  cases value with
  | none =>
    cases h
    rfl
  | some value =>
    cases value with
    | none => cases h
    | some value =>
      cases h
      rfl

theorem simulates_requireNotNull {α : Type} {f : Db → Db} (column : String) (value : Option (Option α)) :
    Simulates f (Directory.requireNotNull column value) (Directory.requireNotNull column value) db := by
  cases value with
  | none => exact .pure _
  | some value =>
    cases value with
    | none => exact .raise _
    | some a => exact .pure _

theorem simulates_createProperty {ownerId : Uuid} {address : String} {type : PropertyType} (hdb : Attached db)
    (hfresh : db.properties.lookup id = none) :
    Simulates (Db.part scope.organizationId) (Directory.createProperty scope id ownerId address type)
      (Directory.createProperty scope id ownerId address type) db := by
  refine .bind (.mapError _ (simulates_getUser rfl)) fun owner db₁ hget => ?_
  obtain ⟨hget, rfl⟩ := ofService_lookup (looksUp_getOr404 _ _ _ _) hget
  refine .ite Iff.rfl (fun _ => .raise _) fun _ => .mapError _ ?_
  exact simulates_insertProperty hdb.joined hfresh rfl ⟨owner, getUser_ok hget⟩

theorem simulates_updateProperty {fields : Directory.PropertyUpdate} (hdb : Attached db) :
    Simulates (Db.part scope.organizationId) (Directory.updateProperty scope id fields)
      (Directory.updateProperty scope id fields) db := by
  refine .bind (.mapError _ (simulates_getProperty rfl)) fun row db₁ hget => ?_
  obtain ⟨hget, rfl⟩ := ofService_lookup (looksUp_getOr404 _ _ _ _) hget
  refine .bind (simulates_requireNotNull _ _) fun address db₂ haddress => ?_
  obtain rfl := requireNotNull_same haddress
  refine .bind (simulates_requireNotNull _ _) fun type db₃ htype => ?_
  obtain rfl := requireNotNull_same htype
  exact .mapError _ (simulates_flushProperty hdb.joined (getProperty_ok hget).1 rfl)

theorem simulates_deleteProperty {now : Int} (hdb : Attached db) :
    Simulates (Db.part scope.organizationId) (Directory.deleteProperty scope id now)
      (Directory.deleteProperty scope id now) db := by
  refine .bind (.mapError _ (simulates_getProperty rfl)) fun row db₁ hget => ?_
  obtain ⟨hget, rfl⟩ := ofService_lookup (looksUp_getOr404 _ _ _ _) hget
  exact .mapError _ (simulates_flushProperty hdb.joined (getProperty_ok hget).1 rfl)

theorem simulates_createContract {propertyId tenantId : Uuid} {startDate endDate : Int}
    (hfresh : db.contracts.lookup id = none) :
    Simulates (Db.part scope.organizationId) (Directory.createContract scope id propertyId tenantId startDate endDate)
      (Directory.createContract scope id propertyId tenantId startDate endDate) db := by
  refine .bind (.mapError _ (simulates_getProperty rfl)) fun property db₁ hproperty => ?_
  obtain ⟨hproperty, rfl⟩ := ofService_lookup (looksUp_getOr404 _ _ _ _) hproperty
  refine .bind (.mapError _ (simulates_getUser rfl)) fun tenant db₂ htenant => ?_
  obtain ⟨htenant, rfl⟩ := ofService_lookup (looksUp_getOr404 _ _ _ _) htenant
  refine .ite Iff.rfl (fun _ => .raise _) fun _ => ?_
  obtain ⟨hrow, horg, -⟩ := getProperty_ok hproperty
  exact simulates_insertContract hfresh ⟨property, hrow, horg⟩ ⟨tenant, getUser_ok htenant⟩

theorem simulates_updateContract {status : ContractStatus} :
    Simulates (Db.part scope.organizationId) (Directory.updateContract scope id status)
      (Directory.updateContract scope id status) db := by
  refine .bind (.mapError _ (simulates_getContract rfl)) fun row db₁ hget => ?_
  obtain ⟨hget, rfl⟩ := ofService_lookup (looksUp_getOr404 _ _ _ _) hget
  exact .mapError _ (simulates_flushContract (getContract_ok hget).1 rfl)

theorem simulates_updateUser {fields : Directory.UserUpdate} :
    Simulates (Db.part scope.organizationId) (Directory.updateUser scope id fields)
      (Directory.updateUser scope id fields) db := by
  refine .bind (.mapError _ (simulates_getUser rfl)) fun user db₁ hget => ?_
  obtain ⟨hget, rfl⟩ := ofService_lookup (looksUp_getOr404 _ _ _ _) hget
  refine .bind (simulates_requireNotNull _ _) fun _ db₂ hname => ?_
  obtain rfl := requireNotNull_same hname
  refine .bind (simulates_requireNotNull _ _) fun role db₃ hrole => ?_
  obtain rfl := requireNotNull_same hrole
  exact .bind (.mapError _ (simulates_flushUser (getUser_ok hget).1 rfl)) fun _ _ _ => .pure _

theorem simulates_disableUser :
    Simulates (Db.part scope.organizationId) (Directory.disableUser scope id) (Directory.disableUser scope id) db := by
  unfold Directory.disableUser
  refine .map _ (.mapError _ ?_)
  rw [disableUser_eq]
  refine .store_bind ?_
  have hlookup : (Db.part scope.organizationId db).users.lookup id =
      (db.users.lookup id).filter fun u => scope.selectsUser u :=
    Table.lookup_keepRows _ _ _
  rw [hlookup]
  cases hrow : db.users.lookup id with
  | none => exact .raise _
  | some user =>
    by_cases hsees : scope.selectsUser user = true
    · rw [Option.filter_some_pos hsees]
      refine .ite Iff.rfl (fun _ => ?_) fun _ => .raise _
      exact .bind (simulates_flushUser hrow rfl) fun _ _ _ => .pure _
    · rw [Option.filter_some_neg (by simpa using hsees)]
      show Simulates _ (if _ then _ else _) _ db
      rw [if_neg hsees]
      exact .raise _

/-! ## Reads

A list under a scope is the list of the part. The rows come in the order of the table, and the part keeps it. -/

theorem simulates_listTickets {filters : Tickets.TicketFilters} (hdb : Attached db) :
    Simulates (Db.part scope.organizationId) (Tickets.listTickets scope filters) (Tickets.listTickets scope filters)
      db := by
  refine .store_bind ?_
  have hrows : ((Db.part scope.organizationId db).tickets.select fun _ t =>
        scope.selectsTicket (Db.part scope.organizationId db) t && filters.accepts t) =
      db.tickets.select fun _ t => scope.selectsTicket db t && filters.accepts t := by
    refine Table.select_keepRows_congr fun ticketId t ht => ?_
    rw [← Bool.and_assoc, selects_part rfl (hdb.tickets ticketId t ht)]
  rw [hrows]
  exact .pure _

theorem ownsTicket_part {organizationId : Uuid} :
    ownsTicket organizationId (Db.part organizationId db) ticketId = ownsTicket organizationId db ticketId := by
  unfold ownsTicket
  show Option.any _ ((Table.keepRows _ db.tickets).lookup ticketId) = _
  rw [Table.lookup_keepRows]
  cases db.tickets.lookup ticketId with
  | none => rfl
  | some t => by_cases h : t.organizationId = organizationId <;> simp [h]

theorem simulates_getByTicketId :
    Simulates (Db.part scope.organizationId) (Tickets.getByTicketId scope ticketId)
      (Tickets.getByTicketId scope ticketId) db := by
  refine .store_bind ?_
  have hrow : (((Db.part scope.organizationId db).classifications.lookup ticketId).filter fun _ =>
        ownsTicket scope.organizationId (Db.part scope.organizationId db) ticketId) =
      (db.classifications.lookup ticketId).filter fun _ => ownsTicket scope.organizationId db ticketId := by
    rw [ownsTicket_part]
    exact filter_lookup_keepRows fun _ _ => Bool.and_self _
  exact congrArg (fun row => (Except.ok row, Db.part scope.organizationId db)) hrow

theorem simulates_getTicketResponse (hdb : Attached db) :
    Simulates (Db.part scope.organizationId) (Tickets.getTicket scope ticketId) (Tickets.getTicket scope ticketId) db := by
  refine .bind (simulates_getTicket rfl hdb) fun ticket _ _ => .bind simulates_getByTicketId fun _ _ _ => ?_
  exact .ite Iff.rfl (fun _ => .pure _) fun _ => .pure _

theorem simulates_listMessages {createdAt : Uuid → Int} (hdb : Attached db) :
    Simulates (Db.part scope.organizationId) (Tickets.listMessages scope createdAt ticketId)
      (Tickets.listMessages scope createdAt ticketId) db := by
  refine .bind (simulates_getTicket rfl hdb) fun ticket db₁ hget => ?_
  obtain rfl := (looksUp_getOr404 _ _ _ _).same hget
  obtain ⟨hticket, horg⟩ := getTicket_ok hget
  refine .store_bind ?_
  have hrows : ((Db.part scope.organizationId db₁).messages.select fun _ m =>
        m.ticketId = ticketId && (scope.role.isStaff || !m.isAiSuggestion)) =
      db₁.messages.select fun _ m => m.ticketId = ticketId && (scope.role.isStaff || !m.isAiSuggestion) := by
    refine Table.select_keepRows_of fun _ m _ hm => ?_
    rw [Bool.and_eq_true] at hm
    obtain rfl : m.ticketId = ticketId := of_decide_eq_true hm.1
    exact ownsTicket_of hticket horg
  rw [hrows]
  exact .pure _

theorem simulates_listCategories {includeInactive : Bool} :
    Simulates (Db.part scope.organizationId) (listCategories scope includeInactive)
      (listCategories scope includeInactive) db := by
  refine .store_bind ?_
  have hrows : ((Db.part scope.organizationId db).categories.select fun _ c =>
        scope.selectsCategory c && (includeInactive || c.active)) =
      db.categories.select fun _ c => scope.selectsCategory c && (includeInactive || c.active) :=
    Table.select_keepRows_of fun _ c _ hc => ((Bool.and_eq_true _ _).mp hc).1
  rw [hrows]
  exact .pure _

theorem simulates_listUrgencyLevels {includeInactive : Bool} :
    Simulates (Db.part scope.organizationId) (listUrgencyLevels scope includeInactive)
      (listUrgencyLevels scope includeInactive) db := by
  refine .store_bind ?_
  have hrows : ((Db.part scope.organizationId db).urgencyLevels.select fun _ u =>
        scope.selectsUrgencyLevel u && (includeInactive || u.active)) =
      db.urgencyLevels.select fun _ u => scope.selectsUrgencyLevel u && (includeInactive || u.active) :=
    Table.select_keepRows_of fun _ u _ hu => ((Bool.and_eq_true _ _).mp hu).1
  rw [hrows]
  exact .pure _

theorem simulates_listProperties :
    Simulates (Db.part scope.organizationId) (Directory.listProperties scope) (Directory.listProperties scope) db := by
  refine .store_bind ?_
  have hrows : ((Db.part scope.organizationId db).properties.select fun _ p => scope.selectsProperty p) =
      db.properties.select fun _ p => scope.selectsProperty p := by
    refine Table.select_keepRows_of fun _ p _ hp => ?_
    unfold OrgScope.selectsProperty at hp
    grind
  rw [hrows]
  exact .pure _

theorem simulates_listContracts :
    Simulates (Db.part scope.organizationId) (Directory.listContracts scope) (Directory.listContracts scope) db := by
  refine .store_bind ?_
  have hrows : ((Db.part scope.organizationId db).contracts.select fun _ c =>
        scope.selectsContract (Db.part scope.organizationId db) c) =
      db.contracts.select fun _ c => scope.selectsContract db c := by
    refine Table.select_keepRows_congr fun _ c _ => ?_
    rw [selectsContract_part rfl]
    exact Bool.and_eq_right_iff_imp.mpr fun hsees => part_of_selectsContract rfl hsees
  rw [hrows]
  exact .pure _

theorem simulates_listUsers {role : Option UserRole} {status : Option UserStatus} :
    Simulates (Db.part scope.organizationId) (Directory.listUsers scope role status)
      (Directory.listUsers scope role status) db := by
  refine .store_bind ?_
  have hrows : ((Db.part scope.organizationId db).users.select fun _ user =>
        scope.selectsUser user && role.all (user.role = ·) && status.all (user.status = ·)) =
      db.users.select fun _ user =>
        scope.selectsUser user && role.all (user.role = ·) && status.all (user.status = ·) := by
    refine Table.select_keepRows_of fun _ user _ huser => ?_
    rw [Bool.and_assoc, Bool.and_eq_true] at huser
    exact huser.1
  rw [hrows]
  exact .pure _

/-! ## Routes

All of it together, one case for each route. -/

/-- **A route** does on the part of its organization what it does on the whole database. -/
theorem simulates_serve (env : Env) (route : Route) (hdb : Attached db) (hisolated : Isolated db)
    (hscope : UserOf db scope.organizationId scope.userId) (hkeys : route.NewKeys db)
    (hown : route.OwnIds db scope.organizationId) :
    Simulates (Db.part scope.organizationId) (route.serve env scope) (route.serve env scope) db := by
  cases route with
  | listTickets filters => exact .map _ (.mapError _ (simulates_listTickets hdb))
  | getTicket ticketId => exact .map _ (.mapError _ (simulates_getTicketResponse hdb))
  | createTicket ticketId anchor p => exact .map _ (.mapError _ (simulates_createTicket hdb hscope hkeys hown))
  | updateTicket ticketId patch d => exact .map _ (.mapError _ (simulates_updateTicket hdb hown hkeys))
  | listMessages ticketId => exact .map _ (.mapError _ (simulates_listMessages hdb))
  | createMessage newId ticketId content basedOnSuggestionId =>
    exact .map _ (.mapError _ (simulates_createMessage hdb hkeys))
  | listCategories includeInactive => exact .map _ (.mapError _ simulates_listCategories)
  | getCategory id => exact .map _ (.mapError _ (simulates_taxonomyGet rfl parted_categoryTable))
  | createCategory id name description =>
    exact .map _ (.mapError _ (parted_categoryTable.simulates_create rfl hkeys))
  | updateCategory id fields => exact .map _ (.mapError _ (parted_categoryTable.simulates_update fun _ => rfl))
  | deleteCategory id => exact .map _ (.mapError _ (parted_categoryTable.simulates_deleteOrDeactivate hisolated.1))
  | listUrgencyLevels includeInactive => exact .map _ (.mapError _ simulates_listUrgencyLevels)
  | getUrgencyLevel id => exact .map _ (.mapError _ (simulates_taxonomyGet rfl parted_urgencyTable))
  | createUrgencyLevel id name slaHours sortOrder respectsBusinessHours =>
    exact .map _ (.mapError _ (parted_urgencyTable.simulates_create rfl hkeys))
  | updateUrgencyLevel id fields => exact .map _ (.mapError _ (parted_urgencyTable.simulates_update fun _ => rfl))
  | deleteUrgencyLevel id =>
    exact .map _ (.mapError _ (parted_urgencyTable.simulates_deleteOrDeactivate hisolated.2))
  | listProperties => exact .map _ simulates_listProperties
  | getProperty propertyId => exact .map _ (.mapError _ (simulates_getProperty rfl))
  | createProperty id ownerId address type => exact .map _ (simulates_createProperty hdb hkeys)
  | updateProperty propertyId fields => exact .map _ (simulates_updateProperty hdb)
  | deleteProperty propertyId now => exact .map _ (simulates_deleteProperty hdb)
  | listContracts => exact .map _ simulates_listContracts
  | getContract contractId => exact .map _ (.mapError _ (simulates_getContract rfl))
  | createContract id propertyId tenantId startDate endDate => exact .map _ (simulates_createContract hkeys)
  | updateContract contractId status => exact .map _ simulates_updateContract
  | listUsers role status => exact .map _ simulates_listUsers
  | getUser userId => exact .map _ (.mapError _ (simulates_getUser rfl))
  | updateUser userId fields => exact .map _ simulates_updateUser
  | disableUser userId => exact .map _ simulates_disableUser

end Helpdesk.Tenancy
