import Helpdesk.Tenancy.Apart

/-! # What needs which role

Two results on what a run can do without the people who may do it. Both are about the part of one
organization, and whatever the members of the others send.

* **`directory_of_run`**: without a request of one of its administrators, the users, the directory and the
  taxonomy of an organization stay as they are; so nobody becomes an administrator by themselves.
* **`undecided_of_run`**: without a request of its staff, and without its classifier, nothing is decided about
  its tickets.

In both, the condition is on the requests as the first database sees them. It stays true along the run, since
the roles do not change (`by_part`). -/

namespace Helpdesk.Tenancy

open Run
open Tx (Spares)
open Directory (ofService)
open Tickets (TicketPatch UpdateDraws)

variable {env : Env} {db db' db'' : Db} {scope : OrgScope} {organizationId id ticketId : Uuid}

/-- The request is one of an active user of the organization with such a role. -/
def Request.By (role : UserRole → Prop) (db : Db) (organizationId : Uuid) : Request → Prop
  | call principal _ => ∃ user, db.users.lookup principal = some user ∧ user.organizationId = some organizationId ∧
      user.status = .active ∧ role user.role
  | classifyTicket .. => False

/-- A request that is served in the organization is one of a user with the role of the scope. -/
theorem Authorized.by {role : UserRole → Prop} {principal : Uuid} {route : Route} {guard : Guard}
    (h : Authorized db principal guard scope) (hrole : role scope.role) :
    (Request.call principal route).By role db scope.organizationId := by
  obtain ⟨user, hlookup, hactive, horg, hsame⟩ := h.user
  exact ⟨user, hlookup, horg, hactive, hsame ▸ hrole⟩

/-! ## Administrators

A route either has the administrators' guard, or leaves the five tables alone (`spares_directory`). Requests of
other organizations do not touch the part, by what is known of them already. -/

/-- The tables that administrators edit. -/
def directoryOf (db : Db) : Table Uuid User × Table Uuid Property × Table Uuid Contract × Table Uuid Category ×
    Table Uuid UrgencyLevel :=
  (db.users, db.properties, db.contracts, db.categories, db.urgencyLevels)

theorem directoryOf_part (h : directoryOf db' = directoryOf db) :
    directoryOf (db'.part organizationId) = directoryOf (db.part organizationId) := by
  unfold directoryOf at h
  obtain ⟨husers, hproperties, hcontracts, hcategories, hlevels⟩ := by simpa only [Prod.mk.injEq] using h
  unfold directoryOf Db.part
  rw [husers, hproperties, hcontracts, hcategories, hlevels]

/-- A route that is not an administrator's does not write what administrators edit. -/
theorem spares_directory (env : Env) {route : Route} (hguard : route.guard ≠ .orgAdmin) :
    Spares directoryOf (route.serve env scope) db := by
  have hread : ∀ {α : Type} {x : Service α} {k : α → Response}, LooksUp x → Spares directoryOf (k <$> ofService x) db :=
    fun hx => .map _ (.mapError _ (spares_lookup hx))
  cases route with
  | listTickets filters => exact hread (LooksUp.bind LooksUp.store fun _ => LooksUp.pure _)
  | getTicket ticketId => exact hread looksUp_getTicket
  | createTicket ticketId anchor p =>
    exact .map _ (.mapError _ (Tickets.wp_createTicket_columns (fun _ _ _ _ _ _ _ _ => rfl) fun _ _ _ => trivial))
  | updateTicket ticketId patch d =>
    refine .map _ (.mapError _ (Tickets.wp_updateTicket (fun _ _ _ _ _ _ _ _ _ hcommits => ?_) fun _ _ _ => trivial))
    obtain ⟨tickets, classifications, slaEvents, rfl⟩ := hcommits.frame
    rfl
  | listMessages ticketId => exact hread looksUp_listMessages
  | createMessage newId ticketId content basedOnSuggestionId =>
    exact .map _ (.mapError _ (Tickets.wp_createMessage fun _ _ _ _ _ _ _ => rfl))
  | listCategories includeInactive => exact hread (LooksUp.bind LooksUp.store fun _ => LooksUp.pure _)
  | getCategory id => exact hread (looksUp_getOr404 _ _ _ _)
  | getUrgencyLevel id => exact hread (looksUp_getOr404 _ _ _ _)
  | getProperty propertyId => exact hread (looksUp_getOr404 _ _ _ _)
  | getContract contractId => exact hread (looksUp_getOr404 _ _ _ _)
  | listUrgencyLevels includeInactive => exact hread (LooksUp.bind LooksUp.store fun _ => LooksUp.pure _)
  | listProperties => exact .map _ (.store_bind (.pure _))
  | listContracts => exact .map _ (.store_bind (.pure _))
  | _ => exact absurd rfl hguard

theorem directory_step (env : Env) (hdb : Attached db) {r : Request} (hr : ¬ r.By (· = .admin) db organizationId) :
    directoryOf ((r.step env db).part organizationId) = directoryOf (db.part organizationId) := by
  by_cases hconcerns : r.Concerns db organizationId
  · refine directoryOf_part ?_
    cases r with
    -- under a scope of the organization, whose user is no administrator
    | call principal route =>
      unfold Request.step
      obtain ⟨scope, hauthorized, hserve⟩ | ⟨e, hrefused⟩ := settle_call env principal route db
      · obtain rfl := hauthorized.organizationId_eq hconcerns
        have hguard : route.guard ≠ .orgAdmin := fun hadmin => hr (hauthorized.by (hauthorized.admin hadmin))
        rw [hserve]
        exact (spares_directory env hguard).settle
      · rw [hrefused]
    -- the classifier writes to tickets and classifications
    | classifyTicket m jobTry ticketId jobOrganizationId =>
      refine Spares.settle (.map _ (.mapError _ ?_))
      exact Tickets.wp_classifyTicket_result rfl (fun _ _ _ _ _ _ _ _ _ _ _ _ _ => rfl) fun _ _ _ => trivial
  · rw [part_step_of_other env hdb hconcerns]

/-- A user of the organization has the role that it has in the directory. -/
theorem by_part {role : UserRole → Prop} {r : Request}
    (h : directoryOf (db'.part organizationId) = directoryOf (db.part organizationId)) :
    r.By role db' organizationId ↔ r.By role db organizationId := by
  cases r with
  | classifyTicket => exact Iff.rfl
  | call principal route =>
    have husers : (db'.part organizationId).users = (db.part organizationId).users := congrArg Prod.fst h
    refine exists_congr fun user => ?_
    have hrow : ∀ s : Db, (s.users.lookup principal = some user ∧ user.organizationId = some organizationId ∧
        user.status = .active ∧ role user.role) ↔
          (s.part organizationId).users.lookup principal = some user ∧ user.status = .active ∧ role user.role := by
      intro s
      show _ ↔ (Table.keepRows _ s.users).lookup principal = some user ∧ _
      rw [Table.lookup_keepRows, Option.filter_eq_some_iff, decide_eq_true_iff, and_assoc]
    rw [hrow db', hrow db, husers]

/-- **Without an administrator's request**, whoever else sends whatever, the users, properties, contracts and the
    taxonomy of an organization are what they were. -/
theorem directory_of_run (env : Env) (db : Db) (hdb : Attached db) (organizationId : Uuid) (requests : List Request)
    (hrequests : ∀ r ∈ requests, ¬ r.By (· = .admin) db organizationId) :
    directoryOf ((run (Request.step env) db requests).part organizationId) = directoryOf (db.part organizationId) := by
  have hsteps : AllSteps (Request.step env) (fun _ r => r ∈ requests) db requests := allSteps_mem db requests
  refine (inv_of_preserved (I := fun s =>
    Attached s ∧ directoryOf (s.part organizationId) = directoryOf (db.part organizationId)) ?_ ⟨hdb, rfl⟩ hsteps).2
  intro s r h hr
  -- who is an administrator now has been one in the beginning
  have hnot : ¬ r.By (· = .admin) s organizationId := fun hby => hrequests r hr ((by_part h.2).mp hby)
  exact ⟨attached_step env h.1 r, (directory_step env h.1 hnot).trans h.2⟩

/-- The tenant files a ticket and reopens it, and the owner tries to get rid of the administrator. -/
def customerRequests : List Request :=
  [.call 14 (.createTicket 50 (days 739000) ⟨none, none, "Leak", none, none, none, .web⟩),
    .call 14 (.updateTicket 50 ⟨some .open, none, none, none⟩ ⟨days 739001, 70, days 739001⟩),
    .call 13 (.disableUser 12)]

theorem not_by {role : UserRole → Prop} {principal : Uuid} {route : Route} (user : User)
    (hlookup : db.users.lookup principal = some user) (hrole : ¬ role user.role) :
    ¬ (Request.call principal route).By role db organizationId := by
  rintro ⟨user', hlookup', -, -, hrole'⟩
  obtain rfl := Option.some.inj (hlookup.symm.trans hlookup')
  exact hrole hrole'

theorem directory_of_run_customers :
    directoryOf ((run (Request.step plainEnv) membersDb customerRequests).part 1) = directoryOf (membersDb.part 1) := by
  have htenant : ∀ route, ¬ (Request.call 14 route).By (· = .admin) membersDb 1 :=
    fun _ => not_by ⟨some 1, "Tenant", "tenant@example.com", .tenant, none, .active, none⟩ rfl (by decide)
  have howner : ∀ route, ¬ (Request.call 13 route).By (· = .admin) membersDb 1 :=
    fun _ => not_by ⟨some 1, "Owner", "owner@example.com", .owner, none, .active, none⟩ rfl (by decide)
  exact directory_of_run plainEnv membersDb attached_members 1 customerRequests (List.forall_mem_cons.mpr
    ⟨htenant _, List.forall_mem_cons.mpr ⟨htenant _, List.forall_mem_singleton.mpr (howner _)⟩⟩)

/-! ## Staff

`Undecided` is what customers may do: file tickets, write messages under their own kind, and move a ticket
between statuses that settle nothing. It is reflexive and transitive, so it can be shown request by request. -/

/-- `resolved` and `closed`. -/
def settled (status : TicketStatus) : Prop := status = .resolved ∨ status = .closed

/-- What staff and the classifier decide about a ticket. -/
def decisions (t : Ticket) : Option Uuid × Option Uuid × Option Uuid × ClassificationStatus × Option Int :=
  (t.agentId, t.categoryId, t.urgencyId, t.classificationStatus, t.slaDueAt)

/-- Nobody but customers has been at work between the two. They may file tickets, write messages, and set a ticket
    to a status that settles nothing. -/
structure Undecided (db db' : Db) : Prop where
  directory : directoryOf db' = directoryOf db
  classifications : db'.classifications = db.classifications
  slaEvents : db'.slaEvents = db.slaEvents
  kept : ∀ id t, db.tickets.lookup id = some t → ∃ t', db'.tickets.lookup id = some t' ∧
    decisions t' = decisions t ∧ (settled t'.status → t'.status = t.status)
  filed : ∀ id t', db'.tickets.lookup id = some t' → db.tickets.lookup id = none →
    t'.agentId = none ∧ t'.classificationStatus = .pending ∧ ¬ settled t'.status
  messages : ∀ id m, db'.messages.lookup id = some m → db.messages.lookup id = none →
    m.authorType = .user ∧ m.isAiSuggestion = false
  messagesKept : ∀ id m, db.messages.lookup id = some m → db'.messages.lookup id = some m

theorem Undecided.refl (db : Db) : Undecided db db where
  directory := rfl
  classifications := rfl
  slaEvents := rfl
  kept := fun _ t h => ⟨t, h, rfl, fun _ => rfl⟩
  filed := fun _ _ h hnone => by
    rw [h] at hnone
    cases hnone
  messages := fun _ _ h hnone => by
    rw [h] at hnone
    cases hnone
  messagesKept := fun _ _ h => h

theorem Undecided.trans (h : Undecided db db') (h' : Undecided db' db'') : Undecided db db'' where
  directory := h'.directory.trans h.directory
  classifications := h'.classifications.trans h.classifications
  slaEvents := h'.slaEvents.trans h.slaEvents
  kept := fun id t ht => by
    obtain ⟨t', ht', hsame, hstatus⟩ := h.kept id t ht
    obtain ⟨t'', ht'', hsame', hstatus'⟩ := h'.kept id t' ht'
    refine ⟨t'', ht'', hsame'.trans hsame, fun hsettled => ?_⟩
    have heq := hstatus' hsettled
    exact heq.trans (hstatus (heq ▸ hsettled))
  filed := fun id t'' ht'' hnone => by
    cases ht' : db'.tickets.lookup id with
    | none => exact h'.filed id t'' ht'' ht'
    | some t' =>
      obtain ⟨hagent, hpending, hopen⟩ := h.filed id t' ht' hnone
      obtain ⟨t₁, ht₁, hsame, hstatus⟩ := h'.kept id t' ht'
      obtain rfl := Option.some.inj (ht''.symm.trans ht₁)
      obtain ⟨hagent', -, -, hclassification, -⟩ := by simpa only [decisions, Prod.mk.injEq] using hsame
      refine ⟨hagent'.trans hagent, hclassification.trans hpending, fun hsettled => ?_⟩
      exact hopen (hstatus hsettled ▸ hsettled)
  messages := fun id m hm hnone => by
    cases hm' : db'.messages.lookup id with
    | none => exact h'.messages id m hm hm'
    | some m' =>
      obtain rfl := Option.some.inj (hm.symm.trans (h'.messagesKept id m' hm'))
      exact h.messages id m hm' hnone
  messagesKept := fun id m hm => h'.messagesKept id m (h.messagesKept id m hm)

theorem undecided_insertTicket {row : Ticket} (hfresh : db.tickets.lookup id = none) (hagent : row.agentId = none)
    (hpending : row.classificationStatus = .pending) (hopen : ¬ settled row.status) :
    Undecided db { db with tickets := AList.insert id row db.tickets } :=
  { Undecided.refl db with
    kept := fun id' t ht => by
      have hsame : SameAt (fun t => t) db.tickets (AList.insert id row db.tickets) := sameAt_insert hfresh
      obtain ⟨t', ht', rfl⟩ := hsame id' t ht
      exact ⟨t', ht', rfl, fun _ => rfl⟩
    filed := fun id' t ht hnone => by
      rw [Table.lookup_insert] at ht
      split at ht
      · cases ht
        exact ⟨hagent, hpending, hopen⟩
      · rw [ht] at hnone
        cases hnone }

theorem undecided_modifyTicket {loaded row : Ticket} (hloaded : db.tickets.lookup id = some loaded)
    (hsame : decisions row = decisions loaded) (hstatus : settled row.status → row.status = loaded.status) :
    Undecided db { db with tickets := db.tickets.modify id fun _ => row } :=
  { Undecided.refl db with
    kept := fun id' t ht => by
      by_cases hid : id' = id
      · subst hid
        obtain rfl := Option.some.inj (hloaded.symm.trans ht)
        exact ⟨row, by rw [Table.lookup_modify_self, hloaded, Option.map_some], hsame, hstatus⟩
      · exact ⟨t, by rw [Table.lookup_modify_of_ne _ hid, ht], rfl, fun _ => rfl⟩
    filed := fun id' t ht hnone => by
      by_cases hid : id' = id
      · subst hid
        rw [hloaded] at hnone
        cases hnone
      · rw [Table.lookup_modify_of_ne _ hid, hnone] at ht
        cases ht }

theorem undecided_insertMessage {row : Message} (hfresh : db.messages.lookup id = none) (huser : row.authorType = .user)
    (hsuggestion : row.isAiSuggestion = false) :
    Undecided db { db with messages := AList.insert id row db.messages } :=
  { Undecided.refl db with
    messages := fun id' m hm hnone => by
      rw [Table.lookup_insert] at hm
      split at hm
      · cases hm
        exact ⟨huser, hsuggestion⟩
      · rw [hm] at hnone
        cases hnone
    messagesKept := fun id' m hm => by
      have hsame : SameAt (fun m => m) db.messages (AList.insert id row db.messages) := sameAt_insert hfresh
      obtain ⟨m', hm', rfl⟩ := hsame id' m hm
      exact hm' }

/-! ## What customers do

Only three of the routes that are open to customers write anything. Of the update the role gates leave a
status, and not one of the two that settle. -/

theorem undecided_createTicket {env : Tickets.Env} {anchor : Int} {p : Tickets.TicketCreate} (hdb : Joined db) :
    Tx.wp (Tickets.createTicket env scope ticketId anchor p)
      (fun _ db' => Undecided (db.part scope.organizationId) (db'.part scope.organizationId)) (fun _ => True) db := by
  refine Tickets.wp_createTicket_columns (fun row urgency slaDueAt hfresh _ _ hcols _ => ?_) fun _ _ _ => trivial
  have horg : row.organizationId = scope.organizationId := by rw [hcols]; rfl
  have hpart : (db.part scope.organizationId).tickets.lookup ticketId = none := by
    show (Table.keepRows _ db.tickets).lookup ticketId = none
    rw [Table.lookup_keepRows, hfresh, Option.filter_none]
  rw [part_withTickets hdb (sameAt_insert hfresh), Table.keepRows_insert (by exact decide_eq_true horg)]
  refine undecided_insertTicket hpart (by rw [hcols]; rfl) (by rw [hcols]; rfl) ?_
  have hopen : row.status = .open := by rw [hcols]; rfl
  rw [hopen]
  unfold settled
  decide

/-- What the role gates let through of a customer's patch. -/
theorem checkUpdateRoles_ok {patch : TicketPatch} (hrole : scope.role.isStaff = false)
    (h : Tx.exec (Tickets.checkUpdateRoles scope patch) db = (.ok (), db')) :
    patch.agentId = none ∧ patch.setsTaxonomy = false ∧ patch.status ≠ some .resolved ∧ patch.status ≠ some .closed := by
  simp only [Tickets.checkUpdateRoles, Tx.exec_ite, hrole] at h
  split at h
  · cases h
  split at h
  · cases h
  split at h
  · cases h
  grind

/-- **A customer's update** assigns a status at most. -/
theorem undecided_updateTicket {env : Tickets.Env} {patch : TicketPatch} {d : UpdateDraws} (hdb : Joined db)
    (hrole : scope.role.isStaff = false) :
    Tx.wp (Tickets.updateTicket env scope ticketId patch d)
      (fun _ db' => Undecided (db.part scope.organizationId) (db'.part scope.organizationId)) (fun _ => True) db := by
  unfold Tickets.updateTicket
  rw [Tx.wp_bind]
  refine (Tickets.looksUp_loadTicket _ _).wp (fun loaded hload => ?_) fun _ _ => trivial
  obtain ⟨hloaded, horg⟩ := loadTicket_ok hload
  obtain ⟨_, _, hroles, -⟩ := Tx.bind_ok.mp hload
  obtain ⟨hagent, hsets, hresolved, hclosed⟩ := checkUpdateRoles_ok hrole hroles
  rw [Tx.wp_bind]
  refine (Tickets.looksUp_resolveUpdate _ _ _).wp (fun assigned hresolve => ?_) fun _ _ => trivial
  obtain ⟨hassigned, hkept⟩ := Tickets.resolveUpdate_ok hresolve
  -- no taxonomy is set, so neither these columns nor the due date are assigned
  obtain ⟨hcategory, hurgency, hdue⟩ := hkept hsets
  unfold Tickets.commitUpdate
  rw [Tx.wp_bind, Tx.wp_when]
  refine ⟨fun h => absurd h (by simp [hsets]), fun _ => ?_⟩
  rw [Tx.wp_bind]
  refine (looksUp_getOr404 _ _ _ _).wp (fun _ _ => ?_) fun _ _ => trivial
  rw [Tx.wp_bind]
  refine Tx.wp_of_forall_ok fun row db₁ hflush => ?_
  obtain ⟨current, hcurrent, hrow, rfl⟩ := flushTicket_ok hflush
  obtain rfl := Option.some.inj (hcurrent.symm.trans hloaded)
  -- the status does not enter `resolved` or `closed`, so no event is recorded
  have hentered : Tickets.enteredResolvedOrClosed current.status patch.status = false := by
    unfold Tickets.enteredResolvedOrClosed
    grind
  simp only [Tx.wp_bind, Tx.wp_when, Tx.wp_pure, hentered]
  refine ⟨fun h => absurd h (by simp), fun _ => ?_⟩
  rw [TicketColumns.writeBack_loaded] at hrow
  have hrowOrg : row.organizationId = current.organizationId := by rw [hrow]
  have hsame : ∀ old, db.tickets.lookup ticketId = some old → row.organizationId = old.organizationId := by
    intro old hold
    rw [hrowOrg, Option.some.inj (hold.symm.trans hcurrent)]
  rw [part_withTickets hdb (sameAt_modify hsame), Table.keepRows_modify fun old hold => by rw [hsame old hold]]
  refine undecided_modifyTicket (Table.lookup_keepRows_of hcurrent (decide_eq_true horg)) ?_ ?_
  · -- what has been decided is what it was
    unfold decisions
    rw [hrow, hcategory, hurgency, hdue, agentId_resolveUpdate hresolve, hagent, Option.none_or]
    have hclassification : assigned.classificationStatus = current.classificationStatus := by
      rw [hassigned]
      unfold TicketPatch.assignStatus
      split <;> rfl
    rw [hclassification]
  · -- the status is another one that settles nothing, or the old one
    have hstatus : row.status = assigned.status := by rw [hrow]
    rw [hstatus, hassigned]
    unfold TicketPatch.assignStatus settled
    grind

theorem undecided_createMessage {newId : Uuid} {content : String} {basedOnSuggestionId : Option Uuid}
    (hrole : scope.role.isStaff = false) :
    Tx.wp (Tickets.createMessage scope newId ticketId content basedOnSuggestionId)
      (fun _ db' => Undecided (db.part scope.organizationId) (db'.part scope.organizationId)) (fun _ => True) db := by
  unfold Tickets.createMessage
  rw [Tx.wp_bind]
  refine (looksUp_getOr404 _ _ _ _).wp (fun ticket hget => ?_) fun _ _ => trivial
  obtain ⟨hticket, horg⟩ := getTicket_ok hget
  rw [Tx.wp_bind]
  refine Tickets.looksUp_validateSuggestionReference.wp (fun _ _ => ?_) fun _ _ => trivial
  rw [Tx.wp_bind]
  unfold insertMessage
  split
  · simp only [Tx.wp_bind, Tx.wp_store, Tx.wp_orRaise, Tx.wp_ite, Tx.wp_write, Tx.wp_pure, Tx.wp_raise, implies_true,
      and_true]
    intro messages hinsert _
    obtain ⟨hfresh, rfl⟩ := Table.insertNew_eq_some.mp hinsert
    have hpart : (db.part scope.organizationId).messages.lookup newId = none := by
      show (Table.keepRows _ db.messages).lookup newId = none
      rw [Table.lookup_keepRows, hfresh, Option.filter_none]
    rw [part_withMessages (AList.insert newId _ _), Table.keepRows_insert (by exact ownsTicket_of hticket horg)]
    refine undecided_insertMessage hpart ?_ rfl
    show Tickets.authorTypeFor scope = .user
    unfold Tickets.authorTypeFor
    rw [hrole]
    rfl
  · rw [Tx.wp_raise]
    trivial

/-- **A customer's request** decides nothing. -/
theorem undecided_serve (env : Env) {route : Route} (hdb : Joined db) (hrole : scope.role.isStaff = false)
    (hguard : route.guard = .orgMember) :
    Tx.wp (route.serve env scope)
      (fun _ db' => Undecided (db.part scope.organizationId) (db'.part scope.organizationId)) (fun _ => True) db := by
  have hread : ∀ {α : Type} {x : Service α} {k : α → Response}, LooksUp x → Tx.wp (k <$> ofService x)
      (fun _ db' => Undecided (db.part scope.organizationId) (db'.part scope.organizationId)) (fun _ => True) db :=
    fun hx => Tx.wp_map.mpr (wp_ofService (hx.wp (fun _ _ => Undecided.refl _) fun _ _ => trivial))
  cases route with
  | listTickets filters => exact hread (LooksUp.bind LooksUp.store fun _ => LooksUp.pure _)
  | getTicket ticketId => exact hread looksUp_getTicket
  | createTicket ticketId anchor p => exact Tx.wp_map.mpr (wp_ofService (undecided_createTicket hdb))
  | updateTicket ticketId patch d => exact Tx.wp_map.mpr (wp_ofService (undecided_updateTicket hdb hrole))
  | listMessages ticketId => exact hread looksUp_listMessages
  | createMessage newId ticketId content basedOnSuggestionId =>
    exact Tx.wp_map.mpr (wp_ofService (undecided_createMessage hrole))
  | _ => cases hguard

/-- A request of the organization's staff, or a job of its classifier. -/
def Request.Decides (db : Db) (organizationId : Uuid) (r : Request) : Prop :=
  r.By (fun role => role.isStaff = true) db organizationId ∨
    ∃ m jobTry ticketId, r = .classifyTicket m jobTry ticketId organizationId

theorem undecided_step (env : Env) (hdb : Attached db) {r : Request} (hr : ¬ r.Decides db organizationId) :
    Undecided (db.part organizationId) ((r.step env db).part organizationId) := by
  by_cases hconcerns : r.Concerns db organizationId
  · cases r with
    | call principal route =>
      unfold Request.step
      obtain ⟨scope, hauthorized, hserve⟩ | ⟨e, hrefused⟩ := settle_call env principal route db
      · obtain rfl := hauthorized.organizationId_eq hconcerns
        have hrole : scope.role.isStaff = false := by
          rw [← Bool.not_eq_true]
          exact fun hstaff => hr (.inl (hauthorized.by hstaff))
        -- the other two guards let only staff through
        have hguard : route.guard = .orgMember := by
          cases h : route.guard with
          | orgMember => rfl
          | orgStaff =>
            rw [hauthorized.staff h] at hrole
            cases hrole
          | orgAdmin =>
            rw [hauthorized.admin h] at hrole
            cases hrole
        rw [hserve]
        exact Tx.settle_post
          (P := fun db' : Db => Undecided (db.part scope.organizationId) (db'.part scope.organizationId))
          (undecided_serve env hdb.joined hrole hguard) (Undecided.refl _)
      · rw [hrefused]
        exact Undecided.refl _
    | classifyTicket m jobTry ticketId jobOrganizationId =>
      obtain rfl : jobOrganizationId = organizationId := hconcerns
      exact absurd (.inr ⟨m, jobTry, ticketId, rfl⟩) hr
  · rw [part_step_of_other env hdb hconcerns]
    exact Undecided.refl _

/-- **Without the staff** of an organization, and without its classifier, nothing is decided there: no ticket gets an
    agent or another taxonomy, none is resolved or closed, and nobody writes under the name of an agent. -/
theorem undecided_of_run (env : Env) (db : Db) (hdb : Attached db) (organizationId : Uuid) (requests : List Request)
    (hrequests : ∀ r ∈ requests, ¬ r.Decides db organizationId) :
    Undecided (db.part organizationId) ((run (Request.step env) db requests).part organizationId) := by
  have hsteps : AllSteps (Request.step env) (fun _ r => r ∈ requests) db requests := allSteps_mem db requests
  refine (inv_of_preserved (I := fun s => Attached s ∧ Undecided (db.part organizationId) (s.part organizationId)) ?_
    ⟨hdb, Undecided.refl _⟩ hsteps).2
  intro s r h hr
  have hnot : ¬ r.Decides s organizationId := by
    rintro (hby | hjob)
    · exact hrequests r hr (.inl ((by_part h.2.directory).mp hby))
    · exact hrequests r hr (.inr hjob)
  exact ⟨attached_step env h.1 r, h.2.trans (undecided_step env h.1 hnot)⟩

theorem undecided_of_run_customers :
    Undecided (membersDb.part 1) ((run (Request.step plainEnv) membersDb customerRequests).part 1) := by
  have hcall : ∀ principal route user, membersDb.users.lookup principal = some user → ¬ user.role.isStaff = true →
      ¬ (Request.call principal route).Decides membersDb 1 := by
    intro principal route user hlookup hrole hdecides
    obtain hby | ⟨_, _, _, hjob⟩ := hdecides
    · exact not_by user hlookup hrole hby
    · cases hjob
  have htenant := fun route => hcall 14 route ⟨some 1, "Tenant", "tenant@example.com", .tenant, none, .active, none⟩ rfl (by decide)
  have howner := fun route => hcall 13 route ⟨some 1, "Owner", "owner@example.com", .owner, none, .active, none⟩ rfl (by decide)
  exact undecided_of_run plainEnv membersDb attached_members 1 customerRequests (List.forall_mem_cons.mpr
    ⟨htenant _, List.forall_mem_cons.mpr ⟨htenant _, List.forall_mem_singleton.mpr (howner _)⟩⟩)

end Helpdesk.Tenancy
