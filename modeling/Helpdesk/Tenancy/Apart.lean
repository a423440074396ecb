import Helpdesk.Tenancy.Serving

/-! # Organizations are apart

What the members of an organization are answered, and what is stored of it in the end, is what it would have
been had the requests of all other organizations never come. **`apart_of_run`** says so of every run, in which
the ids that nobody looks at are ids of the requesting organization.

The proof is an unwinding argument. A request of the organization does the same on its part alone
(`simulates_handle`); a request of another one leaves the part (`part_step_of_other`); and three invariants are
kept by every request: rows name rows of their own organization (`attached_step`), tickets have a taxonomy of
their own organization (`isolated_step`), and no row is lost or moves (`extends_step`). The last one makes it
sound to ask once, at the beginning of the run, whose request a request is. -/

namespace Helpdesk.Tenancy

open Run
open Tx (Spares)
open Tickets (TaxonomyTable OwnRows Isolated)
open Directory (ofService ofAccount)

variable {env : Env} {db db' : Db} {scope : OrgScope} {organizationId id ticketId : Uuid}

/-- What the request names, and what is drawn for it, is as it should be. -/
def Request.Sound (db : Db) : Request → Prop
  | call principal route =>
    route.NewKeys db ∧ ∀ organizationId, UserOf db organizationId principal → route.OwnIds db organizationId
  | classifyTicket .. => True

/-- `Request.Concerns`, decided. -/
def Request.ownedBy (db : Db) (organizationId : Uuid) : Request → Bool
  | call principal _ => (db.users.lookup principal).any fun u => u.organizationId = some organizationId
  | classifyTicket _ _ _ jobOrganizationId => jobOrganizationId = organizationId

theorem Request.ownedBy_iff {r : Request} : r.ownedBy db organizationId = true ↔ r.Concerns db organizationId := by
  cases r with
  | call principal route =>
    unfold Request.ownedBy Request.Concerns UserOf
    rw [Option.any_eq_true]
    simp only [decide_eq_true_eq]
  | classifyTicket m jobTry ticketId jobOrganizationId => exact decide_eq_true_iff

/-! ## Taxonomies stay apart

`Isolated` is the invariant of the taxonomy, of categories and of urgency levels in the same way. Only two
kinds of requests can break it: one that writes a ticket, and one that writes the taxonomy. All other routes
leave the three tables as they are (`spares_`). -/

/-- What `Isolated` is about. -/
def taxonomyOf (db : Db) : Table Uuid Ticket × Table Uuid Category × Table Uuid UrgencyLevel :=
  (db.tickets, db.categories, db.urgencyLevels)

theorem isolated_of_same (hdb : Isolated db) (h : taxonomyOf db' = taxonomyOf db) : Isolated db' := by
  unfold taxonomyOf at h
  obtain ⟨htickets, hcategories, hlevels⟩ := by simpa only [Prod.mk.injEq] using h
  exact ⟨(Tickets.isolates_same hdb.1 htickets hcategories).1, (Tickets.isolates_same hdb.2 htickets hlevels).1⟩

/-- What is written to a ticket is of the ticket's organization. -/
theorem ownRows_write {α : Type} {T : TaxonomyTable α} {row : Ticket} (h : OwnRows T db) (hrows : T.rows db' = T.rows db)
    (hstores : ∀ id, db'.tickets.lookup id = if id = ticketId then some row else db.tickets.lookup id)
    (hrow : ∀ id, T.column row.toTicketColumns = some id →
      ∃ entry, (T.rows db).lookup id = some entry ∧ T.organizationId entry = row.organizationId) : OwnRows T db' := by
  intro ticketId' t ht id hid
  rw [hrows]
  rw [hstores] at ht
  -- the ticket that is written, and all the others
  split at ht
  · obtain rfl := Option.some.inj ht
    exact hrow id hid
  · exact h ticketId' t ht id hid

/-- One ticket is written, with its old taxonomy or another one of the organization. -/
theorem isolated_write (ticketId : Uuid) (row : Ticket) (hdb : Isolated db) (hcategories : db'.categories = db.categories)
    (hlevels : db'.urgencyLevels = db.urgencyLevels)
    (hstores : ∀ id, db'.tickets.lookup id = if id = ticketId then some row else db.tickets.lookup id)
    (horg : ∀ old, db.tickets.lookup ticketId = some old → old.organizationId = row.organizationId)
    (hkeys : Ticket.foreignKeysOk db ((db.tickets.lookup ticketId).map (·.toTicketColumns)) row.toTicketColumns = true)
    (hown : OwnTaxonomy db row.organizationId ((db.tickets.lookup ticketId).map (·.toTicketColumns))
      row.toTicketColumns) : Isolated db' := by
  constructor
  · refine ownRows_write hdb.1 hcategories hstores fun id hid => ?_
    -- an id that the ticket has had is fine already; a new one passes its foreign key
    by_cases hold : ((db.tickets.lookup ticketId).map (·.toTicketColumns)).bind (·.categoryId) = some id
    · obtain ⟨c, hc, hcid⟩ := Option.bind_eq_some_iff.mp hold
      obtain ⟨old, hlookup, rfl⟩ := Option.map_eq_some_iff.mp hc
      rw [← horg old hlookup]
      exact hdb.1 ticketId old hlookup id hcid
    · obtain ⟨entry, hentry⟩ := Table.mem_iff_lookup.mp (Ticket.category_mem hkeys hid hold)
      exact ⟨entry, hentry, hown.category id entry hid hold hentry⟩
  · refine ownRows_write hdb.2 hlevels hstores fun id hid => ?_
    by_cases hold : ((db.tickets.lookup ticketId).map (·.toTicketColumns)).bind (·.urgencyId) = some id
    · obtain ⟨c, hc, hcid⟩ := Option.bind_eq_some_iff.mp hold
      obtain ⟨old, hlookup, rfl⟩ := Option.map_eq_some_iff.mp hc
      rw [← horg old hlookup]
      exact hdb.2 ticketId old hlookup id hcid
    · obtain ⟨entry, hentry⟩ := Table.mem_iff_lookup.mp (Ticket.urgency_mem hkeys hid hold)
      exact ⟨entry, hentry, hown.urgency id entry hid hold hentry⟩

theorem isolated_createTicket {env : Tickets.Env} {anchor : Int} {p : Tickets.TicketCreate} (hdb : Isolated db)
    (hown : (Route.createTicket ticketId anchor p).OwnIds db scope.organizationId) :
    Tx.wp (Tickets.createTicket env scope ticketId anchor p) (fun _ => Isolated) (fun _ => True) db := by
  refine Tickets.wp_createTicket_columns (fun row urgency slaDueAt hfresh hfetch _ hcols hkeys => ?_) fun _ _ _ => trivial
  have hrowOrg : row.organizationId = scope.organizationId := by rw [hcols]; rfl
  refine isolated_write ticketId row hdb rfl rfl (fun id => Table.lookup_insert db.tickets ticketId id row) (fun old hold => ?_) ?_ ?_
  · rw [hfresh] at hold
    cases hold
  · rw [hfresh]
    exact hkeys
  · rw [hfresh, hrowOrg, hcols]
    exact ownTaxonomy_create hown hfetch

theorem isolated_updateTicket {env : Tickets.Env} {patch : Tickets.TicketPatch} {d : Tickets.UpdateDraws}
    (hdb : Isolated db) (hown : (Route.updateTicket ticketId patch d).OwnIds db scope.organizationId) :
    Tx.wp (Tickets.updateTicket env scope ticketId patch d) (fun _ => Isolated) (fun _ => True) db := by
  refine Tickets.wp_updateTicket (fun loaded row assigned db' hloaded horg hresolve hcols hkeys hcommits => ?_)
    fun _ _ _ => trivial
  obtain ⟨tickets, classifications, slaEvents, rfl⟩ := hcommits.frame
  rw [TicketColumns.writeBack_loaded] at hcols
  have hrowOrg : row.organizationId = loaded.organizationId := by rw [hcols]
  refine isolated_write ticketId row hdb rfl rfl (fun id => ?_) (fun old hold => ?_) ?_ ?_
  · rw [hcommits.tickets, Table.lookup_modify]
    by_cases heq : id = ticketId
    · rw [if_pos heq, if_pos heq, heq, hloaded, Option.map_some]
    · rw [if_neg heq, if_neg heq]
  · rw [hrowOrg, Option.some.inj (hold.symm.trans hloaded)]
  · rw [hloaded]
    exact hkeys
  · have hassigned := ownTaxonomy_resolveUpdate hown hresolve
    rw [hloaded, hrowOrg, horg, hcols]
    exact ⟨hassigned.category, hassigned.urgency⟩

theorem isolated_of_isolates {γ : Type} {x : Service γ}
    (h : Tx.wp x (fun _ db' => Tickets.Isolates Tickets.categoryTable db db' ∧ Tickets.Isolates Tickets.urgencyTable db db')
      (fun _ => True) db) : Tx.wp x (fun _ => Isolated) (fun _ => True) db :=
  Tx.wp_mono h (fun _ _ h => ⟨h.1.1, h.2.1⟩) fun _ _ => trivial

theorem isolated_categories {γ : Type} {x : Service γ} (hdb : Isolated db)
    (hx : Tx.wp x (fun _ => Tickets.categoryTable.Edits db) (fun _ => True) db) :
    Tx.wp x (fun _ => Isolated) (fun _ => True) db :=
  isolated_of_isolates (Tickets.isolates_editCategories hdb hx)

theorem isolated_urgencyLevels {γ : Type} {x : Service γ} (hdb : Isolated db)
    (hx : Tx.wp x (fun _ => Tickets.urgencyTable.Edits db) (fun _ => True) db) :
    Tx.wp x (fun _ => Isolated) (fun _ => True) db :=
  isolated_of_isolates (Tickets.isolates_editUrgencyLevels hdb hx)

theorem spares_lookup {α τ : Type} {f : Db → τ} {x : Service α} (hx : LooksUp x) : Spares f x db :=
  hx.wp (fun _ _ => rfl) fun _ _ => trivial

theorem spares_requireNotNull {α : Type} {column : String} {value : Option (Option α)} :
    Spares taxonomyOf (Directory.requireNotNull column value) db :=
  wp_requireNotNull fun _ => rfl

theorem spares_flushUser {row : User} : Spares taxonomyOf (Auth.flushUser id row) db := by
  unfold Auth.flushUser
  exact .store_bind (.ite (.write rfl) (.raise _))

/-- The rest of the routes have nothing to do with taxonomies. -/
theorem spares_createMessage {newId : Uuid} {content : String} {basedOnSuggestionId : Option Uuid} :
    Spares taxonomyOf (Tickets.createMessage scope newId ticketId content basedOnSuggestionId) db :=
  Tickets.wp_createMessage fun _ _ _ _ _ _ _ => rfl

theorem spares_createProperty {ownerId : Uuid} {address : String} {type : PropertyType} :
    Spares taxonomyOf (Directory.createProperty scope id ownerId address type) db := by
  refine .bind (.mapError _ (spares_lookup (looksUp_getOr404 _ _ _ _))) fun owner db₁ => .ite (.raise _) (.mapError _ ?_)
  unfold Directory.insertProperty
  exact .store_bind (.orRaise_bind fun _ => .ite (.bind (.write rfl) fun _ _ => .pure _) (.raise _))

theorem spares_updateProperty {fields : Directory.PropertyUpdate} :
    Spares taxonomyOf (Directory.updateProperty scope id fields) db := by
  refine .bind (.mapError _ (spares_lookup (looksUp_getOr404 _ _ _ _))) fun row _ => ?_
  refine .bind spares_requireNotNull fun _ _ => .bind spares_requireNotNull fun _ _ => .mapError _ ?_
  exact .store_bind (.bind (.write rfl) fun _ _ => .pure _)

theorem spares_deleteProperty {now : Int} : Spares taxonomyOf (Directory.deleteProperty scope id now) db := by
  refine .bind (.mapError _ (spares_lookup (looksUp_getOr404 _ _ _ _))) fun row _ => .mapError _ ?_
  exact .store_bind (.bind (.write rfl) fun _ _ => .pure _)

theorem spares_createContract {propertyId tenantId : Uuid} {startDate endDate : Int} :
    Spares taxonomyOf (Directory.createContract scope id propertyId tenantId startDate endDate) db := by
  refine .bind (.mapError _ (spares_lookup (looksUp_getOr404 _ _ _ _))) fun property _ => ?_
  refine .bind (.mapError _ (spares_lookup (looksUp_getOr404 _ _ _ _))) fun tenant _ => .ite (.raise _) ?_
  refine .orRaise_bind fun row => .store_bind (.orRaise_bind fun _ => ?_)
  exact .ite (.bind (.write rfl) fun _ _ => .pure _) (.raise _)

theorem spares_updateContract {status : ContractStatus} :
    Spares taxonomyOf (Directory.updateContract scope id status) db := by
  refine .bind (.mapError _ (spares_lookup (looksUp_getOr404 _ _ _ _))) fun row _ => .mapError _ ?_
  exact .store_bind (.bind (.write rfl) fun _ _ => .pure _)

theorem spares_updateUser {fields : Directory.UserUpdate} :
    Spares taxonomyOf (Directory.updateUser scope id fields) db := by
  refine .bind (.mapError _ (spares_lookup (looksUp_getOr404 _ _ _ _))) fun user _ => ?_
  refine .bind spares_requireNotNull fun _ _ => .bind spares_requireNotNull fun role _ => ?_
  exact .bind (.mapError _ spares_flushUser) fun _ _ => .pure _

theorem spares_disableUser : Spares taxonomyOf (Directory.disableUser scope id) db := by
  refine .map _ (.mapError _ ?_)
  rw [disableUser_eq]
  refine .store_bind ?_
  cases db.users.lookup id with
  | none => exact .raise _
  | some user => exact .ite (.bind spares_flushUser fun _ _ => .pure _) (.raise _)

/-- **A route** whose ids are its organization's keeps taxonomies apart. -/
theorem isolated_serve (env : Env) (route : Route) (hdb : Isolated db) (hown : route.OwnIds db scope.organizationId) :
    Tx.wp (route.serve env scope) (fun _ => Isolated) (fun _ => True) db := by
  -- most routes leave the tickets and the taxonomy
  have hsame : ∀ {x : Directory.Handler Response}, Spares taxonomyOf x db → Tx.wp x (fun _ => Isolated) (fun _ => True) db :=
    fun hx => Tx.wp_mono hx (fun _ _ h => isolated_of_same hdb h) fun _ _ => trivial
  -- lookups leave everything
  have hread : ∀ {α : Type} {x : Service α} {k : α → Response}, LooksUp x →
      Tx.wp (k <$> ofService x) (fun _ => Isolated) (fun _ => True) db :=
    fun hx => hsame (.map _ (.mapError _ (spares_lookup hx)))
  have hlist : ∀ {α : Type} {rows : Db → α} {k : α → Response},
      Tx.wp (k <$> (do let db ← Tx.store; pure (rows db) : Directory.Handler α)) (fun _ => Isolated) (fun _ => True) db :=
    hsame (.map _ (.store_bind (.pure _)))
  cases route with
  | listTickets filters => exact hread (LooksUp.bind LooksUp.store fun _ => LooksUp.pure _)
  | getTicket ticketId => exact hread looksUp_getTicket
  | createTicket ticketId anchor p => exact Tx.wp_map.mpr (wp_ofService (isolated_createTicket hdb hown))
  | updateTicket ticketId patch d => exact Tx.wp_map.mpr (wp_ofService (isolated_updateTicket hdb hown))
  | listMessages ticketId => exact hread looksUp_listMessages
  | createMessage newId ticketId content basedOnSuggestionId => exact hsame (.map _ (.mapError _ spares_createMessage))
  | listCategories includeInactive => exact hread (LooksUp.bind LooksUp.store fun _ => LooksUp.pure _)
  | getCategory id => exact hread (looksUp_getOr404 _ _ _ _)
  | createCategory id name description =>
    exact Tx.wp_map.mpr (wp_ofService (isolated_categories hdb TaxonomyTable.wp_create))
  | updateCategory id fields =>
    exact Tx.wp_map.mpr (wp_ofService (isolated_categories hdb (TaxonomyTable.wp_update fun _ => rfl)))
  | deleteCategory id =>
    exact Tx.wp_map.mpr (wp_ofService (isolated_categories hdb TaxonomyTable.wp_deleteOrDeactivate))
  | listUrgencyLevels includeInactive => exact hread (LooksUp.bind LooksUp.store fun _ => LooksUp.pure _)
  | getUrgencyLevel id => exact hread (looksUp_getOr404 _ _ _ _)
  | createUrgencyLevel id name slaHours sortOrder respectsBusinessHours =>
    exact Tx.wp_map.mpr (wp_ofService (isolated_urgencyLevels hdb TaxonomyTable.wp_create))
  | updateUrgencyLevel id fields =>
    exact Tx.wp_map.mpr (wp_ofService (isolated_urgencyLevels hdb (TaxonomyTable.wp_update fun _ => rfl)))
  | deleteUrgencyLevel id =>
    exact Tx.wp_map.mpr (wp_ofService (isolated_urgencyLevels hdb TaxonomyTable.wp_deleteOrDeactivate))
  | listProperties => exact hlist
  | getProperty propertyId => exact hread (looksUp_getOr404 _ _ _ _)
  | createProperty id ownerId address type => exact hsame (.map _ spares_createProperty)
  | updateProperty propertyId fields => exact hsame (.map _ spares_updateProperty)
  | deleteProperty propertyId now => exact hsame (.map _ spares_deleteProperty)
  | listContracts => exact hlist
  | getContract contractId => exact hread (looksUp_getOr404 _ _ _ _)
  | createContract id propertyId tenantId startDate endDate => exact hsame (.map _ spares_createContract)
  | updateContract contractId status => exact hsame (.map _ spares_updateContract)
  | listUsers role status => exact hlist
  | getUser userId => exact hread (looksUp_getOr404 _ _ _ _)
  | updateUser userId fields => exact hsame (.map _ spares_updateUser)
  | disableUser userId => exact hsame (.map _ spares_disableUser)

/-! ## One request

The authorization reads the user that the token names, whatever organization it belongs to. It is the scope
that it returns which ties the rest of the request to one organization. -/

theorem isolated_step (env : Env) (hdb : Isolated db) {r : Request} (hsound : r.Sound db) : Isolated (r.step env db) := by
  cases r with
  | call principal route =>
    unfold Request.step
    obtain ⟨scope, hauthorized, hserve⟩ | ⟨e, hrefused⟩ := settle_call env principal route db
    · rw [hserve]
      have hown := hsound.2 scope.organizationId (hauthorized.userId ▸ hauthorized.userOf)
      exact Tx.settle_post (P := Isolated) (isolated_serve env route hdb hown) hdb
    · rw [hrefused]
      exact hdb
  | classifyTicket m jobTry ticketId jobOrganizationId =>
    have hclassify : Tx.wp (Tickets.classifyTicket env.toEnv m.classifier jobTry ticketId jobOrganizationId)
        (fun _ => Isolated) (fun _ => True) db :=
      isolated_of_isolates (Tickets.isolates_classifyTicket hdb)
    exact Tx.settle_post (P := Isolated) (Tx.wp_map.mpr (wp_ofService hclassify)) hdb

/-- A user of the organization is let through on the part as on the whole database. -/
theorem simulates_authorize {principal : Uuid} (guard : Guard) (hprincipal : UserOf db organizationId principal) :
    Tx.Simulates (Db.part organizationId) (authorize principal guard) (authorize principal guard) db := by
  obtain ⟨user, hlookup, horg⟩ := hprincipal
  have hpart : (Db.part organizationId db).users.lookup principal = some user :=
    Table.lookup_keepRows_of hlookup (decide_eq_true horg)
  have hgetPrincipal : Tx.Simulates (Db.part organizationId) (Auth.getPrincipal principal) (Auth.getPrincipal principal)
      db := by
    unfold Auth.getPrincipal
    refine .store_bind ?_
    rw [hlookup, hpart]
    exact .ite Iff.rfl (fun _ => .raise _) fun _ => .pure _
  refine .bind (.mapError _ hgetPrincipal) fun user' db₁ _ => .mapError _ ?_
  obtain ⟨_ | userOrg, name, email, role, passwordHash, status, phoneNumber⟩ := user'
  · cases guard with
    | orgMember => exact .raise _
    | orgStaff => exact .raise _
    | orgAdmin => exact .raise _
  · cases guard with
    | orgMember => exact .pure _
    | orgStaff => exact .ite Iff.rfl (fun _ => .pure _) fun _ => .raise _
    | orgAdmin => exact .ite Iff.rfl (fun _ => .raise _) fun _ => .pure _

/-- **A request of the organization** does on the part what it does on the whole database. -/
theorem simulates_handle (env : Env) (hattached : Attached db) (hisolated : Isolated db) {r : Request}
    (hsound : r.Sound db) (hconcerns : r.Concerns db organizationId) :
    Tx.Simulates (Db.part organizationId) (r.handle env) (r.handle env) db := by
  cases r with
  | call principal route =>
    refine .bind (simulates_authorize route.guard hconcerns) fun scope db₁ hexec => ?_
    obtain ⟨out, hauthorize, hscope⟩ := exec_authorize principal route.guard db
    obtain ⟨rfl, rfl⟩ := Prod.mk.inj (hauthorize.symm.trans hexec)
    have hauthorized := hscope scope rfl
    have huser := hauthorized.userOf
    obtain rfl := hauthorized.organizationId_eq hconcerns
    exact simulates_serve env route hattached hisolated huser hsound.1 (hsound.2 _ hconcerns)
  | classifyTicket m jobTry ticketId jobOrganizationId =>
    obtain rfl : jobOrganizationId = organizationId := hconcerns
    exact .map _ (.mapError _ (simulates_classifyTicket hattached))

/-- A request of another organization is not seen. -/
theorem part_step_of_other (env : Env) (hattached : Attached db) {r : Request}
    (hother : ¬ r.Concerns db organizationId) : (r.step env db).part organizationId = db.part organizationId := by
  obtain hsame | ⟨toucher, hconcerns, htouches⟩ := touches_step env db r
  · rw [hsame]
  · refine htouches.others hattached organizationId ?_
    rintro rfl
    exact hother hconcerns

/-! ## Runs

`ownedBy` is decided on the first database. It gives the same answer on every later one, since users neither
appear nor move. -/

/-- **Organizations are apart**: the part of an organization after a run, and the answers to its requests, are those
    of the run of its own requests alone, on a database that has nothing but its part. -/
theorem apart_of_run (env : Env) (db : Db) (hattached : Attached db) (hisolated : Isolated db) (organizationId : Uuid)
    (requests : List Request) (hsound : AllSteps (Request.step env) Request.Sound db requests) :
    (run (Request.step env) db requests).part organizationId =
        run (Request.step env) (db.part organizationId) (requests.filter (Request.ownedBy db organizationId)) ∧
      observed (Request.ownedBy db organizationId) (Request.step env) (Request.answer env) db requests =
        observed (Request.ownedBy db organizationId) (Request.step env) (Request.answer env) (db.part organizationId)
          (requests.filter (Request.ownedBy db organizationId)) := by
  let I : Db → Prop := fun s => Attached s ∧ Isolated s ∧ Extends db s
  have hinv : ∀ s r, I s → r.Sound s → I (Request.step env s r) := fun s r h hr =>
    ⟨attached_step env h.1 r, isolated_step env h.2.1 hr, h.2.2.trans (extends_step env s r)⟩
  have howned : ∀ s r, I s → (Request.ownedBy db organizationId r = true ↔ r.Concerns s organizationId) := by
    intro s r h
    rw [Request.ownedBy_iff]
    cases r with
    | call principal route => exact h.2.2.userOf_iff.symm
    | classifyTicket => exact Iff.rfl
  -- a request of the organization steps the part, and is answered from the part
  have hown : ∀ s r, I s → r.Sound s → Request.ownedBy db organizationId r = true →
      (Request.step env s r).part organizationId = Request.step env (s.part organizationId) r := fun s r h hr hown =>
    (congrArg Prod.snd (simulates_handle env h.1 h.2.1 hr ((howned s r h).mp hown)).settle).symm
  have hout : ∀ s r, I s → r.Sound s → Request.ownedBy db organizationId r = true →
      Request.answer env s r = Request.answer env (s.part organizationId) r := fun s r h hr hown =>
    (congrArg Prod.fst (simulates_handle env h.1 h.2.1 hr ((howned s r h).mp hown)).settle).symm
  -- a request of another organization leaves it
  have hother : ∀ s r, I s → r.Sound s → Request.ownedBy db organizationId r = false →
      (Request.step env s r).part organizationId = s.part organizationId := by
    intro s r h _ hown
    refine part_step_of_other env h.1 fun hconcerns => ?_
    rw [(howned s r h).mpr hconcerns] at hown
    cases hown
  have hstart : I db := ⟨hattached, hisolated, Extends.refl db⟩
  exact ⟨run_purged hown hother hinv hstart hsound, observed_purged hown hout hother hinv hstart hsound⟩

/-- An agent of the organization 1 and an administrator of the organization 2. -/
def twoOrganizationsDb : Db :=
  { Tickets.twoTaxonomiesDb with
    users := AList.insert 10 ⟨some 1, "Agent", "agent@example.com", .agent, none, .active, none⟩
      (AList.insert 20 ⟨some 2, "Admin", "admin@example.org", .admin, none, .active, none⟩ ∅) }

theorem attached_twoOrganizations : Attached twoOrganizationsDb where
  properties := fun id p h => by cases h
  contracts := fun id c h => by cases h
  tickets := fun id t h => by cases h
  messages := fun id m h => by cases h
  classifications := fun ticketId h => by
    obtain ⟨c, hc⟩ := Table.mem_iff_lookup.mp h
    cases hc

/-- The agent files a ticket, while the administrator deletes a category and looks at the tickets. -/
def interleavedRequests : List Request :=
  [.call 20 (.deleteCategory 23),
    .call 10 (.createTicket 50 (days 739000) ⟨none, none, "Leak", none, some 21, some 31, .web⟩),
    .call 20 (.listTickets ⟨none, none, none, none, none⟩)]

theorem apart_of_run_interleaved :
    (run (Request.step plainEnv) twoOrganizationsDb interleavedRequests).part 2 =
        run (Request.step plainEnv) (twoOrganizationsDb.part 2)
          (interleavedRequests.filter (Request.ownedBy twoOrganizationsDb 2)) ∧
      observed (Request.ownedBy twoOrganizationsDb 2) (Request.step plainEnv) (Request.answer plainEnv)
          twoOrganizationsDb interleavedRequests =
        observed (Request.ownedBy twoOrganizationsDb 2) (Request.step plainEnv) (Request.answer plainEnv)
          (twoOrganizationsDb.part 2) (interleavedRequests.filter (Request.ownedBy twoOrganizationsDb 2)) := by
  refine apart_of_run plainEnv twoOrganizationsDb attached_twoOrganizations ?_ 2 interleavedRequests
    ⟨⟨trivial, fun _ _ => trivial⟩, ⟨?_, fun organizationId _ => ⟨?_, ?_⟩⟩, ⟨trivial, fun _ _ => trivial⟩, trivial⟩
  · exact ⟨Tickets.isolated_twoTaxonomies.1, Tickets.isolated_twoTaxonomies.2⟩
  · show (Request.step plainEnv twoOrganizationsDb (.call 20 (.deleteCategory 23))).tickets.lookup 50 = none
    decide +kernel
  · intro id _ h
    cases h
  · intro id _ h
    cases h

end Helpdesk.Tenancy
