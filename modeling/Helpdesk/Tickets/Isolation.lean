import Helpdesk.Library.Run
import Helpdesk.Tickets.Catalog
import Helpdesk.Tickets.Classifier
import Helpdesk.Tickets.Taxonomy

/-! # Whose taxonomy a ticket has

`create_ticket`, `update_ticket` and `classify_ticket` assign the taxonomy of a ticket, while admins
edit the taxonomies of their organizations. A foreign key says that the row exists, not whose it is.

`create_ticket` looks at its two ids only if both are given, and `update_ticket` never looks at the
category. **`taxonomy_isolated`**: in a run in which the ids that nobody looks at are active ones of
the ticket's organization, every ticket has a taxonomy of its own organization. -/

namespace Helpdesk.Tickets

open Run

/-- One call of a service, in a transaction of its own. -/
inductive Call where
  | createTicket (scope : OrgScope) (ticketId : Uuid) (anchor : Int) (p : TicketCreate)
  | updateTicket (scope : OrgScope) (ticketId : Uuid) (patch : TicketPatch) (d : UpdateDraws)
  | classifyTicket (m : ClassifierModel) (jobTry : Nat) (ticketId organizationId : Uuid)
  | createCategory (scope : OrgScope) (id : Uuid) (name : String) (description : Option String)
  | updateCategory (scope : OrgScope) (id : Uuid) (fields : CategoryUpdate)
  | deleteCategory (scope : OrgScope) (id : Uuid)
  | createUrgencyLevel (scope : OrgScope) (id : Uuid) (name : String) (slaHours sortOrder : Int)
    (respectsBusinessHours : Bool)
  | updateUrgencyLevel (scope : OrgScope) (id : Uuid) (fields : UrgencyLevelUpdate)
  | deleteUrgencyLevel (scope : OrgScope) (id : Uuid)

def Call.step (env : Env) (db : Db) : Call → Db
  | createTicket scope ticketId anchor p =>
    (Tx.settle (Tickets.createTicket env scope ticketId anchor p) db).2
  | updateTicket scope ticketId patch d =>
    (Tx.settle (Tickets.updateTicket env scope ticketId patch d) db).2
  | classifyTicket m jobTry ticketId organizationId =>
    (Tx.settle (Tickets.classifyTicket env m.classifier jobTry ticketId organizationId) db).2
  | createCategory scope id name description =>
    (Tx.settle (Tickets.createCategory env scope id name description) db).2
  | updateCategory scope id fields => (Tx.settle (Tickets.updateCategory env scope id fields) db).2
  | deleteCategory scope id => (Tx.settle (Tickets.deleteCategory scope id) db).2
  | createUrgencyLevel scope id name slaHours sortOrder respectsBusinessHours =>
    (Tx.settle
      (Tickets.createUrgencyLevel env scope id name slaHours sortOrder respectsBusinessHours) db).2
  | updateUrgencyLevel scope id fields =>
    (Tx.settle (Tickets.updateUrgencyLevel env scope id fields) db).2
  | deleteUrgencyLevel scope id => (Tx.settle (Tickets.deleteUrgencyLevel scope id) db).2

/-! ## Isolation

`OwnRows` is the invariant and `AssignsActive` is about a step; they are stated for a table and hold for both.
`Careful` is the condition of the theorem: it speaks of the ids in the call, and only of those that the service
does not check. -/

section
variable {α : Type} (T : TaxonomyTable α)

/-- What a ticket refers to is of the ticket's organization. -/
def OwnRows (db : Db) : Prop :=
  ∀ ticketId t, db.tickets.lookup ticketId = some t → ∀ id, T.column t.toTicketColumns = some id →
    ∃ row, (T.rows db).lookup id = some row ∧ T.organizationId row = t.organizationId

/-- The row is one of the organization that can be chosen. -/
def OwnActive (db : Db) (organizationId id : Uuid) : Prop :=
  ∃ row, (T.rows db).lookup id = some row ∧ T.organizationId row = organizationId ∧
    T.active row = true

/-- An id that a ticket has not had before is one that can be chosen. -/
def AssignsActive (db db' : Db) : Prop :=
  ∀ ticketId t id, db'.tickets.lookup ticketId = some t → T.column t.toTicketColumns = some id →
    (db.tickets.lookup ticketId).bind (fun old => T.column old.toTicketColumns) ≠ some id →
    OwnActive T db t.organizationId id

/-- A step in which the column is assigned as it should be. -/
def Isolates (db db' : Db) : Prop := OwnRows T db' ∧ AssignsActive T db db'

end

/-- Every ticket has a category and an urgency of its own organization. -/
def Isolated (db : Db) : Prop := OwnRows categoryTable db ∧ OwnRows urgencyTable db

/-- Every id that the call assigns is one of the ticket's organization that can be chosen. -/
def AssignsOwn (env : Env) (db : Db) (call : Call) : Prop :=
  AssignsActive categoryTable db (call.step env db) ∧ AssignsActive urgencyTable db (call.step env db)

/-- An id that nobody looks at: if there is such a row, it can be chosen. -/
def MayChoose {α : Type} (T : TaxonomyTable α) (db : Db) (organizationId id : Uuid) : Prop :=
  ∀ row, (T.rows db).lookup id = some row → T.organizationId row = organizationId ∧
    T.active row = true

/-- The ids that the services do not look at, or not at all of, can be chosen. -/
def Careful (db : Db) : Call → Prop
  | .createTicket scope _ _ p =>
    -- a single id is not looked at
    (∀ id, p.categoryId = some id → p.urgencyId = none →
      MayChoose categoryTable db scope.organizationId id) ∧
    ∀ id, p.urgencyId = some id → p.categoryId = none →
      MayChoose urgencyTable db scope.organizationId id
  | .updateTicket scope ticketId patch _ =>
    (∀ id, patch.categoryId = some id →
      (db.tickets.lookup ticketId).bind (·.categoryId) ≠ some id →
      MayChoose categoryTable db scope.organizationId id) ∧
    -- the organization of an urgency is looked at, but not whether it is active
    ∀ id row, patch.urgencyId = some id →
      (db.tickets.lookup ticketId).bind (·.urgencyId) ≠ some id →
      db.urgencyLevels.lookup id = some row → row.organizationId = scope.organizationId →
      row.active = true
  | _ => True

/-! ## One column

A step leaves the tickets as they are, writes one of them, or edits the taxonomy. These are the three ways to
keep the invariant. -/

section
variable {α β : Type} {T : TaxonomyTable α} {db db' : Db} {ticketId : Uuid}

/-- A call that changes neither the tickets nor the rows. -/
theorem isolates_same (h : OwnRows T db) (htickets : db'.tickets = db.tickets)
    (hrows : T.rows db' = T.rows db) : Isolates T db db' := by
  unfold Isolates OwnRows AssignsActive
  rw [htickets, hrows]
  refine ⟨h, ?_⟩
  intro ticketId t id ht hid hnew
  rw [ht] at hnew
  exact absurd hid hnew

/-- One ticket is written: with what it had, or with an id that can be chosen. -/
theorem isolates_write {row : Ticket} (h : OwnRows T db) (hrows : T.rows db' = T.rows db)
    (hstores : ∀ id, db'.tickets.lookup id = if id = ticketId then some row else db.tickets.lookup id)
    (horg : ∀ old, db.tickets.lookup ticketId = some old → row.organizationId = old.organizationId)
    (hassigned : ∀ id, T.column row.toTicketColumns = some id →
      (db.tickets.lookup ticketId).bind (fun old => T.column old.toTicketColumns) ≠ some id →
      OwnActive T db row.organizationId id) : Isolates T db db' := by
  constructor
  · intro ticketId' t ht id hid
    rw [hstores] at ht
    rw [hrows]
    split at ht
    next heq =>
      obtain rfl := Option.some.inj ht
      -- the ticket had the id before, or is assigned it now
      by_cases hold : (db.tickets.lookup ticketId).bind (fun old => T.column old.toTicketColumns) = some id
      · obtain ⟨old, hlookup, hcolumn⟩ := Option.bind_eq_some_iff.mp hold
        rw [horg old hlookup]
        exact h ticketId old hlookup id hcolumn
      · obtain ⟨row', hlookup, horg', -⟩ := hassigned id hid hold
        exact ⟨row', hlookup, horg'⟩
    next => exact h ticketId' t ht id hid
  · intro ticketId' t id ht hid hnew
    rw [hstores] at ht
    split at ht
    next heq =>
      obtain rfl := Option.some.inj ht
      rw [heq] at hnew
      exact hassigned id hid hnew
    next =>
      rw [ht] at hnew
      exact absurd hid hnew

/-- An edit of the taxonomy keeps what tickets refer to. -/
theorem isolates_edit (h : OwnRows T db) (hedit : T.Edits db db') : Isolates T db db' := by
  constructor
  · intro ticketId t ht id hid
    rw [hedit.tickets] at ht
    obtain ⟨row, hrow, horg⟩ := h ticketId t ht id hid
    obtain ⟨row', hrow', horg'⟩ :=
      hedit.keeps id row hrow (TaxonomyTable.referenced_iff.mpr ⟨ticketId, t, ht, hid⟩)
    exact ⟨row', hrow', horg'.trans horg⟩
  · intro ticketId t id ht hid hnew
    rw [hedit.tickets] at ht
    rw [ht] at hnew
    exact absurd hid hnew

end

/-! ## The calls

What each call assigns, from the rule for its service: the ids of a new ticket are checked if there are two, an
update checks the urgency, and the classifier has been given active rows only. -/

section
variable {env : Env} {db : Db}

/-- A call that raises, or ends in a database that isolates. -/
theorem isolates_settle {γ : Type} {x : Service γ} (h : Isolated db)
    (hx : Tx.wp x (fun _ db' => Isolates categoryTable db db' ∧ Isolates urgencyTable db db')
      (fun _ => True) db) :
    Isolates categoryTable db (Tx.settle x db).2 ∧ Isolates urgencyTable db (Tx.settle x db).2 :=
  Tx.settle_post
    (P := fun db' => Isolates categoryTable db db' ∧ Isolates urgencyTable db db') hx
    ⟨isolates_same h.1 rfl rfl, isolates_same h.2 rfl rfl⟩

/-- Both ids of a new ticket are looked at, if there are two. -/
theorem fetchUrgency_ok {scope : OrgScope} {categoryId urgencyId : Uuid} {urgency : Option UrgencyLevel}
    (h : Tx.exec (fetchUrgency scope (some categoryId) (some urgencyId)) db = (.ok urgency, db)) :
    OwnActive categoryTable db scope.organizationId categoryId ∧
      OwnActive urgencyTable db scope.organizationId urgencyId := by
  obtain ⟨category, _, hcategory, h⟩ := Tx.bind_ok.mp h
  obtain ⟨rfl, hcategory, hcategoryOrg⟩ := getOr404_ok.mp hcategory
  rw [Tx.exec_ite] at h
  split at h
  · cases h
  next hactive =>
    obtain ⟨urgency, _, hurgency, h⟩ := Tx.bind_ok.mp h
    obtain ⟨rfl, hurgency, hurgencyOrg⟩ := getOr404_ok.mp hurgency
    rw [Tx.exec_ite] at h
    split at h
    · cases h
    next hactive' =>
      exact ⟨⟨category, hcategory, of_decide_eq_true hcategoryOrg, by simpa [categoryTable] using hactive⟩,
        urgency, hurgency, of_decide_eq_true hurgencyOrg, by simpa [urgencyTable] using hactive'⟩

theorem MayChoose.ownActive {α : Type} {T : TaxonomyTable α} {organizationId id : Uuid}
    (h : MayChoose T db organizationId id) (hmem : id ∈ T.rows db) :
    OwnActive T db organizationId id := by
  obtain ⟨row, hrow⟩ := Table.mem_iff_lookup.mp hmem
  exact ⟨row, hrow, h row hrow⟩

theorem isolates_createTicket {scope : OrgScope} {ticketId : Uuid} {anchor : Int} {p : TicketCreate}
    (h : Isolated db) (hcareful : Careful db (.createTicket scope ticketId anchor p)) :
    Tx.wp (createTicket env scope ticketId anchor p)
      (fun _ db' => Isolates categoryTable db db' ∧ Isolates urgencyTable db db')
      (fun _ => True) db := by
  apply wp_createTicket_columns _ fun _ _ _ => trivial
  intro row urgency slaDueAt hfresh hfetch _ hcols hkeys
  have hstores : ∀ id, (AList.insert ticketId row db.tickets).lookup id =
      if id = ticketId then some row else db.tickets.lookup id :=
    fun id => Table.lookup_insert db.tickets ticketId id row
  have hother : ∀ old, db.tickets.lookup ticketId = some old → row.organizationId = old.organizationId :=
    fun old hold => by rw [hfresh] at hold; cases hold
  have hcategory : row.categoryId = p.categoryId := by rw [hcols]; rfl
  have hurgency : row.urgencyId = p.urgencyId := by rw [hcols]; rfl
  have horg : row.organizationId = scope.organizationId := by rw [hcols]; rfl
  constructor
  · refine isolates_write h.1 rfl hstores hother fun id hid _ => ?_
    rw [horg]
    have hid' : p.categoryId = some id := hcategory ▸ hid
    -- a category alone is not checked
    cases hsecond : p.urgencyId with
    | none => exact (hcareful.1 id hid' hsecond).ownActive (Ticket.category_mem hkeys hid (by simp))
    | some urgencyId =>
      rw [hid', hsecond] at hfetch
      exact (fetchUrgency_ok hfetch).1
  · refine isolates_write h.2 rfl hstores hother fun id hid _ => ?_
    rw [horg]
    have hid' : p.urgencyId = some id := hurgency ▸ hid
    -- an urgency alone is not checked
    cases hsecond : p.categoryId with
    | none => exact (hcareful.2 id hid' hsecond).ownActive (Ticket.urgency_mem hkeys hid (by simp))
    | some categoryId =>
      rw [hid', hsecond] at hfetch
      exact (fetchUrgency_ok hfetch).2

theorem isolates_updateTicket {scope : OrgScope} {ticketId : Uuid} {patch : TicketPatch}
    {d : UpdateDraws} (h : Isolated db) (hcareful : Careful db (.updateTicket scope ticketId patch d)) :
    Tx.wp (updateTicket env scope ticketId patch d)
      (fun _ db' => Isolates categoryTable db db' ∧ Isolates urgencyTable db db')
      (fun _ => True) db := by
  apply wp_updateTicket _ fun _ _ _ => trivial
  intro loaded row assigned db' hloaded horg hresolve hcols hkeys hcommits
  obtain ⟨tickets, classifications, slaEvents, hframe⟩ := hcommits.frame
  have hstores : ∀ id, db'.tickets.lookup id = if id = ticketId then some row else db.tickets.lookup id := by
    intro id
    rw [hcommits.tickets, Table.lookup_modify]
    by_cases heq : id = ticketId
    · rw [if_pos heq, if_pos heq, heq, hloaded, Option.map_some]
    · rw [if_neg heq, if_neg heq]
  rw [TicketColumns.writeBack_loaded] at hcols
  have hrowOrg : row.organizationId = loaded.organizationId := by rw [hcols]
  have hother : ∀ old, db.tickets.lookup ticketId = some old → row.organizationId = old.organizationId :=
    fun old hold => by rw [hrowOrg, Option.some.inj (hold.symm.trans hloaded)]
  have hcategory : row.categoryId = assigned.categoryId := by rw [hcols]
  have hurgency : row.urgencyId = assigned.urgencyId := by rw [hcols]
  -- an id that is new comes from the patch
  have hnew : ∀ {old patched : Option Uuid} {id : Uuid}, patched.or old = some id → old ≠ some id →
      patched = some id := by
    intro old patched id hor hne
    cases patched with
    | none => exact absurd (by simpa using hor) hne
    | some id' => simpa using hor
  constructor
  · refine isolates_write h.1 (by rw [hframe]; rfl) hstores hother fun id hid hold => ?_
    rw [hloaded] at hold
    have hid : row.categoryId = some id := hid
    have hold : loaded.categoryId ≠ some id := hold
    -- without a taxonomy in the patch the column is kept
    cases hsets : patch.setsTaxonomy with
    | false =>
      rw [hcategory, ((resolveUpdate_ok hresolve).2 hsets).1] at hid
      exact absurd hid hold
    | true =>
      obtain ⟨-, -, -, -, -, -, hassigned, -⟩ := resolveUpdate_taxonomy hresolve hsets
      have hpatch : patch.categoryId = some id := hnew (by rw [← hassigned, ← hcategory, hid]) hold
      rw [hrowOrg, horg]
      exact (hcareful.1 id hpatch (by rw [hloaded]; exact hold)).ownActive
        (Ticket.category_mem hkeys hid hold)
  · refine isolates_write h.2 (by rw [hframe]; rfl) hstores hother fun id hid hold => ?_
    rw [hloaded] at hold
    have hid : row.urgencyId = some id := hid
    have hold : loaded.urgencyId ≠ some id := hold
    cases hsets : patch.setsTaxonomy with
    | false =>
      rw [hurgency, ((resolveUpdate_ok hresolve).2 hsets).2.1] at hid
      exact absurd hid hold
    | true =>
      obtain ⟨urgencyId, urgency, -, hor, hget, -, -, hassigned, -⟩ :=
        resolveUpdate_taxonomy hresolve hsets
      obtain ⟨-, hlookup, hscope⟩ := getOr404_ok.mp hget
      have hscope' : urgency.organizationId = scope.organizationId := of_decide_eq_true hscope
      obtain rfl : urgencyId = id := by
        rw [hurgency, hassigned] at hid
        exact Option.some.inj hid
      have hpatch : patch.urgencyId = some urgencyId := hnew hor hold
      rw [hrowOrg, horg]
      exact ⟨urgency, hlookup, hscope',
        hcareful.2 urgencyId urgency hpatch (by rw [hloaded]; exact hold) hlookup hscope'⟩

/-- The classifier chooses among the active rows of the organization. -/
theorem isolates_classifyTicket {m : ClassifierModel} {jobTry : Nat} {ticketId organizationId : Uuid}
    (h : Isolated db) :
    Tx.wp (classifyTicket env m.classifier jobTry ticketId organizationId)
      (fun _ db' => Isolates categoryTable db db' ∧ Isolates urgencyTable db db')
      (fun _ => True) db := by
  apply wp_classifyTicket_result ⟨isolates_same h.1 rfl rfl, isolates_same h.2 rfl rfl⟩ _
    fun _ _ _ => trivial
  intro ticket row r urgencyLevel slaDueAt classifications hticket horg _ hask _ _ hcols
  obtain ⟨⟨category, hcategory, hcategoryId⟩, urgency, hurgency, hurgencyId⟩ := classifier_offered hask
  have hstores : ∀ id, (db.tickets.modify ticketId fun _ => row).lookup id =
      if id = ticketId then some row else db.tickets.lookup id := by
    intro id
    rw [Table.lookup_modify]
    by_cases heq : id = ticketId
    · rw [if_pos heq, if_pos heq, heq, hticket, Option.map_some]
    · rw [if_neg heq, if_neg heq]
  have hrowOrg : row.organizationId = organizationId := by rw [hcols, ← horg]
  have hother : ∀ old, db.tickets.lookup ticketId = some old → row.organizationId = old.organizationId :=
    fun old hold => by rw [hrowOrg, ← horg, Option.some.inj (hold.symm.trans hticket)]
  constructor
  · refine isolates_write h.1 rfl hstores hother fun id hid _ => ?_
    obtain ⟨⟨categoryId, row'⟩, hmem, rfl⟩ := List.mem_map.mp hcategory
    obtain ⟨hlookup, hselected⟩ := Table.mem_select.mp hmem
    simp only [OrgScope.selectsCategory, OrgScope.forBackgroundWorker,
      Bool.and_eq_true] at hselected
    obtain rfl : categoryId = id := by
      have hid : row.categoryId = some id := hid
      rw [hcols] at hid
      exact hcategoryId.trans (Option.some.inj hid)
    rw [hrowOrg]
    exact ⟨row', hlookup, of_decide_eq_true hselected.1, hselected.2⟩
  · refine isolates_write h.2 rfl hstores hother fun id hid _ => ?_
    obtain ⟨⟨urgencyId, row'⟩, hmem, rfl⟩ := List.mem_map.mp hurgency
    rw [activeUrgencyLevels, List.mem_insertionSort] at hmem
    obtain ⟨hlookup, hselected⟩ := Table.mem_select.mp hmem
    simp only [OrgScope.selectsUrgencyLevel, OrgScope.forBackgroundWorker,
      Bool.and_eq_true] at hselected
    obtain rfl : urgencyId = id := by
      have hid : row.urgencyId = some id := hid
      rw [hcols] at hid
      exact hurgencyId.trans (Option.some.inj hid)
    rw [hrowOrg]
    exact ⟨row', hlookup, of_decide_eq_true hselected.1, hselected.2⟩

/-- An edit of one of the two tables. -/
theorem isolates_editCategories {γ : Type} {x : Service γ} (h : Isolated db)
    (hx : Tx.wp x (fun _ => categoryTable.Edits db) (fun _ => True) db) :
    Tx.wp x (fun _ db' => Isolates categoryTable db db' ∧ Isolates urgencyTable db db')
      (fun _ => True) db := by
  apply Tx.wp_mono hx
  · rintro _ db' hedit
    refine ⟨isolates_edit h.1 hedit, ?_⟩
    obtain ⟨t, rfl⟩ := hedit.rows
    exact isolates_same h.2 rfl rfl
  · exact fun _ _ => trivial

theorem isolates_editUrgencyLevels {γ : Type} {x : Service γ} (h : Isolated db)
    (hx : Tx.wp x (fun _ => urgencyTable.Edits db) (fun _ => True) db) :
    Tx.wp x (fun _ db' => Isolates categoryTable db db' ∧ Isolates urgencyTable db db')
      (fun _ => True) db := by
  apply Tx.wp_mono hx
  · rintro _ db' hedit
    refine ⟨?_, isolates_edit h.2 hedit⟩
    obtain ⟨t, rfl⟩ := hedit.rows
    exact isolates_same h.1 rfl rfl
  · exact fun _ _ => trivial

/-- **Step lemma**: a careful call leaves the taxonomies apart. -/
theorem isolates_step (h : Isolated db) {call : Call} (hcareful : Careful db call) :
    Isolates categoryTable db (call.step env db) ∧ Isolates urgencyTable db (call.step env db) := by
  cases call with
  | createTicket scope ticketId anchor p => exact isolates_settle h (isolates_createTicket h hcareful)
  | updateTicket scope ticketId patch d => exact isolates_settle h (isolates_updateTicket h hcareful)
  | classifyTicket m jobTry ticketId organizationId =>
    exact isolates_settle h (isolates_classifyTicket h)
  | createCategory scope id name description =>
    exact isolates_settle h (isolates_editCategories h TaxonomyTable.wp_create)
  | updateCategory scope id fields =>
    exact isolates_settle h (isolates_editCategories h (TaxonomyTable.wp_update fun _ => rfl))
  | deleteCategory scope id =>
    exact isolates_settle h (isolates_editCategories h TaxonomyTable.wp_deleteOrDeactivate)
  | createUrgencyLevel scope id name slaHours sortOrder respectsBusinessHours =>
    exact isolates_settle h (isolates_editUrgencyLevels h TaxonomyTable.wp_create)
  | updateUrgencyLevel scope id fields =>
    exact isolates_settle h (isolates_editUrgencyLevels h (TaxonomyTable.wp_update fun _ => rfl))
  | deleteUrgencyLevel scope id =>
    exact isolates_settle h (isolates_editUrgencyLevels h TaxonomyTable.wp_deleteOrDeactivate)

end

/-! ## Runs

By the invariant, with what it says about each assignment on the way. -/

/-- **Taxonomy isolation**, in a run of careful calls: in every state a ticket's category and urgency
    are of its own organization, and each was active when it was assigned. -/
theorem taxonomy_isolated (env : Env) (db : Db) (hdb : Isolated db) (calls : List Call)
    (hcareful : AllSteps (Call.step env) Careful db calls) :
    AllSteps (Call.step env) (fun db call => Isolated db ∧ AssignsOwn env db call) db calls ∧
      Isolated (run (Call.step env) db calls) := by
  have hstep : ∀ db call, Isolated db → Careful db call → Isolated (call.step env db) :=
    fun db call h hcall => ⟨(isolates_step h hcall).1.1, (isolates_step h hcall).2.1⟩
  constructor
  · exact (allSteps_of_inv hstep hdb hcareful).mono fun db call h =>
      ⟨h.1, (isolates_step h.1 h.2).1.2, (isolates_step h.1 h.2).2.2⟩
  · exact inv_of_preserved hstep hdb hcareful

/-- The taxonomy of the example, with a category of another organization. -/
def twoTaxonomiesDb : Db :=
  { taxonomyDb with
    organizations := AList.insert 2 ⟨"widget-2", none, none, "UTC", []⟩ taxonomyDb.organizations
    categories := AList.insert 23 ⟨2, "Elevators", none, true⟩ taxonomyDb.categories }

def agentScope : OrgScope := ⟨1, 10, .agent⟩

/-- An agent moves a ticket with the category 21 to the category `categoryId`. -/
def moveTicket (categoryId : Uuid) : List Call :=
  [.createTicket agentScope 50 (days 739000) ⟨none, none, "Leak", none, some 21, some 31, .web⟩,
    .updateTicket agentScope 50 ⟨none, none, some categoryId, none⟩ ⟨days 739001, 70, days 739001⟩]

theorem isolated_twoTaxonomies : Isolated twoTaxonomiesDb := by
  constructor
  · intro ticketId t h
    cases h
  · intro ticketId t h
    cases h

/-- The agent chooses among the own categories, and an admin takes the choice out of use. -/
theorem taxonomy_isolated_moved :
    Isolated (run (Call.step taxonomyEnv) twoTaxonomiesDb
      (moveTicket 22 ++ [Call.deleteCategory ⟨1, 12, .admin⟩ 22])) := by
  refine (taxonomy_isolated taxonomyEnv twoTaxonomiesDb isolated_twoTaxonomies
    (moveTicket 22 ++ [Call.deleteCategory ⟨1, 12, .admin⟩ 22]) ⟨?_, ?_, trivial, trivial⟩).2
  · constructor
    · intro id _ h
      cases h
    · intro id _ h
      cases h
  · refine ⟨fun id hid _ row hrow => ?_, fun id row hid => by cases hid⟩
    obtain rfl : 22 = id := Option.some.inj hid
    have hstored : (run (Call.step taxonomyEnv) twoTaxonomiesDb
        (moveTicket 22).dropLast).categories.lookup 22 = some ⟨1, "Heating", none, true⟩ := by
      decide +kernel
    obtain rfl : row = ⟨1, "Heating", none, true⟩ := Option.some.inj (hrow.symm.trans hstored)
    exact ⟨rfl, rfl⟩

/-- Nobody looks at the category of an update: the ticket gets one of another organization. -/
theorem foreign_category_assigned :
    ¬ Isolated (run (Call.step taxonomyEnv) twoTaxonomiesDb (moveTicket 23)) := by
  rintro ⟨hown, -⟩
  have hticket : ((run (Call.step taxonomyEnv) twoTaxonomiesDb (moveTicket 23)).tickets.lookup 50).map
      (fun t => (t.organizationId, t.categoryId)) = some (1, some 23) := by
    decide +kernel
  obtain ⟨t, ht, hcolumns⟩ := Option.map_eq_some_iff.mp hticket
  obtain ⟨horg, hcategory⟩ := Prod.mk.inj hcolumns
  obtain ⟨row, hrow, hsame⟩ := hown 50 t ht 23 hcategory
  have hstored : (run (Call.step taxonomyEnv) twoTaxonomiesDb (moveTicket 23)).categories.lookup 23 =
      some ⟨2, "Elevators", none, true⟩ := by
    decide +kernel
  obtain rfl : row = ⟨2, "Elevators", none, true⟩ := Option.some.inj (hrow.symm.trans hstored)
  rw [horg] at hsame
  revert hsame
  decide

end Helpdesk.Tickets
