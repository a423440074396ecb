import Helpdesk.Tickets.Service

/-! # Editing the taxonomy

`category_service` and `urgency_level_service` are one service over two tables. An organization's
admins add rows to its taxonomy, edit them, and delete them, or only deactivate them where a ticket
refers to them.

**Key result**: `Edits`. A row that a ticket refers to stays, in its organization. -/

namespace Helpdesk.Tickets

/-- What the two services differ in. -/
structure TaxonomyTable (α : Type) where
  /-- the model's name, for a `NotFoundError` -/
  name : String
  /-- the subject of a `ConflictError` -/
  label : String
  rows : Db → Table Uuid α
  withRows : Db → Table Uuid α → Db
  organizationId : α → Uuid
  rowName : α → String
  active : α → Bool
  deactivate : α → α
  /-- the CHECK constraints of the table -/
  valid : α → Bool
  /-- the column of a ticket that refers to the table -/
  column : TicketColumns → Option Uuid
  rows_withRows : ∀ db t, rows (withRows db t) = t
  tickets_withRows : ∀ db t, (withRows db t).tickets = db.tickets
  organizationId_deactivate : ∀ row, organizationId (deactivate row) = organizationId row

def categoryTable : TaxonomyTable Category where
  name := "Category"
  label := "a category"
  rows := (·.categories)
  withRows := fun db t => { db with categories := t }
  organizationId := (·.organizationId)
  rowName := (·.name)
  active := (·.active)
  deactivate := fun row => { row with active := false }
  valid := fun _ => true
  column := (·.categoryId)
  rows_withRows := fun _ _ => rfl
  tickets_withRows := fun _ _ => rfl
  organizationId_deactivate := fun _ => rfl

def urgencyTable : TaxonomyTable UrgencyLevel where
  name := "UrgencyLevel"
  label := "an urgency level"
  rows := (·.urgencyLevels)
  withRows := fun db t => { db with urgencyLevels := t }
  organizationId := (·.organizationId)
  rowName := (·.name)
  active := (·.active)
  deactivate := fun row => { row with active := false }
  valid := fun row => 0 < row.slaHours
  column := (·.urgencyId)
  rows_withRows := fun _ _ => rfl
  tickets_withRows := fun _ _ => rfl
  organizationId_deactivate := fun _ => rfl

namespace TaxonomyTable

variable {α : Type} (T : TaxonomyTable α)

/-- Another row of the organization has the name, up to case and blanks around it. -/
def nameTaken (env : Env) (db : Db) (id : Uuid) (row : α) : Bool :=
  ¬ ((T.rows db).select fun id' row' => id' ≠ id && T.organizationId row' = T.organizationId row &&
    env.lower (Text.btrim (T.rowName row')) = env.lower (Text.btrim (T.rowName row))).isEmpty

/-- The flush of a row; every violation comes out as the same `ConflictError`. -/
def save (env : Env) (id : Uuid) (row : α) (name : String) : Service Unit := do
  let db ← Tx.store
  if T.valid row ∧ ¬ T.nameTaken env db id row then
    Tx.write (T.withRows db (AList.insert id row (T.rows db)))
  else Tx.raise (.conflict (T.label ++ " named '" ++ name ++ "' already exists"))

/-- `create_category`, `create_urgency_level`. -/
def create (env : Env) (id : Uuid) (row : α) : Service Unit := do
  let db ← Tx.store
  if id ∈ T.rows db then
    Tx.raise (.conflict (T.label ++ " named '" ++ T.rowName row ++ "' already exists"))
  else T.save env id row (T.rowName row)

def get (scope : OrgScope) (id : Uuid) : Service α :=
  getOr404 T.name T.rows (fun _ row => T.organizationId row = scope.organizationId) id

/-- `update_category`, `update_urgency_level`, where `assign` sets the fields of the request. -/
def update (env : Env) (scope : OrgScope) (id : Uuid) (assign : α → α) (name : Option String) :
    Service Unit := do
  let row ← T.get scope id
  T.save env id (assign row) (name.getD "None")

/-- A ticket refers to the row, so that the `RESTRICT` fires. -/
def referenced (db : Db) (id : Uuid) : Bool :=
  ¬ (db.tickets.select fun _ t => T.column t.toTicketColumns = some id).isEmpty

/-- `delete_or_deactivate`: whether the row is gone. -/
def deleteOrDeactivate (scope : OrgScope) (id : Uuid) : Service Bool := do
  let row ← T.get scope id
  let db ← Tx.store
  if T.referenced db id then
    Tx.write (T.withRows db (AList.insert id (T.deactivate row) (T.rows db)))
    pure false
  else
    Tx.write (T.withRows db ((T.rows db).erase id))
    pure true

end TaxonomyTable

/-! ## The services

The members of the two families. What a member does is `TaxonomyTable`'s; what it has of its own are its columns
and the fields of its request. -/

def createCategory (env : Env) (scope : OrgScope) (id : Uuid) (name : String)
    (description : Option String) : Service Unit :=
  categoryTable.create env id
    { organizationId := scope.organizationId
      name := name
      description := description
      active := true }

/-- The fields of a `CategoryUpdate` that are set. -/
structure CategoryUpdate where
  name : Option String
  description : Option (Option String)
  active : Option Bool

def CategoryUpdate.assign (fields : CategoryUpdate) (row : Category) : Category :=
  { row with
    name := fields.name.getD row.name
    description := fields.description.getD row.description
    active := fields.active.getD row.active }

def updateCategory (env : Env) (scope : OrgScope) (id : Uuid) (fields : CategoryUpdate) : Service Unit :=
  categoryTable.update env scope id fields.assign fields.name

def deleteCategory (scope : OrgScope) (id : Uuid) : Service Bool :=
  categoryTable.deleteOrDeactivate scope id

def createUrgencyLevel (env : Env) (scope : OrgScope) (id : Uuid) (name : String)
    (slaHours sortOrder : Int) (respectsBusinessHours : Bool) : Service Unit :=
  urgencyTable.create env id
    { organizationId := scope.organizationId
      name := name
      description := none
      slaHours := slaHours
      sortOrder := sortOrder
      active := true
      respectsBusinessHours := respectsBusinessHours }

/-- The fields of an `UrgencyLevelUpdate` that are set. -/
structure UrgencyLevelUpdate where
  name : Option String
  slaHours : Option Int
  sortOrder : Option Int
  active : Option Bool
  respectsBusinessHours : Option Bool

def UrgencyLevelUpdate.assign (fields : UrgencyLevelUpdate) (row : UrgencyLevel) : UrgencyLevel :=
  { row with
    name := fields.name.getD row.name
    slaHours := fields.slaHours.getD row.slaHours
    sortOrder := fields.sortOrder.getD row.sortOrder
    active := fields.active.getD row.active
    respectsBusinessHours := fields.respectsBusinessHours.getD row.respectsBusinessHours }

def updateUrgencyLevel (env : Env) (scope : OrgScope) (id : Uuid) (fields : UrgencyLevelUpdate) :
    Service Unit :=
  urgencyTable.update env scope id fields.assign fields.name

def deleteUrgencyLevel (scope : OrgScope) (id : Uuid) : Service Bool :=
  urgencyTable.deleteOrDeactivate scope id

/-! ## What an edit leaves alone

A row keeps its organization when it is edited, and stays as long as a ticket refers to it. `wp_save` asks for
the first of these only, since a row that is saved is not deleted. -/

namespace TaxonomyTable

variable {α : Type} {T : TaxonomyTable α} {env : Env} {scope : OrgScope} {db db' : Db} {id : Uuid}

/-- The rows that tickets refer to stay, in their organizations. -/
structure Edits (T : TaxonomyTable α) (db db' : Db) : Prop where
  rows : ∃ t, db' = T.withRows db t
  keeps : ∀ id row, (T.rows db).lookup id = some row → T.referenced db id = true →
    ∃ row', (T.rows db').lookup id = some row' ∧ T.organizationId row' = T.organizationId row

theorem Edits.tickets (h : Edits T db db') : db'.tickets = db.tickets := by
  obtain ⟨t, rfl⟩ := h.rows
  exact T.tickets_withRows db t

theorem referenced_iff : T.referenced db id = true ↔
    ∃ ticketId t, db.tickets.lookup ticketId = some t ∧ T.column t.toTicketColumns = some id := by
  unfold referenced
  rw [decide_eq_true_eq, List.isEmpty_iff, Table.select_eq_nil]
  push Not
  simp

/-- A row that takes the place of one of the same organization. -/
theorem edits_insert {row : α}
    (h : ∀ old, (T.rows db).lookup id = some old → T.organizationId row = T.organizationId old) :
    Edits T db (T.withRows db (AList.insert id row (T.rows db))) where
  rows := ⟨_, rfl⟩
  keeps := by
    intro id' old hold _
    rw [T.rows_withRows, Table.lookup_insert]
    by_cases heq : id' = id
    · subst heq
      exact ⟨row, if_pos rfl, h old hold⟩
    · exact ⟨old, by rw [if_neg heq, hold], rfl⟩

theorem wp_save {row : α} {name : String}
    (h : ∀ old, (T.rows db).lookup id = some old → T.organizationId row = T.organizationId old) :
    Tx.wp (T.save env id row name) (fun _ => Edits T db) (fun _ => True) db := by
  unfold save
  simp only [Tx.wp_bind, Tx.wp_store, Tx.wp_ite, Tx.wp_write, Tx.wp_raise, implies_true, and_true]
  intro _
  exact edits_insert h

theorem wp_create {row : α} : Tx.wp (T.create env id row) (fun _ => Edits T db) (fun _ => True) db := by
  unfold create
  simp only [Tx.wp_bind, Tx.wp_store, Tx.wp_ite, Tx.wp_raise, implies_true, true_and]
  intro hfresh
  apply wp_save
  intro old hold
  exact absurd (Table.mem_iff_lookup.mpr ⟨old, hold⟩) hfresh

theorem wp_update {assign : α → α} {name : Option String}
    (hassign : ∀ row, T.organizationId (assign row) = T.organizationId row) :
    Tx.wp (T.update env scope id assign name) (fun _ => Edits T db) (fun _ => True) db := by
  unfold update get
  rw [Tx.wp_bind]
  apply (looksUp_getOr404 _ _ _ _).wp _ (fun _ _ => trivial)
  intro row hget
  obtain ⟨-, hrow, -⟩ := getOr404_ok.mp hget
  apply wp_save
  intro old hold
  rw [hassign, Option.some.inj (hrow.symm.trans hold)]

theorem wp_deleteOrDeactivate :
    Tx.wp (T.deleteOrDeactivate scope id) (fun _ => Edits T db) (fun _ => True) db := by
  unfold deleteOrDeactivate get
  rw [Tx.wp_bind]
  apply (looksUp_getOr404 _ _ _ _).wp _ (fun _ _ => trivial)
  intro row hget
  obtain ⟨-, hrow, -⟩ := getOr404_ok.mp hget
  simp only [Tx.wp_bind, Tx.wp_store, Tx.wp_ite, Tx.wp_write, Tx.wp_pure]
  constructor
  · intro _
    apply edits_insert
    intro old hold
    rw [T.organizationId_deactivate, Option.some.inj (hrow.symm.trans hold)]
  -- a row that is erased is one that no ticket refers to
  · intro hfree
    refine ⟨⟨_, rfl⟩, fun id' old hold hreferenced => ⟨old, ?_, rfl⟩⟩
    have hne : id' ≠ id := by
      rintro rfl
      exact hfree hreferenced
    rw [T.rows_withRows, AList.lookup_erase_ne hne, hold]

end TaxonomyTable

end Helpdesk.Tickets
