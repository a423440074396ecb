import Helpdesk.Core.Errors
import Helpdesk.Library.Effect

/-! # Scoped repositories

`OrgScope` and the lookups made under it. Every repository's `get_or_404` is the same function, with
the repository's own table, model name and `select()` clause; `TicketRepository` fuses the role's
visibility rule into its clause.

* `getOr404_ok` and `getOr404_error` say all that a lookup does.
* `LooksUp x` is for services that only look things up and decide: they leave the database as it is, and
  violate no constraint. A proof about a longer service gets past such a part with `LooksUp.wp`.
* `ReadsOnly π x` says in addition which part of the database is looked at, so that what was found can be
  taken over to another database (`ReadsOnly.transfer`). -/

namespace Helpdesk

/-- `OrgScope`. -/
structure OrgScope where
  organizationId : Uuid
  userId : Uuid
  role : UserRole
  deriving DecidableEq

def systemActorId : Uuid := 1

def anonymousChatActorId : Uuid := 2

/-- `OrgScope.for_background_worker`. -/
def OrgScope.forBackgroundWorker (organizationId : Uuid) : OrgScope :=
  ⟨organizationId, systemActorId, .admin⟩

/-- `OrgScope.for_anonymous_chat`. -/
def OrgScope.forAnonymousChat (organizationId : Uuid) : OrgScope :=
  ⟨organizationId, anonymousChatActorId, .tenant⟩

/-- `_STAFF_ROLES`. -/
def UserRole.isStaff : UserRole → Bool
  | .agent | .admin => true
  | .tenant | .owner => false

/-- `get_or_404`: the row `id` of `table`, if the repository's `select()` includes it. -/
def getOr404 {α : Type} (name : String) (table : Db → Table Uuid α) (clause : Db → α → Bool)
    (id : Uuid) : Service α := do
  let db ← Tx.store
  match (table db).lookup id with
  | some row => if clause db row then pure row else Tx.raise (.notFound name (some id))
  | none => Tx.raise (.notFound name (some id))

namespace OrgScope

variable (scope : OrgScope)

/-- `PropertyRepository.select()`: soft-deleted rows are excluded. -/
def selectsProperty (p : Property) : Bool :=
  p.organizationId = scope.organizationId ∧ p.deletedAt = none

/-- `ContractRepository.select()`: scoped through the contract's property, deleted or not. -/
def selectsContract (db : Db) (c : Contract) : Bool :=
  match db.properties.lookup c.propertyId with
  | some p => p.organizationId = scope.organizationId
  | none => false

def selectsCategory (c : Category) : Bool := c.organizationId = scope.organizationId

def selectsUrgencyLevel (u : UrgencyLevel) : Bool := u.organizationId = scope.organizationId

def selectsUser (u : User) : Bool := u.organizationId = some scope.organizationId

def selectsKnowledgeBase (kb : KnowledgeBase) : Bool := kb.organizationId = scope.organizationId

/-- The role's part of `TicketRepository.select()` (Rule C). -/
def roleSees (db : Db) (t : Ticket) : Bool :=
  match scope.role with
  | .agent | .admin => true
  | .tenant =>
    t.userId = scope.userId ||
      match t.contractId.bind db.contracts.lookup with
      | some c => c.tenantId = scope.userId
      | none => false
  | .owner =>
    match t.propertyId.bind db.properties.lookup with
    | some p => p.ownerId = scope.userId
    | none => false

/-- `TicketRepository.select()`. -/
def selectsTicket (db : Db) (t : Ticket) : Bool :=
  t.organizationId = scope.organizationId && scope.roleSees db t

def getProperty (id : Uuid) : Service Property :=
  getOr404 "Property" (·.properties) (fun _ => scope.selectsProperty) id

def getContract (id : Uuid) : Service Contract :=
  getOr404 "Contract" (·.contracts) scope.selectsContract id

def getCategory (id : Uuid) : Service Category :=
  getOr404 "Category" (·.categories) (fun _ => scope.selectsCategory) id

def getUrgencyLevel (id : Uuid) : Service UrgencyLevel :=
  getOr404 "UrgencyLevel" (·.urgencyLevels) (fun _ => scope.selectsUrgencyLevel) id

def getUser (id : Uuid) : Service User :=
  getOr404 "User" (·.users) (fun _ => scope.selectsUser) id

def getTicket (id : Uuid) : Service Ticket :=
  getOr404 "Ticket" (·.tickets) scope.selectsTicket id

def getKnowledgeBase (id : Uuid) : Service KnowledgeBase :=
  getOr404 "KnowledgeBase" (·.knowledgeBases) (fun _ => scope.selectsKnowledgeBase) id

end OrgScope

/-- `OrganizationRepository.get_or_404`, which is not scoped. -/
def getOrganization (id : Uuid) : Service Organization :=
  getOr404 "Organization" (·.organizations) (fun _ _ => true) id

/-! ## What a lookup does

A lookup ends in one of two ways: it returns the row, which the clause selects, or raises `NotFoundError`.
A row that is there but is not selected cannot be told from one that is not there. -/

section
variable {α : Type} {name : String} {table : Db → Table Uuid α} {clause : Db → α → Bool} {id : Uuid}
  {db db' : Db} {row : α}

/-- A lookup that returns has found the row, and has written nothing. -/
theorem getOr404_ok :
    Tx.exec (getOr404 name table clause id) db = (.ok row, db') ↔
      db' = db ∧ (table db).lookup id = some row ∧ clause db row = true := by
  simp only [getOr404, Tx.exec_bind, Tx.exec_store]
  cases hl : (table db).lookup id with
  | none => simp
  | some row' =>
    simp only [Tx.exec_ite, Tx.exec_pure, Tx.exec_raise]
    split
    next hc =>
      constructor
      · intro h
        cases h
        exact ⟨rfl, rfl, hc⟩
      · rintro ⟨rfl, h, -⟩
        rw [Option.some.inj h]
    next hc =>
      constructor
      · intro h
        cases h
      · rintro ⟨-, h, hc'⟩
        rw [Option.some.inj h] at hc
        exact absurd hc' hc

/-- A lookup of a row that the clause selects returns it. -/
theorem wp_getOr404_of_row {Q : α → Db → Prop} {E : Raised → Prop}
    (hrow : (table db).lookup id = some row) (hc : clause db row = true) :
    Tx.wp (getOr404 name table clause id) Q E db ↔ Q row db :=
  Tx.wp_of_ok (getOr404_ok.mpr ⟨rfl, hrow, hc⟩)

/-- A lookup of a row that the clause leaves out finds nothing. -/
theorem wp_getOr404_of_hidden {Q : α → Db → Prop} {E : Raised → Prop}
    (hrow : (table db).lookup id = some row) (hc : clause db row = false) :
    Tx.wp (getOr404 name table clause id) Q E db ↔ E (.notFound name (some id)) := by
  simp [getOr404, hrow, hc]

/-- A lookup returns a row that the clause selects, or raises `NotFoundError`. -/
theorem wp_getOr404 {Q : α → Db → Prop} {E : Raised → Prop}
    (hQ : ∀ row, (table db).lookup id = some row → clause db row = true → Q row db)
    (hE : E (.notFound name (some id))) : Tx.wp (getOr404 name table clause id) Q E db := by
  unfold getOr404
  rw [Tx.wp_bind, Tx.wp_store]
  split
  next row hrow =>
    rw [Tx.wp_ite]
    refine ⟨fun hc => ?_, fun _ => ?_⟩
    · rw [Tx.wp_pure]
      exact hQ row hrow hc
    · rw [Tx.wp_raise]
      exact hE
  · rw [Tx.wp_raise]
    exact hE

/-- A lookup never writes, and if it raises, it raises `NotFoundError`. -/
theorem getOr404_error {e : Raised}
    (h : Tx.exec (getOr404 name table clause id) db = (.error e, db')) :
    db' = db ∧ e = .notFound name (some id) := by
  simp only [getOr404, Tx.exec_bind, Tx.exec_store] at h
  cases hl : (table db).lookup id with
  | none =>
    simp only [hl, Tx.exec_raise, Prod.mk.injEq, Except.error.injEq] at h
    exact ⟨h.2.symm, h.1.symm⟩
  | some row =>
    simp only [hl, Tx.exec_ite, Tx.exec_pure, Tx.exec_raise] at h
    split at h
    · simp at h
    · simp only [Prod.mk.injEq, Except.error.injEq] at h
      exact ⟨h.2.symm, h.1.symm⟩

end

/-! ## Services that only look up

A part of a service that makes lookups and decides is known by what it does not do: it writes
nothing, and no constraint is checked in it. -/

/-- `x` writes nothing and violates no constraint. -/
def LooksUp {α : Type} (x : Service α) : Prop :=
  ∀ db, Tx.wp x (fun _ db' => db' = db) (fun e => ∀ k, e ≠ .integrityError k) db

namespace LooksUp

variable {α β : Type} {x y : Service α} {f : α → Service β} {db : Db}

theorem pure (a : α) : LooksUp (pure a : Service α) := by
  intro db
  rw [Tx.wp_pure]

theorem store : LooksUp (Tx.store : Service Db) := by
  intro db
  rw [Tx.wp_store]

theorem raise {e : Raised} (he : ∀ k, e ≠ .integrityError k) :
    LooksUp (Tx.raise e : Service α) := by
  intro db
  rw [Tx.wp_raise]
  exact he

theorem orRaise {e : Raised} (o : Option α) (he : ∀ k, e ≠ .integrityError k) :
    LooksUp (Tx.orRaise o e : Service α) := by
  cases o with
  | none => exact raise he
  | some a => exact pure a

theorem bind (hx : LooksUp x) (hf : ∀ a, LooksUp (f a)) : LooksUp (x >>= f) := by
  intro db
  rw [Tx.wp_bind]
  apply Tx.wp_mono (hx db)
  · rintro a _ rfl
    exact hf a _
  · exact fun e he => he

theorem map {g : α → β} (hx : LooksUp x) : LooksUp (g <$> x) := by
  intro db
  rw [Tx.wp_map]
  exact hx db

theorem ite {c : Prop} [Decidable c] (hx : LooksUp x) (hy : LooksUp y) :
    LooksUp (if c then x else y) := by
  split
  · exact hx
  · exact hy

theorem same (hx : LooksUp x) {db' : Db} {a : α} (h : Tx.exec x db = (.ok a, db')) : db' = db :=
  (Tx.wp_of_ok h).mp (hx db)

/-- What follows a lookup runs on the same store, and knows what was looked up. -/
theorem wp (hx : LooksUp x) {Q : α → Db → Prop} {E : Raised → Prop}
    (hQ : ∀ a, Tx.exec x db = (.ok a, db) → Q a db)
    (hE : ∀ e, (∀ k, e ≠ .integrityError k) → E e) : Tx.wp x Q E db := by
  have hspec := hx db
  unfold Tx.wp at hspec ⊢
  split
  next a db' h =>
    rw [h] at hspec
    obtain rfl : db' = db := hspec
    exact hQ a h
  next e db' h =>
    rw [h] at hspec
    exact hE e hspec

end LooksUp

/-- A lookup does whatever may do nothing. -/
theorem LooksUp.does {α : Type} {x : Service α} {R : Db → Db → Prop} [Std.Refl R] (hx : LooksUp x) :
    Tx.Does R x := by
  intro db
  apply Tx.wp_mono (hx db)
  · rintro _ _ rfl
    exact Std.Refl.refl _
  · exact fun _ _ => trivial

theorem looksUp_getOr404 {α : Type} (name : String) (table : Db → Table Uuid α)
    (clause : Db → α → Bool) (id : Uuid) : LooksUp (getOr404 name table clause id) := by
  intro db
  cases h : Tx.exec (getOr404 name table clause id) db with
  | mk out db' =>
    cases out with
    | ok row => exact (Tx.wp_of_ok h).mpr (getOr404_ok.mp h).1
    | error e =>
      rw [Tx.wp_of_error h, (getOr404_error h).2]
      simp

/-- `x` makes lookups, in the part `π` of the database. -/
def ReadsOnly {α β : Type} (π : Db → β) (x : Service α) : Prop :=
  ∀ db db', π db = π db' → ∃ out, Tx.exec x db = (out, db) ∧ Tx.exec x db' = (out, db')

namespace ReadsOnly

variable {α β γ : Type} {π : Db → γ} {x y : Service α} {f : α → Service β}

theorem pure (a : α) : ReadsOnly π (pure a : Service α) := fun _ _ _ => ⟨.ok a, rfl, rfl⟩

theorem raise (e : Raised) : ReadsOnly π (Tx.raise e : Service α) := fun _ _ _ => ⟨.error e, rfl, rfl⟩

theorem orRaise (o : Option α) (e : Raised) : ReadsOnly π (Tx.orRaise o e : Service α) := by
  cases o with
  | none => exact raise e
  | some a => exact pure a

theorem bind (hx : ReadsOnly π x) (hf : ∀ a, ReadsOnly π (f a)) : ReadsOnly π (x >>= f) := by
  intro db db' h
  obtain ⟨out, hdb, hdb'⟩ := hx db db' h
  rw [Tx.exec_bind, Tx.exec_bind, hdb, hdb']
  cases out with
  | error e => exact ⟨.error e, rfl, rfl⟩
  | ok a => exact hf a db db' h

theorem ite {c : Prop} [Decidable c] (hx : ReadsOnly π x) (hy : ReadsOnly π y) :
    ReadsOnly π (if c then x else y) := by
  split
  · exact hx
  · exact hy

theorem getOr404 {name : String} {table : Db → Table Uuid α} {clause : α → Bool} {id : Uuid}
    (htable : ∀ db db', π db = π db' → table db = table db') :
    ReadsOnly π (getOr404 name table (fun _ => clause) id) := by
  intro db db' h
  unfold Helpdesk.getOr404
  rw [Tx.exec_bind, Tx.exec_bind, Tx.exec_store, Tx.exec_store]
  dsimp only
  rw [htable db db' h]
  split
  · split
    · exact ⟨_, rfl, rfl⟩
    · exact ⟨_, rfl, rfl⟩
  · exact ⟨_, rfl, rfl⟩

/-- What is found in one database is found in another one that agrees in the part. -/
theorem transfer (hx : ReadsOnly π x) {db db' : Db} {out : Except Raised α} (h : π db = π db')
    (hexec : Tx.exec x db = (out, db)) : Tx.exec x db' = (out, db') := by
  obtain ⟨out', hdb, hdb'⟩ := hx db db' h
  rw [hexec] at hdb
  rw [hdb', (Prod.mk.inj hdb).1]

end ReadsOnly

end Helpdesk
