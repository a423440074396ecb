import Helpdesk.Auth.Accounts

/-! # Properties, contracts and users

`property_service`, `contract_service` and the part of `user_service` that administrators edit users with.

Each function looks up what the request names under the scope, and then writes one row. What the database
refuses is an `IntegrityError` that nobody catches: a NULL in a column that has none, the CHECK of a contract's
dates, a key that is taken, or a key that refers to nothing, in this order. The rows are what the endpoints
return, `created_at` apart, which the database fills in. -/

namespace Helpdesk.Directory

inductive DirectoryError where
  | service (e : Raised)
  | account (e : Auth.Raised)
  /-- `InvalidOwnerRoleError` -/
  | invalidOwnerRole (message : String)
  /-- `InvalidTenantRoleError` -/
  | invalidTenantRole (message : String)
  /-- an `IntegrityError` that nobody catches -/
  | integrityError (constraint : String)
  deriving DecidableEq

abbrev Handler (α : Type) := Tx Db DirectoryError α

/-- A lookup, or another function of the services. -/
def ofService {α : Type} (x : Service α) : Handler α := Tx.mapError .service x

def ofAccount {α : Type} (x : Tx Db Auth.Raised α) : Handler α := Tx.mapError .account x

/-- A value for a column that is NOT NULL: unset, `null`, or a value. -/
def requireNotNull {α : Type} (column : String) : Option (Option α) → Handler (Option α)
  | none => pure none
  | some none => Tx.raise (.integrityError column)
  | some (some a) => pure (some a)

/-! ## Properties

An owner is looked up before a property is written, and has to have the role. A property is never deleted:
`deleted_at` is set, and from then on no lookup selects it. Contracts that name it stay. -/

/-- INSERT into `properties`. -/
def insertProperty (id : Uuid) (row : Property) : Service Property := do
  let db ← Tx.store
  let properties ← Tx.orRaise (db.properties.insertNew id row) (.integrityError .primaryKey)
  if row.organizationId ∈ db.organizations ∧ row.ownerId ∈ db.users then
    Tx.write { db with properties := properties }
    pure row
  else Tx.raise (.integrityError .foreignKey)

/-- `create_property` -/
def createProperty (scope : OrgScope) (id ownerId : Uuid) (address : String) (type : PropertyType) :
    Handler Property := do
  let owner ← ofService (scope.getUser ownerId)
  if owner.role ≠ .owner then
    Tx.raise (.invalidOwnerRole "owner_id must reference a user with role 'owner'")
  else ofService (insertProperty id ⟨scope.organizationId, ownerId, address, type, none⟩)

/-- UPDATE of one property. -/
def flushProperty (id : Uuid) (row : Property) : Service Property := do
  let db ← Tx.store
  Tx.write { db with properties := db.properties.modify id fun _ => row }
  pure row

/-- The fields of a `PropertyUpdate` that are set. -/
structure PropertyUpdate where
  address : Option (Option String)
  type : Option (Option PropertyType)

/-- `update_property` -/
def updateProperty (scope : OrgScope) (propertyId : Uuid) (fields : PropertyUpdate) : Handler Property := do
  let row ← ofService (scope.getProperty propertyId)
  let address ← requireNotNull "address" fields.address
  let type ← requireNotNull "type" fields.type
  ofService (flushProperty propertyId { row with
    address := address.getD row.address
    type := type.getD row.type })

/-- `delete_property`, at the time `now`. -/
def deleteProperty (scope : OrgScope) (propertyId : Uuid) (now : Int) : Handler Property := do
  let row ← ofService (scope.getProperty propertyId)
  ofService (flushProperty propertyId { row with deletedAt := some now })

/-- `list_properties` -/
def listProperties (scope : OrgScope) : Handler (List (Uuid × Property)) := do
  let db ← Tx.store
  pure (db.properties.select fun _ p => scope.selectsProperty p)

/-! ## Contracts

The parties and the dates of a contract are written once, with its row. Afterwards only the status changes. -/

/-- A new contract, with the server default `active`, if it passes `ck_contracts_end_date_after_start_date`. -/
def newContract (propertyId tenantId : Uuid) (startDate endDate : Int) : Option Contract :=
  if h : startDate ≤ endDate then some ⟨propertyId, tenantId, startDate, endDate, .active, h⟩ else none

theorem newContract_parties {propertyId tenantId : Uuid} {startDate endDate : Int} {row : Contract}
    (h : newContract propertyId tenantId startDate endDate = some row) :
    row.propertyId = propertyId ∧ row.tenantId = tenantId := by
  unfold newContract at h
  split at h
  · cases h
    exact ⟨rfl, rfl⟩
  · cases h

/-- INSERT into `contracts`. -/
def insertContract (id propertyId tenantId : Uuid) (startDate endDate : Int) : Handler Contract := do
  let row ← Tx.orRaise (newContract propertyId tenantId startDate endDate)
    (.integrityError "ck_contracts_end_date_after_start_date")
  let db ← Tx.store
  let contracts ← Tx.orRaise (db.contracts.insertNew id row) (.service (.integrityError .primaryKey))
  if propertyId ∈ db.properties ∧ tenantId ∈ db.users then
    Tx.write { db with contracts := contracts }
    pure row
  else Tx.raise (.service (.integrityError .foreignKey))

/-- `create_contract` -/
def createContract (scope : OrgScope) (id propertyId tenantId : Uuid) (startDate endDate : Int) :
    Handler Contract := do
  let _ ← ofService (scope.getProperty propertyId)
  let tenant ← ofService (scope.getUser tenantId)
  if tenant.role ≠ .tenant then
    Tx.raise (.invalidTenantRole "tenant_id must reference a user with role 'tenant'")
  else insertContract id propertyId tenantId startDate endDate

/-- UPDATE of one contract. -/
def flushContract (id : Uuid) (row : Contract) : Service Contract := do
  let db ← Tx.store
  Tx.write { db with contracts := db.contracts.modify id fun _ => row }
  pure row

/-- `update_contract` -/
def updateContract (scope : OrgScope) (contractId : Uuid) (status : ContractStatus) : Handler Contract := do
  let row ← ofService (scope.getContract contractId)
  ofService (flushContract contractId { row with status := status })

/-- `list_contracts` -/
def listContracts (scope : OrgScope) : Handler (List (Uuid × Contract)) := do
  let db ← Tx.store
  pure (db.contracts.select fun _ c => scope.selectsContract db c)

/-! ## Users

Users are created and activated through invitations, which is the account services' part. Here an admin edits
their name and role, disables them and lists them. -/

/-- The fields of a `UserUpdate` that are set. -/
structure UserUpdate where
  name : Option (Option String)
  role : Option (Option UserRole)

/-- `update_user` -/
def updateUser (scope : OrgScope) (userId : Uuid) (fields : UserUpdate) : Handler User := do
  let user ← ofService (scope.getUser userId)
  let name ← requireNotNull "name" fields.name
  let role ← requireNotNull "role" fields.role
  let user := { user with name := name.getD user.name, role := role.getD user.role }
  ofAccount (Auth.flushUser userId user)
  pure user

/-- `disable_user` -/
def disableUser (scope : OrgScope) (userId : Uuid) : Handler User :=
  Prod.snd <$> ofAccount (Auth.disableUser scope userId)

/-- `list_users` -/
def listUsers (scope : OrgScope) (role : Option UserRole) (status : Option UserStatus) :
    Handler (List (Uuid × User)) := do
  let db ← Tx.store
  pure (db.users.select fun _ user =>
    scope.selectsUser user && role.all (user.role = ·) && status.all (user.status = ·))

end Helpdesk.Directory
