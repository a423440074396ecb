import Helpdesk.Directory.Service
import Helpdesk.Library.Run
import Helpdesk.Tickets.Isolation
import Helpdesk.Tickets.Messages
import Helpdesk.Tickets.Views

/-! # Requests of an organization's members

The REST routes under which the members of an organization work: tickets and their messages, the taxonomy,
properties, contracts and users; and the classification jobs, which run under the organization's own scope.
Each is one transaction of `get_session`.

`POST /users` is not among them (an address is unique in all organizations, so that a 409 of one depends on
another), nor are `POST /users/{user_id}/invite`, which mails a token, `GET .../suggested-response`, which
asks the model, and the organizations themselves, which a super-admin edits. -/

namespace Helpdesk.Tenancy

open Tickets (TicketCreate TicketPatch UpdateDraws TicketFilters CategoryUpdate UrgencyLevelUpdate)
open Directory (PropertyUpdate UserUpdate)

/-! ## Routes

Each route has its guard, and a service that is called with the scope that the guard returns. Ids and instants
that the service draws are inputs of the route. -/

/-- Which of the dependencies of `deps.py` a route has. -/
inductive Guard where
  | orgMember
  | orgStaff
  | orgAdmin
  deriving DecidableEq

/-- `require_org_member` -/
def requireOrgMember (principalId : Uuid) (principal : User) : Tx Db Auth.Raised OrgScope :=
  match principal.organizationId with
  | none => Tx.raise (.httpForbidden "organization membership required")
  | some organizationId => pure ⟨organizationId, principalId, principal.role⟩

/-- `require_org_staff` -/
def requireOrgStaff (principalId : Uuid) (principal : User) : Tx Db Auth.Raised OrgScope :=
  match principal.organizationId with
  | none => Tx.raise (.httpForbidden "staff privileges required")
  | some organizationId =>
    if principal.role.isStaff then pure ⟨organizationId, principalId, principal.role⟩
    else Tx.raise (.httpForbidden "staff privileges required")

def Guard.require : Guard → Uuid → User → Tx Db Auth.Raised OrgScope
  | orgMember => requireOrgMember
  | orgStaff => requireOrgStaff
  | orgAdmin => Auth.requireOrgAdminScope

/-- A route, with its parameters and what it draws. -/
inductive Route where
  | listTickets (filters : TicketFilters)
  | getTicket (ticketId : Uuid)
  | createTicket (ticketId : Uuid) (anchor : Int) (p : TicketCreate)
  | updateTicket (ticketId : Uuid) (patch : TicketPatch) (d : UpdateDraws)
  | listMessages (ticketId : Uuid)
  | createMessage (newId ticketId : Uuid) (content : String) (basedOnSuggestionId : Option Uuid)
  | listCategories (includeInactive : Bool)
  | getCategory (id : Uuid)
  | createCategory (id : Uuid) (name : String) (description : Option String)
  | updateCategory (id : Uuid) (fields : CategoryUpdate)
  | deleteCategory (id : Uuid)
  | listUrgencyLevels (includeInactive : Bool)
  | getUrgencyLevel (id : Uuid)
  | createUrgencyLevel (id : Uuid) (name : String) (slaHours sortOrder : Int) (respectsBusinessHours : Bool)
  | updateUrgencyLevel (id : Uuid) (fields : UrgencyLevelUpdate)
  | deleteUrgencyLevel (id : Uuid)
  | listProperties
  | getProperty (propertyId : Uuid)
  | createProperty (id ownerId : Uuid) (address : String) (type : PropertyType)
  | updateProperty (propertyId : Uuid) (fields : PropertyUpdate)
  | deleteProperty (propertyId : Uuid) (now : Int)
  | listContracts
  | getContract (contractId : Uuid)
  | createContract (id propertyId tenantId : Uuid) (startDate endDate : Int)
  | updateContract (contractId : Uuid) (status : ContractStatus)
  | listUsers (role : Option UserRole) (status : Option UserStatus)
  | getUser (userId : Uuid)
  | updateUser (userId : Uuid) (fields : UserUpdate)
  | disableUser (userId : Uuid)

def Route.guard : Route → Guard
  | listTickets _ | getTicket _ | createTicket .. | updateTicket .. | listMessages _ | createMessage .. => .orgMember
  | listCategories _ | getCategory _ | listUrgencyLevels _ | getUrgencyLevel _ | listProperties | getProperty _
  | listContracts | getContract _ => .orgStaff
  | createCategory .. | updateCategory .. | deleteCategory _ | createUrgencyLevel .. | updateUrgencyLevel ..
  | deleteUrgencyLevel _ | createProperty .. | updateProperty .. | deleteProperty .. | createContract ..
  | updateContract .. | listUsers .. | getUser _ | updateUser .. | disableUser _ => .orgAdmin

/-- What a request is answered with, if it is not refused. -/
inductive Response where
  | tickets (rows : List Tickets.TicketResponse)
  | ticketRead (row : Tickets.TicketResponse)
  | ticketWritten (row : Ticket)
  | messages (rows : List Tickets.MessageResponse)
  | messageWritten (row : Tickets.PostedMessage)
  | categories (rows : List (Uuid × Category))
  | category (row : Category)
  | urgencyLevels (rows : List (Uuid × UrgencyLevel))
  | urgencyLevel (row : UrgencyLevel)
  | taxonomyWritten
  | taxonomyDeleted (gone : Bool)
  | properties (rows : List (Uuid × Property))
  | property (row : Property)
  | contracts (rows : List (Uuid × Contract))
  | contract (row : Contract)
  | users (rows : List (Uuid × User))
  | user (row : User)
  | jobDone
  deriving DecidableEq

/-- `list_categories` -/
def listCategories (scope : OrgScope) (includeInactive : Bool) : Service (List (Uuid × Category)) := do
  let db ← Tx.store
  pure (db.categories.select fun _ c => scope.selectsCategory c && (includeInactive || c.active))

/-- `list_urgency_levels`, in their sort order. -/
def listUrgencyLevels (scope : OrgScope) (includeInactive : Bool) : Service (List (Uuid × UrgencyLevel)) := do
  let db ← Tx.store
  let rows := db.urgencyLevels.select fun _ u => scope.selectsUrgencyLevel u && (includeInactive || u.active)
  pure (rows.insertionSort fun u v => u.2.sortOrder ≤ v.2.sortOrder)

/-- What the handlers take from elsewhere. -/
structure Env extends Tickets.Env where
  /-- the column `messages.created_at` -/
  createdAt : Uuid → Int

section
open Directory (ofService)
variable (env : Env) (scope : OrgScope)

/-- The handler of a route, under the scope that its guard has let through. -/
def Route.serve : Route → Directory.Handler Response
  | listTickets filters => .tickets <$> ofService (Tickets.listTickets scope filters)
  | getTicket ticketId => .ticketRead <$> ofService (Tickets.getTicket scope ticketId)
  | createTicket ticketId anchor p =>
    .ticketWritten <$> ofService (Tickets.createTicket env.toEnv scope ticketId anchor p)
  | updateTicket ticketId patch d =>
    .ticketWritten <$> ofService (Tickets.updateTicket env.toEnv scope ticketId patch d)
  | listMessages ticketId => .messages <$> ofService (Tickets.listMessages scope env.createdAt ticketId)
  | createMessage newId ticketId content basedOnSuggestionId =>
    .messageWritten <$> ofService (Tickets.createMessage scope newId ticketId content basedOnSuggestionId)
  | listCategories includeInactive => .categories <$> ofService (Tenancy.listCategories scope includeInactive)
  | getCategory id => .category <$> ofService (scope.getCategory id)
  | createCategory id name description =>
    (fun _ => .taxonomyWritten) <$> ofService (Tickets.createCategory env.toEnv scope id name description)
  | updateCategory id fields =>
    (fun _ => .taxonomyWritten) <$> ofService (Tickets.updateCategory env.toEnv scope id fields)
  | deleteCategory id => .taxonomyDeleted <$> ofService (Tickets.deleteCategory scope id)
  | listUrgencyLevels includeInactive =>
    .urgencyLevels <$> ofService (Tenancy.listUrgencyLevels scope includeInactive)
  | getUrgencyLevel id => .urgencyLevel <$> ofService (scope.getUrgencyLevel id)
  | createUrgencyLevel id name slaHours sortOrder respectsBusinessHours =>
    (fun _ => .taxonomyWritten) <$>
      ofService (Tickets.createUrgencyLevel env.toEnv scope id name slaHours sortOrder respectsBusinessHours)
  | updateUrgencyLevel id fields =>
    (fun _ => .taxonomyWritten) <$> ofService (Tickets.updateUrgencyLevel env.toEnv scope id fields)
  | deleteUrgencyLevel id => .taxonomyDeleted <$> ofService (Tickets.deleteUrgencyLevel scope id)
  | listProperties => .properties <$> Directory.listProperties scope
  | getProperty propertyId => .property <$> ofService (scope.getProperty propertyId)
  | createProperty id ownerId address type => .property <$> Directory.createProperty scope id ownerId address type
  | updateProperty propertyId fields => .property <$> Directory.updateProperty scope propertyId fields
  | deleteProperty propertyId now => .property <$> Directory.deleteProperty scope propertyId now
  | listContracts => .contracts <$> Directory.listContracts scope
  | getContract contractId => .contract <$> ofService (scope.getContract contractId)
  | createContract id propertyId tenantId startDate endDate =>
    .contract <$> Directory.createContract scope id propertyId tenantId startDate endDate
  | updateContract contractId status => .contract <$> Directory.updateContract scope contractId status
  | listUsers role status => .users <$> Directory.listUsers scope role status
  | getUser userId => .user <$> ofService (scope.getUser userId)
  | updateUser userId fields => .user <$> Directory.updateUser scope userId fields
  | disableUser userId => .user <$> Directory.disableUser scope userId

end

inductive Request where
  /-- A request with an access token of the user `principal`. -/
  | call (principal : Uuid) (route : Route)
  /-- A delivery of `classify_ticket`. -/
  | classifyTicket (m : Tickets.ClassifierModel) (jobTry : Nat) (ticketId organizationId : Uuid)

/-- The scope of a call: `get_principal` and the guard. -/
def authorize (principal : Uuid) (guard : Guard) : Directory.Handler OrgScope := do
  let user ← Directory.ofAccount (Auth.getPrincipal principal)
  Directory.ofAccount (guard.require principal user)

def Request.handle (env : Env) : Request → Directory.Handler Response
  | call principal route => do
    let scope ← authorize principal route.guard
    route.serve env scope
  | classifyTicket m jobTry ticketId organizationId =>
    (fun _ => .jobDone) <$>
      Directory.ofService (Tickets.classifyTicket env.toEnv m.classifier jobTry ticketId organizationId)

/-- What the request is answered with. -/
def Request.answer (env : Env) (db : Db) (r : Request) : Except Directory.DirectoryError Response :=
  (Tx.settle (r.handle env) db).1

/-- The committed database after the request. -/
def Request.step (env : Env) (db : Db) (r : Request) : Db := (Tx.settle (r.handle env) db).2

/-! ## Who is let through

A call is answered in one of two ways: under a scope that the guard has given out, or with the error of the
guard. Either way the authorization has written nothing. -/

/-- The user is active in the organization, and the guard lets its role through. -/
structure Authorized (db : Db) (principal : Uuid) (guard : Guard) (scope : OrgScope) : Prop where
  userId : scope.userId = principal
  user : ∃ user, db.users.lookup principal = some user ∧ user.status = .active ∧
    user.organizationId = some scope.organizationId ∧ user.role = scope.role
  staff : guard = .orgStaff → scope.role.isStaff = true
  admin : guard = .orgAdmin → scope.role = .admin

variable {env : Env} {db : Db} {principal : Uuid} {guard : Guard} {scope : OrgScope}

theorem exec_getPrincipal (principal : Uuid) (db : Db) : ∃ out, Tx.exec (Auth.getPrincipal principal) db = (out, db) ∧
    ∀ user, out = .ok user → db.users.lookup principal = some user ∧ user.status = .active := by
  unfold Auth.getPrincipal
  rw [Tx.exec_bind, Tx.exec_store]
  dsimp only
  cases hlookup : db.users.lookup principal with
  | none => exact ⟨_, rfl, fun _ h => by cases h⟩
  | some user =>
    by_cases hactive : user.status = .active
    · refine ⟨.ok user, by simp [hactive], fun user' h => ?_⟩
      cases h
      exact ⟨rfl, hactive⟩
    · exact ⟨.error .httpUnauthorized, by simp [hactive], fun _ h => by cases h⟩

theorem exec_require (guard : Guard) (principal : Uuid) (user : User) (db : Db) :
    ∃ out, Tx.exec (guard.require principal user) db = (out, db) ∧
    ∀ scope, out = .ok scope → user.organizationId = some scope.organizationId ∧ scope.userId = principal ∧
      user.role = scope.role ∧ (guard = .orgStaff → scope.role.isStaff = true) ∧
        (guard = .orgAdmin → scope.role = .admin) := by
  -- without an organization there is no scope, whatever the guard
  obtain ⟨_ | organizationId, name, email, role, passwordHash, status, phoneNumber⟩ := user
  · cases guard with
    | orgMember => exact ⟨.error _, rfl, fun _ h => by cases h⟩
    | orgStaff => exact ⟨.error _, rfl, fun _ h => by cases h⟩
    | orgAdmin => exact ⟨.error _, rfl, fun _ h => by cases h⟩
  cases guard with
  | orgMember =>
    refine ⟨.ok ⟨organizationId, principal, role⟩, rfl, fun scope h => ?_⟩
    cases h
    exact ⟨rfl, rfl, rfl, fun h => (by cases h), fun h => (by cases h)⟩
  | orgStaff =>
    by_cases hstaff : role.isStaff = true
    · refine ⟨.ok ⟨organizationId, principal, role⟩, ?_, fun scope h => ?_⟩
      · unfold Guard.require requireOrgStaff
        dsimp only
        rw [if_pos hstaff, Tx.exec_pure]
      · cases h
        exact ⟨rfl, rfl, rfl, fun _ => hstaff, fun h => (by cases h)⟩
    · refine ⟨.error (.httpForbidden "staff privileges required"), ?_, fun _ h => by cases h⟩
      unfold Guard.require requireOrgStaff
      dsimp only
      rw [if_neg hstaff, Tx.exec_raise]
  | orgAdmin =>
    by_cases hadmin : role = .admin
    · refine ⟨.ok ⟨organizationId, principal, role⟩, ?_, fun scope h => ?_⟩
      · unfold Guard.require Auth.requireOrgAdminScope
        dsimp only
        rw [if_neg (not_not.mpr hadmin), Tx.exec_pure]
      · cases h
        exact ⟨rfl, rfl, rfl, fun h => (by cases h), fun _ => hadmin⟩
    · refine ⟨.error (.httpForbidden "admin privileges required"), ?_, fun _ h => by cases h⟩
      unfold Guard.require Auth.requireOrgAdminScope
      dsimp only
      rw [if_pos hadmin, Tx.exec_raise]

/-- A call is refused, or let through under a scope of its principal's organization. Nothing is written. -/
theorem exec_authorize (principal : Uuid) (guard : Guard) (db : Db) :
    ∃ out, Tx.exec (authorize principal guard) db = (out, db) ∧
      ∀ scope, out = .ok scope → Authorized db principal guard scope := by
  obtain ⟨out, hprincipal, huser⟩ := exec_getPrincipal principal db
  unfold authorize Directory.ofAccount
  rw [Tx.exec_bind, Tx.exec_mapError, hprincipal]
  cases out with
  | error e => exact ⟨_, rfl, fun _ h => by cases h⟩
  | ok user =>
    obtain ⟨hlookup, hactive⟩ := huser user rfl
    obtain ⟨out, hrequire, hscope⟩ := exec_require guard principal user db
    show ∃ out, Tx.exec (Tx.mapError _ (guard.require principal user)) db = (out, db) ∧ _
    rw [Tx.exec_mapError, hrequire]
    refine ⟨_, rfl, fun scope h => ?_⟩
    cases out with
    | error e => cases h
    | ok scope' =>
      cases h
      obtain ⟨horg, huserId, hrole, hstaff, hadmin⟩ := hscope scope rfl
      exact ⟨huserId, ⟨user, hlookup, hactive, horg, hrole⟩, hstaff, hadmin⟩

/-- **A call**: it is refused, or served under a scope of its principal. -/
theorem settle_call (env : Env) (principal : Uuid) (route : Route) (db : Db) :
    (∃ scope, Authorized db principal route.guard scope ∧
      Tx.settle ((Request.call principal route).handle env) db = Tx.settle (route.serve env scope) db) ∨
    ∃ e, Tx.settle ((Request.call principal route).handle env) db = (.error e, db) := by
  obtain ⟨out, hexec, hscope⟩ := exec_authorize principal route.guard db
  cases out with
  | ok scope => exact .inl ⟨scope, hscope scope rfl, Tx.settle_bind_of_ok hexec⟩
  | error e =>
    refine .inr ⟨e, ?_⟩
    unfold Request.handle
    rw [Tx.settle, Tx.exec_bind, hexec]

end Helpdesk.Tenancy
