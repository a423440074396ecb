import Helpdesk.Auth.Service
import Helpdesk.Core.Repositories

/-! # Invitations and accounts

The invite-token repository, `accept_invite`, and the user service's `invite_user`, `reissue_invite`
and `disable_user`, each behind its endpoint. A request of this module is either one of them or one of
the auth router's other three.

A raw token leaves the server in a mail and only its hash is stored. Everything random, and every reading of
the clock, is an input of the request (`AcceptDraws`, `InviteDraws`). A mail relay that fails raises, and then
the session rolls the whole request back. -/

namespace Helpdesk.Auth

/-- What accepting an invite draws: as a login, and the clock when the invite is marked. -/
structure AcceptDraws extends Draws where
  usedAt : Int
  deriving DecidableEq

/-- What issuing an invite draws. -/
structure InviteDraws where
  /-- the primary key of an invited user -/
  userId : Uuid
  /-- the primary key of the new invite row -/
  tokenId : Uuid
  /-- `new_opaque_token()` -/
  rawToken : String
  /-- the clock when the new row is inserted -/
  issuedAt : Int
  /-- the clock when earlier rows are revoked -/
  revokedAt : Int
  /-- whether the relay takes the mail -/
  mailSent : Bool
  deriving DecidableEq

/-! ## `InviteTokenRepository`

A row is outstanding until it is used or revoked, and a partial unique index allows a user one outstanding
row. So `issue` checks four things at its INSERT: the primary key, the hash, the index and the foreign key. -/

def inviteTokenTtl : Int := 48 * 3600 * 1000000

namespace InviteTokens

/-- The row `issue` inserts. -/
def issuedRow (env : Crypto) (d : InviteDraws) (userId : Uuid) : InviteToken where
  userId := userId
  tokenHash := env.sha256Hash d.rawToken
  expiresAt := d.issuedAt + inviteTokenTtl
  usedAt := none
  revokedAt := none

/-- `issue`. The insert checks the primary key, both unique indices and the foreign key. -/
def issue (env : Crypto) (d : InviteDraws) (userId : Uuid) : Tx Db Raised String := do
  let token := issuedRow env d userId
  let db ← Tx.store
  if (db.inviteTokens.select fun _ row => row.tokenHash = token.tokenHash) ≠ [] then
    Tx.raise .integrityError
  else if (db.inviteTokens.select fun _ row => row.userId = userId ∧ row.Outstanding) ≠ []
  then
    Tx.raise .integrityError
  else if userId ∉ db.users then
    Tx.raise .integrityError
  else
    let inviteTokens ← Tx.orRaise (db.inviteTokens.insertNew d.tokenId token) .integrityError
    Tx.write { db with inviteTokens := inviteTokens }
    pure d.rawToken

/-- `consume`: the locked lookup by hash. -/
def consume (env : Crypto) (rawToken : String) : Tx Db Raised (Option (Uuid × InviteToken)) := do
  let db ← Tx.store
  scalarOneOrNone
    (db.inviteTokens.select fun _ row => row.tokenHash = env.sha256Hash rawToken)

/-- `mark_used`. -/
def markUsed (usedAt : Int) (tokenId : Uuid) : Tx Db Raised Unit := do
  let db ← Tx.store
  Tx.write { db with
    inviteTokens := db.inviteTokens.modify tokenId fun row => { row with usedAt := some usedAt } }

/-- `revoke_unused_for_user`. -/
def revokeUnusedForUser (revokedAt : Int) (userId : Uuid) : Tx Db Raised Unit := do
  let db ← Tx.store
  Tx.write { db with
    inviteTokens := db.inviteTokens.mapRows fun _ row =>
      if row.userId = userId ∧ row.Outstanding then
        { row with revokedAt := some revokedAt }
      else row }

end InviteTokens

/-! ## Writes to `users`

One CHECK is on the table: only a pending user may do without a password hash. A violation is an
`IntegrityError`, which an endpoint answers in its own way or not at all. -/

/-- `ck_users_password_hash_required_unless_pending`. -/
def PasswordHashRequiredUnlessPending (user : User) : Prop :=
  user.status = .pending ∨ user.passwordHash ≠ none

instance (user : User) : Decidable (PasswordHashRequiredUnlessPending user) := by
  unfold PasswordHashRequiredUnlessPending
  infer_instance

/-- The UPDATE of one row at flush. -/
def flushUser (userId : Uuid) (user : User) : Tx Db Raised Unit := do
  let db ← Tx.store
  if PasswordHashRequiredUnlessPending user then
    Tx.write { db with users := db.users.modify userId fun _ => user }
  else Tx.raise .integrityError

/-- The INSERT of an invited user. -/
def insertUser (env : Crypto) (userId : Uuid) (user : User) : Tx Db Raised Unit := do
  let db ← Tx.store
  if (db.users.select fun _ other => env.sqlLower other.email = env.sqlLower user.email) ≠ [] then
    Tx.raise .integrityError
  else if user.organizationId.any (· ∉ db.organizations) then
    Tx.raise .integrityError
  else
    let users ← Tx.orRaise (db.users.insertNew userId user) .integrityError
    Tx.write { db with users := users }

/-! ## The services

`disable_user` assigns the status and returns; the UPDATE is made when the session commits. In the model it
is made where the attribute is set, since nothing comes in between. -/

def genericInviteFailure : String := "invalid or expired invite token"

/-- `accept_invite`. -/
def acceptInvite (env : Crypto) (d : AcceptDraws) (rawToken newPassword : String) :
    Tx Db Raised TokenPair := do
  let tokenRow ← InviteTokens.consume env rawToken
  match tokenRow with
  | none => Tx.raise (.inviteAcceptError genericInviteFailure)
  | some (tokenId, token) =>
    if token.usedAt ≠ none ∨ token.revokedAt ≠ none then
      Tx.raise (.inviteAcceptError genericInviteFailure)
    else if token.expiresAt < d.checkedAt then
      Tx.raise (.inviteAcceptError genericInviteFailure)
    else
      let db ← Tx.store
      match db.users.lookup token.userId with
      | none => Tx.raise (.inviteAcceptError genericInviteFailure)
      | some user =>
        if user.status ≠ .pending then
          Tx.raise (.inviteAcceptError genericInviteFailure)
        else
          let user := { user with
            passwordHash := some (env.hashPassword d.salt newPassword)
            status := .active }
          -- the flush of `mark_used` writes the user too
          flushUser token.userId user
          InviteTokens.markUsed d.usedAt tokenId
          issuePair env d.toDraws token.userId user none

/-- `_require_org_admin`. -/
def requireOrgAdmin (admin : User) : Tx Db Raised Uuid :=
  match admin.organizationId with
  | none => Tx.raise (.forbiddenError "admin privileges required")
  | some organizationId =>
    if admin.role ≠ .admin then Tx.raise (.forbiddenError "admin privileges required")
    else pure organizationId

/-- `_issue_and_send_invite`: a relay that fails raises. -/
def issueAndSendInvite (env : Crypto) (d : InviteDraws) (userId : Uuid) : Tx Db Raised Unit := do
  let _ ← InviteTokens.issue env d userId
  Tx.when (d.mailSent = false) (Tx.raise .smtpException)

/-- `invite_user`. -/
def inviteUser (env : Crypto) (d : InviteDraws) (admin : User) (name email : String) (role : UserRole) :
    Tx Db Raised (Uuid × User) := do
  let organizationId ← requireOrgAdmin admin
  let user : User :=
    { organizationId := some organizationId
      name := name
      email := email
      role := role
      passwordHash := none
      status := .pending
      phoneNumber := none }
  insertUser env d.userId user
  issueAndSendInvite env d d.userId
  pure (d.userId, user)

/-- `reissue_invite`. -/
def reissueInvite (env : Crypto) (d : InviteDraws) (admin : User) (userId : Uuid) :
    Tx Db Raised (Uuid × User) := do
  let organizationId ← requireOrgAdmin admin
  let db ← Tx.store
  match db.users.lookup userId with
  | none => Tx.raise (.notFoundError "user not found")
  | some user =>
    if user.organizationId ≠ some organizationId then Tx.raise (.notFoundError "user not found")
    else if user.status ≠ .pending then Tx.raise (.conflictError "already_active")
    else
      InviteTokens.revokeUnusedForUser d.revokedAt userId
      issueAndSendInvite env d userId
      pure (userId, user)

/-- `disable_user`: the attribute is set, and the session's commit flushes it. -/
def disableUser (scope : OrgScope) (userId : Uuid) : Tx Db Raised (Uuid × User) := do
  let db ← Tx.store
  match db.users.lookup userId with
  | none => Tx.raise (.notFound "User" userId)
  | some user =>
    if scope.selectsUser user then
      let user := { user with status := .disabled }
      flushUser userId user
      pure (userId, user)
    else Tx.raise (.notFound "User" userId)

/-! ## The endpoints

An endpoint first finds its principal, and then the role, and turns what the service raises into an HTTP
error. `accountHandle` is the request under `get_session`: what it has written lasts if it has returned. -/

/-- `get_principal`, of the user id that the access token names. -/
def getPrincipal (userId : Uuid) : Tx Db Raised User := do
  let db ← Tx.store
  match db.users.lookup userId with
  | none => Tx.raise .httpUnauthorized
  | some user => if user.status ≠ .active then Tx.raise .httpUnauthorized else pure user

/-- `require_org_admin`. -/
def requireOrgAdminScope (principalId : Uuid) (principal : User) : Tx Db Raised OrgScope :=
  match principal.organizationId with
  | none => Tx.raise (.httpForbidden "admin privileges required")
  | some organizationId =>
    if principal.role ≠ .admin then Tx.raise (.httpForbidden "admin privileges required")
    else pure ⟨organizationId, principalId, principal.role⟩

/-- One HTTP request to the auth or the users router. -/
inductive AccountRequest where
  | auth (r : Request)
  | acceptInvite (token newPassword : String) (d : AcceptDraws)
  | inviteUser (principal : Uuid) (name email : String) (role : UserRole) (d : InviteDraws)
  | reissueInvite (principal userId : Uuid) (d : InviteDraws)
  | disableUser (principal userId : Uuid)

/-- What a request answers. -/
inductive Response where
  | tokens (pair : TokenPair)
  | user (id : Uuid) (user : User)
  | noContent
  deriving DecidableEq

/-- The `except` clauses of `invite_user`'s endpoint: every `IntegrityError` is a 409. -/
def inviteUserToHttp : Raised → HttpError
  | .integrityError => .conflict "a user with this email already exists"
  | e => toHttp e

/-- The handler of a request. -/
def accountEndpoint (env : Crypto) : AccountRequest → Tx Db HttpError Response
  | .auth r => (fun pair => (pair.map .tokens).getD .noContent) <$> endpoint env r
  | .acceptInvite token newPassword d =>
    .tokens <$> Tx.mapError toHttp (acceptInvite env d token newPassword)
  | .inviteUser principal name email role d => do
    let admin ← Tx.mapError toHttp (getPrincipal principal)
    let (id, user) ← Tx.mapError inviteUserToHttp (inviteUser env d admin name email role)
    pure (.user id user)
  | .reissueInvite principal userId d => do
    let admin ← Tx.mapError toHttp (getPrincipal principal)
    let (id, user) ← Tx.mapError toHttp (reissueInvite env d admin userId)
    pure (.user id user)
  | .disableUser principal userId => do
    let admin ← Tx.mapError toHttp (getPrincipal principal)
    let scope ← Tx.mapError toHttp (requireOrgAdminScope principal admin)
    let (id, user) ← Tx.mapError toHttp (disableUser scope userId)
    pure (.user id user)

/-- A request under `get_session`. -/
def accountHandle (env : Crypto) (db : Db) (r : AccountRequest) : Except HttpError Response × Db :=
  Tx.settle (accountEndpoint env r) db

/-- The committed database after a request. -/
def accountStep (env : Crypto) (db : Db) (r : AccountRequest) : Db := (accountHandle env db r).2

end Helpdesk.Auth
