import Helpdesk.Core.Schema
import Helpdesk.Core.Text
import Helpdesk.Library.Transaction

/-! # Login, refresh and logout

The refresh-token repository, the authentication service and the auth endpoints. What the code
takes from elsewhere is split in two: `Crypto` holds the functions of third-party packages (argon2,
SHA-256, JWT signing, the two `lower`s), `Draws` what one request reads from the clock and the
random source. -/

namespace Helpdesk.Auth

/-- The claims of an access token. -/
structure AccessClaims where
  sub : Uuid
  org : Option Uuid
  role : String
  jti : Uuid
  iat : Int
  exp : Int
  typ : String
  deriving DecidableEq

/-- The third-party functions the service calls. -/
structure Crypto where
  /-- `hashlib.sha256(raw.encode("utf-8")).digest()` -/
  sha256Hash : String → Digest
  /-- `PasswordHasher().hash`, with the salt it draws -/
  hashPassword : Nat → String → String
  /-- `verify_password(hashed_password, plain_password)` -/
  verifyPassword : String → String → Bool
  /-- `PasswordHasher().check_needs_rehash` -/
  needsRehash : String → Bool
  /-- Python's `str.lower` -/
  lower : String → String
  /-- PostgreSQL's `lower` -/
  sqlLower : String → String
  /-- `pyjwt.encode` with the configured secret and algorithm -/
  signJwt : AccessClaims → String

/-- What one request reads from `datetime.now`, `uuid4`, `secrets` and the salt source. -/
structure Draws where
  /-- the clock at the expiry check -/
  checkedAt : Int
  /-- the clock when a row is revoked -/
  revokedAt : Int
  /-- the clock when the access token is signed -/
  signedAt : Int
  /-- the clock when the new row is inserted -/
  issuedAt : Int
  /-- `new_opaque_token()` -/
  rawToken : String
  /-- the family id of a new login -/
  familyId : Uuid
  /-- the primary key of the new row -/
  rowId : Uuid
  jti : Uuid
  salt : Nat
  deriving DecidableEq

/-- What the service and its database calls can raise. -/
inductive Raised where
  | authenticationError (message : String)
  | inviteAcceptError (message : String)
  /-- `user_service.ForbiddenError` -/
  | forbiddenError (message : String)
  /-- `user_service.NotFoundError` -/
  | notFoundError (message : String)
  /-- `user_service.ConflictError` -/
  | conflictError (message : String)
  /-- `core.exceptions.NotFoundError(name, id)` -/
  | notFound (name : String) (id : Uuid)
  /-- `HTTPException(status_code=403, detail=...)` -/
  | httpForbidden (detail : String)
  /-- `HTTPException(status_code=401)` of `get_principal` -/
  | httpUnauthorized
  | integrityError
  | multipleResultsFound
  /-- an exception of `aiosmtplib.send` -/
  | smtpException
  deriving DecidableEq

structure TokenPair where
  accessToken : String
  refreshToken : String
  deriving DecidableEq

def genericAuthFailure : String := "invalid email or password"

def genericRefreshFailure : String := "invalid or expired refresh token"

/-- `result.scalar_one_or_none()`. -/
def scalarOneOrNone {α : Type} : List α → Tx Db Raised (Option α)
  | [] => pure none
  | [a] => pure (some a)
  | _ :: _ :: _ => Tx.raise .multipleResultsFound

/-! ## `RefreshTokenRepository`

A raw token leaves the server once, and the table has its hash. `rotate` only finds the row, under a lock; that
it is then revoked is up to the service. -/

def defaultRefreshTokenTtl : Int := days 30

/-- `issue`: insert a row for a new raw token, in the given family or in a new one. The insert
    checks the primary key, the unique index on `token_hash` and the foreign key to `users`. -/
def issue (env : Crypto) (d : Draws) (userId : Uuid) (familyId : Option Uuid) :
    Tx Db Raised (String × Uuid) := do
  let resolvedFamilyId := familyId.getD d.familyId
  let token : RefreshToken :=
    { userId := userId
      tokenHash := env.sha256Hash d.rawToken
      familyId := resolvedFamilyId
      revokedAt := none
      expiresAt := d.issuedAt + defaultRefreshTokenTtl }
  let db ← Tx.store
  if (db.refreshTokens.select fun _ row => row.tokenHash = token.tokenHash) ≠ [] then
    Tx.raise .integrityError
  else if userId ∉ db.users then
    Tx.raise .integrityError
  else
    let refreshTokens ← Tx.orRaise (db.refreshTokens.insertNew d.rowId token) .integrityError
    Tx.write { db with refreshTokens := refreshTokens }
    pure (d.rawToken, resolvedFamilyId)

/-- `rotate`: the locked lookup by hash. -/
def rotate (env : Crypto) (rawToken : String) : Tx Db Raised (Option (Uuid × RefreshToken)) := do
  let db ← Tx.store
  scalarOneOrNone
    (db.refreshTokens.select fun _ row => row.tokenHash = env.sha256Hash rawToken)

/-- `revoke`: mark one row. -/
def revoke (d : Draws) (tokenId : Uuid) : Tx Db Raised Unit := do
  let db ← Tx.store
  Tx.write { db with
    refreshTokens := db.refreshTokens.modify tokenId fun row =>
      { row with revokedAt := some d.revokedAt } }

/-- `revoke_family`: mark every row of the family that is not marked yet. -/
def revokeFamily (d : Draws) (familyId : Uuid) : Tx Db Raised Unit := do
  let db ← Tx.store
  Tx.write { db with
    refreshTokens := db.refreshTokens.mapRows fun _ row =>
      if row.familyId = familyId ∧ row.revokedAt = none then
        { row with revokedAt := some d.revokedAt }
      else row }

/-! ## The service

`refresh` checks four things: that the row is there, not revoked, not expired, and that its user is active. A
row that has been revoked is the sign of a theft: its family is revoked before the error is raised. -/

def defaultAccessTokenExpiry : Int := 20 * 60 * 1000000

/-- `encode_access_token`. -/
def encodeAccessToken (env : Crypto) (d : Draws) (userId : Uuid) (user : User) : String :=
  env.signJwt
    { sub := userId
      org := user.organizationId
      role := user.role.value
      jti := d.jti
      iat := unixTimestamp d.signedAt
      exp := unixTimestamp (d.signedAt + defaultAccessTokenExpiry)
      typ := "access" }

def issuePair (env : Crypto) (d : Draws) (userId : Uuid) (user : User) (familyId : Option Uuid) :
    Tx Db Raised TokenPair := do
  let accessToken := encodeAccessToken env d userId user
  let (rawRefreshToken, _) ← issue env d userId familyId
  pure { accessToken := accessToken, refreshToken := rawRefreshToken }

/-- `login`. The dummy verification on the failing branches only spends time. -/
def login (env : Crypto) (d : Draws) (email password : String) : Tx Db Raised TokenPair := do
  let normalizedEmail := env.lower (Text.strip email)
  let db ← Tx.store
  let user ← scalarOneOrNone
    (db.users.select fun _ user => env.sqlLower user.email = normalizedEmail)
  match user with
  | none => Tx.raise (.authenticationError genericAuthFailure)
  | some (userId, user) =>
    match user.passwordHash with
    | none => Tx.raise (.authenticationError genericAuthFailure)
    | some passwordHash =>
      if user.status ≠ .active then
        Tx.raise (.authenticationError genericAuthFailure)
      else if ¬ env.verifyPassword passwordHash password then
        Tx.raise (.authenticationError genericAuthFailure)
      else
        if env.needsRehash passwordHash then
          Tx.write { db with
            users := db.users.modify userId fun user =>
              { user with passwordHash := some (env.hashPassword d.salt password) } }
        issuePair env d userId user none

/-- `refresh`. -/
def refresh (env : Crypto) (d : Draws) (rawRefreshToken : String) : Tx Db Raised TokenPair := do
  let tokenRow ← rotate env rawRefreshToken
  match tokenRow with
  | none => Tx.raise (.authenticationError genericRefreshFailure)
  | some (tokenId, token) =>
    if token.revokedAt ≠ none then
      revokeFamily d token.familyId
      Tx.raise (.authenticationError genericRefreshFailure)
    else if token.expiresAt < d.checkedAt then
      Tx.raise (.authenticationError genericRefreshFailure)
    else
      let db ← Tx.store
      match db.users.lookup token.userId with
      | none => Tx.raise (.authenticationError genericRefreshFailure)
      | some user =>
        if user.status ≠ .active then
          Tx.raise (.authenticationError genericRefreshFailure)
        else
          revoke d tokenId
          issuePair env d token.userId user (some token.familyId)

/-- `logout`. -/
def logout (env : Crypto) (d : Draws) (rawRefreshToken : String) : Tx Db Raised Unit := do
  let tokenRow ← rotate env rawRefreshToken
  match tokenRow with
  | none => pure ()
  | some (_, token) => revokeFamily d token.familyId

/-! ## The endpoints

The errors of the service become two 401s with generic texts. Nothing else is caught here. -/

/-- One HTTP request to the auth router. -/
inductive Request where
  | login (email password : String) (d : Draws)
  | refresh (refreshToken : String) (d : Draws)
  | logout (refreshToken : String) (d : Draws)

/-- The HTTP errors: a mapped service error, or an exception nobody handles. -/
inductive HttpError where
  | badRequest (detail : String)
  | unauthorized (detail : String)
  | forbidden (detail : String)
  | notFound (detail : String)
  | conflict (detail : String)
  | internalServerError
  deriving DecidableEq

/-- The `except` clauses of the endpoints and the handlers of the application, each for the exceptions
    it is given, and the framework's 500 for the others. -/
def toHttp : Raised → HttpError
  | .authenticationError message => .unauthorized message
  | .inviteAcceptError message => .badRequest message
  | .forbiddenError message => .forbidden message
  | .notFoundError message => .notFound message
  | .conflictError message => .conflict message
  | .notFound _ _ => .notFound "Not found"
  | .httpForbidden detail => .forbidden detail
  | .httpUnauthorized => .unauthorized "could not validate credentials"
  | .integrityError => .internalServerError
  | .multipleResultsFound => .internalServerError
  | .smtpException => .internalServerError

/-- The handler of a request. A logout answers without a body. -/
def endpoint (env : Crypto) : Request → Tx Db HttpError (Option TokenPair)
  | .login email password d => some <$> Tx.mapError toHttp (login env d email password)
  | .refresh refreshToken d => some <$> Tx.mapError toHttp (refresh env d refreshToken)
  | .logout refreshToken d => (fun _ => none) <$> Tx.mapError toHttp (logout env d refreshToken)

/-- A request under `get_session`: committed when the handler returns, rolled back when it
    raises. -/
def handle (env : Crypto) (db : Db) (r : Request) : Except HttpError (Option TokenPair) × Db :=
  Tx.settle (endpoint env r) db

/-- The committed database after a request. -/
def step (env : Crypto) (db : Db) (r : Request) : Db := (handle env db r).2

end Helpdesk.Auth
