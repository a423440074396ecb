import Helpdesk.Auth.Accounts
import Helpdesk.Auth.Reuse

/-! # What an account request does

**`effect_of_step`** is the inversion that the results about families, invitations and disabled users
are case analyses of: one constructor of `Effect` for each way a request can end, with the answer and the
database that it commits.

A constructor says what has been found, and names the table that is left (`inviteIssued`, `inviteUsed`,
`invitesRevoked`, `userUpdated`, `userInserted`). So a later proof sees neither a handler nor a `do` block. -/

namespace Helpdesk.Auth

variable {env : Crypto} {db : Db} {userId id : Uuid} {raw : String}

/-! ## The tables after a write

Each write as a function of the database, so that a constructor of `Effect` can say what is committed. -/

/-- The database with a new invite row. -/
def inviteIssued (env : Crypto) (db : Db) (d : InviteDraws) (userId : Uuid) : Db :=
  { db with
    inviteTokens := AList.insert d.tokenId (InviteTokens.issuedRow env d userId) db.inviteTokens }

/-- The database with the invite `id` marked as used. -/
def inviteUsed (db : Db) (id : Uuid) (now : Int) : Db :=
  { db with inviteTokens := db.inviteTokens.modify id fun row => { row with usedAt := some now } }

/-- The database with the user's outstanding invites revoked. -/
def invitesRevoked (db : Db) (userId : Uuid) (now : Int) : Db :=
  { db with
    inviteTokens := db.inviteTokens.mapRows fun _ row =>
      if row.userId = userId ∧ row.Outstanding then { row with revokedAt := some now } else row }

/-- The database with the row of a user replaced. -/
def userUpdated (db : Db) (userId : Uuid) (user : User) : Db :=
  { db with users := db.users.modify userId fun _ => user }

/-- The database with a new user. -/
def userInserted (db : Db) (userId : Uuid) (user : User) : Db :=
  { db with users := AList.insert userId user db.users }

/-- The row of a user that has accepted an invite. -/
def activated (env : Crypto) (d : AcceptDraws) (newPassword : String) (user : User) : User :=
  { user with
    passwordHash := some (env.hashPassword d.salt newPassword)
    status := .active }

/-- The row of an invited user. -/
def invited (organizationId : Uuid) (name email : String) (role : UserRole) : User where
  organizationId := some organizationId
  name := name
  email := email
  role := role
  passwordHash := none
  status := .pending
  phoneNumber := none

/-- The user has no outstanding invite. -/
def NoneOutstanding (db : Db) (userId : Uuid) : Prop :=
  ∀ id row, db.inviteTokens.lookup id = some row → row.userId = userId → ¬ row.Outstanding

/-- The committed row that `consume` finds for a raw token. -/
def InviteFound (env : Crypto) (db : Db) (raw : String) (id : Uuid) (row : InviteToken) : Prop :=
  (db.inviteTokens.select fun _ row => row.tokenHash = env.sha256Hash raw) = [(id, row)]

/-- An active admin of the organisation. -/
def OrgAdmin (db : Db) (principal organizationId : Uuid) : Prop :=
  ∃ admin, db.users.lookup principal = some admin ∧ admin.status = .active ∧ admin.role = .admin ∧
    admin.organizationId = some organizationId

/-! ## Specifications of the parts

One for each function of the services, in terms of `wp`. The errors are not told apart where the endpoint
maps them to the same answer. -/

theorem wp_getPrincipal :
    Tx.wp (getPrincipal userId)
      (fun user db' => db' = db ∧ db.users.lookup userId = some user ∧ user.status = .active)
      (fun _ => True) db := by
  simp only [getPrincipal, Tx.wp_bind, Tx.wp_store]
  cases hl : db.users.lookup userId with
  | none => simp
  | some user => simp

theorem wp_requireOrgAdmin {admin : User} :
    Tx.wp (requireOrgAdmin admin)
      (fun organizationId db' => db' = db ∧ admin.role = .admin ∧
        admin.organizationId = some organizationId)
      (fun _ => True) db := by
  unfold requireOrgAdmin
  cases admin.organizationId with
  | none => simp
  | some organizationId => simp

theorem wp_requireOrgAdminScope {principal : User} :
    Tx.wp (requireOrgAdminScope id principal)
      (fun scope db' => db' = db ∧ principal.role = .admin ∧
        principal.organizationId = some scope.organizationId)
      (fun _ => True) db := by
  unfold requireOrgAdminScope
  cases principal.organizationId with
  | none => simp
  | some organizationId => simp

theorem wp_issueAndSendInvite {d : InviteDraws} :
    Tx.wp (issueAndSendInvite env d userId)
      (fun _ db' => NoneOutstanding db userId ∧ db.inviteTokens.lookup d.tokenId = none ∧
        db' = inviteIssued env db d userId)
      (fun _ => True) db := by
  simp only [issueAndSendInvite, InviteTokens.issue, Tx.wp_bind, Tx.wp_store, Tx.wp_ite, Tx.wp_raise,
    Tx.wp_orRaise, Tx.wp_write, Tx.wp_pure, Tx.wp_when, implies_true, and_true, true_and, not_not]
  intro _ hnone _ inviteTokens hins _
  obtain ⟨hnew, rfl⟩ := Table.insertNew_eq_some.mp hins
  refine ⟨?_, hnew, rfl⟩
  intro id row hl huser hout
  have hfalse := Table.select_eq_nil.mp hnone id row hl
  simp [huser, hout] at hfalse

theorem wp_flushUser {user : User} :
    Tx.wp (flushUser userId user)
      (fun _ db' => PasswordHashRequiredUnlessPending user ∧ db' = userUpdated db userId user)
      (fun _ => True) db := by
  simp [flushUser, userUpdated]

theorem wp_insertUser {user : User} :
    Tx.wp (insertUser env userId user)
      (fun _ db' => db.users.lookup userId = none ∧ db' = userInserted db userId user)
      (fun _ => True) db := by
  simp only [insertUser, Tx.wp_bind, Tx.wp_store, Tx.wp_ite, Tx.wp_raise, Tx.wp_orRaise, Tx.wp_write,
    implies_true, and_true, true_and]
  intro _ _ users hins
  obtain ⟨hnew, rfl⟩ := Table.insertNew_eq_some.mp hins
  exact ⟨hnew, rfl⟩

/-- What `consume` finds, it finds without writing. -/
theorem wp_consume :
    Tx.wp (InviteTokens.consume env raw)
      (fun found db' => db' = db ∧ ∀ id row, found = some (id, row) → InviteFound env db raw id row)
      (fun _ => True) db := by
  simp only [InviteTokens.consume, Tx.wp_bind, Tx.wp_store]
  cases h : db.inviteTokens.select fun _ row => row.tokenHash = env.sha256Hash raw with
  | nil => simp [scalarOneOrNone]
  | cons found rest =>
    cases rest with
    | nil =>
      show Tx.wp (pure (some found)) _ _ db
      rw [Tx.wp_pure]
      refine ⟨rfl, ?_⟩
      intro id' row' he
      cases he
      exact h
    | cons _ _ => simp [scalarOneOrNone]

/-! ## Requests

The requests of the auth router are left to `step_cases`; here the others are taken apart in the same way. -/

/-- How a request ends: its answer, and the database it commits. -/
inductive Effect (env : Crypto) (db : Db) : AccountRequest → Except HttpError Response → Db → Prop
  | refused (r : AccountRequest) (e : HttpError) : Effect env db r (.error e) db
  | login {email password : String} {d : Draws} {users : Table Uuid User} {userId : Uuid}
      {pair : TokenPair}
      (hstatus : ∀ u, statusOf { db with users := users } u = statusOf db u)
      (hactive : ActiveUser db userId) (hunused : Unused env db d.rawToken)
      (hnew : db.refreshTokens.lookup d.rowId = none) (hpair : pair.refreshToken = d.rawToken) :
      Effect env db (.auth (.login email password d)) (.ok (.tokens pair))
        (rowIssued env { db with users := users } d userId d.familyId)
  | refresh {raw : String} {d : Draws} {id : Uuid} {row : RefreshToken} {pair : TokenPair}
      (hfound : Found env db raw id row) (hlive : Live db row d.checkedAt)
      (hunused : Unused env (rowRevoked db id d.revokedAt) d.rawToken)
      (hnew : (rowRevoked db id d.revokedAt).refreshTokens.lookup d.rowId = none)
      (hpair : pair.refreshToken = d.rawToken) :
      Effect env db (.auth (.refresh raw d)) (.ok (.tokens pair))
        (rowIssued env (rowRevoked db id d.revokedAt) d row.userId row.familyId)
  | logout {raw : String} {d : Draws} {id : Uuid} {row : RefreshToken}
      (hfound : Found env db raw id row) :
      Effect env db (.auth (.logout raw d)) (.ok .noContent)
        (familyRevoked db row.familyId d.revokedAt)
  | logoutUnknown (raw : String) (d : Draws) :
      Effect env db (.auth (.logout raw d)) (.ok .noContent) db
  | accept {token newPassword : String} {d : AcceptDraws} {id : Uuid} {row : InviteToken} {user : User}
      {pair : TokenPair}
      (hfound : InviteFound env db token id row) (hout : row.Outstanding)
      (huser : db.users.lookup row.userId = some user) (hpending : user.status = .pending)
      (hunused : Unused env db d.rawToken) (hnew : db.refreshTokens.lookup d.rowId = none)
      (hpair : pair.refreshToken = d.rawToken) :
      Effect env db (.acceptInvite token newPassword d) (.ok (.tokens pair))
        (rowIssued env
          (inviteUsed (userUpdated db row.userId (activated env d newPassword user)) id d.usedAt)
          d.toDraws row.userId d.familyId)
  | invite {principal organizationId : Uuid} {email : String} {role : UserRole} {d : InviteDraws}
      (hadmin : OrgAdmin db principal organizationId) (hfresh : db.users.lookup d.userId = none)
      (hnone : NoneOutstanding db d.userId) (hnew : db.inviteTokens.lookup d.tokenId = none) :
      Effect env db (.inviteUser principal name email role d)
        (.ok (.user d.userId (invited organizationId name email role)))
        (inviteIssued env (userInserted db d.userId (invited organizationId name email role)) d d.userId)
  | reissue {principal organizationId userId : Uuid} {d : InviteDraws} {user : User}
      (hadmin : OrgAdmin db principal organizationId) (huser : db.users.lookup userId = some user)
      (hpending : user.status = .pending)
      (hnone : NoneOutstanding (invitesRevoked db userId d.revokedAt) userId)
      (hnew : (invitesRevoked db userId d.revokedAt).inviteTokens.lookup d.tokenId = none) :
      Effect env db (.reissueInvite principal userId d) (.ok (.user userId user))
        (inviteIssued env (invitesRevoked db userId d.revokedAt) d userId)
  | disable {principal organizationId userId : Uuid} {user : User}
      (hadmin : OrgAdmin db principal organizationId) (huser : db.users.lookup userId = some user)
      (hhash : user.passwordHash ≠ none) :
      Effect env db (.disableUser principal userId) (.ok (.user userId { user with status := .disabled }))
        (userUpdated db userId { user with status := .disabled })

theorem wp_acceptInvite {d : AcceptDraws} {token newPassword : String} :
    Tx.wp (acceptInvite env d token newPassword)
      (fun pair db' => Effect env db (.acceptInvite token newPassword d) (.ok (.tokens pair)) db')
      (fun _ => True) db := by
  rw [acceptInvite, Tx.wp_bind]
  apply Tx.wp_mono wp_consume
  · rintro found db' ⟨rfl, hfound⟩
    match found, hfound with
    | none, _ => simp
    | some (id, row), hfound =>
      simp only [Tx.wp_ite, Tx.wp_raise, Tx.wp_bind, Tx.wp_store, implies_true, true_and, not_or,
        not_not]
      intro hout _
      cases huser : db'.users.lookup row.userId with
      | none => simp
      | some user =>
        simp only [Tx.wp_ite, Tx.wp_raise, Tx.wp_bind, implies_true, true_and, not_not]
        intro hpending
        apply Tx.wp_mono wp_flushUser
        · rintro _ mid ⟨-, rfl⟩
          simp only [InviteTokens.markUsed, Tx.wp_bind, Tx.wp_store, Tx.wp_write]
          apply Tx.wp_of_forall_ok
          intro pair db'' hexec
          obtain ⟨hun, hnew, rfl, hpair⟩ := exec_issuePair_ok hexec
          exact .accept (hfound id row rfl) hout huser hpending hun hnew hpair
        · exact fun _ _ => trivial
  · exact fun _ _ => trivial

theorem wp_accountEndpoint (env : Crypto) (db : Db) (r : AccountRequest) :
    Tx.wp (accountEndpoint env r) (fun response db' => Effect env db r (.ok response) db')
      (fun _ => True) db := by
  cases r with
  | auth r =>
    rw [accountEndpoint, Tx.wp_map]
    cases r with
    | login email password d =>
      rw [endpoint, Tx.wp_map, Tx.wp_mapError]
      apply Tx.wp_of_forall_ok
      intro pair db' hexec
      obtain ⟨users, userId, hstatus, hactive, hun, hnew, rfl, hpair⟩ := exec_login_ok hexec
      exact .login hstatus hactive hun hnew hpair
    | refresh raw d =>
      rw [endpoint, Tx.wp_map, Tx.wp_mapError]
      apply Tx.wp_of_forall_ok
      intro pair db' hexec
      obtain ⟨id, row, hf, hl, hun, hnew, rfl, hpair⟩ := exec_refresh_ok hexec
      exact .refresh hf hl hun hnew hpair
    | logout raw d =>
      rw [endpoint, Tx.wp_map, Tx.wp_mapError]
      apply Tx.wp_of_forall_ok
      intro _ db' hexec
      rcases exec_rotate_cases env db raw with ⟨id, row, hf, hr⟩ | hr | hr
      · rw [logout, Tx.exec_bind, hr] at hexec
        simp only [exec_revokeFamily, Prod.mk.injEq] at hexec
        rw [← hexec.2]
        exact .logout hf
      · rw [logout, Tx.exec_bind, hr] at hexec
        simp only [Tx.exec_pure, Prod.mk.injEq] at hexec
        rw [← hexec.2]
        exact .logoutUnknown raw d
      · rw [logout, Tx.exec_bind, hr] at hexec
        simp at hexec
  | acceptInvite token newPassword d =>
    rw [accountEndpoint, Tx.wp_map, Tx.wp_mapError]
    exact wp_acceptInvite
  | inviteUser principal name email role d =>
    simp only [accountEndpoint, inviteUser, Tx.wp_bind, Tx.wp_mapError, Tx.wp_pure]
    apply Tx.wp_mono wp_getPrincipal
    · rintro admin _ ⟨rfl, hl, hactive⟩
      apply Tx.wp_mono wp_requireOrgAdmin
      · rintro organizationId _ ⟨rfl, hrole, horg⟩
        apply Tx.wp_mono wp_insertUser
        · rintro _ _ ⟨hfresh, rfl⟩
          apply Tx.wp_mono wp_issueAndSendInvite
          · rintro _ _ ⟨hnone, hnew, rfl⟩
            exact .invite ⟨admin, hl, hactive, hrole, horg⟩ hfresh hnone hnew
          · exact fun _ _ => trivial
        · exact fun _ _ => trivial
      · exact fun _ _ => trivial
    · exact fun _ _ => trivial
  | reissueInvite principal userId d =>
    simp only [accountEndpoint, reissueInvite, Tx.wp_bind, Tx.wp_mapError]
    apply Tx.wp_mono wp_getPrincipal
    · rintro admin db' ⟨rfl, hl, hactive⟩
      apply Tx.wp_mono wp_requireOrgAdmin
      · rintro organizationId db' ⟨rfl, hrole, horg⟩
        rw [Tx.wp_store]
        cases huser : db'.users.lookup userId with
        | none => simp
        | some user =>
          simp only [Tx.wp_ite, Tx.wp_raise, Tx.wp_bind, Tx.wp_pure, implies_true, true_and, not_not,
            InviteTokens.revokeUnusedForUser, Tx.wp_store, Tx.wp_write]
          intro _ hpending
          apply Tx.wp_mono wp_issueAndSendInvite
          · rintro _ _ ⟨hnone, hnew, rfl⟩
            exact .reissue ⟨admin, hl, hactive, hrole, horg⟩ huser hpending hnone hnew
          · exact fun _ _ => trivial
      · exact fun _ _ => trivial
    · exact fun _ _ => trivial
  | disableUser principal userId =>
    simp only [accountEndpoint, disableUser, Tx.wp_bind, Tx.wp_mapError]
    apply Tx.wp_mono wp_getPrincipal
    · rintro admin db' ⟨rfl, hl, hactive⟩
      apply Tx.wp_mono wp_requireOrgAdminScope
      · rintro scope db' ⟨rfl, hrole, horg⟩
        rw [Tx.wp_store]
        cases huser : db'.users.lookup userId with
        | none => simp
        | some user =>
          simp only [Tx.wp_ite, Tx.wp_raise, Tx.wp_bind, Tx.wp_pure, implies_true, and_true]
          intro _
          apply Tx.wp_mono wp_flushUser
          · rintro _ _ ⟨hcheck, rfl⟩
            have hhash : user.passwordHash ≠ none := hcheck.resolve_left (by simp)
            exact .disable ⟨admin, hl, hactive, hrole, horg⟩ huser hhash
          · exact fun _ _ => trivial
      · exact fun _ _ => trivial
    · exact fun _ _ => trivial

/-- **All a request can do**. -/
theorem effect_of_step (env : Crypto) (db : Db) (r : AccountRequest) :
    Effect env db r (accountHandle env db r).1 (accountStep env db r) := by
  rcases Tx.wp_settle (wp_accountEndpoint env db r) with ⟨response, hsettle, heffect⟩ | ⟨e, hsettle, -⟩
  · rw [accountStep, accountHandle, hsettle]
    exact heffect
  · rw [accountStep, accountHandle, hsettle]
    exact .refused r e

end Helpdesk.Auth
