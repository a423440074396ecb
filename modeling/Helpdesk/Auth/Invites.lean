import Helpdesk.Auth.Effects

/-! # Invitations and disabled users

An invite token moves its user from pending to active, once. Disabling a user closes every way back.

* **`statusOf_step`**: how a request can change a user's status.
* **`InviteKept.step`**, **`OneOutstanding.step`**: what a request keeps in `invite_tokens`.
* **`invite_lifecycle`**: the life of an invitation, over whole runs.
* **`disabledForEver_iff`**: `disable_user` does what it says exactly for the users that have a
  password; the UPDATE of another user violates a CHECK constraint.

The results are about all requests of the two routers, in any order and by anybody; what the requests draw is
arbitrary, but for the raw tokens, which a result may have to tell apart. -/

namespace Helpdesk.Auth

variable {env : Crypto} {db : Db} {r : AccountRequest} {u id : Uuid} {token : String} {now : Int}
  {s : UserStatus} {user : User} {d : InviteDraws}

/-! ## The status of a user

There are three. A user gets from pending to active by accepting an invite, and to disabled by an admin;
`statusOf_step` says that there is no other change, and names the request that makes it. -/

theorem statusOf_eq (hl : db.users.lookup u = some user) : statusOf db u = some user.status := by
  rw [statusOf, hl, Option.map_some]

theorem statusOf_userUpdated {u' : Uuid} (hl : db.users.lookup u = some user) (row : User) :
    statusOf (userUpdated db u row) u' = if u' = u then some row.status else statusOf db u' := by
  rw [statusOf, userUpdated, Table.lookup_modify]
  split
  next he => rw [he, hl, Option.map_some, Option.map_some]
  · rfl

theorem statusOf_userInserted {u' : Uuid} (hl : db.users.lookup u = none) (row : User)
    (hs : statusOf db u' = some s) : statusOf (userInserted db u row) u' = some s := by
  have hne : u' ≠ u := by
    intro he
    rw [statusOf, he, hl] at hs
    cases hs
  rw [statusOf, userInserted, Table.lookup_insert, if_neg hne]
  exact hs

/-- **Status changes**: a status stays, but for a pending user that accepts an invite and for a user
    that is disabled. -/
theorem statusOf_step (env : Crypto) (r : AccountRequest) (hs : statusOf db u = some s) :
    statusOf (accountStep env db r) u = some s ∨
      ((∃ token newPassword d, r = .acceptInvite token newPassword d) ∧ s = .pending ∧
        statusOf (accountStep env db r) u = some .active) ∨
      ((∃ principal, r = .disableUser principal u) ∧
        statusOf (accountStep env db r) u = some .disabled) := by
  have he := effect_of_step env db r
  generalize accountStep env db r = db' at he ⊢
  generalize (accountHandle env db r).1 = response at he
  cases he with
  | refused => exact .inl hs
  | login hstatus => exact .inl ((hstatus u).trans hs)
  | refresh => exact .inl hs
  | logout => exact .inl hs
  | logoutUnknown => exact .inl hs
  | @accept _ newPassword d _ row user _ _ _ huser hpending _ _ _ =>
    have hstatus : statusOf (userUpdated db row.userId (activated env d newPassword user)) u =
        if u = row.userId then some .active else statusOf db u :=
      statusOf_userUpdated huser _
    by_cases hu : u = row.userId
    · right; left
      refine ⟨⟨_, _, _, rfl⟩, ?_, ?_⟩
      · rw [hu, statusOf_eq huser, hpending] at hs
        exact (Option.some.inj hs).symm
      · rw [if_pos hu] at hstatus
        exact hstatus
    · left
      rw [if_neg hu] at hstatus
      exact hstatus.trans hs
  | invite _ hfresh _ _ => exact .inl (statusOf_userInserted hfresh _ hs)
  | reissue => exact .inl hs
  | @disable principal _ userId user _ huser _ =>
    have hstatus : statusOf (userUpdated db userId { user with status := .disabled }) u =
        if u = userId then some .disabled else statusOf db u :=
      statusOf_userUpdated huser _
    by_cases hu : u = userId
    · right; right
      rw [if_pos hu] at hstatus
      exact ⟨⟨principal, by rw [hu]⟩, hstatus⟩
    · left
      rw [if_neg hu] at hstatus
      exact hstatus.trans hs

/-! ## The rows of `invite_tokens`

Rows are kept for ever, and what is closed stays closed. Both directions are needed: that the old rows are
still there, and that the new table has no others, up to the one that is issued. -/

/-- The invites of `db` are all there in `db'`, and those that are closed stay closed. -/
def InvitesKept (db db' : Db) : Prop :=
  ∀ id row, db.inviteTokens.lookup id = some row → ∃ row', db'.inviteTokens.lookup id = some row' ∧
    row'.tokenHash = row.tokenHash ∧ row'.userId = row.userId ∧ (row'.Outstanding → row.Outstanding)

/-- The invites of `db'` are those of `db`, and no closed one is open again. -/
def InvitesSame (db db' : Db) : Prop :=
  ∀ id row', db'.inviteTokens.lookup id = some row' → ∃ row, db.inviteTokens.lookup id = some row ∧
    row'.userId = row.userId ∧ (row'.Outstanding → row.Outstanding)

theorem InvitesKept.refl : InvitesKept db db := fun _ row hl => ⟨row, hl, rfl, rfl, fun h => h⟩

theorem invitesKept_inviteUsed : InvitesKept db (inviteUsed db id now) := by
  intro id' row hl
  rw [inviteUsed, Table.lookup_modify, hl]
  split
  · exact ⟨_, rfl, rfl, rfl, fun hout => nomatch hout.1⟩
  · exact ⟨row, rfl, rfl, rfl, fun h => h⟩

theorem invitesKept_invitesRevoked : InvitesKept db (invitesRevoked db u now) := by
  intro id' row hl
  rw [invitesRevoked, Table.lookup_mapRows, hl]
  refine ⟨_, rfl, ?_⟩
  dsimp only
  split
  · exact ⟨rfl, rfl, fun hout => nomatch hout.2⟩
  · exact ⟨rfl, rfl, fun h => h⟩

theorem InvitesKept.inviteIssued {db' : Db} (h : InvitesKept db db')
    (hnew : db'.inviteTokens.lookup d.tokenId = none) :
    InvitesKept db (inviteIssued env db' d u) := by
  intro id row hl
  obtain ⟨row', hl', hrest⟩ := h id row hl
  have hne : id ≠ d.tokenId := by
    intro he
    rw [he, hnew] at hl'
    cases hl'
  exact ⟨row', by rw [Auth.inviteIssued, Table.lookup_insert, if_neg hne, hl'], hrest⟩

/-- No request deletes an invite or opens a closed one. -/
theorem invitesKept_step (env : Crypto) (db : Db) (r : AccountRequest) :
    InvitesKept db (accountStep env db r) := by
  have he := effect_of_step env db r
  generalize accountStep env db r = db' at he ⊢
  generalize (accountHandle env db r).1 = response at he
  cases he with
  | refused => exact .refl
  | login => exact .refl
  | refresh => exact .refl
  | logout => exact .refl
  | logoutUnknown => exact .refl
  | accept =>
    show InvitesKept db (inviteUsed db _ _)
    exact invitesKept_inviteUsed
  | invite _ _ _ hnew =>
    apply InvitesKept.inviteIssued _ hnew
    exact InvitesKept.refl
  | reissue _ _ _ _ hnew => exact invitesKept_invitesRevoked.inviteIssued hnew
  | disable => exact .refl

theorem invitesSame_inviteUsed : InvitesSame db (inviteUsed db id now) := by
  intro id' row' hl
  rw [inviteUsed, Table.lookup_modify] at hl
  split at hl
  · obtain ⟨row, hold, rfl⟩ := Option.map_eq_some_iff.mp hl
    exact ⟨row, hold, rfl, fun hout => nomatch hout.1⟩
  · exact ⟨row', hl, rfl, fun h => h⟩

theorem invitesSame_invitesRevoked : InvitesSame db (invitesRevoked db u now) := by
  intro id' row' hl
  rw [invitesRevoked, Table.lookup_mapRows] at hl
  obtain ⟨row, hold, rfl⟩ := Option.map_eq_some_iff.mp hl
  refine ⟨row, hold, ?_⟩
  split
  · exact ⟨rfl, fun hout => nomatch hout.2⟩
  · exact ⟨rfl, fun h => h⟩

/-! ## One outstanding invite

The partial unique index does this: an INSERT for a user with an outstanding invite fails. A reissue revokes
first. -/

/-- Each user has one outstanding invite at most. -/
def OneOutstanding (db : Db) : Prop :=
  ∀ id row id' row', db.inviteTokens.lookup id = some row → db.inviteTokens.lookup id' = some row' →
    row.userId = row'.userId → row.Outstanding → row'.Outstanding → id = id'

theorem OneOutstanding.of_same {db' : Db} (h : OneOutstanding db) (hs : InvitesSame db db') :
    OneOutstanding db' := by
  intro id₁ row₁ id₂ row₂ h₁ h₂ huser ho₁ ho₂
  obtain ⟨old₁, hl₁, hu₁, hold₁⟩ := hs id₁ row₁ h₁
  obtain ⟨old₂, hl₂, hu₂, hold₂⟩ := hs id₂ row₂ h₂
  exact h id₁ old₁ id₂ old₂ hl₁ hl₂ (by rw [← hu₁, ← hu₂, huser]) (hold₁ ho₁) (hold₂ ho₂)

/-- The partial unique index: an invite is issued to a user that has no outstanding one. -/
theorem OneOutstanding.inviteIssued (h : OneOutstanding db) (hnone : NoneOutstanding db u) :
    OneOutstanding (inviteIssued env db d u) := by
  intro id₁ row₁ id₂ row₂ h₁ h₂ huser ho₁ ho₂
  rw [Auth.inviteIssued, Table.lookup_insert] at h₁ h₂
  split at h₁ <;> split at h₂
  next he₁ he₂ => rw [he₁, he₂]
  next =>
    cases h₁
    exact absurd ho₂ (hnone id₂ row₂ h₂ huser.symm)
  next =>
    cases h₂
    exact absurd ho₁ (hnone id₁ row₁ h₁ huser)
  next => exact h id₁ row₁ id₂ row₂ h₁ h₂ huser ho₁ ho₂

/-- **Step lemma**. -/
theorem OneOutstanding.step (h : OneOutstanding db) (r : AccountRequest) :
    OneOutstanding (accountStep env db r) := by
  have he := effect_of_step env db r
  generalize accountStep env db r = db' at he ⊢
  generalize (accountHandle env db r).1 = response at he
  cases he with
  | refused => exact h
  | login => exact h
  | refresh => exact h
  | logout => exact h
  | logoutUnknown => exact h
  | accept =>
    show OneOutstanding (inviteUsed db _ _)
    exact h.of_same invitesSame_inviteUsed
  | invite _ _ hnone _ =>
    apply OneOutstanding.inviteIssued _ hnone
    exact h
  | reissue _ _ _ hnone _ => exact (h.of_same invitesSame_invitesRevoked).inviteIssued hnone
  | disable => exact h

/-! ## Tokens that are refused for ever

A token whose row is used or revoked is closed, it stays closed, and `accept_invite` refuses it. What closes a
token is an acceptance or a reissue. -/

/-- `accept_invite` accepts the raw token. -/
def AcceptsInvite (env : Crypto) (token : String) (db : Db) (r : AccountRequest) : Prop :=
  ∃ newPassword d response, r = .acceptInvite token newPassword d ∧
    (accountHandle env db r).1 = .ok response

/-- The raw token is one of the user's. -/
def InviteOf (env : Crypto) (db : Db) (u : Uuid) (token : String) : Prop :=
  ∃ id row, db.inviteTokens.lookup id = some row ∧ row.tokenHash = env.sha256Hash token ∧
    row.userId = u

/-- A row of the raw token is used or revoked. -/
def InviteClosed (env : Crypto) (token : String) (db : Db) : Prop :=
  ∃ id row, db.inviteTokens.lookup id = some row ∧ row.tokenHash = env.sha256Hash token ∧
    ¬ row.Outstanding

theorem InviteClosed.step (h : InviteClosed env token db) (r : AccountRequest) :
    InviteClosed env token (accountStep env db r) := by
  obtain ⟨id, row, hl, hhash, hclosed⟩ := h
  obtain ⟨row', hl', hhash', -, hout⟩ := invitesKept_step env db r id row hl
  exact ⟨id, row', hl', hhash'.trans hhash, fun ho => hclosed (hout ho)⟩

/-- A closed token is refused. -/
theorem InviteClosed.refused (h : InviteClosed env token db) : ¬ AcceptsInvite env token db r := by
  rintro ⟨newPassword, d, response, rfl, hok⟩
  obtain ⟨id, row, hl, hhash, hclosed⟩ := h
  have he := effect_of_step env db (.acceptInvite token newPassword d)
  rw [hok] at he
  generalize accountStep env db (.acceptInvite token newPassword d) = db' at he
  cases he with
  | accept hfound hout =>
    have hmem : (id, row) ∈ db.inviteTokens.select fun _ row =>
        row.tokenHash = env.sha256Hash token :=
      Table.mem_select.mpr ⟨hl, by simpa using hhash⟩
    rw [hfound, List.mem_singleton] at hmem
    cases hmem
    exact hclosed hout

/-- A reissue that returns has closed every invite that the user had. -/
theorem inviteClosed_of_reissue {principal : Uuid} {response : Response}
    (hok : (accountHandle env db (.reissueInvite principal u d)).1 = .ok response)
    (htoken : InviteOf env db u token) :
    InviteClosed env token (accountStep env db (.reissueInvite principal u d)) := by
  obtain ⟨id, row, hl, hhash, huser⟩ := htoken
  have he := effect_of_step env db (.reissueInvite principal u d)
  rw [hok] at he
  generalize accountStep env db (.reissueInvite principal u d) = db' at he ⊢
  cases he with
  | reissue _ _ _ hnone hnew =>
    have hkept : InvitesKept db (invitesRevoked db u d.revokedAt) := invitesKept_invitesRevoked
    obtain ⟨row', hl', hhash', huser', -⟩ := hkept id row hl
    have hne : id ≠ d.tokenId := by
      intro heq
      rw [heq, hnew] at hl'
      cases hl'
    refine ⟨id, row', ?_, hhash'.trans hhash, hnone id row' hl' (huser'.trans huser)⟩
    rw [inviteIssued, Table.lookup_insert, if_neg hne, hl']

/-! ## The life of an invitation

The parts put together. A user that has settled is not pending again, so two acceptances for one user exclude
each other whichever tokens they use. -/

/-- `accept_invite` moves the user from pending to active. -/
def Activates (env : Crypto) (u : Uuid) (db : Db) (r : AccountRequest) : Prop :=
  (∃ token newPassword d, r = .acceptInvite token newPassword d) ∧
    statusOf db u = some .pending ∧ statusOf (accountStep env db r) u = some .active

/-- The user is no longer pending. -/
def Settled (u : Uuid) (db : Db) : Prop := ∃ s, statusOf db u = some s ∧ s ≠ .pending

theorem Settled.step (h : Settled u db) (r : AccountRequest) : Settled u (accountStep env db r) := by
  obtain ⟨s, hs, hne⟩ := h
  rcases statusOf_step env r hs with hsame | ⟨-, -, hactive⟩ | ⟨-, hdisabled⟩
  · exact ⟨s, hsame, hne⟩
  · exact ⟨.active, hactive, by decide⟩
  · exact ⟨.disabled, hdisabled, by decide⟩

/-- If the request accepts an invite, a password hash that it changes is a pending user's. -/
def SetsHashOfPending (env : Crypto) (db : Db) (r : AccountRequest) : Prop :=
  (∃ token newPassword d, r = .acceptInvite token newPassword d) →
    ∀ u user user', db.users.lookup u = some user →
      (accountStep env db r).users.lookup u = some user' →
      user'.passwordHash ≠ user.passwordHash → user.status = .pending

theorem setsHashOfPending (env : Crypto) (db : Db) (r : AccountRequest) :
    SetsHashOfPending env db r := by
  rintro ⟨token, newPassword, d, rfl⟩ u user user' hl hl' hne
  have he := effect_of_step env db (.acceptInvite token newPassword d)
  generalize accountStep env db (.acceptInvite token newPassword d) = db' at he hl'
  generalize (accountHandle env db (.acceptInvite token newPassword d)).1 = response at he
  cases he with
  | refused =>
    rw [hl] at hl'
    cases hl'
    exact absurd rfl hne
  | @accept _ _ _ _ row found _ _ _ hfound hpending _ _ _ =>
    change (db.users.modify row.userId _).lookup u = some user' at hl'
    rw [Table.lookup_modify] at hl'
    split at hl'
    next hu =>
      subst hu
      rw [hl] at hfound
      cases hfound
      exact hpending
    · rw [hl] at hl'
      cases hl'
      exact absurd rfl hne

/-- **The invite lifecycle**: in every run from a database without invites, a user has one outstanding
    invite at most, a reissue closes all earlier ones for ever, nobody is activated twice, and only a
    pending user's password hash is set. -/
theorem invite_lifecycle {db₀ : Db} (h0 : db₀.inviteTokens = ∅) (rs : List AccountRequest) :
    OneOutstanding (Run.run (accountStep env) db₀ rs) ∧
      (∀ pre principal u d post, rs = pre ++ .reissueInvite principal u d :: post →
        ∀ db, db = Run.run (accountStep env) db₀ pre →
        (∃ response, (accountHandle env db (.reissueInvite principal u d)).1 = .ok response) →
        ∀ token, InviteOf env db u token →
          Run.AllSteps (accountStep env) (fun db r => ¬ AcceptsInvite env token db r)
            (accountStep env db (.reissueInvite principal u d)) post) ∧
      (∀ u, Run.AtMostOnce (accountStep env) (Activates env u) db₀ rs) ∧
      Run.AllSteps (accountStep env) (SetsHashOfPending env) db₀ rs := by
  refine ⟨?_, ?_, ?_, ?_⟩
  · refine Run.inv_of_always (fun db r (h : OneOutstanding db) => h.step r) ?_ rs
    intro _ _ _ _ hl
    rw [h0] at hl
    cases hl
  · rintro pre principal u d post rfl db rfl ⟨response, hok⟩ token htoken
    refine (Run.allSteps_of_inv (I := InviteClosed env token) (G := fun _ _ => True)
      (fun _ r h _ => h.step r) (inviteClosed_of_reissue hok htoken)
      (Run.allSteps_of_forall (fun _ _ => trivial) _ post)).mono ?_
    exact fun _ _ h => h.1.refused
  · intro u
    apply Run.atMostOnce_of (J := Settled u) (G := fun _ _ => True)
    · exact fun _ _ h _ => ⟨.active, h.2.2, by decide⟩
    · exact fun _ r h _ => h.step r
    · rintro db r ⟨s, hs, hne⟩ ⟨-, hpending, -⟩
      rw [hs] at hpending
      exact hne (Option.some.inj hpending)
    · exact Run.allSteps_of_forall (fun _ _ => trivial) db₀ rs
  · exact Run.allSteps_of_forall (setsHashOfPending env) db₀ rs

/-! ## Disabled users

What `disable_user` promises is that the user gets no tokens any more. It keeps the promise for users with a
password; the UPDATE of one without violates the CHECK, and the request fails. -/

/-- The request answers with a token pair of the user. -/
def YieldsPairFor (env : Crypto) (u : Uuid) (db : Db) (r : AccountRequest) : Prop :=
  ∃ pair id row, (accountHandle env db r).1 = .ok (.tokens pair) ∧
    (accountStep env db r).refreshTokens.lookup id = some row ∧
    row.tokenHash = env.sha256Hash pair.refreshToken ∧ row.userId = u

/-- The row of a raw token that has just been issued is the new row. -/
theorem userId_of_rowIssued {d : Draws} {userId f : Uuid} {row : RefreshToken}
    (hunused : Unused env db d.rawToken)
    (hl : (rowIssued env db d userId f).refreshTokens.lookup id = some row)
    (hhash : row.tokenHash = env.sha256Hash d.rawToken) : row.userId = userId := by
  rw [rowIssued, Table.lookup_insert] at hl
  split at hl
  · cases hl
    rfl
  · exact absurd hhash (hunused id row hl)

/-- A pair goes to a user that was active, or pending. -/
theorem YieldsPairFor.status (h : YieldsPairFor env u db r) :
    statusOf db u = some .active ∨ statusOf db u = some .pending := by
  obtain ⟨pair, id, row, hok, hl, hhash, rfl⟩ := h
  have he := effect_of_step env db r
  rw [hok] at he
  generalize accountStep env db r = db' at he hl
  cases he with
  | login _ hactive hunused _ hpair =>
    rw [hpair] at hhash
    left
    rw [userId_of_rowIssued hunused hl hhash]
    exact activeUser_iff.mp hactive
  | refresh _ hlive hunused _ hpair =>
    rw [hpair] at hhash
    left
    rw [userId_of_rowIssued hunused hl hhash]
    exact activeUser_iff.mp hlive.active
  | accept _ _ huser hpending hunused _ hpair =>
    rw [hpair] at hhash
    right
    rw [userId_of_rowIssued hunused hl hhash, statusOf_eq huser, hpending]

/-- A disabled user stays disabled. -/
theorem disabled_step (h : statusOf db u = some .disabled) (r : AccountRequest) :
    statusOf (accountStep env db r) u = some .disabled := by
  rcases statusOf_step env r h with hsame | ⟨-, hpending, -⟩ | ⟨-, hdisabled⟩
  · exact hsame
  · cases hpending
  · exact hdisabled

/-- `disable_user` returns, and whatever requests follow, none of them answers with a token pair of the
    user and the user is not active again. -/
def DisabledForEver (env : Crypto) (db : Db) (principal u : Uuid) : Prop :=
  (∃ response, (accountHandle env db (.disableUser principal u)).1 = .ok response) ∧
    ∀ rs, let db' := accountStep env db (.disableUser principal u)
      Run.AllSteps (accountStep env) (fun db r => ¬ YieldsPairFor env u db r) db' rs ∧
        ¬ ActiveUser (Run.run (accountStep env) db' rs) u

/-- Nothing follows for a user that is disabled. -/
theorem final_of_disabled (h : statusOf db u = some .disabled) (rs : List AccountRequest) :
    Run.AllSteps (accountStep env) (fun db r => ¬ YieldsPairFor env u db r) db rs ∧
      ¬ ActiveUser (Run.run (accountStep env) db rs) u := by
  constructor
  · refine (Run.allSteps_of_inv (I := fun db => statusOf db u = some .disabled)
      (G := fun _ _ => True) (fun _ r h _ => disabled_step h r) h
      (Run.allSteps_of_forall (fun _ _ => trivial) db rs)).mono ?_
    rintro db r ⟨hdisabled, -⟩ hpair
    rcases hpair.status with hs | hs
    · rw [hdisabled] at hs
      cases hs
    · rw [hdisabled] at hs
      cases hs
  · have hend : statusOf (Run.run (accountStep env) db rs) u = some .disabled :=
      Run.inv_of_always (I := fun db => statusOf db u = some .disabled)
        (fun _ r h => disabled_step h r) h rs
    rw [activeUser_iff, hend]
    decide

/-- An admin's request to disable a user of the organisation that has a password returns. -/
theorem disableUser_ok {principal organizationId : Uuid} (hadmin : OrgAdmin db principal organizationId)
    (huser : db.users.lookup u = some user) (horg : user.organizationId = some organizationId)
    (hhash : user.passwordHash ≠ none) :
    accountHandle env db (.disableUser principal u) =
      (.ok (.user u { user with status := .disabled }),
        userUpdated db u { user with status := .disabled }) := by
  obtain ⟨admin, hl, hactive, hrole, hadminOrg⟩ := hadmin
  apply Tx.settle_of_ok
  have hcheck : PasswordHashRequiredUnlessPending { user with status := .disabled } := .inr hhash
  have hscope : OrgScope.selectsUser ⟨organizationId, principal, .admin⟩ user = true := by
    simp [OrgScope.selectsUser, horg]
  simp [accountEndpoint, getPrincipal, requireOrgAdminScope, disableUser, flushUser, hl, hactive, hrole,
    hadminOrg, huser, hscope, hcheck, userUpdated, Except.mapError, Except.map]

/-- **When disabling holds**: for a user of the admin's organisation, `disable_user` commits and is
    final exactly if the user has a password hash. -/
theorem disabledForEver_iff {principal organizationId : Uuid}
    (hadmin : OrgAdmin db principal organizationId) (huser : db.users.lookup u = some user)
    (horg : user.organizationId = some organizationId) :
    DisabledForEver env db principal u ↔ user.passwordHash ≠ none := by
  constructor
  · rintro ⟨⟨response, hok⟩, -⟩
    have he := effect_of_step env db (.disableUser principal u)
    rw [hok] at he
    generalize accountStep env db (.disableUser principal u) = db' at he
    cases he with
    | disable _ hl hhash =>
      rw [huser] at hl
      cases hl
      exact hhash
  · intro hhash
    have hhandle : accountHandle env db (.disableUser principal u) = _ :=
      disableUser_ok hadmin huser horg hhash
    refine ⟨⟨_, by rw [hhandle]⟩, ?_⟩
    intro rs db'
    have hdisabled : statusOf db' u = some .disabled := by
      show statusOf (accountStep env db (.disableUser principal u)) u = _
      rw [accountStep, hhandle]
      show statusOf (userUpdated db u _) u = _
      rw [statusOf_userUpdated huser, if_pos rfl]
    exact final_of_disabled hdisabled rs

/-! ## An agency's first days

An admin invites a tenant, and invites her again because the first mail was lost. -/

namespace Onboarding

open Survivor (crypto firstToken secondToken thirdToken passwordHash)

def organization : Organization where
  chatWidgetKey := "wk_01"
  whatsappPhoneNumberId := none
  supportEmailAddress := none
  timezone := "UTC"
  businessHours := []

def admin : User where
  organizationId := some 1
  name := "Ana"
  email := "ana@example.com"
  role := .admin
  passwordHash := some passwordHash
  status := .active
  phoneNumber := none

def start : Db :=
  { Db.empty with
    organizations := AList.insert 1 organization ∅
    users := AList.insert 7 admin ∅ }

/-- What inviting user `8` at time `t` draws. -/
def inviteDraws (t : Int) (rawToken : String) (tokenId : Uuid) : InviteDraws :=
  ⟨8, tokenId, rawToken, t, t, true⟩

def invitation : AccountRequest :=
  .inviteUser 7 "Maria" "maria@example.com" .tenant (inviteDraws 1000 firstToken 20)

def secondInvitation : AccountRequest := .reissueInvite 7 8 (inviteDraws 2000 secondToken 21)

def acceptance : AccountRequest :=
  .acceptInvite secondToken "correct horse battery staple" ⟨Survivor.draws 3000 thirdToken 1, 3000⟩

/-- The invited user. -/
def maria : User := invited 1 "Maria" "maria@example.com" .tenant

theorem admin_ok : OrgAdmin start 7 1 := ⟨admin, rfl, rfl, rfl, rfl⟩

end Onboarding

open Onboarding Survivor in
/-- The invitations above, and an acceptance. -/
theorem invite_lifecycle_onboarding :
    OneOutstanding
        (Run.run (accountStep crypto) Onboarding.start [invitation, secondInvitation, acceptance]) ∧
      (∀ pre principal u d post,
        [invitation, secondInvitation, acceptance] = pre ++ .reissueInvite principal u d :: post →
        ∀ db, db = Run.run (accountStep crypto) Onboarding.start pre →
        (∃ response, (accountHandle crypto db (.reissueInvite principal u d)).1 = .ok response) →
        ∀ token, InviteOf crypto db u token →
          Run.AllSteps (accountStep crypto) (fun db r => ¬ AcceptsInvite crypto token db r)
            (accountStep crypto db (.reissueInvite principal u d)) post) ∧
      (∀ u, Run.AtMostOnce (accountStep crypto) (Activates crypto u) Onboarding.start
        [invitation, secondInvitation, acceptance]) ∧
      Run.AllSteps (accountStep crypto) (SetsHashOfPending crypto) Onboarding.start
        [invitation, secondInvitation, acceptance] :=
  invite_lifecycle (show Onboarding.start.inviteTokens = ∅ from rfl) _

open Onboarding Survivor in
/-- **Counterexample**: the admin cannot disable a user whose invitation is still open; the UPDATE
    violates the CHECK on `password_hash`, and the user can still accept. -/
theorem pending_not_disabled :
    (Run.run (accountStep crypto) Onboarding.start [invitation]).users.lookup 8 = some maria ∧
      (accountHandle crypto (Run.run (accountStep crypto) Onboarding.start [invitation])
        (.disableUser 7 8)).1 = .error .internalServerError ∧
      ¬ DisabledForEver crypto (Run.run (accountStep crypto) Onboarding.start [invitation]) 7 8 := by
  have herror : (accountHandle crypto (Run.run (accountStep crypto) Onboarding.start [invitation])
      (.disableUser 7 8)).1 = .error .internalServerError := by decide +kernel
  refine ⟨by decide +kernel, herror, ?_⟩
  rintro ⟨⟨response, hok⟩, -⟩
  rw [herror] at hok
  cases hok

open Onboarding Survivor in
/-- An admin who disables herself has a password. -/
theorem disabledForEver_iff_admin :
    DisabledForEver crypto Onboarding.start 7 7 ↔ admin.passwordHash ≠ none :=
  disabledForEver_iff admin_ok rfl rfl

end Helpdesk.Auth
