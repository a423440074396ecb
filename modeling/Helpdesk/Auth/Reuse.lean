import Helpdesk.Auth.Service
import Helpdesk.Library.Run
import Helpdesk.Library.Weakest

/-! # Refresh-token reuse

A refresh token that is presented after it was rotated away (or logged out) is a theft signal: the
service answers by revoking every row of the token's family, and then raises. `get_session` rolls
the transaction of a raising handler back, so the revocation is lost with it.

* **`refresh_revoked_exec`**: the service on its own does revoke the family.
* **`step_refresh_revoked`**: the request as a whole changes nothing.
* **`step_cases`**: all that a request can do to the committed tables.
* **`familyEnded_iff`**: after the reuse of a token, its family is refused for ever exactly if it
  had no live row at the moment of the reuse. -/

namespace Helpdesk.Auth

variable {env : Crypto} {db db' : Db} {d : Draws} {raw : String} {id f : Uuid} {row : RefreshToken}
  {t : Int}

/-- The committed row that `rotate` finds for a raw token. -/
def Found (env : Crypto) (db : Db) (raw : String) (id : Uuid) (row : RefreshToken) : Prop :=
  (db.refreshTokens.select fun _ row => row.tokenHash = env.sha256Hash raw) = [(id, row)]

instance : Decidable (Found env db raw id row) := by
  unfold Found
  infer_instance

theorem Found.lookup (h : Found env db raw id row) : db.refreshTokens.lookup id = some row := by
  have hm : (id, row) ∈ db.refreshTokens.select fun _ row => row.tokenHash = env.sha256Hash raw := by
    rw [h]
    simp
  exact (Table.mem_select.mp hm).1

theorem Found.hash (h : Found env db raw id row) : row.tokenHash = env.sha256Hash raw := by
  have hm : (id, row) ∈ db.refreshTokens.select fun _ row => row.tokenHash = env.sha256Hash raw := by
    rw [h]
    simp
  simpa using (Table.mem_select.mp hm).2

/-- The raw token is unused: no row carries its hash. -/
def Unused (env : Crypto) (db : Db) (raw : String) : Prop :=
  ∀ id row, db.refreshTokens.lookup id = some row → row.tokenHash ≠ env.sha256Hash raw

theorem unused_iff_select :
    Unused env db raw ↔
      (db.refreshTokens.select fun _ row => row.tokenHash = env.sha256Hash raw) = [] := by
  rw [Table.select_eq_nil]
  simp [Unused]

/-! ## What the repository calls do

Each call as an equation or an inversion about `exec`. `issue` can fail on four constraints, so its
inversion says when it does not. -/

/-- The row `issue` inserts. -/
def issuedRow (env : Crypto) (d : Draws) (userId familyId : Uuid) : RefreshToken where
  userId := userId
  tokenHash := env.sha256Hash d.rawToken
  familyId := familyId
  revokedAt := none
  expiresAt := d.issuedAt + defaultRefreshTokenTtl

/-- The database with every open row of the family `f` marked at `now`. -/
def familyRevoked (db : Db) (f : Uuid) (now : Int) : Db :=
  { db with
    refreshTokens := db.refreshTokens.mapRows fun _ row =>
      if row.familyId = f ∧ row.revokedAt = none then { row with revokedAt := some now } else row }

/-- The database with the row `id` marked at `now`. -/
def rowRevoked (db : Db) (id : Uuid) (now : Int) : Db :=
  { db with
    refreshTokens := db.refreshTokens.modify id fun row => { row with revokedAt := some now } }

/-- The database with a new row. -/
def rowIssued (env : Crypto) (db : Db) (d : Draws) (userId familyId : Uuid) : Db :=
  { db with refreshTokens := AList.insert d.rowId (issuedRow env d userId familyId) db.refreshTokens }

@[simp] theorem exec_revokeFamily :
    Tx.exec (revokeFamily d f) db = (.ok (), familyRevoked db f d.revokedAt) := by
  simp [revokeFamily, familyRevoked]

@[simp] theorem exec_revoke :
    Tx.exec (revoke d id) db = (.ok (), rowRevoked db id d.revokedAt) := by
  simp [revoke, rowRevoked]

theorem exec_rotate_found (h : Found env db raw id row) :
    Tx.exec (rotate env raw) db = (.ok (some (id, row)), db) := by
  simp only [rotate, Tx.exec_bind, Tx.exec_store]
  rw [h]
  rfl

/-- `rotate` finds one row, finds none, or (were the unique index violated) raises. It never
    writes. -/
theorem exec_rotate_cases (env : Crypto) (db : Db) (raw : String) :
    (∃ id row, Found env db raw id row ∧ Tx.exec (rotate env raw) db = (.ok (some (id, row)), db)) ∨
      Tx.exec (rotate env raw) db = (.ok none, db) ∨
      Tx.exec (rotate env raw) db = (.error .multipleResultsFound, db) := by
  match h : db.refreshTokens.select fun _ row => row.tokenHash = env.sha256Hash raw with
  | [] =>
    right; left
    simp only [rotate, Tx.exec_bind, Tx.exec_store]
    rw [h]
    rfl
  | [(id, row)] => exact .inl ⟨id, row, h, exec_rotate_found h⟩
  | _ :: _ :: _ =>
    right; right
    simp only [rotate, Tx.exec_bind, Tx.exec_store]
    rw [h]
    rfl

/-- `issue` succeeds exactly on an unused token, an existing user and an unused key. -/
theorem exec_issue_ok {userId : Uuid} {familyId : Option Uuid} {r : String × Uuid}
    (h : Tx.exec (issue env d userId familyId) db = (.ok r, db')) :
    Unused env db d.rawToken ∧ db.refreshTokens.lookup d.rowId = none ∧
      db' = rowIssued env db d userId (familyId.getD d.familyId) := by
  simp only [issue, Tx.exec_bind, Tx.exec_store, Tx.exec_ite, Tx.exec_raise] at h
  split at h
  · simp at h
  next hunused =>
    rw [not_not] at hunused
    split at h
    · simp at h
    next huser =>
      cases hins : db.refreshTokens.insertNew d.rowId
          (issuedRow env d userId (familyId.getD d.familyId)) with
      | none =>
        rw [issuedRow] at hins
        simp [hins] at h
      | some refreshTokens =>
        obtain ⟨hnew, rfl⟩ := Table.insertNew_eq_some.mp hins
        rw [issuedRow] at hins
        simp only [hins, Tx.exec_orRaise_some, Tx.exec_write, Tx.exec_pure, Prod.mk.injEq] at h
        exact ⟨unused_iff_select.mpr hunused, hnew, h.2.symm⟩

/-- What `issue` returns is the raw token it has drawn. -/
theorem exec_issue_token {userId : Uuid} {familyId : Option Uuid} {r : String × Uuid}
    (h : Tx.exec (issue env d userId familyId) db = (.ok r, db')) : r.1 = d.rawToken := by
  have hspec : Tx.wp (issue env d userId familyId) (fun r _ => r.1 = d.rawToken) (fun _ => True) db := by
    simp [issue]
  exact (Tx.wp_of_ok h).mp hspec

theorem exec_issue_of_unused {userId : Uuid} {familyId : Option Uuid}
    (hunused : Unused env db d.rawToken) (huser : userId ∈ db.users)
    (hnew : db.refreshTokens.lookup d.rowId = none) :
    Tx.exec (issue env d userId familyId) db =
      (.ok (d.rawToken, familyId.getD d.familyId),
        rowIssued env db d userId (familyId.getD d.familyId)) := by
  have hins := Table.insertNew_of_fresh (issuedRow env d userId (familyId.getD d.familyId)) hnew
  rw [issuedRow] at hins
  have hsel := unused_iff_select.mp hunused
  simp [issue, hsel, huser, hins, rowIssued, issuedRow, Except.map]

/-! ## What one request does

`step_cases` is the inversion lemma every invariant below is proved from. -/

/-- **The service alone**: on a revoked token it marks the whole family, then raises. -/
theorem refresh_revoked_exec (h : Found env db raw id row) (hrev : row.revokedAt ≠ none) :
    Tx.exec (refresh env d raw) db =
      (.error (.authenticationError genericRefreshFailure),
        familyRevoked db row.familyId d.revokedAt) := by
  simp [refresh, exec_rotate_found h, hrev]

/-- **The request as a whole**: the session rolls the revocation back. -/
theorem handle_refresh_revoked (h : Found env db raw id row) (hrev : row.revokedAt ≠ none) :
    handle env db (.refresh raw d) = (.error (.unauthorized genericRefreshFailure), db) := by
  have hraises : Tx.exec (endpoint env (.refresh raw d)) db =
      (.error (.unauthorized genericRefreshFailure), familyRevoked db row.familyId d.revokedAt) := by
    simp [endpoint, refresh_revoked_exec h hrev, toHttp, Except.mapError, Except.map]
  exact Tx.settle_of_error hraises

theorem step_refresh_revoked (h : Found env db raw id row) (hrev : row.revokedAt ≠ none) :
    step env db (.refresh raw d) = db := by
  rw [step, handle_refresh_revoked h hrev]

/-- The user exists and is active. -/
def ActiveUser (db : Db) (userId : Uuid) : Prop :=
  ∃ user, db.users.lookup userId = some user ∧ user.status = .active

/-- What `refresh` demands of a row at `t`. -/
structure Live (db : Db) (row : RefreshToken) (t : Int) : Prop where
  unrevoked : row.revokedAt = none
  unexpired : t ≤ row.expiresAt
  active : ActiveUser db row.userId

/-- A pair that is issued carries the new raw token, and its row is stored. -/
theorem exec_issuePair_ok {userId : Uuid} {user : User} {familyId : Option Uuid} {pair : TokenPair}
    (h : Tx.exec (issuePair env d userId user familyId) db = (.ok pair, db')) :
    Unused env db d.rawToken ∧ db.refreshTokens.lookup d.rowId = none ∧
      db' = rowIssued env db d userId (familyId.getD d.familyId) ∧
      pair.refreshToken = d.rawToken := by
  rw [issuePair, Tx.bind_ok] at h
  obtain ⟨r, db'', hi, h⟩ := h
  rw [Tx.exec_pure] at h
  obtain ⟨hun, hnew, hdb⟩ := exec_issue_ok hi
  cases h
  refine ⟨hun, hnew, hdb, ?_⟩
  exact exec_issue_token hi

/-- A refresh that returns has found a live row, revoked it and issued the next one. -/
theorem exec_refresh_ok {pair : TokenPair} (h : Tx.exec (refresh env d raw) db = (.ok pair, db')) :
    ∃ id row, Found env db raw id row ∧ Live db row d.checkedAt ∧
      Unused env (rowRevoked db id d.revokedAt) d.rawToken ∧
      (rowRevoked db id d.revokedAt).refreshTokens.lookup d.rowId = none ∧
      db' = rowIssued env (rowRevoked db id d.revokedAt) d row.userId row.familyId ∧
      pair.refreshToken = d.rawToken := by
  rw [refresh, Tx.exec_bind] at h
  rcases exec_rotate_cases env db raw with ⟨id, row, hf, hr⟩ | hr | hr
  · simp only [hr] at h
    split at h
    · simp at h
    next hrev =>
      split at h
      · simp at h
      next hexp =>
        simp only [Tx.exec_bind, Tx.exec_store] at h
        cases hu : db.users.lookup row.userId with
        | none => simp [hu] at h
        | some user =>
          simp only [hu] at h
          split at h
          · simp at h
          next hact =>
            rw [not_not] at hrev hact
            rw [Tx.exec_bind, exec_revoke] at h
            obtain ⟨hun, hnew, hdb, hpair⟩ := exec_issuePair_ok h
            exact ⟨id, row, hf, ⟨hrev, not_lt.mp hexp, user, hu, hact⟩, hun, hnew, hdb, hpair⟩
  · simp [hr] at h
  · simp [hr] at h

/-- The status of a user that exists. -/
def statusOf (db : Db) (userId : Uuid) : Option UserStatus :=
  (db.users.lookup userId).map User.status

theorem activeUser_iff : ActiveUser db id ↔ statusOf db id = some .active := by
  rw [statusOf, Option.map_eq_some_iff]
  rfl

/-- A login that returns has found an active user and issued a row in a new family, at most after
    storing a new password hash, which changes nobody's status. -/
theorem exec_login_ok {email password : String} {pair : TokenPair}
    (h : Tx.exec (login env d email password) db = (.ok pair, db')) :
    ∃ users userId, (∀ u, statusOf { db with users := users } u = statusOf db u) ∧
      ActiveUser db userId ∧ Unused env db d.rawToken ∧ db.refreshTokens.lookup d.rowId = none ∧
      db' = rowIssued env { db with users := users } d userId d.familyId ∧
      pair.refreshToken = d.rawToken := by
  simp only [login, Tx.exec_bind, Tx.exec_store] at h
  match hs : db.users.select fun _ user =>
      env.sqlLower user.email = env.lower (Text.strip email) with
  | [] => simp [hs, scalarOneOrNone] at h
  | _ :: _ :: _ => simp [hs, scalarOneOrNone] at h
  | [(userId, user)] =>
    simp only [hs, scalarOneOrNone, Tx.exec_pure] at h
    have huser : db.users.lookup userId = some user := by
      have hm : (userId, user) ∈ db.users.select fun _ user =>
          env.sqlLower user.email = env.lower (Text.strip email) := by
        rw [hs]
        exact List.mem_singleton_self _
      exact (Table.mem_select.mp hm).1
    cases hp : user.passwordHash with
    | none => simp [hp] at h
    | some passwordHash =>
      simp only [hp] at h
      split at h
      · simp at h
      next hactive =>
        rw [not_not] at hactive
        split at h
        · simp at h
        split at h
        · simp only [Tx.exec_bind, Tx.exec_write] at h
          obtain ⟨hun, hnew, rfl, hpair⟩ := exec_issuePair_ok h
          refine ⟨_, userId, ?_, ⟨user, huser, hactive⟩, hun, hnew, rfl, hpair⟩
          intro u
          show ((db.users.modify userId _).lookup u).map _ = (db.users.lookup u).map _
          rw [Table.lookup_modify]
          split
          · rw [Option.map_map]
            rfl
          · rfl
        · obtain ⟨hun, hnew, rfl, hpair⟩ := exec_issuePair_ok h
          exact ⟨db.users, userId, fun _ => rfl, ⟨user, huser, hactive⟩, hun, hnew, rfl, hpair⟩

/-- **All a request can do** to the committed database. -/
theorem step_cases (env : Crypto) (db : Db) (r : Request) :
    step env db r = db ∨
    (∃ email password d mid userId, r = .login email password d ∧
      mid.refreshTokens = db.refreshTokens ∧ (∀ u, ActiveUser mid u ↔ ActiveUser db u) ∧
      Unused env mid d.rawToken ∧ mid.refreshTokens.lookup d.rowId = none ∧
      step env db r = rowIssued env mid d userId d.familyId) ∨
    (∃ raw d id row, r = .refresh raw d ∧ Found env db raw id row ∧ Live db row d.checkedAt ∧
      Unused env (rowRevoked db id d.revokedAt) d.rawToken ∧
      (rowRevoked db id d.revokedAt).refreshTokens.lookup d.rowId = none ∧
      step env db r = rowIssued env (rowRevoked db id d.revokedAt) d row.userId row.familyId) ∨
    (∃ raw d id row, r = .logout raw d ∧ Found env db raw id row ∧
      step env db r = familyRevoked db row.familyId d.revokedAt) := by
  cases r with
  | login email password d =>
    rcases hx : Tx.exec (login env d email password) db with ⟨e | pair, db'⟩
    · left
      simp [step, handle, Tx.settle, endpoint, hx, Except.mapError, Except.map]
    · right; left
      obtain ⟨users, userId, hstatus, -, hun, hnew, rfl, -⟩ := exec_login_ok hx
      refine ⟨email, password, d, { db with users := users }, userId, rfl, rfl, ?_, hun, hnew, ?_⟩
      · intro u
        rw [activeUser_iff, activeUser_iff, hstatus]
      simp [step, handle, Tx.settle, endpoint, hx, Except.mapError, Except.map]
  | refresh raw d =>
    rcases hx : Tx.exec (refresh env d raw) db with ⟨e | pair, db'⟩
    · left
      simp [step, handle, Tx.settle, endpoint, hx, Except.mapError, Except.map]
    · right; right; left
      obtain ⟨id, row, hf, hl, hun, hnew, rfl, -⟩ := exec_refresh_ok hx
      refine ⟨raw, d, id, row, rfl, hf, hl, hun, hnew, ?_⟩
      simp [step, handle, Tx.settle, endpoint, hx, Except.mapError, Except.map]
  | logout raw d =>
    rcases exec_rotate_cases env db raw with ⟨id, row, hf, hr⟩ | hr | hr
    · right; right; right
      refine ⟨raw, d, id, row, rfl, hf, ?_⟩
      simp [step, handle, Tx.settle, endpoint, logout, hr, Except.mapError, Except.map]
    · left
      simp [step, handle, Tx.settle, endpoint, logout, hr, Except.mapError, Except.map]
    · left
      simp [step, handle, Tx.settle, endpoint, logout, hr, Except.mapError, Except.map]

/-! ## The tokens in a reachable database

Each stored hash is the hash of a raw token, and no two rows share one: that is why a live row can
be presented. -/

/-- Rows come from `issue`. -/
structure Issued (env : Crypto) (db : Db) : Prop where
  hash_of_raw : ∀ id row, db.refreshTokens.lookup id = some row →
    ∃ raw, row.tokenHash = env.sha256Hash raw
  hash_unique : ∀ id row id' row', db.refreshTokens.lookup id = some row →
    db.refreshTokens.lookup id' = some row' → row.tokenHash = row'.tokenHash → id = id'

/-- Rows of `db'` under old keys are rows of `db` up to their `revoked_at`. -/
def SameRows (db db' : Db) : Prop :=
  ∀ id row', db'.refreshTokens.lookup id = some row' → ∃ row, db.refreshTokens.lookup id = some row ∧
    row'.tokenHash = row.tokenHash ∧ row'.familyId = row.familyId ∧ row'.userId = row.userId ∧
    row'.expiresAt = row.expiresAt ∧ (row'.revokedAt = none → row.revokedAt = none)

theorem sameRows_familyRevoked : SameRows db (familyRevoked db f t) := by
  intro id row' h
  simp only [familyRevoked, Table.lookup_mapRows, Option.map_eq_some_iff] at h
  obtain ⟨row, hl, rfl⟩ := h
  refine ⟨row, hl, ?_⟩
  split <;> simp

theorem sameRows_rowRevoked : SameRows db (rowRevoked db id t) := by
  intro id' row' h
  simp only [rowRevoked, Table.lookup_modify] at h
  split at h
  · obtain ⟨row, hl, rfl⟩ := Option.map_eq_some_iff.mp h
    exact ⟨row, hl, rfl, rfl, rfl, rfl, by simp⟩
  · exact ⟨row', h, rfl, rfl, rfl, rfl, fun h => h⟩

theorem Issued.of_sameRows (h : Issued env db) (hs : SameRows db db') : Issued env db' := by
  constructor
  · intro id row' hl
    obtain ⟨row, hl', hh, -⟩ := hs id row' hl
    obtain ⟨raw, hraw⟩ := h.hash_of_raw id row hl'
    exact ⟨raw, hh.trans hraw⟩
  · intro id₁ row₁ id₂ row₂ h₁ h₂ he
    obtain ⟨r₁, hl₁, hh₁, -⟩ := hs id₁ row₁ h₁
    obtain ⟨r₂, hl₂, hh₂, -⟩ := hs id₂ row₂ h₂
    exact h.hash_unique id₁ r₁ id₂ r₂ hl₁ hl₂ (by rw [← hh₁, he, hh₂])

theorem Issued.rowIssued {userId : Uuid} (h : Issued env db) (hun : Unused env db d.rawToken) :
    Issued env (rowIssued env db d userId f) := by
  constructor
  · intro id row hl
    simp only [Auth.rowIssued, Table.lookup_insert] at hl
    split at hl
    · obtain rfl := Option.some.inj hl
      exact ⟨d.rawToken, rfl⟩
    · exact h.hash_of_raw id row hl
  · intro id₁ row₁ id₂ row₂ h₁ h₂ he
    simp only [Auth.rowIssued, Table.lookup_insert] at h₁ h₂
    split at h₁ <;> split at h₂
    · simp_all
    · obtain rfl := Option.some.inj h₁
      exact absurd he.symm (hun id₂ row₂ h₂)
    · obtain rfl := Option.some.inj h₂
      exact absurd he (hun id₁ row₁ h₁)
    · exact h.hash_unique id₁ row₁ id₂ row₂ h₁ h₂ he

theorem Issued.step (h : Issued env db) (r : Request) : Issued env (step env db r) := by
  rcases step_cases env db r with he | ⟨_, _, d, mid, userId, -, ht, -, hun, -, he⟩ |
    ⟨_, d, id, row, -, -, -, hun, -, he⟩ | ⟨_, d, id, row, -, -, he⟩
  · rwa [he]
  · rw [he]
    refine Issued.rowIssued ⟨?_, ?_⟩ hun
    · rw [ht]
      exact h.hash_of_raw
    · rw [ht]
      exact h.hash_unique
  · rw [he]
    exact (h.of_sameRows sameRows_rowRevoked).rowIssued hun
  · rw [he]
    exact h.of_sameRows sameRows_familyRevoked

/-- From a database without refresh tokens, every run keeps `Issued`. -/
theorem issued_run (h0 : db.refreshTokens = ∅) (rs : List Request) :
    Issued env (Run.run (step env) db rs) := by
  refine Run.inv_of_always (I := Issued env) (fun _ r h => h.step r) ⟨?_, ?_⟩ rs
  · intro id row hl
    simp [h0] at hl
  · intro id row id' row' hl
    simp [h0] at hl

/-- A row is what its raw token finds. -/
theorem Issued.found (h : Issued env db) (hl : db.refreshTokens.lookup id = some row)
    (hraw : row.tokenHash = env.sha256Hash raw) : Found env db raw id row := by
  refine Table.select_eq_singleton hl (by simpa using hraw) ?_
  intro id' row' hl' hp
  simp only [decide_eq_true_eq] at hp
  exact h.hash_unique id' row' id row hl' hl (hp.trans hraw.symm)

/-! ## Families that have ended

`FamilyEnded` is a statement about every later run: no refresh with a token of the family succeeds. It is
the same as `FamilyDead`, a statement about the rows: a dead family stays dead, and a live one has a token that
can be presented at once. -/

/-- Some row of the family `f` is live at `t`. -/
def FamilyLive (db : Db) (f : Uuid) (t : Int) : Prop :=
  ∃ id row, db.refreshTokens.lookup id = some row ∧ row.familyId = f ∧ Live db row t

/-- The request succeeds. -/
def Succeeds (env : Crypto) (db : Db) (r : Request) : Prop :=
  ∃ pair, (handle env db r).1 = .ok pair

/-- The request is a refresh with a token of the family `f`. -/
def RefreshOf (env : Crypto) (f : Uuid) (db : Db) (r : Request) : Prop :=
  ∃ raw d id row, r = .refresh raw d ∧ Found env db raw id row ∧ row.familyId = f

/-- The requests after time `t`: their clocks do not run backwards, and `uuid4()` gives a login a
    family id that no row has. -/
def Later (t : Int) (db : Db) : Request → Prop
  | .login _ _ d => ∀ id row, db.refreshTokens.lookup id = some row → row.familyId ≠ d.familyId
  | .refresh _ d => t ≤ d.checkedAt
  | .logout _ _ => True

/-- From `db` on, no refresh with a token of the family `f` ever succeeds. -/
def FamilyEnded (env : Crypto) (db : Db) (f : Uuid) (t : Int) : Prop :=
  ∀ rs, Run.AllSteps (step env) (Later t) db rs →
    Run.AllSteps (step env) (fun db r => RefreshOf env f db r → ¬ Succeeds env db r) db rs

theorem Live.mono {t' : Int} (h : Live db row t') (ht : t ≤ t') : Live db row t :=
  ⟨h.unrevoked, ht.trans h.unexpired, h.active⟩

/-- A refresh that succeeds has presented a live row. -/
theorem live_of_succeeds (h : Succeeds env db (.refresh raw d)) :
    ∃ id row, Found env db raw id row ∧ Live db row d.checkedAt := by
  obtain ⟨pair, h⟩ := h
  rcases hx : Tx.exec (refresh env d raw) db with ⟨e | pair', db'⟩
  · simp [handle, Tx.settle, endpoint, hx, Except.mapError, Except.map] at h
  · obtain ⟨id, row, hf, hl, -⟩ := exec_refresh_ok hx
    exact ⟨id, row, hf, hl⟩

/-- A live row can be refreshed, given an unused token and key to issue. -/
theorem succeeds_of_live (hf : Found env db raw id row) (hl : Live db row d.checkedAt)
    (hun : Unused env db d.rawToken) (hnew : db.refreshTokens.lookup d.rowId = none) :
    Succeeds env db (.refresh raw d) := by
  obtain ⟨user, hu, hact⟩ := hl.active
  have hexp : ¬ row.expiresAt < d.checkedAt := not_lt.mpr hl.unexpired
  have hun' : Unused env (rowRevoked db id d.revokedAt) d.rawToken := by
    intro id' row' hl'
    obtain ⟨row'', hl'', hh, -⟩ := sameRows_rowRevoked id' row' hl'
    rw [hh]
    exact hun id' row'' hl''
  have hnew' : (rowRevoked db id d.revokedAt).refreshTokens.lookup d.rowId = none := by
    simp [rowRevoked, Table.lookup_modify, hnew]
  have huser : row.userId ∈ (rowRevoked db id d.revokedAt).users :=
    Table.mem_iff_lookup.mpr ⟨user, hu⟩
  have hi : Tx.exec (issue env d row.userId (some row.familyId)) (rowRevoked db id d.revokedAt) = _ :=
    exec_issue_of_unused hun' huser hnew'
  refine ⟨some ⟨encodeAccessToken env d row.userId user, d.rawToken⟩, ?_⟩
  simp [handle, Tx.settle, endpoint, refresh, exec_rotate_found hf, hl.unrevoked, hexp, hu, hact,
    issuePair, hi, Except.mapError, Except.map]

/-- A family with rows but without a live one. -/
structure FamilyDead (db : Db) (f : Uuid) (t : Int) : Prop where
  inhabited : ∃ id row, db.refreshTokens.lookup id = some row ∧ row.familyId = f
  not_live : ¬ FamilyLive db f t

/-- Marking rows brings no row to life. -/
theorem not_familyLive_of_sameRows (hs : SameRows db db')
    (ha : ∀ u, ActiveUser db' u ↔ ActiveUser db u) (h : ¬ FamilyLive db f t) :
    ¬ FamilyLive db' f t := by
  rintro ⟨id, row', hl, hfam, hlive⟩
  obtain ⟨row, hl', -, hf, hu, he, hr⟩ := hs id row' hl
  refine h ⟨id, row, hl', by rw [← hf, hfam], hr hlive.unrevoked, ?_, ?_⟩
  · rw [← he]
    exact hlive.unexpired
  · rw [← hu, ← ha]
    exact hlive.active

/-- Nor does a new row of another family. -/
theorem not_familyLive_rowIssued {userId f' : Uuid} (hne : f' ≠ f) (h : ¬ FamilyLive db f t) :
    ¬ FamilyLive (rowIssued env db d userId f') f t := by
  rintro ⟨id, row, hl, hfam, hlive⟩
  simp only [rowIssued, Table.lookup_insert] at hl
  split at hl
  · obtain rfl := Option.some.inj hl
    exact hne hfam
  · exact h ⟨id, row, hl, hfam, hlive.unrevoked, hlive.unexpired, hlive.active⟩

/-- Rows are never deleted and never change their family. -/
theorem inhabited_step (r : Request)
    (h : ∃ id row, db.refreshTokens.lookup id = some row ∧ row.familyId = f) :
    ∃ id row, (step env db r).refreshTokens.lookup id = some row ∧ row.familyId = f := by
  obtain ⟨id, row, hl, hf⟩ := h
  have hissued : ∀ {mid : Db} {d : Draws} {userId f' : Uuid},
      (∃ row, mid.refreshTokens.lookup id = some row ∧ row.familyId = f) →
      mid.refreshTokens.lookup d.rowId = none →
      ∃ id row, (rowIssued env mid d userId f').refreshTokens.lookup id = some row ∧
        row.familyId = f := by
    rintro mid d userId f' ⟨row, hl, hf⟩ hnew
    refine ⟨id, row, ?_, hf⟩
    have hne : id ≠ d.rowId := by
      rintro rfl
      rw [hnew] at hl
      exact absurd hl (by simp)
    simp only [rowIssued, Table.lookup_insert, if_neg hne, hl]
  rcases step_cases env db r with he | ⟨_, _, d, mid, userId, -, ht, -, -, hnew, he⟩ |
    ⟨_, d, id', row', -, -, -, -, hnew, he⟩ | ⟨_, d, id', row', -, -, he⟩
  · exact ⟨id, row, by rw [he, hl], hf⟩
  · rw [he]
    exact hissued ⟨row, by rw [ht, hl], hf⟩ hnew
  · rw [he]
    refine hissued ?_ hnew
    simp only [rowRevoked, Table.lookup_modify]
    split
    · rw [hl]
      exact ⟨_, rfl, hf⟩
    · exact ⟨row, hl, hf⟩
  · rw [he]
    refine ⟨id, _, by rw [familyRevoked, Table.lookup_mapRows, hl, Option.map_some], ?_⟩
    split <;> exact hf

/-- **Step lemma**: a dead family stays dead. -/
theorem FamilyDead.step {r : Request} (h : FamilyDead db f t) (hlater : Later t db r) :
    FamilyDead (step env db r) f t := by
  refine ⟨inhabited_step r h.inhabited, ?_⟩
  rcases step_cases env db r with he | ⟨_, _, d, mid, userId, rfl, ht, ha, -, -, he⟩ |
    ⟨raw, d, id, row, rfl, hf, hl, -, -, he⟩ | ⟨_, d, id, row, -, -, he⟩
  · rw [he]
    exact h.not_live
  · rw [he]
    -- a login opens a family of its own
    obtain ⟨id, row, hl, hfam⟩ := h.inhabited
    refine not_familyLive_rowIssued (by rw [← hfam]; exact (hlater id row hl).symm) ?_
    refine not_familyLive_of_sameRows (fun id row hl => ?_) ha h.not_live
    exact ⟨row, by rw [← ht, hl], rfl, rfl, rfl, rfl, fun h => h⟩
  · rw [he]
    -- the row a refresh has found is live, so it is not of this family
    have hne : row.familyId ≠ f := fun hfam =>
      h.not_live ⟨id, row, hf.lookup, hfam, hl.mono hlater⟩
    exact not_familyLive_rowIssued hne
      (not_familyLive_of_sameRows sameRows_rowRevoked (fun _ => Iff.rfl) h.not_live)
  · rw [he]
    exact not_familyLive_of_sameRows sameRows_familyRevoked (fun _ => Iff.rfl) h.not_live

/-- A dead family has ended. -/
theorem FamilyDead.ended (h : FamilyDead db f t) : FamilyEnded env db f t := by
  intro rs hlater
  refine (Run.allSteps_of_inv (I := fun db => FamilyDead db f t) (fun _ _ h hl => h.step hl) h
    hlater).mono ?_
  rintro db r ⟨hdead, hlater⟩ ⟨raw, d, id, row, rfl, hf, hfam⟩ hsucc
  obtain ⟨id', row', hf', hlive⟩ := live_of_succeeds hsucc
  rw [Found, hf'] at hf
  simp only [List.cons.injEq, Prod.mk.injEq, and_true] at hf
  obtain ⟨rfl, rfl⟩ := hf
  exact hdead.not_live ⟨id', row', hf'.lookup, hfam, hlive.mono hlater⟩

/-- A live family has not ended: its live token can be presented at once. -/
theorem FamilyLive.not_ended (h : FamilyLive db f t) (hi : Issued env db)
    (hfresh : ∃ raw, Unused env db raw) : ¬ FamilyEnded env db f t := by
  obtain ⟨id, row, hl, hfam, hlive⟩ := h
  obtain ⟨raw, hraw⟩ := hi.hash_of_raw id row hl
  obtain ⟨newRaw, hun⟩ := hfresh
  obtain ⟨newId, hnew⟩ := Table.exists_fresh db.refreshTokens
  have hf := hi.found hl hraw
  intro hended
  let d : Draws := ⟨t, t, t, t, newRaw, 0, newId, 0, 0⟩
  have hrun := hended [.refresh raw d] ⟨le_refl t, trivial⟩
  exact hrun.1 ⟨raw, d, id, row, rfl, hf, hfam⟩ (succeeds_of_live hf hlive hun hnew)

/-- **When reuse ends the family.** In a database reached by any requests, after the request that
    presents a revoked token, the token's family is refused for ever exactly if none of its rows
    was live when that request checked it. -/
theorem familyEnded_iff {db₀ : Db} (h0 : db₀.refreshTokens = ∅) (rs : List Request)
    (hdb : db = Run.run (step env) db₀ rs) (hf : Found env db raw id row)
    (hrev : row.revokedAt ≠ none) (hfresh : ∃ raw', Unused env db raw') :
    FamilyEnded env (step env db (.refresh raw d)) row.familyId d.checkedAt ↔
      ¬ FamilyLive db row.familyId d.checkedAt := by
  rw [step_refresh_revoked hf hrev]
  have hi : Issued env db := hdb ▸ issued_run h0 rs
  constructor
  · exact fun hended hlive => hlive.not_ended hi hfresh hended
  · exact fun hdead => FamilyDead.ended ⟨⟨id, row, hf.lookup, rfl⟩, hdead⟩

/-! ## A reuse that the family survives

A user logs in and rotates the first token into the second. The first one is then presented again:
the answer is a 401, and the second token still works. -/

namespace Survivor

def firstToken : String := "pU3KGCUwux1tEyze1iN7LtkeP3IfyxlxF0SU1kk8nVw"

def secondToken : String := "NGC-MSAeaf7aoO7ouZl_XHwpmf2v5ZMlPNZUr0361xQ"

def thirdToken : String := "J6Cus_7pIy-K8iEfnuSRxbEL7LVWO_web5NCfsvI_ik"

def passwordHash : String :=
  "$argon2id$v=19$m=65536,t=3,p=4$MIIRqgvgQbgj220jfp0MPA$YfwJSVjtjSU0zzV/P3S9nnQ/USre2wvJMjfCIjrTQbg"

/-- The third-party functions on the inputs of this run. -/
def crypto : Crypto where
  sha256Hash raw :=
    if raw = firstToken then
      0x28099cffa3693ff24ff0e71c00b1001592dfe632709595a4e21e8bf5134f3899
    else if raw = secondToken then
      0xfaff75b27302b178a85210249d443ddeea8abc8d725fbd1ac7d0175bc5594b43
    else if raw = thirdToken then
      0xba9432814c4d25626f847d5eecec249b66fd02c10dffd3a39d0f5b59499091c8
    else 0
  hashPassword _ _ := passwordHash
  verifyPassword hashed plain := hashed = passwordHash ∧ plain = "correct horse battery staple"
  needsRehash _ := false
  lower s := String.ofList (s.toList.map Char.toLower)
  sqlLower s := String.ofList (s.toList.map Char.toLower)
  signJwt claims := toString claims.jti

def user : User where
  organizationId := some 1
  name := "Maria"
  email := "maria@example.com"
  role := .tenant
  passwordHash := some passwordHash
  status := .active
  phoneNumber := none

/-- What the request at time `t` draws. -/
def draws (t : Int) (rawToken : String) (rowId : Uuid) : Draws :=
  ⟨t, t, t, t, rawToken, 500, rowId, rowId, 0⟩

def start : Db := { Db.empty with users := AList.insert 7 user ∅ }

def requests : List Request :=
  [.login " Maria@example.com " "correct horse battery staple" (draws 1000 firstToken 1),
    .refresh firstToken (draws 2000 secondToken 2)]

/-- The database before the reuse. -/
def rotated : Db := Run.run (step crypto) start requests

/-- The row of the first token, revoked by its rotation. -/
def firstRow : RefreshToken :=
  { issuedRow crypto (draws 1000 firstToken 1) 7 500 with revokedAt := some 2000 }

theorem firstToken_found : Found crypto rotated firstToken 1 firstRow := by decide +kernel

end Survivor

open Survivor in
/-- **Counterexample**: the reuse at `3000` does not end the family, whose second token is
    refreshed at `4000`. -/
theorem reuse_not_final :
    Found crypto rotated firstToken 1 firstRow ∧ firstRow.revokedAt ≠ none ∧
      ¬ FamilyEnded crypto
        (step crypto rotated (.refresh firstToken (draws 3000 thirdToken 3))) firstRow.familyId
        3000 := by
  refine ⟨firstToken_found, by decide, fun hended => ?_⟩
  rw [step_refresh_revoked firstToken_found (by decide)] at hended
  have hrun := hended [.refresh secondToken (draws 4000 thirdToken 3)] ⟨show (3000 : Int) ≤ 4000 by decide, trivial⟩
  refine hrun.1 ⟨secondToken, draws 4000 thirdToken 3, 2,
    issuedRow crypto (draws 2000 secondToken 2) 7 500, rfl, by decide +kernel, rfl⟩ ?_
  exact ⟨some ⟨"3", thirdToken⟩, by decide +kernel⟩

open Survivor in
/-- The condition at this reuse: the second token's row is live. -/
theorem familyEnded_iff_survivor :
    FamilyEnded crypto
        (step crypto rotated (.refresh firstToken (draws 3000 thirdToken 3))) firstRow.familyId
        3000 ↔
      ¬ FamilyLive rotated firstRow.familyId 3000 :=
  familyEnded_iff (d := draws 3000 thirdToken 3) (show start.refreshTokens = ∅ from rfl) requests
    rfl firstToken_found (by decide) ⟨thirdToken, unused_iff_select.mpr (by decide +kernel)⟩

end Helpdesk.Auth
