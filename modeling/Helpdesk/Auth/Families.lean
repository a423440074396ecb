import Helpdesk.Auth.Effects

/-! # Refresh families rotate linearly

A family is opened by a login or an accepted invite; from then on each row of it is revoked by the
rotation that issues the next one, or all of them by a logout.

* **`tokenEffect_of_step`**: all that a request can do to `refresh_tokens`.
* **`Linear.step`**: a family has one unrevoked row at most, and one user.
* **`Retired.step`**: a family without an unrevoked row never has one again.
* **`families_rotate_linearly`**: both, and the single use of each token, over whole runs.

All but the first are proved by cases on the effect of one request, and lifted to runs with the run rule. The
condition `NewFamily` is `uuid4()`'s: a family that is opened gets an id that no row has. -/

namespace Helpdesk.Auth

variable {env : Crypto} {db : Db} {r : AccountRequest} {t : Table Uuid RefreshToken} {f id : Uuid}
  {raw : String}

/-- What a request draws for the family that it opens. -/
def AccountRequest.opens : AccountRequest → Option Draws
  | .auth (.login _ _ d) => some d
  | .acceptInvite _ _ d => some d.toDraws
  | _ => none

/-- `uuid4()` gives a family that is opened an id that no row has. -/
def NewFamily (db : Db) (r : AccountRequest) : Prop :=
  ∀ d ∈ r.opens, ∀ id row, db.refreshTokens.lookup id = some row → row.familyId ≠ d.familyId

/-- What a request does to `refresh_tokens`. -/
inductive TokenEffect (env : Crypto) (db : Db) : AccountRequest → Table Uuid RefreshToken → Prop
  | same (r : AccountRequest) : TokenEffect env db r db.refreshTokens
  | opened {r : AccountRequest} {d : Draws} (userId : Uuid) (hopens : d ∈ r.opens)
      (hnew : db.refreshTokens.lookup d.rowId = none) :
      TokenEffect env db r
        (AList.insert d.rowId (issuedRow env d userId d.familyId) db.refreshTokens)
  | rotated {raw : String} {d : Draws} {id : Uuid} {row : RefreshToken}
      (hfound : Found env db raw id row) (hunrevoked : row.revokedAt = none)
      (hnew : (rowRevoked db id d.revokedAt).refreshTokens.lookup d.rowId = none) :
      TokenEffect env db (.auth (.refresh raw d))
        (AList.insert d.rowId (issuedRow env d row.userId row.familyId)
          (rowRevoked db id d.revokedAt).refreshTokens)
  | revoked {raw : String} {d : Draws} {id : Uuid} {row : RefreshToken}
      (hfound : Found env db raw id row) :
      TokenEffect env db (.auth (.logout raw d))
        (familyRevoked db row.familyId d.revokedAt).refreshTokens

theorem tokenEffect_of_step (env : Crypto) (db : Db) (r : AccountRequest) :
    TokenEffect env db r (accountStep env db r).refreshTokens := by
  have h := effect_of_step env db r
  generalize accountStep env db r = db' at h
  generalize (accountHandle env db r).1 = response at h
  cases h with
  | refused => exact .same _
  | login _ _ _ hnew _ => exact .opened _ rfl hnew
  | refresh hfound hlive _ hnew _ => exact .rotated hfound hlive.unrevoked hnew
  | logout hfound => exact .revoked hfound
  | logoutUnknown => exact .same _
  | accept _ _ _ _ _ hnew _ => exact .opened _ rfl hnew
  | invite => exact .same _
  | reissue => exact .same _
  | disable => exact .same _

/-! ## Rows that stay

No request deletes a row of `refresh_tokens` or takes a mark back; that a token has been spent can therefore be
read off any later state. -/

/-- The rows of `db` are all there in `t`, up to a `revoked_at` that is set. -/
def Grows (db : Db) (t : Table Uuid RefreshToken) : Prop :=
  ∀ id row, db.refreshTokens.lookup id = some row → ∃ row', t.lookup id = some row' ∧
    row'.tokenHash = row.tokenHash ∧ row'.familyId = row.familyId ∧
    (row.revokedAt ≠ none → row'.revokedAt ≠ none)

theorem grows_insert {d : Draws} {userId familyId : Uuid} (h : Grows db t)
    (hnew : t.lookup d.rowId = none) :
    Grows db (AList.insert d.rowId (issuedRow env d userId familyId) t) := by
  intro id row hl
  obtain ⟨row', hl', hrest⟩ := h id row hl
  have hne : id ≠ d.rowId := by
    intro he
    rw [he, hnew] at hl'
    cases hl'
  exact ⟨row', by rw [Table.lookup_insert, if_neg hne, hl'], hrest⟩

theorem grows_rowRevoked {now : Int} : Grows db (rowRevoked db id now).refreshTokens := by
  intro id' row hl
  rw [rowRevoked, Table.lookup_modify, hl]
  split
  · exact ⟨_, rfl, rfl, rfl, fun _ => Option.some_ne_none now⟩
  · exact ⟨row, rfl, rfl, rfl, fun h => h⟩

theorem grows_familyRevoked {now : Int} : Grows db (familyRevoked db f now).refreshTokens := by
  intro id' row hl
  rw [familyRevoked, Table.lookup_mapRows, hl]
  refine ⟨_, rfl, ?_⟩
  dsimp only
  split
  · exact ⟨rfl, rfl, fun _ => Option.some_ne_none now⟩
  · exact ⟨rfl, rfl, fun h => h⟩

/-- No request deletes a row or takes a mark back. -/
theorem grows_step (env : Crypto) (db : Db) (r : AccountRequest) :
    Grows db (accountStep env db r).refreshTokens := by
  have h := tokenEffect_of_step env db r
  generalize (accountStep env db r).refreshTokens = t at h ⊢
  have hself : Grows db db.refreshTokens := fun _ row hl => ⟨row, hl, rfl, rfl, fun h => h⟩
  cases h with
  | same => exact hself
  | opened _ _ hnew => exact grows_insert hself hnew
  | rotated _ _ hnew => exact grows_insert grows_rowRevoked hnew
  | revoked => exact grows_familyRevoked

/-! ## One live row, one user

A rotation marks the row that it has found and inserts the next one, in the same transaction. So the number of
unrevoked rows of a family never exceeds one, whoever comes second. -/

/-- Each family has one unrevoked row at most, and one user. -/
structure Linear (t : Table Uuid RefreshToken) : Prop where
  one_live : ∀ id row id' row', t.lookup id = some row → t.lookup id' = some row' →
    row.familyId = row'.familyId → row.revokedAt = none → row'.revokedAt = none → id = id'
  one_user : ∀ id row id' row', t.lookup id = some row → t.lookup id' = some row' →
    row.familyId = row'.familyId → row.userId = row'.userId

/-- Marking rows keeps a table linear. -/
theorem Linear.of_sameRows {db' : Db} (h : Linear db.refreshTokens) (hs : SameRows db db') :
    Linear db'.refreshTokens := by
  constructor
  · intro id₁ row₁ id₂ row₂ h₁ h₂ hfam hr₁ hr₂
    obtain ⟨old₁, hl₁, -, hf₁, -, -, hu₁⟩ := hs id₁ row₁ h₁
    obtain ⟨old₂, hl₂, -, hf₂, -, -, hu₂⟩ := hs id₂ row₂ h₂
    exact h.one_live id₁ old₁ id₂ old₂ hl₁ hl₂ (by rw [← hf₁, ← hf₂, hfam]) (hu₁ hr₁) (hu₂ hr₂)
  · intro id₁ row₁ id₂ row₂ h₁ h₂ hfam
    obtain ⟨old₁, hl₁, -, hf₁, hu₁, -⟩ := hs id₁ row₁ h₁
    obtain ⟨old₂, hl₂, -, hf₂, hu₂, -⟩ := hs id₂ row₂ h₂
    rw [hu₁, hu₂]
    exact h.one_user id₁ old₁ id₂ old₂ hl₁ hl₂ (by rw [← hf₁, ← hf₂, hfam])

/-- A new row keeps a table linear if its family has no unrevoked row and no other user. -/
theorem Linear.insert {row : RefreshToken} (h : Linear t)
    (hrevoked : ∀ id' row', t.lookup id' = some row' → row'.familyId = row.familyId →
      row'.revokedAt ≠ none)
    (huser : ∀ id' row', t.lookup id' = some row' → row'.familyId = row.familyId →
      row'.userId = row.userId) :
    Linear (AList.insert id row t) := by
  constructor
  · intro id₁ row₁ id₂ row₂ h₁ h₂ hfam hr₁ hr₂
    rw [Table.lookup_insert] at h₁ h₂
    split at h₁ <;> split at h₂
    next he₁ he₂ => rw [he₁, he₂]
    next =>
      cases h₁
      exact absurd hr₂ (hrevoked id₂ row₂ h₂ hfam.symm)
    next =>
      cases h₂
      exact absurd hr₁ (hrevoked id₁ row₁ h₁ hfam)
    next => exact h.one_live id₁ row₁ id₂ row₂ h₁ h₂ hfam hr₁ hr₂
  · intro id₁ row₁ id₂ row₂ h₁ h₂ hfam
    rw [Table.lookup_insert] at h₁ h₂
    split at h₁ <;> split at h₂
    next =>
      cases h₁
      cases h₂
      rfl
    next =>
      cases h₁
      exact (huser id₂ row₂ h₂ hfam.symm).symm
    next =>
      cases h₂
      exact huser id₁ row₁ h₁ hfam
    next => exact h.one_user id₁ row₁ id₂ row₂ h₁ h₂ hfam

/-- **Step lemma**: each request keeps the table linear. -/
theorem Linear.step (h : Linear db.refreshTokens) (hfresh : NewFamily db r) :
    Linear (accountStep env db r).refreshTokens := by
  have he := tokenEffect_of_step env db r
  generalize (accountStep env db r).refreshTokens = t at he
  cases he with
  | same => exact h
  | opened userId hopens hnew =>
    -- the family is new, so it has no other row
    apply h.insert
    · intro id' row' hl hfam
      exact absurd hfam (hfresh _ hopens id' row' hl)
    · intro id' row' hl hfam
      exact absurd hfam (hfresh _ hopens id' row' hl)
  | @rotated raw d id row hfound hunrevoked hnew =>
    have hs : SameRows db (rowRevoked db id d.revokedAt) := sameRows_rowRevoked
    apply (h.of_sameRows hs).insert
    · intro id' row' hl hfam hnone
      -- the row that was unrevoked is the one that has been found
      obtain ⟨old, hold, -, hf, -, -, hu⟩ := hs id' row' hl
      have hid : id' = id :=
        h.one_live id' old id row hold hfound.lookup (by rw [← hf, hfam]; rfl) (hu hnone) hunrevoked
      subst hid
      rw [rowRevoked, Table.lookup_modify_self, hfound.lookup, Option.map_some] at hl
      cases hl
      cases hnone
    · intro id' row' hl hfam
      obtain ⟨old, hold, -, hf, huser, -⟩ := hs id' row' hl
      rw [huser]
      exact h.one_user id' old id row hold hfound.lookup (by rw [← hf, hfam]; rfl)
  | revoked => exact h.of_sameRows sameRows_familyRevoked

/-! ## Families that are over

A family ends when all its rows are marked, by a logout or by a rotation that was not followed by another
row. Only a rotation inserts into an old family, and it needs a row that is not marked. -/

/-- The family has rows, and all of them are revoked. -/
structure Retired (t : Table Uuid RefreshToken) (f : Uuid) : Prop where
  inhabited : ∃ id row, t.lookup id = some row ∧ row.familyId = f
  all_revoked : ∀ id row, t.lookup id = some row → row.familyId = f → row.revokedAt ≠ none

theorem Retired.of_sameRows {db' : Db} (h : Retired db.refreshTokens f) (hs : SameRows db db') :
    ∀ id row, db'.refreshTokens.lookup id = some row → row.familyId = f → row.revokedAt ≠ none := by
  intro id row hl hfam hnone
  obtain ⟨old, hold, -, hf, -, -, hu⟩ := hs id row hl
  exact h.all_revoked id old hold (by rw [← hf, hfam]) (hu hnone)

/-- **Step lemma**: no request adds an unrevoked row to a retired family. -/
theorem Retired.step (h : Retired db.refreshTokens f) (hfresh : NewFamily db r) :
    Retired (accountStep env db r).refreshTokens f := by
  obtain ⟨id₀, row₀, hl₀, hfam₀⟩ := h.inhabited
  constructor
  · obtain ⟨row', hl', -, hfam', -⟩ := grows_step env db r id₀ row₀ hl₀
    exact ⟨id₀, row', hl', hfam'.trans hfam₀⟩
  · have he := tokenEffect_of_step env db r
    generalize (accountStep env db r).refreshTokens = t at he ⊢
    cases he with
    | same => exact h.all_revoked
    | opened userId hopens hnew =>
      intro id row hl hfam
      rw [Table.lookup_insert] at hl
      split at hl
      · cases hl
        exact absurd (hfam₀.trans hfam.symm) (hfresh _ hopens id₀ row₀ hl₀)
      · exact h.all_revoked id row hl hfam
    | rotated hfound hunrevoked hnew =>
      intro id row hl hfam
      rw [Table.lookup_insert] at hl
      split at hl
      · cases hl
        exact absurd hunrevoked (h.all_revoked _ _ hfound.lookup hfam)
      · exact h.of_sameRows sameRows_rowRevoked id row hl hfam
    | revoked => exact h.of_sameRows sameRows_familyRevoked

/-! ## Tokens that are spent

A refresh that is accepted leaves the row of its token marked, and a token whose row is marked is refused. -/

/-- `refresh` accepts the raw token. -/
def AcceptsRefresh (env : Crypto) (raw : String) (db : Db) (r : AccountRequest) : Prop :=
  ∃ d response, r = .auth (.refresh raw d) ∧ (accountHandle env db r).1 = .ok response

/-- A row of the raw token is revoked. -/
def Spent (env : Crypto) (raw : String) (db : Db) : Prop :=
  ∃ id row, db.refreshTokens.lookup id = some row ∧ row.tokenHash = env.sha256Hash raw ∧
    row.revokedAt ≠ none

theorem Spent.step (h : Spent env raw db) (r : AccountRequest) :
    Spent env raw (accountStep env db r) := by
  obtain ⟨id, row, hl, hhash, hrev⟩ := h
  obtain ⟨row', hl', hhash', -, hrev'⟩ := grows_step env db r id row hl
  exact ⟨id, row', hl', hhash'.trans hhash, hrev' hrev⟩

/-- An accepted refresh has found an unrevoked row, which it leaves revoked. -/
theorem AcceptsRefresh.found (h : AcceptsRefresh env raw db r) :
    ∃ id row, Found env db raw id row ∧ row.revokedAt = none ∧ Spent env raw (accountStep env db r) := by
  obtain ⟨d, response, rfl, hok⟩ := h
  have he := effect_of_step env db (.auth (.refresh raw d))
  rw [hok] at he
  generalize accountStep env db (.auth (.refresh raw d)) = db' at he ⊢
  cases he with
  | @refresh _ _ id row _ hfound hlive hunused hnew hpair =>
    refine ⟨id, row, hfound, hlive.unrevoked, id, { row with revokedAt := some d.revokedAt }, ?_,
      hfound.hash, Option.some_ne_none _⟩
    have hl : (rowRevoked db id d.revokedAt).refreshTokens.lookup id =
        some { row with revokedAt := some d.revokedAt } := by
      rw [rowRevoked, Table.lookup_modify_self, hfound.lookup, Option.map_some]
    have hne : id ≠ d.rowId := by
      intro heq
      rw [← heq, hl] at hnew
      cases hnew
    rw [rowIssued, Table.lookup_insert, if_neg hne, hl]

/-- A spent token is refused. -/
theorem Spent.refused (h : Spent env raw db) : ¬ AcceptsRefresh env raw db r := by
  intro haccepts
  obtain ⟨id, row, hl, hhash, hrev⟩ := h
  obtain ⟨id', row', hfound, hnone, -⟩ := haccepts.found
  have hmem : (id, row) ∈ db.refreshTokens.select fun _ row => row.tokenHash = env.sha256Hash raw :=
    Table.mem_select.mpr ⟨hl, by simpa using hhash⟩
  rw [hfound, List.mem_singleton] at hmem
  cases hmem
  exact hrev hnone

/-! ## Runs -/

/-- **Families rotate linearly**: in every run from a database without refresh tokens, each family has
    one unrevoked row at most and rows of one user, each raw token is accepted once at most, and a
    family whose rows are all revoked stays so. -/
theorem families_rotate_linearly {db₀ : Db} (h0 : db₀.refreshTokens = ∅) {rs : List AccountRequest}
    (hfresh : Run.AllSteps (accountStep env) NewFamily db₀ rs) :
    Linear (Run.run (accountStep env) db₀ rs).refreshTokens ∧
      (∀ raw, Run.AtMostOnce (accountStep env) (AcceptsRefresh env raw) db₀ rs) ∧
      ∀ f pre post, rs = pre ++ post →
        Retired (Run.run (accountStep env) db₀ pre).refreshTokens f →
        Retired (Run.run (accountStep env) db₀ rs).refreshTokens f := by
  refine ⟨?_, ?_, ?_⟩
  · refine Run.inv_of_preserved (I := fun db => Linear db.refreshTokens)
      (fun _ _ h hfresh => h.step hfresh) ?_ hfresh
    rw [h0]
    constructor
    · intro _ _ _ _ hl
      cases hl
    · intro _ _ _ _ hl
      cases hl
  · intro raw
    apply Run.atMostOnce_of (J := Spent env raw) (G := NewFamily) _ _ _ hfresh
    · intro db r haccepts _
      obtain ⟨_, _, _, _, hspent⟩ := haccepts.found
      exact hspent
    · exact fun db r hspent _ => hspent.step r
    · exact fun db r hspent => hspent.refused
  · rintro f pre post rfl hretired
    exact Run.inv_from (J := fun db => Retired db.refreshTokens f)
      (fun _ _ h hfresh => h.step hfresh) hfresh hretired

open Survivor in
/-- A login, and the rotation of its token. -/
theorem families_rotate_linearly_login :
    Linear (Run.run (accountStep crypto) start (requests.map .auth)).refreshTokens ∧
      (∀ raw, Run.AtMostOnce (accountStep crypto) (AcceptsRefresh crypto raw) start
        (requests.map .auth)) ∧
      ∀ f pre post, requests.map .auth = pre ++ post →
        Retired (Run.run (accountStep crypto) start pre).refreshTokens f →
        Retired (Run.run (accountStep crypto) start (requests.map .auth)).refreshTokens f :=
  families_rotate_linearly (show start.refreshTokens = ∅ from rfl)
    ⟨fun _ _ _ _ hl => (by cases hl), fun _ hd => (by cases hd), trivial⟩

end Helpdesk.Auth
