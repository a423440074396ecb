import Mathlib.Algebra.Order.Group.Int
import Mathlib.Algebra.Order.Ring.Abs
import Helpdesk.Core.Basic
import Helpdesk.Core.Schema
import Helpdesk.Core.Text
import Helpdesk.Library.Expiring
import Helpdesk.Library.Run
import Helpdesk.Library.Weakest

/-! # Webhook tokens

`MailgunProvider.verify`: the signature, the clock window around the signed timestamp, and the cache of
tokens that have been seen. A token is cached for ten minutes from its first use, and its timestamp is
acceptable on both sides of the clock, so for twice the maximal age. **Key result**:
`singleUse_iff`, which maximal ages are short enough. -/

namespace Helpdesk.Email.Verify

structure Env where
  /-- `hmac.new(key.encode(), message.encode(), hashlib.sha256).digest()` -/
  hmacSha256 : String → String → Digest

structure Settings where
  mailgunSigningKey : Option String
  emailWebhookMaxAgeSeconds : Int

/-- One call of `verify`: its instant, and the fields of the form that it reads. -/
structure Delivery where
  receivedAt : Int
  timestamp : Option String
  token : Option String
  signature : Option String
  deriving DecidableEq

inductive Raised where
  | invalidWebhookSignatureError (message : String)
  /-- `hmac.compare_digest` of a text that is not ASCII -/
  | typeError
  deriving DecidableEq

/-- The keys in Redis. -/
abbrev Cache := Expiring.Store String

/-- `_REPLAY_CACHE_TTL_SECONDS` -/
def replayCacheTtlSeconds : Int := 600

/-- `digest.hex()` -/
def hexdigest (digest : Digest) : String := String.ofList (hexDigits 64 digest.toNat)

/-- `verify_mailgun_signature`. -/
def verifyMailgunSignature (env : Env) (timestamp token signature signingKey : String) :
    Tx Cache Raised Unit :=
  if ¬ signature.toList.all (fun c => c.toNat < 128) then Tx.raise .typeError
  else if hexdigest (env.hmacSha256 signingKey (timestamp ++ token)) ≠ signature then
    Tx.raise (.invalidWebhookSignatureError "Mailgun webhook signature does not match")
  else pure ()

/-- A form field that is there and not empty. -/
def field (value : Option String) : Option String := value.filter (· ≠ "")

/-- `MailgunProvider.verify`. -/
def verify (env : Env) (settings : Settings) (form : Delivery) : Tx Cache Raised Unit := do
  let signingKey ← Tx.orRaise settings.mailgunSigningKey
    (.invalidWebhookSignatureError "mailgun_signing_key is not configured")
  match field form.timestamp, field form.token, field form.signature with
  | some timestamp, some token, some signature =>
    verifyMailgunSignature env timestamp token signature signingKey
    let timestampValue ← Tx.orRaise (Text.parseInt timestamp)
      (.invalidWebhookSignatureError "malformed Mailgun timestamp")
    let now := unixTimestamp form.receivedAt
    if |now - timestampValue| > settings.emailWebhookMaxAgeSeconds then
      Tx.raise
        (.invalidWebhookSignatureError "Mailgun webhook timestamp outside the freshness window")
    else
      let cache ← Tx.store
      let (wasFirstSeen, cache) := Expiring.setNx (replayCacheTtlSeconds * 1000000) form.receivedAt
        ("webhook:mg:" ++ token) cache
      Tx.write cache
      if wasFirstSeen then pure ()
      else Tx.raise (.invalidWebhookSignatureError "Mailgun webhook token replay detected")
  | _, _, _ => Tx.raise (.invalidWebhookSignatureError "missing Mailgun signature fields")

/-- The cache after one call. Redis rolls nothing back. -/
def step (env : Env) (settings : Settings) (cache : Cache) (form : Delivery) : Cache :=
  (Tx.exec (verify env settings form) cache).2

/-! ## Single use

A call that accepts a token has set its key, so a later one finds it for as long as it lives. Both calls have
the token's timestamp in their window, which bounds the time between them. -/

variable {env : Env} {settings : Settings} {cache : Cache} {form : Delivery} {key : String}

/-- The form carries a valid signature. -/
def Delivery.Signed (env : Env) (settings : Settings) (form : Delivery) : Prop :=
  ∃ key timestamp token, settings.mailgunSigningKey = some key ∧ form.timestamp = some timestamp ∧
    form.token = some token ∧
    form.signature = some (hexdigest (env.hmacSha256 key (timestamp ++ token)))

/-- `verify` accepts the token. -/
def Accepts (env : Env) (settings : Settings) (token : String) (cache : Cache) (form : Delivery) :
    Prop :=
  form.token = some token ∧ ∃ cache', Tx.exec (verify env settings form) cache = (.ok (), cache')

/-- Among the signed forms, each token goes with one timestamp. -/
def OneTimestamp (env : Env) (settings : Settings) (forms : List Delivery) : Prop :=
  ∀ form ∈ forms, ∀ form' ∈ forms, form.Signed env settings → form'.Signed env settings →
    form.token = form'.token → form.timestamp = form'.timestamp

/-- In every run of calls in the order of time, each token is accepted once at most. -/
def SingleUse (env : Env) (settings : Settings) : Prop :=
  ∀ forms : List Delivery, forms.Pairwise (fun form form' => form.receivedAt ≤ form'.receivedAt) →
    OneTimestamp env settings forms →
    ∀ token, Run.AtMostOnce (step env settings) (Accepts env settings token) ∅ forms

/-- The key that a token is cached under. -/
def replayKey (token : String) : String := "webhook:mg:" ++ token

/-- The instant up to which a token is cached that is set now. -/
def cachedUntil (form : Delivery) : Int := form.receivedAt + replayCacheTtlSeconds * 1000000

/-- What a call does: it leaves the cache alone, or it sets a key. A call that returns has found a
    valid signature and a timestamp within the window, and has set the token's key. -/
structure Verified (env : Env) (settings : Settings) (cache : Cache) (form : Delivery)
    (token : String) : Prop where
  signed : form.Signed env settings
  in_window : ∃ timestamp value, form.timestamp = some timestamp ∧
    Text.parseInt timestamp = some value ∧
    |unixTimestamp form.receivedAt - value| ≤ settings.emailWebhookMaxAgeSeconds
  first_seen : (Expiring.setNx (replayCacheTtlSeconds * 1000000) form.receivedAt (replayKey token)
    cache).1 = true

theorem wp_verify :
    Tx.wp (verify env settings form)
      (fun _ cache' => ∃ token, form.token = some token ∧ Verified env settings cache form token ∧
        cache' = (Expiring.setNx (replayCacheTtlSeconds * 1000000) form.receivedAt
          (replayKey token) cache).2)
      (fun _ => True) cache := by
  rw [verify, Tx.wp_bind, Tx.wp_orRaise]
  refine ⟨?_, fun _ => trivial⟩
  intro key hkey
  split
  -- all three fields are there
  next timestamp token signature htimestamp htoken hsignature =>
    have htimestamp := (Option.filter_eq_some_iff.mp htimestamp).1
    have htoken := (Option.filter_eq_some_iff.mp htoken).1
    have hsignature := (Option.filter_eq_some_iff.mp hsignature).1
    simp only [verifyMailgunSignature, Tx.wp_bind, Tx.wp_ite, Tx.wp_raise, Tx.wp_pure, Tx.wp_orRaise,
      Tx.wp_store, Tx.wp_write, implies_true, true_and, and_true, not_not, not_lt, gt_iff_lt]
    intro _ hhex value hvalue hwindow hfirst
    refine ⟨token, htoken, ⟨?_, ⟨timestamp, value, htimestamp, hvalue, hwindow⟩, hfirst⟩, rfl⟩
    exact ⟨key, timestamp, token, hkey, htimestamp, htoken, by rw [hhex, hsignature]⟩
  next => simp

/-- An accepted token has passed every check, and its key is set. -/
theorem Accepts.verified {token : String} (h : Accepts env settings token cache form) :
    Verified env settings cache form token ∧
      Expiring.KeptUntil (step env settings cache form) (replayKey token) (cachedUntil form) := by
  obtain ⟨htoken, cache', hexec⟩ := h
  obtain ⟨token', htoken', hverified, hcache⟩ := (Tx.wp_of_ok hexec).mp wp_verify
  rw [htoken] at htoken'
  cases htoken'
  refine ⟨hverified, ?_⟩
  rw [step, hexec, hcache]
  exact Expiring.keptUntil_setNx hverified.first_seen

/-- Checking a signature returns or raises, and touches nothing. -/
theorem exec_verifyMailgunSignature (env : Env) (timestamp token signature signingKey : String)
    (cache : Cache) :
    ∃ out, Tx.exec (verifyMailgunSignature env timestamp token signature signingKey) cache =
      (out, cache) := by
  unfold verifyMailgunSignature
  split
  · exact ⟨_, rfl⟩
  split
  · exact ⟨_, rfl⟩
  · exact ⟨_, rfl⟩

/-- **Step lemma**: a call leaves the cache alone or sets one key. -/
theorem step_cases (env : Env) (settings : Settings) (cache : Cache) (form : Delivery) :
    step env settings cache form = cache ∨
      ∃ token, step env settings cache form =
        (Expiring.setNx (replayCacheTtlSeconds * 1000000) form.receivedAt (replayKey token) cache).2 := by
  unfold step verify
  rw [Tx.exec_bind]
  cases settings.mailgunSigningKey with
  | none => exact .inl rfl
  | some key =>
    rw [Tx.exec_orRaise_some]
    dsimp only
    split
    next timestamp token signature _ _ _ =>
      obtain ⟨out, hsignature⟩ :=
        exec_verifyMailgunSignature env timestamp token signature key cache
      rw [Tx.exec_bind, hsignature]
      cases out with
      | error e => exact .inl rfl
      | ok _ =>
        dsimp only
        rw [Tx.exec_bind]
        cases Text.parseInt timestamp with
        | none => exact .inl rfl
        | some value =>
          rw [Tx.exec_orRaise_some]
          dsimp only
          split
          · exact .inl rfl
          · right
            refine ⟨token, ?_⟩
            simp only [Tx.exec_bind, Tx.exec_store, Tx.exec_write, Tx.exec_ite, replayKey]
            split <;> rfl
    next => exact .inl rfl

/-- A cached token stays cached over later calls. -/
theorem keptUntil_step {k : String} {t : Int} (h : Expiring.KeptUntil cache k t)
    (hlater : t ≤ cachedUntil form) : Expiring.KeptUntil (step env settings cache form) k t := by
  rcases step_cases env settings cache form with hsame | ⟨token, hset⟩
  · rw [hsame]
    exact h
  · rw [hset]
    exact h.setNx hlater

/-- **The window**: a timestamp that is acceptable at two instants has them less than the lifetime of a
    key apart, if the maximal age is less than half of it. -/
theorem lt_cachedUntil {t t' value maxAge : Int} (hage : maxAge < 300)
    (h : |unixTimestamp t - value| ≤ maxAge) (h' : |unixTimestamp t' - value| ≤ maxAge) :
    t' < t + replayCacheTtlSeconds * 1000000 := by
  rw [abs_le] at h h'
  unfold unixTimestamp days at h h'
  unfold replayCacheTtlSeconds
  omega

/-- With a maximal age below five minutes, no token is accepted twice. -/
theorem singleUse_of_lt (hage : settings.emailWebhookMaxAgeSeconds < 300) : SingleUse env settings := by
  rintro forms hsorted hone token pre form mid form' post rfl haccepts haccepts'
  obtain ⟨hverified, hkept⟩ := haccepts.verified
  obtain ⟨hverified', -⟩ := haccepts'.verified
  -- the calls in between come after the first one
  have hafter : ∀ later ∈ mid, form.receivedAt ≤ later.receivedAt := by
    intro later hmem
    have hsorted := (List.pairwise_append.mp hsorted).2.1
    exact List.rel_of_pairwise_cons hsorted (List.mem_append_left _ hmem)
  have hsteps : Run.AllSteps (step env settings)
      (fun _ later => form.receivedAt ≤ later.receivedAt)
      (step env settings (Run.run (step env settings) ∅ pre) form) mid := by
    rw [Run.allSteps_iff]
    rintro before later after rfl
    exact hafter later (by simp)
  have hheld : Expiring.KeptUntil
      (Run.run (step env settings) ∅ (pre ++ form :: mid)) (replayKey token) (cachedUntil form) := by
    rw [Run.run_append, Run.run_cons]
    refine Run.inv_of_preserved
      (I := fun cache => Expiring.KeptUntil cache (replayKey token) (cachedUntil form))
      (fun _ later h hlater => keptUntil_step h ?_) hkept hsteps
    unfold cachedUntil
    omega
  -- both have the same timestamp, since both are signed
  have hmem : form ∈ pre ++ form :: (mid ++ form' :: post) := by simp
  have hmem' : form' ∈ pre ++ form :: (mid ++ form' :: post) := by simp
  obtain ⟨timestamp, value, htimestamp, hvalue, hwindow⟩ := hverified.in_window
  obtain ⟨timestamp', value', htimestamp', hvalue', hwindow'⟩ := hverified'.in_window
  have hsame : form.timestamp = form'.timestamp :=
    hone form hmem form' hmem' hverified.signed hverified'.signed
      (haccepts.1.trans haccepts'.1.symm)
  rw [htimestamp, htimestamp'] at hsame
  cases hsame
  rw [hvalue] at hvalue'
  cases hvalue'
  have hnow : form'.receivedAt ≤ cachedUntil form :=
    (lt_cachedUntil hage hwindow hwindow').le
  have hfirst := hverified'.first_seen
  rw [Expiring.not_setNx_of_keptUntil hheld hnow] at hfirst
  cases hfirst

/-! ## Used twice

The two calls are at the edges of the window: five minutes before the timestamp, and half a second more than
five minutes after it, which in whole seconds is five minutes. -/

/-- A digest in hexadecimal is ASCII text, and not empty. -/
theorem hexdigest_ascii (digest : Digest) :
    ((hexdigest digest).toList.all fun c => c.toNat < 128) = true := by
  have hdigit : ∀ n < 16, (Nat.digitChar n).toNat < 128 := by decide
  unfold hexdigest hexDigits
  rw [String.toList_ofList, List.all_reverse, List.all_map, List.all_eq_true]
  intro i _
  exact decide_eq_true (hdigit _ (Nat.mod_lt _ (by decide)))

theorem hexdigest_ne_empty (digest : Digest) : hexdigest digest ≠ "" := by
  intro h
  have hlength := congrArg (fun s : String => s.toList.length) h
  simp [hexdigest, hexDigits] at hlength

/-- A signed form. -/
def signedForm (env : Env) (key timestamp token : String) (receivedAt : Int) : Delivery where
  receivedAt := receivedAt
  timestamp := some timestamp
  token := some token
  signature := some (hexdigest (env.hmacSha256 key (timestamp ++ token)))

/-- A signed form within the window is accepted, if its key is not in the cache. -/
theorem accepts_signedForm {timestamp token : String} {receivedAt value : Int}
    (hkey : settings.mailgunSigningKey = some key) (htimestamp : timestamp ≠ "") (htoken : token ≠ "")
    (hvalue : Text.parseInt timestamp = some value)
    (hwindow : |unixTimestamp receivedAt - value| ≤ settings.emailWebhookMaxAgeSeconds)
    (hfree : ¬ Expiring.Held cache receivedAt (replayKey token)) :
    Accepts env settings token cache (signedForm env key timestamp token receivedAt) := by
  refine ⟨rfl, AList.insert (replayKey token) (receivedAt + replayCacheTtlSeconds * 1000000) cache, ?_⟩
  have hfirst : Expiring.setNx (replayCacheTtlSeconds * 1000000) receivedAt
      ("webhook:mg:" ++ token) cache = (true, _) := if_neg hfree
  have hsignature := hexdigest_ne_empty (env.hmacSha256 key (timestamp ++ token))
  have hascii := hexdigest_ascii (env.hmacSha256 key (timestamp ++ token))
  simp only [verify, signedForm, field, Option.filter_some, htimestamp, htoken, hsignature, hkey, ne_eq,
    not_false_eq_true, decide_true, if_true, Tx.exec_bind, Tx.exec_orRaise_some,
    verifyMailgunSignature, hascii, not_true_eq_false, if_false, Tx.exec_pure, hvalue,
    not_lt.mpr hwindow, gt_iff_lt, Tx.exec_store, Tx.exec_write, hfirst]
  rfl

namespace Replay

def timestamp : String := "1700000000"

def token : String := "a8ce0edb2dd8301dee6c2405235584e45aa91d1e9f979f3de0"

/-- The instant of a Unix time, in milliseconds. -/
def unixTime (milliseconds : Int) : Int := days 719162 + milliseconds * 1000

/-- Five minutes before the timestamp. -/
def early : Int := unixTime 1699999700000

/-- Five minutes and half a second after it. -/
def late : Int := unixTime 1700000300500

end Replay

open Replay in
/-- With a maximal age of five minutes or more, a token can be used twice: the second time when the key
    of the first one has just expired. -/
theorem not_singleUse_of_le (hkey : settings.mailgunSigningKey = some key)
    (hage : 300 ≤ settings.emailWebhookMaxAgeSeconds) : ¬ SingleUse env settings := by
  intro hsingle
  let first := signedForm env key timestamp token early
  let second := signedForm env key timestamp token late
  have hvalue : Text.parseInt timestamp = some 1700000000 := by decide +kernel
  have hwindow : |unixTimestamp early - 1700000000| ≤ 300 := by decide +kernel
  have hwindow' : |unixTimestamp late - 1700000000| ≤ 300 := by decide +kernel
  have haccepts : Accepts env settings token ∅ first :=
    accepts_signedForm hkey (by decide) (by decide) hvalue (hwindow.trans hage) (by simp [Expiring.Held])
  have hcache : step env settings ∅ first =
      AList.insert (replayKey token) (cachedUntil first) ∅ := by
    obtain ⟨-, cache', hexec⟩ := haccepts
    obtain ⟨token', htoken', -, hcache⟩ := (Tx.wp_of_ok hexec).mp wp_verify
    cases htoken'
    rw [step, hexec]
    exact hcache
  -- the key has expired just before the second call
  have haccepts' : Accepts env settings token (step env settings ∅ first) second := by
    refine accepts_signedForm hkey (by decide) (by decide) hvalue (hwindow'.trans hage) ?_
    rw [hcache]
    rintro ⟨expiresAt, hl, hheld⟩
    rw [AList.lookup_insert] at hl
    cases hl
    revert hheld
    show ¬ late ≤ cachedUntil (signedForm env key timestamp token early)
    show ¬ late ≤ early + replayCacheTtlSeconds * 1000000
    decide +kernel
  have hsorted : [first, second].Pairwise fun form form' => form.receivedAt ≤ form'.receivedAt := by
    rw [List.pairwise_pair]
    show early ≤ late
    decide +kernel
  have hone : OneTimestamp env settings [first, second] := by
    intro form hform form' hform' _ _ _
    have htimestamp : ∀ form ∈ [first, second], form.timestamp = some timestamp := by
      simp [first, second, signedForm]
    rw [htimestamp form hform, htimestamp form' hform']
  exact hsingle [first, second] hsorted hone token [] first [] second [] rfl haccepts haccepts'

/-- **When tokens are single-use**: exactly for maximal ages below five minutes, or if no signing key
    is configured and nothing is accepted. -/
theorem singleUse_iff (env : Env) (settings : Settings) :
    SingleUse env settings ↔
      settings.mailgunSigningKey = none ∨ settings.emailWebhookMaxAgeSeconds < 300 := by
  constructor
  · intro hsingle
    cases hkey : settings.mailgunSigningKey with
    | none => exact .inl rfl
    | some key =>
      right
      by_contra hage
      exact not_singleUse_of_le hkey (not_lt.mp hage) hsingle
  · rintro (hkey | hage)
    · intro forms _ _ token pre form mid form' post _ haccepts
      obtain ⟨key, _, _, hsome, -⟩ := haccepts.verified.1.signed
      rw [hkey] at hsome
      cases hsome
    · exact singleUse_of_lt hage

namespace Replay

/-- HMAC-SHA256 on the input of this run. -/
def mailgun : Env where
  hmacSha256 key message :=
    if key = "mailgun-signing-key" ∧ message = timestamp ++ token then
      0x7a55c57fd31861af38a6a9afd2f78d68855211784fdf86e174bd75524c4397fc
    else 0

/-- The default maximal age. -/
def defaults : Settings := ⟨some "mailgun-signing-key", 300⟩

end Replay

/-- **Counterexample**: with the default settings a token is accepted at both edges of its window. -/
theorem not_singleUse_default : ¬ SingleUse Replay.mailgun Replay.defaults :=
  not_singleUse_of_le (show Replay.defaults.mailgunSigningKey = some _ from rfl) (le_refl _)

end Helpdesk.Email.Verify
