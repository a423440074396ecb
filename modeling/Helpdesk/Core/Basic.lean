import Mathlib.Algebra.Group.Nat.Defs
import Mathlib.Data.Rat.Defs
import Helpdesk.Core.Text

/-! # Identifiers, time and the database enums

The scalar types every table shares.

* A UUID is opaque to the program except for equality, so it is a number here; `uuid4()` is an input of the
  operation that draws one. What a text is to `UUID()` and what it is to a `uuid` column are two functions,
  `parseUuid` and `bindUuid`, since the two accept different texts.
* An `Int` is an aware `datetime`, counted in microseconds since `0001-01-01T00:00:00Z`.
* The Postgres enums are inductive types. Where the program shows or logs a value, `value` is its text. -/

namespace Helpdesk

/-- A UUID primary key. -/
abbrev Uuid := Nat

/-- `timedelta(days=n)`. -/
def days (n : Int) : Int := n * 86400 * 1000000

/-- `int(t.timestamp())` for `t` after 1970: whole seconds since the Unix epoch. -/
def unixTimestamp (t : Int) : Int := (t - days 719162) / 1000000

/-- Postgres enum `user_role`. -/
inductive UserRole where
  | tenant
  | owner
  | agent
  | admin
  deriving DecidableEq, Repr

def UserRole.value : UserRole → String
  | .tenant => "tenant"
  | .owner => "owner"
  | .agent => "agent"
  | .admin => "admin"

/-- Postgres enum `user_status`. -/
inductive UserStatus where
  | pending
  | active
  | disabled
  deriving DecidableEq, Repr

/-- Postgres enum `contract_status`. -/
inductive ContractStatus where
  | active
  | expired
  | terminated
  deriving DecidableEq, Repr

/-- Postgres enum `ticket_channel`. -/
inductive TicketChannel where
  | web
  | email
  | whatsapp
  deriving DecidableEq, Repr

def TicketChannel.value : TicketChannel → String
  | .web => "web"
  | .email => "email"
  | .whatsapp => "whatsapp"

/-- Postgres enum `ticket_status`. -/
inductive TicketStatus where
  | open
  | inProgress
  | waitingOnCustomer
  | resolved
  | closed
  | escalated
  deriving DecidableEq, Repr

def TicketStatus.value : TicketStatus → String
  | .open => "open"
  | .inProgress => "in_progress"
  | .waitingOnCustomer => "waiting_on_customer"
  | .resolved => "resolved"
  | .closed => "closed"
  | .escalated => "escalated"

/-- Postgres enum `classification_status`. -/
inductive ClassificationStatus where
  | pending
  | classified
  deriving DecidableEq, Repr

/-- Postgres enum `property_type`. -/
inductive PropertyType where
  | apartment
  | house
  | commercial
  | other
  deriving DecidableEq, Repr

/-- Postgres enum `chat_session_status`. -/
inductive ChatSessionStatus where
  | active
  | escalated
  | closed
  deriving DecidableEq, Repr

/-- Postgres enum `chat_message_role`. -/
inductive ChatMessageRole where
  | user
  | assistant
  | tool
  deriving DecidableEq, Repr

/-- Postgres enum `author_type`. -/
inductive AuthorType where
  | user
  | agent
  | bot
  deriving DecidableEq, Repr

/-- Postgres enum `sla_event_type`. -/
inductive SlaEventType where
  | warning
  | breached
  | resolved
  deriving DecidableEq, Repr

/-- Postgres enum `notification_kind`. -/
inductive NotificationKind where
  | slaWarning
  | slaBreached
  deriving DecidableEq, Repr

/-- The values of `knowledge_base.status` (`KNOWLEDGE_BASE_STATUSES`). -/
inductive KnowledgeBaseStatus where
  | pending
  | processing
  | ready
  | failed
  deriving DecidableEq, Repr

/-- `classifications.model_used`. -/
inductive ModelUsed where
  | sklearnV1
  | llmFallback
  deriving DecidableEq, Repr

/-- A `float`. What is computed with it here needs no rounding. -/
inductive PyFloat where
  | finite (x : ℚ)
  | nan
  | infinity (negative : Bool)
  deriving DecidableEq

/-- `x >= y` -/
def PyFloat.ge (x : PyFloat) (y : ℚ) : Bool :=
  match x with
  | .finite x => y ≤ x
  | .nan => false
  | .infinity negative => !negative

/-! ## UUIDs as text

`str(id)` and the two ways back. `parseUuid_uuidStr` is the only round trip that the results need: an id that
the program has written into a text is read again. -/

/-- The `n` low hexadecimal digits of `id`, most significant first. -/
def hexDigits (n : Nat) (id : Uuid) : List Char :=
  ((List.range n).map fun i => (Nat.digitChar (id / 16 ^ i % 16))).reverse

/-- `str(id)`: 32 hexadecimal digits in groups of 8, 4, 4, 4 and 12. -/
def uuidStr (id : Uuid) : String :=
  let d := hexDigits 32 id
  String.ofList (d.take 8 ++ '-' :: (d.drop 8).take 4 ++ '-' :: (d.drop 12).take 4 ++
    '-' :: (d.drop 16).take 4 ++ '-' :: d.drop 20)

/-- `s.replace(pat, "")`; `skip` characters of a match are still to be dropped. -/
def removeAll (pat : List Char) : (skip : Nat) → List Char → List Char
  | _, [] => []
  | skip + 1, _ :: cs => removeAll pat skip cs
  | 0, c :: cs =>
    if pat.isPrefixOf (c :: cs) then removeAll pat (pat.length - 1) cs
    else c :: removeAll pat 0 cs

/-- `UUID(s)`: a URN prefix, braces and hyphens are dropped, and the 32 characters that are left go to `int`,
    which takes more than hexadecimal digits. -/
def parseUuid (s : String) : Option Uuid :=
  let cs := removeAll "uuid:".toList 0 (removeAll "urn:".toList 0 s.toList)
  let cs := (Text.stripChars (fun c => c == '\x7b' || c == '\x7d') cs).filter (· != '-')
  if cs.length = 32 then Text.parseHex cs else none

/-- The value of a hexadecimal digit. -/
def hexDigit? (c : Char) : Option Nat :=
  if c.isDigit then some (c.toNat - 48)
  else if 'a' ≤ c ∧ c ≤ 'f' then some (c.toNat - 87)
  else if 'A' ≤ c ∧ c ≤ 'F' then some (c.toNat - 55)
  else none

/-- What a string is to a `uuid` column that it is bound to: the driver takes 32 hexadecimal digits with up to four
    hyphens anywhere between them, and nothing else. -/
def bindUuid (s : String) : Option Uuid :=
  let cs := s.toList.filter (· != '-')
  if s.length ≤ 36 ∧ cs.length = 32 then (cs.mapM hexDigit?).map (Text.ofDigits 16) else none

/-- Where the two part: `UUID` reads braces and a base prefix, the driver hyphens at the end of a blank-free text. -/
example : bindUuid "\x7b00000000-0000-0000-0000-000000000032\x7d" = none ∧
    parseUuid "\x7b00000000-0000-0000-0000-000000000032\x7d" = some 50 ∧
    bindUuid "0x_ 0000000000000000000000000032" = none ∧ bindUuid "----00000000000000000000000000000032" = some 50 ∧
    parseUuid "0x000000000000000000000000000032" = some 50 := by
  decide +kernel

theorem removeAll_of_not_mem {c : Char} {pat cs : List Char} (h : c ∉ cs) : removeAll (c :: pat) 0 cs = cs := by
  induction cs with
  | nil => rfl
  | cons d cs ih =>
    rw [List.mem_cons, not_or] at h
    have hne : ((c :: pat).isPrefixOf (d :: cs)) = false := by
      simp [List.isPrefixOf, h.1]
    rw [removeAll, if_neg (by simp [hne]), ih h.2]

/-- A digit of a UUID is one that `UUID` reads, and none of the characters that it drops. -/
def IsUuidDigit (c : Char) : Prop := Text.IsHex c ∧ c ∉ ['u', '\x7b', '\x7d', '-']

instance (c : Char) : Decidable (IsUuidDigit c) := inferInstanceAs (Decidable (_ ∧ _))

theorem mem_hexDigits {n : Nat} {id : Uuid} {c : Char} (h : c ∈ hexDigits n id) : IsUuidDigit c := by
  have hdigit : ∀ k : Fin 16, IsUuidDigit (Nat.digitChar k) := by decide +kernel
  unfold hexDigits at h
  rw [List.mem_reverse, List.mem_map] at h
  obtain ⟨i, -, rfl⟩ := h
  exact hdigit ⟨id / 16 ^ i % 16, Nat.mod_lt _ (by decide)⟩

/-- The hyphens of `uuidStr` are the only characters of it that are no digits. -/
theorem filter_uuidStr (id : Uuid) : (uuidStr id).toList.filter (· != '-') = hexDigits 32 id := by
  have hself : ∀ cs : List Char, (∀ c ∈ cs, c ∈ hexDigits 32 id) → cs.filter (· != '-') = cs := by
    intro cs hcs
    apply List.filter_eq_self.mpr
    intro c hc
    have hnot := (mem_hexDigits (hcs c hc)).2
    simp only [List.mem_cons, List.not_mem_nil, or_false, not_or] at hnot
    simpa using hnot.2.2.2
  have htake : ∀ n, ((hexDigits 32 id).take n).filter (· != '-') = (hexDigits 32 id).take n :=
    fun n => hself _ fun c hc => List.mem_of_mem_take hc
  have hdrop : ∀ n, ((hexDigits 32 id).drop n).filter (· != '-') = (hexDigits 32 id).drop n :=
    fun n => hself _ fun c hc => List.mem_of_mem_drop hc
  have hboth : ∀ n m, (((hexDigits 32 id).drop n).take m).filter (· != '-') = ((hexDigits 32 id).drop n).take m :=
    fun n m => hself _ fun c hc => List.mem_of_mem_drop (List.mem_of_mem_take hc)
  have hjoin : ∀ n, ((hexDigits 32 id).drop n).take 4 ++ (hexDigits 32 id).drop (n + 4) = (hexDigits 32 id).drop n := by
    intro n
    rw [← List.drop_drop, List.take_append_drop]
  simp only [uuidStr, String.toList_ofList, List.filter_append, List.filter_cons, htake, hdrop, hboth]
  simp only [bne_self_eq_false, Bool.false_eq_true, if_false, List.append_assoc]
  rw [hjoin 16, hjoin 12, hjoin 8, List.take_append_drop]

/-- What `str` writes, `UUID` reads. -/
theorem parseUuid_uuidStr (id : Uuid) : parseUuid (uuidStr id) ≠ none := by
  have hlength : (hexDigits 32 id).length = 32 := by simp [hexDigits]
  have hno : ∀ c ∈ (uuidStr id).toList, c ≠ 'u' ∧ c ≠ '\x7b' ∧ c ≠ '\x7d' := by
    intro c hc
    by_cases hyphen : c = '-'
    · subst hyphen
      decide
    · have hmem : c ∈ (uuidStr id).toList.filter (· != '-') := List.mem_filter.mpr ⟨hc, by simpa using hyphen⟩
      rw [filter_uuidStr] at hmem
      have hnot := (mem_hexDigits hmem).2
      simp only [List.mem_cons, List.not_mem_nil, or_false, not_or] at hnot
      exact ⟨hnot.1, hnot.2.1, hnot.2.2.1⟩
  -- neither of the two prefixes can stand where there is no `u`
  have hurn : "urn:".toList = 'u' :: ['r', 'n', ':'] := by decide
  have huuid : "uuid:".toList = 'u' :: ['u', 'i', 'd', ':'] := by decide
  have hu : 'u' ∉ (uuidStr id).toList := fun hmem => (hno _ hmem).1 rfl
  unfold parseUuid
  rw [hurn, huuid, removeAll_of_not_mem hu, removeAll_of_not_mem hu]
  dsimp only
  rw [Text.stripChars_of_forall fun c hc => by simp [(hno c hc).2.1, (hno c hc).2.2], filter_uuidStr, if_pos hlength]
  exact Text.parseHex_ne_none (List.ne_nil_of_length_pos (by omega)) fun c hc => (mem_hexDigits hc).1

/-! ## Datetimes as text

`isoformat` is what `channel_metadata` keeps of an instant, so the calendar is needed as far as to write a
date, from the number of its day. -/

/-- Year, month and day of the `n`th day after `0001-01-01`. -/
def civilDate (n : Int) : Int × Int × Int :=
  -- days and years of a 400-year era, both counted from the first of March
  let z := n + 306
  let doe := z % 146097
  let yoe := (doe - doe / 1460 + doe / 36524 - doe / 146096) / 365
  let doy := doe - (365 * yoe + yoe / 4 - yoe / 100)
  let mp := (5 * doy + 2) / 153
  let month := if mp < 10 then mp + 3 else mp - 9
  let year := yoe + z / 146097 * 400
  (if month ≤ 2 then year + 1 else year, month, doy - (153 * mp + 2) / 5 + 1)

/-- `n` in decimal, with zeros in front up to `width` digits. -/
def zeroPadded (width : Nat) (n : Int) : String :=
  let digits := toString n.toNat
  String.ofList (List.replicate (width - digits.length) '0') ++ digits

/-- `t.isoformat()` of a `datetime` in UTC. -/
def isoformat (t : Int) : String :=
  let (year, month, day) := civilDate (t / days 1)
  let micros := t % days 1
  let seconds := micros / 1000000
  zeroPadded 4 year ++ "-" ++ zeroPadded 2 month ++ "-" ++ zeroPadded 2 day ++ "T" ++
    zeroPadded 2 (seconds / 3600) ++ ":" ++ zeroPadded 2 (seconds / 60 % 60) ++ ":" ++
    zeroPadded 2 (seconds % 60) ++
    (if micros % 1000000 = 0 then "" else "." ++ zeroPadded 6 (micros % 1000000)) ++ "+00:00"

end Helpdesk
