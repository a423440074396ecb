import Mathlib.Data.Rat.Floor
import Mathlib.Tactic.Linarith
import Helpdesk.Sla.Monitor

/-! # The dashboard and the monitor

`sla_window_counts` of the dashboard and a pass of `monitor_sla` both tell how far a ticket's clock has run,
the one in SQL aggregates, the other ticket by ticket. They are compared here at one instant, with the
elapsed threshold in exact arithmetic on both sides.

To the dashboard a ticket is open unless it is `closed`; the monitor leaves `resolved` ones out too.
**`overview_agrees`** says what that comes to. -/

namespace Helpdesk.Analytics

/-- `created_at + (sla_due_at - created_at) * SLA_WARNING_ELAPSED_FRACTION` -/
def elapsedThreshold (createdAt dueAt : Int) : ℚ :=
  createdAt + (dueAt - createdAt) * (Sla.slaWarningElapsedFraction.1 / Sla.slaWarningElapsedFraction.2)

/-! ## The dashboard

Two counts over one WHERE clause. In SQL the threshold is an interval times a float; here it is exact. -/

/-- The WHERE clause that both counts start from. -/
def windowBase (organizationId : Uuid) (t : Ticket) : Bool :=
  t.organizationId = organizationId && t.status ≠ .closed && t.slaDueAt.isSome

def countsWarning (organizationId : Uuid) (now : Int) (t : Ticket) : Bool :=
  windowBase organizationId t &&
    t.slaDueAt.any fun dueAt => elapsedThreshold t.createdAt dueAt ≤ now && now < dueAt

def countsBreached (organizationId : Uuid) (now : Int) (t : Ticket) : Bool :=
  windowBase organizationId t && t.slaDueAt.any fun dueAt => dueAt ≤ now

/-- `sla_window_counts` -/
def slaWindowCounts (db : Db) (organizationId : Uuid) (now : Int) : Nat × Nat :=
  ((db.tickets.select fun _ t => countsWarning organizationId now t).length,
    (db.tickets.select fun _ t => countsBreached organizationId now t).length)

/-! ## The monitor

The query of the pass and, for each ticket that it selects, the checks for a warning and for a breach. -/

/-- The pass selects the ticket. An integer is past the threshold if it is past the next integer. -/
def passSelects (now : Int) (t : Ticket) : Bool :=
  Sla.isCandidate (fun createdAt dueAt => ⌈elapsedThreshold createdAt dueAt⌉) now t

/-- The two checks of `_process_ticket`. -/
def passFindsPast (now : Int) (t : Ticket) (kind : NotificationKind) : Bool :=
  t.slaDueAt.any fun dueAt => match kind with
    | .slaWarning => elapsedThreshold t.createdAt dueAt ≤ now
    | .slaBreached => dueAt ≤ now

def passBreaches (now : Int) (t : Ticket) : Bool := passSelects now t && passFindsPast now t .slaBreached

def passWarns (now : Int) (t : Ticket) : Bool :=
  passSelects now t && passFindsPast now t .slaWarning && !passFindsPast now t .slaBreached

/-! ## What a pass does

`_process_ticket` computes the threshold again, with Python's rounding to microseconds. It rounds to the nearest
one, and a ticket that the query has selected is at its threshold either way. -/

theorem passSelects_iff {now : Int} {t : Ticket} :
    passSelects now t = true ↔ ∃ dueAt, t.slaDueAt = some dueAt ∧ t.status ≠ .resolved ∧ t.status ≠ .closed ∧
      elapsedThreshold t.createdAt dueAt ≤ now := by
  unfold passSelects Sla.isCandidate
  cases hdue : t.slaDueAt with
  | none => simp
  | some dueAt => simp [Int.ceil_le, and_assoc]

/-- Rounding does not go past an integer. -/
theorem timesFraction_le {delta bound : Int} {fraction : Int × Int} (hpos : 0 < fraction.2)
    (h : delta * fraction.1 ≤ bound * fraction.2) : Sla.timesFraction delta fraction ≤ bound := by
  have hquotient : delta * fraction.1 / fraction.2 ≤ bound := Int.ediv_le_of_le_mul hpos h
  unfold Sla.timesFraction
  dsimp only
  split
  next hup =>
    -- what is rounded up is no integer, so the quotient is below the bound
    have hremainder : 0 < delta * fraction.1 % fraction.2 := by omega
    have hdivide := Int.mul_ediv_add_emod (delta * fraction.1) fraction.2
    have hne : delta * fraction.1 / fraction.2 ≠ bound := by
      intro heq
      rw [heq, mul_comm fraction.2] at hdivide
      omega
    omega
  · exact hquotient

theorem threshold_le {now dueAt : Int} {t : Ticket} (h : elapsedThreshold t.createdAt dueAt ≤ now) :
    Sla.threshold t dueAt .slaWarning ≤ now := by
  have hpos : (0 : Int) < Sla.slaWarningElapsedFraction.2 := by decide
  have hcross : (dueAt - t.createdAt) * Sla.slaWarningElapsedFraction.1 ≤
      (now - t.createdAt) * Sla.slaWarningElapsedFraction.2 := by
    have hposQ : (0 : ℚ) < Sla.slaWarningElapsedFraction.2 := by exact_mod_cast hpos
    have hle : ((dueAt - t.createdAt : Int) : ℚ) * Sla.slaWarningElapsedFraction.1 /
        Sla.slaWarningElapsedFraction.2 ≤ ((now - t.createdAt : Int) : ℚ) := by
      rw [mul_div_assoc]
      unfold elapsedThreshold at h
      push_cast
      linarith
    exact_mod_cast (div_le_iff₀ hposQ).mp hle
  have := timesFraction_le hpos hcross
  show t.createdAt + Sla.timesFraction _ _ ≤ now
  omega

/-- **The check that `recordDue` makes** of a ticket that the pass has selected is `passFindsPast`. -/
theorem recordDue_of_passSelects {scope : OrgScope} {ticketId id : Uuid} {t : Ticket} {now dueAt occurredAt : Int}
    {kind : NotificationKind} (hselects : passSelects now t = true) (hdue : t.slaDueAt = some dueAt) :
    Sla.recordDue scope ticketId t now kind id occurredAt =
      if passFindsPast now t kind then
        Sla.recordOnce scope ticketId (Sla.eventOf kind) (some dueAt) id occurredAt
      else pure none := by
  have hcheck : Sla.threshold t dueAt kind ≤ now ↔ passFindsPast now t kind = true := by
    cases kind with
    | slaWarning =>
      obtain ⟨dueAt', hdue', -, -, helapsed⟩ := passSelects_iff.mp hselects
      obtain rfl : dueAt = dueAt' := Option.some.inj (hdue.symm.trans hdue')
      simp [passFindsPast, hdue, helapsed, threshold_le helapsed]
    | slaBreached => simp [passFindsPast, hdue, Sla.threshold]
  unfold Sla.recordDue
  rw [hdue]
  show (if Sla.threshold t dueAt kind ≤ now then _ else _) = _
  simp only [hcheck]

/-! ## The comparison

Each bucket is first put as an existence of a due date, and then the buckets are compared ticket by ticket. The counts
follow by splitting the dashboard's selection into what the pass finds and the rest. -/

theorem countsBreached_iff {organizationId : Uuid} {now : Int} {t : Ticket} :
    countsBreached organizationId now t = true ↔
      t.organizationId = organizationId ∧ t.status ≠ .closed ∧ ∃ dueAt, t.slaDueAt = some dueAt ∧ dueAt ≤ now := by
  unfold countsBreached windowBase
  cases hdue : t.slaDueAt with
  | none => simp
  | some dueAt => simp [and_assoc]

theorem countsWarning_iff {organizationId : Uuid} {now : Int} {t : Ticket} :
    countsWarning organizationId now t = true ↔
      t.organizationId = organizationId ∧ t.status ≠ .closed ∧
        ∃ dueAt, t.slaDueAt = some dueAt ∧ elapsedThreshold t.createdAt dueAt ≤ now ∧ now < dueAt := by
  unfold countsWarning windowBase
  cases hdue : t.slaDueAt with
  | none => simp
  | some dueAt => simp [and_assoc]

theorem passBreaches_iff {now : Int} {t : Ticket} :
    passBreaches now t = true ↔ ∃ dueAt, t.slaDueAt = some dueAt ∧ t.status ≠ .resolved ∧ t.status ≠ .closed ∧
      elapsedThreshold t.createdAt dueAt ≤ now ∧ dueAt ≤ now := by
  unfold passBreaches passFindsPast
  rw [Bool.and_eq_true, passSelects_iff]
  cases hdue : t.slaDueAt with
  | none => simp
  | some dueAt => simp [and_assoc]

theorem passWarns_iff {now : Int} {t : Ticket} :
    passWarns now t = true ↔ ∃ dueAt, t.slaDueAt = some dueAt ∧ t.status ≠ .resolved ∧ t.status ≠ .closed ∧
      elapsedThreshold t.createdAt dueAt ≤ now ∧ now < dueAt := by
  unfold passWarns passFindsPast
  rw [Bool.and_eq_true, Bool.and_eq_true, passSelects_iff]
  cases hdue : t.slaDueAt with
  | none => simp
  | some dueAt => simp [and_assoc]

/-- A ticket that is due no earlier than it was created has run through its warning threshold when it is due. -/
theorem elapsedThreshold_le {createdAt dueAt : Int} (h : createdAt ≤ dueAt) :
    elapsedThreshold createdAt dueAt ≤ dueAt := by
  have hwindow : (0 : ℚ) ≤ dueAt - createdAt := by
    have := (Int.cast_le (R := ℚ)).mpr h
    linarith
  have hfraction : ((Sla.slaWarningElapsedFraction.1 : ℚ) / Sla.slaWarningElapsedFraction.2) ≤ 1 := by
    norm_num [Sla.slaWarningElapsedFraction]
  have := mul_le_mul_of_nonneg_left hfraction hwindow
  unfold elapsedThreshold
  linarith

section
variable (organizationId : Uuid) (now : Int) (t : Ticket)

theorem passWarns_iff_counts : t.organizationId = organizationId ∧ passWarns now t = true ↔
    countsWarning organizationId now t = true ∧ t.status ≠ .resolved := by
  rw [passWarns_iff, countsWarning_iff]
  constructor
  · rintro ⟨horg, dueAt, hdue, hresolved, hclosed, hwarn, hbefore⟩
    exact ⟨⟨horg, hclosed, dueAt, hdue, hwarn, hbefore⟩, hresolved⟩
  · rintro ⟨⟨horg, hclosed, dueAt, hdue, hwarn, hbefore⟩, hresolved⟩
    exact ⟨horg, dueAt, hdue, hresolved, hclosed, hwarn, hbefore⟩

/-- The ticket was due before it was created, and has not reached the elapsed threshold, which comes later. -/
def dueTooEarly : Bool := t.slaDueAt.any fun dueAt =>
  dueAt < t.createdAt && now < elapsedThreshold t.createdAt dueAt

theorem passBreaches_iff_counts : t.organizationId = organizationId ∧ passBreaches now t = true ↔
    countsBreached organizationId now t = true ∧ t.status ≠ .resolved ∧ dueTooEarly now t = false := by
  rw [passBreaches_iff, countsBreached_iff, dueTooEarly]
  constructor
  · rintro ⟨horg, dueAt, hdue, hresolved, hclosed, hwarn, hpast⟩
    refine ⟨⟨horg, hclosed, dueAt, hdue, hpast⟩, hresolved, ?_⟩
    simp [hdue, not_lt.mpr hwarn]
  · rintro ⟨⟨horg, hclosed, dueAt, hdue, hpast⟩, hresolved, hearly⟩
    refine ⟨horg, dueAt, hdue, hresolved, hclosed, ?_, hpast⟩
    -- past its due date, it is past the threshold too if this comes no later
    by_cases horder : t.createdAt ≤ dueAt
    · exact (elapsedThreshold_le horder).trans (by exact_mod_cast hpast)
    · simpa [hdue, not_le.mp horder] using hearly

theorem not_countsWarning_and_countsBreached :
    ¬ (countsWarning organizationId now t = true ∧ countsBreached organizationId now t = true) := by
  rw [countsWarning_iff, countsBreached_iff]
  rintro ⟨⟨-, -, dueAt, hdue, -, hbefore⟩, -, -, dueAt', hdue', hpast⟩
  obtain rfl := Option.some.inj (hdue.symm.trans hdue')
  exact absurd hpast (not_le.mpr hbefore)

end

/-- **Dashboard and monitor**, at one instant, over any tickets. The warnings that are counted are those that a
    pass finds, and the resolved tickets past the warning threshold; the breaches that are counted are those
    that a pass finds, and the tickets that are resolved or were due before they were created. Nothing is in
    both buckets. -/
theorem overview_agrees (db : Db) (organizationId : Uuid) (now : Int) :
    (∀ t : Ticket,
      (t.organizationId = organizationId ∧ passWarns now t = true ↔
        countsWarning organizationId now t = true ∧ t.status ≠ .resolved) ∧
      (t.organizationId = organizationId ∧ passBreaches now t = true ↔
        countsBreached organizationId now t = true ∧ t.status ≠ .resolved ∧ dueTooEarly now t = false) ∧
      ¬ (countsWarning organizationId now t = true ∧ countsBreached organizationId now t = true)) ∧
    slaWindowCounts db organizationId now =
      ((db.tickets.select fun _ t => t.organizationId = organizationId && passWarns now t).length +
        (db.tickets.select fun _ t => countsWarning organizationId now t && t.status = .resolved).length,
      (db.tickets.select fun _ t => t.organizationId = organizationId && passBreaches now t).length +
        (db.tickets.select fun _ t =>
          countsBreached organizationId now t && (t.status = .resolved || dueTooEarly now t)).length) := by
  refine ⟨fun t => ⟨passWarns_iff_counts organizationId now t, passBreaches_iff_counts organizationId now t,
    not_countsWarning_and_countsBreached organizationId now t⟩, Prod.ext ?_ ?_⟩
  · refine Table.length_select_split fun _ t => ?_
    have := passWarns_iff_counts organizationId now t
    grind
  · refine Table.length_select_split fun _ t => ?_
    have := passBreaches_iff_counts organizationId now t
    grind

theorem open_ne_closed : TicketStatus.open ≠ .closed := nofun

/-- A ticket with nothing but its clock. -/
def clocked (status : TicketStatus) (hopen : status ≠ .closed) (createdAt dueAt : Int) : Ticket where
  organizationId := 1
  userId := 10
  propertyId := none
  contractId := none
  title := "Leak"
  description := none
  categoryId := none
  urgencyId := none
  channel := .web
  status := status
  classificationStatus := .pending
  agentId := none
  slaDueAt := some dueAt
  closedAt := none
  channelMetadata := none
  createdAt := createdAt
  classified_has_taxonomy := .inl nofun
  closed_at_matches_status := iff_of_false hopen fun h => h rfl
  title_not_blank := show Text.btrim "Leak" ≠ "" by decide

/-- A resolved ticket past its due date, and one that is due before it was created: the dashboard counts them as
    breached, the pass selects neither. -/
theorem not_overview_agrees :
    (countsBreached 1 100 (clocked .resolved (by decide) 0 80) = true ∧
      passSelects 100 (clocked .resolved (by decide) 0 80) = false) ∧
    countsBreached 1 10 (clocked .open (by decide) 100 0) = true ∧
      passSelects 10 (clocked .open (by decide) 100 0) = false := by
  decide +kernel

end Helpdesk.Analytics
