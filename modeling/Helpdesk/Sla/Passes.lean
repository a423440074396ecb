import Helpdesk.Sla.Accounts

/-! # Passes over a common database

Any number of passes at any times, between edits of tickets and users. The accounts of each open transaction and
of what is committed, with the claims kept apart, are `Consistent`. Every statement of a pass keeps its own
accounts (`PassOk.advance`), every event keeps the world consistent (`Consistent.step`), and so does a run. -/

namespace Helpdesk.Sla

open Run

/-! ## What a pass does

Its own accounts, against what is committed while it goes on. Each statement adds to what it holds; leaving a
savepoint takes it back to what has been released, which is accounted for as well. -/

section
variable {pass : Pass} {attempt : Attempt} {db : Db} {fanOuts : List FanOut}

theorem PassOk.fail {committed : Writes} (h : PassOk committed pass) : PassOk committed pass.fail where
  released := h.released
  held := h.released
  keeps := Extends.refl _
  apart := h.apart.mono h.keeps

@[simp] theorem Stage.pending_after (kind : NotificationKind) : (Stage.after kind).pending = none := by
  cases kind with
  | slaWarning => rfl
  | slaBreached => rfl

/-- The event is recorded over what the transaction had written. -/
theorem PassOk.record {kind : NotificationKind} {slaEventId : Uuid} {db' : Db}
    (h : PassOk ⟨db.slaEvents, db.notifications, fanOuts⟩ pass) (hattempt : pass.attempt = some attempt)
    (hstage : attempt.stage.pending = none)
    (hrecords : Records attempt.ticketId kind slaEventId (attempt.writes.seen db) db') :
    PassOk ⟨db.slaEvents, db.notifications, fanOuts⟩ { pass with
      attempt := some { attempt with
        stage := .notify kind slaEventId
        writes := .read db db' attempt.writes.fanOuts } } := by
  have hheld : Accounted none attempt.writes := by
    have hheld := h.held
    rwa [Pass.pending, Pass.held, hattempt, Option.bind_some, hstage] at hheld
  have hkeeps : Extends pass.released attempt.writes := by
    simpa only [Pass.held, hattempt] using h.keeps
  have hapart : Apart attempt.writes ⟨db.slaEvents, db.notifications, fanOuts⟩ := by
    simpa only [Pass.held, hattempt] using h.apart
  obtain ⟨hunrecorded, hseen, row, hticket, hevent, hdb'⟩ := hrecords
  have hcounted : row.event ≠ .resolved := hevent ▸ eventOf_ne_resolved kind
  obtain ⟨hfresh, hfresh'⟩ : attempt.writes.slaEvents.lookup slaEventId = none ∧
      db.slaEvents.lookup slaEventId = none := by
    simpa [Writes.seen] using hseen
  -- neither side has the ticket's event
  have hfree : ∀ id' row', (Table.overlay attempt.writes.slaEvents db.slaEvents).lookup id' = some row' →
      row'.ticketId = row.ticketId → row'.event ≠ row.event := by
    intro id' row' hrow' hticket' hevent'
    rw [← Bool.not_eq_true, recorded_eq_true] at hunrecorded
    exact hunrecorded ⟨id', row', hrow', hticket'.trans hticket, hevent'.trans hevent⟩
  have hevents : ∀ id', (Writes.read db db' attempt.writes.fanOuts).slaEvents.lookup id' =
      if id' = slaEventId then some row else attempt.writes.slaEvents.lookup id' := by
    have hbase : ∀ id', attempt.writes.slaEvents.lookup id' ≠ none → db.slaEvents.lookup id' = none :=
      hapart.events
    rw [hdb']
    exact Table.lookup_changes_insert hbase hseen
  have hnotifications : ∀ nid, (Writes.read db db' attempt.writes.fanOuts).notifications.lookup nid =
      attempt.writes.notifications.lookup nid := by
    have hbase : ∀ nid, attempt.writes.notifications.lookup nid ≠ none →
        db.notifications.lookup nid = none := hapart.notifications
    rw [hdb']
    exact fun nid => Table.lookup_changes_overlay hbase
  have hfanOuts : (Writes.read db db' attempt.writes.fanOuts).fanOuts = attempt.writes.fanOuts := rfl
  generalize Writes.read db db' attempt.writes.fanOuts = y at *
  constructor
  · exact h.released
  -- held: the entry of the event is open
  · apply hheld.record hfresh hcounted _ hevents hnotifications hfanOuts
    intro id' row' hrow'
    exact hfree id' row' (Table.lookup_overlay_eq_some.mpr (.inl hrow'))
  · constructor
    · intro id' row' hrow'
      show y.slaEvents.lookup id' = some row'
      have hold := hkeeps.slaEvents id' row' hrow'
      rw [hevents, if_neg (by rintro rfl; simp [hfresh] at hold)]
      exact hold
    · intro nid n hn
      exact (hnotifications nid).trans (hkeeps.notifications nid n hn)
  -- apart: the event is new among the committed ones too
  · constructor
    · intro id' hid'
      show db.slaEvents.lookup id' = none
      replace hid' : y.slaEvents.lookup id' ≠ none := hid'
      rw [hevents] at hid'
      split at hid'
      next heq => rw [heq, hfresh']
      next => exact hapart.events id' hid'
    · intro id₁ id₂ row₁ row₂ h₁ h₂ hcounted₁ hticket₁
      replace h₁ : y.slaEvents.lookup id₁ = some row₁ := h₁
      rw [hevents] at h₁
      split at h₁
      next =>
        obtain rfl := Option.some.inj h₁
        have hown : attempt.writes.slaEvents.lookup id₂ = none := by
          by_contra hown
          rw [hapart.events id₂ hown] at h₂
          cases h₂
        have hrow₂ := Table.lookup_overlay_eq_some.mpr (.inr ⟨hown, h₂⟩)
        exact fun hevent₁ => hfree id₂ row₂ hrow₂ hticket₁.symm hevent₁.symm
      next => exact hapart.claims id₁ id₂ row₁ row₂ h₁ h₂ hcounted₁ hticket₁
    · intro nid hnid
      replace hnid : y.notifications.lookup nid ≠ none := hnid
      rw [hnotifications] at hnid
      exact hapart.notifications nid hnid

/-- Notifications that are added over own rows and committed ones are added over the own rows. -/
theorem Notified.own {slaEventId : Uuid} {userIds : List Uuid} {own base after : Table Uuid Notification}
    (hdisjoint : ∀ nid, own.lookup nid ≠ none → base.lookup nid = none)
    (h : Notified slaEventId userIds (Table.overlay own base) after) :
    Notified slaEventId userIds own (Table.changes base after) := by
  have hread := fun nid n => Table.lookup_changes_grown (k := nid) (a := n) hdisjoint h.kept
  have hnew : ∀ nid n, own.lookup nid = none → (Table.changes base after).lookup nid = some n →
      (Table.overlay own base).lookup nid = none ∧ after.lookup nid = some n := by
    intro nid n hnone hn
    rcases (hread nid n).mp hn with hown | hnew
    · rw [hnone] at hown
      cases hown
    · exact hnew
  constructor
  · intro nid n hn
    exact (hread nid n).mpr (.inl hn)
  · intro nid n hnone hn
    exact h.added nid n (hnew nid n hnone hn).1 (hnew nid n hnone hn).2
  · intro userId hmem
    obtain ⟨nid, n, hnone, hn, hprops⟩ := h.delivered userId hmem
    refine ⟨nid, n, ?_, (hread nid n).mpr (.inr ⟨hnone, hn⟩), hprops⟩
    rw [Table.lookup_overlay, Option.or_eq_none_iff] at hnone
    exact hnone.1
  · intro hnodup nid nid' n n' hnone hnone' hn hn'
    exact h.single hnodup nid nid' n n' (hnew nid n hnone hn).1 (hnew nid' n' hnone' hn').1
      (hnew nid n hnone hn).2 (hnew nid' n' hnone' hn').2

/-- The pending event is fanned out over what the transaction had written. -/
theorem PassOk.fanOut {kind : NotificationKind} {slaEventId : Uuid} {userIds : List Uuid}
    {notifications : Table Uuid Notification}
    (h : PassOk ⟨db.slaEvents, db.notifications, fanOuts⟩ pass) (hattempt : pass.attempt = some attempt)
    (hstage : attempt.stage.pending = some slaEventId) (hnodup : userIds.Nodup)
    (hnotified : Notified slaEventId userIds (attempt.writes.seen db).notifications notifications) :
    PassOk ⟨db.slaEvents, db.notifications, fanOuts⟩ { pass with
      attempt := some { attempt with
        stage := .after kind
        writes := .read db { attempt.writes.seen db with notifications := notifications }
          (⟨slaEventId, userIds⟩ :: attempt.writes.fanOuts) } } := by
  have hheld : Accounted (some slaEventId) attempt.writes := by
    have hheld := h.held
    rwa [Pass.pending, Pass.held, hattempt, Option.bind_some, hstage] at hheld
  have hkeeps : Extends pass.released attempt.writes := by
    simpa only [Pass.held, hattempt] using h.keeps
  have hapart : Apart attempt.writes ⟨db.slaEvents, db.notifications, fanOuts⟩ := by
    simpa only [Pass.held, hattempt] using h.apart
  have hown := hnotified.own hapart.notifications
  have hevents : ∀ id, (Table.changes db.slaEvents
      (Table.overlay attempt.writes.slaEvents db.slaEvents)).lookup id =
      attempt.writes.slaEvents.lookup id := by
    have hbase : ∀ id, attempt.writes.slaEvents.lookup id ≠ none → db.slaEvents.lookup id = none :=
      hapart.events
    exact fun id => Table.lookup_changes_overlay hbase
  constructor
  · exact h.released
  -- held: the entry is closed
  · show Accounted (Stage.after kind).pending _
    rw [Stage.pending_after]
    exact hheld.fanOut hnodup hown hevents rfl
  · constructor
    · intro id row hrow
      exact (hevents id).trans (hkeeps.slaEvents id row hrow)
    · intro nid n hn
      exact hown.kept nid n (hkeeps.notifications nid n hn)
  · constructor
    · intro id hid
      exact hapart.events id (fun hnone => hid ((hevents id).trans hnone))
    · intro id₁ id₂ row₁ row₂ h₁
      exact hapart.claims id₁ id₂ row₁ row₂ ((hevents id₁).symm.trans h₁)
    · intro nid hnid
      show db.notifications.lookup nid = none
      obtain ⟨n, hn⟩ := Option.ne_none_iff_exists'.mp hnid
      have hbase : ∀ nid, attempt.writes.notifications.lookup nid ≠ none →
          db.notifications.lookup nid = none := hapart.notifications
      rcases (Table.lookup_changes_grown hbase hnotified.kept).mp hn with hold | ⟨hnone, -⟩
      · exact hapart.notifications nid (by simp [hold])
      · replace hnone : (Table.overlay attempt.writes.notifications db.notifications).lookup nid = none :=
          hnone
        rw [Table.lookup_overlay, Option.or_eq_none_iff] at hnone
        exact hnone.2

/-- **Statement**: the accounts of a pass are kept by each of its statements. -/
theorem PassOk.advance (h : PassOk ⟨db.slaEvents, db.notifications, fanOuts⟩ pass) (d : MonitorDraws) :
    PassOk ⟨db.slaEvents, db.notifications, fanOuts⟩ (pass.advance db d) := by
  unfold Pass.advance
  split
  next attempt hattempt =>
    have hpending : pass.pending = attempt.stage.pending := by
      rw [Pass.pending, hattempt, Option.bind_some]
    unfold Pass.process
    dsimp only
    split
    next kind hstage =>
      split
      -- recorded now
      next slaEventId db' hrecord =>
        rcases (Tx.wp_of_ok hrecord).mp wp_recordDue with hnone | ⟨heq, hrecords⟩
        · cases hnone
        · cases heq
          exact h.record hattempt (by rw [hstage]; rfl) hrecords
      -- recorded before, or not due
      next =>
        refine ⟨h.released, ?_, ?_, ?_⟩
        · have hheld := h.held
          rw [hpending, hstage, Pass.held, hattempt] at hheld
          show Accounted (Stage.after kind).pending attempt.writes
          rw [Stage.pending_after]
          exact hheld
        · simpa only [Pass.held, hattempt] using h.keeps
        · simpa only [Pass.held, hattempt] using h.apart
      next => exact h.fail
    next kind slaEventId hstage =>
      split
      next recipients db' hfanOut =>
        obtain ⟨rfl, notifications, rfl, hnotified⟩ := (Tx.wp_of_ok hfanOut).mp wp_fanOut
        exact h.fanOut hattempt (by rw [hstage]; rfl) (resolveRecipients_nodup _ _ _) hnotified
      next => exact h.fail
    -- released
    next hstage =>
      have hheld : Accounted none attempt.writes := by
        have hheld := h.held
        rwa [hpending, hstage, Pass.held, hattempt] at hheld
      refine ⟨hheld, hheld, Extends.refl _, ?_⟩
      simpa only [Pass.held, hattempt] using h.apart
  next ticketId ticket rest hattempt _ =>
    have hheld := h.released
    refine ⟨hheld, hheld, Extends.refl _, h.apart.mono h.keeps⟩
  next => exact h

end

/-! ## The world

An event that goes through clashes with no other pass, so a pass that has moved on is still apart from the
others. What is committed is apart from every open pass, and a commit moves rows from one side to the other. -/

/-- What is committed, with its fan-outs. -/
def World.committed (w : World) : Writes := ⟨w.db.slaEvents, w.db.notifications, w.fanOuts⟩

structure Consistent (w : World) : Prop where
  committed : Accounted none w.committed
  passes : ∀ p pass, w.passes.lookup p = some pass → PassOk w.committed pass
  apart : ∀ p q pass pass', p ≠ q → w.passes.lookup p = some pass → w.passes.lookup q = some pass' →
    Apart pass.held pass'.held

section
variable {w : World} {p : Nat} {pass : Pass} {x y z : Writes}

theorem clashes_eq_false {pass : Option Nat} :
    w.clashes pass x = false ↔ ∀ other p, w.passes.lookup other = some p → some other ≠ pass →
      Apart x p.held := by
  simp only [World.clashes, List.isEmpty_iff, decide_not, Bool.not_eq_false', decide_eq_true_eq,
    Table.select_eq_nil, Bool.and_eq_false_imp, Bool.not_eq_true', decide_eq_false_iff_not,
    conflicts_eq_false]

theorem Apart.overlay {fanOuts : List FanOut} (hx : Apart z x) (hy : Apart z y) :
    Apart z ⟨Table.overlay x.slaEvents y.slaEvents, Table.overlay x.notifications y.notifications, fanOuts⟩
    where
  events := by
    intro id hid
    rw [Table.lookup_overlay, hx.events id hid, hy.events id hid]
    rfl
  claims := by
    intro id id' row row' hrow hrow' hcounted hticket
    rcases Table.lookup_overlay_eq_some.mp hrow' with hrow' | ⟨-, hrow'⟩
    · exact hx.claims id id' row row' hrow hrow' hcounted hticket
    · exact hy.claims id id' row row' hrow hrow' hcounted hticket
  notifications := by
    intro id hid
    rw [Table.lookup_overlay, hx.notifications id hid, hy.notifications id hid]
    rfl

/-- One pass moves on, and keeps apart from the others. -/
theorem Consistent.modify {f : Pass → Pass} (hw : Consistent w)
    (hok : ∀ pass, w.passes.lookup p = some pass → PassOk w.committed (f pass))
    (hapart : ∀ pass, w.passes.lookup p = some pass → ∀ q other, q ≠ p →
      w.passes.lookup q = some other → Apart (f pass).held other.held) :
    Consistent { w with passes := w.passes.modify p f } := by
  have hlookup : ∀ q after, (w.passes.modify p f).lookup q = some after →
      (q = p ∧ ∃ pass, w.passes.lookup p = some pass ∧ f pass = after) ∨
      q ≠ p ∧ w.passes.lookup q = some after := by
    intro q after h
    rw [Table.lookup_modify] at h
    split at h
    next heq =>
      subst heq
      exact .inl ⟨rfl, Option.map_eq_some_iff.mp h⟩
    next hne => exact .inr ⟨hne, h⟩
  constructor
  · exact hw.committed
  · intro q after h
    rcases hlookup q after h with ⟨-, pass, hpass, rfl⟩ | ⟨-, hq⟩
    · exact hok pass hpass
    · exact hw.passes q after hq
  · intro q r after after' hqr hq hr
    rcases hlookup q after hq with ⟨rfl, pass, hpass, rfl⟩ | ⟨hq', hold⟩
    · rcases hlookup r after' hr with ⟨rfl, -⟩ | ⟨hr', hr⟩
      · exact absurd rfl hqr
      · exact hapart pass hpass r after' hr' hr
    · rcases hlookup r after' hr with ⟨rfl, pass, hpass, rfl⟩ | ⟨-, hr⟩
      · exact (hapart pass hpass q after hq' hold).symm
      · exact hw.apart q r after after' hqr hold hr

theorem Consistent.erase (hw : Consistent w) (p : Nat) :
    Consistent { w with passes := w.passes.erase p } where
  committed := hw.committed
  passes := fun q pass h => hw.passes q pass (Table.lookup_of_lookup_erase h)
  apart := fun q r pass pass' hqr hq hr => hw.apart q r pass pass' hqr
    (Table.lookup_of_lookup_erase hq) (Table.lookup_of_lookup_erase hr)

/-- A new pass has written nothing. -/
theorem Consistent.start (hw : Consistent w) (now startedAt : Int) (candidates : List (Uuid × Ticket)) :
    Consistent { w with
      passes := AList.insert p ⟨now, startedAt, candidates, none, .none⟩ w.passes } := by
  have hlookup : ∀ q pass, (AList.insert p (⟨now, startedAt, candidates, none, .none⟩ : Pass)
      w.passes).lookup q = some pass → pass.held = .none ∧ q = p ∧ PassOk w.committed pass ∨
        w.passes.lookup q = some pass := by
    intro q pass h
    rw [Table.lookup_insert] at h
    split at h
    next heq =>
      obtain rfl := Option.some.inj h
      exact .inl ⟨rfl, heq, accounted_none, accounted_none, Extends.refl _, apart_none _⟩
    next => exact .inr h
  constructor
  · exact hw.committed
  · intro q pass h
    rcases hlookup q pass h with ⟨-, -, hok⟩ | h
    · exact hok
    · exact hw.passes q pass h
  · intro q r pass pass' hqr hq hr
    rcases hlookup q pass hq with ⟨hnone, rfl, -⟩ | hq
    · rw [hnone]
      exact apart_none _
    · rcases hlookup r pass' hr with ⟨hnone, rfl, -⟩ | hr
      · rw [hnone]
        exact (apart_none _).symm
      · exact hw.apart q r pass pass' hqr hq hr

/-- The rows of a finished pass are committed. -/
theorem Consistent.commit (hw : Consistent w) (hp : w.passes.lookup p = some pass) :
    Consistent (w.commit p pass) := by
  unfold World.commit
  split
  next hdone =>
    have hok := hw.passes p pass hp
    have herased := hw.erase p
    constructor
    -- what the pass has released joins what is committed
    · exact hok.released.overlay hw.committed (hok.apart.mono hok.keeps)
    · intro q other hq
      have hqp : q ≠ p := by
        rintro rfl
        rw [AList.lookup_erase] at hq
        cases hq
      have hother := herased.passes q other hq
      refine ⟨hother.released, hother.held, hother.keeps, Apart.overlay ?_ hother.apart⟩
      have hheld := hw.apart p q pass other (Ne.symm hqp) hp (Table.lookup_of_lookup_erase hq)
      exact (hheld.mono hok.keeps).symm
    · exact herased.apart
  next => exact hw

/-- A resolved event is committed under a key that nobody has written. -/
theorem Consistent.recordResolved {id : Uuid} {row : SlaEvent} (hw : Consistent w)
    (hresolved : row.event = .resolved) (hfresh : w.db.slaEvents.lookup id = none)
    (hfree : ∀ q pass, w.passes.lookup q = some pass → pass.held.slaEvents.lookup id = none) :
    Consistent { w with
      db := { w.db with slaEvents := AList.insert id row w.db.slaEvents } } := by
  -- an event that counts is an old one
  have hold : ∀ id' row', (AList.insert id row w.db.slaEvents).lookup id' = some row' →
      row'.event ≠ .resolved → w.db.slaEvents.lookup id' = some row' := by
    intro id' row' hrow' hcounted
    rw [Table.lookup_insert] at hrow'
    split at hrow'
    · obtain rfl := Option.some.inj hrow'
      exact absurd hresolved hcounted
    · exact hrow'
  have hkept : ∀ id' row', w.db.slaEvents.lookup id' = some row' →
      (AList.insert id row w.db.slaEvents).lookup id' = some row' := by
    intro id' row' hrow'
    rw [AList.lookup_insert_ne (by rintro rfl; simp [hfresh] at hrow')]
    exact hrow'
  constructor
  · have h := hw.committed
    refine ⟨?_, ?_, h.fannedOnce, h.notified, h.delivered, h.single⟩
    · intro id₁ id₂ row₁ row₂ h₁ h₂ hcounted hticket hevent
      exact h.once id₁ id₂ row₁ row₂ (hold id₁ row₁ h₁ hcounted)
        (hold id₂ row₂ h₂ (hevent ▸ hcounted)) hcounted hticket hevent
    · intro id'
      refine Iff.trans ?_ (h.fanned id')
      constructor
      · rintro ⟨row', hrow', hcounted⟩
        exact ⟨row', hold id' row' hrow' hcounted, hcounted⟩
      · rintro ⟨row', hrow', hcounted⟩
        exact ⟨row', hkept id' row' hrow', hcounted⟩
  · intro q pass hq
    have hok := hw.passes q pass hq
    refine ⟨hok.released, hok.held, hok.keeps, ?_, ?_, hok.apart.notifications⟩
    · intro id' hid'
      show (AList.insert id row w.db.slaEvents).lookup id' = none
      have hne : id' ≠ id := by
        rintro rfl
        exact hid' (hfree q pass hq)
      rw [AList.lookup_insert_ne hne]
      exact hok.apart.events id' hid'
    · intro id₁ id₂ row₁ row₂ h₁ h₂ hcounted hticket hevent
      exact hok.apart.claims id₁ id₂ row₁ row₂ h₁ (hold id₂ row₂ h₂ (hevent ▸ hcounted)) hcounted
        hticket hevent
  · exact hw.apart

/-- `record_resolved` adds a resolved event under a new key, or nothing. -/
theorem settle_recordResolved (scope : OrgScope) (ticketId : Uuid) (slaDueAt : Option Int)
    (d : Tickets.UpdateDraws) (db : Db) :
    (Tx.settle (Tickets.recordResolved scope ticketId slaDueAt d) db).2 = db ∨
    ∃ row : SlaEvent, row.event = .resolved ∧ db.slaEvents.lookup d.slaEventId = none ∧
      Tx.exec (Tickets.recordResolved scope ticketId slaDueAt d) db =
        (.ok (), { db with slaEvents := AList.insert d.slaEventId row db.slaEvents }) := by
  by_cases hfresh : db.slaEvents.lookup d.slaEventId = none
  · refine .inr ⟨⟨scope.organizationId, ticketId, .resolved, d.occurredAt, slaDueAt⟩, rfl, hfresh, ?_⟩
    simp [Tickets.recordResolved, Table.insertNew_of_fresh _ hfresh]
  · refine .inl (Tx.settle_store_of_error (e := .integrityError .primaryKey) ?_)
    have hnone : ∀ row, db.slaEvents.insertNew d.slaEventId row = none := by
      intro row
      rw [Table.insertNew, if_pos]
      rwa [← AList.lookup_eq_none.not_left]
    simp [Tx.settle, Tickets.recordResolved, hnone]

/-- **Step lemma**: every event keeps the accounts and the claims. -/
theorem Consistent.step (sqlWarnAt : Int → Int → Int) (hw : Consistent w) (e : Event) :
    Consistent (e.step sqlWarnAt w) := by
  unfold Event.step
  split
  · exact hw
  next hwaits =>
    rw [Bool.not_eq_true] at hwaits
    cases e with
    | start p now startedAt rank =>
      show Consistent (w.startPass sqlWarnAt p now startedAt rank)
      unfold World.startPass
      split
      · exact hw
      · exact hw.start now startedAt _
    -- the statement did not wait, so it clashes with nobody
    | advance p d =>
      apply hw.modify
      · intro pass hpass
        exact PassOk.advance (hw.passes p pass hpass) d
      · intro pass hpass q other hqp hq
        simp only [Event.waits, Event.writing, hpass, Option.map_some] at hwaits
        exact clashes_eq_false.mp hwaits q other hq (by simpa using hqp)
    -- less is held than before
    | fail p =>
      apply hw.modify
      · intro pass hpass
        exact (hw.passes p pass hpass).fail
      · intro pass hpass q other hqp hq
        exact (hw.apart p q pass other (Ne.symm hqp) hpass hq).mono (hw.passes p pass hpass).keeps
    | commit p =>
      simp only [Event.perform]
      split
      next pass hpass => exact hw.commit hpass
      next => exact hw
    | crash p => exact hw.erase p
    | editTicket ticketId ticket => exact ⟨hw.committed, hw.passes, hw.apart⟩
    | editUser userId user => exact ⟨hw.committed, hw.passes, hw.apart⟩
    | recordResolved scope ticketId slaDueAt d =>
      simp only [Event.perform]
      rcases settle_recordResolved scope ticketId slaDueAt d w.db with hsame | ⟨row, hrow, hfresh, hexec⟩
      · rw [hsame]
        exact hw
      · rw [Tx.settle_of_ok hexec]
        apply hw.recordResolved hrow hfresh
        intro q other hq
        simp only [Event.waits, Event.writing, hexec] at hwaits
        apply (clashes_eq_false.mp hwaits q other hq (by simp)).events d.slaEventId
        show (Table.changes _ _).lookup d.slaEventId ≠ none
        rw [Option.ne_none_iff_exists']
        exact ⟨row, Table.lookup_changes_eq_some.mpr ⟨by simp, by simp [hfresh]⟩⟩

/-- **Run lemma**: the accounts and the claims are kept in every run. -/
theorem Consistent.run (sqlWarnAt : Int → Int → Int) (db : Db) (events : List Event) :
    Consistent (Run.run (Event.step sqlWarnAt) (World.start db) events) := by
  apply Run.inv_of_always (I := Consistent) (fun w e hw => hw.step sqlWarnAt e)
  exact ⟨accounted_none, (fun p pass h => by cases h), (fun p q pass pass' _ h => by cases h)⟩

end

end Helpdesk.Sla
