import Helpdesk.Library.Weakest
import Helpdesk.Sla.Monitor

/-! # What a monitor has written

The rows of a transaction are accounted for: inside it, and inside what is committed, every event goes with its
fan-out (`Accounted`), and no two transactions claim one unique key (`Apart`). The statements of a pass are read
once, by what they write (`wp_recordDue`, `wp_fanOut`); recording an event and fanning it out then move the
accounts from one state to the next. -/

namespace Helpdesk.Sla

open Run

/-! ## Accounts

Of a transaction and of what is committed alike, so that a commit joins two accounts. `pending` is there for the
moment between the INSERT of an event and its notifications. `Apart` is what the unique keys come to: a
transaction that would write a key of another one waits. -/

/-- Each event goes with its fan-out, and each fan-out with its notifications. `pending` is an event
    that is recorded and not fanned out yet. -/
structure Accounted (pending : Option Uuid) (x : Writes) : Prop where
  /-- a ticket has one warning and one breach at most -/
  once : ∀ id id' row row', x.slaEvents.lookup id = some row → x.slaEvents.lookup id' = some row' →
    row.event ≠ .resolved → row.ticketId = row'.ticketId → row.event = row'.event → id = id'
  /-- an event is there exactly if its fan-out is -/
  fanned : ∀ id, (∃ row, x.slaEvents.lookup id = some row ∧ row.event ≠ .resolved) ↔
    pending = some id ∨ ∃ f ∈ x.fanOuts, f.slaEventId = id
  fannedOnce : (pending.toList ++ x.fanOuts.map (·.slaEventId)).Nodup
  /-- a notification belongs to a fan-out, and is for one of its recipients -/
  notified : ∀ nid n, x.notifications.lookup nid = some n →
    ∃ f ∈ x.fanOuts, n.slaEventId = some f.slaEventId ∧ n.userId ∈ f.recipients
  /-- each recipient has been notified -/
  delivered : ∀ f ∈ x.fanOuts, ∀ userId ∈ f.recipients, ∃ nid n,
    x.notifications.lookup nid = some n ∧ n.slaEventId = some f.slaEventId ∧ n.userId = userId
  /-- nobody has two notifications of one event -/
  single : ∀ nid nid' n n', x.notifications.lookup nid = some n →
    x.notifications.lookup nid' = some n' → n.slaEventId = n'.slaEventId → n.userId = n'.userId →
    nid = nid'

/-- No unique key is written on both sides. -/
structure Apart (x y : Writes) : Prop where
  events : ∀ id, x.slaEvents.lookup id ≠ none → y.slaEvents.lookup id = none
  claims : ∀ id id' row row', x.slaEvents.lookup id = some row → y.slaEvents.lookup id' = some row' →
    row.event ≠ .resolved → row.ticketId = row'.ticketId → row.event ≠ row'.event
  notifications : ∀ id, x.notifications.lookup id ≠ none → y.notifications.lookup id = none

/-- `y` has the rows of `x`. -/
structure Extends (x y : Writes) : Prop where
  slaEvents : ∀ id row, x.slaEvents.lookup id = some row → y.slaEvents.lookup id = some row
  notifications : ∀ id n, x.notifications.lookup id = some n → y.notifications.lookup id = some n

section
variable {x y z : Writes} {pending : Option Uuid}

theorem Extends.refl (x : Writes) : Extends x x := ⟨fun _ _ h => h, fun _ _ h => h⟩

theorem Apart.symm (h : Apart x y) : Apart y x where
  events := by
    intro id hy
    by_contra hx
    exact hy (h.events id hx)
  claims := by
    intro id id' row row' hy hx hcounted hticket hevent
    exact h.claims id' id row' row hx hy (hevent ▸ hcounted) hticket.symm hevent.symm
  notifications := by
    intro id hy
    by_contra hx
    exact hy (h.notifications id hx)

/-- Who claims less stays apart. -/
theorem Apart.mono (h : Apart y z) (hxy : Extends x y) : Apart x z where
  events := by
    intro id hx
    obtain ⟨row, hrow⟩ := Option.ne_none_iff_exists'.mp hx
    exact h.events id (by simp [hxy.slaEvents id row hrow])
  claims := fun id id' row row' hx => h.claims id id' row row' (hxy.slaEvents id row hx)
  notifications := by
    intro id hx
    obtain ⟨n, hn⟩ := Option.ne_none_iff_exists'.mp hx
    exact h.notifications id (by simp [hxy.notifications id n hn])

theorem accounted_none : Accounted none .none where
  once := fun id id' row row' h => by cases h
  fanned := fun id => by simp [Writes.none]
  fannedOnce := by simp [Writes.none]
  notified := fun nid n h => by cases h
  delivered := fun f h => by cases h
  single := fun nid nid' n n' h => by cases h

theorem apart_none (x : Writes) : Apart .none x where
  events := fun id h => absurd rfl h
  claims := fun id id' row row' h => by cases h
  notifications := fun id h => absurd rfl h

theorem recorded_eq_true {slaEvents : Table Uuid SlaEvent} {ticketId : Uuid} {event : SlaEventType} :
    recorded slaEvents ticketId event = true ↔
      ∃ id row, slaEvents.lookup id = some row ∧ row.ticketId = ticketId ∧ row.event = event := by
  simp only [recorded, List.isEmpty_iff, decide_not, Bool.not_eq_true', decide_eq_false_iff_not,
    Table.select_eq_nil]
  push Not
  simp

/-- The writes that do not conflict are apart. -/
theorem conflicts_eq_false : x.conflicts y = false ↔ Apart x y := by
  simp only [Writes.conflicts, List.isEmpty_iff, decide_not, Bool.or_eq_false_iff,
    Bool.not_eq_false', decide_eq_true_eq, Table.select_eq_nil, Bool.and_eq_false_imp,
    decide_eq_false_iff_not]
  constructor
  -- the three ways to clash are an id of an event, a warning or breach of a ticket, an id of a notification
  · rintro ⟨hevents, hnotifications⟩
    constructor
    · intro id hx
      obtain ⟨row, hrow⟩ := Option.ne_none_iff_exists'.mp hx
      exact AList.lookup_eq_none.mpr (hevents id row hrow).1
    · intro id id' row row' hx hy hcounted hticket hevent
      have hfree := (hevents id row hx).2 (by simpa using hcounted)
      rw [← Bool.not_eq_true, recorded_eq_true] at hfree
      exact hfree ⟨id', row', hy, hticket.symm, hevent.symm⟩
    · intro id hx
      obtain ⟨n, hn⟩ := Option.ne_none_iff_exists'.mp hx
      exact AList.lookup_eq_none.mpr (hnotifications id n hn)
  · intro h
    constructor
    · intro id row hrow
      refine ⟨AList.lookup_eq_none.mp (h.events id (by simp [hrow])), ?_⟩
      intro hcounted
      rw [← Bool.not_eq_true, recorded_eq_true]
      rintro ⟨id', row', hrow', hticket, hevent⟩
      exact h.claims id id' row row' hrow hrow' (by simpa using hcounted) hticket.symm hevent.symm
    · intro id n hn
      exact AList.lookup_eq_none.mp (h.notifications id (by simp [hn]))

end

/-! ## What the statements write

One rule for the record, one for the fan-out. `Notified` is the fan-out without the event: new rows, one for
each user, and nothing else. -/

section
variable {scope : OrgScope} {ticketId : Uuid} {ticket : Ticket} {kind : NotificationKind} {db : Db}

/-- The event is not there, and then it is. -/
def Records (ticketId : Uuid) (kind : NotificationKind) (id : Uuid) (db db' : Db) : Prop :=
  recorded db.slaEvents ticketId (eventOf kind) = false ∧ db.slaEvents.lookup id = none ∧
    ∃ row : SlaEvent, row.ticketId = ticketId ∧ row.event = eventOf kind ∧
      db' = { db with slaEvents := AList.insert id row db.slaEvents }

theorem eventOf_ne_resolved (kind : NotificationKind) : eventOf kind ≠ .resolved := by
  cases kind with
  | slaWarning => decide
  | slaBreached => decide

theorem wp_recordDue {now occurredAt : Int} {id : Uuid} :
    Tx.wp (recordDue scope ticketId ticket now kind id occurredAt)
      (fun out db' => out = none ∨ out = some id ∧ Records ticketId kind id db db')
      (fun _ => True) db := by
  unfold recordDue recordOnce
  simp only [Tx.wp_bind, Tx.wp_orRaise, Tx.wp_ite, Tx.wp_store, Tx.wp_pure, Tx.wp_write, Tx.wp_raise,
    true_or, implies_true, and_true, true_and]
  intro dueAt _ _ hnew slaEvents hinsert _
  obtain ⟨hfresh, rfl⟩ := Table.insertNew_eq_some.mp hinsert
  refine .inr ⟨?_, hfresh, _, rfl, rfl, rfl⟩
  rw [← Bool.not_eq_true]
  exact fun hrecorded => hnew ⟨eventOf_ne_resolved kind, hrecorded⟩

/-- The notifications of the users have been added. -/
structure Notified (slaEventId : Uuid) (userIds : List Uuid) (before after : Table Uuid Notification) :
    Prop where
  kept : ∀ nid n, before.lookup nid = some n → after.lookup nid = some n
  added : ∀ nid n, before.lookup nid = none → after.lookup nid = some n →
    n.slaEventId = some slaEventId ∧ n.userId ∈ userIds
  delivered : ∀ userId ∈ userIds, ∃ nid n, before.lookup nid = none ∧ after.lookup nid = some n ∧
    n.slaEventId = some slaEventId ∧ n.userId = userId
  single : userIds.Nodup → ∀ nid nid' n n', before.lookup nid = none → before.lookup nid' = none →
    after.lookup nid = some n → after.lookup nid' = some n' → n.userId = n'.userId → nid = nid'

theorem wp_insertNotification {notice : Notice} {id userId : Uuid} :
    Tx.wp (insertNotification notice id userId)
      (fun _ db' => db.notifications.lookup id = none ∧ ∃ n : Notification,
        n.slaEventId = some notice.slaEventId ∧ n.userId = userId ∧
        db' = { db with notifications := AList.insert id n db.notifications })
      (fun _ => True) db := by
  unfold insertNotification
  dsimp only
  split
  · simp only [Tx.wp_bind, Tx.wp_store, Tx.wp_ite, Tx.wp_orRaise, Tx.wp_write, Tx.wp_raise,
      implies_true, and_true]
    intro notifications hinsert _
    obtain ⟨hfresh, rfl⟩ := Table.insertNew_eq_some.mp hinsert
    exact ⟨hfresh, _, rfl, rfl, rfl⟩
  · rw [Tx.wp_raise]
    trivial

theorem notified_nil {slaEventId : Uuid} {before : Table Uuid Notification} :
    Notified slaEventId [] before before where
  kept := fun nid n h => h
  added := fun nid n hnone hsome => by simp [hnone] at hsome
  delivered := by simp
  single := fun _ nid nid' n n' hnone _ hsome => by simp [hnone] at hsome

/-- One user more is notified first. -/
theorem Notified.cons {slaEventId id userId : Uuid} {userIds : List Uuid} {n : Notification}
    {before after : Table Uuid Notification} (hfresh : before.lookup id = none)
    (hevent : n.slaEventId = some slaEventId) (huser : n.userId = userId)
    (h : Notified slaEventId userIds (AList.insert id n before) after) :
    Notified slaEventId (userId :: userIds) before after := by
  have hid : after.lookup id = some n := h.kept id n (by simp)
  -- a row that is new is the first one or one of the others
  have hnew : ∀ nid m, before.lookup nid = none → after.lookup nid = some m →
      nid = id ∧ m = n ∨ nid ≠ id ∧ (AList.insert id n before).lookup nid = none := by
    intro nid m hnone hsome
    by_cases heq : nid = id
    · subst heq
      exact .inl ⟨rfl, Option.some.inj (hsome.symm.trans hid)⟩
    · exact .inr ⟨heq, by rwa [AList.lookup_insert_ne heq]⟩
  constructor
  · intro nid m hm
    have hne : nid ≠ id := by
      rintro rfl
      simp [hfresh] at hm
    apply h.kept nid m
    rwa [AList.lookup_insert_ne hne]
  · intro nid m hnone hsome
    rcases hnew nid m hnone hsome with ⟨rfl, rfl⟩ | ⟨-, hnone'⟩
    · exact ⟨hevent, by simp [huser]⟩
    · obtain ⟨hm, hmem⟩ := h.added nid m hnone' hsome
      exact ⟨hm, List.mem_cons_of_mem _ hmem⟩
  -- delivered: to the first user by the first row, to the others by the rest
  · intro userId' hmem
    rcases List.mem_cons.mp hmem with rfl | hmem
    · exact ⟨id, n, hfresh, hid, hevent, huser⟩
    · obtain ⟨nid, m, hnone, hsome, hm⟩ := h.delivered userId' hmem
      refine ⟨nid, m, ?_, hsome, hm⟩
      rw [Table.lookup_insert] at hnone
      split at hnone
      · cases hnone
      · exact hnone
  -- single: the first user is not among the others
  · intro hnodup nid nid' m m' hnone hnone' hsome hsome' hsame
    obtain ⟨hnotMem, hnodup⟩ := List.nodup_cons.mp hnodup
    rcases hnew nid m hnone hsome with ⟨rfl, rfl⟩ | ⟨-, hother⟩
    · rcases hnew nid' m' hnone' hsome' with ⟨rfl, -⟩ | ⟨-, hother'⟩
      · rfl
      · have hmem := (h.added nid' m' hother' hsome').2
        rw [← hsame, huser] at hmem
        exact absurd hmem hnotMem
    · rcases hnew nid' m' hnone' hsome' with ⟨rfl, rfl⟩ | ⟨-, hother'⟩
      · have hmem := (h.added nid m hother hsome).2
        rw [hsame, huser] at hmem
        exact absurd hmem hnotMem
      · exact h.single hnodup nid nid' m m' hother hother' hsome hsome' hsame

theorem wp_insertNotifications {notice : Notice} {ids : Nat → Uuid} {n : Nat} {userIds : List Uuid} :
    Tx.wp (insertNotifications notice ids n userIds)
      (fun _ db' => ∃ notifications, db' = { db with notifications := notifications } ∧
        Notified notice.slaEventId userIds db.notifications notifications)
      (fun _ => True) db := by
  induction userIds generalizing n db with
  | nil =>
    rw [insertNotifications, Tx.wp_pure]
    exact ⟨db.notifications, rfl, notified_nil⟩
  | cons userId rest ih =>
    rw [insertNotifications, Tx.wp_bind]
    apply Tx.wp_mono wp_insertNotification
    · rintro _ db₁ ⟨hfresh, row, hevent, huser, rfl⟩
      apply Tx.wp_mono ih
      · rintro _ db₂ ⟨notifications, rfl, hrest⟩
        exact ⟨notifications, rfl, hrest.cons hfresh hevent huser⟩
      · exact fun _ he => he
    · exact fun _ he => he

/-- The recipients are different users. -/
theorem resolveRecipients_nodup (scope : OrgScope) (ticket : Ticket) (db : Db) :
    ((resolveRecipients scope ticket db).map (·.1)).Nodup := by
  unfold resolveRecipients
  set admins := db.users.select _
  have hadmins : (admins.map (·.1)).Nodup := Table.select_keys_nodup _ _
  split
  · exact hadmins
  -- the agent is appended only if not among the admins
  next agentId _ =>
    split
    · exact hadmins
    · dsimp only
      split_ifs with hnew
      · rw [List.map_append, List.nodup_append]
        refine ⟨hadmins, by simp, ?_⟩
        intro id hid id' hid' heq
        obtain ⟨admin, hmem, rfl⟩ := List.mem_map.mp hid
        simp only [List.map_cons, List.map_nil, List.mem_singleton] at hid'
        exact hnew.2 admin hmem (heq.trans hid')
      · exact hadmins

theorem wp_fanOut {slaEventId : Uuid} {ids : Nat → Uuid} :
    Tx.wp (fanOut scope ticketId ticket slaEventId kind ids)
      (fun recipients db' => recipients = resolveRecipients scope ticket db ∧
        ∃ notifications, db' = { db with notifications := notifications } ∧
          Notified slaEventId (recipients.map (·.1)) db.notifications notifications)
      (fun _ => True) db := by
  unfold fanOut
  simp only [Tx.wp_bind, Tx.wp_store]
  apply Tx.wp_mono wp_insertNotifications
  · intro _ db' h
    rw [Tx.wp_pure]
    exact ⟨rfl, h⟩
  · exact fun _ he => he

end

/-! ## The accounts of a pass

What the pass has written by now, and what it falls back to if the ticket fails. Recording an event opens an
entry, the fan-out closes it, and a commit puts two closed accounts together. -/

/-- The event that is recorded and not fanned out yet. -/
def Stage.pending : Stage → Option Uuid
  | .notify _ slaEventId => some slaEventId
  | .record _ | .release => none

def Pass.pending (pass : Pass) : Option Uuid := pass.attempt.bind fun attempt => attempt.stage.pending

structure PassOk (committed : Writes) (pass : Pass) : Prop where
  released : Accounted none pass.released
  held : Accounted pass.pending pass.held
  keeps : Extends pass.released pass.held
  apart : Apart pass.held committed

section
variable {x y : Writes} {id : Uuid}

/-- An event is recorded. -/
theorem Accounted.record {row : SlaEvent} (h : Accounted none x) (hfresh : x.slaEvents.lookup id = none)
    (hcounted : row.event ≠ .resolved) (hfree : ∀ id' row', x.slaEvents.lookup id' = some row' →
      row'.ticketId = row.ticketId → row'.event ≠ row.event)
    (hevents : ∀ id', y.slaEvents.lookup id' = if id' = id then some row else x.slaEvents.lookup id')
    (hnotifications : ∀ nid, y.notifications.lookup nid = x.notifications.lookup nid)
    (hfanOuts : y.fanOuts = x.fanOuts) : Accounted (some id) y := by
  have hnot : id ∉ x.fanOuts.map (·.slaEventId) := by
    intro hmem
    obtain ⟨f, hf, heq⟩ := List.mem_map.mp hmem
    obtain ⟨row', hrow', -⟩ := (h.fanned id).mpr (.inr ⟨f, hf, heq⟩)
    rw [hfresh] at hrow'
    cases hrow'
  constructor
  -- once: the ticket had no such event
  · intro id₁ id₂ row₁ row₂ h₁ h₂ hcounted₁ hticket hevent
    rw [hevents] at h₁ h₂
    split at h₁
    next heq₁ =>
      obtain rfl := Option.some.inj h₁
      split at h₂
      next heq₂ => rw [heq₁, heq₂]
      next => exact absurd hevent.symm (hfree id₂ row₂ h₂ hticket.symm)
    next =>
      split at h₂
      next =>
        obtain rfl := Option.some.inj h₂
        exact absurd hevent (hfree id₁ row₁ h₁ hticket)
      next => exact h.once id₁ id₂ row₁ row₂ h₁ h₂ hcounted₁ hticket hevent
  · intro id'
    rw [hevents, hfanOuts]
    by_cases heq : id' = id
    · simp [heq, hcounted]
    · simpa [heq, Ne.symm heq] using h.fanned id'
  · rw [hfanOuts]
    simpa using ⟨by simpa using hnot, h.fannedOnce⟩
  · intro nid n hn
    rw [hfanOuts]
    exact h.notified nid n (hnotifications nid ▸ hn)
  · intro f hf userId hmem
    rw [hfanOuts] at hf
    simpa only [hnotifications] using h.delivered f hf userId hmem
  · intro nid nid' n n' hn hn'
    exact h.single nid nid' n n' (hnotifications nid ▸ hn) (hnotifications nid' ▸ hn')

/-- The event that was pending is fanned out. -/
theorem Accounted.fanOut {userIds : List Uuid} (h : Accounted (some id) x) (hnodup : userIds.Nodup)
    (hnotified : Notified id userIds x.notifications y.notifications)
    (hevents : ∀ id', y.slaEvents.lookup id' = x.slaEvents.lookup id')
    (hfanOuts : y.fanOuts = ⟨id, userIds⟩ :: x.fanOuts) : Accounted none y := by
  have hnot : ∀ f ∈ x.fanOuts, f.slaEventId ≠ id := by
    intro f hf heq
    have hnodup : (id :: x.fanOuts.map (·.slaEventId)).Nodup := h.fannedOnce
    exact (List.nodup_cons.mp hnodup).1 (List.mem_map.mpr ⟨f, hf, heq⟩)
  -- a notification is an old one, or one of the new ones
  have hcases : ∀ nid n, y.notifications.lookup nid = some n →
      x.notifications.lookup nid = some n ∨ x.notifications.lookup nid = none := by
    intro nid n hn
    cases hold : x.notifications.lookup nid with
    | none => exact .inr rfl
    | some m =>
      rw [hnotified.kept nid m hold] at hn
      exact .inl hn
  constructor
  · intro id₁ id₂ row₁ row₂ h₁ h₂
    exact h.once id₁ id₂ row₁ row₂ (hevents id₁ ▸ h₁) (hevents id₂ ▸ h₂)
  · intro id'
    rw [hevents, h.fanned, hfanOuts]
    simp
  · rw [hfanOuts]
    exact h.fannedOnce
  · intro nid n hn
    rw [hfanOuts]
    rcases hcases nid n hn with hold | hnew
    · obtain ⟨f, hf, hn⟩ := h.notified nid n hold
      exact ⟨f, List.mem_cons_of_mem _ hf, hn⟩
    · exact ⟨⟨id, userIds⟩, List.mem_cons_self, hnotified.added nid n hnew hn⟩
  · intro f hf userId hmem
    rw [hfanOuts] at hf
    rcases List.mem_cons.mp hf with rfl | hf
    · obtain ⟨nid, n, -, hn⟩ := hnotified.delivered userId hmem
      exact ⟨nid, n, hn⟩
    · obtain ⟨nid, n, hold, hn⟩ := h.delivered f hf userId hmem
      exact ⟨nid, n, hnotified.kept nid n hold, hn⟩
  -- single: an old notification is not of the event that was pending
  · have hmixed : ∀ nid nid' n n', x.notifications.lookup nid = some n →
        x.notifications.lookup nid' = none → y.notifications.lookup nid' = some n' →
        n.slaEventId ≠ n'.slaEventId := by
      intro nid nid' n n' hold hnew hn' hsame
      obtain ⟨f, hf, hfid, -⟩ := h.notified nid n hold
      rw [hfid, (hnotified.added nid' n' hnew hn').1] at hsame
      exact hnot f hf (Option.some.inj hsame)
    intro nid nid' n n' hn hn' hsame huser
    rcases hcases nid n hn with hold | hnew
    · rcases hcases nid' n' hn' with hold' | hnew'
      · exact h.single nid nid' n n' hold hold' hsame huser
      · exact absurd hsame (hmixed nid nid' n n' hold hnew' hn')
    · rcases hcases nid' n' hn' with hold' | hnew'
      · exact absurd hsame.symm (hmixed nid' nid n' n hold' hnew hn)
      · exact hnotified.single hnodup nid nid' n n' hnew hnew' hn hn' huser

/-- What is committed, and what is committed now. -/
theorem Accounted.overlay (hx : Accounted none x) (hy : Accounted none y) (h : Apart x y) :
    Accounted none ⟨Table.overlay x.slaEvents y.slaEvents, Table.overlay x.notifications y.notifications,
      x.fanOuts ++ y.fanOuts⟩ := by
  have hdisjoint : ∀ f ∈ x.fanOuts, ∀ f' ∈ y.fanOuts, f.slaEventId ≠ f'.slaEventId := by
    intro f hf f' hf' heq
    obtain ⟨row, hrow, -⟩ := (hx.fanned f.slaEventId).mpr (.inr ⟨f, hf, rfl⟩)
    obtain ⟨row', hrow', -⟩ := (hy.fanned f.slaEventId).mpr (.inr ⟨f', hf', heq.symm⟩)
    rw [h.events f.slaEventId (by simp [hrow])] at hrow'
    cases hrow'
  have hmixed : ∀ nid nid' n n', x.notifications.lookup nid = some n →
      y.notifications.lookup nid' = some n' → n.slaEventId ≠ n'.slaEventId := by
    intro nid nid' n n' hn hn' hsame
    obtain ⟨f, hf, hfid, -⟩ := hx.notified nid n hn
    obtain ⟨f', hf', hfid', -⟩ := hy.notified nid' n' hn'
    rw [hfid, hfid'] at hsame
    exact hdisjoint f hf f' hf' (Option.some.inj hsame)
  constructor
  -- once: two rows of one side, or one of each, which are of different tickets or events
  · intro id₁ id₂ row₁ row₂ h₁ h₂ hcounted hticket hevent
    rcases Table.lookup_overlay_eq_some.mp h₁ with h₁ | ⟨-, h₁⟩
    · rcases Table.lookup_overlay_eq_some.mp h₂ with h₂ | ⟨-, h₂⟩
      · exact hx.once id₁ id₂ row₁ row₂ h₁ h₂ hcounted hticket hevent
      · exact absurd hevent (h.claims id₁ id₂ row₁ row₂ h₁ h₂ hcounted hticket)
    · rcases Table.lookup_overlay_eq_some.mp h₂ with h₂ | ⟨-, h₂⟩
      · exact absurd hevent.symm
          (h.claims id₂ id₁ row₂ row₁ h₂ h₁ (hevent ▸ hcounted) hticket.symm)
      · exact hy.once id₁ id₂ row₁ row₂ h₁ h₂ hcounted hticket hevent
  · intro id'
    simp only [List.mem_append, or_and_right, exists_or, false_or, reduceCtorEq]
    have hfx := hx.fanned id'
    have hfy := hy.fanned id'
    simp only [reduceCtorEq, false_or] at hfx hfy
    rw [← hfx, ← hfy]
    constructor
    · rintro ⟨row, hrow, hcounted⟩
      rcases Table.lookup_overlay_eq_some.mp hrow with hrow | ⟨-, hrow⟩
      · exact .inl ⟨row, hrow, hcounted⟩
      · exact .inr ⟨row, hrow, hcounted⟩
    · rintro (⟨row, hrow, hcounted⟩ | ⟨row, hrow, hcounted⟩)
      · exact ⟨row, Table.lookup_overlay_eq_some.mpr (.inl hrow), hcounted⟩
      · exact ⟨row, Table.lookup_overlay_eq_some.mpr
          (.inr ⟨h.symm.events id' (by simp [hrow]), hrow⟩), hcounted⟩
  · show ((x.fanOuts ++ y.fanOuts).map _).Nodup
    rw [List.map_append, List.nodup_append]
    refine ⟨hx.fannedOnce, hy.fannedOnce, ?_⟩
    intro a ha b hb
    obtain ⟨f, hf, rfl⟩ := List.mem_map.mp ha
    obtain ⟨f', hf', rfl⟩ := List.mem_map.mp hb
    exact hdisjoint f hf f' hf'
  · intro nid n hn
    rcases Table.lookup_overlay_eq_some.mp hn with hn | ⟨-, hn⟩
    · obtain ⟨f, hf, h⟩ := hx.notified nid n hn
      exact ⟨f, List.mem_append_left _ hf, h⟩
    · obtain ⟨f, hf, h⟩ := hy.notified nid n hn
      exact ⟨f, List.mem_append_right _ hf, h⟩
  · intro f hf userId hmem
    rcases List.mem_append.mp hf with hf | hf
    · obtain ⟨nid, n, hn, h⟩ := hx.delivered f hf userId hmem
      exact ⟨nid, n, Table.lookup_overlay_eq_some.mpr (.inl hn), h⟩
    · obtain ⟨nid, n, hn, h'⟩ := hy.delivered f hf userId hmem
      exact ⟨nid, n, Table.lookup_overlay_eq_some.mpr
        (.inr ⟨h.symm.notifications nid (by simp [hn]), hn⟩), h'⟩
  -- single: rows of both sides are of different events
  · intro nid nid' n n' hn hn' hsame huser
    rcases Table.lookup_overlay_eq_some.mp hn with hn | ⟨-, hn⟩
    · rcases Table.lookup_overlay_eq_some.mp hn' with hn' | ⟨-, hn'⟩
      · exact hx.single nid nid' n n' hn hn' hsame huser
      · exact absurd hsame (hmixed nid nid' n n' hn hn')
    · rcases Table.lookup_overlay_eq_some.mp hn' with hn' | ⟨-, hn'⟩
      · exact absurd hsame.symm (hmixed nid' nid n' n hn' hn)
      · exact hy.single nid nid' n n' hn hn' hsame huser

end

end Helpdesk.Sla
