import Helpdesk.Library.Run
import Helpdesk.Tickets.Classification

/-! # Who decides a ticket's taxonomy

`create_ticket`, `update_ticket`, the classification jobs and the sweep as one system. An update is
several steps, since other transactions get in between its reads and its writes; a job that has been
queued may be delivered at any time and any number of times.

`classify_ticket` looks at `classification_status` alone. **`humanChoice_final`**: a choice that staff
make on a ticket that is already classified is final for the machine. A choice made while the ticket
is pending, at its creation or later, is not: the next delivery overwrites it
(`choice_at_creation_overwritten`). -/

namespace Helpdesk.Tickets

open Run WriteBack

/-- A call of `update_ticket` that has loaded its ticket. -/
structure UpdateCall where
  scope : OrgScope
  ticketId : Uuid
  patch : TicketPatch
  loaded : Ticket

/-- How far a call has come. -/
inductive UpdatePhase where
  | loaded (u : UpdateCall)
  | resolved (u : UpdateCall) (assigned : TicketColumns) (d : UpdateDraws)

def UpdatePhase.call : UpdatePhase → UpdateCall
  | loaded u => u
  | resolved u _ _ => u

/-- The database, the calls of `update_ticket` in flight, and the queued `classify_ticket` jobs. -/
structure World where
  db : Db
  updates : Table Nat UpdatePhase
  jobs : List (Uuid × Uuid)

inductive Event where
  | createTicket (scope : OrgScope) (ticketId : Uuid) (anchor : Int) (p : TicketCreate)
  | beginUpdate (request : Nat) (scope : OrgScope) (ticketId : Uuid) (patch : TicketPatch)
  | resolveUpdate (request : Nat) (d : UpdateDraws)
  | commitUpdate (request : Nat)
  | abortUpdate (request : Nat)
  /-- Deliver the queued job number `job`, which stays queued for a later delivery. -/
  | deliver (job : Nat) (classify : Classifier) (jobTry : Nat)
  | sweep (now : Int)

/-- The jobs a created ticket adds to the queue. -/
def enqueuedByCreation (ticketId : Uuid) : Except Raised Ticket → List (Uuid × Uuid)
  | .ok ticket =>
    if ticket.classificationStatus = .pending then [(ticketId, ticket.organizationId)] else []
  | .error _ => []

def Event.step (env : Env) (w : World) : Event → World
  | createTicket scope ticketId anchor p =>
    let (out, db) := Tx.settle (Tickets.createTicket env scope ticketId anchor p) w.db
    { w with db := db, jobs := w.jobs ++ enqueuedByCreation ticketId out }
  | beginUpdate request scope ticketId patch =>
    match (Tx.settle (loadTicket scope ticketId patch) w.db).1 with
    | .ok loaded =>
      { w with updates := AList.insert request (.loaded ⟨scope, ticketId, patch, loaded⟩) w.updates }
    | .error _ => w
  | resolveUpdate request d =>
    match w.updates.lookup request with
    | some (.loaded u) =>
      match (Tx.settle (Tickets.resolveUpdate env u.scope u.loaded u.patch d) w.db).1 with
      | .ok assigned =>
        { w with updates := AList.insert request (.resolved u assigned d) w.updates }
      | .error _ => { w with updates := w.updates.erase request }
    | _ => w
  | commitUpdate request =>
    match w.updates.lookup request with
    | some (.resolved u assigned d) =>
      { w with
        db := (Tx.settle (Tickets.commitUpdate u.scope u.ticketId u.loaded assigned u.patch d) w.db).2
        updates := w.updates.erase request }
    | _ => w
  | abortUpdate request => { w with updates := w.updates.erase request }
  | deliver job classify jobTry =>
    match w.jobs[job]? with
    | some (ticketId, organizationId) =>
      { w with
        db := (Tx.settle (classifyTicket env classify jobTry ticketId organizationId) w.db).2 }
    | none => w
  | sweep now => { w with jobs := w.jobs ++ staleTickets w.db now }

/-! ## What is said about a ticket

Who changes the taxonomy, and with what success: a choice that is rolled back is none. Staff means a caller
whose role is one of staff, which `checkUpdateRoles` has looked at. -/

/-- `category_id`, `urgency_id` and `sla_due_at` of a ticket. -/
def taxonomy (db : Db) (id : Uuid) : Option (Option Uuid × Option Uuid × Option Int) :=
  (db.tickets.lookup id).map fun t => (t.categoryId, t.urgencyId, t.slaDueAt)

/-- The ticket exists and is classified. -/
def Classified (db : Db) (id : Uuid) : Prop :=
  ∃ t, db.tickets.lookup id = some t ∧ t.classificationStatus = .classified

theorem classified_iff {db : Db} {id : Uuid} :
    Classified db id ↔ (db.tickets.lookup id).map (·.classificationStatus) = some .classified := by
  simp [Classified]

/-- Staff set the category or the urgency of the ticket in an update, and this is its commit. -/
def StaffSetsTaxonomy (w : World) (id : Uuid) : Event → Prop
  | .commitUpdate request =>
    match w.updates.lookup request with
    | some (.resolved u _ _) => u.ticketId = id ∧ u.scope.role.isStaff ∧ u.patch.setsTaxonomy
    | _ => False
  | _ => False

/-- The event succeeds in what it does. -/
def Succeeds (env : Env) (w : World) : Event → Bool
  | .createTicket scope ticketId anchor p =>
    (Tx.settle (createTicket env scope ticketId anchor p) w.db).1.isOk
  | .commitUpdate request =>
    match w.updates.lookup request with
    | some (.resolved u assigned d) =>
      (Tx.settle (commitUpdate u.scope u.ticketId u.loaded assigned u.patch d) w.db).1.isOk
    | _ => false
  | _ => true

/-- A human chooses the ticket's taxonomy: with both ids at its creation, or as staff. -/
def HumanChoice (env : Env) (w : World) (id : Uuid) (e : Event) : Prop :=
  Succeeds env w e ∧
    match e with
    | .createTicket _ ticketId _ p => ticketId = id ∧ p.categoryId ≠ none ∧ p.urgencyId ≠ none
    | e => StaffSetsTaxonomy w id e

/-! ## One step

A call in flight carries what was looked up for it, so the invariant of the world is about the calls as well.
Each writer then keeps the taxonomy of a classified ticket, the worker because it looks at the status first. -/

/-- What `resolveUpdate` guarantees of a call in flight. -/
def UpdatePhase.WellFormed : UpdatePhase → Prop
  | loaded u => u.patch.setsTaxonomy → u.scope.role.isStaff
  | resolved u assigned _ => (u.patch.setsTaxonomy → u.scope.role.isStaff) ∧
      assigned.classificationStatus = u.loaded.classificationStatus ∧
      (u.patch.setsTaxonomy = false →
        assigned.categoryId = u.loaded.categoryId ∧ assigned.urgencyId = u.loaded.urgencyId ∧
          assigned.slaDueAt = u.loaded.slaDueAt)

def World.WellFormed (w : World) : Prop :=
  ∀ request phase, w.updates.lookup request = some phase → phase.WellFormed

variable {env : Env} {w : World} {id : Uuid}

theorem wellFormed_insert {request : Nat} {phase : UpdatePhase} {db : Db}
    {jobs : List (Uuid × Uuid)} (hw : w.WellFormed) (hphase : phase.WellFormed) :
    World.WellFormed ⟨db, AList.insert request phase w.updates, jobs⟩ := by
  intro request' phase' h
  simp only [Table.lookup_insert] at h
  split at h
  · cases h
    exact hphase
  · exact hw request' phase' h

theorem wellFormed_erase {request : Nat} {db : Db} {jobs : List (Uuid × Uuid)}
    (hw : w.WellFormed) : World.WellFormed ⟨db, w.updates.erase request, jobs⟩ := by
  intro request' phase' h
  by_cases heq : request' = request
  · subst heq
    simp at h
  · exact hw request' phase' (by simpa [AList.lookup_erase_ne heq] using h)

theorem wellFormed_step (e : Event) (hw : w.WellFormed) : (e.step env w).WellFormed := by
  cases e with
  | createTicket scope ticketId anchor p => exact hw
  | beginUpdate request scope ticketId patch =>
    simp only [Event.step]
    split
    next loaded hload =>
      refine wellFormed_insert hw ?_
      rcases Tx.settle_ok hload with ⟨db', hexec⟩
      exact (loadTicket_ok hexec).1
    · exact hw
  | resolveUpdate request d =>
    simp only [Event.step]
    split
    next u hu =>
      split
      next assigned hresolve =>
        refine wellFormed_insert hw ⟨hw request _ hu, ?_⟩
        rcases Tx.settle_ok hresolve with ⟨db', hexec⟩
        obtain ⟨hassigned, hkept⟩ := resolveUpdate_ok hexec
        refine ⟨?_, hkept⟩
        rw [hassigned]
        unfold TicketPatch.assignStatus
        split <;> rfl
      · exact wellFormed_erase hw
    · exact hw
  | commitUpdate request =>
    simp only [Event.step]
    split
    · exact wellFormed_erase hw
    · exact hw
  | abortUpdate request => exact wellFormed_erase hw
  | deliver job classify jobTry =>
    simp only [Event.step]
    split
    · exact hw
    · exact hw
  | sweep now => exact hw

/-- The ticket is stored, classified, and with the taxonomy of `t`. -/
def KeepsTaxonomy (t : Ticket) (id : Uuid) (db : Db) : Prop :=
  ∃ t', db.tickets.lookup id = some t' ∧ t'.classificationStatus = .classified ∧
    t'.categoryId = t.categoryId ∧ t'.urgencyId = t.urgencyId ∧ t'.slaDueAt = t.slaDueAt

section
variable {t : Ticket} {db db' : Db} (hrow : db.tickets.lookup id = some t)
  (hclassified : t.classificationStatus = .classified)
include hrow hclassified

theorem keepsTaxonomy_same (h : db'.tickets.lookup id = db.tickets.lookup id) :
    KeepsTaxonomy t id db' :=
  ⟨t, h.trans hrow, hclassified, rfl, rfl, rfl⟩

/-- A new ticket is another one. -/
theorem keepsTaxonomy_createTicket (env : Env) (scope : OrgScope) (ticketId : Uuid) (anchor : Int)
    (p : TicketCreate) :
    KeepsTaxonomy t id (Tx.settle (createTicket env scope ticketId anchor p) db).2 := by
  refine Tx.settle_post (P := KeepsTaxonomy t id) ?_ (keepsTaxonomy_same hrow hclassified rfl)
  apply wp_createTicket
  · intro row hnew _ _ _
    have hne : id ≠ ticketId := by
      rintro rfl
      rw [hrow] at hnew
      cases hnew
    apply keepsTaxonomy_same hrow hclassified
    exact AList.lookup_insert_ne hne
  · exact fun _ _ => trivial

/-- **The guard**: a delivery does nothing to a ticket that is classified. -/
theorem keepsTaxonomy_classifyTicket (env : Env) (classify : Classifier) (jobTry : Nat)
    (ticketId organizationId : Uuid) :
    KeepsTaxonomy t id
      (Tx.settle (classifyTicket env classify jobTry ticketId organizationId) db).2 := by
  refine Tx.settle_post (P := KeepsTaxonomy t id) ?_ (keepsTaxonomy_same hrow hclassified rfl)
  apply wp_classifyTicket
  · intro db' htickets
    exact keepsTaxonomy_same hrow hclassified (by rw [htickets])
  · intro ticket row db' hticket hpending _ htickets
    have hne : id ≠ ticketId := by
      rintro rfl
      rw [hrow] at hticket
      cases hticket
      rw [hclassified] at hpending
      cases hpending
    apply keepsTaxonomy_same hrow hclassified
    rw [htickets, Table.lookup_modify_of_ne _ hne]
  · exact fun _ _ => trivial

/-- An update of another ticket, or one that leaves the taxonomy out, keeps it. -/
theorem keepsTaxonomy_commitUpdate {u : UpdateCall} {assigned : TicketColumns} {d : UpdateDraws}
    (hphase : (UpdatePhase.resolved u assigned d).WellFormed)
    (hother : u.ticketId ≠ id ∨ u.patch.setsTaxonomy = false) :
    KeepsTaxonomy t id
      (Tx.settle (commitUpdate u.scope u.ticketId u.loaded assigned u.patch d) db).2 := by
  refine Tx.settle_post (P := KeepsTaxonomy t id) ?_ (keepsTaxonomy_same hrow hclassified rfl)
  apply wp_commitUpdate
  · intro current row db' hcurrent hcols htickets
    -- this ticket, whose taxonomy is left out, or another one
    by_cases hid : id = u.ticketId
    · subst hid
      obtain rfl : current = t := Option.some.inj (hcurrent.symm.trans hrow)
      obtain ⟨-, hstatus, hkept⟩ := hphase
      obtain ⟨hcategory, hurgency, hdue⟩ := hkept (hother.resolve_left (by simp))
      refine ⟨row, by simp [htickets, hrow], ?_⟩
      rw [hcols]
      simp [TicketColumns.writeBack, hstatus, hcategory, hurgency, hdue, hclassified]
    · apply keepsTaxonomy_same hrow hclassified
      rw [htickets, Table.lookup_modify_of_ne _ hid]
  · exact fun _ _ => trivial
  · exact fun _ _ _ => trivial

/-- Any update leaves a classified ticket classified. -/
theorem classified_commitUpdate {u : UpdateCall} {assigned : TicketColumns} {d : UpdateDraws}
    (hphase : (UpdatePhase.resolved u assigned d).WellFormed) :
    Classified (Tx.settle (commitUpdate u.scope u.ticketId u.loaded assigned u.patch d) db).2
      id := by
  refine Tx.settle_post (P := (Classified · id)) ?_ ⟨t, hrow, hclassified⟩
  apply wp_commitUpdate
  · intro current row db' hcurrent hcols htickets
    by_cases hid : id = u.ticketId
    · subst hid
      obtain rfl : current = t := Option.some.inj (hcurrent.symm.trans hrow)
      refine ⟨row, by simp [htickets, hrow], ?_⟩
      rw [hcols]
      simp [TicketColumns.writeBack, hphase.2.1, hclassified]
    · refine ⟨t, ?_, hclassified⟩
      rw [htickets, Table.lookup_modify_of_ne _ hid, hrow]
  · exact fun _ _ => trivial
  · exact fun _ _ _ => trivial

end

/-- **Step lemma**: a classified ticket stays classified, and nobody but staff changes its
    taxonomy. -/
theorem classified_step (hw : w.WellFormed) (hclassified : Classified w.db id) (e : Event) :
    Classified (e.step env w).db id ∧
      (¬ StaffSetsTaxonomy w id e → taxonomy (e.step env w).db id = taxonomy w.db id) := by
  obtain ⟨t, hrow, hstatus⟩ := hclassified
  have hkeeps : ∀ {db' : Db}, KeepsTaxonomy t id db' →
      Classified db' id ∧ taxonomy db' id = taxonomy w.db id := by
    rintro db' ⟨t', hrow', hstatus', hcategory, hurgency, hdue⟩
    refine ⟨⟨t', hrow', hstatus'⟩, ?_⟩
    simp [taxonomy, hrow, hrow', hcategory, hurgency, hdue]
  have hsame : Classified w.db id ∧ (¬ StaffSetsTaxonomy w id e →
      taxonomy w.db id = taxonomy w.db id) := ⟨⟨t, hrow, hstatus⟩, fun _ => rfl⟩
  cases e with
  -- another ticket
  | createTicket scope ticketId anchor p =>
    have h := hkeeps (keepsTaxonomy_createTicket hrow hstatus env scope ticketId anchor p)
    exact ⟨h.1, fun _ => h.2⟩
  | beginUpdate request scope ticketId patch =>
    simp only [Event.step]
    split <;> exact hsame
  | resolveUpdate request d =>
    simp only [Event.step]
    split
    · split <;> exact hsame
    · exact hsame
  | commitUpdate request =>
    simp only [Event.step]
    split
    -- an update that sets the taxonomy of this ticket is one of staff
    next u assigned d hu =>
      have hphase := hw request _ hu
      refine ⟨classified_commitUpdate hrow hstatus hphase, fun hstaff => ?_⟩
      refine (hkeeps (keepsTaxonomy_commitUpdate hrow hstatus hphase ?_)).2
      by_contra hno
      rw [not_or, Classical.not_not, Bool.not_eq_false] at hno
      apply hstaff
      simp only [StaffSetsTaxonomy, hu]
      exact ⟨hno.1, hphase.1 hno.2, hno.2⟩
    · exact hsame
  | abortUpdate request => exact hsame
  | deliver job classify jobTry =>
    simp only [Event.step]
    split
    -- the guard, or another ticket
    next ticketId organizationId _ =>
      have h := hkeeps (keepsTaxonomy_classifyTicket hrow hstatus env classify jobTry ticketId
        organizationId)
      exact ⟨h.1, fun _ => h.2⟩
    · exact hsame
  | sweep now => exact hsame

/-! ## Runs

Once classified, a ticket stays so, and the step lemma applies at every event from there on. -/

/-- What a classified ticket keeps, it keeps over a run. -/
theorem classified_run (hw : w.WellFormed) (hclassified : Classified w.db id)
    (events : List Event) :
    AllSteps (Event.step env)
      (fun w e => ¬ StaffSetsTaxonomy w id e → taxonomy (e.step env w).db id = taxonomy w.db id)
      w events := by
  have hinv : AllSteps (Event.step env)
      (fun w e => (w.WellFormed ∧ Classified w.db id) ∧ True) w events :=
    allSteps_of_inv (fun w e h _ => ⟨wellFormed_step e h.1, (classified_step h.1 h.2 e).1⟩)
      ⟨hw, hclassified⟩ (allSteps_of_forall (fun _ _ => trivial) w events)
  exact hinv.mono fun w e h => (classified_step h.1.1 h.1.2 e).2

/-- **A human choice is final**, in a run that makes its choices for the ticket only once the ticket
    is classified: whatever comes after a choice, only staff change the ticket's category, urgency
    and due date. -/
theorem humanChoice_final (env : Env) (w : World) (hstart : w.updates = ∅) (id : Uuid)
    (events : List Event)
    (hchoices : AllSteps (Event.step env)
      (fun w e => HumanChoice env w id e → Classified w.db id) w events)
    (pre post : List Event) (choice : Event) (hevents : events = pre ++ choice :: post)
    (hchoice : HumanChoice env (run (Event.step env) w pre) id choice) :
    AllSteps (Event.step env)
      (fun w e => ¬ StaffSetsTaxonomy w id e → taxonomy (e.step env w).db id = taxonomy w.db id)
      (choice.step env (run (Event.step env) w pre)) post := by
  have hw : w.WellFormed := by
    intro request phase h
    rw [hstart] at h
    simp at h
  have hw' : (run (Event.step env) w pre).WellFormed :=
    inv_of_always (fun _ e h => wellFormed_step e h) hw pre
  have hclassified := allSteps_iff.mp hchoices pre choice post hevents hchoice
  exact classified_run (wellFormed_step choice hw') (classified_step hw' hclassified choice).1 post

/-- Two categories and two urgency levels, the second ones the classifier's choice. -/
def taxonomyDb : Db :=
  { Db.empty with
    organizations := AList.insert 1 ⟨"widget-1", none, none, "UTC", []⟩ ∅
    users := AList.insert 10 ⟨some 1, "Agent", "agent@example.com", .agent, none, .active, none⟩ ∅
    categories := AList.insert 21 ⟨1, "Plumbing", none, true⟩
      (AList.insert 22 ⟨1, "Heating", none, true⟩ ∅)
    urgencyLevels := AList.insert 31 ⟨1, "Low", none, 48, 1, true, false⟩
      (AList.insert 32 ⟨1, "High", none, 4, 2, true, false⟩ ∅) }

def taxonomyEnv : Env := ⟨fun _ => none, fun s => String.ofList (s.toList.map Char.toLower)⟩

/-- A delivery of the first job, with a classifier that has its own view. -/
def deliverFirst : Event :=
  .deliver 0 (fun _ _ _ => .result ⟨22, 32, none, none, none, none, none⟩) 1

/-- A ticket that has been classified as "Plumbing" and "Low", with a job of it still queued. -/
def classifiedWorld : World where
  db :=
    { taxonomyDb with
      tickets := AList.insert 50
        { organizationId := 1
          userId := 10
          propertyId := none
          contractId := none
          title := "Leak"
          description := none
          categoryId := some 21
          urgencyId := some 31
          channel := .web
          status := .open
          classificationStatus := .classified
          agentId := none
          slaDueAt := some (days 739002)
          closedAt := none
          channelMetadata := none
          createdAt := days 739000
          classified_has_taxonomy := by decide
          closed_at_matches_status := by decide
          title_not_blank := by decide } ∅ }
  updates := ∅
  jobs := [(50, 1)]

def recategorize : List Event :=
  [.beginUpdate 0 ⟨1, 10, .agent⟩ 50 ⟨none, none, some 22, none⟩,
    .resolveUpdate 0 ⟨days 739001, 70, days 739001⟩]

/-- An agent moves it to "Heating"; the late delivery does not touch it. -/
theorem humanChoice_final_recategorized :
    AllSteps (Event.step taxonomyEnv)
      (fun w e => ¬ StaffSetsTaxonomy w 50 e →
        taxonomy (e.step taxonomyEnv w).db 50 = taxonomy w.db 50)
      (Event.step taxonomyEnv (run (Event.step taxonomyEnv) classifiedWorld recategorize)
        (.commitUpdate 0)) [deliverFirst] := by
  have hclassified : Classified (run (Event.step taxonomyEnv) classifiedWorld recategorize).db 50 :=
    classified_iff.mpr (by decide +kernel)
  apply humanChoice_final taxonomyEnv classifiedWorld rfl 50
    (recategorize ++ .commitUpdate 0 :: [deliverFirst]) _ recategorize [deliverFirst]
    (.commitUpdate 0) rfl
  · exact ⟨by decide +kernel, rfl, rfl, rfl⟩
  · exact ⟨fun h => h.2.elim, fun h => h.2.elim, fun _ => hclassified, fun h => h.2.elim, trivial⟩

def chooseAtCreation : Event :=
  .createTicket ⟨1, 10, .agent⟩ 50 (days 739000)
    { propertyId := none
      contractId := none
      title := "Leak"
      description := none
      categoryId := some 21
      urgencyId := some 31
      channel := .web }

/-- The choice made at creation is overwritten by the job that is queued nevertheless. -/
theorem choice_at_creation_overwritten :
    HumanChoice taxonomyEnv ⟨taxonomyDb, ∅, []⟩ 50 chooseAtCreation ∧
      ¬ AllSteps (Event.step taxonomyEnv)
        (fun w e => ¬ StaffSetsTaxonomy w 50 e →
          taxonomy (e.step taxonomyEnv w).db 50 = taxonomy w.db 50)
        (chooseAtCreation.step taxonomyEnv ⟨taxonomyDb, ∅, []⟩) [deliverFirst] := by
  constructor
  · exact ⟨by decide +kernel, rfl, by simp, by simp⟩
  · intro h
    have hsame := h.1 (fun hstaff => hstaff)
    revert hsame
    decide +kernel

end Helpdesk.Tickets
