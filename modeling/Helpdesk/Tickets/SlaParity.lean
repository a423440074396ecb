import Helpdesk.Library.Effect
import Helpdesk.Tickets.Closing
import Helpdesk.Tickets.Taxonomy

/-! # The writers of `sla_due_at`

`create_ticket`, `update_ticket` and `classify_ticket` all compute `sla_due_at`, each from the urgency
it is about to store; an escalation from the chat stores a category alone and computes nothing.

A ticket is due (`DueBy`) by an urgency level and a calendar as they are in one database. **`slaParity`**:
whatever is edited in between, a ticket with an urgency is due by the database in which its taxonomy
was last written, and a ticket without one has no due date; and no flush on the way violates the CHECK
`ck_tickets_classified_has_taxonomy`.

Every query flushes what has been assigned before it. In each of the three writers the organization is looked
up, for its calendar, while no column of the ticket is assigned: the service keeps the new values in variables
until `sla_due_at` is one of them. So the one flush that the CHECK sees is the one that follows the
assignments, and that is the one which the model makes. -/

namespace Helpdesk.Tickets

open Run

/-- An operation on tickets, or anything else, which may edit every table but `tickets`. -/
inductive ParityEvent where
  | op (op : Op)
  | edit (f : Db → Db)

namespace ParityEvent

def step (env : Chat.Env) (db : Db) : ParityEvent → Db
  | op o => o.step env db
  | edit f => { f db with tickets := db.tickets }

/-- An operation that runs into the taxonomy CHECK, at whichever of its flushes. -/
def FailsTaxonomy (env : Chat.Env) (db : Db) : ParityEvent → Prop
  | op o => o.outcome env db = .error taxonomyViolation
  | edit _ => False

/-- A new ticket has both ids, neither, or the category alone. -/
def UrgencyHasCategory : ParityEvent → Prop
  | op (.createTicket _ _ _ p) => p.urgencyId ≠ none → p.categoryId ≠ none
  | _ => True

/-- The taxonomy of ticket `id` is written: at its creation, by an update that sets any of it, or by
    a delivery that classifies it. -/
def WritesTaxonomy (env : Chat.Env) (id : Uuid) (db : Db) : ParityEvent → Prop
  | op (.createTicket scope ticketId anchor p) =>
    ticketId = id ∧ (Op.outcome env db (.createTicket scope ticketId anchor p)).isOk
  | op (.updateTicket scope ticketId patch d) =>
    ticketId = id ∧ patch.setsTaxonomy ∧
      (Op.outcome env db (.updateTicket scope ticketId patch d)).isOk
  | op (.classifyTicket classify jobTry ticketId organizationId) =>
    ticketId = id ∧ ¬ Classified db id ∧
      Classified (Op.step env db (.classifyTicket classify jobTry ticketId organizationId)) id
  | _ => False

end ParityEvent

/-- `due` is what `compute_sla_due_at` makes of the ticket's creation, the urgency level and the
    calendar of its organization, as they are in `db`. -/
def DueBy (env : Env) (db : Db) (t : Ticket) (urgencyId : Uuid) (due : Int) : Prop :=
  ∃ urgency organization zone, db.urgencyLevels.lookup urgencyId = some urgency ∧
    db.organizations.lookup t.organizationId = some organization ∧
    (urgency.respectsBusinessHours = true → env.zoneInfo organization.timezone = some zone) ∧
    Sla.computeSlaDueAt t.createdAt urgency.slaHours urgency.respectsBusinessHours zone
      organization.businessHours = .ok due

/-- The ticket has an urgency, and is due by it. -/
def IsDue (env : Env) (id : Uuid) (written db : Db) : Prop :=
  ∃ t urgencyId due, db.tickets.lookup id = some t ∧ t.urgencyId = some urgencyId ∧
    t.slaDueAt = some due ∧ DueBy env written t urgencyId due

/-- The ticket has an urgency. -/
def HasUrgency (id : Uuid) (db : Db) : Prop :=
  ∃ t, db.tickets.lookup id = some t ∧ t.urgencyId ≠ none

/-- What `DueBy` and the claim to it depend on. -/
def dueColumns (t : Ticket) : Uuid × Int × Option Uuid × Option Int :=
  (t.organizationId, t.createdAt, t.urgencyId, t.slaDueAt)

/-- No taxonomy is written: a ticket stays as it is, and a new one has no urgency. -/
def KeepsDue (db db' : Db) : Prop :=
  ∀ id t', db'.tickets.lookup id = some t' →
    (∃ t, db.tickets.lookup id = some t ∧ dueColumns t' = dueColumns t) ∨
      t'.urgencyId = none ∧ t'.slaDueAt = none

/-- The taxonomy of one ticket is written. -/
def SetsDue (env : Env) (id : Uuid) (db db' : Db) : Prop :=
  (∀ id', id' ≠ id → db'.tickets.lookup id' = db.tickets.lookup id') ∧
    ∃ t, db'.tickets.lookup id = some t ∧
      (t.urgencyId = none ∧ t.slaDueAt = none ∨
        ∃ urgencyId due, t.urgencyId = some urgencyId ∧ t.slaDueAt = some due ∧
          DueBy env db t urgencyId due)

section
variable {env : Env} {db db' written : Db} {id : Uuid}

theorem keepsDue_of_tickets (h : db'.tickets = db.tickets) : KeepsDue db db' := by
  intro id t' ht'
  rw [h] at ht'
  exact .inl ⟨t', ht', rfl⟩

instance : Std.Refl KeepsDue := ⟨fun _ => keepsDue_of_tickets rfl⟩

instance : IsTrans Db KeepsDue where
  trans := by
    intro db db' db'' h h' id t'' ht''
    rcases h' id t'' ht'' with ⟨t', ht', heq'⟩ | hnone
    · rcases h id t' ht' with ⟨t, ht, heq⟩ | hnone
      · exact .inl ⟨t, ht, heq'.trans heq⟩
      · simp only [dueColumns, Prod.mk.injEq] at heq'
        obtain ⟨-, -, hurgency, hdue⟩ := heq'
        rw [hurgency, hdue]
        exact .inr hnone
    · exact .inr hnone

/-- One ticket is written, which keeps the columns. -/
theorem keepsDue_modify {t t' : Ticket} (ht : db.tickets.lookup id = some t)
    (hkept : dueColumns t' = dueColumns t)
    (htickets : db'.tickets = db.tickets.modify id fun _ => t') : KeepsDue db db' := by
  intro id' t'' ht''
  rw [htickets, Table.lookup_modify] at ht''
  split at ht''
  next heq =>
    subst heq
    rw [ht] at ht''
    cases ht''
    exact .inl ⟨t, ht, hkept⟩
  · exact .inl ⟨t'', ht'', rfl⟩

/-- The same urgency and creation are due by the same instant. -/
theorem IsDue.keep (h : IsDue env id written db) (hkeeps : KeepsDue db db')
    (hurgency : HasUrgency id db') : IsDue env id written db' := by
  obtain ⟨t, urgencyId, due, ht, hu, hd, hby⟩ := h
  obtain ⟨t', ht', hu'⟩ := hurgency
  rcases hkeeps id t' ht' with ⟨t₀, ht₀, heq⟩ | ⟨hnone, -⟩
  · obtain rfl : t = t₀ := Option.some.inj (ht.symm.trans ht₀)
    simp only [dueColumns, Prod.mk.injEq] at heq
    obtain ⟨horg, hcreated, hurgency, hdue⟩ := heq
    refine ⟨t', urgencyId, due, ht', hurgency.trans hu, hdue.trans hd, ?_⟩
    unfold DueBy
    rw [horg, hcreated]
    exact hby
  · exact absurd hnone hu'

/-! ## The three writers

What each of them leaves: the due date that belongs to the urgency it has stored, by the calendar it has looked
up in the same transaction. -/

theorem resolveSlaDueAt_ok {t : Ticket} {urgencyId : Uuid} {urgency : UrgencyLevel} {due : Int}
    (hurgency : db.urgencyLevels.lookup urgencyId = some urgency)
    (h : Tx.exec (resolveSlaDueAt env t.organizationId urgency t.createdAt) db = (.ok due, db)) :
    DueBy env db t urgencyId due := by
  obtain ⟨organization, db₁, horg, h⟩ := Tx.bind_ok.mp h
  obtain ⟨rfl, horg, -⟩ := getOr404_ok.mp horg
  obtain ⟨zone, db₂, hzone, h⟩ := Tx.bind_ok.mp h
  have hlooked : urgency.respectsBusinessHours = true →
      env.zoneInfo organization.timezone = some zone := by
    intro hrespects
    rw [fetchZone, if_pos hrespects] at hzone
    cases hz : env.zoneInfo organization.timezone with
    | none => simp [hz] at hzone
    | some zone' =>
      rw [hz, Tx.exec_orRaise_some] at hzone
      cases hzone
      rfl
  refine ⟨urgency, organization, zone, hurgency, horg, hlooked, ?_⟩
  split at h
  next due' hcompute =>
    cases h
    exact hcompute
  · cases h

/-- Where both ids are given, the urgency is looked up. -/
theorem fetchUrgency_some {scope : OrgScope} {categoryId urgencyId : Uuid}
    {urgency : Option UrgencyLevel}
    (h : Tx.exec (fetchUrgency scope (some categoryId) (some urgencyId)) db = (.ok urgency, db)) :
    ∃ level, urgency = some level ∧ db.urgencyLevels.lookup urgencyId = some level := by
  obtain ⟨category, db₁, hcategory, h⟩ := Tx.bind_ok.mp h
  obtain ⟨rfl, -, -⟩ := getOr404_ok.mp hcategory
  rw [Tx.exec_ite] at h
  split at h
  · cases h
  obtain ⟨level, db₂, hlevel, h⟩ := Tx.bind_ok.mp h
  obtain ⟨rfl, hlevel, -⟩ := getOr404_ok.mp hlevel
  rw [Tx.exec_ite] at h
  split at h
  · cases h
  · cases h
    exact ⟨level, rfl, hlevel⟩

theorem fetchUrgency_none {scope : OrgScope} {categoryId : Option Uuid} :
    fetchUrgency scope categoryId none = pure none := by
  cases categoryId with
  | none => rfl
  | some categoryId => rfl

theorem wp_createTicket_due {E : Raised → Prop} {scope : OrgScope} {anchor : Int} {p : TicketCreate}
    (hgiven : p.urgencyId ≠ none → p.categoryId ≠ none)
    (hE : ∀ e, e ≠ closingViolation → e ≠ taxonomyViolation → E e) :
    Tx.wp (createTicket env scope id anchor p) 
      (fun _ db' => SetsDue env id db db' ∧ (p.urgencyId = none → KeepsDue db db')) E db := by
  apply wp_createTicket_columns _ hE
  intro row urgency slaDueAt _ hfetch hresolve hcols _
  have hurgencyId : row.urgencyId = p.urgencyId := by rw [hcols]; rfl
  have hslaDueAt : row.slaDueAt = slaDueAt := by rw [hcols]; rfl
  have hdue : SetsDue env id db { db with tickets := AList.insert id row db.tickets } := by
    refine ⟨fun id' hne => AList.lookup_insert_ne hne, row, AList.lookup_insert _, ?_⟩
    rw [hurgencyId, hslaDueAt]
    cases hu : p.urgencyId with
    -- no urgency, so none is looked up and there is no due date
    | none =>
      rw [hu, fetchUrgency_none] at hfetch
      cases hfetch
      cases hresolve
      exact .inl ⟨rfl, rfl⟩
    -- with both ids, the urgency is looked up and counted from the anchor
    | some urgencyId =>
      obtain ⟨categoryId, hc⟩ := Option.ne_none_iff_exists'.mp (hgiven (by simp [hu]))
      rw [hu, hc] at hfetch
      obtain ⟨level, rfl, hlevel⟩ := fetchUrgency_some hfetch
      rw [resolveNewSlaDueAt, Tx.exec_map] at hresolve
      cases hx : Tx.exec (resolveSlaDueAt env scope.organizationId level anchor) db with
      | mk out db₁ =>
        rw [hx] at hresolve
        cases out with
        | error e => cases hresolve
        | ok due =>
          cases hresolve
          refine .inr ⟨urgencyId, due, rfl, rfl, resolveSlaDueAt_ok hlevel ?_⟩
          have horg : row.organizationId = scope.organizationId := by rw [hcols]; rfl
          have hcreated : row.createdAt = anchor := by rw [hcols]; rfl
          rw [horg, hcreated]
          exact hx
  refine ⟨hdue, fun hu id' t' ht' => ?_⟩
  rw [Table.lookup_insert] at ht'
  split at ht'
  · cases ht'
    obtain ⟨-, t, ht, hdue⟩ := hdue
    obtain rfl : row = t := Option.some.inj ((AList.lookup_insert _).symm.trans ht)
    refine .inr (hdue.resolve_right ?_)
    rintro ⟨urgencyId, due, hurgency, -⟩
    rw [hurgencyId, hu] at hurgency
    cases hurgency
  · exact .inl ⟨t', ht', rfl⟩

theorem wp_updateTicket_due {E : Raised → Prop} {scope : OrgScope} {patch : TicketPatch}
    {d : UpdateDraws} (hE : ∀ e, e ≠ closingViolation → e ≠ taxonomyViolation → E e) :
    Tx.wp (updateTicket env scope id patch d)
      (fun _ db' => if patch.setsTaxonomy then SetsDue env id db db' else KeepsDue db db') E db := by
  apply wp_updateTicket _ hE
  intro loaded row assigned db' hloaded horg hresolve hcols _ hcommits
  rw [TicketColumns.writeBack_loaded] at hcols
  have hrowOrg : row.organizationId = loaded.organizationId := by rw [hcols]
  have hcreated : row.createdAt = loaded.createdAt := by rw [hcols]
  have hrowUrgency : row.urgencyId = assigned.urgencyId := by rw [hcols]
  have hrowDue : row.slaDueAt = assigned.slaDueAt := by rw [hcols]
  split
  -- the due date is computed again, whatever part of the taxonomy is in the patch
  next hsets =>
    obtain ⟨urgencyId, urgency, slaDueAt, -, hget, hcompute, -, hurgency, hdue⟩ :=
      resolveUpdate_taxonomy hresolve hsets
    obtain ⟨-, hlevel, -⟩ := getOr404_ok.mp hget
    refine ⟨fun id' hne => ?_, row, ?_, .inr ⟨urgencyId, slaDueAt, ?_, ?_, resolveSlaDueAt_ok hlevel ?_⟩⟩
    · rw [hcommits.tickets, Table.lookup_modify_of_ne _ hne]
    · rw [hcommits.tickets, Table.lookup_modify_self, hloaded, Option.map_some]
    · rw [hrowUrgency, hurgency]
    · rw [hrowDue, hdue]
    · rw [hrowOrg, hcreated, horg]
      exact hcompute
  -- nothing that the due date depends on is assigned
  next hno =>
    obtain ⟨-, hkept⟩ := resolveUpdate_ok hresolve
    obtain ⟨-, hurgency, hdue⟩ := hkept (by simpa using hno)
    apply keepsDue_modify hloaded _ hcommits.tickets
    simp only [dueColumns, hrowOrg, hcreated, hrowUrgency, hrowDue, hurgency, hdue]

theorem wp_classifyTicket_due {E : Raised → Prop} {classify : Classifier} {jobTry : Nat}
    {organizationId : Uuid} (hE : ∀ e, e ≠ closingViolation → e ≠ taxonomyViolation → E e) :
    Tx.wp (classifyTicket env classify jobTry id organizationId)
      (fun _ db' => KeepsDue db db' ∧ (Classified db' id → Classified db id) ∨
        ¬ Classified db id ∧ Classified db' id ∧ SetsDue env id db db') E db := by
  apply wp_classifyTicket_result (.inl ⟨Std.Refl.refl db, fun h => h⟩) _ hE
  intro ticket row r urgency slaDueAt classifications hticket horg hpending _ hlevel hcompute hcols
  have hstored : (db.tickets.modify id fun _ => row).lookup id = some row := by
    rw [Table.lookup_modify_self, hticket, Option.map_some]
  refine .inr ⟨?_, ⟨row, hstored, by rw [hcols]⟩, fun id' hne => Table.lookup_modify_of_ne _ hne, row,
    hstored, .inr ⟨r.urgencyId, slaDueAt, by rw [hcols], by rw [hcols], resolveSlaDueAt_ok hlevel ?_⟩⟩
  · rintro ⟨t, ht, hclassified⟩
    obtain rfl : ticket = t := Option.some.inj (hticket.symm.trans ht)
    rw [hpending] at hclassified
    cases hclassified
  · have hrowOrg : row.organizationId = organizationId := by rw [hcols]; exact horg
    have hcreated : row.createdAt = ticket.createdAt := by rw [hcols]
    rw [hrowOrg, hcreated]
    exact hcompute

end

/-! ## The chat tools

They leave the taxonomy of every ticket that there is, and one that they open is pending and has no urgency: an
escalation gives it a category at most. -/

section
variable {env : Chat.Env} {ctx : Chat.ToolContext} {d : Chat.ToolDraws} {db : Db}

/-- `x` writes no urgency and no due date, and does not run into the CHECK. -/
abbrev SparesTaxonomy {α : Type} (x : Service α) : Prop :=
  Tx.Ends KeepsDue (· ≠ taxonomyViolation) x

theorem sparesTaxonomy_lookup {α : Type} {x : Service α} (hx : LooksUp x) : SparesTaxonomy x := by
  intro db
  apply hx.wp
  · exact fun _ _ => Std.Refl.refl db
  · exact fun _ he => he _

theorem sparesTaxonomy_createTicket {scope : OrgScope} {ticketId : Uuid} {anchor : Int}
    {p : TicketCreate} (hp : p.urgencyId = none) :
    SparesTaxonomy (createTicket env.toEnv scope ticketId anchor p) := by
  intro db
  apply Tx.wp_mono (wp_createTicket_due (E := (· ≠ taxonomyViolation)) (fun h => absurd hp h)
    fun _ _ he => he)
  · exact fun _ _ h => h.2 hp
  · exact fun _ he => he

theorem sparesTaxonomy_setChatSession (chatSession : ChatSession) :
    SparesTaxonomy (Chat.setChatSession ctx chatSession) := by
  intro db
  rw [Chat.setChatSession, Tx.wp_bind, Tx.wp_store, Tx.wp_write]
  exact keepsDue_of_tickets rfl

theorem sparesTaxonomy_link (chatSession : ChatSession) (ticketId : Uuid) :
    SparesTaxonomy (raiseConstraint (chatSession.link ticketId)) := by
  intro db
  rw [wp_raiseConstraint]
  refine ⟨fun _ _ => Std.Refl.refl db, fun k hk => ?_⟩
  simp [ChatSession.link_error hk]

theorem sparesTaxonomy_addMessage (id ticketId : Uuid) (authorType : AuthorType) (content : String) :
    SparesTaxonomy (Chat.addMessage id ticketId authorType content) := by
  intro db
  unfold Chat.addMessage insertMessage
  split
  · simp only [Tx.wp_bind, Tx.wp_store, Tx.wp_orRaise, Tx.wp_ite, Tx.wp_write, Tx.wp_pure,
      Tx.wp_raise]
    refine ⟨fun messages _ => ⟨fun _ => keepsDue_of_tickets rfl, fun _ => by simp⟩, fun _ => by simp⟩
  · simp

theorem sparesTaxonomy_addMessages (messageIds : Nat → Uuid) (ticketId : Uuid)
    (items : List (AuthorType × String)) (n : Nat) :
    SparesTaxonomy (Chat.addMessages messageIds ticketId n items) := by
  induction items generalizing n with
  | nil => exact Tx.Ends.pure ()
  | cons item items ih =>
    show SparesTaxonomy (Chat.addMessage _ _ _ _ >>= fun _ => Chat.addMessages _ _ _ items)
    exact Tx.Ends.bind (sparesTaxonomy_addMessage _ _ _ _) fun _ => ih (n + 1)

/-- Only the status is assigned, so that the taxonomy stays as it is stored. -/
theorem sparesTaxonomy_flushStatus (ticketId : Uuid) (loaded : TicketColumns) (status : TicketStatus) :
    SparesTaxonomy (flushTicket ticketId loaded { loaded with status := status }) := by
  intro db
  apply wp_flushTicket_keys
  · intro current row hcurrent hcols _
    refine keepsDue_modify hcurrent ?_ rfl
    simp [dueColumns, hcols, TicketColumns.writeBack]
  · exact fun _ _ he => he
  · simp
  · intro current _ hviolated
    exact absurd (by simpa [TicketColumns.ClassifiedHasTaxonomy, TicketColumns.writeBack] using
      current.classified_has_taxonomy) hviolated

theorem sparesTaxonomy_chatCreateTicket (title description : Json) :
    SparesTaxonomy (Chat.createTicket env ctx d title description) := by
  apply Tx.Ends.bind (sparesTaxonomy_lookup LooksUp.store)
  intro db
  apply Tx.Ends.bind (sparesTaxonomy_lookup (looksUp_getOr404 _ _ _ _))
  intro chatSession
  split
  · apply Tx.Ends.bind (sparesTaxonomy_lookup (Chat.looksUp_argumentText _))
    intro title
    apply Tx.Ends.bind (sparesTaxonomy_lookup (Chat.looksUp_asNullableText _))
    intro description
    apply Tx.Ends.bind (sparesTaxonomy_createTicket rfl)
    intro ticket
    apply Tx.Ends.bind
    · exact Tx.Ends.bind (sparesTaxonomy_lookup LooksUp.store) fun _ =>
        sparesTaxonomy_addMessages _ _ _ _
    intro _
    apply Tx.Ends.bind (sparesTaxonomy_link _ _)
    intro linked
    exact Tx.Ends.bind (sparesTaxonomy_setChatSession _) fun _ => Tx.Ends.pure _
  · exact Tx.Ends.pure _

theorem sparesTaxonomy_scheduleVisit (ticketId preferredDate notes : Json) :
    SparesTaxonomy (Chat.scheduleVisit env ctx d ticketId preferredDate notes) := by
  apply Tx.Ends.bind (sparesTaxonomy_lookup (looksUp_getOr404 _ _ _ _))
  intro chatSession
  split
  · exact Tx.Ends.pure _
  · apply Tx.Ends.bind (sparesTaxonomy_lookup (Chat.looksUp_visitTicketId _))
    intro ticketId
    split
    · exact Tx.Ends.pure _
    · apply Tx.Ends.ite (Tx.Ends.pure _)
      apply Tx.Ends.bind (sparesTaxonomy_lookup (looksUp_getOr404 _ _ _ _))
      intro ticket
      apply Tx.Ends.bind (sparesTaxonomy_lookup (Chat.looksUp_argumentText _))
      intro content
      exact Tx.Ends.bind (sparesTaxonomy_addMessage _ _ _ _) fun _ => Tx.Ends.pure _

/-- The escalation ticket has no urgency, with or without the general category. -/
theorem sparesTaxonomy_escalationTicket (reason : Json) (chatSession : ChatSession) :
    SparesTaxonomy (Chat.escalationTicket env ctx d reason chatSession) := by
  unfold Chat.escalationTicket
  split
  · exact Tx.Ends.pure _
  · apply Tx.Ends.bind (sparesTaxonomy_lookup LooksUp.store)
    intro db
    apply Tx.Ends.bind (sparesTaxonomy_lookup (Chat.looksUp_asNullableText _))
    intro reason
    apply Tx.Ends.bind (sparesTaxonomy_createTicket rfl)
    intro ticket
    exact Tx.Ends.bind (sparesTaxonomy_link _ _) fun _ => Tx.Ends.pure _

theorem sparesTaxonomy_escalateToHuman (reason : Json) :
    SparesTaxonomy (Chat.escalateToHuman env ctx d reason) := by
  apply Tx.Ends.bind (sparesTaxonomy_lookup (looksUp_getOr404 _ _ _ _))
  intro chatSession
  dsimp only
  split
  · exact Tx.Ends.bind (sparesTaxonomy_setChatSession _) fun _ => Tx.Ends.pure _
  · apply Tx.Ends.bind (sparesTaxonomy_escalationTicket _ _)
    intro linked
    apply Tx.Ends.bind (sparesTaxonomy_lookup (looksUp_getOr404 _ _ _ _))
    intro ticket
    apply Tx.Ends.bind (sparesTaxonomy_flushStatus _ _ _)
    intro row
    exact Tx.Ends.bind (sparesTaxonomy_setChatSession _) fun _ => Tx.Ends.pure _

end

/-! ## Runs

An event writes the due date of one ticket or of none (`ParityEffect`). The last event that wrote the ticket's
is the one by whose database it is due, and whatever comes after leaves it alone. -/

section
variable {env : Chat.Env} {db : Db} {id : Uuid}

/-- How an operation ends that has a specification. -/
theorem op_ends {op : Op} {R : Db → Prop}
    (h : Tx.wp (op.handler env) (fun _ db' => R db') (· ≠ taxonomyViolation) db) :
    ¬ (ParityEvent.op op).FailsTaxonomy env db ∧
      ((op.outcome env db).isOk = true ∧ R (op.step env db) ∨
        (op.outcome env db).isOk = false ∧ op.step env db = db) := by
  rcases Tx.wp_settle h with ⟨_, hok, hR⟩ | ⟨e, herror, he⟩
  · have hout : op.outcome env db = .ok () := (Prod.ext_iff.mp hok).1
    refine ⟨?_, .inl ⟨?_, hR⟩⟩
    · show ¬ op.outcome env db = .error taxonomyViolation
      simp [hout]
    · rw [hout]
      rfl
  · obtain ⟨hout, hdb⟩ := Prod.mk.inj herror
    have hout : op.outcome env db = .error e := hout
    refine ⟨?_, .inr ⟨?_, hdb⟩⟩
    · show ¬ op.outcome env db = .error taxonomyViolation
      simpa [hout] using he
    · rw [hout]
      rfl

/-- What an event does to the due dates: it writes those of one ticket, or none. -/
inductive ParityEffect (env : Chat.Env) (db : Db) (e : ParityEvent) : Prop where
  | writes (id : Uuid) (hwrites : ∀ id', e.WritesTaxonomy env id' db ↔ id' = id)
      (hsets : SetsDue env.toEnv id db (e.step env db))
  | keeps (hnone : ∀ id, ¬ e.WritesTaxonomy env id db) (hkeeps : KeepsDue db (e.step env db))

/-- An event that runs into nothing and writes nothing. -/
theorem parityEffect_of_spares {op : Op} (hop : SparesTaxonomy (op.handler env))
    (hnone : ∀ id, ¬ (ParityEvent.op op).WritesTaxonomy env id db) :
    ¬ (ParityEvent.op op).FailsTaxonomy env db ∧ ParityEffect env db (.op op) := by
  obtain ⟨hclear, hends⟩ := op_ends (hop db)
  refine ⟨hclear, .keeps hnone ?_⟩
  show KeepsDue db (op.step env db)
  rcases hends with ⟨-, hkeeps⟩ | ⟨-, hsame⟩
  · exact hkeeps
  · rw [hsame]
    exact Std.Refl.refl db

/-- **Step lemma**. -/
theorem parityEffect_of_step (db : Db) (e : ParityEvent) (hgiven : e.UrgencyHasCategory) :
    ¬ e.FailsTaxonomy env db ∧ ParityEffect env db e := by
  cases e with
  | edit f => exact ⟨id, .keeps (fun _ => id) (keepsDue_of_tickets rfl)⟩
  | op o =>
    cases o with
    | createTicket scope ticketId anchor p =>
      have hspec : Tx.wp (Op.handler env (.createTicket scope ticketId anchor p))
          (fun _ db' => SetsDue env.toEnv ticketId db db') (· ≠ taxonomyViolation) db := by
        rw [Op.handler, Tx.wp_map]
        exact Tx.wp_mono (wp_createTicket_due hgiven fun _ _ he => he) (fun _ _ h => h.1)
          fun _ he => he
      obtain ⟨hclear, hends⟩ := op_ends hspec
      refine ⟨hclear, ?_⟩
      -- created, or rolled back
      rcases hends with ⟨hok, hsets⟩ | ⟨herror, hsame⟩
      · refine .writes ticketId (fun id' => ?_) hsets
        simp [ParityEvent.WritesTaxonomy, hok, eq_comm]
      · refine .keeps (fun id' => ?_) ?_
        · simp [ParityEvent.WritesTaxonomy, herror]
        · exact keepsDue_of_tickets (congrArg Db.tickets hsame)
    | updateTicket scope ticketId patch d =>
      have hspec : Tx.wp (Op.handler env (.updateTicket scope ticketId patch d))
          (fun _ db' => if patch.setsTaxonomy then SetsDue env.toEnv ticketId db db' else KeepsDue db db')
          (· ≠ taxonomyViolation) db := by
        rw [Op.handler, Tx.wp_map]
        exact wp_updateTicket_due fun _ _ he => he
      obtain ⟨hclear, hends⟩ := op_ends hspec
      refine ⟨hclear, ?_⟩
      -- committed, or rolled back
      rcases hends with ⟨hok, hdoes⟩ | ⟨herror, hsame⟩
      · split at hdoes
        next hsets =>
          refine .writes ticketId (fun id' => ?_) hdoes
          simp [ParityEvent.WritesTaxonomy, hok, hsets, eq_comm]
        next hno =>
          refine .keeps (fun id' => ?_) hdoes
          simp [ParityEvent.WritesTaxonomy, hno]
      · refine .keeps (fun id' => ?_) ?_
        · simp [ParityEvent.WritesTaxonomy, herror]
        · exact keepsDue_of_tickets (congrArg Db.tickets hsame)
    | classifyTicket classify jobTry ticketId organizationId =>
      have hspec : Tx.wp (Op.handler env (.classifyTicket classify jobTry ticketId organizationId))
          (fun _ db' => KeepsDue db db' ∧ (Classified db' ticketId → Classified db ticketId) ∨
            ¬ Classified db ticketId ∧ Classified db' ticketId ∧ SetsDue env.toEnv ticketId db db')
          (· ≠ taxonomyViolation) db := wp_classifyTicket_due fun _ _ he => he
      obtain ⟨hclear, hends⟩ := op_ends hspec
      refine ⟨hclear, ?_⟩
      rcases hends with ⟨-, ⟨hkeeps, hsame⟩ | ⟨hpending, hclassified, hsets⟩⟩ | ⟨-, hsame⟩
      · refine .keeps (fun id' => ?_) hkeeps
        rintro ⟨rfl, hpending, hclassified⟩
        exact hpending (hsame hclassified)
      · refine .writes ticketId (fun id' => ⟨fun h => h.1.symm, ?_⟩) hsets
        rintro rfl
        exact ⟨rfl, hpending, hclassified⟩
      · refine .keeps (fun id' => ?_) (keepsDue_of_tickets (congrArg Db.tickets hsame))
        rintro ⟨-, hpending, hclassified⟩
        rw [hsame] at hclassified
        exact hpending hclassified
    | chatCreateTicket ctx d title description =>
      exact parityEffect_of_spares (Tx.Ends.map (sparesTaxonomy_chatCreateTicket _ _)) fun _ => id
    | chatScheduleVisit ctx d ticketId preferredDate notes =>
      exact parityEffect_of_spares (Tx.Ends.map (sparesTaxonomy_scheduleVisit _ _ _)) fun _ => id
    | chatEscalate ctx d reason =>
      exact parityEffect_of_spares (Tx.Ends.map (sparesTaxonomy_escalateToHuman _)) fun _ => id

/-- A ticket without an urgency has no due date. -/
def NoneDue (db : Db) : Prop :=
  ∀ id t, db.tickets.lookup id = some t → t.urgencyId = none → t.slaDueAt = none

theorem noneDue_step {e : ParityEvent} (h : NoneDue db) (he : ParityEffect env db e) :
    NoneDue (e.step env db) := by
  intro id t' ht' hnone
  cases he with
  | writes id₀ _ hsets =>
    obtain ⟨hothers, t, ht, hdue⟩ := hsets
    by_cases hid : id = id₀
    · subst hid
      obtain rfl : t = t' := Option.some.inj (ht.symm.trans ht')
      rcases hdue with ⟨-, hdue⟩ | ⟨urgencyId, due, hurgency, -⟩
      · exact hdue
      · rw [hnone] at hurgency
        cases hurgency
    · exact h id t' (by rwa [← hothers id hid]) hnone
  | keeps _ hkeeps =>
    rcases hkeeps id t' ht' with ⟨t, ht, heq⟩ | ⟨-, hdue⟩
    · simp only [dueColumns, Prod.mk.injEq] at heq
      rw [heq.2.2.2]
      exact h id t ht (by rw [← heq.2.2.1, hnone])
    · exact hdue

/-- A ticket with an urgency is due by the database of its last write. -/
theorem isDue_run (hstart : db.tickets = ∅) {events : List ParityEvent}
    (hgiven : AllSteps (ParityEvent.step env) (fun _ e => e.UrgencyHasCategory) db events)
    (hurgency : HasUrgency id (run (ParityEvent.step env) db events)) :
    ∃ pre e,
      LastStep (ParityEvent.step env) (fun db e => e.WritesTaxonomy env id db) db events pre e ∧
      IsDue env.toEnv id (run (ParityEvent.step env) db pre)
        (run (ParityEvent.step env) db events) := by
  refine exists_lastStep ?_ ?_ ?_ hgiven hurgency
  · rintro ⟨t, ht, -⟩
    rw [hstart] at ht
    cases ht
  · rintro db e hgiven hwrites ⟨t', ht', hu⟩
    cases (parityEffect_of_step db e hgiven).2 with
    | writes id₀ hiff hsets =>
      obtain rfl := (hiff id).mp hwrites
      obtain ⟨-, t, ht, ⟨hnone, -⟩ | ⟨urgencyId, due, hurgency, hdue, hby⟩⟩ := hsets
      · obtain rfl : t = t' := Option.some.inj (ht.symm.trans ht')
        exact absurd hnone hu
      · exact ⟨t, urgencyId, due, ht, hurgency, hdue, hby⟩
    | keeps hnone _ => exact absurd hwrites (hnone id)
  · rintro db e hgiven hno ⟨t', ht', hu⟩
    cases (parityEffect_of_step db e hgiven).2 with
    | writes id₀ hiff hsets =>
      -- another ticket is written, and this one is as it was
      have hsame := hsets.1 id fun h => hno ((hiff id).mpr h)
      refine ⟨⟨t', by rwa [← hsame], hu⟩, ?_⟩
      rintro written ⟨t, urgencyId, due, ht, hdue⟩
      exact ⟨t, urgencyId, due, by rwa [hsame], hdue⟩
    | keeps _ hkeeps =>
      refine ⟨?_, fun written h => h.keep hkeeps ⟨t', ht', hu⟩⟩
      rcases hkeeps id t' ht' with ⟨t, ht, heq⟩ | ⟨hnone, -⟩
      · simp only [dueColumns, Prod.mk.injEq] at heq
        exact ⟨t, ht, by rwa [← heq.2.2.1]⟩
      · exact absurd hnone hu

end

/-- **Parity of the writers**, over every run from a database without tickets: a ticket has a due date
    exactly if it has an urgency; it is the one that `compute_sla_due_at` gives for the urgency level
    and the calendar of the database in which the ticket's taxonomy was last written; and no flush of
    the run violates `ck_tickets_classified_has_taxonomy`. -/
theorem slaParity (env : Chat.Env) (db : Db) (hstart : db.tickets = ∅) (events : List ParityEvent)
    (hgiven : ∀ e ∈ events, e.UrgencyHasCategory) :
    (∀ id t, (run (ParityEvent.step env) db events).tickets.lookup id = some t →
      (t.urgencyId = none ↔ t.slaDueAt = none) ∧
      ∀ urgencyId, t.urgencyId = some urgencyId → ∃ pre e due,
        LastStep (ParityEvent.step env) (fun db e => e.WritesTaxonomy env id db) db events pre e ∧
        t.slaDueAt = some due ∧
        DueBy env.toEnv (run (ParityEvent.step env) db pre) t urgencyId due) ∧
    AllSteps (ParityEvent.step env) (fun db e => ¬ e.FailsTaxonomy env db) db events := by
  have hgiven : AllSteps (ParityEvent.step env) (fun _ e => e.UrgencyHasCategory) db events := by
    refine allSteps_iff.mpr fun pre e post hevents => hgiven e ?_
    simp [hevents]
  have hnone : NoneDue (run (ParityEvent.step env) db events) := by
    refine inv_of_preserved (G := fun _ e => e.UrgencyHasCategory) ?_ ?_ hgiven
    · exact fun db e h he => noneDue_step h (parityEffect_of_step db e he).2
    · intro id t ht
      rw [hstart] at ht
      cases ht
  refine ⟨fun id t ht => ?_, hgiven.mono fun db e he => (parityEffect_of_step db e he).1⟩
  have hdue : t.urgencyId ≠ none → ∃ pre e urgencyId due,
      LastStep (ParityEvent.step env) (fun db e => e.WritesTaxonomy env id db) db events pre e ∧
      t.urgencyId = some urgencyId ∧ t.slaDueAt = some due ∧
      DueBy env.toEnv (run (ParityEvent.step env) db pre) t urgencyId due := by
    intro hurgency
    obtain ⟨pre, e, hlast, t', urgencyId, due, ht', hu, hd, hby⟩ :=
      isDue_run hstart hgiven ⟨t, ht, hurgency⟩
    obtain rfl : t = t' := Option.some.inj (ht.symm.trans ht')
    exact ⟨pre, e, urgencyId, due, hlast, hu, hd, hby⟩
  -- a due date belongs to an urgency, and an urgency to the last write
  constructor
  · refine ⟨hnone id t ht, fun hd => ?_⟩
    by_contra hurgency
    obtain ⟨pre, e, urgencyId, due, -, -, hd', -⟩ := hdue hurgency
    rw [hd] at hd'
    cases hd'
  · intro urgencyId hu
    obtain ⟨pre, e, urgencyId', due, hlast, hu', hd, hby⟩ := hdue (by simp [hu])
    rw [hu] at hu'
    cases hu'
    exact ⟨pre, e, due, hlast, hd, hby⟩

/-- A ticket is created with 48 hours, the level is edited to 24, and then staff change the category
    alone. -/
def parityEvents : List ParityEvent :=
  [.op (.createTicket ⟨1, 10, .agent⟩ 50 (days 739000)
      { propertyId := none
        contractId := none
        title := "Leak"
        description := none
        categoryId := some 21
        urgencyId := some 31
        channel := .web }),
    .edit fun db => { db with
      urgencyLevels := db.urgencyLevels.modify 31 fun row => { row with slaHours := 24 } },
    .op (.updateTicket ⟨1, 10, .agent⟩ 50 ⟨none, none, some 22, none⟩
      ⟨days 739000, 70, days 739000⟩)]

/-- The due date is the one of the 24 hours. -/
theorem slaParity_recategorized :
    ∃ t, (run (ParityEvent.step closingEnv) taxonomyDb parityEvents).tickets.lookup 50 = some t ∧
      t.slaDueAt = some (days 739001) ∧ ∃ pre e due,
        LastStep (ParityEvent.step closingEnv) (fun db e => e.WritesTaxonomy closingEnv 50 db)
          taxonomyDb parityEvents pre e ∧
        t.slaDueAt = some due ∧
        DueBy closingEnv.toEnv (run (ParityEvent.step closingEnv) taxonomyDb pre) t 31 due := by
  have hsome : ((run (ParityEvent.step closingEnv) taxonomyDb parityEvents).tickets.lookup 50).map
      (fun t => (t.urgencyId, t.slaDueAt)) = some (some 31, some (days 739001)) := by
    decide +kernel
  obtain ⟨t, ht, hcols⟩ := Option.map_eq_some_iff.mp hsome
  obtain ⟨hurgency, hdue⟩ := Prod.mk.inj hcols
  have hgiven : ∀ e ∈ parityEvents, e.UrgencyHasCategory := by
    simp [parityEvents, ParityEvent.UrgencyHasCategory]
  exact ⟨t, ht, hdue,
    ((slaParity closingEnv taxonomyDb rfl parityEvents hgiven).1 50 t ht).2 31 hurgency⟩

end Helpdesk.Tickets
