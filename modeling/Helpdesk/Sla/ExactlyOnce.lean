import Helpdesk.Sla.Abandoned
import Helpdesk.Sla.Recipients

/-! # The SLA monitor is exactly-once

Any number of passes at any times, each of them cut short at any statement of any ticket, between
edits of tickets and users.

**Key results**: `monitor_exactly_once`, and in it that a ticket whose processing fails might as well
not have been selected. -/

namespace Helpdesk.Sla

open Run

/-- **Exactly once, and atomic**: after any run of passes, failures and edits, each committed event
    goes with its fan-out, nobody is notified of it twice, and those who are notified are the users
    that its ticket addressed; and when a pass abandons a ticket, the world is the one in which the
    pass had not selected it, and all others have done the same. -/
theorem monitor_exactly_once (sqlWarnAt : Int → Int → Int) (db : Db) (events : List Event) :
    let w := run (Event.step sqlWarnAt) (World.start db) events
    Accounted none w.committed ∧ Told sqlWarnAt db events w ∧
    ∀ p pass candidate rest, w.passes.lookup p = some pass → pass.attempt = none →
      pass.candidates = candidate :: rest → ∀ d during (last : Event),
      let begun := (Event.advance p d).step sqlWarnAt w
      let late := run (Event.step sqlWarnAt) begun during
      AllSteps (Event.step sqlWarnAt) (Stays sqlWarnAt p) begun during →
      last.pass = some p → Abandons p late (last.step sqlWarnAt late) →
      Agrees (last.step sqlWarnAt late)
        (run (Event.step sqlWarnAt)
          { w with passes := w.passes.modify p fun pass => { pass with candidates := rest } }
          ((happening sqlWarnAt begun during).filter fun e => e.pass ≠ some p)) := by
  intro w
  have hw : Consistent w := Consistent.run sqlWarnAt db events
  refine ⟨hw.committed, told sqlWarnAt db events, ?_⟩
  intro p pass candidate rest hpass hnone hcandidates d during last begun late hduring hlast habandons
  have hskipped : InAttempt p ((Event.advance p d).step sqlWarnAt w) ∧
      Skips p ((Event.advance p d).step sqlWarnAt w)
        { w with passes := w.passes.modify p fun pass => { pass with candidates := rest } } :=
    skips_begin hw hpass hnone hcandidates d
  obtain ⟨hin, hbegun⟩ := hskipped
  obtain ⟨hinLate, hlate⟩ := hbegun.run (hw.step sqlWarnAt _) hin hduring
  have hskips := hlate.own hinLate hlast (.inr habandons)
  obtain ⟨-, _, pass', -, hpass', hleft, -⟩ := habandons
  exact hskips.agrees hpass' hleft

/-! ## Two tickets

A pass over two tickets that are overdue, with one administrator. -/

/-- Half a day over the due date. -/
def overdue : Ticket where
  organizationId := 1
  userId := 10
  propertyId := none
  contractId := none
  title := "Boiler"
  description := none
  categoryId := none
  urgencyId := none
  channel := .web
  status := .open
  classificationStatus := .pending
  agentId := none
  slaDueAt := some (days 739001)
  closedAt := none
  channelMetadata := none
  createdAt := days 739000
  classified_has_taxonomy := by decide
  closed_at_matches_status := by decide
  title_not_blank := by decide

def monitorDb : Db :=
  { Db.empty with
    organizations := AList.insert 1 ⟨"widget-1", none, none, "UTC", []⟩ ∅
    users := AList.insert 11 ⟨some 1, "Admin", "admin@example.com", .admin, none, .active, none⟩ ∅
    tickets := AList.insert 50 overdue (AList.insert 51 overdue ∅) }

/-- The threshold without any rounding. -/
def exactWarnAt (createdAt dueAt : Int) : Int := createdAt + (dueAt - createdAt) * 4 / 5

def monitorDraws : MonitorDraws := ⟨70, fun n => 80 + n⟩

/-- A pass in front of its two tickets. -/
def monitorStart : List Event := [.start 0 (days 739002) (days 739002) id]

/-- The first ticket fails after its warning has been fanned out, and nothing of it is left. -/
theorem monitor_exactly_once_failed :
    let w := run (Event.step exactWarnAt) (World.start monitorDb) monitorStart
    Agrees
      (run (Event.step exactWarnAt) w
        [.advance 0 monitorDraws, .advance 0 monitorDraws, .advance 0 monitorDraws, .fail 0])
      { w with passes := w.passes.modify 0 fun pass => { pass with candidates := [(51, overdue)] } } := by
  intro w
  have hpass : (w.passes.lookup 0).map (fun pass => (pass.attempt.isNone, pass.candidates)) =
      some (true, [(50, overdue), (51, overdue)]) := by
    decide +kernel
  obtain ⟨pass, hpass, hstart⟩ := Option.map_eq_some_iff.mp hpass
  obtain ⟨hnone, hcandidates⟩ := Prod.mk.inj hstart
  have hin : InAttempt 0 (run (Event.step exactWarnAt) w
      [.advance 0 monitorDraws, .advance 0 monitorDraws, .advance 0 monitorDraws]) := by
    decide +kernel
  have hagrees := (monitor_exactly_once exactWarnAt monitorDb monitorStart).2.2 0 pass _ _ hpass
    (Option.isNone_iff_eq_none.mp hnone) hcandidates monitorDraws
    [.advance 0 monitorDraws, .advance 0 monitorDraws] (.fail 0)
    ⟨fun _ => by decide +kernel, fun _ => by decide +kernel, trivial⟩ rfl (abandons_fail hin)
  have hothers : ((happening exactWarnAt ((Event.advance 0 monitorDraws).step exactWarnAt w)
      [.advance 0 monitorDraws, .advance 0 monitorDraws]).filter fun e => e.pass ≠ some 0).isEmpty =
      true := by
    decide +kernel
  rwa [List.isEmpty_iff.mp hothers] at hagrees

end Helpdesk.Sla
