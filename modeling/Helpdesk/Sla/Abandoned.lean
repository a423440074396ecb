import Helpdesk.Sla.Passes

/-! # A ticket that fails

A pass that abandons a ticket has rolled its savepoint back. The world is then compared with the one in which the
pass had not selected the ticket: the two take the same steps (`Skips.step`, `Skips.run`), those of the attempt
apart, and agree once it is over (`Skips.agrees`). -/

namespace Helpdesk.Sla

open Run

/-! ## A ticket that fails

Two worlds side by side, the second one without what the pass is doing to its ticket. The rest of the database
is the same in both, and so are the other passes, as long as the pass is inside its savepoint. That others do
not wait for the attempt is what matters: an event that goes through in the first world goes through in the
second (`Skips.waits`). The converse fails, and is not needed, since events that wait are left out
(`happening`). -/

/-- The pass that the event is a statement of. -/
def Event.pass : Event → Option Nat
  | .start pass _ _ _ | .advance pass _ | .fail pass | .commit pass | .crash pass => some pass
  | .editTicket _ _ | .editUser _ _ | .recordResolved _ _ _ _ => none

/-- The same database, and the same passes. -/
structure Agrees (w w' : World) : Prop where
  db : w'.db = w.db
  fanOuts : w'.fanOuts = w.fanOuts
  passes : ∀ q, w'.passes.lookup q = w.passes.lookup q

/-- `w'` is `w` without what the pass is doing to its ticket. -/
structure Skips (p : Nat) (w w' : World) : Prop where
  db : w'.db = w.db
  fanOuts : w'.fanOuts = w.fanOuts
  others : ∀ q ≠ p, w'.passes.lookup q = w.passes.lookup q
  skipped : ∃ pass, w.passes.lookup p = some pass ∧ w'.passes.lookup p = some pass.fail

/-- The pass is inside a savepoint. -/
def InAttempt (p : Nat) (w : World) : Prop :=
  ((w.passes.lookup p).bind (·.attempt)).isSome = true

instance (p : Nat) (w : World) : Decidable (InAttempt p w) :=
  inferInstanceAs (Decidable (_ = true))

/-- The pass has left its savepoint, and has not released it. -/
def Abandons (p : Nat) (w w' : World) : Prop :=
  InAttempt p w ∧ ∃ pass pass', w.passes.lookup p = some pass ∧ w'.passes.lookup p = some pass' ∧
    pass'.attempt = none ∧ pass'.released = pass.released

section
variable {sqlWarnAt : Int → Int → Int} {w w' : World} {p q : Nat}

theorem Skips.insert (h : Skips p w w') (hq : q ≠ p) (pass : Pass) :
    Skips p { w with passes := AList.insert q pass w.passes }
      { w' with passes := AList.insert q pass w'.passes } where
  db := h.db
  fanOuts := h.fanOuts
  others := by
    intro r hr
    rw [Table.lookup_insert, Table.lookup_insert, h.others r hr]
  skipped := by
    obtain ⟨pass, hpass, hpass'⟩ := h.skipped
    refine ⟨pass, ?_, ?_⟩
    · rwa [AList.lookup_insert_ne (Ne.symm hq)]
    · rwa [AList.lookup_insert_ne (Ne.symm hq)]

theorem Skips.modify (h : Skips p w w') (hq : q ≠ p) (f : Pass → Pass) :
    Skips p { w with passes := w.passes.modify q f } { w' with passes := w'.passes.modify q f } where
  db := h.db
  fanOuts := h.fanOuts
  others := by
    intro r hr
    rw [Table.lookup_modify, Table.lookup_modify, h.others r hr]
  skipped := by
    obtain ⟨pass, hpass, hpass'⟩ := h.skipped
    refine ⟨pass, ?_, ?_⟩
    · rwa [Table.lookup_modify_of_ne _ (Ne.symm hq)]
    · rwa [Table.lookup_modify_of_ne _ (Ne.symm hq)]

theorem Skips.erase (h : Skips p w w') (hq : q ≠ p) :
    Skips p { w with passes := w.passes.erase q } { w' with passes := w'.passes.erase q } where
  db := h.db
  fanOuts := h.fanOuts
  others := by
    intro r hr
    by_cases heq : r = q
    · rw [heq, AList.lookup_erase, AList.lookup_erase]
    · rw [AList.lookup_erase_ne heq, AList.lookup_erase_ne heq, h.others r hr]
  skipped := by
    obtain ⟨pass, hpass, hpass'⟩ := h.skipped
    refine ⟨pass, ?_, ?_⟩
    · rwa [AList.lookup_erase_ne (Ne.symm hq)]
    · rwa [AList.lookup_erase_ne (Ne.symm hq)]

/-- An event that does not wait for the attempt does not wait without it either. -/
theorem Skips.waits (hw : Consistent w) (h : Skips p w w') {e : Event} (he : e.pass ≠ some p)
    (hwaits : e.waits w = false) : e.waits w' = false := by
  have hwriting : e.writing w' = e.writing w := by
    cases e with
    | advance q d =>
      have hq : q ≠ p := fun heq => he (heq ▸ rfl)
      simp only [Event.writing, h.others q hq, h.db]
    | recordResolved scope ticketId slaDueAt d => simp only [Event.writing, h.db]
    | start | fail | commit | crash | editTicket | editUser => rfl
  unfold Event.waits at hwaits ⊢
  rw [hwriting]
  split at hwaits
  next pass own _ =>
    rw [clashes_eq_false] at hwaits ⊢
    intro q other hq hne
    -- without the attempt the pass holds less, so there is less to wait for
    by_cases heq : q = p
    · subst heq
      obtain ⟨pass', hpass', hskipped⟩ := h.skipped
      obtain rfl : other = pass'.fail := Option.some.inj (hq.symm.trans hskipped)
      have hkeeps := (hw.passes q pass' hpass').keeps
      exact ((hwaits q pass' hpass' hne).symm.mono hkeeps).symm
    · exact hwaits q other (h.others q heq ▸ hq) hne
  next => rfl

/-- What others do, they do without the attempt as well. -/
theorem Skips.step (hw : Consistent w) (h : Skips p w w') {e : Event} (he : e.pass ≠ some p)
    (hwaits : e.waits w = false) : Skips p (e.step sqlWarnAt w) (e.step sqlWarnAt w') := by
  unfold Event.step
  rw [h.waits hw he hwaits, hwaits, if_neg (by simp), if_neg (by simp)]
  obtain ⟨db, passes, fanOuts⟩ := w'
  obtain rfl : db = w.db := h.db
  obtain rfl : fanOuts = w.fanOuts := h.fanOuts
  cases e with
  | start q now startedAt rank =>
    have hq : q ≠ p := fun heq => he (heq ▸ rfl)
    simp only [Event.perform, World.startPass, show passes.lookup q = _ from h.others q hq]
    -- the pass is there already, or is opened in both worlds
    split
    · exact h
    · exact h.insert hq _
  | advance q d => exact h.modify (fun heq => he (heq ▸ rfl)) _
  | fail q => exact h.modify (fun heq => he (heq ▸ rfl)) _
  | commit q =>
    have hq : q ≠ p := fun heq => he (heq ▸ rfl)
    simp only [Event.perform, show passes.lookup q = _ from h.others q hq]
    split
    next pass _ =>
      unfold World.commit
      split
      · obtain ⟨-, -, hothers, hskipped⟩ := h.erase hq
        exact ⟨rfl, rfl, hothers, hskipped⟩
      · exact h
    next => exact h
  | crash q => exact h.erase (fun heq => he (heq ▸ rfl))
  | editTicket ticketId ticket => exact ⟨rfl, rfl, h.others, h.skipped⟩
  | editUser userId user => exact ⟨rfl, rfl, h.others, h.skipped⟩
  | recordResolved scope ticketId slaDueAt d => exact ⟨rfl, rfl, h.others, h.skipped⟩

/-- A statement inside the savepoint is one that the pass without the attempt does not make. -/
theorem Pass.fail_advance {pass : Pass} {db : Db} {d : MonitorDraws} (hattempt : pass.attempt.isSome = true)
    (hafter : (pass.advance db d).attempt.isSome = true ∨
      (pass.advance db d).released = pass.released) : (pass.advance db d).fail = pass.fail := by
  obtain ⟨attempt, hattempt⟩ := Option.isSome_iff_exists.mp hattempt
  simp only [Pass.advance, hattempt] at hafter ⊢
  unfold Pass.process at hafter ⊢
  dsimp only at hafter ⊢
  split at hafter
  · split
    · rfl
    · rfl
    · rfl
  · split
    · rfl
    · rfl
  -- a release that leaves the released rows as they are has released nothing
  · rcases hafter with hsome | hreleased
    · cases hsome
    · replace hreleased : attempt.writes = pass.released := hreleased
      show ({ pass with attempt := none, released := attempt.writes } : Pass) = { pass with attempt := none }
      rw [hreleased]

theorem inAttempt_iff :
    InAttempt p w ↔ ∃ pass, w.passes.lookup p = some pass ∧ pass.attempt.isSome = true := by
  unfold InAttempt
  cases w.passes.lookup p with
  | none => simp
  | some pass => simp

/-- What the pass itself does inside the savepoint, or to leave it. -/
theorem Skips.own (h : Skips p w w') (hin : InAttempt p w) {e : Event} (he : e.pass = some p)
    (hafter : InAttempt p (e.step sqlWarnAt w) ∨ Abandons p w (e.step sqlWarnAt w)) :
    Skips p (e.step sqlWarnAt w) w' := by
  obtain ⟨pass, hpass, hattempt⟩ := inAttempt_iff.mp hin
  have hstays : ∃ pass', (e.step sqlWarnAt w).passes.lookup p = some pass' ∧
      (pass'.attempt.isSome = true ∨ pass'.released = pass.released) := by
    -- the pass is still inside the savepoint, or has left it without a release
    rcases hafter with hafter | ⟨-, before, pass', hbefore, hpass', -, hreleased⟩
    · obtain ⟨pass', hpass', hattempt'⟩ := inAttempt_iff.mp hafter
      exact ⟨pass', hpass', .inl hattempt'⟩
    · obtain rfl : before = pass := Option.some.inj (hbefore.symm.trans hpass)
      exact ⟨pass', hpass', .inr hreleased⟩
  obtain ⟨pass', hpass', hkept⟩ := hstays
  have hskipped : w'.passes.lookup p = some pass.fail := by
    obtain ⟨before, hbefore, hskipped⟩ := h.skipped
    rwa [← Option.some.inj (hpass.symm.trans hbefore)] at hskipped
  unfold Event.step at hpass' ⊢
  by_cases hwaits : e.waits w = true
  · rw [if_pos hwaits]
    exact h
  · rw [if_neg hwaits] at hpass' ⊢
    -- an event of the pass changes nothing but the pass
    have hmodify : ∀ f : Pass → Pass, (f pass).fail = pass.fail →
        Skips p { w with passes := w.passes.modify p f } w' := by
      intro f hf
      refine ⟨h.db, h.fanOuts, fun q hq => ?_, f pass, ?_, ?_⟩
      · show w'.passes.lookup q = (w.passes.modify p f).lookup q
        rw [Table.lookup_modify_of_ne _ hq, h.others q hq]
      · simp [hpass]
      · rw [hf, hskipped]
    cases e with
    -- the pass is open, so it is not started again
    | start q now startedAt rank =>
      obtain rfl := Option.some.inj he
      simp only [Event.perform, World.startPass, hpass]
      exact h
    | advance q d =>
      obtain rfl := Option.some.inj he
      apply hmodify
      apply Pass.fail_advance hattempt
      simp only [Event.perform, Table.lookup_modify_self, hpass, Option.map_some,
        Option.some.injEq] at hpass'
      rwa [hpass']
    | fail q =>
      obtain rfl := Option.some.inj he
      exact hmodify Pass.fail rfl
    -- a pass does not commit inside a savepoint
    | commit q =>
      obtain rfl := Option.some.inj he
      simp only [Event.perform, hpass, World.commit]
      rw [if_neg (by simp [Option.isSome_iff_ne_none.mp hattempt])]
      exact h
    | crash q =>
      obtain rfl := Option.some.inj he
      simp only [Event.perform, AList.lookup_erase] at hpass'
      cases hpass'
    | editTicket | editUser | recordResolved => cases he

/-- The pass is left alone by what is not its own. -/
theorem lookup_step_other {e : Event} (he : e.pass ≠ some p) :
    (e.step sqlWarnAt w).passes.lookup p = w.passes.lookup p := by
  unfold Event.step
  split
  · rfl
  · cases e with
    | start q now startedAt rank =>
      have hq : p ≠ q := fun heq => he (heq ▸ rfl)
      simp only [Event.perform, World.startPass]
      split
      · rfl
      · exact AList.lookup_insert_ne hq
    | advance q d => exact Table.lookup_modify_of_ne _ fun heq => he (heq ▸ rfl)
    | fail q => exact Table.lookup_modify_of_ne _ fun heq => he (heq ▸ rfl)
    | commit q =>
      have hq : p ≠ q := fun heq => he (heq ▸ rfl)
      simp only [Event.perform]
      split
      · unfold World.commit
        split
        · exact AList.lookup_erase_ne hq
        · rfl
      · rfl
    | crash q => exact AList.lookup_erase_ne fun heq => he (heq ▸ rfl)
    | editTicket | editUser | recordResolved => rfl

/-- The events that need not wait. The others are no step. -/
def happening (sqlWarnAt : Int → Int → Int) (w : World) : List Event → List Event
  | [] => []
  | e :: rest =>
    if e.waits w then happening sqlWarnAt w rest
    else e :: happening sqlWarnAt (e.step sqlWarnAt w) rest

/-- The pass stays inside the savepoint. -/
def Stays (sqlWarnAt : Int → Int → Int) (p : Nat) (w : World) (e : Event) : Prop :=
  e.pass = some p → InAttempt p (e.step sqlWarnAt w)

/-- **Run lemma**: without the attempt, the events that are not its own lead to the same world. -/
theorem Skips.run {events : List Event} (hw : Consistent w) (h : Skips p w w') (hin : InAttempt p w)
    (hevents : AllSteps (Event.step sqlWarnAt) (Stays sqlWarnAt p) w events) :
    InAttempt p (Run.run (Event.step sqlWarnAt) w events) ∧
      Skips p (Run.run (Event.step sqlWarnAt) w events)
        (Run.run (Event.step sqlWarnAt) w'
          ((happening sqlWarnAt w events).filter fun e => e.pass ≠ some p)) := by
  induction events generalizing w w' with
  | nil => exact ⟨hin, h⟩
  | cons e events ih =>
    obtain ⟨hstays, hrest⟩ := hevents
    unfold happening
    by_cases hwaits : e.waits w = true
    · have hsame : e.step sqlWarnAt w = w := if_pos hwaits
      rw [if_pos hwaits, run_cons, hsame]
      exact ih hw h hin (hsame ▸ hrest)
    · rw [if_neg hwaits, run_cons]
      -- an event of the pass is left out, and others happen in both worlds
      by_cases he : e.pass = some p
      · rw [List.filter_cons_of_neg (by simp [he])]
        exact ih (hw.step sqlWarnAt e) (h.own hin he (.inl (hstays he))) (hstays he) hrest
      · rw [List.filter_cons_of_pos (by simp [he])]
        have hin' : InAttempt p (e.step sqlWarnAt w) := by
          unfold InAttempt
          rwa [lookup_step_other he]
        exact ih (hw.step sqlWarnAt e) (h.step hw he (by simpa using hwaits)) hin' hrest

/-- A pass that has left its savepoint is the pass without the attempt. -/
theorem Skips.agrees (h : Skips p w w') {pass : Pass} (hpass : w.passes.lookup p = some pass)
    (hattempt : pass.attempt = none) : Agrees w w' where
  db := h.db
  fanOuts := h.fanOuts
  passes := by
    intro q
    by_cases hq : q = p
    · subst hq
      obtain ⟨before, hbefore, hskipped⟩ := h.skipped
      obtain rfl : before = pass := Option.some.inj (hbefore.symm.trans hpass)
      have hfail : before.fail = before := by
        unfold Pass.fail
        rw [← hattempt]
      rw [hskipped, hpass, hfail]
    · exact h.others q hq

/-- An exception leaves the savepoint. -/
theorem abandons_fail (hin : InAttempt p w) : Abandons p w ((Event.fail p).step sqlWarnAt w) := by
  obtain ⟨pass, hpass, -⟩ := inAttempt_iff.mp hin
  refine ⟨hin, pass, pass.fail, hpass, ?_, rfl, rfl⟩
  show (w.passes.modify p Pass.fail).lookup p = some pass.fail
  simp [hpass]

/-- The savepoint of a ticket. -/
theorem skips_begin (hw : Consistent w) {pass : Pass} {candidate : Uuid × Ticket}
    {rest : List (Uuid × Ticket)} (hpass : w.passes.lookup p = some pass) (hnone : pass.attempt = none)
    (hcandidates : pass.candidates = candidate :: rest) (d : MonitorDraws) :
    InAttempt p ((Event.advance p d).step sqlWarnAt w) ∧
      Skips p ((Event.advance p d).step sqlWarnAt w)
        { w with passes := w.passes.modify p fun pass => { pass with candidates := rest } } := by
  have hadvance : pass.advance w.db d = { pass with
      candidates := rest
      attempt := some ⟨candidate.1, candidate.2, .record .slaWarning, pass.released⟩ } := by
    simp only [Pass.advance, hnone, hcandidates]
  have hwaits : (Event.advance p d).waits w = false := by
    simp only [Event.waits, Event.writing, hpass, Option.map_some, hadvance]
    rw [clashes_eq_false]
    intro q other hq hne
    have hpq : p ≠ q := fun heq => hne (congrArg some heq.symm)
    exact (hw.apart p q pass other hpq hpass hq).mono (hw.passes p pass hpass).keeps
  unfold Event.step
  rw [hwaits, if_neg (by simp)]
  have hafter : (w.passes.modify p fun pass => pass.advance w.db d).lookup p =
      some (pass.advance w.db d) := by
    simp [hpass]
  constructor
  · exact inAttempt_iff.mpr ⟨_, hafter, by rw [hadvance]; rfl⟩
  · refine ⟨rfl, rfl, fun q hq => ?_, _, hafter, ?_⟩
    · show (w.passes.modify p _).lookup q = (w.passes.modify p _).lookup q
      rw [Table.lookup_modify_of_ne _ hq, Table.lookup_modify_of_ne _ hq]
    · show (w.passes.modify p _).lookup p = _
      rw [Table.lookup_modify_self, hpass, hadvance]
      simp [Pass.fail, hnone]

end

end Helpdesk.Sla
