import Mathlib.Data.List.Permutation
import Helpdesk.Traffic.Stamps
import Helpdesk.Traffic.Trace

/-! # Turns as if one after another

Two turns that have loaded the same row both find no ticket on it, and both count the streak from the same number.

* **`handedOffOnce_of_run`**: in every run whose turns commit over the columns that they have loaded, one ticket at
  most is filed for a session by `escalate_to_human`, and the columns of the hand-off are those that the turns come to
  one after another;
* **`handedOffOnce_of_apart`**: that no two turns are open on one session is enough. -/

namespace Helpdesk.Traffic

open Chat WhatsApp UnitOfWork

/-! ## The law

The law is about what is stored, so a turn that is still open does not count yet. In a serial order each turn is
applied to the columns as the one before it has left them; that `send_message` does so by itself, on any database, is
`Chat.performs_sendMessage`. -/

/-- The columns that a session starts with. -/
def startOf (db : Db) (id : Uuid) : HandOff :=
  match db.chatSessions.lookup id with
  | some s => handOff s
  | none => .opened

/-- One ticket at most has been filed for a session by `escalate_to_human`. -/
def FiledOnce (s : Shared) : Prop := ∀ id, (s.history.flatMap (·.filedOn id)).length ≤ 1

/-- The columns of each session are those of some serial order of its turns. -/
def SerialHandOffs (db : Db) (w : Trace) : Prop :=
  ∀ id x, w.world.shared.db.chatSessions.lookup id = some x →
    ∃ order, order.Perm (w.turnsOn id) ∧ handOff x = serial x.userId.isSome (startOf db id) order

/-- Sessions are handed off once, and as if their turns had been executed one after another. -/
structure HandedOffOnce (db : Db) (w : Trace) : Prop where
  filed : FiledOnce w.world.shared
  serial : SerialHandOffs db w

section
variable {s : Shared} {t : Transaction} {after : Db}

/-- A turn that files a ticket has found none, and nobody has filed one in the meantime. -/
theorem FiledOnce.committed (h : FiledOnce s) (hhandOffs : HandOffs s) (hescalating : Escalating s t)
    (hready : t.ready ≠ none) (hread : readsHandOff .commit s t = true) : FiledOnce (s.committed t after) := by
  intro id
  have hhistory : (s.committed t after).history = s.history ++ [⟨t, s.newlyEscalated after⟩] := rfl
  rw [hhistory, List.flatMap_append, List.flatMap_singleton]
  by_cases hnone : (⟨t, s.newlyEscalated after⟩ : Commit).filedOn id = []
  · rw [hnone, List.append_nil]
    exact h id
  obtain ⟨u, hu, rfl, hfiled⟩ := (filedOn_eq ⟨t, s.newlyEscalated after⟩ id).resolve_left hnone
  dsimp only at hu
  subst hu
  obtain ⟨-, hone, row, loaded, hrow, hloaded, -, hticket⟩ := hescalating.turn u rfl
  have hunlinked : loaded.ticketId = none := (hticket (by rwa [← hfiled])).1
  have hold : (s.history.flatMap fun c => c.filedOn u.ctx.chatSessionId) = [] := by
    refine List.flatMap_eq_nil_iff.mpr fun c hc => ?_
    by_contra hbefore
    -- the ticket that has been filed is on the stored row, and so on the one that the turn has loaded
    obtain ⟨x, hx, hlinked⟩ := hhandOffs.linked c hc _ hbefore
    have hreply : u.reply.isNone = false := by
      cases hreply : u.reply with
      | some _ => rfl
      | none => exact absurd (by simp [Transaction.ready, hreply]) hready
    have hcurrent : (s.db.chatSessions.lookup u.ctx.chatSessionId).map handOff =
        ((u.own.chatSessions.lookup u.ctx.chatSessionId).bind (·.loaded)).map handOff := by
      simpa [readsHandOff, hreply] using hread
    rw [hx, hrow, Option.bind_some, hloaded] at hcurrent
    exact hlinked ((congrArg HandOff.ticketId (Option.some.inj hcurrent)).trans hunlinked)
  rw [hold, hfiled]
  exact hone

end

/-! ## Runs

`Ledger` is the law with what is known of sessions that there are not yet. The order of the turns is that of their
commits. -/

structure Ledger (db : Db) (w : Trace) : Prop where
  filed : FiledOnce w.world.shared
  columns : ∀ id x, w.world.shared.db.chatSessions.lookup id = some x →
    handOff x = serial x.userId.isSome (startOf db id) (w.turnsOn id)
  unknown : ∀ id, w.world.shared.db.chatSessions.lookup id = none →
    db.chatSessions.lookup id = none ∧ w.turnsOn id = []
  carries : ∀ n, Carries (w.world.own n) (w.acts n)

theorem Ledger.handedOffOnce {db : Db} {w : Trace} (h : Ledger db w) : HandedOffOnce db w :=
  ⟨h.filed, fun id x hx => ⟨_, List.Perm.refl _, h.columns id x hx⟩⟩

section
variable {env : Env} {settings : Settings} {db : Db} {w : Trace} {after : Db} {n : Nat} {t : Transaction}

theorem serial_append (identified : Bool) (h : HandOff) (turns turns' : List (List HandOffAct)) :
    serial identified h (turns ++ turns') = serial identified (serial identified h turns) turns' :=
  List.foldl_append

/-- What the trace says after a step that commits nothing. -/
theorem step_of_stays {e : Event} {t' : Transaction}
    (hact : e.act env settings w.world.shared (w.world.own n) = (w.world.shared, t')) :
    (w.step env settings (n, e)).world.shared = w.world.shared ∧
      (w.step env settings (n, e)).performed = w.performed ∧
      (∀ m, (w.step env settings (n, e)).world.own m = if m = n then t' else w.world.own m) ∧
      ∀ m, (w.step env settings (n, e)).acts m =
        if m = n then w.acts n ++ e.acts w.world.shared (w.world.own n) t' else w.acts m := by
  have hshared : (World.step env settings w.world (n, e)).shared = w.world.shared := congrArg Prod.fst hact
  have hown : ∀ m, (World.step env settings w.world (n, e)).own m = if m = n then t' else w.world.own m := by
    intro m
    rw [World.step, Interleaving.step_own, hact]
  refine ⟨hshared, ?_, hown, fun m => ?_⟩
  · show w.performed ++ _ = _
    rw [hshared, List.drop_length]
    exact List.append_nil _
  · show Function.update _ _ _ m = _
    rw [Function.update_apply, hown, if_pos rfl]

/-- What it says after a commit. -/
theorem step_of_commit
    (hact : Event.commit.act env settings w.world.shared (w.world.own n) =
      (w.world.shared.committed (w.world.own n) after, .ended)) :
    (w.step env settings (n, .commit)).world.shared = w.world.shared.committed (w.world.own n) after ∧
      (∀ id, (w.step env settings (n, .commit)).turnsOn id =
        w.turnsOn id ++ added (w.world.own n) (w.acts n) id) ∧
      (∀ m, (w.step env settings (n, .commit)).world.own m = if m = n then .ended else w.world.own m) ∧
      ∀ m, m ≠ n → (w.step env settings (n, .commit)).acts m = w.acts m := by
  have hshared : (World.step env settings w.world (n, .commit)).shared =
      w.world.shared.committed (w.world.own n) after := congrArg Prod.fst hact
  refine ⟨hshared, fun id => ?_, fun m => ?_, fun m hm => Function.update_of_ne hm _ _⟩
  · have hcommits : (World.step env settings w.world (n, .commit)).shared.history.drop
        w.world.shared.history.length =
          [⟨w.world.own n, w.world.shared.newlyEscalated after⟩] := by
      rw [hshared]
      exact List.drop_left
    unfold Trace.turnsOn
    show ((w.performed ++ _).filter _).map _ = _
    rw [hcommits, List.filter_append, List.map_append]
    congr 1
    cases w.world.own n with
    | turn u =>
      by_cases hid : u.ctx.chatSessionId = id
      · simp [Commit.turns, added, hid]
      · simp [Commit.turns, added, hid]
    | _ => rfl
  · rw [Trace.step, World.step, Interleaving.step_own, hact]

/-- **Step lemma** -/
theorem Ledger.step (h : Ledger db w) (e : Event) (hhandOffs : HandOffs w.world.shared)
    (hescalating : Escalating w.world.shared (w.world.own n))
    (hread : readsHandOff e w.world.shared (w.world.own n) = true) : Ledger db (w.step env settings (n, e)) := by
  -- a step that commits nothing changes one transaction
  have hstays : ∀ t', e.act env settings w.world.shared (w.world.own n) = (w.world.shared, t') →
      Carries t' (w.acts n ++ e.acts w.world.shared (w.world.own n) t') →
      Ledger db (w.step env settings (n, e)) := by
    intro t' hact hcarries
    obtain ⟨hshared, hperformed, hown, hacts⟩ := step_of_stays hact
    have hturns : ∀ id, (w.step env settings (n, e)).turnsOn id = w.turnsOn id := by
      intro id
      rw [Trace.turnsOn, hperformed, Trace.turnsOn]
    refine ⟨by rw [hshared]; exact h.filed, fun id x hx => ?_, fun id hnone => ?_, fun m => ?_⟩
    · rw [hshared] at hx
      rw [hturns]
      exact h.columns id x hx
    · rw [hshared] at hnone
      rw [hturns]
      exact h.unknown id hnone
    · rw [hown, hacts]
      split
      · exact hcarries
      · exact h.carries m
  by_cases he : e = .commit
  swap
  · exact hstays _ (by cases e <;> first | rfl | exact absurd rfl he) (carries_event e (h.carries n))
  subst he
  have hnothing : ∀ t', Event.acts .commit w.world.shared (w.world.own n) t' = [] := by
    intro t'
    cases w.world.own n <;> rfl
  cases hready : (w.world.own n).ready with
  | none =>
    refine hstays (w.world.own n) ?_ ?_
    · show w.world.shared.commit env _ = _
      rw [Shared.commit, hready]
    · rw [hnothing, List.append_nil]
      exact h.carries n
  | some own =>
    cases hcommit : own.commit w.world.shared.db env.toEnv with
    | none =>
      refine hstays .ended ?_ leaves_empty
      show w.world.shared.commit env _ = _
      rw [Shared.commit, hready]
      dsimp only
      rw [hcommit]
    | some after =>
      have hact : Event.commit.act env settings w.world.shared (w.world.own n) =
          (w.world.shared.committed (w.world.own n) after, .ended) := by
        show w.world.shared.commit env _ = _
        rw [Shared.commit, hready]
        dsimp only
        rw [hcommit]
      obtain ⟨hshared, hturns, hown, hacts⟩ := step_of_commit hact
      have hstores := stores_committed (h.carries n) hescalating hready hcommit hread
      refine ⟨?_, fun id x hx => ?_, fun id hnone => ?_, fun m => ?_⟩
      · rw [hshared]
        exact h.filed.committed hhandOffs hescalating (by simp [hready]) hread
      · rw [hshared] at hx
        rw [hturns, serial_append]
        cases hstored : w.world.shared.db.chatSessions.lookup id with
        | some y =>
          obtain ⟨huser, hcolumns⟩ := hstores.old id x y hstored hx
          rw [hcolumns, huser, h.columns id y hstored]
        | none =>
          obtain ⟨hopened, hnone⟩ := hstores.new id x hstored hx
          obtain ⟨hstart, hturns'⟩ := h.unknown id hstored
          rw [hopened, hnone, hturns', startOf, hstart]
          rfl
      · rw [hshared] at hnone
        obtain ⟨hstored, hadded⟩ := hstores.none id hnone
        obtain ⟨hstart, hturns'⟩ := h.unknown id hstored
        rw [hturns, hturns', hadded]
        exact ⟨hstart, rfl⟩
      · rw [hown]
        split
        · exact leaves_empty
        next hm =>
          rw [hacts m hm]
          exact h.carries m

theorem ledger_start (db : Db) : Ledger db (Trace.start db) where
  filed _ := Nat.zero_le _
  columns id x hx := by
    replace hx : db.chatSessions.lookup id = some x := hx
    rw [startOf, hx]
    rfl
  unknown _ hnone := ⟨hnone, rfl⟩
  carries _ := rfl

end

/-- What is known of the hand-offs in front of every step. -/
theorem handOffs_allSteps (env : Env) (settings : Settings) (db : Db) (events : List (Nat × Event)) :
    Run.AllSteps (World.step env settings) (fun w e => HandOffs w.shared ∧ Escalating w.shared (w.own e.1))
      (World.start db) events :=
  Run.allSteps_iff.mpr fun pre e _ _ =>
    ⟨(handOffs_of_run env settings db pre).1, (handOffs_of_run env settings db pre).2 e.1⟩

/-- **Handed off once**, and as if one turn had come after another, in every run whose turns commit over the columns
    that they have loaded. -/
theorem handedOffOnce_of_run (env : Env) (settings : Settings) (db : Db) (events : List (Nat × Event))
    (h : Run.AllSteps (World.step env settings)
      (fun w e => readsHandOff e.2 w.shared (w.own e.1) = true) (World.start db) events) :
    (Run.run (Trace.step env settings) (Trace.start db) events).world =
        Run.run (World.step env settings) (World.start db) events ∧
      HandedOffOnce db (Run.run (Trace.step env settings) (Trace.start db) events) := by
  refine ⟨world_run _ events, (Run.inv_of_preserved (I := Ledger db) ?_ (ledger_start db)
    (allSteps_trace (w := Trace.start db) (h.and (handOffs_allSteps env settings db events)))).handedOffOnce⟩
  rintro w ⟨n, e⟩ hledger ⟨hread, hhandOffs, hescalating⟩
  exact hledger.step e hhandOffs hescalating hread

/-! ## Turns that do not overlap

`readsHandOff` speaks of the commit. A schedule that never has two turns open on one session meets it: what others do
in the meantime leaves the columns. -/

/-- No two turns are open on one session. -/
def Apart (w : World) : Prop := ∀ id n m, (w.own n).attends id → (w.own m).attends id → n = m

/-- A turn has loaded the columns that are stored. -/
def LoadedCurrent (s : Shared) (t : Transaction) : Prop :=
  ∀ id row loaded, t.attends id → t.own.chatSessions.lookup id = some row → row.loaded = some loaded →
    (s.db.chatSessions.lookup id).map handOff = some (handOff loaded)

section
variable {env : Env} {settings : Settings} {s : Shared} {t t' : Transaction} {own : Work} {after : Db}
  {acts : List HandOffAct} {w : Trace}

/-- What a part of a turn has loaded it had loaded before, or it is stored. -/
theorem LoadedCurrent.track {u u' : OpenTurn} (h : LoadedCurrent s (.turn u)) (hctx : u'.ctx = u.ctx)
    (hown : u'.own = u.own.track s.db after) : LoadedCurrent s (.turn u') := by
  rintro id row loaded hid hrow hloaded
  replace hid : u.ctx.chatSessionId = id := by
    rw [← hctx]
    exact hid
  replace hrow : (u.own.track s.db after).chatSessions.lookup id = some row := by
    rw [← hown]
    exact hrow
  rcases of_lookup_track hrow with ⟨row₀, hrow₀, hsame⟩ | ⟨-, hstored⟩
  · exact h id row₀ loaded hid hrow₀ (hsame.symm.trans hloaded)
  · rw [← hstored, hloaded, Option.map_some]

theorem loadedCurrent_other (hturn : ∀ u, t ≠ .turn u) : LoadedCurrent s t := by
  rintro id _ _ hattends
  cases t with
  | turn u => exact absurd rfl (hturn u)
  | _ => exact hattends.elim

theorem Begins.loadedCurrent {ctx : ToolContext} {job : Option ProcessJob} {content : String} {o : OpenDraws}
    {excerpts : List String} (h : Begins settings s ctx job content o excerpts t) : LoadedCurrent s t := by
  obtain ⟨offered, own, hexec, rfl⟩ := h
  obtain ⟨after, -, rfl⟩ := Work.exec_ok hexec
  let u := OpenTurn.start s ctx job o excerpts (Work.empty.loadSession s.db ctx.chatSessionId)
  have hstart : LoadedCurrent s (.turn u) := by
    rintro id row loaded - hrow hloaded
    rcases of_lookup_load hrow with hown | ⟨x, hx, rfl⟩
    · cases hown
    · cases hloaded
      rw [hx, Option.map_some]
  exact hstart.track (u := u) rfl rfl

theorem loadedCurrent_next {e : Event} (hnext : Next env settings s e t t') (h : LoadedCurrent s t) :
    LoadedCurrent s t' := by
  cases hnext with
  | stays => exact h
  | posts _ hbegins => exact hbegins.loadedCurrent
  | processes _ _ hbegins => exact hbegins.loadedCurrent
  | asks => exact h
  | closes _ hexec =>
    obtain ⟨after, -, rfl⟩ := Work.exec_ok hexec
    exact h.track rfl rfl
  | calls _ hexec =>
    obtain ⟨after, -, rfl⟩ := Work.exec_ok hexec
    exact h.track rfl rfl
  | _ => exact loadedCurrent_other (by simp)

/-- The commit of a transaction that is no turn on the session. -/
theorem LoadedCurrent.committed (h : LoadedCurrent s t') (hstores : Stores s after (added t acts))
    (hapart : ∀ id, t'.attends id → ¬ t.attends id) : LoadedCurrent (s.committed t after) t' := by
  intro id row loaded hattends hrow hloaded
  have hread := h id row loaded hattends hrow hloaded
  obtain ⟨y, hy, hcolumns⟩ := Option.map_eq_some_iff.mp hread
  have hadded : added t acts id = [] := by
    cases t with
    | turn u => exact if_neg (hapart id hattends)
    | _ => rfl
  show (after.chatSessions.lookup id).map handOff = _
  cases hx : after.chatSessions.lookup id with
  | none =>
    rw [(hstores.none id hx).1] at hy
    cases hy
  | some x =>
    rw [Option.map_some, (hstores.old id x y hy hx).2, hadded, ← hcolumns]
    rfl

theorem readsHandOff_of_loadedCurrent (e : Event) (h : LoadedCurrent s t) (hcarries : Carries t acts) :
    readsHandOff e s t = true := by
  unfold readsHandOff
  split
  next u =>
    obtain ⟨row, loaded, hrow, hloaded, -⟩ := hcarries.row
    have hread := h _ row loaded rfl hrow hloaded
    rw [Bool.or_eq_true, hread, hrow, Option.bind_some, hloaded]
    exact .inr (decide_eq_true rfl)
  · rfl

/-- **Step lemma** -/
theorem loadedCurrent_step {db : Db} (hledger : Ledger db w) {n : Nat} {e : Event} (hapart : Apart w.world)
    (hescalating : Escalating w.world.shared (w.world.own n))
    (h : ∀ m, LoadedCurrent w.world.shared (w.world.own m)) (m : Nat) :
    LoadedCurrent (World.step env settings w.world (n, e)).shared ((World.step env settings w.world (n, e)).own m) := by
  have hread := readsHandOff_of_loadedCurrent e (h n) (hledger.carries n)
  rw [World.step, Interleaving.step_own]
  show LoadedCurrent (e.act env settings w.world.shared (w.world.own n)).1 _
  obtain ⟨t', hact, hnext⟩ | ⟨own, after, rfl, hready, hcommit, hact⟩ :=
    act_ok env settings e w.world.shared (w.world.own n)
  · rw [hact]
    split
    · exact loadedCurrent_next hnext (h n)
    · exact h m
  · rw [hact]
    split
    · exact loadedCurrent_other (by simp)
    next hm =>
      refine (h m).committed (stores_committed (hledger.carries n) hescalating hready hcommit hread) ?_
      exact fun id hattends hother => hm (hapart id m n hattends hother)

end

/-- **Handed off once**, in every run that never has two turns open on one session. -/
theorem handedOffOnce_of_apart (env : Env) (settings : Settings) (db : Db) (events : List (Nat × Event))
    (h : Run.AllSteps (World.step env settings) (fun w _ => Apart w) (World.start db) events) :
    HandedOffOnce db (Run.run (Trace.step env settings) (Trace.start db) events) := by
  refine (Run.inv_of_preserved
    (I := fun w => Ledger db w ∧ ∀ n, LoadedCurrent w.world.shared (w.world.own n)) ?_
    ⟨ledger_start db, fun _ => loadedCurrent_other (by simp [Trace.start, World.start])⟩
    (allSteps_trace (w := Trace.start db) (h.and (handOffs_allSteps env settings db events)))).1.handedOffOnce
  rintro w ⟨n, e⟩ ⟨hledger, hloaded⟩ ⟨hapart, hhandOffs, hescalating⟩
  have hread := readsHandOff_of_loadedCurrent e (hloaded n) (hledger.carries n)
  exact ⟨hledger.step e hhandOffs hescalating hread, loadedCurrent_step hledger hapart hescalating hloaded⟩

/-! ## Two turns that cross

The knowledge base has nothing for either of two messages, and the model escalates both times. Executed one after the
other, the second turn finds the ticket of the first one and a streak of one; at once, neither of them does. -/

/-- An execution of the job number `i`, of which the search finds nothing. -/
def executesLow (n i : Nat) : Nat × Event := (n, .process i ⟨100 * n, 0⟩ [])

/-- The model escalates, with a ticket id in case that one is filed, and closes the turn. -/
def escalatesTo (n : Nat) (ticketId : Uuid) : List (Nat × Event) :=
  [(n, .complete ⟨none, [leakCall]⟩ (turnDraws 0)), (n, .callTool (100 * n + 1) ⟨0, 0, ticketId, fun _ => 0⟩),
    (n, .complete ⟨some "A colleague will answer.", []⟩ (turnDraws (100 * n + 2))), (n, .commit)]

def crossedTurns : List (Nat × Event) :=
  twoMessages ++ [executesLow 1 0, executesLow 2 1] ++ escalatesTo 1 90 ++ escalatesTo 2 91

/-- The same turns, and the second message comes in while the first one's turn is open. -/
def turnsInOrder : List (Nat × Event) :=
  deliver 0 firstPayload [drawsAt 0 (days 739000)] ++ [executesLow 1 0] ++ secondMessage ++ answers 1 "I cannot say." ++
    [executesLow 2 1] ++ answers 2 "I cannot say."

/-- The second turn is the second one of low confidence, so the session is handed off. -/
theorem handedOffOnce_of_run_inOrder :
    HandedOffOnce webhookDb
        (Run.run (Trace.step trafficEnv trafficSettings) (Trace.start webhookDb) turnsInOrder) ∧
      ((Run.run (World.step trafficEnv trafficSettings) (World.start webhookDb)
        turnsInOrder).shared.db.chatSessions.lookup 40).map handOff = some ⟨some 90, .escalated, some 0, 0⟩ := by
  refine ⟨(handedOffOnce_of_run trafficEnv trafficSettings webhookDb turnsInOrder ?_).2, by decide +kernel⟩
  decide +kernel

/-- The crossed turns with their trace. -/
def crossed : Trace := Run.run (Trace.step trafficEnv trafficSettings) (Trace.start webhookDb) crossedTurns

/-- Two tickets are filed, and a streak of one is left, which no order of the two turns leaves. -/
theorem not_handedOffOnce : ¬ FiledOnce crossed.world.shared ∧ ¬ SerialHandOffs webhookDb crossed := by
  have hrun : (crossed.world.shared.history.flatMap (·.filedOn 40)).length = 2 ∧
      (crossed.world.shared.db.chatSessions.lookup 40).map handOff = some ⟨some 91, .escalated, some 0, 1⟩ ∧
      crossed.turnsOn 40 = [[.escalates 0 90, .closes true 0 90], [.escalates 0 91, .closes true 0 90]] := by
    decide +kernel
  obtain ⟨htwo, hstored, hturns⟩ := hrun
  constructor
  · intro h
    have hone := h 40
    omega
  · intro h
    have hstart : startOf webhookDb 40 = .opened := by
      decide +kernel
    -- in either order the second turn is the second one of low confidence, and the streak is over
    have hstreak : ∀ identified,
        (serial identified .opened [[.escalates 0 90, .closes true 0 90],
          [.escalates 0 91, .closes true 0 90]]).lowConfidenceStreak = 0 ∧
        (serial identified .opened [[.escalates 0 91, .closes true 0 90],
          [.escalates 0 90, .closes true 0 90]]).lowConfidenceStreak = 0 := by
      decide
    obtain ⟨x, hx, hcolumns⟩ := Option.map_eq_some_iff.mp hstored
    obtain ⟨order, hperm, hserial⟩ := h 40 x hx
    rw [hturns, List.perm_pair] at hperm
    rw [hcolumns, hstart] at hserial
    obtain rfl | rfl := hperm
    · have hzero := (hstreak x.userId.isSome).1
      rw [← hserial] at hzero
      cases hzero
    · have hzero := (hstreak x.userId.isSome).2
      rw [← hserial] at hzero
      cases hzero

end Helpdesk.Traffic
