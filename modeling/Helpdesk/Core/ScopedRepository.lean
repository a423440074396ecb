import Helpdesk.Core.Repositories
import Helpdesk.Library.Correlated

/-! # The generic repository

`ScopedRepository` of `repositories/base.py`, over any models and any database. `scopePath` is a chain of
foreign keys; `scope_clause` makes a correlated `EXISTS` of each of its steps.

**`scopeClause_sound`**: the clause selects a row exactly if the chain of foreign keys leads from it to a row
of the organization. `get_or_404` and `update` rest on it: they find no other row, and an update leaves the
organization of its row. -/

namespace Helpdesk

open Correlated

/-- A hop: the model joined to, and the foreign key on the previous model that refers to it. -/
structure ScopePathStep (μ : Type) where
  model : μ
  fk : String

/-- A repository without a path is scoped by its model's own column. -/
structure ScopedRepository (μ : Type) where
  model : μ
  scopePath : List (ScopePathStep μ)

/-- What the generic operations raise. -/
inductive ScopedError (μ κ : Type) where
  | notFound (model : μ) (id : κ)
  | multipleResults
  | notNullViolation
  | uniqueViolation

namespace ScopedRepository

variable {μ κ : Type}

/-- `_join_exists_clause`, the path being `step :: remaining`. -/
def joinExistsClause (organizationId : κ) (currentModel : μ) (step : ScopePathStep μ) :
    List (ScopePathStep μ) → Condition μ κ
  | [] => .exists_ step.model (.and (.joins step.model "id" currentModel step.fk)
      (.equals step.model "organization_id" organizationId))
  | next :: remaining => .exists_ step.model (.and (.joins step.model "id" currentModel step.fk)
      (joinExistsClause organizationId step.model next remaining))

/-- `scope_clause` -/
def scopeClause (repo : ScopedRepository μ) (organizationId : κ) : Condition μ κ :=
  match repo.scopePath with
  | [] => .equals repo.model "organization_id" organizationId
  | step :: remaining => joinExistsClause organizationId repo.model step remaining

variable [DecidableEq μ] [DecidableEq κ]

/-- `select()` includes the row. -/
def selects (repo : ScopedRepository μ) (organizationId : κ) (store : Store μ κ) (key : κ) (row : Row κ) : Bool :=
  (repo.scopeClause organizationId).holds List.tail store [⟨repo.model, key, row⟩]

/-- `get_or_404`, with `scalar_one_or_none`. -/
def getOr404 (repo : ScopedRepository μ) (organizationId id : κ) :
    Tx (Store μ κ) (ScopedError μ κ) (κ × Row κ) := do
  let store ← Tx.store
  match (store repo.model).select fun key row => repo.selects organizationId store key row && key = id with
  | [] => Tx.raise (.notFound repo.model id)
  | [instance_] => pure instance_
  | _ :: _ :: _ => Tx.raise .multipleResults

/-- `setattr`. `None` in the key's column is not refused before the flush. -/
def setattr (instance_ : Option κ × Row κ) (field : String × Option κ) : Option κ × Row κ :=
  if field.1 = "id" then (field.2, instance_.2) else (instance_.1, Function.update instance_.2 field.1 field.2)

/-- The flush of the row `id`. A new key must not be taken. -/
def flush (model : μ) (id : κ) (instance_ : Option κ × Row κ) :
    Tx (Store μ κ) (ScopedError μ κ) (κ × Row κ) := do
  let key ← Tx.orRaise instance_.1 .notNullViolation
  let store ← Tx.store
  let table ← Tx.orRaise (Table.insertNew ((store model).erase id) key instance_.2) .uniqueViolation
  Tx.write (Function.update store model table)
  pure (key, instance_.2)

/-- `update`. `organization_id` is stripped from the fields. -/
def update (repo : ScopedRepository μ) (organizationId id : κ) (fields : List (String × Option κ)) :
    Tx (Store μ κ) (ScopedError μ κ) (κ × Row κ) := do
  let fields := fields.filter fun field => field.1 ≠ "organization_id"
  let instance_ ← repo.getOr404 organizationId id
  flush repo.model id (fields.foldl setattr (some instance_.1, instance_.2))

end ScopedRepository

/-! ## The chain of foreign keys -/

section Chain
variable {μ κ : Type} [DecidableEq κ]

/-- The row that the chain of foreign keys leads to. -/
def follow (store : Store μ κ) : List (ScopePathStep μ) → κ → Row κ → Option (Row κ)
  | [], _, row => some row
  | step :: remaining, key, row =>
    (column key row step.fk).bind fun next =>
      ((store step.model).lookup next).bind fun row' => follow store remaining next row'

/-- The chain leads to a row of the organization. -/
def Reaches (store : Store μ κ) (path : List (ScopePathStep μ)) (organizationId key : κ) (row : Row κ) : Prop :=
  ∃ owner, follow store path key row = some owner ∧ owner "organization_id" = some organizationId

theorem follow_cons {store : Store μ κ} {step : ScopePathStep μ} {remaining : List (ScopePathStep μ)}
    {key : κ} {row owner : Row κ} : follow store (step :: remaining) key row = some owner ↔
      ∃ next row', column key row step.fk = some next ∧ (store step.model).lookup next = some row' ∧
        follow store remaining next row' = some owner := by
  simp only [follow, Option.bind_eq_some_iff]
  constructor
  · rintro ⟨next, hnext, row', hrow, howner⟩
    exact ⟨next, row', hnext, hrow, howner⟩
  · rintro ⟨next, row', hnext, hrow, howner⟩
    exact ⟨next, hnext, row', hrow, howner⟩

theorem reaches_cons {store : Store μ κ} {step : ScopePathStep μ} {remaining : List (ScopePathStep μ)}
    {organizationId key : κ} {row : Row κ} :
    Reaches store (step :: remaining) organizationId key row ↔
      ∃ next row', column key row step.fk = some next ∧ (store step.model).lookup next = some row' ∧
        Reaches store remaining organizationId next row' := by
  constructor
  · rintro ⟨owner, howner, horg⟩
    obtain ⟨next, row', hnext, hrow, hfollow⟩ := follow_cons.mp howner
    exact ⟨next, row', hnext, hrow, owner, hfollow, horg⟩
  · rintro ⟨next, row', hnext, hrow, owner, hfollow, horg⟩
    exact ⟨owner, follow_cons.mpr ⟨next, row', hnext, hrow, hfollow⟩, horg⟩

/-- A chain leads to one organization. -/
theorem reaches_unique {store : Store μ κ} {path : List (ScopePathStep μ)} {a b key : κ} {row : Row κ}
    (ha : Reaches store path a key row) (hb : Reaches store path b key row) : a = b := by
  obtain ⟨owner, howner, horg⟩ := ha
  obtain ⟨owner', howner', horg'⟩ := hb
  obtain rfl := Option.some.inj (howner.symm.trans howner')
  exact Option.some.inj (horg.symm.trans horg')

end Chain

namespace ScopedRepository

variable {μ κ : Type} [DecidableEq μ] [DecidableEq κ] {store : Store μ κ} {organizationId : κ}

/-- The column is that of the innermost row. -/
theorem holds_organization {f : Frame μ κ} {frames : List (Frame μ κ)} :
    (Condition.equals f.model "organization_id" organizationId).holds List.tail store (f :: frames) = true ↔
      f.row "organization_id" = some organizationId := by
  show sqlEq (resolve (f :: frames) f.model "organization_id") (some organizationId) = true ↔ _
  rw [resolve_cons_self, column_of_ne _ _ (by decide), sqlEq_some_right]

/-- **The clause of a path**, under any enclosing queries. The induction is on the path: the subquery of a step
    is at the row that the step's foreign key refers to. -/
theorem holds_joinExistsClause {f : Frame μ κ} {frames : List (Frame μ κ)} {step : ScopePathStep μ}
    {remaining : List (ScopePathStep μ)} :
    (joinExistsClause organizationId f.model step remaining).holds List.tail store (f :: frames) = true ↔
      Reaches store (step :: remaining) organizationId f.key f.row := by
  induction remaining generalizing f frames step with
  | nil =>
    rw [joinExistsClause, holds_join, reaches_cons]
    refine exists_congr fun key => exists_congr fun row => ?_
    rw [holds_organization (f := ⟨step.model, key, row⟩)]
    simp [Reaches, follow]
  | cons next remaining ih =>
    rw [joinExistsClause, holds_join, reaches_cons]
    refine exists_congr fun key => exists_congr fun row => ?_
    rw [ih (f := ⟨step.model, key, row⟩)]

/-- The clause selects the rows from which the chain leads to the organization. -/
theorem selects_iff {repo : ScopedRepository μ} {key : κ} {row : Row κ} :
    repo.selects organizationId store key row = true ↔ Reaches store repo.scopePath organizationId key row := by
  unfold selects scopeClause
  cases repo.scopePath with
  | nil =>
    show (Condition.equals (Frame.mk repo.model key row).model _ _).holds _ _ _ = true ↔ _
    rw [holds_organization]
    simp [Reaches, follow]
  | cons step remaining => exact holds_joinExistsClause (f := ⟨repo.model, key, row⟩)

/-! ## The operations -/

/-- `get_or_404` returns the row if the chain leads from it to the organization, and raises otherwise. It writes
    nothing. -/
theorem exec_getOr404 (repo : ScopedRepository μ) (organizationId id : κ) (store : Store μ κ) :
    (∃ row, (store repo.model).lookup id = some row ∧ Reaches store repo.scopePath organizationId id row ∧
      Tx.exec (repo.getOr404 organizationId id) store = (.ok (id, row), store)) ∨
    (∀ row, (store repo.model).lookup id = some row → ¬ Reaches store repo.scopePath organizationId id row) ∧
      Tx.exec (repo.getOr404 organizationId id) store = (.error (.notFound repo.model id), store) := by
  by_cases hfound : ∃ row, (store repo.model).lookup id = some row ∧
      Reaches store repo.scopePath organizationId id row
  · obtain ⟨row, hrow, hreaches⟩ := hfound
    refine .inl ⟨row, hrow, hreaches, ?_⟩
    have hselects : repo.selects organizationId store id row = true := selects_iff.mpr hreaches
    have hselect := Table.select_eq_singleton
      (p := fun key row => repo.selects organizationId store key row && decide (key = id)) hrow
      (by simp [hselects]) (by simp)
    simp only [getOr404, Tx.exec_bind, Tx.exec_store, hselect, Tx.exec_pure]
  · push Not at hfound
    refine .inr ⟨hfound, ?_⟩
    have hselect : (store repo.model).select
        (fun key row => repo.selects organizationId store key row && decide (key = id)) = [] := by
      rw [Table.select_eq_nil]
      intro key row hrow
      by_cases hkey : key = id
      · subst hkey
        have hhidden : repo.selects organizationId store key row = false := by
          rw [Bool.eq_false_iff]
          exact fun h => hfound row hrow (selects_iff.mp h)
        rw [hhidden, Bool.false_and]
      · simp [hkey]
    simp only [getOr404, Tx.exec_bind, Tx.exec_store, hselect, Tx.exec_raise]

theorem getOr404_ok {repo : ScopedRepository μ} {id : κ} {found : κ × Row κ} {store' : Store μ κ}
    (h : Tx.exec (repo.getOr404 organizationId id) store = (.ok found, store')) :
    store' = store ∧ found.1 = id ∧ (store repo.model).lookup id = some found.2 ∧
      Reaches store repo.scopePath organizationId id found.2 := by
  obtain ⟨row, hrow, hreaches, hexec⟩ | ⟨-, hexec⟩ := exec_getOr404 repo organizationId id store
  · rw [hexec] at h
    cases h
    exact ⟨rfl, rfl, hrow, hreaches⟩
  · rw [hexec] at h
    cases h

/-- What a flush that goes through has written. -/
theorem flush_ok {model : μ} {id : κ} {instance_ : Option κ × Row κ} {flushed : κ × Row κ} {store' : Store μ κ}
    (h : Tx.exec (flush model id instance_) store = (.ok flushed, store')) :
    instance_.1 = some flushed.1 ∧ flushed.2 = instance_.2 ∧ ((store model).erase id).lookup flushed.1 = none ∧
      store' = Function.update store model (AList.insert flushed.1 flushed.2 ((store model).erase id)) := by
  cases hkey : instance_.1 with
  | none =>
    simp only [flush, hkey, Tx.exec_bind, Tx.exec_orRaise_none] at h
    cases h
  | some key =>
    cases hinsert : Table.insertNew ((store model).erase id) key instance_.2 with
    | none =>
      simp only [flush, hkey, Tx.exec_bind, Tx.exec_orRaise_some, Tx.exec_store, hinsert,
        Tx.exec_orRaise_none] at h
      cases h
    | some table =>
      simp only [flush, hkey, Tx.exec_bind, Tx.exec_orRaise_some, Tx.exec_store, hinsert, Tx.exec_write,
        Tx.exec_pure] at h
      cases h
      obtain ⟨hfresh, rfl⟩ := Table.insertNew_eq_some.mp hinsert
      exact ⟨rfl, rfl, hfresh, rfl⟩

omit [DecidableEq κ] in
/-- No field changes a column that none of them names. -/
theorem foldl_setattr_of_notMem {fields : List (String × Option κ)} {name : String} (instance_ : Option κ × Row κ)
    (h : ∀ field ∈ fields, field.1 ≠ name) : (fields.foldl setattr instance_).2 name = instance_.2 name := by
  induction fields generalizing instance_ with
  | nil => rfl
  | cons field rest ih =>
    have hrest := ih (setattr instance_ field) fun f hf => h f (List.mem_cons_of_mem _ hf)
    have hne : name ≠ field.1 := Ne.symm (h field List.mem_cons_self)
    show (rest.foldl setattr (setattr instance_ field)).2 name = _
    rw [hrest, setattr]
    split
    · rfl
    · exact Function.update_of_ne hne _ _

/-- **`update`** finds a row of the scope, keeps its `organization_id`, and writes no other row. -/
theorem update_ok {repo : ScopedRepository μ} {id : κ} {fields : List (String × Option κ)} {updated : κ × Row κ}
    {store' : Store μ κ} (h : Tx.exec (repo.update organizationId id fields) store = (.ok updated, store')) :
    ∃ row, (store repo.model).lookup id = some row ∧ Reaches store repo.scopePath organizationId id row ∧
      updated.2 "organization_id" = row "organization_id" ∧
      ∀ model key other, (store model).lookup key = some other → ¬ (model = repo.model ∧ key = id) →
        (store' model).lookup key = some other := by
  obtain ⟨found, mid, hget, hflush⟩ := Tx.bind_ok.mp h
  obtain ⟨rfl, -, hrow, hreaches⟩ := getOr404_ok hget
  obtain ⟨-, hupdated, hfresh, rfl⟩ := flush_ok hflush
  refine ⟨found.2, hrow, hreaches, ?_, ?_⟩
  · rw [hupdated]
    exact foldl_setattr_of_notMem _ (by simp)
  · intro model key other hother hne
    by_cases hmodel : model = repo.model
    · subst hmodel
      have hkey : key ≠ id := fun h => hne ⟨rfl, h⟩
      have herased : ((mid repo.model).erase id).lookup key = some other := by
        rw [AList.lookup_erase_ne hkey, hother]
      have htaken : key ≠ updated.1 := by
        rintro rfl
        rw [hfresh] at herased
        cases herased
      rw [Function.update_self, AList.lookup_insert_ne htaken, herased]
    · rw [Function.update_of_ne hmodel, hother]

/-- **Scope-path soundness**. `select()` includes a row exactly if the chain of foreign keys leads from it to a
    row of the organization, so that no two organizations share a row; `get_or_404` returns only such rows, and
    `update` leaves every other row as it was. -/
theorem scopeClause_sound (repo : ScopedRepository μ) (store : Store μ κ) :
    (∀ organizationId key row, repo.selects organizationId store key row = true ↔
      Reaches store repo.scopePath organizationId key row) ∧
    (∀ a b key row, repo.selects a store key row = true → repo.selects b store key row = true → a = b) ∧
    (∀ organizationId id found store',
      Tx.exec (repo.getOr404 organizationId id) store = (.ok found, store') →
        store' = store ∧ found.1 = id ∧ (store repo.model).lookup id = some found.2 ∧
          repo.selects organizationId store id found.2 = true) ∧
    ∀ organizationId id fields,
      (∀ updated store', Tx.settle (repo.update organizationId id fields) store = (.ok updated, store') →
        ∃ row, (store repo.model).lookup id = some row ∧ repo.selects organizationId store id row = true ∧
          updated.2 "organization_id" = row "organization_id") ∧
      ∀ model key row, (store model).lookup key = some row →
        ¬ (model = repo.model ∧ key = id ∧ repo.selects organizationId store key row = true) →
        ((Tx.settle (repo.update organizationId id fields) store).2 model).lookup key = some row := by
  refine ⟨fun _ _ _ => selects_iff, fun a b key row ha hb => ?_, fun organizationId id found store' h => ?_,
    fun organizationId id fields => ⟨fun updated store' h => ?_, fun model key row hrow hout => ?_⟩⟩
  · exact reaches_unique (selects_iff.mp ha) (selects_iff.mp hb)
  · obtain ⟨hstore, hid, hrow, hreaches⟩ := getOr404_ok h
    exact ⟨hstore, hid, hrow, selects_iff.mpr hreaches⟩
  · obtain ⟨row, hrow, hreaches, horg, -⟩ := update_ok (Tx.settle_eq_ok.mp h)
    exact ⟨row, hrow, selects_iff.mpr hreaches, horg⟩
  · cases hexec : Tx.exec (repo.update organizationId id fields) store with
    | mk out store' =>
    cases out with
    | error e => rwa [Tx.settle_of_error hexec]
    | ok updated =>
      rw [Tx.settle_of_ok hexec]
      obtain ⟨row', hrow', hreaches, -, hframe⟩ := update_ok hexec
      refine hframe model key row hrow fun hsame => hout ⟨hsame.1, hsame.2, ?_⟩
      obtain ⟨rfl, rfl⟩ := hsame
      obtain rfl := Option.some.inj (hrow.symm.trans hrow')
      exact selects_iff.mpr hreaches

end ScopedRepository

/-! ## The repositories of the application -/

/-- The models that scoped repositories of contracts and properties read. -/
inductive ScopedModel where
  | property | contract
  deriving DecidableEq

/-- The tables with the columns that scoping reads. -/
def Db.relations (db : Db) : Store ScopedModel Uuid
  | .property => db.properties.filterMapRows fun _ p => some fun name =>
      if name = "organization_id" then some p.organizationId else none
  | .contract => db.contracts.filterMapRows fun _ c => some fun name =>
      if name = "property_id" then some c.propertyId else none

/-- `ContractRepository` -/
def contractRepository : ScopedRepository ScopedModel := ⟨.contract, [⟨.property, "property_id"⟩]⟩

/-- Two organizations with a property and a contract each. -/
def twoOrganizations : Db :=
  { Db.empty with
    properties := AList.insert 21 ⟨1, 10, "1 Main St", .house, none⟩
      (AList.insert 22 ⟨2, 20, "2 Main St", .house, none⟩ ∅)
    contracts := AList.insert 31 ⟨21, 11, 738000, 740000, .active, by decide⟩
      (AList.insert 32 ⟨22, 12, 738000, 740000, .active, by decide⟩ ∅) }

/-- An update of the other organization's contract leaves it as it is. -/
theorem scopeClause_sound_contract :
    contractRepository.selects 2 twoOrganizations.relations 32 (fun name =>
      if name = "property_id" then some 22 else none) = true ∧
    ((Tx.settle (contractRepository.update 1 32 [("property_id", some 21)]) twoOrganizations.relations).2
      .contract).lookup 32 = some fun name => if name = "property_id" then some 22 else none := by
  have hsound := ScopedRepository.scopeClause_sound contractRepository twoOrganizations.relations
  have hrow : (twoOrganizations.relations .contract).lookup 32 =
      some fun name => if name = "property_id" then some 22 else none := by
    rw [Db.relations, Table.lookup_filterMapRows]
    rfl
  refine ⟨by decide +kernel, (hsound.2.2.2 1 32 _).2 .contract 32 _ hrow fun h => ?_⟩
  exact absurd h.2.2 (by decide +kernel)

end Helpdesk
