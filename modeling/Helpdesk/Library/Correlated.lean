import Helpdesk.Library.Table

/-! # Correlated subqueries

The conditions of a `WHERE` clause that are made of equalities, `AND` and `EXISTS`. They are read over a
store of tables whose models are named in `μ`; keys and column values are in `κ`. A condition holds where
SQL's logic says `TRUE`, and as there is no negation, `NULL` is not told apart from `FALSE`.

The column on the right of a join condition belongs to an enclosing query: under **correlated** semantics
the innermost frame is left out when it is looked up (`List.tail`).

**`holds_join`** is the rule for a chain of foreign keys: a subquery that joins on the key is at the row that
the enclosing row refers to. -/

namespace Correlated

variable {μ κ : Type}

/-- The columns of a row other than its key; `none` is `NULL`. -/
abbrev Row (κ : Type) := String → Option κ

/-- The tables of a database. -/
abbrev Store (μ κ : Type) [DecidableEq κ] := μ → Table κ (Row κ)

/-- A column of the row `key`. -/
def column (key : κ) (row : Row κ) (name : String) : Option κ :=
  if name = "id" then some key else row name

@[simp] theorem column_id (key : κ) (row : Row κ) : column key row "id" = some key := rfl

theorem column_of_ne (key : κ) (row : Row κ) {name : String} (h : name ≠ "id") :
    column key row name = row name := if_neg h

/-- The row that a query is at. -/
structure Frame (μ κ : Type) where
  model : μ
  key : κ
  row : Row κ

inductive Condition (μ κ : Type) where
  | equals (model : μ) (column : String) (value : κ)
  | joins (model : μ) (column : String) (outer : μ) (outerColumn : String)
  | and (a b : Condition μ κ)
  | exists_ (model : μ) (body : Condition μ κ)

/-! ## The meaning of a condition

A frame is a row that a query is at. The frames of the enclosing queries are a stack, and a column is looked up
in the innermost frame over its model. Which frames the right side of a join may look into is a parameter of the
meaning, since that is what an ORM can get wrong: all of them, or those of the enclosing queries only. -/

section Resolve
variable [DecidableEq μ]

/-- The column `name` of the innermost query over `model`. -/
def resolve (frames : List (Frame μ κ)) (model : μ) (name : String) : Option κ :=
  (frames.find? fun f => f.model = model).bind fun f => column f.key f.row name

@[simp] theorem resolve_cons_self (f : Frame μ κ) (frames : List (Frame μ κ)) (name : String) :
    resolve (f :: frames) f.model name = column f.key f.row name := by
  simp [resolve]

end Resolve

variable [DecidableEq κ]

/-- `NULL` equals nothing. -/
def sqlEq (a b : Option κ) : Bool :=
  match a, b with
  | some x, some y => x = y
  | _, _ => false

@[simp] theorem sqlEq_some_left {x : κ} {b : Option κ} : sqlEq (some x) b = true ↔ b = some x := by
  cases b with
  | none => simp [sqlEq]
  | some y => simp [sqlEq, eq_comm]

@[simp] theorem sqlEq_some_right {a : Option κ} {x : κ} : sqlEq a (some x) = true ↔ a = some x := by
  cases a with
  | none => simp [sqlEq]
  | some y => simp [sqlEq]

variable [DecidableEq μ]

/-- The condition under the rows of the enclosing queries, the innermost first. `outside` are the frames in
    which the right side of a join is looked up. -/
def Condition.holds (outside : List (Frame μ κ) → List (Frame μ κ)) (store : Store μ κ) :
    Condition μ κ → List (Frame μ κ) → Bool
  | equals model name value, frames => sqlEq (resolve frames model name) (some value)
  | joins model name outer outerName, frames =>
    sqlEq (resolve frames model name) (resolve (outside frames) outer outerName)
  | and a b, frames => a.holds outside store frames && b.holds outside store frames
  | exists_ model body, frames =>
    (store model).entries.any fun e => body.holds outside store (⟨model, e.1, e.2⟩ :: frames)

variable {outside : List (Frame μ κ) → List (Frame μ κ)} {store : Store μ κ} {frames : List (Frame μ κ)}

@[simp] theorem holds_and {a b : Condition μ κ} :
    (a.and b).holds outside store frames = true ↔
      a.holds outside store frames = true ∧ b.holds outside store frames = true := by
  rw [Condition.holds, Bool.and_eq_true]

@[simp] theorem holds_exists {model : μ} {body : Condition μ κ} :
    (Condition.exists_ model body).holds outside store frames = true ↔
      ∃ key row, (store model).lookup key = some row ∧
        body.holds outside store (⟨model, key, row⟩ :: frames) = true := by
  simp only [Condition.holds, List.any_eq_true]
  constructor
  · rintro ⟨⟨key, row⟩, hmem, hbody⟩
    exact ⟨key, row, Table.mem_entries.mp hmem, hbody⟩
  · rintro ⟨key, row, hrow, hbody⟩
    exact ⟨⟨key, row⟩, Table.mem_entries.mpr hrow, hbody⟩

/-- **A join on the key**: the subquery is at the row that the column of the enclosing row refers to. -/
theorem holds_join {model : μ} {f : Frame μ κ} {name : String} {body : Condition μ κ} :
    (Condition.exists_ model (.and (.joins model "id" f.model name) body)).holds List.tail store
        (f :: frames) = true ↔
      ∃ key row, column f.key f.row name = some key ∧ (store model).lookup key = some row ∧
        body.holds List.tail store (⟨model, key, row⟩ :: f :: frames) = true := by
  have hjoin : ∀ key row, (Condition.joins model "id" f.model name).holds List.tail store
      (⟨model, key, row⟩ :: f :: frames) = true ↔ column f.key f.row name = some key := by
    intro key row
    show sqlEq (resolve (⟨model, key, row⟩ :: f :: frames) (Frame.mk model key row).model "id")
      (resolve (f :: frames) f.model name) = true ↔ _
    rw [resolve_cons_self, resolve_cons_self, column_id, sqlEq_some_left]
  rw [holds_exists]
  constructor
  · rintro ⟨key, row, hrow, hholds⟩
    obtain ⟨hkey, hbody⟩ := holds_and.mp hholds
    exact ⟨key, row, (hjoin key row).mp hkey, hrow, hbody⟩
  · rintro ⟨key, row, hkey, hrow, hbody⟩
    exact ⟨key, row, hrow, holds_and.mpr ⟨(hjoin key row).mpr hkey, hbody⟩⟩

end Correlated
