import Mathlib.Data.List.Basic

/-! # Writing back what has changed

A unit of work loads a row, lets the program assign to its attributes, and at flush writes only the
attributes whose value differs from the one loaded. When the row has been changed by someone else in
the meantime, each attribute goes its own way.

So a row after a flush may be one that nobody has ever assigned as a whole: some of its columns are this
program's and some are another's. -/

namespace WriteBack

variable {α : Type} [DecidableEq α]

/-- The stored value of an attribute after a flush over the stored value `current`. -/
def flushAttr (loaded assigned current : α) : α := if assigned = loaded then current else assigned

/-- An attribute that was not assigned to keeps what is stored. -/
@[simp] theorem flushAttr_unassigned (loaded current : α) :
    flushAttr loaded loaded current = current := by
  simp [flushAttr]

/-- Over the loaded value itself, a flush stores what was assigned. -/
@[simp] theorem flushAttr_loaded (loaded assigned : α) :
    flushAttr loaded assigned loaded = assigned := by
  unfold flushAttr
  split
  next h => exact h.symm
  · rfl

/-- A flush stores what was assigned, if what is left out is stored already. -/
theorem flushAttr_eq_assigned {loaded assigned current : α}
    (h : assigned = loaded → current = assigned) : flushAttr loaded assigned current = assigned := by
  unfold flushAttr
  split
  next heq => exact h heq
  · rfl

/-- A flush stores one of the two values. -/
theorem flushAttr_cases (loaded assigned current : α) :
    flushAttr loaded assigned current = current ∨ flushAttr loaded assigned current = assigned := by
  unfold flushAttr
  split
  · exact .inl rfl
  · exact .inr rfl

end WriteBack
