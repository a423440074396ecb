import Helpdesk.Library.Window

/-! # `channel_metadata`

The JSONB dict of a ticket or a session that came in over a channel. The program stores either a list of
strings or a nullable string under a key, and never both under the same one, so the dict is kept in two
parts.

`with_appended` and `with_values` make a new dict of what they are given, which may be older than the stored
one: whether an update is lost is decided by what the caller has read. Beside each there are the lemmas that
say which list and which value it leaves, so that proofs do not unfold them. -/

namespace Helpdesk

structure Metadata where
  lists : List (String × List String)
  values : List (String × Option String)
  deriving DecidableEq

/-- `d[key] = v` -/
def dictSet {α : Type} (key : String) (v : α) : List (String × α) → List (String × α)
  | [] => [(key, v)]
  | item :: rest => if item.1 = key then (key, v) :: rest else item :: dictSet key v rest

theorem lookup_cons_ite {α : Type} (key : String) (item : String × α) (rest : List (String × α)) :
    (item :: rest).lookup key = if key = item.1 then some item.2 else rest.lookup key := by
  rw [List.lookup_cons]
  by_cases h : key = item.1
  · simp [h]
  · simp [h, beq_eq_false_iff_ne.mpr h]

theorem lookup_dictSet {α : Type} (key key' : String) (v : α) (items : List (String × α)) :
    (dictSet key v items).lookup key' = if key' = key then some v else items.lookup key' := by
  induction items with
  | nil => rw [dictSet, lookup_cons_ite]
  | cons item rest ih =>
    unfold dictSet
    by_cases hitem : item.1 = key
    · rw [if_pos hitem, lookup_cons_ite, lookup_cons_ite, hitem]
      split
      · rfl
      · rfl
    · rw [if_neg hitem, lookup_cons_ite, lookup_cons_ite, ih]
      by_cases h : key' = item.1
      · have hne : key' ≠ key := fun hkey => hitem (h ▸ hkey)
        rw [if_pos h, if_neg hne, if_pos h]
      · rw [if_neg h, if_neg h]

namespace Metadata

def empty : Metadata := ⟨[], []⟩

/-- `metadata.get(key, [])`, of a key that holds a list. -/
def list (metadata : Metadata) (key : String) : List String := (metadata.lists.lookup key).getD []

/-- `metadata.get(key)`, of a key that holds a string or `None`. -/
def value (metadata : Metadata) (key : String) : Option String := (metadata.values.lookup key).join

end Metadata

/-- `with_appended`. -/
def withAppended (metadata : Option Metadata) (key value : String) (cap : Option Nat) : Metadata :=
  let result := metadata.getD .empty
  let existing := result.list key ++ [value]
  -- `existing[-0:]` is the whole list
  let existing := match cap with
    | some (n + 1) => Window.latest (n + 1) existing
    | some 0 | none => existing
  { result with lists := dictSet key existing result.lists }

/-- `with_values`. -/
def withValues (metadata : Option Metadata) (updates : List (String × Option String)) : Metadata :=
  let result := metadata.getD .empty
  { result with values := updates.foldl (fun values item => dictSet item.1 item.2 values) result.values }

/-- The list that is appended to, under a cap. -/
theorem list_withAppended (metadata : Option Metadata) (key value : String) (n : Nat) (key' : String) :
    (withAppended metadata key value (some (n + 1))).list key' =
      if key' = key then Window.latest (n + 1) ((metadata.getD .empty).list key ++ [value])
      else (metadata.getD .empty).list key' := by
  simp only [withAppended, Metadata.list, lookup_dictSet]
  split <;> rfl

@[simp] theorem value_withAppended (metadata : Option Metadata) (key value : String)
    (cap : Option Nat) (key' : String) :
    (withAppended metadata key value cap).value key' = (metadata.getD .empty).value key' := rfl

@[simp] theorem list_withValues (metadata : Option Metadata) (updates : List (String × Option String))
    (key : String) :
    (withValues metadata updates).list key = (metadata.getD .empty).list key := rfl

theorem value_withValues_one (metadata : Option Metadata) (key : String) (value : Option String) :
    (withValues metadata [(key, value)]).value key = value := by
  simp [withValues, Metadata.value, lookup_dictSet]

/-- `contains`. -/
def contains (metadata : Option Metadata) (key value : String) : Bool :=
  match metadata with
  | none => false
  | some metadata => value ∈ metadata.list key

/-- The provider ids that a ticket's metadata records. -/
def messageIds (metadata : Option Metadata) : List String :=
  (metadata.getD .empty).list "message_ids"

theorem contains_messageIds {metadata : Option Metadata} {id : String} :
    contains metadata "message_ids" id = true ↔ id ∈ messageIds metadata := by
  cases metadata with
  | none => simp [contains, messageIds, Metadata.list, Metadata.empty]
  | some metadata => simp [contains, messageIds]

@[simp] theorem messageIds_withAppended (metadata : Option Metadata) (id : String) :
    messageIds (some (withAppended metadata "message_ids" id none)) =
      messageIds metadata ++ [id] := by
  simp [messageIds, withAppended, Metadata.list, lookup_dictSet]

@[simp] theorem messageIds_withValues (metadata : Option Metadata)
    (updates : List (String × Option String)) :
    messageIds (some (withValues metadata updates)) = messageIds metadata := rfl

end Helpdesk
