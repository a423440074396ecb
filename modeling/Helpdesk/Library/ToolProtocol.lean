import Mathlib.Data.List.Basic

/-! # Conversations with tool results

A conversation is a list of messages. Some messages *call* tools, and name their calls by ids; some
are the *result* of a call, and carry its id. In a **well-formed** conversation each result answers
a call of the message before it, with nothing but results in between.

The messages themselves are a parameter: `resultId m` is the id that the result `m` carries, and
`callIds m` lists the ids that `m` calls with.

* `wellFormed_concat` is the definition, message by message, and what the others are proved from;
* `WellFormed.append_round` is one round of an assistant: calls, and then their results;
* `wellFormed_iff_of_no_calls` is for conversations from which the calls have been left out. -/

namespace ToolProtocol

variable {μ ι : Type} {resultId : μ → Option ι} {callIds : μ → List ι} {ms rs : List μ}
  {m a r : μ} {id : ι}

/-- The last message of `ms` that is not a result calls with `id`. -/
def Awaits (resultId : μ → Option ι) (callIds : μ → List ι) (ms : List μ) (id : ι) : Prop :=
  ∃ pre a results, ms = pre ++ a :: results ∧ resultId a = none ∧ id ∈ callIds a ∧
    ∀ r ∈ results, resultId r ≠ none

/-- Each result answers a call. -/
def WellFormed (resultId : μ → Option ι) (callIds : μ → List ι) (ms : List μ) : Prop :=
  ∀ pre m post id, ms = pre ++ m :: post → resultId m = some id → Awaits resultId callIds pre id

/-- A conversation is extended by one message. -/
theorem wellFormed_concat :
    WellFormed resultId callIds (ms ++ [m]) ↔
      WellFormed resultId callIds ms ∧ ∀ id, resultId m = some id → Awaits resultId callIds ms id := by
  constructor
  · intro h
    constructor
    · rintro pre x post id rfl hx
      exact h pre x (post ++ [m]) id (by simp) hx
    · intro id hm
      exact h ms m [] id rfl hm
  · rintro ⟨hms, hm⟩ pre x post id hsplit hx
    -- the result is the new message, or it was there before
    rcases List.eq_nil_or_concat post with rfl | ⟨post, y, rfl⟩
    · obtain ⟨rfl, hxm⟩ := List.append_inj' hsplit rfl
      cases hxm
      exact hm id hx
    · rw [List.concat_eq_append, ← List.cons_append, ← List.append_assoc] at hsplit
      obtain ⟨rfl, -⟩ := List.append_inj' hsplit rfl
      exact hms pre x post id rfl hx

/-- A call is awaited right after the message that makes it. -/
theorem awaits_of_call (ha : resultId a = none) (hid : id ∈ callIds a) (ms : List μ) :
    Awaits resultId callIds (ms ++ [a]) id :=
  ⟨ms, a, [], rfl, ha, hid, by simp⟩

/-- A call stays awaited while results come in. -/
theorem Awaits.concat (h : Awaits resultId callIds ms id) (hr : resultId r ≠ none) :
    Awaits resultId callIds (ms ++ [r]) id := by
  obtain ⟨pre, a, results, rfl, ha, hid, hresults⟩ := h
  refine ⟨pre, a, results ++ [r], by simp, ha, hid, ?_⟩
  intro x hx
  rcases List.mem_append.mp hx with hx | hx
  · exact hresults x hx
  · rw [List.mem_singleton.mp hx]
    exact hr

/-- The results of awaited calls may follow, in any order. -/
theorem WellFormed.append_results (hms : WellFormed resultId callIds ms)
    (hrs : ∀ r ∈ rs, ∃ id, resultId r = some id ∧ Awaits resultId callIds ms id) :
    WellFormed resultId callIds (ms ++ rs) := by
  induction rs generalizing ms with
  | nil => simpa using hms
  | cons r rs ih =>
    obtain ⟨rid, hrid, hawaits⟩ := hrs r List.mem_cons_self
    rw [List.append_cons]
    apply ih
    · refine wellFormed_concat.mpr ⟨hms, ?_⟩
      intro id hid
      obtain rfl : rid = id := Option.some.inj (hrid.symm.trans hid)
      exact hawaits
    · intro r' hr'
      obtain ⟨id, hid, h⟩ := hrs r' (List.mem_cons_of_mem _ hr')
      exact ⟨id, hid, h.concat (by simp [hrid])⟩

/-- **One round**: a message that calls tools, and results that carry the ids of its calls. -/
theorem WellFormed.append_round (hms : WellFormed resultId callIds ms) (ha : resultId a = none)
    (hrs : ∀ r ∈ rs, ∃ id ∈ callIds a, resultId r = some id) :
    WellFormed resultId callIds (ms ++ a :: rs) := by
  rw [List.append_cons]
  apply WellFormed.append_results
  · exact wellFormed_concat.mpr ⟨hms, by simp [ha]⟩
  · intro r hr
    obtain ⟨id, hid, hrid⟩ := hrs r hr
    exact ⟨id, hrid, awaits_of_call ha hid ms⟩

/-- **No calls**: a conversation in which nobody calls a tool is well-formed exactly if there are no
    results in it. -/
theorem wellFormed_iff_of_no_calls (hcalls : ∀ m ∈ ms, callIds m = []) :
    WellFormed resultId callIds ms ↔ ∀ m ∈ ms, resultId m = none := by
  constructor
  · intro h m hm
    obtain ⟨pre, post, rfl⟩ := List.append_of_mem hm
    cases hid : resultId m with
    | none => rfl
    | some id =>
      obtain ⟨_, a, _, rfl, -, hcall, -⟩ := h pre m post id rfl hid
      rw [hcalls a (by simp)] at hcall
      simp at hcall
  · rintro h pre m post id rfl hid
    rw [h m (by simp)] at hid
    cases hid

end ToolProtocol
