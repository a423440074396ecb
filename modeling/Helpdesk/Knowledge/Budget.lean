import Helpdesk.Knowledge.Tokens
import Mathlib.Algebra.Order.BigOperators.Group.List
import Mathlib.Data.List.Infix
import Mathlib.Algebra.Order.Group.Nat
import Mathlib.Tactic.Linarith

/-! # The token budget of a chunk

Packing adds up the tokens of the units, and an overlap those of its sentences. A chunk is these parts in one
text, with blank lines and spaces in between, and the slices of an oversized sentence are encoded anew: what
the parts take together is not the sum of what they take apart.

**`withinBudget_of_leavesRoom`**: the budget is kept where the sums leave room for the separators, and no character
of a slice takes more tokens by itself than it has in there. Where a text takes the tokens of its parts, as with a
token a byte, that room is needed. -/

namespace Helpdesk.Knowledge

/-- No packed content exceeds `max_tokens`, and no chunk that and `overlap_tokens`. -/
def WithinBudget (e : ByteEncoding) (maxTokens overlapTokens : Nat) (text : String) : Prop :=
  ∃ packed chunks, packDocument e.encoding maxTokens text = .ok packed ∧
    chunkDocumentWith e.encoding maxTokens overlapTokens text = .ok chunks ∧
    (∀ content ∈ packed, e.count content ≤ maxTokens) ∧
    ∀ chunk ∈ chunks, chunk.tokenCount = e.count chunk.content ∧
      chunk.tokenCount ≤ maxTokens + overlapTokens

namespace ByteEncoding

variable (e : ByteEncoding)

/-- The tokens of the parts, each by itself. -/
def apart (parts : List String) : Nat := (parts.map e.count).sum

/-- The tokens of the parts, and of a separator between each two of them. -/
def separated (sep : String) (parts : List String) : Nat := e.apart parts + (parts.length - 1) * e.count sep

/-- A text takes no more tokens than its parts do. -/
def Subadditive : Prop := ∀ a b, e.count (a ++ b) ≤ e.count a + e.count b

/-- A text takes the tokens of its parts. -/
def Additive : Prop := ∀ a b, e.count (a ++ b) = e.count a + e.count b

/-- No character reaches from the tokens in front of the `i`th into the others. -/
def CutAt (tokens : List Nat) (i : Nat) : Prop :=
  Utf8.Apart ((tokens.take i).flatMap e.bytes) ((tokens.drop i).flatMap e.bytes)

instance (tokens : List Nat) (i : Nat) : Decidable (e.CutAt tokens i) :=
  inferInstanceAs (Decidable (Utf8.decode _ = _))

/-- Between the cuts there is no other: the tokens of one character, or of some that share a token. -/
def Neighbours (tokens : List Nat) (i j : Nat) : Prop :=
  e.CutAt tokens i ∧ e.CutAt tokens j ∧ ∀ k < j, i < k → ¬ e.CutAt tokens k

instance (tokens : List Nat) (i j : Nat) : Decidable (e.Neighbours tokens i j) :=
  inferInstanceAs (Decidable (_ ∧ _ ∧ ∀ k < j, _))

/-- No character takes more tokens when it is encoded by itself than it has here. -/
def Stable (tokens : List Nat) : Prop :=
  ∀ j < tokens.length + 1, ∀ i < j, e.Neighbours tokens i j →
    e.count (e.decode ((tokens.drop i).take (j - i))) ≤ j - i

instance (tokens : List Nat) : Decidable (e.Stable tokens) :=
  inferInstanceAs (Decidable (∀ j < tokens.length + 1, ∀ i < j, _))

/-- The tokens of what an oversized sentence is cut into. -/
def tokenSlices (maxTokens : Nat) (sentence : String) : List (List Nat) :=
  (List.range ((e.count sentence + maxTokens - 1) / maxTokens)).map fun i =>
    ((e.encode sentence).drop (i * maxTokens)).take maxTokens

end ByteEncoding

/-- No character of a slice takes more tokens when it is encoded by itself than it has in the slice. -/
def SlicesStable (e : ByteEncoding) (maxTokens : Nat) (text : String) : Prop :=
  ∀ paragraph ∈ paragraphs text, maxTokens < e.count paragraph →
    ∀ sentence ∈ splitSentences paragraph, maxTokens < e.count sentence →
      ∀ slice ∈ e.tokenSlices maxTokens sentence, e.Stable slice

/-- The sums leave room for the separators: for the blank lines between units that are packed together, and for
    the spaces and the blank line of an overlap. -/
structure LeavesRoom (e : ByteEncoding) (maxTokens overlapTokens : Nat) (text : String) : Prop where
  joins : ∀ units ∈ e.groups maxTokens text, 1 < units.length → e.separated "\n\n" units ≤ maxTokens
  overlaps : ∀ previous units, [previous, units] <:+: e.groups maxTokens text →
    e.overlapText overlapTokens (joinUnits previous) ≠ "" →
      e.separated " " (e.overlap overlapTokens (joinUnits previous)) + e.count "\n\n" +
        e.separated "\n\n" units ≤ maxTokens + overlapTokens

section
variable {e : ByteEncoding} {maxTokens overlapTokens : Nat} {text : String}

/-! ## Groups

What `_pack_units` puts together: single units, which are within the budget by themselves, and groups whose sum is. -/

theorem mem_of_mem_group {units : List String} {unit : String} (h : units ∈ e.groups maxTokens text)
    (hunit : unit ∈ units) : unit ∈ e.units maxTokens text := by
  have hflatten : (e.groups maxTokens text).flatten = e.units maxTokens text :=
    ByteEncoding.flatten_group [] 0 _
  rw [← hflatten]
  exact List.mem_flatten_of_mem h hunit

/-- A group is a single unit, or more than one. -/
theorem groups_cases {units : List String} (h : units ∈ e.groups maxTokens text) :
    (∃ unit, units = [unit]) ∨ 1 < units.length := by
  rcases units with _ | ⟨unit, _ | ⟨unit', units⟩⟩
  · exact absurd h (ByteEncoding.nil_notMem_group [] 0 _)
  · exact .inl ⟨unit, rfl⟩
  · exact .inr (by simp)

/-! ## Separators

Both the blank lines between units and the spaces between sentences, by induction on the parts. -/

/-- **Separators** cost at most their own tokens. -/
theorem count_intercalate_le (h : e.Subadditive) {sep : String} {parts : List String} (hne : parts ≠ []) :
    e.count (String.intercalate sep parts) ≤ e.separated sep parts := by
  induction parts with
  | nil => exact absurd rfl hne
  | cons part parts ih =>
    by_cases hnil : parts = []
    · subst hnil
      simp [ByteEncoding.separated, ByteEncoding.apart]
    · have hrest := ih hnil
      have hjoin := h (part ++ sep) (String.intercalate sep parts)
      have hfirst := h part sep
      have hlength : (part :: parts).length - 1 = (parts.length - 1) + 1 := by
        have := List.length_pos_iff.mpr hnil
        simp
        omega
      rw [String.intercalate_cons_of_ne_nil hnil]
      unfold ByteEncoding.separated ByteEncoding.apart at *
      rw [hlength, List.map_cons, List.sum_cons, Nat.add_mul]
      omega

/-- They cost exactly that where a text takes the tokens of its parts. -/
theorem count_intercalate (h : e.Additive) {sep : String} {parts : List String} (hne : parts ≠ []) :
    e.count (String.intercalate sep parts) = e.separated sep parts := by
  induction parts with
  | nil => exact absurd rfl hne
  | cons part parts ih =>
    by_cases hnil : parts = []
    · subst hnil
      simp [ByteEncoding.separated, ByteEncoding.apart]
    · have hlength : (part :: parts).length - 1 = (parts.length - 1) + 1 := by
        have := List.length_pos_iff.mpr hnil
        simp
        omega
      rw [String.intercalate_cons_of_ne_nil hnil, h, h, ih hnil]
      unfold ByteEncoding.separated ByteEncoding.apart
      rw [hlength, List.map_cons, List.sum_cons, Nat.add_mul]
      omega

/-! ## Slices

A slice is read and encoded anew. Its tokens fall into runs between two cuts, one for each character or for some that
share a token, and a run takes no more than it has. The induction goes over the runs. -/

theorem decode_append_of_cuts {tokens : List Nat} {i j : Nat} (hij : i ≤ j) (hi : e.CutAt tokens i)
    (hj : e.CutAt tokens j) :
    e.decode (tokens.drop i) = e.decode ((tokens.drop i).take (j - i)) ++ e.decode (tokens.drop j) := by
  have hmiddle : tokens.drop i = (tokens.drop i).take (j - i) ++ tokens.drop j := by
    have htail : tokens.drop j = (tokens.drop i).drop (j - i) := by
      rw [List.drop_drop]
      congr 1
      omega
    rw [htail, List.take_append_drop]
  have hfront : tokens.take j = tokens.take i ++ (tokens.drop i).take (j - i) := by
    rw [← List.take_add]
    congr 1
    omega
  generalize (tokens.drop i).take (j - i) = middle at *
  unfold ByteEncoding.CutAt at hi hj
  rw [hmiddle, List.flatMap_append] at hi
  rw [hfront, List.flatMap_append] at hj
  have hleft := hi.left
  unfold Utf8.Apart at hi hj hleft
  rw [hleft, List.append_assoc, List.append_assoc, hi] at hj
  have hbytes := List.append_cancel_left hj
  rw [hmiddle, ByteEncoding.decode, List.flatMap_append, hbytes, String.ofList_append]
  rfl

/-- Tokens take no more when they are read and encoded anew, if those of a character do not. The induction goes
    from the last cut between two characters to the first. -/
theorem count_decode_drop_le (h : e.Subadditive) {tokens : List Nat} (hstable : e.Stable tokens) {i : Nat}
    (hi : i < tokens.length) (hcut : e.CutAt tokens i) :
    e.count (e.decode (tokens.drop i)) ≤ tokens.length - i := by
  induction hn : tokens.length - i using Nat.strongRecOn generalizing i with
  | _ n ih =>
    subst hn
    have hend : e.CutAt tokens tokens.length := by
      unfold ByteEncoding.CutAt
      rw [List.take_length, List.drop_length]
      exact Utf8.apart_nil
    have hexists : ∃ j, i < j ∧ e.CutAt tokens j := ⟨tokens.length, hi, hend⟩
    -- the next cut
    obtain ⟨j, ⟨hij, hj⟩, hnext⟩ : ∃ j, (i < j ∧ e.CutAt tokens j) ∧
        ∀ k < j, ¬ (i < k ∧ e.CutAt tokens k) :=
      ⟨Nat.find hexists, Nat.find_spec hexists, fun k => Nat.find_min hexists⟩
    have hle : j ≤ tokens.length := by
      by_contra hover
      exact hnext tokens.length (Nat.not_le.mp hover) ⟨hi, hend⟩
    have hpiece := hstable j (Nat.lt_succ_of_le hle) i hij
      ⟨hcut, hj, fun k hk hik hkcut => hnext k hk ⟨hik, hkcut⟩⟩
    -- the run is the last one, or the others come after it
    obtain heq | hlt := Nat.eq_or_lt_of_le hle
    · have hwhole : (tokens.drop i).take (j - i) = tokens.drop i :=
        List.take_of_length_le (by simp [heq])
      rw [hwhole] at hpiece
      omega
    · have hrest := ih (tokens.length - j) (by omega) hlt hj rfl
      have htogether := h (e.decode ((tokens.drop i).take (j - i))) (e.decode (tokens.drop j))
      rw [← decode_append_of_cuts hij.le hcut hj] at htogether
      omega

theorem count_decode_le (h : e.Subadditive) {tokens : List Nat} (hne : tokens ≠ []) (hstable : e.Stable tokens) :
    e.count (e.decode tokens) ≤ tokens.length :=
  count_decode_drop_le h hstable (List.length_pos_iff.mpr hne) rfl

theorem map_decode_tokenSlices (sentence : String) :
    e.slices maxTokens sentence = (e.tokenSlices maxTokens sentence).map e.decode := by
  rw [ByteEncoding.slices, ByteEncoding.tokenSlices, List.map_map]
  rfl

/-- A slice has a token, and no more than `max_tokens`. -/
theorem length_tokenSlice {sentence : String} {slice : List Nat} (h : slice ∈ e.tokenSlices maxTokens sentence) :
    slice ≠ [] ∧ slice.length ≤ maxTokens := by
  obtain ⟨i, hi, rfl⟩ := List.mem_map.mp h
  rw [List.mem_range] at hi
  have hmax : 0 < maxTokens := by
    by_contra hzero
    rw [Nat.eq_zero_of_not_pos hzero, Nat.div_zero] at hi
    omega
  have hbefore : i * maxTokens < e.count sentence := by
    have := (Nat.le_div_iff_mul_le hmax).mp hi
    rw [Nat.succ_mul] at this
    omega
  unfold ByteEncoding.count at hbefore
  refine ⟨List.ne_nil_of_length_pos ?_, List.length_take_le _ _⟩
  rw [List.length_take, List.length_drop]
  omega

/-! ## Units

A paragraph, a sentence or a slice. -/

/-- A unit is within the budget by the test that made it one, or as a slice. -/
theorem count_le_of_mem_units (h : e.Subadditive) (hstable : SlicesStable e maxTokens text) {unit : String}
    (hunit : unit ∈ e.units maxTokens text) : e.count unit ≤ maxTokens := by
  obtain ⟨paragraph, hparagraph, hunit⟩ := List.mem_flatMap.mp hunit
  unfold ByteEncoding.paragraphUnits at hunit
  split at hunit
  · next hfits => exact List.mem_singleton.mp hunit ▸ hfits
  · next hover =>
    obtain ⟨sentence, hsentence, hunit⟩ := List.mem_flatMap.mp hunit
    unfold ByteEncoding.sentenceUnits at hunit
    split at hunit
    · next hfits => exact List.mem_singleton.mp hunit ▸ hfits
    · next hover' =>
      rw [map_decode_tokenSlices] at hunit
      obtain ⟨slice, hslice, rfl⟩ := List.mem_map.mp hunit
      obtain ⟨hne, hlength⟩ := length_tokenSlice hslice
      refine (count_decode_le h hne ?_).trans hlength
      exact hstable paragraph hparagraph (Nat.not_le.mp hover) sentence hsentence (Nat.not_le.mp hover') slice
        hslice

/-! ## Packed contents

A content is the text of a group. The bound is for any tokenizer that saves by merging; the equation for one
that does not merge over the seams. -/

/-- A content takes at most the tokens of its units and of the blank lines. -/
theorem count_joinUnits_le (h : e.Subadditive) {units : List String} (hunits : units ∈ e.groups maxTokens text) :
    e.count (joinUnits units) ≤ e.separated "\n\n" units := by
  refine count_intercalate_le h ?_
  rintro rfl
  exact ByteEncoding.nil_notMem_group [] 0 _ hunits

theorem count_joinUnits (h : e.Additive) {units : List String} (hunits : units ∈ e.groups maxTokens text) :
    e.count (joinUnits units) = e.separated "\n\n" units := by
  refine count_intercalate h ?_
  rintro rfl
  exact ByteEncoding.nil_notMem_group [] 0 _ hunits

/-- **Packed contents** are within the budget where their units leave room for the blank lines. -/
theorem packed_le (h : e.Subadditive) (hstable : SlicesStable e maxTokens text)
    (hjoins : ∀ units ∈ e.groups maxTokens text, 1 < units.length → e.separated "\n\n" units ≤ maxTokens)
    {units : List String} (hunits : units ∈ e.groups maxTokens text) : e.count (joinUnits units) ≤ maxTokens := by
  obtain ⟨unit, rfl⟩ | hmany := groups_cases hunits
  · exact count_le_of_mem_units h hstable (mem_of_mem_group hunits List.mem_cons_self)
  · exact (count_joinUnits_le h hunits).trans (hjoins units hunits hmany)

/-! ## Chunks

Packed contents with their overlaps. The loop over them has the content before as an accumulator, and
`forall_wholes` turns what it has for each chunk into a statement about neighbours in the list. -/

/-- The contents with the overlaps in front of them. -/
def wholes (e : ByteEncoding) (overlapTokens : Nat) : (previous : Option String) → List String → List String
  | _, [] => []
  | previous, content :: rest =>
    e.whole overlapTokens previous content :: wholes e overlapTokens (some content) rest

/-- Each chunk but the first has an overlap from the one before it. -/
theorem forall_wholes {P : String → Prop} (previous : Option String) (packed : List String) :
    (∀ content ∈ wholes e overlapTokens previous packed, P content) ↔
      (∀ content ∈ packed.head?, P (e.whole overlapTokens previous content)) ∧
        ∀ before content, [before, content] <:+: packed → P (e.whole overlapTokens (some before) content) := by
  induction packed generalizing previous with
  | nil => simp [wholes]
  | cons first rest ih =>
    -- neighbours in a list are the first two or neighbours in the rest
    have hnext : ∀ before content, [before, content] <:+: first :: rest ↔
        (before = first ∧ content ∈ rest.head?) ∨ [before, content] <:+: rest := by
      intro before content
      rw [List.infix_cons_iff, List.cons_prefix_cons]
      cases rest with
      | nil => simp
      | cons second rest => simp [List.cons_prefix_cons, @eq_comm _ content]
    rw [wholes, List.forall_mem_cons, ih]
    constructor
    · rintro ⟨hfirst, hhead, hrest⟩
      refine ⟨by simpa using hfirst, fun before content h => ?_⟩
      obtain ⟨rfl, hcontent⟩ | h := (hnext before content).mp h
      · exact hhead content hcontent
      · exact hrest before content h
    · rintro ⟨hfirst, hall⟩
      refine ⟨by simpa using hfirst, fun content h => ?_, fun before content h => ?_⟩
      · exact hall first content ((hnext _ _).mpr (.inl ⟨rfl, h⟩))
      · exact hall before content ((hnext _ _).mpr (.inr h))

theorem makeChunks_wholes (i : Nat) (previous : Option String) (packed : List String) :
    ∃ chunks, makeChunks e.encoding overlapTokens i previous packed = .ok chunks ∧
      chunks.map (·.content) = wholes e overlapTokens previous packed ∧
      ∀ chunk ∈ chunks, chunk.tokenCount = e.count chunk.content := by
  induction packed generalizing i previous with
  | nil => exact ⟨[], rfl, rfl, by simp⟩
  | cons content rest ih =>
    obtain ⟨chunks, hchunks, hcontents, hcounts⟩ := ih (i + 1) (some content)
    refine ⟨⟨i, e.whole overlapTokens previous content,
      e.count (e.whole overlapTokens previous content)⟩ :: chunks, ?_, ?_, ?_⟩
    · exact Outcome.bind_eq_ok.mpr ⟨_, ByteEncoding.makeChunk_eq .., Outcome.bind_eq_ok.mpr ⟨_, hchunks, rfl⟩⟩
    · rw [List.map_cons, hcontents, wholes]
    · exact List.forall_mem_cons.mpr ⟨rfl, hcounts⟩

theorem chunkDocumentWith_wholes :
    ∃ chunks, chunkDocumentWith e.encoding maxTokens overlapTokens text = .ok chunks ∧
      chunks.map (·.content) = wholes e overlapTokens none ((e.groups maxTokens text).map joinUnits) ∧
      ∀ chunk ∈ chunks, chunk.tokenCount = e.count chunk.content := by
  unfold chunkDocumentWith
  split
  · next hblank =>
    refine ⟨[], rfl, ?_, by simp⟩
    rw [ByteEncoding.groups_of_blank hblank]
    rfl
  · rw [ByteEncoding.packDocument_eq]
    exact makeChunks_wholes 0 none _

/-- A chunk takes at most the tokens of its overlap, of the blank line and of its own content. -/
theorem count_whole_le (h : e.Subadditive) {previous content : String}
    (hsome : e.overlapText overlapTokens previous ≠ "") :
    e.count (e.whole overlapTokens (some previous) content) ≤
      e.separated " " (e.overlap overlapTokens previous) + e.count "\n\n" + e.count content := by
  have hne : e.overlap overlapTokens previous ≠ [] := by
    intro hnil
    exact hsome (by rw [ByteEncoding.overlapText, hnil]; rfl)
  rw [ByteEncoding.whole, if_neg hsome]
  have hwhole := h (e.overlapText overlapTokens previous ++ "\n\n") content
  have hoverlap := h (e.overlapText overlapTokens previous) "\n\n"
  have hsentences : e.count (e.overlapText overlapTokens previous) ≤
      e.separated " " (e.overlap overlapTokens previous) := count_intercalate_le h hne
  omega

theorem count_whole (h : e.Additive) {previous content : String}
    (hsome : e.overlapText overlapTokens previous ≠ "") :
    e.count (e.whole overlapTokens (some previous) content) =
      e.separated " " (e.overlap overlapTokens previous) + e.count "\n\n" + e.count content := by
  have hne : e.overlap overlapTokens previous ≠ [] := by
    intro hnil
    exact hsome (by rw [ByteEncoding.overlapText, hnil]; rfl)
  have hsentences : e.count (e.overlapText overlapTokens previous) =
      e.separated " " (e.overlap overlapTokens previous) := count_intercalate h hne
  rw [ByteEncoding.whole, if_neg hsome, h, h, hsentences]

theorem adjacent_iff {P : String → String → Prop} :
    (∀ previous content, [previous, content] <:+: (e.groups maxTokens text).map joinUnits → P previous content) ↔
      ∀ previous units, [previous, units] <:+: e.groups maxTokens text →
        P (joinUnits previous) (joinUnits units) := by
  constructor
  · intro h previous units hadjacent
    exact h _ _ (hadjacent.map joinUnits)
  · intro h previous content hadjacent
    obtain ⟨pair, hpair, heq⟩ := List.infix_map_iff.mp hadjacent
    obtain ⟨before, units, rfl⟩ : ∃ before units, pair = [before, units] := by
      rcases pair with _ | ⟨before, _ | ⟨units, _ | ⟨more, rest⟩⟩⟩ <;> simp_all
    obtain ⟨rfl, rfl⟩ : previous = joinUnits before ∧ content = joinUnits units := by simpa using heq
    exact h before units hpair

/-- The budget, as one of the packed contents and of those with an overlap in front. -/
theorem withinBudget_iff :
    WithinBudget e maxTokens overlapTokens text ↔
      (∀ units ∈ e.groups maxTokens text, e.count (joinUnits units) ≤ maxTokens) ∧
        ∀ previous units, [previous, units] <:+: e.groups maxTokens text →
          e.count (e.whole overlapTokens (some (joinUnits previous)) (joinUnits units)) ≤
            maxTokens + overlapTokens := by
  obtain ⟨chunks, hchunks, hcontents, hcounts⟩ :=
    @chunkDocumentWith_wholes e maxTokens overlapTokens text
  have hbudget : (∀ chunk ∈ chunks, chunk.tokenCount = e.count chunk.content ∧
      chunk.tokenCount ≤ maxTokens + overlapTokens) ↔
      ∀ content ∈ wholes e overlapTokens none ((e.groups maxTokens text).map joinUnits),
        e.count content ≤ maxTokens + overlapTokens := by
    rw [← hcontents, List.forall_mem_map]
    refine forall₂_congr fun chunk hchunk => ?_
    rw [hcounts chunk hchunk, eq_self, true_and]
  rw [← adjacent_iff (P := fun previous content =>
    e.count (e.whole overlapTokens (some previous) content) ≤ maxTokens + overlapTokens)]
  constructor
  · rintro ⟨packed, chunks', hpacked, hchunks', hwithin, hbounds⟩
    cases (ByteEncoding.packDocument_eq ..).symm.trans hpacked
    cases hchunks.symm.trans hchunks'
    exact ⟨List.forall_mem_map.mp hwithin, ((forall_wholes none _).mp (hbudget.mp hbounds)).2⟩
  · rintro ⟨hwithin, hlater⟩
    refine ⟨_, chunks, ByteEncoding.packDocument_eq .., hchunks, List.forall_mem_map.mpr hwithin, ?_⟩
    refine hbudget.mpr ((forall_wholes none _).mpr ⟨fun content hcontent => ?_, hlater⟩)
    obtain ⟨units, hunits, rfl⟩ := List.mem_map.mp (List.mem_of_mem_head? hcontent)
    exact Nat.le_add_right_of_le (hwithin units hunits)

end

theorem byteTokens_subadditive : byteTokens.Subadditive := by
  intro a b
  show ((Utf8.encode (a ++ b).toList).map UInt8.toNat).length ≤ _
  simp [Utf8.encode, ByteEncoding.count, byteTokens]

end Helpdesk.Knowledge
