import Helpdesk.Knowledge.Tokens
import Mathlib.Data.List.TakeWhile

/-! # What chunking does to the text

Every stage but one only drops and adds whitespace: the splits, the strips and the blank lines in between.
The hard split cuts an oversized sentence between tokens, and reads each slice by itself; where a cut
falls inside a character, its parts are read as replacement characters.

The text is kept exactly when no cut does (`keepsText_iff`). -/

namespace Helpdesk.Knowledge

open Text

/-- The characters that are no whitespace. -/
def isVisible (c : Char) : Bool := !isSpace c

def visible (cs : List Char) : List Char := cs.filter isVisible

/-- The contents of the chunks without the overlaps in front of them. -/
def withoutOverlap (encoding : Encoding) (overlapTokens : Nat) : (previous : Option String) →
    List Chunk → Except String (List String)
  | _, [] => pure []
  | previous, chunk :: chunks => do
    let overlap ← overlapAfter encoding overlapTokens previous
    let content :=
      if overlap = "" then chunk.content
      else String.ofList (chunk.content.toList.drop (overlap.length + 2))
    let contents ← withoutOverlap encoding overlapTokens (some content) chunks
    pure (content :: contents)

/-- The chunks hold what is visible of the text, each character once and in its order. -/
def KeepsText (e : ByteEncoding) (maxTokens overlapTokens : Nat) (text : String) : Prop :=
  ∃ chunks contents, chunkDocumentWith e.encoding maxTokens overlapTokens text = .ok chunks ∧
    withoutOverlap e.encoding overlapTokens none chunks = .ok contents ∧
    contents.flatMap (visible ·.toList) = visible text.toList

/-- No sentence that is cut for its length is cut inside a character: at each cut, what comes before it and
    what comes after it are read apart as they are together. -/
def CutsBetweenCharacters (e : ByteEncoding) (maxTokens : Nat) (text : String) : Prop :=
  ∀ paragraph ∈ paragraphs text, maxTokens < e.count paragraph →
    ∀ sentence ∈ splitSentences paragraph, maxTokens < e.count sentence →
      ∀ i < e.count sentence, e.decode ((e.encode sentence).take (i * maxTokens)) ++
        e.decode ((e.encode sentence).drop (i * maxTokens)) = sentence

/-! ## Splits

Each split and strip drops whitespace only. The recursions have the text of the part that is being read as an
accumulator, so the lemmas are about it and the rest together. -/

section
variable {cs : List Char}

theorem visible_append (as bs : List Char) : visible (as ++ bs) = visible as ++ visible bs :=
  List.filter_append ..

theorem visible_of_spaces (h : ∀ c ∈ cs, isSpace c) : visible cs = [] := by
  refine List.filter_eq_nil_iff.mpr fun c hc => ?_
  simp [isVisible, h c hc]

theorem visible_dropWhile : visible (cs.dropWhile isSpace) = visible cs := by
  have hspaces : visible (cs.takeWhile isSpace) = [] :=
    visible_of_spaces fun c hc => List.mem_takeWhile_imp hc
  conv_rhs => rw [← List.takeWhile_append_dropWhile (p := isSpace) (l := cs)]
  rw [visible_append, hspaces, List.nil_append]

theorem visible_stripChars : visible (stripChars isSpace cs) = visible cs := by
  unfold stripChars
  have hreverse : ∀ l : List Char, visible l.reverse = (visible l).reverse := fun l => List.filter_reverse ..
  rw [hreverse, visible_dropWhile, hreverse, List.reverse_reverse, visible_dropWhile]

/-- What is skipped at a break is whitespace. -/
theorem isSpace_of_mem_take {n : Nat} (h : n ≤ (cs.takeWhile isSpace).length) :
    ∀ c ∈ cs.take n, isSpace c := by
  have htake : cs.take n <+: cs := List.take_prefix ..
  have hspaces : cs.takeWhile isSpace <+: cs := List.takeWhile_prefix ..
  have hbegins := List.prefix_of_prefix_length_le htake hspaces (by rw [List.length_take]; omega)
  exact fun c hc => List.mem_takeWhile_imp (hbegins.subset hc)

theorem blankLineEnd_le {n : Nat} (h : blankLineEnd cs = some n) : n ≤ (cs.takeWhile isSpace).length := by
  unfold blankLineEnd at h
  dsimp only at h
  split at h
  · cases h
    exact Nat.sub_le ..
  · cases h

theorem visible_cons_of_isSpace {c : Char} (h : isSpace c) : visible (c :: cs) = visible cs := by
  rw [visible, List.filter_cons_of_neg (by simp [isVisible, h])]
  rfl

theorem visible_push (c : Char) (current : List Char) :
    visible (c :: current).reverse ++ visible cs = visible current.reverse ++ visible (c :: cs) := by
  rw [List.reverse_cons, visible_append, List.append_assoc, ← visible_append]
  rfl

/-- The split drops the breaks: what is skipped, then from each break the newline and what follows. -/
theorem visible_splitParagraphs (skip : Nat) (current cs : List Char)
    (h : ∀ c ∈ cs.take skip, isSpace c) :
    (splitParagraphs skip current cs).flatMap visible = visible current.reverse ++ visible cs := by
  induction cs generalizing skip current with
  | nil => simp [splitParagraphs, visible]
  | cons c cs ih =>
    cases skip with
    -- inside a break
    | succ skip =>
      have hspaces : ∀ d ∈ cs.take skip, isSpace d := fun d hd => h d (List.mem_cons_of_mem _ hd)
      rw [splitParagraphs, ih _ _ hspaces, visible_cons_of_isSpace (h c List.mem_cons_self)]
    | zero =>
      -- a character that belongs to the part
      have hpush : (splitParagraphs 0 (c :: current) cs).flatMap visible =
          visible current.reverse ++ visible (c :: cs) := by
        rw [ih 0 _ (by simp), visible_push]
      unfold splitParagraphs
      split
      · next hc =>
        split
        · next n hn =>
          subst hc
          rw [List.flatMap_cons, ih _ _ (isSpace_of_mem_take (blankLineEnd_le hn)),
            visible_cons_of_isSpace (by decide)]
          rfl
        · exact hpush
      · exact hpush

theorem visible_splitAfterStops (skip : Nat) (current cs : List Char)
    (h : ∀ c ∈ cs.take skip, isSpace c) :
    (splitAfterStops skip current cs).flatMap visible = visible current.reverse ++ visible cs := by
  induction cs generalizing skip current with
  | nil => simp [splitAfterStops, visible]
  | cons c cs ih =>
    cases skip with
    | succ skip =>
      have hspaces : ∀ d ∈ cs.take skip, isSpace d := fun d hd => h d (List.mem_cons_of_mem _ hd)
      rw [splitAfterStops, ih _ _ hspaces, visible_cons_of_isSpace (h c List.mem_cons_self)]
    | zero =>
      unfold splitAfterStops
      split
      · next hc =>
        rw [Bool.and_eq_true] at hc
        rw [List.flatMap_cons, ih _ _ (isSpace_of_mem_take (Nat.le_refl _)), visible_cons_of_isSpace hc.1]
        rfl
      · rw [ih 0 _ (by simp), visible_push]

theorem visible_stripNonBlank (parts : List (List Char)) :
    (stripNonBlank parts).flatMap (visible ·.toList) = parts.flatMap visible := by
  unfold stripNonBlank
  induction parts with
  | nil => rfl
  | cons part parts ih =>
    rw [List.map_cons, List.flatMap_cons, ← ih, ← @visible_stripChars part]
    by_cases hblank : String.ofList (stripChars isSpace part) = ""
    · have hnil : stripChars isSpace part = [] := by simpa using congrArg String.toList hblank
      rw [List.filter_cons_of_neg (by simpa using hblank), hnil]
      rfl
    · rw [List.filter_cons_of_pos (by simpa using hblank), List.flatMap_cons, String.toList_ofList]

theorem visible_paragraphs (text : String) :
    (paragraphs text).flatMap (visible ·.toList) = visible text.toList := by
  rw [paragraphs, visible_stripNonBlank, visible_splitParagraphs 0 _ _ (by simp), visible_stripChars]
  rfl

theorem visible_splitSentences (text : String) :
    (splitSentences text).flatMap (visible ·.toList) = visible text.toList := by
  rw [splitSentences, visible_stripNonBlank, visible_splitAfterStops 0 _ _ (by simp), visible_stripChars]
  rfl

end

/-! ## The hard split

The slices as lists of bytes: together they are the sentence, and each is read by itself. Reading them apart is
the same as reading them together exactly if no cut is inside a character; a cut that is makes more characters. -/

section
variable {e : ByteEncoding} {maxTokens : Nat} {sentence : String}

/-- The bytes of the slices. -/
def sliceBytes (e : ByteEncoding) (maxTokens : Nat) (sentence : String) (k : Nat) : List (List UInt8) :=
  (List.range k).map fun i =>
    (((e.encode sentence).drop (i * maxTokens)).take maxTokens).flatMap e.bytes

theorem flatten_sliceBytes (k : Nat) :
    (sliceBytes e maxTokens sentence k).flatten =
      ((e.encode sentence).take (k * maxTokens)).flatMap e.bytes := by
  induction k with
  | zero => simp [sliceBytes]
  | succ k ih =>
    rw [Nat.succ_mul, List.take_add, List.flatMap_append, ← ih]
    simp [sliceBytes, List.range_succ]

/-- The slices of an oversized sentence. -/
def sliceCount (e : ByteEncoding) (maxTokens : Nat) (sentence : String) : Nat :=
  (e.count sentence + maxTokens - 1) / maxTokens

theorem count_le_sliceCount (hmax : 0 < maxTokens) :
    e.count sentence ≤ sliceCount e maxTokens sentence * maxTokens := by
  have hdiv := Nat.div_add_mod (e.count sentence + maxTokens - 1) maxTokens
  have hmod := Nat.mod_lt (e.count sentence + maxTokens - 1) hmax
  rw [sliceCount, Nat.mul_comm]
  omega

theorem flatten_slices (hmax : 0 < maxTokens) :
    (sliceBytes e maxTokens sentence (sliceCount e maxTokens sentence)).flatten =
      (e.encode sentence).flatMap e.bytes := by
  rw [flatten_sliceBytes, List.take_of_length_le (count_le_sliceCount hmax)]

theorem toList_slices :
    (e.slices maxTokens sentence).flatMap String.toList =
      (sliceBytes e maxTokens sentence (sliceCount e maxTokens sentence)).flatMap Utf8.decode := by
  simp [ByteEncoding.slices, sliceBytes, sliceCount, List.flatMap_map, ByteEncoding.decode]

/-- A cut between two slices, as a cut of the sentence's tokens. -/
theorem apart_iff_cut {i : Nat} :
    Utf8.Apart (((e.encode sentence).take (i * maxTokens)).flatMap e.bytes)
        (((e.encode sentence).drop (i * maxTokens)).flatMap e.bytes) ↔
      e.decode ((e.encode sentence).take (i * maxTokens)) ++
        e.decode ((e.encode sentence).drop (i * maxTokens)) = sentence := by
  rw [← String.toList_inj, Utf8.Apart, ← List.flatMap_append, List.take_append_drop, e.decode_encode,
    String.toList_append, ByteEncoding.decode, ByteEncoding.decode, String.toList_ofList, String.toList_ofList]
  exact eq_comm

theorem take_sliceBytes {i k : Nat} (h : i ≤ k) :
    (sliceBytes e maxTokens sentence k).take i = sliceBytes e maxTokens sentence i := by
  rw [sliceBytes, ← List.map_take, List.take_range, Nat.min_eq_left h]
  rfl

/-- The slices up to some cut hold the tokens before it, and the others those after it. -/
theorem flatten_of_slices_eq_append (hmax : 0 < maxTokens) {front back : List (List UInt8)}
    (h : sliceBytes e maxTokens sentence (sliceCount e maxTokens sentence) = front ++ back) :
    front.flatten = ((e.encode sentence).take (front.length * maxTokens)).flatMap e.bytes ∧
      back.flatten = ((e.encode sentence).drop (front.length * maxTokens)).flatMap e.bytes := by
  have hlength : front.length ≤ sliceCount e maxTokens sentence := by
    have := congrArg List.length h
    rw [sliceBytes, List.length_map, List.length_range, List.length_append] at this
    omega
  have hfront : front.flatten = ((e.encode sentence).take (front.length * maxTokens)).flatMap e.bytes := by
    rw [← flatten_sliceBytes, ← take_sliceBytes hlength, h, List.take_left']
    rfl
  refine ⟨hfront, ?_⟩
  have hall : front.flatten ++ back.flatten = (e.encode sentence).flatMap e.bytes := by
    rw [← List.flatten_append, ← h, flatten_slices hmax]
  rw [hfront, ← List.take_append_drop (front.length * maxTokens) (e.encode sentence),
    List.flatMap_append, List.take_append_drop] at hall
  exact List.append_cancel_left hall

/-- The sentence is cut between characters if and only if its slices stand apart. -/
theorem cuts_iff_apart (hmax : 0 < maxTokens) :
    (∀ i < e.count sentence, e.decode ((e.encode sentence).take (i * maxTokens)) ++
      e.decode ((e.encode sentence).drop (i * maxTokens)) = sentence) ↔
    ∀ front back, sliceBytes e maxTokens sentence (sliceCount e maxTokens sentence) = front ++ back →
      Utf8.Apart front.flatten back.flatten := by
  -- after the last token there is nothing to cut
  have hlast : ∀ i, e.count sentence ≤ i * maxTokens →
      Utf8.Apart (((e.encode sentence).take (i * maxTokens)).flatMap e.bytes)
        (((e.encode sentence).drop (i * maxTokens)).flatMap e.bytes) := by
    intro i hi
    rw [List.drop_eq_nil_of_le hi]
    exact Utf8.apart_nil
  constructor
  · intro h front back hparts
    obtain ⟨hfront, hback⟩ := flatten_of_slices_eq_append hmax hparts
    rw [hfront, hback]
    by_cases hi : front.length < e.count sentence
    · exact apart_iff_cut.mpr (h _ hi)
    · exact hlast _ (Nat.le_trans (Nat.not_lt.mp hi) (Nat.le_mul_of_pos_right _ hmax))
  · intro h i _
    rw [← apart_iff_cut]
    by_cases hi : i ≤ sliceCount e maxTokens sentence
    · have hparts := (List.take_append_drop i
        (sliceBytes e maxTokens sentence (sliceCount e maxTokens sentence))).symm
      obtain ⟨hfront, hback⟩ := flatten_of_slices_eq_append hmax hparts
      have hapart := h _ _ hparts
      rwa [hfront, hback, take_sliceBytes hi, sliceBytes, List.length_map, List.length_range] at hapart
    · have hcount : e.count sentence ≤ _ := count_le_sliceCount hmax
      exact hlast i (Nat.le_trans hcount (Nat.mul_le_mul_right _ (by omega)))

end

/-! ## What is kept

That no stage makes a text shorter is what makes the converse go through: if the whole text is kept, each of its parts
is. -/

/-- `out` is no shorter than `original`, and the same just when `P` holds. -/
structure KeptWhen (original out : List Char) (P : Prop) : Prop where
  length_le : original.length ≤ out.length
  eq_iff : out = original ↔ P

namespace KeptWhen

variable {α : Type} {original out : List Char} {P Q : Prop}

theorem of_eq (h : out = original) (hP : P) : KeptWhen original out P :=
  ⟨by rw [h], iff_of_true h hP⟩

theorem congr (h : KeptWhen original out P) (hPQ : P ↔ Q) : KeptWhen original out Q :=
  ⟨h.length_le, h.eq_iff.trans hPQ⟩

/-- A text in parts is kept when each part is. -/
theorem flatMap {f g : α → List Char} {P : α → Prop} {xs : List α}
    (h : ∀ x ∈ xs, KeptWhen (f x) (g x) (P x)) :
    KeptWhen (xs.flatMap f) (xs.flatMap g) (∀ x ∈ xs, P x) := by
  induction xs with
  | nil => exact of_eq rfl (by simp)
  | cons x xs ih =>
    have hx := h x List.mem_cons_self
    have hxs := ih fun y hy => h y (List.mem_cons_of_mem _ hy)
    rw [List.flatMap_cons, List.flatMap_cons, List.forall_mem_cons]
    refine ⟨?_, ⟨fun heq => ?_, fun ⟨hP, hPs⟩ => ?_⟩⟩
    · have := hx.length_le
      have := hxs.length_le
      simp only [List.length_append]
      omega
    · -- neither part is shorter, so each has its length
      have hlength : (g x).length = (f x).length := by
        have hsum := congrArg List.length heq
        have := hx.length_le
        have := hxs.length_le
        simp only [List.length_append] at hsum
        omega
      obtain ⟨heqx, heqxs⟩ := List.append_inj heq hlength
      exact ⟨hx.eq_iff.mp heqx, hxs.eq_iff.mp heqxs⟩
    · rw [hx.eq_iff.mpr hP, hxs.eq_iff.mpr hPs]

end KeptWhen

section
variable {e : ByteEncoding} {maxTokens : Nat}

theorem visible_flatMap {α : Type} (f : α → List Char) (xs : List α) :
    visible (xs.flatMap f) = xs.flatMap fun x => visible (f x) :=
  List.filter_flatMap

theorem slices_keptWhen (hmax : 0 < maxTokens) (sentence : String) :
    KeptWhen (visible sentence.toList) ((e.slices maxTokens sentence).flatMap (visible ·.toList))
      (∀ i < e.count sentence, e.decode ((e.encode sentence).take (i * maxTokens)) ++
        e.decode ((e.encode sentence).drop (i * maxTokens)) = sentence) := by
  have hreplacement : isVisible Utf8.replacement := by decide
  rw [← visible_flatMap, toList_slices, ← e.decode_encode sentence, ← flatten_slices hmax]
  generalize hparts : sliceBytes e maxTokens sentence (sliceCount e maxTokens sentence) = parts
  refine ⟨?_, Iff.trans ⟨fun h front back hcut => ?_, fun h => ?_⟩ (hparts ▸ (cuts_iff_apart hmax).symm)⟩
  · rw [visible, visible, ← List.countP_eq_length_filter, ← List.countP_eq_length_filter]
    exact Utf8.countP_decode_flatten_le hreplacement parts
  · have hlength := congrArg List.length h
    rw [visible, visible, ← List.countP_eq_length_filter, ← List.countP_eq_length_filter] at hlength
    exact Utf8.apart_of_countP_eq hreplacement hlength hcut
  · rw [Utf8.flatMap_decode_of_apart h]

theorem sentenceUnits_keptWhen (hmax : 0 < maxTokens) (sentence : String) :
    KeptWhen (visible sentence.toList) ((e.sentenceUnits maxTokens sentence).flatMap (visible ·.toList))
      (maxTokens < e.count sentence → ∀ i < e.count sentence,
        e.decode ((e.encode sentence).take (i * maxTokens)) ++
          e.decode ((e.encode sentence).drop (i * maxTokens)) = sentence) := by
  unfold ByteEncoding.sentenceUnits
  split
  · next hfits => exact .of_eq (by simp) fun h => absurd h (Nat.not_lt.mpr hfits)
  · next hfits =>
    exact (slices_keptWhen hmax sentence).congr (imp_iff_right (Nat.not_le.mp hfits)).symm

theorem paragraphUnits_keptWhen (hmax : 0 < maxTokens) (paragraph : String) :
    KeptWhen (visible paragraph.toList) ((e.paragraphUnits maxTokens paragraph).flatMap (visible ·.toList))
      (maxTokens < e.count paragraph → ∀ sentence ∈ splitSentences paragraph,
        maxTokens < e.count sentence → ∀ i < e.count sentence,
          e.decode ((e.encode sentence).take (i * maxTokens)) ++
            e.decode ((e.encode sentence).drop (i * maxTokens)) = sentence) := by
  unfold ByteEncoding.paragraphUnits
  split
  · next hfits => exact .of_eq (by simp) fun h => absurd h (Nat.not_lt.mpr hfits)
  · next hfits =>
    rw [← visible_splitSentences, List.flatMap_assoc]
    exact (KeptWhen.flatMap fun sentence _ => sentenceUnits_keptWhen hmax sentence).congr
      (imp_iff_right (Nat.not_le.mp hfits)).symm

theorem units_keptWhen (hmax : 0 < maxTokens) (text : String) :
    KeptWhen (visible text.toList) ((e.units maxTokens text).flatMap (visible ·.toList))
      (CutsBetweenCharacters e maxTokens text) := by
  rw [← visible_paragraphs, ByteEncoding.units, List.flatMap_assoc]
  exact .flatMap fun paragraph _ => paragraphUnits_keptWhen hmax paragraph

/-! ## Packing and overlaps

Packing puts blank lines in between, which are not visible. The overlaps are taken off again before the comparison. -/

theorem visible_joinUnits (units : List String) :
    visible (joinUnits units).toList = units.flatMap (visible ·.toList) := by
  have hblank : visible "\n\n".toList = [] := by decide
  induction units with
  | nil => rfl
  | cons unit units ih =>
    by_cases hnil : units = []
    · simp [hnil, joinUnits]
    · rw [joinUnits, String.intercalate_cons_of_ne_nil hnil, String.toList_append, String.toList_append,
        visible_append, visible_append, hblank, List.append_nil, List.flatMap_cons, ← ih]
      rfl

theorem visible_packed (text : String) :
    ((e.groups maxTokens text).map joinUnits).flatMap (visible ·.toList) =
      (e.units maxTokens text).flatMap (visible ·.toList) := by
  have hunits : (e.groups maxTokens text).flatten = e.units maxTokens text :=
    ByteEncoding.flatten_group [] 0 _
  rw [← hunits, List.flatMap_map, ← List.flatMap_id, List.flatMap_assoc]
  simp only [visible_joinUnits, id]

/-- Taking off the overlaps gives the packed contents back. -/
theorem withoutOverlap_makeChunks (overlapTokens i : Nat) (previous : Option String)
    (packed : List String) :
    ∃ chunks, makeChunks e.encoding overlapTokens i previous packed = .ok chunks ∧
      withoutOverlap e.encoding overlapTokens previous chunks = .ok packed := by
  induction packed generalizing i previous with
  | nil => exact ⟨[], rfl, rfl⟩
  | cons content rest ih =>
    obtain ⟨chunks, hchunks, hwithout⟩ := ih (i + 1) (some content)
    have hcontent : (if e.overlapText overlapTokens previous = "" then e.whole overlapTokens previous content
        else String.ofList ((e.whole overlapTokens previous content).toList.drop
          ((e.overlapText overlapTokens previous).length + 2))) = content := by
      unfold ByteEncoding.whole
      split
      · rfl
      · have hdrop : (e.overlapText overlapTokens previous ++ "\n\n" ++ content).toList.drop
            ((e.overlapText overlapTokens previous).length + 2) = content.toList := by
          rw [String.toList_append]
          exact List.drop_left' (by simp [String.length_toList])
        rw [hdrop, String.ofList_toList]
    refine ⟨⟨i, e.whole overlapTokens previous content,
      e.count (e.whole overlapTokens previous content)⟩ :: chunks, ?_, ?_⟩
    · exact Outcome.bind_eq_ok.mpr ⟨_, ByteEncoding.makeChunk_eq .., Outcome.bind_eq_ok.mpr ⟨_, hchunks, rfl⟩⟩
    · refine Outcome.bind_eq_ok.mpr ⟨_, ByteEncoding.overlapAfter_eq .., ?_⟩
      simp only [hcontent]
      exact Outcome.bind_eq_ok.mpr ⟨_, hwithout, rfl⟩

theorem chunkDocumentWith_returns (overlapTokens : Nat) (text : String) :
    ∃ chunks, chunkDocumentWith e.encoding maxTokens overlapTokens text = .ok chunks ∧
      withoutOverlap e.encoding overlapTokens none chunks = .ok ((e.groups maxTokens text).map joinUnits) := by
  unfold chunkDocumentWith
  split
  · next hblank =>
    refine ⟨[], rfl, ?_⟩
    rw [ByteEncoding.groups_of_blank hblank]
    rfl
  · rw [ByteEncoding.packDocument_eq]
    exact withoutOverlap_makeChunks overlapTokens 0 none _

/-- **Chunking keeps the text** if and only if it cuts no character. -/
theorem keepsText_iff (hmax : 0 < maxTokens) (overlapTokens : Nat) (text : String) :
    KeepsText e maxTokens overlapTokens text ↔ CutsBetweenCharacters e maxTokens text := by
  obtain ⟨chunks, hchunks, hwithout⟩ := @chunkDocumentWith_returns e maxTokens overlapTokens text
  rw [← (units_keptWhen hmax text).eq_iff, ← visible_packed]
  constructor
  · rintro ⟨chunks', contents, hchunks', hwithout', hkept⟩
    cases hchunks.symm.trans hchunks'
    cases hwithout.symm.trans hwithout'
    exact hkept
  · intro hkept
    exact ⟨chunks, _, hchunks, hwithout, hkept⟩

end

/-- Two tokens to a slice cut between the characters of `éé`. -/
theorem keepsText_iff_two : KeepsText byteTokens 2 0 "éé" :=
  (keepsText_iff (by decide) 0 "éé").mpr (by unfold CutsBetweenCharacters; decide +kernel)

/-- One token to a slice cuts `é` in two, and each half is read as a replacement character. -/
theorem not_keepsText : ¬ ∀ (e : ByteEncoding) (maxTokens overlapTokens : Nat) (text : String),
    0 < maxTokens → KeepsText e maxTokens overlapTokens text := by
  intro h
  obtain ⟨chunks, contents, hchunks, hwithout, hkept⟩ := h byteTokens 1 0 "é" (by decide)
  have hcut : chunkDocumentWith byteTokens.encoding 1 0 "é" =
      .ok [⟨0, "\uFFFD", 3⟩, ⟨1, "\uFFFD", 3⟩] := by decide +kernel
  cases hcut.symm.trans hchunks
  have hcontents : withoutOverlap byteTokens.encoding 0 none [⟨0, "\uFFFD", 3⟩, ⟨1, "\uFFFD", 3⟩] =
      .ok ["\uFFFD", "\uFFFD"] := by decide +kernel
  cases hcontents.symm.trans hwithout
  exact absurd hkept (by decide +kernel)

end Helpdesk.Knowledge
