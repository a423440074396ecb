import Helpdesk.Knowledge.Chunking
import Helpdesk.Library.Utf8

/-! # Tokens that are strings of bytes

A tokenizer whose tokens are byte strings encodes every text, and reads tokens by reading their bytes: a
slice of tokens may end inside a character. Over such a tokenizer chunking never raises, and each of its
stages is a function: `units`, `groups` (the units that `_pack_units` joins) and `whole` (a chunk with its
overlap). -/

namespace Helpdesk.Knowledge

open Text

/-! ## Byte strings as tokens

The only law is that a text can be read back from the bytes of its tokens. Which texts share a token is up to
the tokenizer; `byteTokens` is the one that shares none. -/

structure ByteEncoding where
  encode : String → List Nat
  bytes : Nat → List UInt8
  decode_encode : ∀ text, Utf8.decode ((encode text).flatMap bytes) = text.toList

/-- Every byte is a token. -/
def byteTokens : ByteEncoding where
  encode text := (Utf8.encode text.toList).map UInt8.toNat
  bytes token := [UInt8.ofNat token]
  decode_encode text := by
    have hbytes : ∀ bs : List UInt8, (bs.map UInt8.toNat).flatMap (fun t => [UInt8.ofNat t]) = bs := by
      intro bs
      induction bs with
      | nil => rfl
      | cons b bs ih =>
        rw [List.map_cons, List.flatMap_cons, ih, UInt8.ofNat_toNat]
        rfl
    rw [hbytes, Utf8.decode_encode]

namespace ByteEncoding

variable (e : ByteEncoding)

def decode (tokens : List Nat) : String := String.ofList (Utf8.decode (tokens.flatMap e.bytes))

def encoding : Encoding where
  encode text := .ok (e.encode text)
  decode := e.decode

/-- The tokens of a text. -/
def count (text : String) : Nat := (e.encode text).length

/-- What an oversized sentence is cut into. -/
def slices (maxTokens : Nat) (sentence : String) : List String :=
  (List.range ((e.count sentence + maxTokens - 1) / maxTokens)).map fun i =>
    e.decode (((e.encode sentence).drop (i * maxTokens)).take maxTokens)

def sentenceUnits (maxTokens : Nat) (sentence : String) : List String :=
  if e.count sentence ≤ maxTokens then [sentence] else e.slices maxTokens sentence

def paragraphUnits (maxTokens : Nat) (paragraph : String) : List String :=
  if e.count paragraph ≤ maxTokens then [paragraph]
  else (splitSentences paragraph).flatMap (e.sentenceUnits maxTokens)

def units (maxTokens : Nat) (text : String) : List String :=
  (paragraphs text).flatMap (e.paragraphUnits maxTokens)

/-- The units that `_pack_units` puts together: as long as the sum of their tokens allows. -/
def group (maxTokens : Nat) : (current : List String) → (tokens : Nat) → List String → List (List String)
  | current, _, [] => if current = [] then [] else [current]
  | current, tokens, unit :: units =>
    if current ≠ [] ∧ tokens + e.count unit > maxTokens then
      current :: group maxTokens [unit] (e.count unit) units
    else group maxTokens (current ++ [unit]) (tokens + e.count unit) units

def groups (maxTokens : Nat) (text : String) : List (List String) :=
  e.group maxTokens [] 0 (e.units maxTokens text)

/-- The sentences that `_overlap_prefix` takes, from the last one on. -/
def trailing (overlapTokens : Nat) : (running : Nat) → List String → List String
  | _, [] => []
  | running, sentence :: rest =>
    if running + e.count sentence > overlapTokens then []
    else trailing overlapTokens (running + e.count sentence) rest ++ [sentence]

/-- The sentences in front of a chunk that follows `previous`. -/
def overlap (overlapTokens : Nat) (previous : String) : List String :=
  if overlapTokens = 0 then [] else e.trailing overlapTokens 0 (splitSentences previous).reverse

/-- The overlap in front of a chunk: none before the first one. -/
def overlapText (overlapTokens : Nat) : (previous : Option String) → String
  | none => ""
  | some previous => String.intercalate " " (e.overlap overlapTokens previous)

/-- A chunk's content, with the overlap in front of it. -/
def whole (overlapTokens : Nat) (previous : Option String) (content : String) : String :=
  if e.overlapText overlapTokens previous = "" then content
  else e.overlapText overlapTokens previous ++ "\n\n" ++ content

variable {e}

/-! ## The stages as functions

Encoding does not raise, so each stage returns what the function of its name has. What is said of packing
further on, it is said of `groups`. -/

@[simp] theorem countTokens_eq (text : String) : countTokens e.encoding text = .ok (e.count text) := rfl

theorem unitsForSentence_eq (maxTokens : Nat) (sentence : String) :
    unitsForSentence e.encoding maxTokens sentence = .ok (e.sentenceUnits maxTokens sentence) := by
  show (if e.count sentence ≤ maxTokens then pure [sentence]
    else hardSplitByTokens e.encoding sentence maxTokens) = _
  unfold sentenceUnits
  split <;> rfl

theorem unitsForParagraph_eq (maxTokens : Nat) (paragraph : String) :
    unitsForParagraph e.encoding maxTokens paragraph = .ok (e.paragraphUnits maxTokens paragraph) := by
  have hmap := Outcome.mapM_ok (unitsForSentence_eq (e := e) maxTokens) (splitSentences paragraph)
  show (if e.count paragraph ≤ maxTokens then pure [paragraph] else do
    let units ← (splitSentences paragraph).mapM (unitsForSentence e.encoding maxTokens)
    pure units.flatten) = _
  unfold paragraphUnits
  split
  · rfl
  · rw [hmap]
    exact congrArg Except.ok List.flatMap_def.symm

theorem packUnits_eq (maxTokens : Nat) (current : List String) (tokens : Nat) (units : List String) :
    packUnits e.encoding maxTokens current tokens units =
      .ok ((e.group maxTokens current tokens units).map joinUnits) := by
  induction units generalizing current tokens with
  | nil =>
    unfold packUnits group
    split <;> rfl
  | cons unit units ih =>
    show (if current ≠ [] ∧ tokens + e.count unit > maxTokens then do
        let packed ← packUnits e.encoding maxTokens [unit] (e.count unit) units
        pure (joinUnits current :: packed)
      else packUnits e.encoding maxTokens (current ++ [unit]) (tokens + e.count unit) units) = _
    unfold group
    split
    · rw [ih]
      rfl
    · exact ih _ _

/-- Packing takes each unit once, in order. -/
theorem flatten_group {maxTokens : Nat} (current : List String) (tokens : Nat) (units : List String) :
    (e.group maxTokens current tokens units).flatten = current ++ units := by
  induction units generalizing current tokens with
  | nil =>
    unfold group
    split
    · next h => simp [h]
    · simp
  | cons unit units ih =>
    unfold group
    split
    · rw [List.flatten_cons, ih]
      rfl
    · rw [ih, List.append_assoc]
      rfl

theorem nil_notMem_group {maxTokens : Nat} (current : List String) (tokens : Nat) (units : List String) :
    [] ∉ e.group maxTokens current tokens units := by
  induction units generalizing current tokens with
  | nil =>
    unfold group
    split
    · simp
    · next h => simpa using h
  | cons unit units ih =>
    unfold group
    split
    · next h => simpa using ⟨h.1, ih [unit] _⟩
    · exact ih _ _

theorem groups_of_blank {maxTokens : Nat} {text : String} (h : strip text = "") :
    e.groups maxTokens text = [] := by
  have hnil : (String.ofList (stripChars isSpace text.toList)).toList = [] := congrArg String.toList h
  rw [String.toList_ofList] at hnil
  rw [groups, units, paragraphs, hnil]
  rfl

theorem packDocument_eq (maxTokens : Nat) (text : String) :
    packDocument e.encoding maxTokens text = .ok ((e.groups maxTokens text).map joinUnits) := by
  have hmap := Outcome.mapM_ok (unitsForParagraph_eq (e := e) maxTokens) (paragraphs text)
  unfold packDocument
  rw [hmap]
  show packUnits e.encoding maxTokens [] 0 ((paragraphs text).map _).flatten = _
  rw [packUnits_eq, ← List.flatMap_def]
  rfl

theorem overlapSentences_eq (overlapTokens running : Nat) (sentences : List String) :
    overlapSentences e.encoding overlapTokens running sentences =
      .ok (e.trailing overlapTokens running sentences) := by
  induction sentences generalizing running with
  | nil => rfl
  | cons sentence rest ih =>
    show (if running + e.count sentence > overlapTokens then pure [] else do
      let earlier ← overlapSentences e.encoding overlapTokens (running + e.count sentence) rest
      pure (earlier ++ [sentence])) = _
    unfold trailing
    split
    · rfl
    · rw [ih]
      rfl

theorem overlapAfter_eq (overlapTokens : Nat) (previous : Option String) :
    overlapAfter e.encoding overlapTokens previous = .ok (e.overlapText overlapTokens previous) := by
  cases previous with
  | none => rfl
  | some previous =>
    show overlapPrefix e.encoding overlapTokens previous =
      .ok (String.intercalate " " (e.overlap overlapTokens previous))
    unfold overlapPrefix overlap
    split
    · rfl
    · rw [overlapSentences_eq]
      rfl

theorem makeChunk_eq (overlapTokens i : Nat) (previous : Option String) (content : String) :
    makeChunk e.encoding overlapTokens i previous content =
      .ok ⟨i, e.whole overlapTokens previous content, e.count (e.whole overlapTokens previous content)⟩ := by
  unfold makeChunk
  rw [overlapAfter_eq]
  rfl

end ByteEncoding

end Helpdesk.Knowledge
