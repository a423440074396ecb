import Helpdesk.Core.Text
import Helpdesk.Library.Outcome

/-! # Splitting an article into chunks

`chunk_document` and the helpers it is made of. The tokenizer is an argument: a chunk's size is
counted in its tokens, and an oversized sentence is cut between them. Encoding may raise, since
`encode` refuses the spelling of a special token.

The two regular expressions are read off as scans: a paragraph break reaches from the first to the
last newline of a run of whitespace that holds at least two, a sentence ends where whitespace follows
one of `.!?`. -/

namespace Helpdesk.Knowledge

open Text

/-- A tokenizer (`tiktoken.Encoding`). -/
structure Encoding where
  encode : String → Except String (List Nat)
  decode : List Nat → String

structure Chunk where
  index : Nat
  content : String
  tokenCount : Nat
  deriving DecidableEq

/-! ## Regular expressions

Both splits keep the text between the breaks backwards, until a break or the end comes. -/

/-- The length of what `\s*\n` matches at the start of `cs`. -/
def blankLineEnd (cs : List Char) : Option Nat :=
  let spaces := cs.takeWhile isSpace
  if '\n' ∈ spaces then
    some (spaces.length - (spaces.reverse.takeWhile (· ≠ '\n')).length)
  else none

/-- `_PARAGRAPH_SPLIT_RE.split`; the paragraph being read is `current`, backwards, and `skip`
    characters of a break are still to be dropped. -/
def splitParagraphs : (skip : Nat) → (current : List Char) → List Char → List (List Char)
  | _, current, [] => [current.reverse]
  | skip + 1, current, _ :: cs => splitParagraphs skip current cs
  | 0, current, c :: cs =>
    if c = '\n' then
      match blankLineEnd cs with
      | some n => current.reverse :: splitParagraphs n [] cs
      | none => splitParagraphs 0 (c :: current) cs
    else splitParagraphs 0 (c :: current) cs

/-- `_SENTENCE_SPLIT_RE.split`, in the same way. -/
def splitAfterStops : (skip : Nat) → (current : List Char) → List Char → List (List Char)
  | _, current, [] => [current.reverse]
  | skip + 1, current, _ :: cs => splitAfterStops skip current cs
  | 0, current, c :: cs =>
    if isSpace c && current.head?.any (fun p => p = '.' || p = '!' || p = '?') then
      current.reverse :: splitAfterStops (cs.takeWhile isSpace).length [] cs
    else splitAfterStops 0 (c :: current) cs

/-- `[p.strip() for p in parts if p.strip()]`. -/
def stripNonBlank (parts : List (List Char)) : List String :=
  (parts.map fun p => String.ofList (stripChars isSpace p)).filter (· ≠ "")

/-- `_split_sentences`. -/
def splitSentences (text : String) : List String :=
  stripNonBlank (splitAfterStops 0 [] (stripChars isSpace text.toList))

/-! ## Packing

From the paragraphs to the chunks, each function under its name in the source. A loop that appends to a list is
a recursion with what it has so far as an argument. -/

section
variable (encoding : Encoding)

/-- `_count_tokens`. -/
def countTokens (text : String) : Except String Nat := do
  let tokens ← encoding.encode text
  pure tokens.length

/-- `_hard_split_by_tokens`. -/
def hardSplitByTokens (text : String) (maxTokens : Nat) : Except String (List String) := do
  let tokens ← encoding.encode text
  pure ((List.range ((tokens.length + maxTokens - 1) / maxTokens)).map fun i =>
    encoding.decode ((tokens.drop (i * maxTokens)).take maxTokens))

/-- One sentence: itself if it fits, or its hard split. -/
def unitsForSentence (maxTokens : Nat) (sentence : String) : Except String (List String) := do
  let n ← countTokens encoding sentence
  if n ≤ maxTokens then pure [sentence] else hardSplitByTokens encoding sentence maxTokens

/-- `_units_for_paragraph`. -/
def unitsForParagraph (maxTokens : Nat) (paragraph : String) : Except String (List String) := do
  let n ← countTokens encoding paragraph
  if n ≤ maxTokens then pure [paragraph]
  else
    let units ← (splitSentences paragraph).mapM (unitsForSentence encoding maxTokens)
    pure units.flatten

/-- `"\n\n".join`. -/
def joinUnits (units : List String) : String := String.intercalate "\n\n" units

/-- The loop of `_pack_units`, with `current_units` and `current_tokens`. -/
def packUnits (maxTokens : Nat) : (current : List String) → (tokens : Nat) → List String →
    Except String (List String)
  | current, _, [] => pure (if current = [] then [] else [joinUnits current])
  | current, tokens, unit :: units => do
    let n ← countTokens encoding unit
    if current ≠ [] ∧ tokens + n > maxTokens then
      let packed ← packUnits maxTokens [unit] n units
      pure (joinUnits current :: packed)
    else packUnits maxTokens (current ++ [unit]) (tokens + n) units

/-- The loop of `_overlap_prefix`, over the sentences from the last one on. -/
def overlapSentences (overlapTokens : Nat) : (running : Nat) → List String →
    Except String (List String)
  | _, [] => pure []
  | running, sentence :: rest => do
    let n ← countTokens encoding sentence
    if running + n > overlapTokens then pure []
    else
      let earlier ← overlapSentences overlapTokens (running + n) rest
      pure (earlier ++ [sentence])

/-- `_overlap_prefix`. -/
def overlapPrefix (overlapTokens : Nat) (previous : String) : Except String String :=
  if overlapTokens = 0 then pure ""
  else do
    let sentences ← overlapSentences encoding overlapTokens 0 (splitSentences previous).reverse
    pure (String.intercalate " " sentences)

/-- The overlap in front of a chunk: none before the first one. -/
def overlapAfter (overlapTokens : Nat) : (previous : Option String) → Except String String
  | none => pure ""
  | some previous => overlapPrefix encoding overlapTokens previous

/-- The chunk number `i`, after the packed content `previous`. -/
def makeChunk (overlapTokens i : Nat) (previous : Option String) (content : String) :
    Except String Chunk := do
  let overlap ← overlapAfter encoding overlapTokens previous
  let content := if overlap = "" then content else overlap ++ "\n\n" ++ content
  let n ← countTokens encoding content
  pure ⟨i, content, n⟩

/-- The loop over the packed contents. -/
def makeChunks (overlapTokens : Nat) : (i : Nat) → (previous : Option String) → List String →
    Except String (List Chunk)
  | _, _, [] => pure []
  | i, previous, content :: rest => do
    let chunk ← makeChunk encoding overlapTokens i previous content
    let chunks ← makeChunks overlapTokens (i + 1) (some content) rest
    pure (chunk :: chunks)

/-- The paragraphs of a document. -/
def paragraphs (text : String) : List String :=
  stripNonBlank (splitParagraphs 0 [] (stripChars isSpace text.toList))

/-- The contents of a document's chunks, without the overlaps. -/
def packDocument (maxTokens : Nat) (text : String) : Except String (List String) := do
  let units ← (paragraphs text).mapM (unitsForParagraph encoding maxTokens)
  packUnits encoding maxTokens [] 0 units.flatten

/-- `chunk_document`, with its keyword arguments. -/
def chunkDocumentWith (maxTokens overlapTokens : Nat) (text : String) : Except String (List Chunk) :=
  if strip text = "" then pure []
  else do
    let packed ← packDocument encoding maxTokens text
    makeChunks encoding overlapTokens 0 none packed

/-- The default of `max_tokens`. -/
def maxTokens : Nat := 512

/-- The default of `overlap_tokens`. -/
def overlapTokens : Nat := 64

/-- `chunk_document`, as the indexing job calls it. -/
def chunkDocument (text : String) : Except String (List Chunk) :=
  chunkDocumentWith encoding maxTokens overlapTokens text

end

/-! ## Indices

The unique index over the chunks of an article is about these. -/

section
variable {encoding : Encoding}

theorem makeChunks_index {overlapTokens i : Nat} {previous : Option String} {packed : List String}
    {chunks : List Chunk} (h : makeChunks encoding overlapTokens i previous packed = .ok chunks) :
    chunks.map (·.index) = List.range' i packed.length := by
  induction packed generalizing i previous chunks with
  | nil =>
    obtain rfl := (Outcome.pure_eq_ok _ _).mp h
    rfl
  | cons content rest ih =>
    obtain ⟨chunk, hchunk, h⟩ := Outcome.bind_eq_ok.mp h
    obtain ⟨chunks', hrest, h⟩ := Outcome.bind_eq_ok.mp h
    obtain rfl := (Outcome.pure_eq_ok _ _).mp h
    have hindex : chunk.index = i := by
      obtain ⟨_, -, hchunk⟩ := Outcome.bind_eq_ok.mp hchunk
      obtain ⟨_, -, hchunk⟩ := Outcome.bind_eq_ok.mp hchunk
      obtain rfl := (Outcome.pure_eq_ok _ _).mp hchunk
      rfl
    rw [List.map_cons, ih hrest, hindex, List.length_cons, List.range'_succ]

/-- **Chunks are numbered** from zero on, without gaps. -/
theorem chunkDocument_index {text : String} {chunks : List Chunk}
    (h : chunkDocument encoding text = .ok chunks) :
    chunks.map (·.index) = List.range chunks.length := by
  unfold chunkDocument chunkDocumentWith at h
  split at h
  · obtain rfl := (Outcome.pure_eq_ok _ _).mp h
    rfl
  · obtain ⟨packed, -, h⟩ := Outcome.bind_eq_ok.mp h
    have hindex := makeChunks_index h
    have hlength : chunks.length = packed.length := by
      simpa using congrArg List.length hindex
    rw [hindex, hlength, List.range_eq_range']

end

end Helpdesk.Knowledge
