import Helpdesk.Core.Basic
import Helpdesk.Core.Text

/-! # Email threads

The string functions by which a reply finds its ticket: the normalized subject, the `[#xxxxxxxx]`
tag, the reference ids, and the headers of an outbound reply. Each regular expression is a scan over
the characters. -/

namespace Helpdesk.Email

/-! ## Subjects

`_PREFIX_RE`, `_TAG_RE` and the blanks, each as a scan. The loop over the prefixes takes the length of the text
as its fuel; every prefix shortens it. -/

/-- A character that `c` matches with `re.IGNORECASE`, for an ASCII letter `c`. -/
def eqIgnoreCase (c d : Char) : Bool := d = c || d = c.toUpper

/-- Drop the word `word` in front, in any case. -/
def dropWord (word cs : List Char) : Option (List Char) :=
  if word.length ≤ cs.length ∧ (List.zipWith eqIgnoreCase word cs).all id then
    some (cs.drop word.length)
  else none

/-- `\s*:?\s*` -/
def dropColon (cs : List Char) : List Char :=
  match cs.dropWhile Text.isSpace with
  | ':' :: rest => rest.dropWhile Text.isSpace
  | rest => rest

/-- `_REPLY_FORWARD_PREFIX_RE`: what follows the prefix, if there is one. -/
def stripPrefix (cs : List Char) : Option (List Char) :=
  (((dropWord ['r', 'e'] cs).or (dropWord ['f', 'w', 'd'] cs)).or (dropWord ['f', 'w'] cs)).map
    dropColon

/-- The loop that strips every prefix; `n` bounds its rounds. -/
def stripPrefixes : (n : Nat) → List Char → List Char
  | 0, cs => cs
  | n + 1, cs =>
    match stripPrefix cs with
    | some rest => stripPrefixes n rest
    | none => cs

/-- `[0-9a-f]` -/
def isLowerHex (c : Char) : Bool := ('0' ≤ c && c ≤ '9') || ('a' ≤ c && c ≤ 'f')

/-- The digits of a `[#xxxxxxxx]` tag in front. -/
def tagInFront : List Char → Option (List Char)
  | '[' :: '#' :: cs =>
    if (cs.take 8).length = 8 ∧ (cs.take 8).all isLowerHex ∧ (cs.drop 8).head? = some ']' then
      some (cs.take 8)
    else none
  | _ => none

/-- `_TICKET_TAG_RE.sub("", text)`; `skip` characters of a tag are still to be dropped. -/
def removeTags : (skip : Nat) → List Char → List Char
  | _, [] => []
  | skip + 1, _ :: cs => removeTags skip cs
  | 0, c :: cs =>
    match tagInFront (c :: cs) with
    | some _ => removeTags 10 cs
    | none => c :: removeTags 0 cs

/-- `_WHITESPACE_RE.sub(" ", text)`; `inSpace` says that the blank of a run is already written. -/
def collapseSpaces : (inSpace : Bool) → List Char → List Char
  | _, [] => []
  | inSpace, c :: cs =>
    if Text.isSpace c then
      if inSpace then collapseSpaces true cs else ' ' :: collapseSpaces true cs
    else c :: collapseSpaces false cs

/-- `normalize_subject`, where `lower` is `str.lower`. -/
def normalizeSubject (lower : String → String) (subject : String) : String :=
  let text := stripPrefixes subject.toList.length subject.toList
  lower (Text.strip (String.ofList (collapseSpaces false (removeTags 0 text))))

/-- A stripped prefix has taken characters off. -/
theorem length_stripPrefix {cs rest : List Char} (h : stripPrefix cs = some rest) :
    rest.length < cs.length := by
  have hword : ∀ {word rest : List Char}, word ≠ [] → dropWord word cs = some rest →
      rest.length < cs.length := by
    intro word rest hword hdrop
    unfold dropWord at hdrop
    split at hdrop
    next hle =>
      cases hdrop
      have := List.length_pos_iff.mpr hword
      rw [List.length_drop]
      omega
    · cases hdrop
  have hcolon : ∀ cs : List Char, (dropColon cs).length ≤ cs.length := by
    intro cs
    have hle := (List.dropWhile_suffix Text.isSpace (l := cs)).length_le
    unfold dropColon
    split
    next rest heq =>
      have := (List.dropWhile_suffix Text.isSpace (l := rest)).length_le
      rw [heq, List.length_cons] at hle
      omega
    · exact hle
  obtain ⟨tail, htail, rfl⟩ := Option.map_eq_some_iff.mp h
  apply Nat.lt_of_le_of_lt (hcolon tail)
  rcases Option.or_eq_some_iff.mp htail with hor | ⟨-, hfw⟩
  · rcases Option.or_eq_some_iff.mp hor with hre | ⟨-, hfwd⟩
    · exact hword (by simp) hre
    · exact hword (by simp) hfwd
  · exact hword (by simp) hfw

/-- The bound that `normalizeSubject` gives the loop is enough: no prefix is left. -/
theorem stripPrefix_stripPrefixes {n : Nat} {cs : List Char} (h : cs.length ≤ n) :
    stripPrefix (stripPrefixes n cs) = none := by
  induction n generalizing cs with
  | zero =>
    obtain rfl : cs = [] := List.eq_nil_of_length_eq_zero (Nat.le_zero.mp h)
    rfl
  | succ n ih =>
    unfold stripPrefixes
    split
    next rest hrest =>
      apply ih
      have := length_stripPrefix hrest
      omega
    next hnone => exact hnone

/-! ## References

The ids that a mail names, without repetitions and in the order in which they are tried, and the headers that a
reply goes out with. -/

/-- The scan of `extract_reference_ids`; `seen` are the candidates kept so far. -/
def keepNew (seen : List String) : List String → List String
  | [] => []
  | id :: rest =>
    if id = "" ∨ id ∈ seen then keepNew seen rest else id :: keepNew (id :: seen) rest

/-- `extract_reference_ids`. -/
def extractReferenceIds (inReplyTo : Option String) (references : List String) : List String :=
  keepNew [] (inReplyTo.toList ++ references.reverse)

/-- `parse_ticket_tag`. -/
def parseTicketTag (subject : String) : Option String :=
  (subject.toList.tails.findSome? tagInFront).map String.ofList

/-- What `build_reply_headers` returns. -/
structure ReplyHeaders where
  subject : String
  inReplyTo : String
  references : String
  deriving DecidableEq

/-- `build_reply_headers`. -/
def buildReplyHeaders (ticketId : Uuid) (originalSubject inReplyToMessageId : String)
    (referencesMessageIds : List String) : ReplyHeaders :=
  let tag := String.ofList ((uuidStr ticketId).toList.take 8)
  let references :=
    if inReplyToMessageId ∈ referencesMessageIds then referencesMessageIds
    else referencesMessageIds ++ [inReplyToMessageId]
  { subject :=
      if parseTicketTag originalSubject = none then originalSubject ++ " [#" ++ tag ++ "]"
      else originalSubject
    inReplyTo := inReplyToMessageId
    references := " ".intercalate references }

end Helpdesk.Email
