import Helpdesk.Email.Replay

/-! # The tag in a subject

A reply puts a tag into its subject, the first eight digits of its ticket's id, unless there is one already.
An answer comes back with that subject behind `Re:` and the like, which mail programs put in front
(`AnswersTo`).

**`firstTag_answersTo`**: the first tag of the answer is the first one of the subject that it answers, and
`firstTag_buildReplyHeaders` says which one that is. -/

namespace Helpdesk.Email

open Run

/-! ## The tag

The encoder puts the tag behind a blank at the end of the subject, and the decoder takes the first tag that it
finds. So the lemmas are about where a tag can begin and how far it reaches. -/

/-- The tag of a ticket: the first eight digits of its id. -/
def ticketTag (ticketId : Uuid) : List Char := (hexDigits 32 ticketId).take 8

/-- The first tag in a text. -/
def firstTag (cs : List Char) : Option (List Char) := cs.tails.findSome? tagInFront

theorem parseTicketTag_eq (subject : String) :
    parseTicketTag subject = (firstTag subject.toList).map String.ofList := rfl

theorem length_hexDigits (n : Nat) (id : Uuid) : (hexDigits n id).length = n := by
  simp [hexDigits]

theorem isLowerHex_of_mem_hexDigits {n : Nat} {id : Uuid} {c : Char} (h : c ∈ hexDigits n id) :
    isLowerHex c = true := by
  unfold hexDigits at h
  rw [List.mem_reverse, List.mem_map] at h
  obtain ⟨i, -, rfl⟩ := h
  have hdigit : ∀ d < 16, isLowerHex (Nat.digitChar d) = true := by decide
  exact hdigit _ (Nat.mod_lt _ (by decide))

theorem length_ticketTag (ticketId : Uuid) : (ticketTag ticketId).length = 8 := by
  simp [ticketTag, length_hexDigits]

theorem uuidStr_take (ticketId : Uuid) : (uuidStr ticketId).toList.take 8 = ticketTag ticketId := by
  have hlength := length_ticketTag ticketId
  unfold uuidStr
  rw [String.toList_ofList]
  simp only [List.append_assoc]
  exact List.take_left' hlength

/-- Only a bracket starts a tag. -/
theorem tagInFront_of_ne {c : Char} (h : c ≠ '[') (cs : List Char) : tagInFront (c :: cs) = none := by
  unfold tagInFront
  split
  next heq =>
    cases heq
    exact absurd rfl h
  · rfl

theorem tagInFront_tag {tag : List Char} (hlength : tag.length = 8)
    (hhex : ∀ c ∈ tag, isLowerHex c = true) (rest : List Char) :
    tagInFront ('[' :: '#' :: (tag ++ ']' :: rest)) = some tag := by
  have htake : (tag ++ ']' :: rest).take 8 = tag := List.take_left' hlength
  have hdrop : (tag ++ ']' :: rest).drop 8 = ']' :: rest := List.drop_left' hlength
  have hall : tag.all isLowerHex = true := List.all_eq_true.mpr hhex
  simp [tagInFront, htake, hdrop, hlength, hall]

/-- No tag reaches over a blank. -/
theorem tagInFront_append_blank (cs rest : List Char) :
    tagInFront (cs ++ ' ' :: rest) = tagInFront cs := by
  -- by the two characters that a tag starts with
  match cs with
  | [] => rfl
  | [c] =>
    by_cases h : c = '['
    · subst h
      rfl
    · rw [List.singleton_append, tagInFront_of_ne h, tagInFront_of_ne h]
  | c :: c' :: cs =>
    by_cases h : c = '[' ∧ c' = '#'
    · obtain ⟨rfl, rfl⟩ := h
      simp only [List.cons_append, tagInFront]
      rcases Nat.lt_or_ge cs.length 8 with hlt | hge
      · -- the blank is among the eight characters
        have hblank : ' ' ∈ (cs ++ ' ' :: rest).take 8 := by
          rw [List.take_append, List.mem_append]
          right
          obtain ⟨n, hn⟩ : ∃ n, 8 - cs.length = n + 1 := ⟨8 - cs.length - 1, by omega⟩
          rw [hn, List.take_succ_cons]
          exact List.mem_cons_self
        have hnot : ((cs ++ ' ' :: rest).take 8).all isLowerHex = false := by
          rw [List.all_eq_false]
          exact ⟨' ', hblank, by decide⟩
        rw [if_neg, if_neg]
        · rw [List.length_take]
          omega
        · simp [hnot]
      -- the blank is behind the eight characters
      · have htake : (cs ++ ' ' :: rest).take 8 = cs.take 8 := List.take_append_of_le_length hge
        have hclose : ((cs ++ ' ' :: rest).drop 8).head? = some ']' ↔
            (cs.drop 8).head? = some ']' := by
          rw [List.drop_append_of_le_length hge]
          cases cs.drop 8 with
          | nil => simp
          | cons c cs => simp
        rw [htake]
        simp only [hclose]
    · have hnone : ∀ l : List Char, tagInFront (c :: c' :: l) = none := by
        intro l
        unfold tagInFront
        split
        next heq =>
          cases heq
          exact absurd ⟨rfl, rfl⟩ h
        · rfl
      rw [List.cons_append, List.cons_append, hnone, hnone]

theorem firstTag_cons (c : Char) (cs : List Char) :
    firstTag (c :: cs) = (tagInFront (c :: cs)).or (firstTag cs) := by
  unfold firstTag
  rw [List.tails_cons, List.findSome?_cons]
  cases tagInFront (c :: cs) with
  | none => rfl
  | some tag => rfl

theorem firstTag_append_blank (cs rest : List Char) :
    firstTag (cs ++ ' ' :: rest) = (firstTag cs).or (firstTag rest) := by
  induction cs with
  | nil =>
    rw [List.nil_append, firstTag_cons, tagInFront_of_ne (by decide)]
    rfl
  | cons c cs ih =>
    rw [List.cons_append, firstTag_cons, firstTag_cons, ih, Option.or_assoc, ← List.cons_append,
      tagInFront_append_blank]

/-- What has no bracket has no influence on the first tag behind it. -/
theorem firstTag_append_of_not_mem {front : List Char} (h : '[' ∉ front) (cs : List Char) :
    firstTag (front ++ cs) = firstTag cs := by
  induction front with
  | nil => rfl
  | cons c front ih =>
    rw [List.mem_cons, not_or] at h
    rw [List.cons_append, firstTag_cons, tagInFront_of_ne (Ne.symm h.1), Option.none_or, ih h.2]

/-- **The encoder**: the subject of a reply carries the tag that its text came with, or else the one
    of the ticket. -/
theorem firstTag_buildReplyHeaders (ticketId : Uuid) (subject inReplyTo : String)
    (references : List String) :
    firstTag (buildReplyHeaders ticketId subject inReplyTo references).subject.toList =
      (firstTag subject.toList).or (some (ticketTag ticketId)) := by
  unfold buildReplyHeaders
  dsimp only
  rw [parseTicketTag_eq]
  cases htag : firstTag subject.toList with
  -- the subject has a tag, and is left as it is
  | some tag =>
    rw [if_neg (by simp), htag]
    rfl
  | none =>
    rw [if_pos (by simp), uuidStr_take]
    have hown : firstTag ('[' :: '#' :: (ticketTag ticketId ++ [']'])) =
        some (ticketTag ticketId) := by
      rw [firstTag_cons, tagInFront_tag (length_ticketTag ticketId)]
      · rfl
      · exact fun c hc => isLowerHex_of_mem_hexDigits (List.mem_of_mem_take hc)
    have hchars : (subject ++ " [#" ++ String.ofList (ticketTag ticketId) ++ "]").toList =
        subject.toList ++ ' ' :: '[' :: '#' :: (ticketTag ticketId ++ [']']) := by
      simp [String.toList_append]
    rw [hchars, firstTag_append_blank, htag, hown]

/-- `subject` with any number of `Re:`-style prefixes in front. -/
inductive AnswersTo (subject : List Char) : List Char → Prop where
  | same : AnswersTo subject subject
  | prefixed {word blanks colon blanks' cs : List Char}
      (hword : word.map Char.toLower ∈ [['r', 'e'], ['f', 'w', 'd'], ['f', 'w']])
      (hblanks : ∀ c ∈ blanks ++ blanks', Text.isSpace c = true) (hcolon : colon = [] ∨ colon = [':'])
      (hrest : AnswersTo subject cs) :
      AnswersTo subject (word ++ blanks ++ colon ++ blanks' ++ cs)

/-- **The decoder**: prefixes do not change the tag. -/
theorem firstTag_answersTo {subject cs : List Char} (h : AnswersTo subject cs) :
    firstTag cs = firstTag subject := by
  induction h with
  | same => rfl
  | @prefixed word blanks colon blanks' cs hword hblanks hcolon _ ih =>
    rw [firstTag_append_of_not_mem _ cs, ih]
    have hbracket : ∀ cs : List Char, (∀ c ∈ cs, Text.isSpace c = true) → '[' ∉ cs := by
      intro cs hcs hmem
      have := hcs '[' hmem
      revert this
      decide
    have hlower : ∀ cs : List Char, '[' ∈ cs → '[' ∈ cs.map Char.toLower := by
      intro cs hmem
      exact List.mem_map.mpr ⟨'[', hmem, by decide⟩
    simp only [List.mem_append, not_or]
    refine ⟨⟨⟨fun hmem => ?_, ?_⟩, ?_⟩, ?_⟩
    · have := hlower word hmem
      simp only [List.mem_cons, List.not_mem_nil, or_false] at hword
      rcases hword with heq | heq | heq
      all_goals
        rw [heq] at this
        revert this
        decide
    · exact hbracket blanks fun c hc => hblanks c (List.mem_append_left _ hc)
    · rcases hcolon with rfl | rfl
      · exact List.not_mem_nil
      · decide
    · exact hbracket blanks' fun c hc => hblanks c (List.mem_append_right _ hc)

end Helpdesk.Email
