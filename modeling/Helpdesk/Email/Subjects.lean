import Helpdesk.Email.SecondRun
import Mathlib.Algebra.BigOperators.Group.List.Basic
import Mathlib.Algebra.GroupWithZero.Nat

/-! # Normalized subjects

`normalize_subject` strips the prefixes, removes the tags, collapses the blanks and lowercases, once
each. What a later pass makes could be stripped or removed by an earlier one: a prefix behind a tag or
behind a blank, a tag around a tag, a tag in capitals.

**`canonical_iff`**: the subjects that are left by a second run and that do not depend on a prefix in
front. The first half is `normalizeSubject_idem_iff`, the second `normalizeSubject_prefix_iff`. There
`wordWidth` is the width of the words once they are lowercased: subjects that come out equal have it in
common, and a prefix in front of a text that begins with a colon takes the colon away with it. -/

namespace Helpdesk.Email

open Text

/-! ## A prefix in front

A prefix and a blank in front are stripped, with the blanks behind them, and what is left is the text again.
That fails where the text begins with a colon. There the words get narrower, which the width shows without
asking what becomes of the text. -/

/-- How wide the words of a text get when it is lowercased. -/
def wordWidth (width : Char → Nat) (cs : List Char) : Nat := ((cs.filter (!isSpace ·)).map width).sum

section
variable {lower : String → String} {image : Char → List Char → Prop} {width : Char → Nat}
  {cs rest : List Char} {c : Char}

theorem wordWidth_append (cs rest : List Char) :
    wordWidth width (cs ++ rest) = wordWidth width cs + wordWidth width rest := by
  unfold wordWidth
  rw [List.filter_append, List.map_append, List.sum_append]

theorem wordWidth_of_blank (hc : isSpace c = true) (cs : List Char) :
    wordWidth width (c :: cs) = wordWidth width cs := by
  unfold wordWidth
  rw [List.filter_cons_of_neg (by simp [hc])]

theorem wordWidth_of_word (hc : isSpace c = false) (cs : List Char) :
    wordWidth width (c :: cs) = width c + wordWidth width cs := by
  unfold wordWidth
  rw [List.filter_cons_of_pos (by simp [hc]), List.map_cons, List.sum_cons]

theorem wordWidth_dropWhile (cs : List Char) : wordWidth width (cs.dropWhile isSpace) = wordWidth width cs := by
  induction cs with
  | nil => rfl
  | cons c cs ih =>
    rw [List.dropWhile_cons]
    split
    next hc => rw [ih, wordWidth_of_blank hc]
    · rfl

theorem wordWidth_sq (gap : Bool) (cs : List Char) : wordWidth width (sq gap cs) = wordWidth width cs := by
  induction cs generalizing gap with
  | nil => rfl
  | cons c cs ih =>
    rw [sq]
    cases hc : isSpace c with
    | true => rw [if_pos rfl, ih, wordWidth_of_blank hc]
    | false =>
      rw [if_neg (by simp), wordWidth_append, ih, wordWidth_of_word hc]
      cases gap with
      | false =>
        show wordWidth width [c] + _ = _
        rw [wordWidth_of_word hc]
        rfl
      | true =>
        show wordWidth width [' ', c] + _ = _
        rw [wordWidth_of_blank rfl, wordWidth_of_word hc]
        rfl

theorem wordWidth_squeeze (cs : List Char) : wordWidth width (squeeze cs) = wordWidth width cs := by
  rw [squeeze_eq_sq, wordWidth_sq, wordWidth_dropWhile]

theorem wordWidth_eq_zero (h : ∀ c ∈ cs, isSpace c = true) : wordWidth width cs = 0 := by
  induction cs with
  | nil => rfl
  | cons c cs ih =>
    rw [wordWidth_of_blank (h c List.mem_cons_self), ih fun d hd => h d (List.mem_cons_of_mem _ hd)]

/-- The words of the lowercased text are that wide. -/
theorem length_filter_flatten (hlower : IsLower lower image width) {ls : List (List Char)}
    (himages : List.Forall₂ image cs ls) : (ls.flatten.filter (!isSpace ·)).length = wordWidth width cs := by
  induction himages with
  | nil => rfl
  | @cons c l cs ls hl _ ih =>
    rw [List.flatten_cons, List.filter_append, List.length_append, ih]
    cases hc : isSpace c with
    | true =>
      rw [wordWidth_of_blank hc, List.filter_eq_nil_iff.mpr fun d hd => by simp [hlower.isSpace hl hd, hc]]
      exact Nat.zero_add _
    | false =>
      rw [wordWidth_of_word hc, List.filter_eq_self.mpr fun d hd => by simp [hlower.isSpace hl hd, hc],
        hlower.length hl]

theorem wordWidth_eq_of_lower_eq (hlower : IsLower lower image width)
    (h : lower (String.ofList cs) = lower (String.ofList rest)) : wordWidth width cs = wordWidth width rest := by
  obtain ⟨ls, himages, hlist⟩ := hlower.images (String.ofList cs)
  obtain ⟨ls', himages', hlist'⟩ := hlower.images (String.ofList rest)
  rw [String.toList_ofList] at himages himages'
  rw [← length_filter_flatten hlower himages, ← length_filter_flatten hlower himages', ← hlist, ← hlist', h]

theorem blanks_append (cs : List Char) :
    cs = cs.takeWhile isSpace ++ cs.dropWhile isSpace ∧ ∀ c ∈ cs.takeWhile isSpace, isSpace c = true :=
  ⟨List.takeWhile_append_dropWhile.symm, List.all_eq_true.mp List.all_takeWhile⟩

theorem dropWhile_append_of_blanks {blanks : List Char} (h : ∀ c ∈ blanks, isSpace c = true) (cs : List Char) :
    (blanks ++ cs).dropWhile isSpace = cs.dropWhile isSpace :=
  List.dropWhile_append_of_pos h

/-- The blanks in front are no part of a tag. -/
theorem removeTags_blanks (cs : List Char) :
    removeTags 0 cs = cs.takeWhile isSpace ++ removeTags 0 (cs.dropWhile isSpace) := by
  obtain ⟨hsplit, hblanks⟩ := blanks_append cs
  conv => lhs; rw [hsplit]
  apply removeTags_append
  intro hmem
  cases hblanks _ hmem

/-- What a prefix and a blank leave. -/
theorem dropColon_append_blank {tail : List Char} (htail : dropColon tail = [])
    (h : (cs.dropWhile isSpace).head? ≠ some ':') : dropColon (tail ++ ' ' :: cs) = cs.dropWhile isSpace := by
  obtain ⟨hsplit, hblanks⟩ := blanks_append tail
  have hfirst : (tail ++ ' ' :: cs).dropWhile isSpace = (tail.dropWhile isSpace ++ ' ' :: cs).dropWhile isSpace := by
    conv => lhs; rw [hsplit, List.append_assoc, dropWhile_append_of_blanks hblanks]
  unfold dropColon at htail ⊢
  rw [hfirst]
  -- the prefix has a colon of its own, or ends in blanks
  split at htail
  next rest heq =>
    obtain ⟨hsplit', hblanks'⟩ := blanks_append rest
    rw [htail, List.append_nil] at hsplit'
    rw [← hsplit'] at hblanks'
    rw [heq]
    show (rest ++ ' ' :: cs).dropWhile isSpace = _
    rw [dropWhile_append_of_blanks hblanks']
    rfl
  next hcolon =>
    have hblank : (' ' :: cs).dropWhile isSpace = cs.dropWhile isSpace := rfl
    rw [htail, List.nil_append, hblank]
    split
    next rest heq => simp [heq] at h
    · rfl

/-- A prefix and a blank in front of a text that does not begin with a colon. -/
theorem strips_prefix {p : List Char} (hp : stripPrefix p = some []) (h : (cs.dropWhile isSpace).head? ≠ some ':') :
    strips (p ++ ' ' :: cs) = strips (cs.dropWhile isSpace) := by
  obtain ⟨g, tail, rfl, htail, hword⟩ := stripPrefix_eq_some.mp hp
  apply strips_of_some
  refine stripPrefix_eq_some.mpr ⟨g, tail ++ ' ' :: cs, by simp, dropColon_append_blank htail h, ?_⟩
  refine hword.imp_right (Or.imp_right fun ⟨hfw, hnot⟩ => ⟨hfw, ?_⟩)
  intro d tail' heq
  cases tail with
  | nil =>
    obtain ⟨rfl, -⟩ := List.cons.inj heq
    decide
  | cons e tail =>
    obtain ⟨rfl, -⟩ := List.cons.inj heq
    exact hnot e tail rfl

theorem dropWhile_of_startsPrefix (h : StartsPrefix cs) : cs.dropWhile isSpace = cs := by
  obtain ⟨g, ⟨tail, rfl⟩, hword⟩ := h
  cases g with
  | nil => simp at hword
  | cons d g =>
    have hd := not_isSpace_of_starts hword d List.mem_cons_self
    rw [List.cons_append, List.dropWhile_cons, if_neg (by simp [hd])]

theorem startsPrefix_removeTags (h : StartsPrefix cs) : StartsPrefix (removeTags 0 cs) := by
  obtain ⟨g, ⟨tail, rfl⟩, hword⟩ := h
  refine ⟨g, ?_, hword⟩
  rw [removeTags_append]
  · exact List.prefix_append _ _
  · intro hmem
    have hlower : '[' ∈ g.map Char.toLower := List.mem_map.mpr ⟨'[', hmem, by decide⟩
    rcases hword with heq | heq <;> rw [heq] at hlower <;> simp at hlower

/-- The blanks in front of a text make no difference, if no prefix is behind them. -/
theorem squeeze_removeTags_strips (h : ¬ StartsPrefix ((removeTags 0 (strips cs)).dropWhile isSpace)) :
    squeeze (removeTags 0 (strips (cs.dropWhile isSpace))) = squeeze (removeTags 0 (strips cs)) := by
  by_cases hstarts : StartsPrefix cs
  · rw [dropWhile_of_startsPrefix hstarts]
  · rw [strips_of_none (stripPrefix_eq_none.mpr hstarts)] at h ⊢
    obtain ⟨-, hblanks⟩ := blanks_append cs
    rw [removeTags_blanks, dropWhile_append_of_blanks hblanks] at h
    have hbehind : ¬ StartsPrefix (cs.dropWhile isSpace) := fun hbehind =>
      h (by rw [dropWhile_of_startsPrefix (startsPrefix_removeTags hbehind)]; exact startsPrefix_removeTags hbehind)
    rw [strips_of_none (stripPrefix_eq_none.mpr hbehind), removeTags_blanks cs,
      ← squeeze_dropWhile (cs.takeWhile isSpace ++ _), dropWhile_append_of_blanks hblanks, squeeze_dropWhile]

theorem wordWidth_removeTags_append {pre : List Char} (h : '[' ∉ pre) (cs : List Char) :
    wordWidth width (removeTags 0 cs) ≤ wordWidth width (removeTags 0 (pre ++ cs)) := by
  rw [removeTags_append h, wordWidth_append]
  exact Nat.le_add_left _ _

/-- A colon in front is taken for the colon of the prefix. -/
theorem wordWidth_of_colon (hlower : IsLower lower image width) (hcolon : cs.dropWhile isSpace = ':' :: rest) :
    wordWidth width (unlowered (['r', 'e'] ++ ' ' :: cs)) < wordWidth width (unlowered cs) := by
  have hnone : ¬ StartsPrefix cs := by
    intro hstarts
    rw [← dropWhile_of_startsPrefix hstarts, hcolon] at hstarts
    obtain ⟨g, hg, hword⟩ := hstarts
    cases g with
    | nil => simp at hword
    | cons d g =>
      obtain ⟨rfl, -⟩ := List.cons_prefix_cons.mp hg
      rcases hword with hword | hword
      · exact absurd (List.cons.inj hword).1 (by decide)
      · exact absurd (List.cons.inj hword).1 (by decide)
  -- the colon goes with the prefix
  have hstrip : stripPrefix (['r', 'e'] ++ ' ' :: cs) = some (rest.dropWhile isSpace) := by
    refine stripPrefix_eq_some.mpr ⟨['r', 'e'], ' ' :: cs, rfl, ?_, .inl rfl⟩
    unfold dropColon
    rw [List.dropWhile_cons, if_pos (show isSpace ' ' = true from rfl), hcolon]
    rfl
  -- what is left is no wider than what was behind the colon
  have hkeep : wordWidth width (removeTags 0 (strips (rest.dropWhile isSpace))) ≤
      wordWidth width (removeTags 0 rest) := by
    obtain ⟨pre, heq, hpre⟩ := strips_split (rest.dropWhile isSpace)
    calc wordWidth width (removeTags 0 (strips (rest.dropWhile isSpace)))
      _ ≤ wordWidth width (removeTags 0 (rest.dropWhile isSpace)) := by
        conv => rhs; rw [heq]
        exact wordWidth_removeTags_append hpre _
      _ ≤ wordWidth width (removeTags 0 rest) := by
        rw [removeTags_blanks rest, wordWidth_append]
        exact Nat.le_add_left _ _
  -- while the text by itself keeps the colon
  have hfull : wordWidth width (removeTags 0 cs) = width ':' + wordWidth width (removeTags 0 rest) := by
    rw [removeTags_blanks, hcolon, wordWidth_append, wordWidth_eq_zero (blanks_append cs).2, Nat.zero_add]
    show wordWidth width (removeTags 0 ([':'] ++ rest)) = _
    rw [removeTags_append (by decide), List.singleton_append, wordWidth_of_word (by decide)]
  have hpos := hlower.width_pos ':'
  show wordWidth width (squeeze _) < wordWidth width (squeeze _)
  rw [wordWidth_squeeze, wordWidth_squeeze, strips_of_some hstrip,
    strips_of_none (stripPrefix_eq_none.mpr hnone), hfull]
  omega

/-- For a text that a second run leaves, a prefix in front makes no difference if and only if the text
    does not begin with a colon. -/
theorem normalizeSubject_prefix_iff (hlower : IsLower lower image width) {s : String}
    (h : ¬ StartsPrefix ((removeTags 0 (strips s.toList)).dropWhile isSpace)) :
    (∀ p : String, stripPrefix p.toList = some [] →
        normalizeSubject lower (p ++ " " ++ s) = normalizeSubject lower s) ↔
      (s.toList.dropWhile isSpace).head? ≠ some ':' := by
  have htext : ∀ p : String, (p ++ " " ++ s).toList = p.toList ++ ' ' :: s.toList := by
    intro p
    simp
  constructor
  · intro hall hcolon
    obtain ⟨rest, hrest⟩ := List.head?_eq_some_iff.mp hcolon
    have heq := hall "re" rfl
    rw [normalizeSubject_eq, normalizeSubject_eq, htext] at heq
    exact absurd (wordWidth_eq_of_lower_eq hlower heq) (Nat.ne_of_lt (wordWidth_of_colon hlower hrest))
  · intro hcolon p hp
    rw [normalizeSubject_eq, normalizeSubject_eq, htext, strips_prefix hp hcolon, squeeze_removeTags_strips h]

end

/-! ## Subjects that are canonical

`Behind` and `Untagged` put the two loops as relations on the characters, so that the condition of
`canonical_iff` does not mention the functions. -/

/-- `text` is behind the prefixes of `cs`. -/
inductive Behind : (cs text : List Char) → Prop where
  | bare {cs} : ¬ StartsPrefix cs → Behind cs cs
  | re {g tail text} : g.map Char.toLower = ['r', 'e'] → Behind (dropColon tail) text → Behind (g ++ tail) text
  | fwd {g tail text} :
      g.map Char.toLower = ['f', 'w', 'd'] → Behind (dropColon tail) text → Behind (g ++ tail) text
  | fw {g tail text} : g.map Char.toLower = ['f', 'w'] → (∀ d rest, tail = d :: rest → d.toLower ≠ 'd') →
      Behind (dropColon tail) text → Behind (g ++ tail) text

/-- `text` is `cs` without its tags. -/
inductive Untagged : (cs text : List Char) → Prop where
  | nil : Untagged [] []
  | tag {g cs text} : IsTag g → Untagged cs text → Untagged (g ++ cs) text
  | char {c cs text} : (∀ g, IsTag g → ¬ g <+: c :: cs) → Untagged cs text → Untagged (c :: cs) (c :: text)

/-- No prefix and no tag comes to light when those in sight are gone, and no colon can be taken for that
    of a prefix. -/
structure Canonical (s : String) : Prop where
  noPrefix : ∀ {text kept}, Behind s.toList text → Untagged text kept → ¬ StartsPrefix (kept.dropWhile isSpace)
  noTag : ∀ {text kept}, Behind s.toList text → Untagged text kept → ¬ HasTagInAnyCase kept
  noColon : (s.toList.dropWhile isSpace).head? ≠ some ':'

section
variable {cs text : List Char}

theorem removeTags_eq_drop (skip : Nat) (cs : List Char) : removeTags skip cs = removeTags 0 (cs.drop skip) := by
  induction skip generalizing cs with
  | zero => rfl
  | succ skip ih => cases cs with
    | nil => rfl
    | cons c cs => exact ih cs

theorem removeTags_tag {g : List Char} (hg : IsTag g) (cs : List Char) : removeTags 0 (g ++ cs) = removeTags 0 cs := by
  obtain ⟨digits, heq⟩ := tagInFront_iff.mpr ⟨g, hg, List.prefix_append g cs⟩
  obtain ⟨digits', rfl, hlength, -⟩ := hg
  rw [List.cons_append] at heq ⊢
  rw [removeTags, heq]
  show removeTags 10 _ = _
  rw [removeTags_eq_drop]
  congr 1
  have hlength' : ('#' :: (digits' ++ [']'])).length = 10 := by simp [hlength]
  rw [← hlength', List.drop_left]

theorem untagged_iff : Untagged cs text ↔ removeTags 0 cs = text := by
  constructor
  · intro h
    induction h with
    | nil => rfl
    | tag hg _ ih => rw [removeTags_tag hg, ih]
    | @char c cs text hnone _ ih =>
      have htag : tagInFront (c :: cs) = none := by
        rw [Option.eq_none_iff_forall_ne_some]
        intro digits hdigits
        obtain ⟨g, hg, hstarts⟩ := tagInFront_iff.mp ⟨digits, hdigits⟩
        exact hnone g hg hstarts
      rw [removeTags, htag]
      exact congrArg _ ih
  · rintro rfl
    induction hn : cs.length using Nat.strong_induction_on generalizing cs with
    | _ n ih =>
      cases cs with
      | nil => exact .nil
      | cons c cs =>
        -- a tag is dropped as a whole, and else one character is kept
        by_cases htag : ∃ g, IsTag g ∧ g <+: c :: cs
        · obtain ⟨g, hg, rest, heq⟩ := htag
          rw [← heq, removeTags_tag hg]
          have hpos := List.length_pos_iff.mpr hg.ne_nil
          have hlength := congrArg List.length heq
          rw [List.length_append] at hlength
          exact .tag hg (ih rest.length (by omega) rfl)
        · have hnone : tagInFront (c :: cs) = none := by
            rw [Option.eq_none_iff_forall_ne_some]
            exact fun digits hdigits => htag (tagInFront_iff.mp ⟨digits, hdigits⟩)
          rw [removeTags, hnone]
          refine .char (fun g hg hstarts => htag ⟨g, hg, hstarts⟩) (ih cs.length ?_ rfl)
          rw [← hn]
          exact Nat.lt_succ_self _

theorem behind_iff : Behind cs text ↔ strips cs = text := by
  constructor
  · intro h
    induction h with
    | bare hnone => exact strips_of_none (stripPrefix_eq_none.mpr hnone)
    | re hword _ ih => rw [strips_of_some (stripPrefix_eq_some.mpr ⟨_, _, rfl, rfl, .inl hword⟩), ih]
    | fwd hword _ ih =>
      rw [strips_of_some (stripPrefix_eq_some.mpr ⟨_, _, rfl, rfl, .inr (.inl hword)⟩), ih]
    | fw hword hnot _ ih =>
      rw [strips_of_some (stripPrefix_eq_some.mpr ⟨_, _, rfl, rfl, .inr (.inr ⟨hword, hnot⟩)⟩), ih]
  · rintro rfl
    induction hn : cs.length using Nat.strong_induction_on generalizing cs with
    | _ n ih =>
      cases hstrip : stripPrefix cs with
      | none =>
        rw [strips_of_none hstrip]
        exact .bare (stripPrefix_eq_none.mp hstrip)
      | some rest =>
        have hbehind : Behind rest (strips rest) := ih rest.length (hn ▸ length_stripPrefix hstrip) rfl
        rw [strips_of_some hstrip]
        obtain ⟨g, tail, rfl, rfl, hword | hword | ⟨hword, hnot⟩⟩ := stripPrefix_eq_some.mp hstrip
        · exact .re hword hbehind
        · exact .fwd hword hbehind
        · exact .fw hword hnot hbehind

end

/-- The subjects that are left by a second run and that do not depend on a prefix in front. -/
theorem canonical_iff {lower : String → String} {image : Char → List Char → Prop} {width : Char → Nat}
    (hlower : IsLower lower image width) (s : String) :
    (normalizeSubject lower (normalizeSubject lower s) = normalizeSubject lower s ∧
        ∀ p : String, stripPrefix p.toList = some [] →
          normalizeSubject lower (p ++ " " ++ s) = normalizeSubject lower s) ↔ Canonical s := by
  rw [normalizeSubject_idem_iff hlower]
  constructor
  · rintro ⟨⟨hstarts, htag⟩, hall⟩
    refine ⟨?_, ?_, (normalizeSubject_prefix_iff hlower hstarts).mp hall⟩
    · intro text kept htext hkept
      rw [← untagged_iff.mp hkept, ← behind_iff.mp htext]
      exact hstarts
    · intro text kept htext hkept
      rw [← untagged_iff.mp hkept, ← behind_iff.mp htext]
      exact htag
  · intro h
    have hstarts := h.noPrefix (behind_iff.mpr rfl) (untagged_iff.mpr rfl)
    exact ⟨⟨hstarts, h.noTag (behind_iff.mpr rfl) (untagged_iff.mpr rfl)⟩,
      (normalizeSubject_prefix_iff hlower hstarts).mpr h.noColon⟩

/-- `str.lower` on ASCII -/
def asciiLower (s : String) : String := String.ofList (s.toList.map Char.toLower)

theorem isLower_asciiLower : IsLower asciiLower (fun c l => l = [c.toLower]) fun _ => 1 where
  images s := by
    refine ⟨s.toList.map fun c => [c.toLower], ?_, ?_⟩
    · rw [List.forall₂_map_right_iff, List.forall₂_same]
      exact fun _ _ => rfl
    · rw [asciiLower, String.toList_ofList]
      exact List.map_eq_flatMap
  ascii hl _ := hl
  foreign hl hc hd hascii := by
    rw [hl, List.mem_singleton] at hd
    rw [hd, toLower_of_not_ascii hc] at hascii
    omega
  length hl := by rw [hl, List.length_singleton]
  width_pos _ := Nat.one_pos
  isSpace hl hd := by
    rw [hl, List.mem_singleton] at hd
    rw [hd, isSpace_toLower]
  settled hl hd hl' := by
    rw [hl, List.mem_singleton] at hd
    rw [hl', hd, toLower_toLower]

theorem canonical_iff_reply :
    (normalizeSubject asciiLower (normalizeSubject asciiLower "Re: Help") =
        normalizeSubject asciiLower "Re: Help" ∧
      ∀ p : String, stripPrefix p.toList = some [] →
        normalizeSubject asciiLower (p ++ " " ++ "Re: Help") = normalizeSubject asciiLower "Re: Help") ↔
      Canonical "Re: Help" :=
  canonical_iff isLower_asciiLower "Re: Help"

/-- The tag hides a prefix: the first run leaves `re: help` and the second one `help`. The colon of `: help`
    is taken for that of a `Re` in front. -/
theorem not_canonical :
    normalizeSubject asciiLower (normalizeSubject asciiLower "[#a1b2c3d4] Re: help") ≠
        normalizeSubject asciiLower "[#a1b2c3d4] Re: help" ∧
      stripPrefix "Re".toList = some [] ∧
        normalizeSubject asciiLower ("Re" ++ " " ++ ": help") ≠ normalizeSubject asciiLower ": help" := by
  decide +kernel

end Helpdesk.Email
