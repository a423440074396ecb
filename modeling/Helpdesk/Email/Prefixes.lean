import Helpdesk.Email.Blanks
import Helpdesk.Email.Lowercase

/-! # Prefixes and tags

The two patterns that `normalize_subject` takes out, as conditions on the characters: `StartsPrefix` of
what `_PREFIX_RE` matches in front, and `HasTag` of what `_TAG_RE` matches anywhere. `strips` is the loop over
the prefixes with enough fuel, and `strips_of_some` and `strips_of_none` are its two equations. -/

namespace Helpdesk.Email

open Text

/-! ## Prefixes

`_PREFIX_RE` is tried as `re`, `fwd`, `fw`, and takes blanks and a colon with it. Only one of the three can be
in front of a text: their first letters differ, except for `fw` and `fwd`. -/

/-- `re` or `fw` in front, in any case. -/
def StartsPrefix (cs : List Char) : Prop :=
  ∃ g, g <+: cs ∧ (g.map Char.toLower = ['r', 'e'] ∨ g.map Char.toLower = ['f', 'w'])

section
variable {word cs rest : List Char}

theorem toLower_eq_iff {lower upper d : Char} (hupper : upper.toNat + 32 = lower.toNat)
    (hlower : 97 ≤ lower.toNat ∧ lower.toNat ≤ 122) : d.toLower = lower ↔ d = lower ∨ d = upper := by
  rw [← Char.toNat_inj, ← Char.toNat_inj, ← Char.toNat_inj, toNat_toLower]
  split <;> omega

theorem eqIgnoreCase_iff {c d : Char} (hc : c ∈ ['r', 'e', 'f', 'w', 'd']) :
    eqIgnoreCase c d = true ↔ d.toLower = c := by
  rw [eqIgnoreCase, Bool.or_eq_true, decide_eq_true_eq, decide_eq_true_eq]
  simp only [List.mem_cons, List.not_mem_nil, or_false] at hc
  rcases hc with rfl | rfl | rfl | rfl | rfl <;> exact (toLower_eq_iff (by decide) (by decide)).symm

theorem dropWord_eq_some (hword : ∀ c ∈ word, c ∈ ['r', 'e', 'f', 'w', 'd']) :
    dropWord word cs = some rest ↔ ∃ g, cs = g ++ rest ∧ g.map Char.toLower = word := by
  have hcons : ∀ c word d cs, dropWord (c :: word) (d :: cs) =
      if eqIgnoreCase c d = true then dropWord word cs else none := by
    intro c word d cs
    unfold dropWord
    cases h : eqIgnoreCase c d <;> simp [h]
  -- along the word
  induction word generalizing cs with
  | nil =>
    have hnil : dropWord [] cs = some cs := by simp [dropWord]
    rw [hnil]
    simp [eq_comm]
  | cons c word ih =>
    cases cs with
    | nil =>
      refine iff_of_false (by simp [dropWord]) ?_
      rintro ⟨g, hnil, hmap⟩
      obtain rfl : g = [] := (List.append_eq_nil_iff.mp hnil.symm).1
      cases hmap
    | cons d cs =>
      have hrest : dropWord word cs = some rest ↔ _ := ih fun c hc => hword c (List.mem_cons_of_mem _ hc)
      rw [hcons, Option.ite_none_right_eq_some, hrest, eqIgnoreCase_iff (hword c List.mem_cons_self)]
      constructor
      · rintro ⟨hd, g, rfl, hmap⟩
        exact ⟨d :: g, rfl, by rw [List.map_cons, hd, hmap]⟩
      · rintro ⟨g, heq, hmap⟩
        cases g with
        | nil => cases hmap
        | cons d' g =>
          obtain ⟨rfl, rfl⟩ := List.cons.inj heq
          obtain ⟨hd, hmap⟩ := List.cons.inj hmap
          exact ⟨hd, g, rfl, hmap⟩

theorem dropWord_re : dropWord ['r', 'e'] cs = some rest ↔
    ∃ g, cs = g ++ rest ∧ g.map Char.toLower = ['r', 'e'] :=
  dropWord_eq_some (by simp)

theorem dropWord_fwd : dropWord ['f', 'w', 'd'] cs = some rest ↔
    ∃ g, cs = g ++ rest ∧ g.map Char.toLower = ['f', 'w', 'd'] :=
  dropWord_eq_some (by simp)

theorem dropWord_fw : dropWord ['f', 'w'] cs = some rest ↔
    ∃ g, cs = g ++ rest ∧ g.map Char.toLower = ['f', 'w'] :=
  dropWord_eq_some (by simp)

/-- Two words in front have the same first letter. -/
theorem dropWord_eq_none {g tail word' : List Char} {c c' : Char} (hmap : g.map Char.toLower = c' :: word')
    (hword : ∀ d ∈ c :: word, d ∈ ['r', 'e', 'f', 'w', 'd']) (hne : c ≠ c') :
    dropWord (c :: word) (g ++ tail) = none := by
  rw [Option.eq_none_iff_forall_ne_some]
  intro rest hrest
  obtain ⟨g', heq, hmap'⟩ := (dropWord_eq_some hword).mp hrest
  cases g with
  | nil => cases hmap
  | cons d g =>
    cases g' with
    | nil => cases hmap'
    | cons d' g' =>
      obtain ⟨rfl, -⟩ := List.cons.inj heq
      exact hne ((List.cons.inj hmap').1.symm.trans (List.cons.inj hmap).1)

/-- What is stripped: a word in any case, blanks, and a colon. -/
theorem stripPrefix_eq_some : stripPrefix cs = some rest ↔
    ∃ g tail, cs = g ++ tail ∧ dropColon tail = rest ∧
      (g.map Char.toLower = ['r', 'e'] ∨ g.map Char.toLower = ['f', 'w', 'd'] ∨
        g.map Char.toLower = ['f', 'w'] ∧ ∀ d tail', tail = d :: tail' → d.toLower ≠ 'd') := by
  constructor
  · intro h
    obtain ⟨tail, htail, hcolon⟩ := Option.map_eq_some_iff.mp h
    rcases Option.or_eq_some_iff.mp htail with hor | ⟨hnone, hfw⟩
    · rcases Option.or_eq_some_iff.mp hor with hre | ⟨-, hfwd⟩
      · obtain ⟨g, rfl, hmap⟩ := dropWord_re.mp hre
        exact ⟨g, tail, rfl, hcolon, .inl hmap⟩
      · obtain ⟨g, rfl, hmap⟩ := dropWord_fwd.mp hfwd
        exact ⟨g, tail, rfl, hcolon, .inr (.inl hmap)⟩
    · -- `fw` is tried after `fwd`, so no `d` follows
      obtain ⟨g, rfl, hmap⟩ := dropWord_fw.mp hfw
      refine ⟨g, tail, rfl, hcolon, .inr (.inr ⟨hmap, ?_⟩)⟩
      rintro d tail' rfl hd
      have hfwd : dropWord ['f', 'w', 'd'] (g ++ d :: tail') = some tail' :=
        dropWord_fwd.mpr ⟨g ++ [d], by simp, by simp [hmap, hd]⟩
      rw [Option.or_eq_none_iff, hfwd] at hnone
      cases hnone.2
  · rintro ⟨g, tail, rfl, rfl, hword⟩
    apply Option.map_eq_some_iff.mpr
    refine ⟨tail, ?_, rfl⟩
    rcases hword with hre | hfwd | ⟨hfw, hnot⟩
    · rw [dropWord_re.mpr ⟨g, rfl, hre⟩]
      rfl
    · rw [dropWord_eq_none hfwd (by simp) (by decide), dropWord_fwd.mpr ⟨g, rfl, hfwd⟩]
      rfl
    -- a text with `fwd` in front would have a `d` there
    · have hnone : dropWord ['f', 'w', 'd'] (g ++ tail) = none := by
        rw [Option.eq_none_iff_forall_ne_some]
        intro rest hrest
        obtain ⟨g', heq, hmap'⟩ := dropWord_fwd.mp hrest
        obtain ⟨x, y, rfl⟩ := List.length_eq_two.mp (by simpa using congrArg List.length hfw)
        obtain ⟨x', y', d, rfl⟩ := List.length_eq_three.mp (by simpa using congrArg List.length hmap')
        simp only [List.cons_append, List.nil_append, List.cons.injEq] at heq
        refine hnot d rest heq.2.2 ?_
        simp only [List.map_cons, List.cons.injEq] at hmap'
        exact hmap'.2.2.1
      rw [dropWord_eq_none hfw (by simp) (by decide), hnone, dropWord_fw.mpr ⟨g, rfl, hfw⟩]
      rfl

theorem stripPrefix_eq_none : stripPrefix cs = none ↔ ¬ StartsPrefix cs := by
  rw [← not_iff_not, not_not, ← ne_eq, Option.ne_none_iff_exists']
  constructor
  · rintro ⟨rest, h⟩
    obtain ⟨g, tail, rfl, -, hre | hfwd | ⟨hfw, -⟩⟩ := stripPrefix_eq_some.mp h
    · exact ⟨g, List.prefix_append _ _, .inl hre⟩
    · refine ⟨g.take 2, (List.take_prefix _ _).trans (List.prefix_append _ _), .inr ?_⟩
      rw [List.map_take, hfwd]
      rfl
    · exact ⟨g, List.prefix_append _ _, .inr hfw⟩
  · rintro ⟨g, ⟨tail, rfl⟩, hre | hfw⟩
    · exact ⟨_, stripPrefix_eq_some.mpr ⟨g, tail, rfl, rfl, .inl hre⟩⟩
    -- the longer word if a `d` follows
    · by_cases hd : ∃ d tail', tail = d :: tail' ∧ d.toLower = 'd'
      · obtain ⟨d, tail', rfl, hd⟩ := hd
        exact ⟨_, stripPrefix_eq_some.mpr ⟨g ++ [d], tail', by simp, rfl, .inr (.inl (by simp [hfw, hd]))⟩⟩
      · refine ⟨_, stripPrefix_eq_some.mpr ⟨g, tail, rfl, rfl, .inr (.inr ⟨hfw, ?_⟩)⟩⟩
        exact fun d tail' htail hlower => hd ⟨d, tail', htail, hlower⟩

end

/-! ## Tags

A tag is eleven characters, and the scan drops it as it comes. What is in front of a bracket is never part of one. -/

/-- `[#xxxxxxxx]` -/
def IsTag (g : List Char) : Prop :=
  ∃ digits, g = '[' :: '#' :: (digits ++ [']']) ∧ digits.length = 8 ∧ digits.all isLowerHex = true

def HasTag (cs : List Char) : Prop := ∃ g, IsTag g ∧ g <:+: cs

section
variable {cs g : List Char} {c : Char}

theorem IsTag.ne_nil (h : IsTag g) : g ≠ [] := by
  obtain ⟨digits, rfl, -⟩ := h
  simp

theorem tagInFront_iff : (∃ digits, tagInFront cs = some digits) ↔ ∃ g, IsTag g ∧ g <+: cs := by
  constructor
  · rintro ⟨digits, h⟩
    unfold tagInFront at h
    split at h
    next rest =>
      obtain ⟨⟨hlength, hall, hclose⟩, -⟩ := Option.ite_none_right_eq_some.mp h
      obtain ⟨tail, htail⟩ := List.head?_eq_some_iff.mp hclose
      refine ⟨_, ⟨rest.take 8, rfl, hlength, hall⟩, tail, ?_⟩
      have hsplit := List.take_append_drop 8 rest
      rw [htail] at hsplit
      simpa using hsplit
    · cases h
  · rintro ⟨g, ⟨digits, rfl, hlength, hall⟩, tail, rfl⟩
    refine ⟨digits, ?_⟩
    have htake : (digits ++ ([']'] ++ tail)).take 8 = digits := by
      rw [← hlength, List.take_left]
    have hdrop : (digits ++ ([']'] ++ tail)).drop 8 = ']' :: tail := by
      rw [← hlength, List.drop_left]
      rfl
    show tagInFront ('[' :: '#' :: (digits ++ [']'] ++ tail)) = _
    rw [List.append_assoc, tagInFront, htake, hdrop, if_pos ⟨hlength, hall, rfl⟩]

theorem hasTag_cons : HasTag (c :: cs) ↔ (∃ digits, tagInFront (c :: cs) = some digits) ∨ HasTag cs := by
  rw [tagInFront_iff]
  constructor
  · rintro ⟨g, hg, hinfix⟩
    rcases List.infix_cons_iff.mp hinfix with hstarts | hinfix
    · exact .inl ⟨g, hg, hstarts⟩
    · exact .inr ⟨g, hg, hinfix⟩
  · rintro (⟨g, hg, hstarts⟩ | ⟨g, hg, hinfix⟩)
    · exact ⟨g, hg, hstarts.isInfix⟩
    · exact ⟨g, hg, List.infix_cons hinfix⟩

theorem length_removeTags_le (skip : Nat) (cs : List Char) : (removeTags skip cs).length ≤ cs.length := by
  fun_induction removeTags skip cs with
  | case1 => simp
  | case2 skip _ cs ih => exact ih.trans (Nat.le_succ _)
  | case3 c cs digits _ ih => exact ih.trans (Nat.le_succ _)
  | case4 c cs _ ih => exact Nat.succ_le_succ ih

/-- Nothing to remove. -/
theorem removeTags_of_not_hasTag (h : ¬ HasTag cs) : removeTags 0 cs = cs := by
  induction cs with
  | nil => rfl
  | cons c cs ih =>
    rw [hasTag_cons, not_or, not_exists] at h
    have hnone : tagInFront (c :: cs) = none := Option.eq_none_iff_forall_ne_some.mpr h.1
    rw [removeTags, hnone]
    show c :: removeTags 0 cs = c :: cs
    rw [ih h.2]

theorem length_removeTags_lt (h : HasTag cs) : (removeTags 0 cs).length < cs.length := by
  induction cs with
  | nil =>
    obtain ⟨g, hg, hinfix⟩ := h
    exact absurd (List.infix_nil.mp hinfix) hg.ne_nil
  | cons c cs ih =>
    rw [removeTags]
    split
    · exact Nat.lt_succ_of_le (length_removeTags_le 10 cs)
    next hnone =>
      rw [hasTag_cons, hnone] at h
      have hrest : HasTag cs := h.resolve_left (by simp)
      exact Nat.succ_lt_succ (ih hrest)

/-- What is not a bracket stays. -/
theorem removeTags_append {pre : List Char} (h : '[' ∉ pre) (cs : List Char) :
    removeTags 0 (pre ++ cs) = pre ++ removeTags 0 cs := by
  induction pre with
  | nil => rfl
  | cons c pre ih =>
    rw [List.mem_cons, not_or] at h
    have hnone : tagInFront (c :: (pre ++ cs)) = none := by
      unfold tagInFront
      split
      next heq => exact absurd (List.cons.inj heq).1.symm h.1
      · rfl
    rw [List.cons_append, removeTags, hnone]
    show c :: removeTags 0 (pre ++ cs) = _
    rw [ih h.2, List.cons_append]

end

/-! ## The steps on a text

Equations for the loop, and the bounds that the second run is compared by: stripping shortens the text, and the
other two steps do not lengthen it. -/

/-- The loop that strips every prefix. -/
def strips (cs : List Char) : List Char := stripPrefixes cs.length cs

section
variable {cs rest : List Char}

theorem normalizeSubject_eq (lower : String → String) (s : String) :
    normalizeSubject lower s = lower (String.ofList (squeeze (removeTags 0 (strips s.toList)))) := by
  simp only [normalizeSubject, Text.strip, String.toList_ofList, strips, squeeze]

theorem stripPrefixes_enough {n m : Nat} (hn : cs.length ≤ n) (hm : cs.length ≤ m) :
    stripPrefixes n cs = stripPrefixes m cs := by
  induction n generalizing cs m with
  | zero =>
    obtain rfl := List.eq_nil_of_length_eq_zero (Nat.le_zero.mp hn)
    cases m <;> rfl
  | succ n ih =>
    cases hstrip : stripPrefix cs with
    | none => cases m <;> simp [stripPrefixes, hstrip]
    | some rest =>
      have hlt := length_stripPrefix hstrip
      cases m with
      | zero => omega
      | succ m =>
        simp only [stripPrefixes, hstrip]
        exact ih (by omega) (by omega)

theorem strips_of_none (h : stripPrefix cs = none) : strips cs = cs := by
  unfold strips
  cases cs.length <;> simp [stripPrefixes, h]

theorem strips_of_some (h : stripPrefix cs = some rest) : strips cs = strips rest := by
  have hlt := length_stripPrefix h
  unfold strips
  obtain ⟨n, hn⟩ := Nat.exists_eq_succ_of_ne_zero (by omega : cs.length ≠ 0)
  rw [hn]
  simp only [stripPrefixes, h]
  exact stripPrefixes_enough (by omega) (Nat.le_refl _)

theorem dropColon_split (cs : List Char) : ∃ pre, cs = pre ++ dropColon cs ∧ '[' ∉ pre := by
  have hblanks : ∀ cs : List Char, '[' ∉ cs.takeWhile isSpace := fun cs hmem => by
    have hspace : isSpace '[' = true := List.all_eq_true.mp List.all_takeWhile _ hmem
    cases hspace
  unfold dropColon
  have hsplit := (List.takeWhile_append_dropWhile (p := isSpace) (l := cs)).symm
  split
  next rest heq =>
    rw [heq] at hsplit
    refine ⟨cs.takeWhile isSpace ++ ':' :: rest.takeWhile isSpace, ?_, ?_⟩
    · rw [List.append_assoc, List.cons_append, List.takeWhile_append_dropWhile]
      exact hsplit
    · simp [hblanks]
  · exact ⟨cs.takeWhile isSpace, hsplit, hblanks cs⟩

theorem stripPrefix_split (h : stripPrefix cs = some rest) : ∃ pre, cs = pre ++ rest ∧ '[' ∉ pre := by
  obtain ⟨g, tail, rfl, rfl, hword⟩ := stripPrefix_eq_some.mp h
  obtain ⟨pre, hpre, hbracket⟩ := dropColon_split tail
  refine ⟨g ++ pre, by rw [List.append_assoc, ← hpre], ?_⟩
  have hg : '[' ∉ g := by
    intro hmem
    have hlower : '[' ∈ g.map Char.toLower := List.mem_map.mpr ⟨'[', hmem, by decide⟩
    rcases hword with heq | heq | ⟨heq, -⟩ <;> rw [heq] at hlower <;> simp at hlower
  simp [hg, hbracket]

theorem strips_split (cs : List Char) : ∃ pre, cs = pre ++ strips cs ∧ '[' ∉ pre := by
  have hloop : ∀ n cs, ∃ pre, cs = pre ++ stripPrefixes n cs ∧ '[' ∉ pre := by
    intro n
    -- on the fuel
    induction n with
    | zero => exact fun cs => ⟨[], rfl, by simp⟩
    | succ n ih =>
      intro cs
      unfold stripPrefixes
      split
      next rest hrest =>
        obtain ⟨pre, rfl, hpre⟩ := stripPrefix_split hrest
        obtain ⟨pre', heq, hpre'⟩ := ih rest
        exact ⟨pre ++ pre', by rw [List.append_assoc, ← heq], by simp [hpre, hpre']⟩
      · exact ⟨[], rfl, by simp⟩
  exact hloop _ cs

theorem length_strips_lt (h : stripPrefix cs ≠ none) : (strips cs).length < cs.length := by
  obtain ⟨rest, hrest⟩ := Option.ne_none_iff_exists'.mp h
  have hlt := length_stripPrefix hrest
  obtain ⟨pre, heq, -⟩ := strips_split rest
  have hle : (strips rest).length ≤ rest.length := by
    conv => rhs; rw [heq]
    simp
  rw [strips_of_some hrest]
  omega

theorem length_sq_le (gap : Bool) (cs : List Char) :
    (sq gap cs).length ≤ cs.length + if gap then 1 else 0 := by
  induction cs generalizing gap with
  | nil => simp [sq]
  | cons c cs ih =>
    rw [sq]
    split
    · have := ih true
      simp only [if_true] at this
      simp only [List.length_cons]
      omega
    · have := ih false
      cases gap <;> simp at this ⊢ <;> omega

theorem length_squeeze_le (cs : List Char) : (squeeze cs).length ≤ cs.length := by
  have hle := length_sq_le false (cs.dropWhile isSpace)
  have hdrop := (List.dropWhile_suffix isSpace (l := cs)).length_le
  rw [squeeze_eq_sq]
  simp only [Bool.false_eq_true, if_false] at hle
  omega

theorem mem_sq {gap : Bool} {d : Char} (h : d ∈ sq gap cs) : d ∈ cs ∨ d = ' ' := by
  induction cs generalizing gap with
  | nil => cases h
  | cons c cs ih =>
    rw [sq] at h
    split at h
    · exact (ih h).imp_left (List.mem_cons_of_mem _)
    · rcases List.mem_append.mp h with h | h
      · cases gap <;> simp at h <;> grind
      · exact (ih h).imp_left (List.mem_cons_of_mem _)

theorem mem_removeTags {skip : Nat} {d : Char} (h : d ∈ removeTags skip cs) : d ∈ cs := by
  fun_induction removeTags skip cs with
  | case1 => cases h
  | case2 skip _ cs ih => exact List.mem_cons_of_mem _ (ih h)
  | case3 c cs digits _ ih => exact List.mem_cons_of_mem _ (ih h)
  | case4 c cs _ ih =>
    rcases List.mem_cons.mp h with rfl | h
    · exact List.mem_cons_self
    · exact List.mem_cons_of_mem _ (ih h)

/-- What the three steps leave is from the text, or a blank. -/
theorem mem_normalized {d : Char} (h : d ∈ squeeze (removeTags 0 (strips cs))) : d ∈ cs ∨ d = ' ' := by
  rw [squeeze_eq_sq] at h
  refine (mem_sq h).imp_left fun h => ?_
  have hmem := mem_removeTags ((List.dropWhile_suffix isSpace).subset h)
  obtain ⟨pre, heq, -⟩ := strips_split cs
  rw [heq]
  exact List.mem_append_right _ hmem

end

end Helpdesk.Email
