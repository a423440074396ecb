import Helpdesk.Email.Prefixes

/-! # A second run of `normalize_subject`

The steps come in a fixed order: prefixes, tags, blanks, lowercase. What a later step makes is not looked at
by an earlier one, so a second run may find a prefix or a tag that was none before.

**`normalizeSubject_idem_iff`**: a second run changes nothing exactly if what the first one has left, before
it is lowercased, starts with no prefix and has no tag in any case. -/

namespace Helpdesk.Email

open Text

/-! ## Lowercased texts

The second run works on what the first one has lowercased. Such a text is as tidy as before, lowercasing leaves
it alone, and it has a prefix or a tag where the text before had one in any case. -/

theorem tidy_of_words {gap : Bool} {l : List Char} (hne : l ≠ []) (h : ∀ d ∈ l, isSpace d = false)
    (rest : List Char) : tidy gap (l ++ rest) = tidy false rest := by
  induction l generalizing gap with
  | nil => exact absurd rfl hne
  | cons d l ih =>
    rw [List.cons_append, tidy, if_neg (by simp [h d List.mem_cons_self])]
    cases l with
    | nil => rfl
    | cons e l => exact ih (by simp) fun d hd => h d (List.mem_cons_of_mem _ hd)

/-- What is lowercase already. -/
def Settled (image : Char → List Char → Prop) (cs : List Char) : Prop :=
  ∀ d ∈ cs, ∀ l, image d l → l = [d]

theorem plain_of_isTag {g : List Char} (hg : IsTag g) : Plain g := by
  obtain ⟨digits, rfl, -, hall⟩ := hg
  intro d hd
  simp only [List.mem_cons, List.mem_append, List.not_mem_nil, or_false] at hd
  rcases hd with rfl | rfl | hd | rfl
  · decide
  · decide
  · have hhex := List.all_eq_true.mp hall d hd
    refine ⟨?_, ?_, ?_⟩
    · simp only [isLowerHex, Bool.or_eq_true, Bool.and_eq_true, decide_eq_true_eq] at hhex
      have hle : d.toNat ≤ 'f'.toNat := hhex.elim (fun h => Nat.le_trans h.2 (by decide)) And.right
      exact Nat.lt_of_le_of_lt hle (by decide)
    · rintro rfl
      exact absurd hhex (by decide)
    · rintro rfl
      exact absurd hhex (by decide)
  · decide

/-- `[#xxxxxxxx]` in any case -/
def HasTagInAnyCase (cs : List Char) : Prop := ∃ g, IsTag (g.map Char.toLower) ∧ g <:+: cs

section
variable {lower : String → String} {image : Char → List Char → Prop} {width : Char → Nat}
  {cs g : List Char} {ls : List (List Char)} {gap : Bool} (hlower : IsLower lower image width)
include hlower

theorem exists_image (c : Char) : ∃ l, image c l := by
  obtain ⟨ls, himages, -⟩ := hlower.images (String.ofList [c])
  rw [String.toList_ofList] at himages
  cases himages with
  | cons hl _ => exact ⟨_, hl⟩

theorem image_blank {l : List Char} (hl : image ' ' l) : l = [' '] := by
  rw [hlower.ascii hl (by decide)]
  rfl

theorem image_ne_nil {c : Char} {l : List Char} (hl : image c l) : l ≠ [] := by
  rintro rfl
  have hpos := hlower.width_pos c
  rw [← hlower.length hl] at hpos
  cases hpos

/-- Blanks stay blanks, and words stay words. -/
theorem tidy_flatten (himages : List.Forall₂ image cs ls) (h : tidy gap cs = true) :
    tidy gap ls.flatten = true := by
  induction himages generalizing gap with
  | nil => exact h
  | @cons c l cs ls hl _ ih =>
    rw [tidy] at h
    rw [List.flatten_cons]
    split at h
    next hc =>
      simp only [Bool.and_eq_true, Bool.not_eq_true', beq_iff_eq] at h
      obtain ⟨⟨rfl, rfl⟩, h⟩ := h
      rw [image_blank hlower hl]
      exact ih h
    next hc =>
      have hwords : ∀ d ∈ l, isSpace d = false := fun d hd => (hlower.isSpace hl hd).trans (by simpa using hc)
      rw [tidy_of_words (image_ne_nil hlower hl) hwords]
      exact ih h

theorem settled_flatten (himages : List.Forall₂ image cs ls) : Settled image ls.flatten := by
  induction himages with
  | nil => simp [Settled]
  | @cons c l cs ls hl _ ih =>
    intro d hd l' hl'
    rw [List.flatten_cons, List.mem_append] at hd
    rcases hd with hd | hd
    · exact hlower.settled hl hd hl'
    · exact ih d hd l' hl'

theorem lower_of_settled (h : Settled image cs) : lower (String.ofList cs) = String.ofList cs := by
  have hflatten : ∀ {cs ls}, Settled image cs → List.Forall₂ image cs ls → ls.flatten = cs := by
    intro cs ls h himages
    induction himages with
    | nil => rfl
    | cons hl _ ih =>
      rw [List.flatten_cons, h _ List.mem_cons_self _ hl, ih fun d hd => h d (List.mem_cons_of_mem _ hd)]
      rfl
  obtain ⟨ls, himages, hlist⟩ := hlower.images (String.ofList cs)
  rw [String.toList_ofList] at himages
  rw [← String.toList_inj, hlist, hflatten h himages, String.toList_ofList]

theorem toLower_of_settled (h : Settled image cs) : cs.map Char.toLower = cs := by
  have hchar : ∀ d ∈ cs, d.toLower = d := by
    intro d hd
    by_cases hascii : d.toNat < 128
    · obtain ⟨l, hl⟩ := exists_image hlower d
      have heq := hlower.ascii hl hascii
      rw [h d hd l hl] at heq
      exact (List.cons.inj heq).1.symm
    · exact toLower_of_not_ascii (by omega)
  rw [List.map_congr_left hchar]
  exact List.map_id' cs

/-- A prefix stands in front of the lowercased text if one stood in front of the text. -/
theorem startsPrefix_flatten (himages : List.Forall₂ image cs ls) :
    StartsPrefix ls.flatten ↔ StartsPrefix cs := by
  have hsettled := settled_flatten hlower himages
  have hre := prefix_flatten hlower (g := ['r', 'e']) (by simp [Plain]) himages
  have hfw := prefix_flatten hlower (g := ['f', 'w']) (by simp [Plain]) himages
  have hmap : ∀ {g}, g <+: ls.flatten → g.map Char.toLower = g := fun hg =>
    toLower_of_settled hlower fun d hd => hsettled d (hg.subset hd)
  constructor
  · rintro ⟨g, hg, hword⟩
    rw [hmap hg] at hword
    rcases hword with rfl | rfl
    · obtain ⟨g', hg', hword⟩ := hre.mp hg
      exact ⟨g', hg', .inl hword⟩
    · obtain ⟨g', hg', hword⟩ := hfw.mp hg
      exact ⟨g', hg', .inr hword⟩
  · rintro ⟨g, hg, hword | hword⟩
    · exact ⟨_, hre.mpr ⟨g, hg, hword⟩, .inl rfl⟩
    · exact ⟨_, hfw.mpr ⟨g, hg, hword⟩, .inr rfl⟩

theorem hasTag_flatten (himages : List.Forall₂ image cs ls) : HasTag ls.flatten ↔ HasTagInAnyCase cs := by
  constructor
  · rintro ⟨g, hg, hinfix⟩
    obtain ⟨g', hg', rfl⟩ := (infix_flatten hlower (plain_of_isTag hg) hg.ne_nil himages).mp hinfix
    exact ⟨g', hg, hg'⟩
  · rintro ⟨g, hg, hinfix⟩
    exact ⟨_, hg, (infix_flatten hlower (plain_of_isTag hg) hg.ne_nil himages).mpr ⟨g, hinfix, rfl⟩⟩

end

/-! ## A second run

A run that finds a prefix or a tag shortens the text, so the second run changes nothing only if it finds
neither. Both can be asked before the blanks are collapsed. -/

theorem isSpace_toLower (c : Char) : isSpace c.toLower = isSpace c := by
  by_cases hupper : 65 ≤ c.toNat ∧ c.toNat ≤ 90
  · have hlower : c.toLower.toNat = c.toNat + 32 := by rw [toNat_toLower, if_pos hupper]
    have hword : ∀ d : Char, 65 ≤ d.toNat → d.toNat ≤ 122 → isSpace d = false := by
      intro d hle hge
      unfold isSpace
      grind
    rw [hword c hupper.1 (by omega), hword c.toLower (by omega) (by omega)]
  · have hsame : c.toLower = c := by rw [← Char.toNat_inj, toNat_toLower, if_neg hupper]
    rw [hsame]

theorem not_isSpace_of_map {g word : List Char} (hmap : g.map Char.toLower = word)
    (hword : ∀ d ∈ word, isSpace d = false) : ∀ c ∈ g, isSpace c = false := by
  intro c hc
  rw [← isSpace_toLower]
  apply hword
  rw [← hmap]
  exact List.mem_map_of_mem hc

theorem not_isSpace_of_tag {g : List Char} (hg : IsTag (g.map Char.toLower)) : ∀ c ∈ g, isSpace c = false := by
  apply not_isSpace_of_map rfl
  intro d hd
  have hascii := plain_of_isTag hg d hd
  obtain ⟨digits, heq, -, hall⟩ := hg
  rw [heq] at hd
  simp only [List.mem_cons, List.mem_append, List.not_mem_nil, or_false] at hd
  rcases hd with rfl | rfl | hd | rfl
  · rfl
  · rfl
  · have hhex := List.all_eq_true.mp hall d hd
    simp only [isLowerHex, Bool.or_eq_true, Bool.and_eq_true, decide_eq_true_eq] at hhex
    have hle : '0'.toNat ≤ d.toNat := hhex.elim And.left fun h => Nat.le_trans (by decide) h.1
    replace hle : 48 ≤ d.toNat := hle
    unfold isSpace
    grind
  · rfl

theorem not_isSpace_of_starts {g : List Char}
    (hg : g.map Char.toLower = ['r', 'e'] ∨ g.map Char.toLower = ['f', 'w']) : ∀ c ∈ g, isSpace c = false := by
  rcases hg with hg | hg
  · exact not_isSpace_of_map hg (by simp [isSpace])
  · exact not_isSpace_of_map hg (by simp [isSpace])

section
variable {lower : String → String} {image : Char → List Char → Prop} {width : Char → Nat} {cs : List Char}

theorem startsPrefix_squeeze : StartsPrefix (squeeze cs) ↔ StartsPrefix (cs.dropWhile isSpace) := by
  refine exists_congr fun g => ?_
  constructor
  · rintro ⟨hg, hword⟩
    exact ⟨(prefix_squeeze (not_isSpace_of_starts hword)).mp hg, hword⟩
  · rintro ⟨hg, hword⟩
    exact ⟨(prefix_squeeze (not_isSpace_of_starts hword)).mpr hg, hword⟩

theorem hasTagInAnyCase_squeeze : HasTagInAnyCase (squeeze cs) ↔ HasTagInAnyCase cs := by
  have hne : ∀ {g : List Char}, IsTag (g.map Char.toLower) → g ≠ [] := by
    rintro _ htag rfl
    exact htag.ne_nil rfl
  refine exists_congr fun g => and_congr_right fun htag => ?_
  exact infix_squeeze (not_isSpace_of_tag htag) (hne htag)

/-- The text that is lowercased at the end. -/
def unlowered (cs : List Char) : List Char := squeeze (removeTags 0 (strips cs))

theorem length_unlowered_lt (h : StartsPrefix cs ∨ HasTag cs) : (unlowered cs).length < cs.length := by
  have hsqueeze := length_squeeze_le (removeTags 0 (strips cs))
  have htags := length_removeTags_le 0 (strips cs)
  show (squeeze (removeTags 0 (strips cs))).length < cs.length
  by_cases hstarts : StartsPrefix cs
  · have hlt := length_strips_lt (mt stripPrefix_eq_none.mp (not_not.mpr hstarts))
    omega
  · have htag := h.resolve_left hstarts
    rw [strips_of_none (stripPrefix_eq_none.mpr hstarts)] at hsqueeze ⊢
    have hlt := length_removeTags_lt htag
    omega

theorem unlowered_of_tidy (htidy : Tidy cs) (hstarts : ¬ StartsPrefix cs) (htag : ¬ HasTag cs) :
    unlowered cs = cs := by
  show squeeze (removeTags 0 (strips cs)) = cs
  rw [strips_of_none (stripPrefix_eq_none.mpr hstarts), removeTags_of_not_hasTag htag, squeeze_of_tidy htidy]

/-- A second run changes nothing, unless it finds a prefix or a tag. -/
theorem normalizeSubject_idem_iff (hlower : IsLower lower image width) (s : String) :
    normalizeSubject lower (normalizeSubject lower s) = normalizeSubject lower s ↔
      ¬ StartsPrefix ((removeTags 0 (strips s.toList)).dropWhile isSpace) ∧
        ¬ HasTagInAnyCase (removeTags 0 (strips s.toList)) := by
  obtain ⟨ls, himages, hlist⟩ := hlower.images (String.ofList (unlowered s.toList))
  rw [String.toList_ofList] at himages
  have hsettled := settled_flatten hlower himages
  have hfirst : normalizeSubject lower s = String.ofList ls.flatten := by
    rw [normalizeSubject_eq, ← String.toList_inj, String.toList_ofList]
    exact hlist
  have hsecond : normalizeSubject lower (String.ofList ls.flatten) = String.ofList (unlowered ls.flatten) := by
    rw [normalizeSubject_eq, String.toList_ofList]
    apply lower_of_settled hlower
    intro d hd l hl
    rcases mem_normalized hd with hd | rfl
    · exact hsettled d hd l hl
    · exact image_blank hlower hl
  -- the three facts about the text between the runs
  have htidy : Tidy ls.flatten := by
    rcases tidy_squeeze (removeTags 0 (strips s.toList)) with hnil | htidy
    · rw [unlowered, hnil] at himages
      cases himages
      exact .inl rfl
    · exact .inr (tidy_flatten hlower himages htidy)
  have hstarts : StartsPrefix ls.flatten ↔ _ := (startsPrefix_flatten hlower himages).trans startsPrefix_squeeze
  have htag : HasTag ls.flatten ↔ _ := (hasTag_flatten hlower himages).trans hasTagInAnyCase_squeeze
  rw [hfirst, hsecond, ← hstarts, ← htag, ← String.toList_inj, String.toList_ofList, String.toList_ofList,
    ← not_or]
  constructor
  · intro heq h
    have hlt := length_unlowered_lt h
    rw [heq] at hlt
    exact Nat.lt_irrefl _ hlt
  · intro h
    rw [not_or] at h
    exact unlowered_of_tidy htidy h.1 h.2

end

end Helpdesk.Email
