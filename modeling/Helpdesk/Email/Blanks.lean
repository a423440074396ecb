import Helpdesk.Email.Threading
import Mathlib.Data.List.Infix

/-! # Blanks in a subject

`normalize_subject` collapses the blanks and drops those at the ends. `squeeze` is what it does, on lists of
characters, and `sq` is the same as one recursion from the first word on, which the inductions go by
(`squeeze_eq_sq`). What has been squeezed is `Tidy`, and stays as it is (`squeeze_of_tidy`); and a text
without blanks is in front or inside of the squeezed list exactly if it was so before, leading blanks apart
(`prefix_squeeze`, `infix_squeeze`). -/

namespace Helpdesk.Email

open Text

/-! ## Blanks

`collapseSpaces` carries a flag for the blank before, and the strip comes after it from both ends. `sq` needs
neither: it puts a blank in front of the next word when there is one. That it gives the same is shown by way of
`rstrip`, from the first word on. -/

/-- `rstrip` -/
def rstrip (cs : List Char) : List Char := (cs.reverse.dropWhile isSpace).reverse

/-- Collapse the blanks and drop those at the ends. -/
def squeeze (cs : List Char) : List Char := stripChars isSpace (collapseSpaces false cs)

/-- The same from the first word on; `gap` says that a blank is owed if another word comes. -/
def sq : (gap : Bool) → List Char → List Char
  | _, [] => []
  | gap, c :: cs => if isSpace c then sq true cs else (if gap then [' ', c] else [c]) ++ sq false cs

/-- Words with one blank in between; `gap` says that a word has to come. -/
def tidy : (gap : Bool) → List Char → Bool
  | gap, [] => !gap
  | gap, c :: cs => if isSpace c then !gap && c == ' ' && tidy true cs else tidy false cs

/-- Nothing that `squeeze` would change. -/
def Tidy (cs : List Char) : Prop := cs = [] ∨ tidy true cs = true

section
variable {gap : Bool} {cs : List Char} {c : Char}

theorem rstrip_cons (c : Char) (cs : List Char) :
    rstrip (c :: cs) = if isSpace c ∧ rstrip cs = [] then [] else c :: rstrip cs := by
  unfold rstrip
  rw [List.reverse_cons, List.dropWhile_append]
  cases hcs : cs.reverse.dropWhile isSpace with
  | nil => cases hc : isSpace c <;> simp [hc]
  | cons d ds => simp

theorem rstrip_cons_of_word (hc : isSpace c = false) (cs : List Char) : rstrip (c :: cs) = c :: rstrip cs := by
  rw [rstrip_cons, if_neg (by simp [hc])]

theorem sq_eq (gap : Bool) (cs : List Char) :
    sq gap cs = rstrip ((if gap then [' '] else []) ++ collapseSpaces gap cs) := by
  induction cs generalizing gap with
  | nil => cases gap <;> rfl
  | cons c cs ih =>
    rw [sq, collapseSpaces]
    cases hc : isSpace c with
    | true =>
      rw [if_pos rfl, if_pos rfl, ih]
      cases gap <;> rfl
    | false =>
      have hword : c :: sq false cs = rstrip (c :: collapseSpaces false cs) := by
        rw [rstrip_cons_of_word hc, ih]
        rfl
      cases gap with
      | false => exact hword
      | true =>
        show ' ' :: c :: sq false cs = rstrip (' ' :: c :: collapseSpaces false cs)
        rw [rstrip_cons, ← hword, if_neg (by simp)]

theorem collapseSpaces_true (cs : List Char) :
    collapseSpaces true cs = collapseSpaces false (cs.dropWhile isSpace) := by
  induction cs with
  | nil => rfl
  | cons c cs ih =>
    rw [collapseSpaces, List.dropWhile_cons]
    cases hc : isSpace c with
    | true => exact ih
    | false =>
      show c :: collapseSpaces false cs = collapseSpaces false (c :: cs)
      rw [collapseSpaces, if_neg (by simp [hc])]

/-- What begins with a word. -/
theorem squeeze_of_word (hc : isSpace c = false) (cs : List Char) : squeeze (c :: cs) = c :: sq false cs := by
  have hcollapse : collapseSpaces false (c :: cs) = c :: collapseSpaces false cs := by
    rw [collapseSpaces, if_neg (by simp [hc])]
  show rstrip ((collapseSpaces false (c :: cs)).dropWhile isSpace) = _
  rw [hcollapse, List.dropWhile_cons, if_neg (by simp [hc]), rstrip_cons_of_word hc, sq_eq]
  rfl

/-- The blanks in front do not matter. -/
theorem squeeze_dropWhile (cs : List Char) : squeeze (cs.dropWhile isSpace) = squeeze cs := by
  cases cs with
  | nil => rfl
  | cons c cs =>
    rw [List.dropWhile_cons]
    cases hc : isSpace c with
    | false => rfl
    | true =>
      show rstrip ((collapseSpaces false (cs.dropWhile isSpace)).dropWhile isSpace) =
        rstrip ((collapseSpaces false (c :: cs)).dropWhile isSpace)
      rw [← collapseSpaces_true, collapseSpaces, if_pos hc]
      rfl

theorem dropWhile_cases (cs : List Char) :
    cs.dropWhile isSpace = [] ∨ ∃ c rest, cs.dropWhile isSpace = c :: rest ∧ isSpace c = false := by
  induction cs with
  | nil => exact .inl rfl
  | cons c cs ih =>
    rw [List.dropWhile_cons]
    cases hc : isSpace c with
    | true => exact ih
    | false => exact .inr ⟨c, cs, rfl, hc⟩

theorem squeeze_eq_sq (cs : List Char) : squeeze cs = sq false (cs.dropWhile isSpace) := by
  rw [← squeeze_dropWhile]
  rcases dropWhile_cases cs with hnil | ⟨c, rest, heq, hc⟩
  · rw [hnil]
    rfl
  · rw [heq, squeeze_of_word hc, sq, if_neg (by simp [hc])]
    rfl

theorem sq_dropWhile (cs : List Char) : sq true (cs.dropWhile isSpace) = sq true cs := by
  induction cs with
  | nil => rfl
  | cons c cs ih =>
    rw [List.dropWhile_cons]
    split
    next hc => rw [ih, sq, if_pos hc]
    · rfl

theorem tidy_sq (gap : Bool) (cs : List Char) : tidy false (sq gap cs) = true := by
  induction cs generalizing gap with
  | nil => rfl
  | cons c cs ih =>
    rw [sq]
    cases hc : isSpace c with
    | true => exact ih true
    | false => cases gap <;> simp [tidy, hc, ih, show isSpace ' ' = true from rfl]

theorem tidy_squeeze (cs : List Char) : Tidy (squeeze cs) := by
  rw [← squeeze_dropWhile]
  rcases dropWhile_cases cs with hnil | ⟨c, rest, heq, hc⟩
  · rw [hnil]
    exact .inl rfl
  · rw [heq, squeeze_of_word hc]
    exact .inr (by simp [tidy, hc, tidy_sq])

theorem sq_of_tidy (h : tidy gap cs = true) : sq gap cs = (if gap then [' '] else []) ++ cs := by
  induction cs generalizing gap with
  | nil => cases gap with
    | false => rfl
    | true => cases h
  | cons c cs ih =>
    rw [tidy] at h
    rw [sq]
    split at h
    next hc =>
      simp only [Bool.and_eq_true, Bool.not_eq_true', beq_iff_eq] at h
      obtain ⟨⟨rfl, rfl⟩, h⟩ := h
      rw [if_pos hc, ih h]
      rfl
    next hc =>
      rw [if_neg hc, ih h]
      cases gap <;> rfl

theorem squeeze_of_tidy (h : Tidy cs) : squeeze cs = cs := by
  rcases h with rfl | h
  · rfl
  · cases cs with
    | nil => cases h
    | cons c cs =>
      rw [tidy] at h
      split at h
      · simp at h
      next hc =>
        rw [squeeze_of_word (by simpa using hc), sq_of_tidy h]
        rfl

theorem sq_true_cases (cs : List Char) : sq true cs = [] ∨ ∃ rest, sq true cs = ' ' :: rest := by
  induction cs with
  | nil => exact .inl rfl
  | cons c cs ih =>
    rw [sq]
    split
    · exact ih
    · exact .inr ⟨c :: sq false cs, rfl⟩

end

/-! ## Words in a text

For words without a blank only; a blank in a word could be one of several. `infix_sq` has the flag of `sq` free,
since the induction passes over blanks. -/

section
variable {cs g : List Char} (hg : ∀ c ∈ g, isSpace c = false)
include hg

/-- A word in front is left in front. -/
theorem prefix_sq : g <+: sq false cs ↔ g <+: cs := by
  induction cs generalizing g with
  | nil => exact Iff.rfl
  | cons c cs ih =>
    cases g with
    | nil => simp
    | cons d g =>
      have hd := hg d List.mem_cons_self
      rw [sq, List.cons_prefix_cons]
      split
      -- a word does not begin with a blank, before or after
      next hc =>
        refine iff_of_false ?_ ?_
        · rcases sq_true_cases cs with hnil | ⟨rest, hrest⟩
          · rw [hnil]
            simp
          · rw [hrest, List.cons_prefix_cons]
            rintro ⟨rfl, -⟩
            cases hd
        · rintro ⟨rfl, -⟩
          rw [hc] at hd
          cases hd
      · show d :: g <+: c :: sq false cs ↔ _
        rw [List.cons_prefix_cons, ih fun c hc => hg c (List.mem_cons_of_mem _ hc)]

/-- A word anywhere is left. -/
theorem infix_sq (hne : g ≠ []) (gap : Bool) : g <:+: sq gap cs ↔ g <:+: cs := by
  obtain ⟨d, g, rfl⟩ := List.exists_cons_of_ne_nil hne
  have hd := hg d List.mem_cons_self
  have hblank : ∀ {c cs}, isSpace c = true → ¬ d :: g <+: c :: cs := by
    intro c cs hc hstarts
    rw [(List.cons_prefix_cons.mp hstarts).1, hc] at hd
    cases hd
  induction cs generalizing gap with
  | nil => exact Iff.rfl
  | cons c cs ih =>
    rw [sq, show d :: g <:+: c :: cs ↔ d :: g <+: c :: cs ∨ d :: g <:+: cs from List.infix_cons_iff]
    split
    next hc => exact (ih true).trans (or_iff_right (hblank hc)).symm
    next hc =>
      have hword : d :: g <:+: c :: sq false cs ↔ d :: g <+: c :: cs ∨ d :: g <:+: cs := by
        rw [List.infix_cons_iff, List.cons_prefix_cons, List.cons_prefix_cons,
          prefix_sq fun c hc => hg c (List.mem_cons_of_mem _ hc)]
        exact or_congr_right (ih false)
      cases gap with
      | false => exact hword
      | true =>
        show d :: g <:+: ' ' :: c :: sq false cs ↔ _
        rw [List.infix_cons_iff, or_iff_right (hblank rfl), hword]

theorem prefix_squeeze : g <+: squeeze cs ↔ g <+: cs.dropWhile isSpace := by
  rw [squeeze_eq_sq, prefix_sq hg]

theorem infix_squeeze (hne : g ≠ []) : g <:+: squeeze cs ↔ g <:+: cs := by
  rw [squeeze_eq_sq, infix_sq hg hne false, ← infix_sq hg hne true, sq_dropWhile, infix_sq hg hne true]

end

end Helpdesk.Email
