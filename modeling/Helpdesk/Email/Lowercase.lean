import Helpdesk.Email.Threading
import Mathlib.Data.List.Infix

/-! # Lowercasing

`str.lower` is Unicode's: it may make several characters of one, and what it makes of a sigma depends on the
characters around it. `IsLower` says of it what the proofs need: each character is replaced by an image of
its own, the images of ASCII characters are the ASCII ones, and an image is lowercase already.

A word of plain lowercase ASCII letters is found in the images exactly where the text has it in any case
(`prefix_flatten`, `infix_flatten`). The letters `i` and `k` are not plain: other characters have images
with them. -/

namespace Helpdesk.Email

open Text

/-! ## Lowercasing

The fields are facts of the Unicode tables: that blanks stay blanks, that lowercasing twice is lowercasing once,
and which characters outside of ASCII have ASCII in their images. -/

/-- `str.lower` replaces each character by one of its images (a sigma has two, depending on where it
    stands). -/
structure IsLower (lower : String → String) (image : Char → List Char → Prop) (width : Char → Nat) :
    Prop where
  images : ∀ s, ∃ ls, List.Forall₂ image s.toList ls ∧ (lower s).toList = ls.flatten
  ascii : ∀ {c l}, image c l → c.toNat < 128 → l = [c.toLower]
  /-- `İ` and the Kelvin sign become an `i` with a dot and a `k`; no other character becomes ASCII -/
  foreign : ∀ {c l d}, image c l → 128 ≤ c.toNat → d ∈ l → d.toNat < 128 → d = 'i' ∨ d = 'k'
  length : ∀ {c l}, image c l → l.length = width c
  width_pos : ∀ c, 0 < width c
  isSpace : ∀ {c l d}, image c l → d ∈ l → isSpace d = isSpace c
  settled : ∀ {c l d l'}, image c l → d ∈ l → image d l' → l' = [d]

/-! ## Lowercase words in a text

The prefixes and the tags are plain words. Both inductions go along the characters of the text: an ASCII
character has one image, and the images of the others do not have a letter of the word. -/

/-- ASCII characters that only ASCII characters become. -/
def Plain (g : List Char) : Prop := ∀ d ∈ g, d.toNat < 128 ∧ d ≠ 'i' ∧ d ≠ 'k'

section
variable {lower : String → String} {image : Char → List Char → Prop} {width : Char → Nat}
  {cs g : List Char} {ls : List (List Char)}

theorem toNat_toLower (c : Char) :
    c.toLower.toNat = if 65 ≤ c.toNat ∧ c.toNat ≤ 90 then c.toNat + 32 else c.toNat := by
  unfold Char.toLower
  have hupper : (c.val ≥ 'A'.val ∧ c.val ≤ 'Z'.val) ↔ 65 ≤ c.toNat ∧ c.toNat ≤ 90 := Iff.rfl
  split
  next h =>
    rw [if_pos (hupper.mp h)]
    show (c.val + 32).toNat = c.val.toNat + 32
    have hle : c.toNat ≤ 90 := (hupper.mp h).2
    rw [UInt32.toNat_add]
    show (c.toNat + 32) % 2 ^ 32 = c.toNat + 32
    omega
  next h => rw [if_neg (mt hupper.mpr h)]

theorem toLower_of_not_ascii {c : Char} (h : 128 ≤ c.toNat) : c.toLower = c := by
  rw [← Char.toNat_inj, toNat_toLower, if_neg (by omega)]

theorem toLower_toLower (c : Char) : c.toLower.toLower = c.toLower := by
  rw [← Char.toNat_inj, toNat_toLower c.toLower, if_neg]
  rw [toNat_toLower]
  split <;> omega

/-- A plain word in front of the lowercased text was in front of the text, in any case. -/
theorem prefix_flatten (hlower : IsLower lower image width) (hplain : Plain g) (h : List.Forall₂ image cs ls) :
    g <+: ls.flatten ↔ ∃ g', g' <+: cs ∧ g'.map Char.toLower = g := by
  induction h generalizing g with
  | nil =>
    rw [List.flatten_nil, List.prefix_nil]
    constructor
    · rintro rfl
      exact ⟨[], List.nil_prefix, rfl⟩
    · rintro ⟨g', hg', rfl⟩
      rw [List.prefix_nil.mp hg']
      rfl
  | @cons c l cs ls hl _ ih =>
    cases g with
    | nil => exact iff_of_true List.nil_prefix ⟨[], List.nil_prefix, rfl⟩
    | cons d g =>
      have hrest : Plain g := fun e he => hplain e (List.mem_cons_of_mem _ he)
      obtain ⟨hascii, hi, hk⟩ := hplain d List.mem_cons_self
      rw [List.flatten_cons]
      -- an ASCII character becomes one
      by_cases hc : c.toNat < 128
      · rw [hlower.ascii hl hc, List.singleton_append, List.cons_prefix_cons, ih hrest]
        constructor
        · rintro ⟨rfl, g', hg', rfl⟩
          exact ⟨c :: g', List.cons_prefix_cons.mpr ⟨rfl, hg'⟩, rfl⟩
        · rintro ⟨g', hg', hmap⟩
          cases g' with
          | nil => cases hmap
          | cons c' g' =>
            obtain ⟨rfl, htail⟩ := List.cons_prefix_cons.mp hg'
            obtain ⟨rfl, rfl⟩ := List.cons.inj hmap
            exact ⟨rfl, g', htail, rfl⟩
      · -- what a foreign character becomes is not plain
        refine iff_of_false ?_ ?_
        · intro hstarts
          cases l with
          | nil =>
            have hlength := hlower.length hl
            have hpos := hlower.width_pos c
            rw [List.length_nil] at hlength
            omega
          | cons e l =>
            obtain ⟨rfl, -⟩ := List.cons_prefix_cons.mp hstarts
            rcases hlower.foreign hl (by omega) List.mem_cons_self hascii with rfl | rfl
            · exact hi rfl
            · exact hk rfl
        · rintro ⟨g', hg', hmap⟩
          cases g' with
          | nil => cases hmap
          | cons c' g' =>
            obtain ⟨rfl, -⟩ := List.cons_prefix_cons.mp hg'
            obtain ⟨rfl, -⟩ := List.cons.inj hmap
            rw [toLower_of_not_ascii (by omega)] at hascii
            omega

/-- A word does not begin among characters that it does not have. -/
theorem infix_append_of_disjoint {l rest : List Char} (hne : g ≠ []) (h : ∀ e ∈ l, e ∉ g) :
    g <:+: l ++ rest ↔ g <:+: rest := by
  induction l with
  | nil => exact Iff.rfl
  | cons e l ih =>
    obtain ⟨d, g, rfl⟩ := List.exists_cons_of_ne_nil hne
    rw [List.cons_append, List.infix_cons_iff, or_iff_right]
    · exact ih fun e he => h e (List.mem_cons_of_mem _ he)
    · intro hstarts
      apply h e List.mem_cons_self
      rw [(List.cons_prefix_cons.mp hstarts).1]
      exact List.mem_cons_self

/-- A plain word anywhere. -/
theorem infix_flatten (hlower : IsLower lower image width) (hplain : Plain g) (hne : g ≠ [])
    (h : List.Forall₂ image cs ls) : g <:+: ls.flatten ↔ ∃ g', g' <:+: cs ∧ g'.map Char.toLower = g := by
  have hne' : ∀ {g'}, g'.map Char.toLower = g → g' ≠ [] := by
    rintro _ hmap rfl
    exact hne hmap.symm
  induction h with
  | nil =>
    refine iff_of_false (fun h => hne (List.infix_nil.mp h)) ?_
    rintro ⟨g', hg', hmap⟩
    exact hne' hmap (List.infix_nil.mp hg')
  | @cons c l cs ls hl hrest ih =>
    have hstarts := prefix_flatten hlower hplain (List.Forall₂.cons hl hrest)
    -- the word begins with what the first character becomes, or behind all of it
    have hsplit : g <:+: (l :: ls).flatten ↔ g <+: (l :: ls).flatten ∨ g <:+: ls.flatten := by
      rw [List.flatten_cons]
      by_cases hc : c.toNat < 128
      · rw [hlower.ascii hl hc, List.singleton_append, List.infix_cons_iff]
      · have hforeign : ∀ e ∈ l, e ∉ g := by
          intro e he hmem
          obtain ⟨hascii, hi, hk⟩ := hplain e hmem
          exact (hlower.foreign hl (by omega) he hascii).elim hi hk
        rw [infix_append_of_disjoint hne hforeign]
        refine (or_iff_right_of_imp fun hstarts => ?_).symm
        exact (infix_append_of_disjoint hne hforeign).mp hstarts.isInfix
    refine (hsplit.trans (or_congr hstarts ih)).trans ?_
    constructor
    · rintro (⟨g', hg', hmap⟩ | ⟨g', hg', hmap⟩)
      · exact ⟨g', hg'.isInfix, hmap⟩
      · exact ⟨g', List.infix_cons hg', hmap⟩
    · rintro ⟨g', hg', hmap⟩
      rcases List.infix_cons_iff.mp hg' with hg' | hg'
      · exact .inl ⟨g', hg', hmap⟩
      · exact .inr ⟨g', hg', hmap⟩

end

end Helpdesk.Email
