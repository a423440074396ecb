import Mathlib.Data.List.Induction
import Mathlib.Tactic.SplitIfs

/-! # UTF-8 read with replacement characters

`decode` reads bytes as a decoder does that never fails: a character that is cut short becomes one
`U+FFFD`, and so does each byte that can begin none. It is a machine that goes over the bytes once; between
them it holds the character begun, if any.

Well-formed bytes are read back (`decode_encode`). Bytes that are read in two parts give what they give
together, or strictly more characters: a character cut in two becomes at least two `U+FFFD`s
(`decode_append`). So parts that were read apart tell by the number of their characters whether one was
cut (`apart_of_countP_eq`, `flatMap_decode_of_apart`). -/

namespace Utf8

def replacement : Char := '\uFFFD'

/-- A character begun: `code` has been read, the next byte is to lie in `low..high`, and `more` others are
    to follow it. -/
structure Begun where
  more : Nat
  low : Nat
  high : Nat
  code : Nat
  low_le : 0x80 ≤ low
  le_high : high ≤ 0xBF

/-- The byte carries the character on. -/
def Begun.takes (q : Begun) (b : UInt8) : Bool := q.low ≤ b.toNat && b.toNat ≤ q.high

/-- A byte between two characters: what it gives and what it begins. The bounds on the second byte leave out
    the overlong spellings, the surrogates and what lies beyond `U+10FFFF`. -/
def first (b : UInt8) : List Char × Option Begun :=
  let n := b.toNat
  if n < 0x80 then ([Char.ofNat n], none)
  else if 0xC2 ≤ n ∧ n ≤ 0xDF then ([], some ⟨0, 0x80, 0xBF, n - 0xC0, by decide, by decide⟩)
  else if n = 0xE0 then ([], some ⟨1, 0xA0, 0xBF, 0, by decide, by decide⟩)
  else if n = 0xED then ([], some ⟨1, 0x80, 0x9F, 0xD, by decide, by decide⟩)
  else if 0xE1 ≤ n ∧ n ≤ 0xEF then ([], some ⟨1, 0x80, 0xBF, n - 0xE0, by decide, by decide⟩)
  else if n = 0xF0 then ([], some ⟨2, 0x90, 0xBF, 0, by decide, by decide⟩)
  else if n = 0xF4 then ([], some ⟨2, 0x80, 0x8F, 4, by decide, by decide⟩)
  else if 0xF1 ≤ n ∧ n ≤ 0xF3 then ([], some ⟨2, 0x80, 0xBF, n - 0xF0, by decide, by decide⟩)
  else ([replacement], none)

/-- A byte that carries the character on. -/
def Begun.next (q : Begun) (b : UInt8) : List Char × Option Begun :=
  let code := q.code * 0x40 + (b.toNat - 0x80)
  match q.more with
  | 0 => ([Char.ofNat code], none)
  | more + 1 => ([], some ⟨more, 0x80, 0xBF, code, by decide, by decide⟩)

def step : Option Begun → UInt8 → List Char × Option Begun
  | none, b => first b
  | some q, b => if q.takes b then q.next b else (replacement :: (first b).1, (first b).2)

/-- What the end of the bytes gives. -/
def finish : Option Begun → List Char
  | none => []
  | some _ => [replacement]

def decodeFrom : Option Begun → List UInt8 → List Char
  | s, [] => finish s
  | s, b :: bs => (step s b).1 ++ decodeFrom (step s b).2 bs

def decode (bs : List UInt8) : List Char := decodeFrom none bs

def encode (cs : List Char) : List UInt8 := cs.flatMap String.utf8EncodeChar

/-! ## Well-formed bytes

The encoding of a character is read back as that character. There are four lengths of encodings, and in each
the first byte says how many follow; the bounds on the second byte exclude the encodings that are too long, the
surrogates, and what is above `U+10FFFF`. -/

section
variable {q : Begun} {b : UInt8} {c : Char} {bs : List UInt8}

theorem toNat_ofNat {n : Nat} (h : n < 0x100) : (UInt8.ofNat n).toNat = n := by
  rw [UInt8.toNat_ofNat', Nat.mod_eq_of_lt h]

/-- The last byte of a character. -/
theorem decodeFrom_last {n : Nat} (hn : n < 0x40) (hmore : q.more = 0)
    (h : q.takes (UInt8.ofNat (n + 0x80))) :
    decodeFrom (some q) (UInt8.ofNat (n + 0x80) :: bs) =
      Char.ofNat (q.code * 0x40 + n) :: decodeFrom none bs := by
  simp only [decodeFrom, step, h, Begun.next, hmore, toNat_ofNat (show n + 0x80 < 0x100 by omega), if_true,
    Nat.add_sub_cancel, List.singleton_append]

/-- A byte in the middle of a character. -/
theorem decodeFrom_middle {n more : Nat} (hn : n < 0x40) (hmore : q.more = more + 1)
    (h : q.takes (UInt8.ofNat (n + 0x80))) :
    decodeFrom (some q) (UInt8.ofNat (n + 0x80) :: bs) =
      decodeFrom (some ⟨more, 0x80, 0xBF, q.code * 0x40 + n, by decide, by decide⟩) bs := by
  simp only [decodeFrom, step, h, Begun.next, hmore, toNat_ofNat (show n + 0x80 < 0x100 by omega), if_true,
    Nat.add_sub_cancel, List.nil_append]

theorem takes_tail {n more code : Nat} (hn : n < 0x40) :
    (Begun.mk more 0x80 0xBF code (by decide) (by decide)).takes (UInt8.ofNat (n + 0x80)) := by
  simp only [Begun.takes, toNat_ofNat (show n + 0x80 < 0x100 by omega)]
  grind

/-- `b` begins a character with the bits `n`, and `m` can be the bits of the byte after it. -/
def Begins (n more m : Nat) (b : UInt8) : Prop :=
  ∃ q, first b = ([], some q) ∧ q.more = more ∧ q.code = n ∧ q.takes (UInt8.ofNat (m + 0x80))

theorem begins_two {n m : Nat} (hn : n < 0x20) (hm : m < 0x40) (hlong : 2 ≤ n) :
    Begins n 0 m (UInt8.ofNat (n + 0xC0)) := by
  simp only [Begins, first, toNat_ofNat (show n + 0xC0 < 0x100 by omega)]
  rw [if_neg (by omega), if_pos (by omega)]
  refine ⟨_, rfl, rfl, Nat.add_sub_cancel .., ?_⟩
  simp only [Begun.takes, toNat_ofNat (show m + 0x80 < 0x100 by omega)]
  grind

theorem begins_three {n m : Nat} (hn : n < 0x10) (hm : m < 0x40) (hlong : 0x20 ≤ n * 0x40 + m)
    (hvalid : n * 0x40 + m < 0x360 ∨ 0x380 ≤ n * 0x40 + m) :
    Begins n 1 m (UInt8.ofNat (n + 0xE0)) := by
  simp only [Begins, first, toNat_ofNat (show n + 0xE0 < 0x100 by omega)]
  rw [if_neg (by omega), if_neg (by omega)]
  split_ifs <;> first | omega | refine ⟨_, rfl, rfl, by dsimp only; omega, ?_⟩
  all_goals
    simp only [Begun.takes, toNat_ofNat (show m + 0x80 < 0x100 by omega)]
    grind

theorem begins_four {n m : Nat} (hn : n < 8) (hm : m < 0x40) (hlong : 0x10 ≤ n * 0x40 + m)
    (hvalid : n * 0x40 + m < 0x110) :
    Begins n 2 m (UInt8.ofNat (n + 0xF0)) := by
  simp only [Begins, first, toNat_ofNat (show n + 0xF0 < 0x100 by omega)]
  rw [if_neg (by omega), if_neg (by omega), if_neg (by omega), if_neg (by omega), if_neg (by omega)]
  split_ifs <;> first | omega | refine ⟨_, rfl, rfl, by dsimp only; omega, ?_⟩
  all_goals
    simp only [Begun.takes, toNat_ofNat (show m + 0x80 < 0x100 by omega)]
    grind

/-- The bytes of a character are read as that character. -/
theorem decodeFrom_encodeChar :
    decodeFrom none (String.utf8EncodeChar c ++ bs) = c :: decodeFrom none bs := by
  have hvalid : c.val.toNat < 0xD800 ∨ 0xDFFF < c.val.toNat ∧ c.val.toNat < 0x110000 := c.valid
  have hc : Char.ofNat c.val.toNat = c := Char.ofNat_toNat c
  unfold String.utf8EncodeChar
  generalize c.val.toNat = v at hvalid hc ⊢
  dsimp only
  split_ifs with hone htwo hthree
  · have hfirst : first (UInt8.ofNat v) = ([c], none) := by
      simp only [first, toNat_ofNat (show v < 0x100 by omega)]
      rw [if_pos (by omega), hc]
    simp only [List.singleton_append, decodeFrom, step, hfirst]
  · obtain ⟨q, hfirst, hmore, hcode, htakes⟩ :=
      begins_two (n := v / 64 % 32) (m := v % 64) (by omega) (by omega) (by omega)
    show (first _).1 ++ decodeFrom (first _).2 _ = _
    rw [hfirst, List.nil_append]
    show decodeFrom (some q) (_ :: bs) = _
    rw [decodeFrom_last (by omega) hmore htakes, hcode,
      show v / 64 % 32 * 0x40 + v % 64 = v by omega, hc]
  · obtain ⟨q, hfirst, hmore, hcode, htakes⟩ :=
      begins_three (n := v / 4096 % 16) (m := v / 64 % 64) (by omega) (by omega) (by omega) (by omega)
    show (first _).1 ++ decodeFrom (first _).2 _ = _
    rw [hfirst, List.nil_append]
    show decodeFrom (some q) (_ :: _ :: bs) = _
    rw [decodeFrom_middle (by omega) hmore htakes, decodeFrom_last (by omega) rfl (takes_tail (by omega))]
    simp only [hcode]
    rw [show (v / 4096 % 16 * 0x40 + v / 64 % 64) * 0x40 + v % 64 = v by omega, hc]
  · obtain ⟨q, hfirst, hmore, hcode, htakes⟩ :=
      begins_four (n := v / 262144 % 8) (m := v / 4096 % 64) (by omega) (by omega) (by omega) (by omega)
    show (first _).1 ++ decodeFrom (first _).2 _ = _
    rw [hfirst, List.nil_append]
    show decodeFrom (some q) (_ :: _ :: _ :: bs) = _
    rw [decodeFrom_middle (by omega) hmore htakes, decodeFrom_middle (by omega) rfl (takes_tail (by omega)),
      decodeFrom_last (by omega) rfl (takes_tail (by omega))]
    simp only [hcode]
    rw [show ((v / 262144 % 8 * 0x40 + v / 4096 % 64) * 0x40 + v / 64 % 64) * 0x40 + v % 64 = v by omega, hc]

theorem decode_encode (cs : List Char) : decode (encode cs) = cs := by
  induction cs with
  | nil => rfl
  | cons c cs ih =>
    show decodeFrom none (String.utf8EncodeChar c ++ encode cs) = c :: cs
    rw [decodeFrom_encodeChar]
    exact congrArg (c :: ·) ih

end

/-! ## Bytes in two parts

A text is cut somewhere and both parts are read. Where the cut is between two characters, nothing changes;
where it is within one, the first part ends with a replacement character and the second begins with one at least.
The induction is on the second part, from the state that the first one has left. -/

section
variable {p : Char → Bool} {q : Begun} {b : UInt8} {bs as cs : List UInt8}

theorem decode_nil : decode [] = [] := rfl

/-- A byte that carries a character on begins none. -/
theorem decode_of_takes (h : q.takes b) : decode (b :: bs) = replacement :: decode bs := by
  have hlow := q.low_le
  have hhigh := q.le_high
  simp only [Begun.takes, Bool.and_eq_true, decide_eq_true_eq] at h
  have hfirst : first b = ([replacement], none) := by
    simp only [first]
    rw [if_neg (by omega), if_neg (by omega), if_neg (by omega), if_neg (by omega), if_neg (by omega),
      if_neg (by omega), if_neg (by omega), if_neg (by omega)]
  show (first b).1 ++ decodeFrom (first b).2 bs = _
  rw [hfirst]
  rfl

/-- A byte that does not carry the character on cuts it short, and is read afresh. -/
theorem decodeFrom_of_not_takes (h : q.takes b = false) :
    decodeFrom (some q) (b :: bs) = replacement :: decode (b :: bs) := by
  simp [decodeFrom, decode, step, h]

theorem decodeFrom_of_takes (h : q.takes b) :
    (∃ c, decodeFrom (some q) (b :: bs) = c :: decode bs) ∨
      ∃ q', decodeFrom (some q) (b :: bs) = decodeFrom (some q') bs := by
  simp only [decodeFrom, step, h, if_true, Begun.next]
  split
  · exact .inl ⟨_, rfl⟩
  · exact .inr ⟨_, rfl⟩

theorem countP_cons_le (c : Char) (l : List Char) : (c :: l).countP p ≤ l.countP p + 1 := by
  rw [List.countP_cons]
  split <;> omega

section
variable (hp : p replacement)
include hp

/-- A character carried on is fewer characters than its parts, if what follows is no more. -/
theorem countP_lt_of_takes (h : q.takes b)
    (hle : ∀ q', (decodeFrom (some q') bs).countP p ≤ (replacement :: decode bs).countP p) :
    (decodeFrom (some q) (b :: bs)).countP p < (replacement :: decode (b :: bs)).countP p := by
  have hparts : (replacement :: decode (b :: bs)).countP p = (decode bs).countP p + 2 := by
    rw [decode_of_takes h, List.countP_cons_of_pos hp, List.countP_cons_of_pos hp]
  rw [hparts]
  obtain ⟨c, hc⟩ | ⟨q', hq'⟩ := @decodeFrom_of_takes q b bs h
  · have := countP_cons_le (p := p) c (decode bs)
    rw [hc]
    omega
  · have := hle q'
    rw [List.countP_cons_of_pos hp] at this
    rw [hq']
    omega

theorem countP_decodeFrom_le (q : Begun) :
    (decodeFrom (some q) bs).countP p ≤ (replacement :: decode bs).countP p := by
  induction bs generalizing q with
  | nil => exact Nat.le_refl _
  | cons b bs ih =>
    cases h : q.takes b with
    | true => exact Nat.le_of_lt (countP_lt_of_takes hp h ih)
    | false => exact (decodeFrom_of_not_takes h) ▸ Nat.le_refl _

theorem countP_decodeFrom_lt (h : q.takes b) :
    (decodeFrom (some q) (b :: bs)).countP p < (replacement :: decode (b :: bs)).countP p :=
  countP_lt_of_takes hp h fun q' => countP_decodeFrom_le hp q'

/-- Bytes that follow a character begun are read apart from it, or give fewer characters with it. -/
theorem decodeFrom_finish (s : Option Begun) :
    decodeFrom s bs = finish s ++ decode bs ∨
      (decodeFrom s bs).countP p < (finish s ++ decode bs).countP p := by
  cases s with
  | none => exact .inl rfl
  | some q =>
    cases bs with
    | nil => exact .inl rfl
    | cons b bs =>
      cases h : q.takes b with
      | true => exact .inr (countP_decodeFrom_lt hp h)
      | false => exact .inl (decodeFrom_of_not_takes h)

theorem decodeFrom_append (s : Option Begun) :
    decodeFrom s (as ++ bs) = decodeFrom s as ++ decode bs ∨
      (decodeFrom s (as ++ bs)).countP p < (decodeFrom s as ++ decode bs).countP p := by
  induction as generalizing s with
  | nil => exact decodeFrom_finish hp s
  | cons a as ih =>
    simp only [List.cons_append, decodeFrom, List.append_assoc, List.append_cancel_left_eq]
    rw [List.countP_append, List.countP_append, Nat.add_lt_add_iff_left]
    exact ih _

end

/-! ## Apart

`p` is any test that replacement characters pass, so that counting the characters that pass it is enough to
tell whether a cut has been made within a character. -/

/-- No character reaches from the first bytes into the second: both are read apart as they are
    together. -/
def Apart (as bs : List UInt8) : Prop := decode (as ++ bs) = decode as ++ decode bs

theorem apart_nil : Apart as [] := by
  simp [Apart, decode_nil]

/-- Bytes read in two parts give what they give together, or more characters. -/
theorem decode_append (hp : p replacement) :
    Apart as bs ∨ (decode (as ++ bs)).countP p < (decode as ++ decode bs).countP p :=
  decodeFrom_append hp none

theorem countP_decode_append_le (hp : p replacement) :
    (decode (as ++ bs)).countP p ≤ (decode as).countP p + (decode bs).countP p := by
  rw [← List.countP_append]
  obtain h | h : Apart as bs ∨ _ := decode_append hp
  · exact h ▸ Nat.le_refl _
  · exact Nat.le_of_lt h

theorem apart_of_countP_le (hp : p replacement)
    (h : (decode as).countP p + (decode bs).countP p ≤ (decode (as ++ bs)).countP p) : Apart as bs := by
  rw [← List.countP_append] at h
  exact (decode_append hp).resolve_right (Nat.not_lt.mpr h)

theorem decodeFrom_left {s : Option Begun}
    (h : decodeFrom s (as ++ (bs ++ cs)) = decodeFrom s as ++ decode (bs ++ cs)) :
    decodeFrom s (as ++ bs) = decodeFrom s as ++ decode bs := by
  induction as generalizing s with
  | cons a as ih =>
    simp only [List.cons_append, decodeFrom, List.append_assoc, List.append_cancel_left_eq] at h ⊢
    exact ih h
  | nil =>
    cases bs with
    | nil => simp [decode_nil, decodeFrom]
    | cons b bs =>
      cases s with
      | none => rfl
      | some q =>
        -- the bytes that come later do not decide whether `b` carries the character on
        cases htakes : q.takes b with
        | false => exact decodeFrom_of_not_takes htakes
        | true =>
          have heq : decodeFrom (some q) (b :: (bs ++ cs)) = replacement :: decode (b :: (bs ++ cs)) := h
          have hlt := @countP_decodeFrom_lt (fun _ => true) q b (bs ++ cs) rfl htakes
          rw [heq] at hlt
          exact absurd hlt (Nat.lt_irrefl _)

/-- What stands apart from a text stands apart from its beginning. -/
theorem Apart.left (h : Apart as (bs ++ cs)) : Apart as bs := decodeFrom_left h

/-- Parts are read together as they are apart, when no character reaches over the end of one. -/
theorem flatMap_decode_of_apart {parts : List (List UInt8)}
    (h : ∀ front back, parts = front ++ back → Apart front.flatten back.flatten) :
    parts.flatMap decode = decode parts.flatten := by
  induction parts using List.reverseRecOn with
  | nil => rfl
  | append_singleton front last ih =>
    have hlast : Apart front.flatten last := by simpa using h front [last] rfl
    have hfront : front.flatMap decode = decode front.flatten := by
      refine ih fun front' back hback => ?_
      have := h front' (back ++ [last]) (by rw [hback, List.append_assoc])
      rw [List.flatten_append] at this
      exact this.left
    rw [List.flatMap_append, hfront, List.flatten_append]
    simpa using hlast.symm

theorem countP_decode_flatten_le (hp : p replacement) (parts : List (List UInt8)) :
    (decode parts.flatten).countP p ≤ (parts.flatMap decode).countP p := by
  induction parts with
  | nil => exact Nat.le_refl _
  | cons part parts ih =>
    have : (decode (part ++ parts.flatten)).countP p ≤ _ := countP_decode_append_le hp
    rw [List.flatten_cons, List.flatMap_cons, List.countP_append]
    omega

/-- Parts that give no more characters apart than together cut none. -/
theorem apart_of_countP_eq (hp : p replacement) {parts front back : List (List UInt8)}
    (h : (parts.flatMap decode).countP p = (decode parts.flatten).countP p)
    (hparts : parts = front ++ back) : Apart front.flatten back.flatten := by
  subst hparts
  have hfront := countP_decode_flatten_le hp front
  have hback := countP_decode_flatten_le hp back
  refine apart_of_countP_le hp ?_
  rw [List.flatMap_append, List.countP_append, List.flatten_append] at h
  omega

end

end Utf8
