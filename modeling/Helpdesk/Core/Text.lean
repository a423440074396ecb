import Mathlib.Data.List.Basic

/-! # Python string helpers

`str.strip` and what it rests on, over the code points of the string. `str.isspace` is the table of
Python's documentation (Unicode bidirectional class or general category), written out. -/

namespace Helpdesk.Text

/-- `str.isspace` on one code point. -/
def isSpace (c : Char) : Bool :=
  let n := c.toNat
  (0x09 ≤ n && n ≤ 0x0D) || (0x1C ≤ n && n ≤ 0x20) || n == 0x85 || n == 0xA0 || n == 0x1680 ||
    (0x2000 ≤ n && n ≤ 0x200A) || n == 0x2028 || n == 0x2029 || n == 0x202F || n == 0x205F ||
    n == 0x3000

/-- Drop `p` from both ends. -/
def stripChars (p : Char → Bool) (cs : List Char) : List Char :=
  ((cs.dropWhile p).reverse.dropWhile p).reverse

/-- `s.strip()`. -/
def strip (s : String) : String := String.ofList (stripChars isSpace s.toList)

/-- PostgreSQL's `btrim(s)`: only the blank `U+0020` is trimmed. -/
def btrim (s : String) : String := String.ofList (stripChars (· == ' ') s.toList)

/-! ## `int(s)`

`int` takes more than ASCII digits: decimal digits of any script, single underscores between digits, a sign,
white space around, and in base 16 a `0x` in front. `UUID()` passes its text on to it, so all of this is
accepted in an id. -/

/-- The zeros of the decimal digits (general category `Nd`); each is followed by its nine others. -/
def digitZeros : List Nat :=
  [0x30, 0x660, 0x6F0, 0x7C0, 0x966, 0x9E6, 0xA66, 0xAE6, 0xB66, 0xBE6, 0xC66, 0xCE6, 0xD66, 0xDE6,
    0xE50, 0xED0, 0xF20, 0x1040, 0x1090, 0x17E0, 0x1810, 0x1946, 0x19D0, 0x1A80, 0x1A90, 0x1B50,
    0x1BB0, 0x1C40, 0x1C50, 0xA620, 0xA8D0, 0xA900, 0xA9D0, 0xA9F0, 0xAA50, 0xABF0, 0xFF10, 0x104A0,
    0x10D30, 0x11066, 0x110F0, 0x11136, 0x111D0, 0x112F0, 0x11450, 0x114D0, 0x11650, 0x116C0,
    0x11730, 0x118E0, 0x11950, 0x11C50, 0x11D50, 0x11DA0, 0x11F50, 0x16A60, 0x16AC0, 0x16B50, 0x1D7CE,
    0x1D7D8, 0x1D7E2, 0x1D7EC, 0x1D7F6, 0x1E140, 0x1E2F0, 0x1E4F0, 0x1E950, 0x1FBF0]

/-- `unicodedata.decimal(c)` -/
def decimal (c : Char) : Option Nat :=
  (digitZeros.find? fun first => first ≤ c.toNat && c.toNat ≤ first + 9).map fun first => c.toNat - first

/-- A digit of base 16. What is not ASCII is one only as a decimal digit. -/
def hexadecimal (c : Char) : Option Nat :=
  if 'a' ≤ c ∧ c ≤ 'f' then some (c.toNat - 87)
  else if 'A' ≤ c ∧ c ≤ 'F' then some (c.toNat - 55)
  else decimal c

/-- Digits, with single underscores in between. -/
def digits (digit : Char → Option Nat) : List Char → Option (List Nat)
  | [] => none
  | [c] => (digit c).map fun d => [d]
  | c :: '_' :: cs => (digit c).bind fun d => (digits digit cs).map fun ds => d :: ds
  | c :: cs => (digit c).bind fun d => (digits digit cs).map fun ds => d :: ds

/-- The number that digits stand for, the most significant one first. -/
def ofDigits (base : Nat) (ds : List Nat) : Nat := ds.foldl (fun n d => base * n + d) 0

/-- What `int` skips on both sides: to it the separators `U+001C` to `U+001F` are no white space. -/
def isIntSpace (c : Char) : Bool := isSpace c && !(0x1C ≤ c.toNat && c.toNat ≤ 0x1F)

/-- `sys.get_int_max_str_digits()`; bases that are powers of two have no such limit. -/
def intMaxStrDigits : Nat := 4300

/-- `int(s)` -/
def parseInt (s : String) : Option Int :=
  let cs := stripChars isIntSpace s.toList
  let (negative, cs) := match cs with
    | '-' :: cs => (true, cs)
    | '+' :: cs => (false, cs)
    | cs => (false, cs)
  (digits decimal cs).bind fun ds =>
    if ds.length ≤ intMaxStrDigits then some (if negative then -(ofDigits 10 ds : Int) else ofDigits 10 ds)
    else none

/-- A plus sign is no part of the digits. -/
def dropPlus : List Char → List Char
  | '+' :: cs => cs
  | cs => cs

/-- `0x` and one underscore behind it are no part of the digits either. -/
def dropHexPrefix : List Char → List Char
  | d :: x :: cs =>
    if decimal d = some 0 ∧ (x = 'x' ∨ x = 'X') then
      match cs with
      | '_' :: cs => cs
      | cs => cs
    else d :: x :: cs
  | cs => cs

/-- `int(s, 16)`, of text without a minus sign -/
def parseHex (cs : List Char) : Option Nat :=
  (digits hexadecimal (dropHexPrefix (dropPlus (stripChars isIntSpace cs)))).map (ofDigits 16)

/-! Text that is nothing but digits has nothing to drop. -/

theorem stripChars_of_forall {p : Char → Bool} {cs : List Char} (h : ∀ c ∈ cs, p c = false) : stripChars p cs = cs := by
  have hdrop : ∀ ds : List Char, (∀ c ∈ ds, p c = false) → ds.dropWhile p = ds := by
    intro ds hds
    cases ds with
    | nil => rfl
    | cons c ds => rw [List.dropWhile_cons, if_neg (by simp [hds c List.mem_cons_self])]
  unfold stripChars
  rw [hdrop cs h, hdrop _ fun c hc => h c (List.mem_reverse.mp hc), List.reverse_reverse]

theorem digits_ne_none {digit : Char → Option Nat} {cs : List Char} (hne : cs ≠ [])
    (h : ∀ c ∈ cs, (digit c).isSome = true ∧ c ≠ '_') : digits digit cs ≠ none := by
  induction cs using digits.induct with
  | case1 => exact absurd rfl hne
  | case2 c =>
    obtain ⟨d, hd⟩ := Option.isSome_iff_exists.mp (h c List.mem_cons_self).1
    simp [digits, hd]
  | case3 c cs ih => exact absurd rfl (h '_' (by simp)).2
  | case4 c cs hone hunderscore ih =>
    obtain ⟨d, hd⟩ := Option.isSome_iff_exists.mp (h c List.mem_cons_self).1
    have hcs : cs ≠ [] := fun hnil => hone hnil
    obtain ⟨ds, hds⟩ := Option.ne_none_iff_exists'.mp (ih hcs fun c hc => h c (List.mem_cons_of_mem _ hc))
    rw [digits, hd, hds]
    · simp
    · exact hone
    · exact hunderscore

/-- The characters of a hexadecimal number. -/
def IsHex (c : Char) : Prop :=
  (hexadecimal c).isSome = true ∧ c ≠ '_' ∧ c ≠ '+' ∧ c ≠ 'x' ∧ c ≠ 'X' ∧ isIntSpace c = false

instance (c : Char) : Decidable (IsHex c) := inferInstanceAs (Decidable (_ ∧ _))

theorem parseHex_ne_none {cs : List Char} (hne : cs ≠ []) (h : ∀ c ∈ cs, IsHex c) : parseHex cs ≠ none := by
  have hstrip : stripChars isIntSpace cs = cs := stripChars_of_forall fun c hc => (h c hc).2.2.2.2.2
  have hplus : dropPlus cs = cs := by
    unfold dropPlus
    split
    · exact absurd rfl (h '+' List.mem_cons_self).2.2.1
    · rfl
  have hprefix : dropHexPrefix cs = cs := by
    unfold dropHexPrefix
    split
    next d x cs =>
      have hx := h x (by simp)
      rw [if_neg]
      rintro ⟨-, rfl | rfl⟩
      · exact hx.2.2.2.1 rfl
      · exact hx.2.2.2.2.1 rfl
    · rfl
  unfold parseHex
  rw [hstrip, hplus, hprefix]
  simpa using digits_ne_none hne fun c hc => ⟨(h c hc).1, (h c hc).2.1⟩

end Helpdesk.Text
