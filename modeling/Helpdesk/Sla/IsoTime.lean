import Mathlib.Algebra.Group.Nat.Defs
import Mathlib.Data.Int.Basic

/-! # `datetime.time`

`time.fromisoformat` of CPython 3.12 and the ordering of its results. The parser follows the C
code (`time_fromisoformat`, `parse_isoformat_time`, `parse_hh_mm_ss_ff` of `_datetimemodule.c`),
which scans a NUL-terminated buffer: a read past the end of a part yields the character that ends
it, `after` below. Its leniencies are kept, since the schedules it lets through reach the walk. -/

namespace Helpdesk.Sla

/-- The length of a day in microseconds. -/
def dayLength : Int := 86400 * 1000000

/-- A `datetime.time`: the wall-clock time in microseconds since midnight, and the UTC offset in
    microseconds where one was written. -/
structure PyTime where
  wall : Int
  offset : Option Int
  wall_nonneg : 0 ≤ wall
  wall_lt : wall < dayLength

/-! ## Parsing

Function by function as the C code has them. A string that Python code would reject for its length alone gets
through some of these, and what they read past the end is the terminating NUL. -/

def nul : Char := Char.ofNat 0

def digit (c : Char) : Nat := c.toNat - '0'.toNat

/-- `parse_digits(p, &value, 2)`. -/
def parseTwoDigits : List Char → Option (Nat × List Char)
  | a :: b :: rest => if a.isDigit && b.isDigit then some (10 * digit a + digit b, rest) else none
  | _ => none

/-- Where the loop over hour, minute and second leaves off. -/
inductive Fields where
  | malformed
  /-- the part has ended; `trailing` if on a character other than NUL -/
  | ended (values : List Nat) (trailing : Bool)
  /-- a fraction of a second is to follow -/
  | fraction (values : List Nat) (rest : List Char)

/-- The loop `for (i = 0; i < 3; ++i)`, with `left` rounds to go. `separated` is fixed by the
    character after the hour. -/
def parseFields (after : Char) : (left : Nat) → (separated : Option Bool) → (values : List Nat) →
    List Char → Fields
  | 0, _, values, part => .fraction values part
  | left + 1, separated, values, part =>
    match parseTwoDigits part with
    | none => .malformed
    | some (value, rest) =>
      let c := rest.headD after
      let hasSeparator := separated.getD (c == ':')
      let values := values ++ [value]
      if rest.length ≤ 1 then .ended values (c != nul)
      else if hasSeparator && c == ':' then
        parseFields after left (some hasSeparator) values rest.tail
      else if c == '.' || c == ',' then .fraction values rest.tail
      else if !hasSeparator then parseFields after left (some hasSeparator) values rest
      else .malformed

/-- The microseconds of a fraction: at most six digits count, fewer are scaled up. -/
def parseFraction (after : Char) (part : List Char) : Option (Nat × Bool) :=
  let toParse := part.take 6
  if toParse.all Char.isDigit then
    let rest := (part.drop 6).dropWhile Char.isDigit
    let value := toParse.foldl (fun n c => 10 * n + digit c) 0
    some (value * 10 ^ (6 - toParse.length), rest.headD after != nul)
  else none

/-- Hour, minute, second, microsecond, and whether the part ends on something other than NUL. -/
structure Parsed where
  hour : Nat
  minute : Nat
  second : Nat
  microsecond : Nat
  trailing : Bool

/-- `parse_hh_mm_ss_ff`. -/
def parseHhMmSsFf (after : Char) (part : List Char) : Option Parsed :=
  match parseFields after 3 none [] part with
  | .malformed => none
  | .ended values trailing =>
    some ⟨values.getD 0 0, values.getD 1 0, values.getD 2 0, 0, trailing⟩
  | .fraction values rest =>
    match parseFraction after rest with
    | none => none
    | some (microsecond, trailing) =>
      some ⟨values.getD 0 0, values.getD 1 0, values.getD 2 0, microsecond, trailing⟩

/-- `tzinfo_from_isoformat_results`: an offset of zero whole seconds is UTC whatever its fraction;
    others have to be shorter than a day. -/
def timezoneOffset (negative : Bool) (p : Parsed) : Option Int :=
  let seconds : Int := p.hour * 3600 + p.minute * 60 + p.second
  let offset := seconds * 1000000 + p.microsecond
  let offset := if negative then -offset else offset
  if seconds = 0 then some 0
  else if -dayLength < offset ∧ offset < dayLength then some offset
  else none

/-- `new_time`: the range checks of a time's fields. -/
def mkTime (p : Parsed) (offset : Option Int) : Option PyTime :=
  if h : p.hour < 24 ∧ p.minute < 60 ∧ p.second < 60 ∧ p.microsecond < 1000000 then
    some
      { wall := ((p.hour * 60 + p.minute) * 60 + p.second) * 1000000 + p.microsecond
        offset := offset
        wall_nonneg := by omega
        wall_lt := by rw [dayLength]; omega }
  else none

def isZoneStart (c : Char) : Bool := c == '+' || c == '-' || c == 'Z'

/-- The UTF-8 buffer. A character of several bytes stands for each of them: none of them is a
    digit or a separator, and only their number matters. -/
def utf8Buffer (s : String) : List Char := s.toList.flatMap fun c => List.replicate c.utf8Size c

/-- `time.fromisoformat`; `none` is a `ValueError`. -/
def fromIsoFormat (s : String) : Option PyTime :=
  let buffer := utf8Buffer s
  let cs := if buffer.head? = some 'T' then buffer.tail else buffer
  let (part, zone) := cs.span (!isZoneStart ·)
  match zone with
  | [] =>
    match parseHhMmSsFf nul part with
    | some p => if p.trailing then none else mkTime p none
    | none => none
  | 'Z' :: rest =>
    match parseHhMmSsFf 'Z' part with
    | some p => if rest.headD nul = nul then mkTime p (some 0) else none
    | none => none
  | sign :: rest =>
    match parseHhMmSsFf sign part, parseHhMmSsFf nul rest with
    | some p, some z =>
      if z.trailing then none
      else match timezoneOffset (sign == '-') z with
        | some offset => mkTime p (some offset)
        | none => none
    | _, _ => none

/-! ## Ordering

An offset in a time of a schedule is accepted and has no effect on the walk, but it takes part in comparisons. -/

/-- `a < b`: on the wall clock when neither has an offset or both have the same, on the clock
    shifted by the whole seconds of the offsets when they differ. A time with an offset and one
    without cannot be compared; `none` is the `TypeError`. -/
def PyTime.lt? (a b : PyTime) : Option Bool :=
  match a.offset, b.offset with
  | none, none => some (a.wall < b.wall)
  | some o, some o' =>
    if o = o' then some (a.wall < b.wall)
    else some (a.wall - o / 1000000 * 1000000 < b.wall - o' / 1000000 * 1000000)
  | _, _ => none

end Helpdesk.Sla
