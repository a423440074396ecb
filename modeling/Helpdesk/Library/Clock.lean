import Mathlib.Data.List.Pairwise
import Mathlib.Order.MinMax

/-! # Clocks that are set forward and back

A local clock differs from the time by an offset that changes at given instants. A reading of the clock need
not tell the instant: setting the clock forward skips readings, setting it back repeats some. `fold` picks one
of two answers, the earlier offset or the later one, for readings near a change; elsewhere they agree.

All functions go over the changes in order, with the offset that holds before them as an argument, and the
proofs are inductions on the changes that drop the first one.

* **`exists_change`** is how proofs go from a reading to the instants: an offset that a reading resolves to is
  that of some change which the resolved instant is not before.
* **`resolve_lt`** is monotonicity over stretches in which the offset gains less than their length.
* `resolve_le` and `resolve_mono`: readings and instants are in the same order otherwise too, but for readings
  that a change has skipped.
* `le_resolve` and `justRepeated_of_back`: nor does the clock come back to a reading, but for one that a change
  repeats. -/

/-- The offset at first; then the instants at which it changes, and the new one. -/
structure Clock where
  initial : Int
  changes : List (Int × Int)
  sorted : changes.Pairwise fun a b => a.1 < b.1

namespace Clock

/-- The offset at the instant `u`, `offset` being the one before `changes`. -/
def offsetFrom (offset : Int) : List (Int × Int) → Int → Int
  | [], _ => offset
  | (t, next) :: rest, u => if u < t then offset else offsetFrom next rest u

/-- The offset for the reading `wall`. A change counts once the clock has passed both of the readings that it
    links, or either, with `fold`. -/
def readingFrom (fold : Bool) (offset : Int) : List (Int × Int) → Int → Int
  | [], _ => offset
  | (t, next) :: rest, wall =>
    if wall < t + (if fold then min offset next else max offset next) then offset
    else readingFrom fold next rest wall

/-- The reading at `u` is one that has been there before: the last change set the clock back by more than the
    time since. -/
def repeatsFrom (offset : Int) : List (Int × Int) → Int → Bool
  | [], _ => false
  | (t, next) :: rest, u =>
    if u < t then false
    else match rest with
      | [] => u - t < offset - next
      | (t', _) :: _ => if u < t' then u - t < offset - next else repeatsFrom next rest u

def offsetAt (c : Clock) (u : Int) : Int := offsetFrom c.initial c.changes u

/-- The reading at `u` has been there before. -/
def repeatsAt (c : Clock) (u : Int) : Bool := repeatsFrom c.initial c.changes u

def readingOffset (c : Clock) (wall : Int) (fold : Bool) : Int := readingFrom fold c.initial c.changes wall

/-- The instant that a reading resolves to. -/
def resolve (c : Clock) (wall : Int) (fold : Bool) : Int := wall - c.readingOffset wall fold

/-- By `now` a change has skipped the reading `wall`, and by the offset before the change it is still to
    come. -/
def skippedFrom (offset : Int) : List (Int × Int) → (wall now : Int) → Prop
  | [], _, _ => False
  | (t, next) :: rest, wall, now =>
    (t + offset < wall ∧ wall < t + next ∧ t ≤ now ∧ now < wall - offset) ∨ skippedFrom next rest wall now

instance decidableSkippedFrom : (offset : Int) → (changes : List (Int × Int)) → (wall now : Int) →
    Decidable (skippedFrom offset changes wall now)
  | _, [], _, _ => isFalse id
  | offset, (t, next) :: rest, wall, now =>
    have _ := decidableSkippedFrom next rest wall now
    inferInstanceAs (Decidable ((t + offset < wall ∧ wall < t + next ∧ t ≤ now ∧ now < wall - offset) ∨
      skippedFrom next rest wall now))

def JustSkipped (c : Clock) (wall now : Int) : Prop := skippedFrom c.initial c.changes wall now

instance (c : Clock) (wall now : Int) : Decidable (c.JustSkipped wall now) :=
  inferInstanceAs (Decidable (skippedFrom _ _ _ _))

/-- By `now` a change has set the clock back over the reading `wall`. -/
def repeatedFrom (offset : Int) : List (Int × Int) → (wall now : Int) → Prop
  | [], _, _ => False
  | (t, next) :: rest, wall, now =>
    (t ≤ now ∧ t + next < wall ∧ wall < t + offset) ∨ repeatedFrom next rest wall now

instance decidableRepeatedFrom : (offset : Int) → (changes : List (Int × Int)) → (wall now : Int) →
    Decidable (repeatedFrom offset changes wall now)
  | _, [], _, _ => isFalse id
  | offset, (t, next) :: rest, wall, now =>
    have _ := decidableRepeatedFrom next rest wall now
    inferInstanceAs (Decidable ((t ≤ now ∧ t + next < wall ∧ wall < t + offset) ∨
      repeatedFrom next rest wall now))

def JustRepeated (c : Clock) (wall now : Int) : Prop := repeatedFrom c.initial c.changes wall now

instance (c : Clock) (wall now : Int) : Decidable (c.JustRepeated wall now) :=
  inferInstanceAs (Decidable (repeatedFrom _ _ _ _))

/-- Over less than `span` the clock gains less than `span`. -/
def GainsLess (c : Clock) (span : Int) : Prop :=
  ∀ u v, u ≤ v → v < u + span → c.offsetAt v < c.offsetAt u + span

/-! ## From a reading to the instants

Lemmas about a list of changes that is sorted by the instants. `offsetFrom_*` are about the offset at an
instant, `readingFrom_*` about the offset that a reading resolves to. What connects the two is that a change
counts for a reading exactly if the clock has got to the reading, by the offset on either side of the change. -/

section
variable {offset : Int} {changes : List (Int × Int)} {wall u : Int} {fold : Bool}

theorem offsetFrom_of_lt (h : ∀ c ∈ changes, u < c.1) : offsetFrom offset changes u = offset := by
  cases changes with
  | nil => rfl
  | cons c rest => exact if_pos (h c List.mem_cons_self)

theorem readingFrom_mem : readingFrom fold offset changes wall ∈ offset :: changes.map (·.2) := by
  induction changes generalizing offset with
  | nil => exact List.mem_cons_self
  | cons c rest ih =>
    obtain ⟨t, next⟩ := c
    by_cases h : wall < t + (if fold then min offset next else max offset next)
    · rw [readingFrom, if_pos h]
      exact List.mem_cons_self
    · rw [readingFrom, if_neg h]
      exact List.mem_cons_of_mem _ ih

theorem offsetFrom_mem : offsetFrom offset changes u ∈ offset :: changes.map (·.2) := by
  induction changes generalizing offset with
  | nil => exact List.mem_cons_self
  | cons c rest ih =>
    obtain ⟨t, next⟩ := c
    by_cases h : u < t
    · rw [offsetFrom, if_pos h]
      exact List.mem_cons_self
    · rw [offsetFrom, if_neg h]
      exact List.mem_cons_of_mem _ ih

/-- Behind the first change. -/
theorem offsetFrom_cons {t next : Int} {rest : List (Int × Int)} (h : t ≤ u) :
    offsetFrom offset ((t, next) :: rest) u = offsetFrom next rest u := if_neg (not_lt.mpr h)

/-- A reading resolves by the first offset, or by that of a change which is no later than the instant that it
    resolves to. -/
theorem exists_change (hsorted : changes.Pairwise fun a b => a.1 < b.1) :
    readingFrom false offset changes wall = offset ∨
      ∃ t next, (t, next) ∈ changes ∧ offsetFrom offset changes t = readingFrom false offset changes wall ∧
        t ≤ wall - readingFrom false offset changes wall := by
  induction changes generalizing offset with
  | nil => exact .inl rfl
  | cons c rest ih =>
    obtain ⟨t, next⟩ := c
    obtain ⟨hfirst, hrest⟩ := List.pairwise_cons.mp hsorted
    by_cases hbefore : wall < t + max offset next
    · exact .inl (if_pos hbefore)
    · have hreading : readingFrom false offset ((t, next) :: rest) wall = readingFrom false next rest wall :=
        if_neg hbefore
      rw [hreading]
      obtain hstays | ⟨t', next', hmem, hoffset, hle⟩ := @ih next hrest
      · refine .inr ⟨t, next, List.mem_cons_self, ?_, ?_⟩
        · rw [offsetFrom_cons (le_refl t), offsetFrom_of_lt hfirst, hstays]
        · rw [hstays]
          have := le_max_right offset next
          omega
      · refine .inr ⟨t', next', List.mem_cons_of_mem _ hmem, ?_, hle⟩
        rw [offsetFrom_cons (hfirst _ hmem).le, hoffset]

/-- The offset behind the first change, as one of the whole clock. -/
theorem offsetFrom_max {t next : Int} {rest : List (Int × Int)} (hfirst : ∀ c ∈ rest, t < c.1) :
    offsetFrom offset ((t, next) :: rest) (max u t) = offsetFrom next rest u := by
  rw [offsetFrom_cons (le_max_right u t)]
  by_cases hu : u < t
  · rw [max_eq_right hu.le, offsetFrom_of_lt hfirst, offsetFrom_of_lt fun c hc => hu.trans (hfirst c hc)]
  · rw [max_eq_left (not_lt.mp hu)]

/-- A reading that the clock has passed resolves to an instant that is over, unless it has just been skipped. -/
theorem readingFrom_le {now : Int} (hpassed : wall ≤ now + offsetFrom offset changes now)
    (hskipped : ¬ skippedFrom offset changes wall now) : wall - readingFrom false offset changes wall ≤ now := by
  induction changes generalizing offset with
  | nil =>
    have : wall ≤ now + offset := hpassed
    show wall - offset ≤ now
    omega
  | cons c rest ih =>
    obtain ⟨t, next⟩ := c
    obtain ⟨hhere, hlater⟩ := not_or.mp hskipped
    by_cases hnow : now < t
    · -- the change is still to come
      have hoffset : offsetFrom offset ((t, next) :: rest) now = offset := if_pos hnow
      rw [hoffset] at hpassed
      have hreading : readingFrom false offset ((t, next) :: rest) wall = offset := if_pos (by
        have := le_max_left offset next
        show wall < t + max offset next
        omega)
      rw [hreading]
      omega
    · rw [offsetFrom_cons (not_lt.mp hnow)] at hpassed
      by_cases hwall : wall < t + max offset next
      · have hreading : readingFrom false offset ((t, next) :: rest) wall = offset := if_pos hwall
        rw [hreading]
        omega
      · have hreading : readingFrom false offset ((t, next) :: rest) wall = readingFrom false next rest wall :=
          if_neg hwall
        rw [hreading]
        exact ih hpassed hlater

/-- A reading that the clock has passed and is to pass again has been repeated. -/
theorem repeatedFrom_of_back {v : Int} (hsorted : changes.Pairwise fun a b => a.1 < b.1) (huv : u ≤ v)
    (hpassed : wall ≤ u + offsetFrom offset changes u) (hahead : v + offsetFrom offset changes v < wall) :
    repeatedFrom offset changes wall v := by
  induction changes generalizing offset u with
  | nil =>
    replace hpassed : wall ≤ u + offset := hpassed
    replace hahead : v + offset < wall := hahead
    omega
  | cons c rest ih =>
    obtain ⟨t, next⟩ := c
    obtain ⟨hfirst, hrest⟩ := List.pairwise_cons.mp hsorted
    by_cases hv : v < t
    · have hu : offsetFrom offset ((t, next) :: rest) u = offset := if_pos (huv.trans_lt hv)
      have hv : offsetFrom offset ((t, next) :: rest) v = offset := if_pos hv
      omega
    · rw [offsetFrom_cons (not_lt.mp hv)] at hahead
      by_cases hu : u < t
      · have hbefore : offsetFrom offset ((t, next) :: rest) u = offset := if_pos hu
        by_cases hback : t + next < wall
        · exact .inl (by omega)
        · -- the change itself leaves the reading behind, so a later one sets the clock back
          refine .inr (ih hrest (not_lt.mp hv) ?_ hahead)
          rw [offsetFrom_of_lt hfirst]
          omega
      · rw [offsetFrom_cons (not_lt.mp hu)] at hpassed
        exact .inr (ih hrest huv hpassed hahead)

/-- A reading that the clock is still to pass resolves to an instant that is not over, unless the clock has
    been set back over it. -/
theorem le_readingFrom {now : Int} (hsorted : changes.Pairwise fun a b => a.1 < b.1)
    (hahead : now + offsetFrom offset changes now < wall) (hrepeated : ¬ repeatedFrom offset changes wall now) :
    now ≤ wall - readingFrom false offset changes wall := by
  induction changes generalizing offset with
  | nil =>
    replace hahead : now + offset < wall := hahead
    show now ≤ wall - offset
    omega
  | cons c rest ih =>
    obtain ⟨t, next⟩ := c
    obtain ⟨hfirst, hrest⟩ := List.pairwise_cons.mp hsorted
    obtain ⟨hhere, hlater⟩ := not_or.mp hrepeated
    by_cases hnow : now < t
    · have hoffset : offsetFrom offset ((t, next) :: rest) now = offset := if_pos hnow
      rw [hoffset] at hahead
      by_cases hwall : wall < t + max offset next
      · have hreading : readingFrom false offset ((t, next) :: rest) wall = offset := if_pos hwall
        omega
      · have hreading : readingFrom false offset ((t, next) :: rest) wall = readingFrom false next rest wall :=
          if_neg hwall
        rw [hreading]
        have hchange : readingFrom false next rest wall = next ∨ _ := exists_change hrest
        obtain hstays | ⟨t', next', hmem, -, hle⟩ := hchange
        · omega
        · have := hfirst _ hmem
          omega
    · rw [offsetFrom_cons (not_lt.mp hnow)] at hahead
      by_cases hwall : wall < t + max offset next
      · -- the clock has passed the reading by `t`, and is to pass it again
        exfalso
        by_cases hback : t + next < wall
        · omega
        · refine hlater (repeatedFrom_of_back hrest (not_lt.mp hnow) ?_ hahead)
          rw [offsetFrom_of_lt hfirst]
          omega
      · have hreading : readingFrom false offset ((t, next) :: rest) wall = readingFrom false next rest wall :=
          if_neg hwall
        rw [hreading]
        exact ih hrest hahead hlater

/-- Of two readings the later one resolves to the later instant, unless the earlier one has just been skipped
    then. -/
theorem readingFrom_mono {wall' : Int} (hsorted : changes.Pairwise fun a b => a.1 < b.1) (hle : wall ≤ wall')
    (hskipped : ¬ skippedFrom offset changes wall (wall' - readingFrom false offset changes wall')) :
    wall - readingFrom false offset changes wall ≤ wall' - readingFrom false offset changes wall' := by
  induction changes generalizing offset with
  | nil =>
    show wall - offset ≤ wall' - offset
    omega
  | cons c rest ih =>
    obtain ⟨t, next⟩ := c
    obtain ⟨hfirst, hrest⟩ := List.pairwise_cons.mp hsorted
    obtain ⟨hhere, hlater⟩ := not_or.mp hskipped
    have hbehind : ∀ w, ¬ w < t + max offset next →
        readingFrom false offset ((t, next) :: rest) w = readingFrom false next rest w := fun _ h => if_neg h
    have hahead : ∀ w, w < t + max offset next → readingFrom false offset ((t, next) :: rest) w = offset :=
      fun _ h => if_pos h
    by_cases hwall' : wall' < t + max offset next
    · rw [hahead wall (hle.trans_lt hwall'), hahead wall' hwall']
      omega
    · by_cases hwall : wall < t + max offset next
      · rw [hbehind wall' hwall'] at hhere ⊢
        rw [hahead wall hwall]
        -- the later reading is one of after the change
        have hafter : t ≤ wall' - readingFrom false next rest wall' := by
          have hchange : readingFrom false next rest wall' = next ∨ _ := exists_change hrest
          obtain hstays | ⟨t', next', hmem, -, hle'⟩ := hchange
          · omega
          · exact (hfirst _ hmem).le.trans hle'
        omega
      · rw [hbehind wall' hwall'] at hlater ⊢
        rw [hbehind wall hwall]
        exact ih hrest hlater

/-- **Monotonicity**: a reading that is later by `span` resolves to a later instant. The induction drops the
    changes that both readings have behind them. -/
theorem readingFrom_lt {span : Int} (hspan : 1 < span) (hsorted : changes.Pairwise fun a b => a.1 < b.1)
    (hgains : ∀ u v, u ≤ v → v < u + span → offsetFrom offset changes v < offsetFrom offset changes u + span) :
    wall - readingFrom false offset changes wall <
      wall + span - readingFrom false offset changes (wall + span) := by
  induction changes generalizing offset with
  | nil =>
    show wall - offset < wall + span - offset
    omega
  | cons c rest ih =>
    obtain ⟨t, next⟩ := c
    obtain ⟨hfirst, hrest⟩ := List.pairwise_cons.mp hsorted
    have hbefore : offsetFrom offset ((t, next) :: rest) (t - 1) = offset := if_pos (by omega)
    have hat : offsetFrom offset ((t, next) :: rest) t = next := by
      rw [offsetFrom_cons (le_refl t), offsetFrom_of_lt hfirst]
    have hnext : next < offset + span := by
      have := hgains (t - 1) t (by omega) (by omega)
      rwa [hbefore, hat] at this
    have hbehind : ∀ w, ¬ w < t + max offset next →
        readingFrom false offset ((t, next) :: rest) w = readingFrom false next rest w := fun _ h => if_neg h
    have hahead : ∀ w, w < t + max offset next → readingFrom false offset ((t, next) :: rest) w = offset :=
      fun _ h => if_pos h
    by_cases hwall : wall < t + max offset next
    · rw [hahead wall hwall]
      by_cases hlater : wall + span < t + max offset next
      · rw [hahead _ hlater]
        omega
      · rw [hbehind _ hlater]
        have hchange : readingFrom false next rest (wall + span) = next ∨ _ := exists_change hrest
        -- the instant `v` at which the later reading's offset has come into force
        obtain ⟨v, hv, hoffset, hle⟩ : ∃ v, t ≤ v ∧
            offsetFrom offset ((t, next) :: rest) v = readingFrom false next rest (wall + span) ∧
            v ≤ wall + span - readingFrom false next rest (wall + span) := by
          obtain hstays | ⟨t', next', hmem, hoffset, hle⟩ := hchange
          · refine ⟨t, le_refl t, by rw [hat, hstays], ?_⟩
            rw [hstays]
            omega
          · have htt : t ≤ t' := (hfirst _ hmem).le
            exact ⟨t', htt, by rw [offsetFrom_cons htt, hoffset], hle⟩
        by_cases hnear : v < t - 1 + span
        · have := hgains (t - 1) v (by omega) hnear
          rw [hbefore, hoffset] at this
          omega
        · omega
    · rw [hbehind wall hwall, hbehind (wall + span) (by omega)]
      refine ih hrest fun u v huv hspan' => ?_
      have hmax : ∀ w, offsetFrom offset ((t, next) :: rest) (max w t) = offsetFrom next rest w :=
        fun _ => offsetFrom_max hfirst
      rw [← hmax u, ← hmax v]
      exact hgains (max u t) (max v t) (by omega) (by omega)

end

/-- A clock whose offsets all lie within `span` gains less than that over any stretch. -/
theorem gainsLess_of_within {c : Clock} {low span : Int}
    (h : ∀ offset ∈ c.initial :: c.changes.map (·.2), low ≤ offset ∧ offset < low + span) : c.GainsLess span := by
  intro u v _ _
  have hu := h _ (offsetFrom_mem (u := u))
  have hv := h _ (offsetFrom_mem (u := v))
  show offsetFrom _ _ v < offsetFrom _ _ u + span
  omega

theorem readingOffset_mem {c : Clock} (wall : Int) (fold : Bool) :
    c.readingOffset wall fold ∈ c.initial :: c.changes.map (·.2) :=
  readingFrom_mem

/-- Readings that are `span` apart resolve to instants in the same order. -/
theorem resolve_lt {c : Clock} {span : Int} (hspan : 1 < span) (h : c.GainsLess span) (wall : Int) :
    c.resolve wall false < c.resolve (wall + span) false :=
  readingFrom_lt hspan c.sorted h

theorem resolve_le {c : Clock} {wall now : Int} (hpassed : wall ≤ now + c.offsetAt now)
    (hskipped : ¬ c.JustSkipped wall now) : c.resolve wall false ≤ now :=
  readingFrom_le hpassed hskipped

theorem le_resolve {c : Clock} {wall now : Int} (hahead : now + c.offsetAt now < wall)
    (hrepeated : ¬ c.JustRepeated wall now) : now ≤ c.resolve wall false :=
  le_readingFrom c.sorted hahead hrepeated

theorem resolve_mono {c : Clock} {wall wall' : Int} (hle : wall ≤ wall')
    (hskipped : ¬ c.JustSkipped wall (c.resolve wall' false)) : c.resolve wall false ≤ c.resolve wall' false :=
  readingFrom_mono c.sorted hle hskipped

theorem justRepeated_of_back {c : Clock} {wall u v : Int} (huv : u ≤ v) (hpassed : wall ≤ u + c.offsetAt u)
    (hahead : v + c.offsetAt v < wall) : c.JustRepeated wall v :=
  repeatedFrom_of_back c.sorted huv hpassed hahead

end Clock
