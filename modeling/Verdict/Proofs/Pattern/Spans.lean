import Mathlib.Data.Nat.Bitwise
import Verdict.Pattern.Matching

/-! What matching finds. A pattern describes spans of a text; the positions that a placed pattern is
advanced to are those where such spans end. -/

set_option autoImplicit false

namespace Verdict

/-- So many steps, one after another. -/
def Steps (step : Nat → Nat → Prop) : Nat → Nat → Nat → Prop
  | 0, start, stop => start = stop
  | count + 1, start, stop => ∃ middle, step start middle ∧ Steps step count middle stop

/-- The character in front of a position, given the one in front of the text. -/
def characterBefore (before : Option Char) (text : List Char) : Nat → Option Char
  | 0 => before
  | place + 1 => text[place]?

namespace Pattern

/-- Whether a text has a span of a pattern between two positions. The greatest number of copies of a
repetition is never taken below the least. -/
def Spans (text : List Char) : Pattern → Nat → Nat → Prop
  | .empty, start, stop => start = stop
  | .one members, start, stop =>
      stop = start + 1 ∧ ∃ character, text[start]? = some character ∧
        members.contains character = true
  | .look condition, start, stop =>
      stop = start ∧ start ≤ text.length ∧
        condition.holds (characterBefore none text start) text[start]? = true
  | .sequence first second, start, stop =>
      ∃ middle, first.Spans text start middle ∧ second.Spans text middle stop
  | .choice left right, start, stop => left.Spans text start stop ∨ right.Spans text start stop
  | .repetition inner least most, start, stop =>
      ∃ count, least ≤ count ∧ (∀ bound ∈ most, count ≤ max least bound) ∧
        Steps (inner.Spans text) count start stop

end Pattern

section Positions

variable {text : List Char}

theorem testBit_toNat_add (first : Bool) (others place : Nat) :
    (first.toNat + 2 * others).testBit place =
      match place with
      | 0 => first
      | place + 1 => others.testBit place := by
  cases place with
  | zero => cases first <;> simp [Nat.testBit_zero]
  | succ place =>
      rw [Nat.testBit_succ]
      congr 1
      cases first <;> simp; omega

theorem testBit_positionsBefore (holds : Char → Bool) (place : Nat) :
    (positionsBefore holds text).testBit place = true ↔
      ∃ character, text[place]? = some character ∧ holds character = true := by
  induction text generalizing place with
  | nil => simp [positionsBefore]
  | cons character characters ih =>
      rw [positionsBefore, testBit_toNat_add]
      cases place with
      | zero => simp
      | succ place => simpa using ih place

theorem testBit_positionsBetween (holds : Option Char → Option Char → Bool) (before : Option Char)
    (place : Nat) :
    (positionsBetween holds before text).testBit place = true ↔
      place ≤ text.length ∧ holds (characterBefore before text place) text[place]? = true := by
  induction text generalizing before place with
  | nil =>
      have single := testBit_toNat_add (holds before none) 0 place
      rw [Nat.mul_zero, Nat.add_zero] at single
      rw [positionsBetween, single]
      cases place with
      | zero => simp [characterBefore]
      | succ place => simp
  | cons character characters ih =>
      rw [positionsBetween, testBit_toNat_add]
      cases place with
      | zero => simp [characterBefore]
      | succ place =>
          have shifted : characterBefore before (character :: characters) (place + 1) =
              characterBefore (some character) characters place := by
            cases place <;> rfl
          rw [shifted]
          simpa using ih (some character) place

theorem testBit_allPositions (place : Nat) :
    (allPositions text).testBit place = true ↔ place ≤ text.length := by
  have all : allPositions text = 2 ^ (text.length + 1) - 1 := rfl
  rw [all, Nat.testBit_two_pow_sub_one, decide_eq_true_iff, Nat.lt_succ_iff]

end Positions

section Copies

variable {step : Nat → Nat → Prop}

theorem Steps.trans {first second start middle stop : Nat} (front : Steps step first start middle)
    (back : Steps step second middle stop) : Steps step (first + second) start stop := by
  induction first generalizing start with
  | zero =>
      rw [Steps] at front
      rwa [front, Nat.zero_add]
  | succ first ih =>
      obtain ⟨next, taken, further⟩ := front
      rw [Nat.succ_add]
      exact ⟨next, taken, ih further⟩

theorem Steps.split {first second start stop : Nat}
    (steps : Steps step (first + second) start stop) :
    ∃ middle, Steps step first start middle ∧ Steps step second middle stop := by
  induction first generalizing start with
  | zero =>
      rw [Nat.zero_add] at steps
      exact ⟨start, rfl, steps⟩
  | succ first ih =>
      rw [Nat.succ_add] at steps
      obtain ⟨next, taken, further⟩ := steps
      obtain ⟨middle, front, back⟩ := ih further
      exact ⟨middle, ⟨next, taken, front⟩, back⟩

/-- Steps that never go back need not stand still: each of the others goes on by one at least. -/
theorem Steps.shorten {count start stop : Nat}
    (onward : ∀ here there, step here there → here ≤ there) (steps : Steps step count start stop) :
    start ≤ stop ∧ ∃ fewer, fewer ≤ count ∧ fewer ≤ stop - start ∧ Steps step fewer start stop := by
  induction count generalizing start with
  | zero =>
      obtain rfl : start = stop := steps
      exact ⟨le_rfl, 0, le_rfl, by omega, rfl⟩
  | succ count ih =>
      obtain ⟨next, taken, further⟩ := steps
      have forward := onward _ _ taken
      obtain ⟨ordered, fewer, bound, short, kept⟩ := ih further
      rcases forward.eq_or_lt with rfl | moved
      · exact ⟨ordered, fewer, by omega, short, kept⟩
      · exact ⟨by omega, fewer + 1, by omega, by omega, next, taken, kept⟩

end Copies

namespace PlacedPattern

section Collecting

variable {step : Nat → Nat} {relation : Nat → Nat → Prop}

/-- A step takes a set of positions to all that are related to one of them. -/
def Advances (step : Nat → Nat) (relation : Nat → Nat → Prop) : Prop :=
  ∀ positions stop, (step positions).testBit stop = true ↔
    ∃ start, positions.testBit start = true ∧ relation start stop

theorem advances_of_fixed (advances : Advances step relation) {positions : Nat}
    (fixed : step positions = positions) (count stop : Nat) :
    positions.testBit stop = true ↔
      ∃ start, positions.testBit start = true ∧ Steps relation count start stop := by
  induction count with
  | zero => simp [Steps]
  | succ count ih =>
      rw [ih]
      constructor
      · rintro ⟨middle, held, further⟩
        rw [← fixed, advances] at held
        obtain ⟨start, first, taken⟩ := held
        exact ⟨start, first, middle, taken, further⟩
      · rintro ⟨start, held, middle, taken, further⟩
        have reached := (advances positions middle).mpr ⟨start, held, taken⟩
        rw [fixed] at reached
        exact ⟨middle, reached, further⟩

theorem advances_exactly (advances : Advances step relation) (count : Nat) :
    Advances (exactly step count) (Steps relation count) := by
  intro positions stop
  induction count generalizing positions with
  | zero => simp [exactly, Steps]
  | succ count ih =>
      rw [exactly]
      split
      · rename_i fixed
        exact advances_of_fixed advances fixed (count + 1) stop
      · rw [ih]
        simp only [advances positions]
        constructor
        · rintro ⟨middle, ⟨start, held, taken⟩, further⟩
          exact ⟨start, held, middle, taken, further⟩
        · rintro ⟨start, held, middle, taken, further⟩
          exact ⟨middle, ⟨start, held, taken⟩, further⟩

theorem advances_atMost (advances : Advances step relation) (bound : Nat) :
    Advances (atMost step bound) fun start stop =>
      ∃ count, count ≤ bound ∧ Steps relation count start stop := by
  intro positions stop
  have collected (positions place : Nat) :
      (positions ||| step positions).testBit place = true ↔
        positions.testBit place = true ∨
          ∃ start, positions.testBit start = true ∧ relation start place := by
    rw [Nat.testBit_or, Bool.or_eq_true, advances]
  induction bound generalizing positions with
  | zero => simp [atMost, Steps]
  | succ bound ih =>
      rw [atMost]
      split
      · rename_i fixed
        -- Nothing is reached that is not there, so no number of steps leads elsewhere.
        constructor
        · intro held
          exact ⟨stop, held, 0, Nat.zero_le _, rfl⟩
        · rintro ⟨start, held, count, -, steps⟩
          induction count generalizing start with
          | zero =>
              obtain rfl : start = stop := steps
              exact held
          | succ count again =>
              obtain ⟨middle, taken, further⟩ := steps
              refine again middle ?_ further
              rw [← fixed, collected]
              exact .inr ⟨start, held, taken⟩
      · refine (ih _).trans ?_
        simp only [collected]
        constructor
        · rintro ⟨middle, held | ⟨start, held, taken⟩, count, small, further⟩
          · exact ⟨middle, held, count, by omega, further⟩
          · exact ⟨start, held, count + 1, by omega, middle, taken, further⟩
        · rintro ⟨start, held, count, small, steps⟩
          cases count with
          | zero => exact ⟨start, .inl held, 0, Nat.zero_le _, steps⟩
          | succ count =>
              obtain ⟨middle, taken, further⟩ := steps
              exact ⟨middle, .inr ⟨start, held, taken⟩, count, by omega, further⟩

end Collecting

end PlacedPattern

namespace Pattern

variable {text : List Char}

/-- A span goes forward, and only an empty one lies beyond the text. -/
theorem Spans.bounds {pattern : Pattern} {start stop : Nat}
    (spans : pattern.Spans text start stop) :
    start ≤ stop ∧ (start = stop ∨ stop ≤ text.length) := by
  induction pattern generalizing start stop with
  | empty =>
      obtain rfl : start = stop := spans
      exact ⟨le_rfl, .inl rfl⟩
  | one members =>
      obtain ⟨rfl, character, found, -⟩ := spans
      have inside := (List.getElem?_eq_some_iff.mp found).1
      exact ⟨Nat.le_succ start, .inr inside⟩
  | look condition =>
      obtain ⟨rfl, -⟩ := spans
      exact ⟨le_rfl, .inl rfl⟩
  | sequence first second firstBounds secondBounds =>
      obtain ⟨middle, front, back⟩ := spans
      have before := firstBounds front
      have behind := secondBounds back
      omega
  | choice left right leftBounds rightBounds =>
      rcases spans with here | there
      · exact leftBounds here
      · exact rightBounds there
  | repetition inner least most innerBounds =>
      obtain ⟨count, -, -, steps⟩ := spans
      induction count generalizing start with
      | zero =>
          obtain rfl : start = stop := steps
          exact ⟨le_rfl, .inl rfl⟩
      | succ count ih =>
          obtain ⟨middle, taken, further⟩ := steps
          have before := innerBounds taken
          have behind := ih further
          omega

/-- The copies that a placed repetition takes are those of the pattern: without a bound, copies that
go on are at most as many as there are characters. -/
theorem steps_place_iff (inner : Pattern) (least : Nat) (most : Option Nat) (start stop : Nat) :
    (Pattern.repetition inner least most).Spans text start stop ↔
      ∃ middle, Steps (inner.Spans text) least start middle ∧
        ∃ count, count ≤ most.elim text.length (· - least) ∧
          Steps (inner.Spans text) count middle stop := by
  constructor
  · rintro ⟨count, enough, bounded, steps⟩
    obtain ⟨extra, rfl⟩ := Nat.exists_eq_add_of_le enough
    obtain ⟨middle, front, back⟩ := steps.split
    refine ⟨middle, front, ?_⟩
    cases most with
    | some bound =>
        have small := bounded bound rfl
        exact ⟨extra, by simp only [Option.elim]; omega, back⟩
    | none =>
        obtain ⟨-, fewer, -, short, kept⟩ := back.shorten fun _ _ spans => spans.bounds.1
        have whole : (Pattern.repetition inner extra none).Spans text middle stop :=
          ⟨extra, le_rfl, by simp, back⟩
        have inside := whole.bounds
        exact ⟨fewer, by simp only [Option.elim]; omega, kept⟩
  · rintro ⟨middle, front, extra, small, back⟩
    refine ⟨least + extra, Nat.le_add_right _ _, ?_, front.trans back⟩
    rintro bound rfl
    simp only [Option.elim] at small
    omega

/-- Advancing takes positions to the ends of the spans that begin there. -/
theorem advances_place (pattern : Pattern) :
    PlacedPattern.Advances (pattern.place text).advance (pattern.Spans text) := by
  induction pattern with
  | empty => simp [PlacedPattern.Advances, place, PlacedPattern.advance, Spans]
  | one members =>
      intro positions stop
      rw [place, PlacedPattern.advance, Nat.testBit_shiftLeft, Nat.testBit_and]
      simp only [Bool.and_eq_true, decide_eq_true_iff, testBit_positionsBefore, Spans]
      constructor
      · rintro ⟨above, held, member⟩
        exact ⟨stop - 1, held, by omega, member⟩
      · rintro ⟨start, held, rfl, member⟩
        exact ⟨Nat.le_add_left _ _, held, member⟩
  | look condition =>
      intro positions stop
      rw [place, PlacedPattern.advance, Nat.testBit_and, Bool.and_eq_true,
        testBit_positionsBetween]
      constructor
      · rintro ⟨held, given⟩
        exact ⟨stop, held, rfl, given⟩
      · rintro ⟨start, held, rfl, given⟩
        exact ⟨held, given⟩
  | sequence first second firstAdvances secondAdvances =>
      intro positions stop
      rw [place, PlacedPattern.advance, secondAdvances]
      simp only [firstAdvances positions]
      constructor
      · rintro ⟨middle, ⟨start, held, front⟩, back⟩
        exact ⟨start, held, middle, front, back⟩
      · rintro ⟨start, held, middle, front, back⟩
        exact ⟨middle, ⟨start, held, front⟩, back⟩
  | choice left right leftAdvances rightAdvances =>
      intro positions stop
      rw [place, PlacedPattern.advance, Nat.testBit_or, Bool.or_eq_true, leftAdvances,
        rightAdvances]
      constructor
      · rintro (⟨start, held, spans⟩ | ⟨start, held, spans⟩)
        · exact ⟨start, held, .inl spans⟩
        · exact ⟨start, held, .inr spans⟩
      · rintro ⟨start, held, spans | spans⟩
        · exact .inl ⟨start, held, spans⟩
        · exact .inr ⟨start, held, spans⟩
  | repetition inner least most innerAdvances =>
      intro positions stop
      rw [place, PlacedPattern.advance]
      refine (PlacedPattern.advances_atMost innerAdvances _ _ _).trans ?_
      simp only [PlacedPattern.advances_exactly innerAdvances least positions, steps_place_iff]
      constructor
      · rintro ⟨middle, ⟨start, held, front⟩, back⟩
        exact ⟨start, held, middle, front, back⟩
      · rintro ⟨start, held, middle, front, back⟩
        exact ⟨middle, ⟨start, held, front⟩, back⟩

/-- A text has a span of a pattern exactly if matching finds one. -/
theorem occursIn_iff (pattern : Pattern) :
    pattern.occursIn text = true ↔
      ∃ start stop, start ≤ text.length ∧ pattern.Spans text start stop := by
  rw [occursIn, bne_iff_ne, ne_eq, ← not_iff_not, not_not]
  constructor
  · rintro nowhere ⟨start, stop, inside, spans⟩
    have found := (advances_place pattern (allPositions text) stop).mpr
      ⟨start, (testBit_allPositions start).mpr inside, spans⟩
    rw [nowhere, Nat.zero_testBit] at found
    cases found
  · intro absent
    refine Nat.eq_of_testBit_eq fun stop => ?_
    rw [Nat.zero_testBit, Bool.eq_false_iff, ne_eq, advances_place]
    rintro ⟨start, held, spans⟩
    exact absent ⟨start, stop, (testBit_allPositions start).mp held, spans⟩

end Pattern

end Verdict
