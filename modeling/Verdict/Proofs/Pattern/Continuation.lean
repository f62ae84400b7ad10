import Verdict.Pattern.Flags

/-! Reading on behind a pattern. Where a closing parenthesis follows a pattern, what is read of the
pattern stays the same and the closing is left, unless the pattern ends inside a comment: then the
comment takes the closing in. -/

set_option autoImplicit false

namespace Verdict

namespace Pattern

/-- What closes a group and may follow it. -/
structure IsClosing (tail : List Char) : Prop where
  parenthesis : ∃ more, tail = ')' :: more
  noBreak : '\n' ∉ tail
  noColon : ':' ∉ tail
  short : tail.length ≤ 2

/-- How a text goes on when a closing follows: with the closing, or without it where a comment has
taken it in. -/
inductive Continued : List Char → (List Char → List Char) → Prop where
  | followed (text : List Char) : Continued text fun tail => text ++ tail
  | absorbed (text : List Char) : Continued text fun _ => text

namespace Continued

theorem cons {character : Char} {rest : List Char} {next : List Char → List Char}
    (continued : Continued rest next) :
    Continued (character :: rest) fun tail => character :: next tail := by
  cases continued with
  | followed => exact .followed _
  | absorbed => exact .absorbed _

theorem exists_cons {character : Char} {rest : List Char} {next : List Char → List Char}
    (continued : Continued (character :: rest) next) :
    ∃ further, Continued rest further ∧ next = fun tail => character :: further tail := by
  cases continued with
  | followed => exact ⟨_, .followed rest, rfl⟩
  | absorbed => exact ⟨_, .absorbed rest, rfl⟩

theorem length_le {text : List Char} {next : List Char → List Char}
    (continued : Continued text next) (tail : List Char) :
    text.length ≤ (next tail).length ∧ (next tail).length ≤ text.length + tail.length := by
  cases continued with
  | followed => simp
  | absorbed => simp

end Continued

section Blanks

variable {text : List Char} {next : List Char → List Char}

theorem skipVerbose_comment {tail : List Char} (noBreak : '\n' ∉ tail) :
    skipVerbose true tail = [] := by
  induction tail with
  | nil => rfl
  | cons character rest ih =>
      obtain ⟨differs, noFurther⟩ := not_or.mp (mt List.mem_cons.mpr noBreak)
      rw [skipVerbose, bne_iff_ne.mpr (Ne.symm differs)]
      exact ih noFurther

theorem IsClosing.skipVerbose {tail : List Char} (closing : IsClosing tail) :
    skipVerbose false tail = tail := by
  obtain ⟨more, rfl⟩ := closing.parenthesis
  rfl

theorem skipVerbose_append (text : List Char) (inside : Bool) :
    ∃ further, Continued (skipVerbose inside text) further ∧
      ∀ tail, IsClosing tail → skipVerbose inside (text ++ tail) = further tail := by
  induction text generalizing inside with
  | nil =>
      cases inside with
      | true => exact ⟨_, .absorbed [], fun tail closing => skipVerbose_comment closing.noBreak⟩
      | false => exact ⟨_, .followed [], fun tail closing => closing.skipVerbose⟩
  | cons character rest ih =>
      cases inside with
      | true => exact ih (character != '\n')
      | false =>
          by_cases blank : Text.isBlank character = true
          · simpa [skipVerbose, blank] using ih false
          · by_cases sign : character = '#'
            · subst sign
              simpa [skipVerbose, blank] using ih true
            · refine ⟨_, .followed (skipVerbose false (character :: rest)), fun tail _ => ?_⟩
              simp [skipVerbose, blank, sign]

/-- Blanks are passed over alike. A comment at the end of a text takes the closing in. -/
theorem Continued.skipBlanks (continued : Continued text next) (flags : Flags) :
    ∃ further, Continued (skipBlanks flags text) further ∧
      ∀ tail, IsClosing tail → Pattern.skipBlanks flags (next tail) = further tail := by
  cases continued with
  | absorbed => exact ⟨_, .absorbed _, fun _ _ => rfl⟩
  | followed =>
      unfold Pattern.skipBlanks
      cases flags.verbose with
      | true => exact skipVerbose_append text false
      | false => exact ⟨_, .followed text, fun _ _ => rfl⟩

theorem length_skipBlanks_le (flags : Flags) (text : List Char) :
    (skipBlanks flags text).length ≤ text.length := by
  have verbose (inside : Bool) : (skipVerbose inside text).length ≤ text.length := by
    induction text generalizing inside with
    | nil => cases inside <;> exact Nat.le_refl _
    | cons character rest ih =>
        cases inside with
        | true => exact Nat.le_succ_of_le (ih _)
        | false =>
            rw [skipVerbose]
            split
            · exact Nat.le_succ_of_le (ih _)
            · split
              · exact Nat.le_succ_of_le (ih _)
              · exact Nat.le_refl _
  unfold skipBlanks
  split
  · exact verbose false
  · exact Nat.le_refl _

end Blanks

section Combinators

variable {α β : Type}

/-- What was read and the rest, where what was read are two things. -/
def paired {γ : Type} (found : α × β × γ) : (α × β) × γ := ((found.1, found.2.1), found.2.2)

/-- What a reader reads of a text it also reads where a closing follows, and it leaves the same. -/
def CarriesAt (read : List Char → Option (α × List Char)) (text : List Char) : Prop :=
  ∀ next result rest, Continued text next → read text = some (result, rest) →
    ∃ further, Continued rest further ∧
      ∀ tail, IsClosing tail → read (next tail) = some (result, further tail)

/-- A reader reads alike whether a closing follows or not. -/
def Carries (read : List Char → Option (α × List Char)) : Prop := ∀ text, CarriesAt read text

theorem carries_none : Carries fun _ => (none : Option (α × List Char)) := by
  intro text next result rest _ read
  cases read

theorem carries_some (value : α) : Carries fun text => some (value, text) := by
  intro text next result rest continued read
  cases read
  exact ⟨next, continued, fun _ _ => rfl⟩

theorem CarriesAt.of_none {read : List Char → Option (α × List Char)} {text : List Char}
    (refused : read text = none) : CarriesAt read text := by
  intro next result rest _ found
  rw [refused] at found
  cases found

theorem CarriesAt.cons {read : List Char → Option (α × List Char)} {character : Char}
    {rest : List Char} (carries : CarriesAt (fun rest => read (character :: rest)) rest) :
    CarriesAt read (character :: rest) := by
  intro next result remaining continued found
  obtain ⟨further, onward, rfl⟩ := continued.exists_cons
  exact carries further result remaining onward found

/-- Whatever the first reading finds, the second does as well. -/
def Refines (first second : Option α) : Prop := ∀ result, first = some result → second = some result

theorem refines_none (reading : Option α) : Refines none reading := by
  intro result found
  cases found

theorem Refines.refl (reading : Option α) : Refines reading reading := fun _ found => found

theorem Refines.bind {first second : Option α} {onward further : α → Option β}
    (refines : Refines first second) (follow : ∀ found, Refines (onward found) (further found)) :
    Refines (first.bind onward) (second.bind further) := by
  intro result found
  obtain ⟨value, read, rest⟩ := Option.bind_eq_some_iff.mp found
  rw [refines value read]
  exact follow value result rest

theorem Refines.map {first second : Option α} (refines : Refines first second) (image : α → β) :
    Refines (first.map image) (second.map image) := by
  intro result found
  obtain ⟨value, read, rfl⟩ := Option.map_eq_some_iff.mp found
  rw [refines value read, Option.map_some]

theorem Carries.of_eq {read other : List Char → Option (α × List Char)} (carries : Carries read)
    (same : ∀ text, other text = read text) : Carries other := by
  rwa [show other = read from funext same]

theorem CarriesAt.congr {read other : List Char → Option (α × List Char)} {text : List Char}
    (carries : CarriesAt read text) (here : other text = read text)
    (there : ∀ tail, IsClosing tail → other (text ++ tail) = read (text ++ tail)) :
    CarriesAt other text := by
  intro next result rest continued found
  rw [here] at found
  obtain ⟨further, onward, reads⟩ := carries next result rest continued found
  refine ⟨further, onward, fun tail closing => (?_ : _ = _).trans (reads tail closing)⟩
  cases continued with
  | followed => exact there tail closing
  | absorbed => exact here

theorem Carries.behind {read : List Char → Option (α × List Char)} (carries : Carries read)
    (character : Char) : Carries fun rest => read (character :: rest) := by
  intro rest next result remaining continued found
  exact carries (character :: rest) _ result remaining continued.cons found

/-- A reader that needs a character is told by what it does behind each. -/
theorem Carries.of_cons {read : List Char → Option (α × List Char)} (atEnd : read [] = none)
    (goesOn : ∀ character, Carries fun rest => read (character :: rest)) : Carries read := by
  intro text
  cases text with
  | nil => exact .of_none atEnd
  | cons character rest => exact (goesOn character rest).cons

theorem Carries.of_cons_or_closed {read : List Char → Option (α × List Char)} {value : α}
    (atEnd : read [] = some (value, []))
    (closed : ∀ more, read (')' :: more) = some (value, ')' :: more))
    (goesOn : ∀ character, Carries fun rest => read (character :: rest)) : Carries read := by
  intro text next result rest continued found
  cases text with
  | nil =>
      rw [atEnd] at found
      cases found
      cases continued with
      | followed =>
          refine ⟨_, .followed [], fun tail closing => ?_⟩
          obtain ⟨more, rfl⟩ := closing.parenthesis
          exact closed more
      | absorbed => exact ⟨_, .absorbed [], fun _ _ => atEnd⟩
  | cons character remaining =>
      exact (goesOn character remaining).cons next result rest continued found

theorem Carries.skipping {read : List Char → Option (α × List Char)} (carries : Carries read)
    (flags : Flags) : Carries fun text => read (skipBlanks flags text) := by
  intro text next result rest continued found
  obtain ⟨further, onward, same⟩ := continued.skipBlanks flags
  obtain ⟨final, left, reads⟩ := carries _ further result rest onward found
  refine ⟨final, left, fun tail closing => ?_⟩
  dsimp only
  rw [same tail closing]
  exact reads tail closing

/-- A reader that needs a character behind blanks is told by what it does behind each. -/
theorem Carries.of_skipped {read : List Char → Option (α × List Char)} (flags : Flags)
    (atEnd : ∀ text, skipBlanks flags text = [] → read text = none)
    (goesOn : ∀ character, ∃ behind, Carries behind ∧
      ∀ text rest, skipBlanks flags text = character :: rest → read text = behind rest) :
    Carries read := by
  intro text next result rest continued found
  obtain ⟨further, onward, same⟩ := continued.skipBlanks flags
  cases blank : skipBlanks flags text with
  | nil =>
      rw [atEnd text blank] at found
      cases found
  | cons character remaining =>
      obtain ⟨behind, carries, reads⟩ := goesOn character
      rw [blank] at onward
      obtain ⟨after, kept, rfl⟩ := onward.exists_cons
      rw [reads text remaining blank] at found
      obtain ⟨final, left, readsOn⟩ := carries _ after result rest kept found
      refine ⟨final, left, fun tail closing => ?_⟩
      rw [reads _ _ (same tail closing)]
      exact readsOn tail closing

theorem Carries.of_skipped_or_closed {read : List Char → Option (α × List Char)} (flags : Flags)
    {value : α} (atEnd : ∀ text, skipBlanks flags text = [] → read text = some (value, []))
    (closed : ∀ text rest, skipBlanks flags text = ')' :: rest →
      read text = some (value, ')' :: rest))
    (goesOn : ∀ character, character ≠ ')' → ∃ behind, Carries behind ∧
      ∀ text rest, skipBlanks flags text = character :: rest → read text = behind rest) :
    Carries read := by
  intro text next result rest continued found
  obtain ⟨further, onward, same⟩ := continued.skipBlanks flags
  cases blank : skipBlanks flags text with
  | nil =>
      rw [atEnd text blank] at found
      cases found
      rw [blank] at onward
      cases onward with
      | followed =>
          refine ⟨_, .followed [], fun tail closing => ?_⟩
          have there := same tail closing
          obtain ⟨more, rfl⟩ := closing.parenthesis
          exact closed _ more there
      | absorbed => exact ⟨_, .absorbed [], fun tail closing => atEnd _ (same tail closing)⟩
  | cons character remaining =>
      rw [blank] at onward
      obtain ⟨after, kept, rfl⟩ := onward.exists_cons
      by_cases closes : character = ')'
      · subst closes
        rw [closed text remaining blank] at found
        cases found
        exact ⟨_, kept.cons, fun tail closing => closed _ _ (same tail closing)⟩
      · obtain ⟨behind, carries, reads⟩ := goesOn character closes
        rw [reads text remaining blank] at found
        obtain ⟨final, left, readsOn⟩ := carries _ after result rest kept found
        refine ⟨final, left, fun tail closing => ?_⟩
        rw [reads _ _ (same tail closing)]
        exact readsOn tail closing

theorem CarriesAt.bind {read : List Char → Option (α × List Char)}
    {onto : α → List Char → Option (β × List Char)} {text : List Char}
    (carries : CarriesAt read text) (after : ∀ value, Carries (onto value)) :
    CarriesAt (fun text => (read text).bind fun found => onto found.1 found.2) text := by
  intro next result rest continued found
  obtain ⟨⟨value, middle⟩, first, second⟩ := Option.bind_eq_some_iff.mp found
  obtain ⟨further, onward, reads⟩ := carries next value middle continued first
  obtain ⟨final, left, readsOn⟩ := after value _ further result rest onward second
  refine ⟨final, left, fun tail closing => ?_⟩
  dsimp only
  rw [reads tail closing]
  exact readsOn tail closing

theorem Carries.bind {read : List Char → Option (α × List Char)}
    {onto : α → List Char → Option (β × List Char)} (carries : Carries read)
    (after : ∀ value, Carries (onto value)) :
    Carries fun text => (read text).bind fun found => onto found.1 found.2 :=
  fun text => (carries text).bind after

theorem Carries.filterMap {read : List Char → Option (α × List Char)} (carries : Carries read)
    (image : α → Option β) :
    Carries fun text => (read text).bind fun found =>
      (image found.1).map fun value => (value, found.2) := by
  have after (value : α) : Carries fun rest =>
      (image value).map fun result => (result, rest) := by
    cases image value with
    | none => exact carries_none
    | some result => exact carries_some result
  exact carries.bind after

theorem Refines.of_le {read : Nat → Option α}
    (grows : ∀ fuel, Refines (read fuel) (read (fuel + 1))) {fuel more : Nat} (le : fuel ≤ more) :
    Refines (read fuel) (read more) := by
  intro result found
  induction le with
  | refl => exact found
  | step _ ih => exact grows _ _ ih

/-- More fuel does no harm to a reader that has read with less. -/
theorem Carries.fueled {read : Nat → List Char → Option (α × List Char)}
    (carries : ∀ fuel, Carries (read fuel))
    (grows : ∀ fuel text, Refines (read fuel text) (read (fuel + 1) text))
    (margin : Nat) : Carries fun text => read (text.length + margin) text := by
  intro text next result rest continued found
  obtain ⟨further, onward, reads⟩ := carries _ text next result rest continued found
  refine ⟨further, onward, fun tail closing =>
    Refines.of_le (fun fuel => grows fuel _) ?_ _ (reads tail closing)⟩
  have longer := (continued.length_le tail).1
  omega

theorem Carries.settled {read : Nat → List Char → α × List Char}
    (carries : ∀ fuel, Carries fun text => some (read fuel text))
    (settles : ∀ fuel text, text.length ≤ fuel → read (fuel + 1) text = read fuel text) :
    Carries fun text => some (read text.length text) := by
  have enough {fuel more : Nat} {text : List Char} (whole : text.length ≤ fuel)
      (le : fuel ≤ more) : read more text = read fuel text := by
    induction le with
    | refl => rfl
    | step le ih => rw [settles _ _ (Nat.le_trans whole le), ih]
  intro text next result rest continued found
  -- The closing has two characters at most, so this fuel is enough with it and without it.
  have ample := enough (Nat.le_refl _) (Nat.le_add_right text.length 2)
  dsimp only at found
  rw [← ample] at found
  obtain ⟨further, onward, reads⟩ := carries _ text next result rest continued found
  refine ⟨further, onward, fun tail closing => ?_⟩
  have bound := continued.length_le tail
  have short := closing.short
  dsimp only
  rw [← enough (Nat.le_refl _) (show (next tail).length ≤ text.length + 2 by omega)]
  exact reads tail closing

/-- A reader that goes on behind blanks needs no more fuel than there are characters. -/
theorem settles_of_skipping {read : Nat → α → List Char → β} (flags : Flags)
    (atEnd : ∀ fuel state, read (fuel + 1) state [] = read fuel state [])
    (goesOn : ∀ fuel state character rest,
      (∀ state, read (fuel + 1) state (skipBlanks flags rest) =
        read fuel state (skipBlanks flags rest)) →
      read (fuel + 2) state (character :: rest) = read (fuel + 1) state (character :: rest))
    (state : α) (fuel : Nat) (text : List Char) (whole : text.length ≤ fuel) :
    read (fuel + 1) state text = read fuel state text := by
  induction fuel generalizing state text with
  | zero =>
      rw [List.length_eq_zero_iff.mp (Nat.le_zero.mp whole)]
      exact atEnd 0 state
  | succ fuel ih =>
      cases text with
      | nil => exact atEnd (fuel + 1) state
      | cons character rest =>
          have shorter := Nat.le_trans (length_skipBlanks_le flags rest)
            (Nat.le_of_succ_le_succ whole)
          exact goesOn fuel state character rest fun state => ih state _ shorter

end Combinators

end Pattern

end Verdict
