import Verdict.Pattern.Reader
import Verdict.Proofs.Pattern.Brackets

/-! Repetitions and groups, and so whole patterns, read on behind a closing as they do alone. -/

set_option autoImplicit false

namespace Verdict

namespace Pattern

section Repetitions

variable (flags : Flags)

theorem skipGreed_carries : Carries fun text => some ((), skipGreed text) := by
  refine .of_cons_or_closed rfl (fun more => rfl) fun character => ?_
  by_cases greedy : character = '?'
  · subst greedy
    exact carries_some ()
  · exact ((carries_some ()).behind character).of_eq fun rest => by simp [skipGreed, greedy]

theorem readDigits_carries (fuel : Nat) (value : Option Nat) :
    Carries fun text => some (readDigits flags fuel value text) := by
  induction fuel generalizing value with
  | zero => exact carries_some value
  | succ fuel ih =>
      refine .of_cons_or_closed rfl (fun more => rfl) fun character => ?_
      simp only [readDigits]
      split
      · exact (ih _).skipping flags
      · exact (carries_some value).behind character

theorem readDigits_settles (value : Option Nat) (fuel : Nat) (text : List Char)
    (whole : text.length ≤ fuel) :
    readDigits flags (fuel + 1) value text = readDigits flags fuel value text := by
  refine settles_of_skipping flags ?_ ?_ value fuel text whole
  · intro fuel value
    cases fuel <;> rfl
  · intro fuel value character rest same
    rw [readDigits, readDigits, same]

theorem skipAround_carries (fuel : Nat) :
    Carries fun text => some ((), skipAround flags fuel text) := by
  induction fuel with
  | zero => exact carries_some ()
  | succ fuel ih =>
      refine .of_cons_or_closed rfl (fun more => rfl) fun character => ?_
      simp only [skipAround]
      split
      · exact ih.skipping flags
      · exact (carries_some ()).behind character

theorem skipAround_settles (fuel : Nat) (text : List Char) (whole : text.length ≤ fuel) :
    skipAround flags (fuel + 1) text = skipAround flags fuel text := by
  refine @settles_of_skipping Unit _ (fun fuel _ => skipAround flags fuel) flags ?_ ?_ () fuel text
    whole
  · intro fuel _
    cases fuel <;> rfl
  · intro fuel _ character rest same
    rw [skipAround, skipAround, same ()]

theorem dropBlanks_carries : Carries fun text => some ((), text.dropWhile Text.isBlank) := by
  intro text next result rest continued found
  cases found
  cases continued with
  | followed =>
      refine ⟨_, .followed _, fun tail closing => ?_⟩
      dsimp only
      rw [dropWhile_append_closing text closing]
  | absorbed => exact ⟨_, .absorbed _, fun _ _ => rfl⟩

theorem readCount?_carries : Carries (readCount? flags) := by
  have digits := Carries.settled (fun fuel => readDigits_carries flags fuel none)
    (readDigits_settles flags none)
  have around := Carries.settled (skipAround_carries flags)
    (fun fuel text whole => by rw [skipAround_settles flags fuel text whole])
  have counted (value : Option Nat) : Carries fun rest => value.bind fun count =>
      if count < 0x100000000 then some (count, skipAround flags rest.length rest) else none := by
    cases value with
    | none => exact carries_none
    | some count =>
        dsimp only [Option.bind_some]
        split
        · exact around.filterMap fun _ => some count
        · exact carries_none
  refine (dropBlanks_carries.bind fun _ => digits.bind counted).of_eq fun text => ?_
  simp only [readCount?, Option.bind_some]
  rcases readDigits flags _ none _ with ⟨_ | count, rest⟩
  · rfl
  · rfl

/-- The greatest count of a repetition, up to and with the closing brace. -/
def greatestBound? (least : Nat) (text : List Char) : Option ((Nat × Option Nat) × List Char) :=
  (readCount? flags text).bind fun found =>
    match found.2 with
    | '\x7d' :: rest => if least ≤ found.1 then some ((least, some found.1), rest) else none
    | _ => none

/-- What follows the least count of a repetition. -/
def restOfBounds? (least : Nat) : List Char → Option ((Nat × Option Nat) × List Char)
  | '\x7d' :: rest => some ((least, some least), rest)
  | ',' :: rest =>
      match skipBlanks flags rest with
      | '\x7d' :: rest => some ((least, none), rest)
      | rest => greatestBound? flags least rest
  | _ => none

theorem greatestBound?_carries (least : Nat) : Carries (greatestBound? flags least) := by
  have closed (most : Nat) : Carries fun rest =>
      match rest with
      | '\x7d' :: rest => if least ≤ most then some ((least, some most), rest) else none
      | _ => none := by
    refine .of_cons rfl fun character => ?_
    by_cases closes : character = '\x7d'
    · subst closes
      by_cases ordered : least ≤ most
      · exact (carries_some (least, some most)).of_eq fun rest => if_pos ordered
      · exact carries_none.of_eq fun rest => if_neg ordered
    · exact carries_none.of_eq fun rest => by simp [closes]
  exact (readCount?_carries flags).bind closed

theorem restOfBounds?_carries (least : Nat) : Carries (restOfBounds? flags least) := by
  refine .of_cons rfl fun character => ?_
  by_cases closes : character = '\x7d'
  · subst closes
    exact carries_some (least, some least)
  by_cases goesOn : character = ','
  · subst goesOn
    have behind : Carries fun text =>
        match text with
        | '\x7d' :: rest => some ((least, none), rest)
        | rest => greatestBound? flags least rest := by
      refine .of_cons rfl fun second => ?_
      by_cases ends : second = '\x7d'
      · subst ends
        exact carries_some (least, none)
      · exact ((greatestBound?_carries flags least).behind second).of_eq
          fun rest => by simp [ends]
    exact behind.skipping flags
  · exact carries_none.of_eq fun rest => by simp [restOfBounds?, closes, goesOn]

theorem readBounds?_carries : Carries fun text => (readBounds? flags text).map paired := by
  refine (((readCount?_carries flags).skipping flags).bind (restOfBounds?_carries flags)).of_eq
    fun text => ?_
  simp only [readBounds?]
  rcases readCount? flags (skipBlanks flags text) with _ | ⟨least, rest⟩
  · rfl
  · rcases rest with _ | ⟨character, behind⟩
    · rfl
    by_cases closes : character = '\x7d'
    · subst closes
      rfl
    by_cases goesOn : character = ','
    · subst goesOn
      have step (text : List Char) :
          ((readCount? flags text).bind fun found =>
            match found.2 with
            | '\x7d' :: rest => if least ≤ found.1 then some (least, some found.1, rest) else none
            | _ => none).map paired = greatestBound? flags least text := by
        rw [greatestBound?]
        rcases readCount? flags text with _ | ⟨most, _ | ⟨third, others⟩⟩
        · rfl
        · rfl
        · by_cases brace : third = '\x7d'
          · subst brace
            by_cases ordered : least ≤ most <;> simp [ordered, paired]
          · simp [brace]
      cases blank : skipBlanks flags behind with
      | nil =>
          simp only [restOfBounds?, blank, Option.bind_eq_bind, Option.bind_some, ← step]
          rfl
      | cons second others =>
          by_cases ends : second = '\x7d'
          · subst ends
            simp [restOfBounds?, blank, paired]
          · simp only [restOfBounds?, blank, Option.bind_eq_bind, Option.bind_some,
              List.cons.injEq, ends, false_and, imp_false, not_false_eq_true, implies_true, ← step]
            rfl
    · simp [restOfBounds?, closes, goesOn]

end Repetitions

section Groups

variable (flags : Flags)

theorem readName?_carries : Carries readName? := by
  intro text next result rest continued found
  cases behind : text.dropWhile (· != '>') with
  | nil =>
      rw [readName?, behind] at found
      cases found
  | cons mark others =>
      have named : isGroupName (text.takeWhile (· != '>')) = true ∧
          text.takeWhile (· != '>') = result ∧ others = rest := by
        simpa [readName?, behind] using found
      obtain ⟨proper, rfl, rfl⟩ := named
      cases continued with
      | followed =>
          refine ⟨_, .followed others, fun tail _ => ?_⟩
          have within : (text.takeWhile (· != '>')).length ≠ text.length := by
            have whole := congrArg List.length
              (@List.takeWhile_append_dropWhile _ (· != '>') text)
            rw [List.length_append, behind, List.length_cons] at whole
            omega
          simp [readName?, List.takeWhile_append, List.dropWhile_append, behind, within, proper]
      | absorbed => exact ⟨_, .absorbed others, fun _ _ => found⟩

theorem readFlags?_carries (seen : List Flag) (negated dangling : Bool) : Carries fun text =>
    (readFlags? seen negated dangling flags text).map paired := by
  intro text
  induction text generalizing seen negated dangling flags with
  | nil => exact .of_none rfl
  | cons letter rest ih =>
      refine .cons ?_
      by_cases group : letter = ':'
      · subst group
        cases dangling with
        | true => exact carries_none rest
        | false => exact carries_some (flags, FlagScope.group) rest
      by_cases onward : letter = ')'
      · subst onward
        by_cases refused : (dangling || seen.isEmpty) = true
        · exact carries_none.of_eq (fun rest => by simp [readFlags?, refused]) rest
        · exact (carries_some (flags, FlagScope.onward)).of_eq
            (fun rest => by simp [readFlags?, refused, paired]) rest
      by_cases minus : letter = '-'
      · subst minus
        cases negated with
        | true => exact carries_none rest
        | false => exact ih flags seen true true
      simp only [readFlags?]
      cases Flag.ofLetter? letter with
      | none => exact carries_none rest
      | some flag =>
          dsimp only
          split
          · exact carries_none rest
          · exact ih _ _ _ _

/-- What opens a group, where no blanks stand in front of it. -/
def openingOf? (text : List Char) : Option (Opening × List Char) :=
  match text with
  | '?' :: '=' :: _ => none
  | '?' :: '!' :: _ => none
  | '?' :: '<' :: '=' :: _ => none
  | '?' :: '<' :: '!' :: _ => none
  | '?' :: 'P' :: '<' :: rest =>
      (readName? rest).map fun (name, rest) => (.group (some name) flags, rest)
  | '?' :: '<' :: rest =>
      (readName? rest).map fun (name, rest) => (.group (some name) flags, rest)
  | '?' :: rest =>
      match readFlags? [] false false flags rest with
      | none => none
      | some (flags, .onward, rest) => some (.flags flags, rest)
      | some (flags, .group, rest) => some (.group none flags, rest)
  | rest => some (.group none flags, rest)

def openingOfFlags : Flags × FlagScope → Opening
  | (flags, .onward) => .flags flags
  | (flags, .group) => .group none flags

theorem readOpening?_carries : Carries (readOpening? flags) := by
  have named : Carries fun rest =>
      (readName? rest).map fun (name, rest) => (Opening.group (some name) flags, rest) := by
    refine (readName?_carries.filterMap fun name => some (.group (some name) flags)).of_eq
      fun rest => ?_
    cases readName? rest <;> rfl
  have marked : Carries fun rest => openingOf? flags ('?' :: rest) := by
    refine .of_cons rfl fun second => ?_
    by_cases ahead : second = '='
    · subst ahead
      exact carries_none
    by_cases against : second = '!'
    · subst against
      exact carries_none
    by_cases angle : second = '<'
    · subst angle
      refine .of_cons rfl fun third => ?_
      by_cases ahead : third = '='
      · subst ahead
        exact carries_none
      by_cases against : third = '!'
      · subst against
        exact carries_none
      exact (named.behind third).of_eq fun rest => by simp [openingOf?, ahead, against]
    by_cases letter : second = 'P'
    · subst letter
      refine .of_cons rfl fun third => ?_
      by_cases angle : third = '<'
      · subst angle
        exact named
      · exact carries_none.of_eq fun rest => by
          simp [openingOf?, angle, readFlags?, Flag.ofLetter?]
    refine (((readFlags?_carries flags [] false false).behind second).filterMap fun found =>
      some (openingOfFlags found)).of_eq fun rest => ?_
    simp only [openingOf?, List.cons.injEq, ahead, against, angle, letter, false_and, imp_false,
      not_false_eq_true, implies_true]
    rcases readFlags? [] false false flags (second :: rest) with _ | ⟨inner, _ | _, rest⟩ <;> rfl
  have opening : Carries (openingOf? flags) := by
    refine .of_cons_or_closed rfl (fun more => rfl) fun character => ?_
    by_cases mark : character = '?'
    · subst mark
      exact marked
    · exact ((carries_some (.group none flags)).behind character).of_eq fun rest => by
        simp [openingOf?, mark]
  exact opening.skipping flags

theorem readSimple?_carries : Carries (readSimple? flags) := by
  refine .of_cons rfl fun character => ?_
  by_cases escape : character = '\\'
  · subst escape
    refine ((readEscape?_carries flags).filterMap (escapePattern? flags)).of_eq fun rest => ?_
    simp only [readSimple?]
    rcases readEscape? flags rest with _ | ⟨escape, rest⟩
    · rfl
    · cases found : escapePattern? flags escape <;> simp [found]
  by_cases dot : character = '.'
  · subst dot
    simp only [readSimple?]
    cases dotPattern? flags with
    | none => exact carries_none
    | some pattern => exact carries_some pattern
  by_cases caret : character = '^'
  · subst caret
    exact carries_some _
  by_cases dollar : character = '$'
  · subst dollar
    exact carries_some _
  exact (carries_some (literalPattern flags character)).of_eq fun rest => by
    simp only [readSimple?]

section Branches

variable (fuel : Nat) (names : List (List Char)) (items : List Item) (branches : List Part)

/-- What a group goes on with behind the parenthesis that it leaves. -/
def behindGroup? (inner : Part × List (List Char)) :
    List Char → Option ((Part × List (List Char)) × List Char)
  | ')' :: rest =>
      (readBranches? fuel flags inner.2
        (.piece { inner.1 with nesting := inner.1.nesting + 1 } :: items) branches rest).map paired
  | _ => none

def behindOpening? (rest : List Char) : Opening → Option ((Part × List (List Char)) × List Char)
  | .group name inside =>
      (useName? names name).bind fun names =>
        ((readBranches? fuel inside names [] [] rest).map paired).bind fun inner =>
          behindGroup? flags fuel items branches inner.1 inner.2
  | .flags onward =>
      (readBranches? fuel onward names (.flags :: items) branches rest).map paired

variable {fuel}
  (further : ∀ flags names items branches, Carries fun text =>
    (readBranches? fuel flags names items branches text).map paired)

include further

theorem behindOpening?_carries (opening : Opening) :
    Carries fun rest => behindOpening? flags fuel names items branches rest opening := by
  have closed (inner : Part × List (List Char)) :
      Carries (behindGroup? flags fuel items branches inner) := by
    refine .of_cons rfl fun mark => ?_
    by_cases closes : mark = ')'
    · subst closes
      exact further flags inner.2 _ branches
    · exact carries_none.of_eq fun rest => by simp [behindGroup?, closes]
  cases opening with
  | flags onward => exact further onward names (.flags :: items) branches
  | group name inside =>
      simp only [behindOpening?]
      cases useName? names name with
      | none => exact carries_none
      | some names => exact (further inside names [] []).bind closed

theorem readGroup?_carries : ∃ behind, Carries behind ∧ ∀ text rest,
    skipBlanks flags text = '(' :: rest →
      (readBranches? (fuel + 1) flags names items branches text).map paired = behind rest := by
  have opened := behindOpening?_carries flags names items branches further
  refine ⟨_, (readOpening?_carries flags).bind opened, fun text rest blank => ?_⟩
  simp only [readBranches?, blank]
  rcases readOpening? flags rest with _ | ⟨⟨name, inside⟩ | onward, rest⟩
  · rfl
  · simp only [Option.bind_some, behindOpening?]
    cases useName? names name with
    | none => rfl
    | some names =>
        simp only [Option.bind_some]
        rcases readBranches? fuel inside names [] [] rest with
          _ | ⟨inner, names, _ | ⟨mark, rest⟩⟩
        · rfl
        · rfl
        · by_cases closes : mark = ')'
          · subst closes
            rfl
          · simp [behindGroup?, paired, closes]
  · rfl

theorem readRepeated?_carries (least : Nat) (most : Option Nat) : Carries fun rest =>
    ((repeatLast? items least most).bind fun items =>
      readBranches? fuel flags names items branches (skipGreed rest)).map paired := by
  cases repeatLast? items least most with
  | none => exact carries_none
  | some items => exact skipGreed_carries.bind fun _ => further flags names items branches

end Branches

theorem readBranches?_carries (fuel : Nat) (names : List (List Char)) (items : List Item)
    (branches : List Part) :
    Carries fun text => (readBranches? fuel flags names items branches text).map paired := by
  induction fuel generalizing flags names items branches with
  | zero => exact carries_none
  | succ fuel ih =>
      have repeated := readRepeated?_carries flags names items branches ih
      refine .of_skipped_or_closed flags
        (fun text blank => by
          simp only [readBranches?, blank]
          rfl)
        (fun text rest blank => by
          simp only [readBranches?, blank]
          rfl)
        fun character within => ?_
      by_cases bar : character = '|'
      · subst bar
        exact ⟨_, ih flags names [] (joinItems items :: branches),
          fun text rest blank => by simp only [readBranches?, blank]⟩
      by_cases opens : character = '('
      · subst opens
        exact readGroup?_carries flags names items branches ih
      by_cases bracket : character = '['
      · subst bracket
        refine ⟨_, (bracket_carries flags).bind fun part => ih flags names
          (.piece ⟨.one part.members, part.nesting⟩ :: items) branches, fun text rest blank => ?_⟩
        simp only [readBranches?, blank]
        cases readBracket? flags (rest.length + 1) rest <;> rfl
      by_cases optional : character = '?'
      · subst optional
        exact ⟨_, repeated 0 (some 1), fun text rest blank => by simp only [readBranches?, blank]⟩
      by_cases star : character = '*'
      · subst star
        exact ⟨_, repeated 0 none, fun text rest blank => by simp only [readBranches?, blank]⟩
      by_cases plus : character = '+'
      · subst plus
        exact ⟨_, repeated 1 none, fun text rest blank => by simp only [readBranches?, blank]⟩
      by_cases bounds : character = '\x7b'
      · subst bounds
        refine ⟨_, (readBounds?_carries flags).bind fun found =>
          (repeated found.1 found.2).skipping flags, fun text rest blank => ?_⟩
        simp only [readBranches?, blank]
        rcases readBounds? flags rest with _ | ⟨least, most, rest⟩ <;> rfl
      refine ⟨_, ((readSimple?_carries flags).behind character).bind fun pattern =>
        ih flags names (.piece ⟨pattern, 0⟩ :: items) branches, fun text rest blank => ?_⟩
      simp only [readBranches?, blank, List.cons.injEq, within, bar, opens, bracket, optional, star,
        plus, bounds, false_and, imp_false, not_false_eq_true, implies_true]
      cases readSimple? flags (character :: rest) <;> rfl

theorem readBranches?_grows (fuel : Nat) (names : List (List Char)) (items : List Item)
    (branches : List Part) (text : List Char) :
    Refines (readBranches? fuel flags names items branches text)
      (readBranches? (fuel + 1) flags names items branches text) := by
  induction fuel generalizing flags names items branches text with
  | zero => exact refines_none _
  | succ fuel ih =>
      rw [readBranches?, readBranches?]
      split
      · exact .refl _
      · exact .refl _
      · exact ih _ _ _ _ _
      · split
        · exact .refl _
        · exact ih _ _ _ _ _
        · split
          · exact .refl _
          · intro result found
            split at found
            · rename_i inner
              rw [ih _ _ _ _ _ _ inner]
              exact ih _ _ _ _ _ _ found
            · cases found
      · split
        · exact .refl _
        · exact ih _ _ _ _ _
      · exact .bind (.refl _) fun items => ih _ _ _ _ _
      · exact .bind (.refl _) fun items => ih _ _ _ _ _
      · exact .bind (.refl _) fun items => ih _ _ _ _ _
      · split
        · exact .refl _
        · exact .bind (.refl _) fun items => ih _ _ _ _ _
      · split
        · exact .refl _
        · exact ih _ _ _ _ _

end Groups

end Pattern

end Verdict
