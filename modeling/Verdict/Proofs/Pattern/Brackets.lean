import Mathlib.Data.List.TakeWhile
import Verdict.Pattern.Bracket
import Verdict.Proofs.Pattern.Continuation

/-! Escapes and brackets read on behind a closing as they do alone. -/

set_option autoImplicit false

namespace Verdict

namespace Pattern

section Escapes

variable (flags : Flags)

theorem readHexDigits?_carries (count value : Nat) :
    Carries (readHexDigits? flags count value) := by
  induction count generalizing value with
  | zero => exact carries_some value
  | succ count ih =>
      refine .of_cons rfl fun character => ?_
      simp only [readHexDigits?]
      cases hexDigit? character with
      | none => exact carries_none
      | some digit => exact (ih (16 * value + digit)).skipping flags

theorem upToBrace?_carries (fuel : Nat) : Carries (upToBrace? flags fuel) := by
  induction fuel with
  | zero => exact carries_none
  | succ fuel ih =>
      refine .of_skipped flags (fun text blank => by simp only [upToBrace?, blank])
        fun character => ?_
      by_cases closes : character = '\x7d'
      · subst closes
        exact ⟨_, carries_some [], fun text rest blank => by simp only [upToBrace?, blank]⟩
      · refine ⟨_, ih.filterMap fun front => some (character :: front), fun text rest blank => ?_⟩
        simp only [upToBrace?, blank]
        cases upToBrace? flags fuel rest <;> rfl

theorem upToBrace?_grows (fuel : Nat) (text : List Char) :
    Refines (upToBrace? flags fuel text) (upToBrace? flags (fuel + 1) text) := by
  induction fuel generalizing text with
  | zero => exact refines_none _
  | succ fuel ih =>
      rw [upToBrace?, upToBrace?]
      split
      · exact .refl _
      · exact .refl _
      · exact (ih _).map _

theorem braced_carries : Carries fun text => upToBrace? flags (text.length + 1) text :=
  .fueled (upToBrace?_carries flags) (upToBrace?_grows flags) 1

theorem readCodePoint?_carries (digits : Nat) (isByte : Bool) :
    Carries (readCodePoint? flags (digits + 1) isByte) := by
  refine .of_skipped flags (fun text blank => by simp [readCodePoint?, blank, readHexDigits?])
    fun character => ?_
  by_cases opens : character = '\x7b'
  · subst opens
    refine ⟨_, (braced_carries flags).filterMap fun inner =>
      ((hexValue? inner).bind character?).map fun character => .literal character false,
      fun text rest blank => ?_⟩
    simp only [readCodePoint?, blank]
    rcases upToBrace? flags (rest.length + 1) rest with _ | ⟨inner, back⟩
    · rfl
    · cases value : hexValue? inner with
      | none => simp [value]
      | some code => cases found : character? code <;> simp [value, found]
  · refine ⟨_, ((readHexDigits?_carries flags (digits + 1) 0).behind character).filterMap
      fun code => (character? code).map fun character => .literal character isByte,
      fun text rest blank => ?_⟩
    simp only [readCodePoint?, blank, List.cons.injEq, opens, false_and, imp_false,
      not_false_eq_true, implies_true]
    rcases readHexDigits? flags (digits + 1) 0 (character :: rest) with _ | ⟨code, back⟩
    · rfl
    · cases found : character? code <;> simp [found]

theorem readProperty?_carries (negated : Bool) : Carries (readProperty? flags negated) := by
  refine .of_skipped flags (fun text blank => by simp only [readProperty?, blank])
    fun character => ?_
  by_cases opens : character = '\x7b'
  · subst opens
    refine ⟨_, (braced_carries flags).filterMap fun inner =>
      some (.property (.ofText inner) negated), fun text rest blank => ?_⟩
    simp only [readProperty?, blank]
    cases upToBrace? flags (rest.length + 1) rest <;> rfl
  · by_cases escapes : character = '\\'
    · subst escapes
      exact ⟨_, carries_none, fun text rest blank => by simp only [readProperty?, blank]⟩
    · exact ⟨_, carries_some (.property (.bare [character]) negated),
        fun text rest blank => by simp only [readProperty?, blank]⟩

theorem edgeLetters_carries (fuel : Nat) :
    Carries fun text => some (edgeLetters flags fuel text) := by
  induction fuel with
  | zero => exact carries_some []
  | succ fuel ih =>
      refine .of_cons_or_closed rfl (fun more => rfl) fun character => ?_
      simp only [edgeLetters]
      split
      · exact (ih.skipping flags).filterMap fun letters => some (character :: letters)
      · exact (carries_some []).behind character

theorem edgeLetters_settles (fuel : Nat) (text : List Char) (whole : text.length ≤ fuel) :
    edgeLetters flags (fuel + 1) text = edgeLetters flags fuel text := by
  refine @settles_of_skipping Unit _ (fun fuel _ => edgeLetters flags fuel) flags ?_ ?_ () fuel text
    whole
  · intro fuel _
    cases fuel <;> rfl
  · intro fuel _ character rest same
    rw [edgeLetters, edgeLetters, same ()]

def closedEdge? (letters : List Char) : List Char → Option (Escape × List Char)
  | '\x7d' :: rest =>
      (namedEdge? (String.ofList letters)).map fun edge => (Escape.word edge, rest)
  | _ => none

theorem closedEdge?_carries (letters : List Char) : Carries (closedEdge? letters) := by
  refine .of_cons rfl fun character => ?_
  by_cases brace : character = '\x7d'
  · subst brace
    simp only [closedEdge?]
    cases namedEdge? (String.ofList letters) with
    | none => exact carries_none
    | some edge => exact carries_some (Escape.word edge)
  · exact carries_none.of_eq fun rest => by simp [closedEdge?, brace]

theorem nameOfEdge_carries : Carries fun text =>
    match edgeLetters flags text.length text with
    | (letters, '\x7d' :: rest) =>
        (namedEdge? (String.ofList letters)).map fun edge => (Escape.word edge, rest)
    | _ => none := by
  refine ((Carries.settled (edgeLetters_carries flags) (edgeLetters_settles flags)).bind
    closedEdge?_carries).of_eq fun text => ?_
  rcases edgeLetters flags text.length text with ⟨letters, _ | ⟨character, rest⟩⟩
  · rfl
  · by_cases brace : character = '\x7d'
    · subst brace
      rfl
    · simp [closedEdge?, brace]

theorem readBoundary?_carries : Carries (readBoundary? flags) := by
  refine .of_cons_or_closed rfl (fun more => rfl) fun character => ?_
  by_cases opens : character = '\x7b'
  · subst opens
    intro rest next result remaining continued found
    obtain ⟨skipped, kept, same⟩ := continued.skipBlanks flags
    cases blank : skipBlanks flags rest with
    | nil => simp [readBoundary?, blank] at found
    | cons first others =>
        rw [blank] at kept
        by_cases letter : isEdgeLetter first = true
        · simp only [readBoundary?, blank, letter, if_true] at found
          obtain ⟨final, left, reads⟩ :=
            nameOfEdge_carries flags (first :: others) skipped result remaining kept found
          obtain ⟨further, -, rfl⟩ := kept.exists_cons
          refine ⟨final, left, fun tail closing => ?_⟩
          simp only [readBoundary?, same tail closing, letter, if_true]
          exact reads tail closing
        · simp only [readBoundary?, blank, letter] at found
          cases found
          obtain ⟨further, -, rfl⟩ := kept.exists_cons
          refine ⟨_, continued.cons, fun tail closing => ?_⟩
          simp [readBoundary?, same tail closing, letter]
  · refine ((carries_some (Escape.word .boundary)).behind character).of_eq fun rest => ?_
    simp only [readBoundary?, List.cons.injEq, opens, false_and, imp_false, not_false_eq_true,
      implies_true]

theorem readEscape?_carries : Carries (readEscape? flags) := by
  refine .of_cons rfl fun letter => ?_
  intro text next result rest continued found
  simp only [readEscape?] at found ⊢
  split at found
  case h_1 => exact readCodePoint?_carries flags 1 true _ next _ _ continued found
  case h_2 => exact readCodePoint?_carries flags 3 false _ next _ _ continued found
  case h_3 => exact readCodePoint?_carries flags 7 false _ next _ _ continued found
  case h_4 => exact readProperty?_carries flags false _ next _ _ continued found
  case h_5 => exact readProperty?_carries flags true _ next _ _ continued found
  case h_20 => exact readBoundary?_carries flags _ next _ _ continued found
  case h_24 =>
    split at found
    · rename_i escapable
      simp only [escapable, if_true]
      exact carries_some _ _ next _ _ continued found
    · cases found
  all_goals exact carries_some _ _ next _ _ continued found

end Escapes

section Brackets

variable (flags : Flags)

theorem dropWhile_append_closing (text : List Char) {tail : List Char} (closing : IsClosing tail) :
    (text ++ tail).dropWhile Text.isBlank = text.dropWhile Text.isBlank ++ tail := by
  obtain ⟨more, rfl⟩ := closing.parenthesis
  rw [List.dropWhile_append]
  split
  · rename_i none
    rw [List.isEmpty_iff.mp none]
    rfl
  · rfl

theorem blank_or_head?_dropWhile {text : List Char} {character : Char}
    (first : text.head? = some character) :
    Text.isBlank character = true ∨ (text.dropWhile Text.isBlank).head? = some character := by
  cases text with
  | nil => cases first
  | cons other rest =>
      obtain rfl : other = character := Option.some.inj first
      cases blank : Text.isBlank other with
      | true => exact .inl rfl
      | false => exact .inr (by simp [blank])

/-- A blank or the sign of a comment, shown where nothing else is left, does not end a range. -/
theorem not_stops_of_blank {text : List Char}
    (blank : ∀ character, text.head? = some character →
      Text.isBlank character = true ∨ character = '#') :
    ¬ (text.head? = some ']' ∨ text.head? = some '-') := by
  rintro (shown | shown)
  · exact absurd (blank ']' shown) (by decide)
  · exact absurd (blank '-' shown) (by decide)

theorem peekVerbose?_append (text : List Char) {tail : List Char} (closing : IsClosing tail) :
    (peekVerbose? (text ++ tail) = some ']' ∨ peekVerbose? (text ++ tail) = some '-') ↔
      (peekVerbose? text = some ']' ∨ peekVerbose? text = some '-') := by
  have split := dropWhile_append_closing text closing
  have first (character : Char) := @blank_or_head?_dropWhile text character
  have never : ¬ (some ')' = some ']' ∨ some ')' = some '-') := by decide
  cases blank : text.dropWhile Text.isBlank with
  | nil =>
      obtain ⟨more, rfl⟩ := closing.parenthesis
      rw [blank] at split first
      have here : peekVerbose? text = text.head? := by simp only [peekVerbose?, blank]
      have there : peekVerbose? (text ++ ')' :: more) = some ')' := by
        simp [peekVerbose?, split]
      rw [here, there]
      refine iff_of_false never (not_stops_of_blank fun character shown => ?_)
      exact .inl ((first character shown).resolve_right (by simp))
  | cons opening rest =>
      rw [blank] at split first
      by_cases comment : opening = '#'
      · subst comment
        have splitRest := dropWhile_append_closing rest closing
        cases within : rest.dropWhile Text.isBlank with
        | nil =>
            obtain ⟨more, rfl⟩ := closing.parenthesis
            rw [within] at splitRest
            have here : peekVerbose? text = text.head? := by
              simp only [peekVerbose?, blank, within]
            have there : peekVerbose? (text ++ ')' :: more) = some ')' := by
              simp [peekVerbose?, split, splitRest]
            rw [here, there]
            refine iff_of_false never (not_stops_of_blank fun character shown => ?_)
            exact (first character shown).imp_right fun sign => (Option.some.inj sign).symm
        | cons shown others =>
            rw [within] at splitRest
            simp [peekVerbose?, blank, within, split, splitRest]
      · simp [peekVerbose?, blank, split]

theorem Continued.peek?_stops {text : List Char} {next : List Char → List Char}
    (continued : Continued text next) {tail : List Char} (closing : IsClosing tail) :
    (peek? flags (next tail) = some ']' ∨ peek? flags (next tail) = some '-') ↔
      (peek? flags text = some ']' ∨ peek? flags text = some '-') := by
  cases continued with
  | absorbed => rfl
  | followed =>
      unfold peek?
      split
      · exact peekVerbose?_append text closing
      · obtain ⟨more, rfl⟩ := closing.parenthesis
        cases text with
        | nil => simp
        | cons => rfl

theorem readClassItem?_carries : Carries (readClassItem? flags) := by
  refine .of_cons rfl fun character => ?_
  by_cases escapes : character = '\\'
  · subst escapes
    exact readEscape?_carries flags
  · exact (carries_some (Escape.literal character false)).of_eq fun rest => by
      simp [readClassItem?]

theorem readRange?_carries : Carries (readRange? flags) := by
  intro text next result rest continued found
  obtain ⟨⟨first, middle⟩, item, found⟩ := Option.bind_eq_some_iff.mp found
  obtain ⟨further, onward, readsFirst⟩ :=
    readClassItem?_carries flags text next first middle continued item
  obtain ⟨skipped, kept, same⟩ := onward.skipBlanks flags
  cases blank : skipBlanks flags middle with
  | nil => simp [blank] at found
  | cons character behind =>
      rw [blank] at kept
      obtain ⟨inner, beyond, rfl⟩ := kept.exists_cons
      by_cases minus : character = '-'
      · subst minus
        simp only [blank, Bool.or_eq_true, decide_eq_true_eq] at found
        by_cases stops : peek? flags behind = some ']' ∨ peek? flags behind = some '-'
        · rw [if_pos stops] at found
          obtain ⟨members, known, found⟩ := Option.bind_eq_some_iff.mp found
          cases found
          refine ⟨_, beyond.cons, fun tail closing => ?_⟩
          have there := (beyond.peek?_stops flags closing).mpr stops
          simp [readRange?, readsFirst tail closing, same tail closing, there, known]
        · rw [if_neg stops] at found
          obtain ⟨⟨second, after⟩, bound, found⟩ := Option.bind_eq_some_iff.mp found
          obtain ⟨spaced, keptOn, sameThere⟩ := beyond.skipBlanks flags
          obtain ⟨final, left, readsSecond⟩ :=
            readClassItem?_carries flags _ spaced second after keptOn bound
          obtain ⟨low, lowKnown, found⟩ := Option.bind_eq_some_iff.mp found
          obtain ⟨high, highKnown, found⟩ := Option.bind_eq_some_iff.mp found
          split at found
          · rename_i ordered
            cases found
            refine ⟨final, left, fun tail closing => ?_⟩
            have there := mt (beyond.peek?_stops flags closing).mp stops
            simp [readRange?, readsFirst tail closing, same tail closing, there,
              sameThere tail closing, readsSecond tail closing, lowKnown, highKnown, ordered]
          · cases found
      · simp only [blank, List.cons.injEq, minus, false_and, imp_false, not_false_eq_true,
          implies_true] at found
        obtain ⟨members, known, found⟩ := Option.bind_eq_some_iff.mp found
        cases found
        refine ⟨_, beyond.cons, fun tail closing => ?_⟩
        simp [readRange?, readsFirst tail closing, same tail closing, minus, known]

/-- The name of a class ends at a colon, and a closing has none. -/
theorem nameOfClass_append (negated : Bool) (text : List Char) {tail : List Char}
    (closing : IsClosing tail) :
    (match (text ++ tail).dropWhile (· != ':') with
      | ':' :: ']' :: behind =>
          (asciiClass? (String.ofList ((text ++ tail).takeWhile (· != ':')))).map fun members =>
            (negated, members, behind)
      | _ => none) =
    (match text.dropWhile (· != ':') with
      | ':' :: ']' :: behind =>
          (asciiClass? (String.ofList (text.takeWhile (· != ':')))).map fun members =>
            (negated, members, behind)
      | _ => none).map fun (negated, members, rest) => (negated, members, rest ++ tail) := by
  have noColon : tail.dropWhile (· != ':') = [] := by
    rw [List.dropWhile_eq_nil_iff]
    intro character member
    exact bne_iff_ne.mpr fun colon => closing.noColon (colon ▸ member)
  obtain ⟨more, rfl⟩ := closing.parenthesis
  rw [List.dropWhile_append, List.takeWhile_append]
  cases found : text.dropWhile (· != ':') with
  | nil => simp [noColon]
  | cons first behind =>
      have cut : (text.takeWhile (· != ':')).length ≠ text.length := by
        have whole := congrArg List.length (@List.takeWhile_append_dropWhile _ (· != ':') text)
        rw [found, List.length_append, List.length_cons] at whole
        omega
      rw [if_neg cut]
      simp only [List.isEmpty_cons, Bool.false_eq_true, if_false, List.cons_append]
      by_cases colon : first = ':'
      · subst colon
        rcases behind with _ | ⟨second, others⟩
        · rfl
        · by_cases bracket : second = ']'
          · subst bracket
            simp only [List.cons_append, Option.map_map]
            rfl
          · simp [bracket]
      · simp [colon]

theorem readAsciiClass?_append (text : List Char) {tail : List Char} (closing : IsClosing tail) :
    readAsciiClass? (text ++ tail) =
      (readAsciiClass? text).map fun (negated, members, rest) =>
        (negated, members, rest ++ tail) := by
  cases text with
  | nil =>
      obtain ⟨more, rfl⟩ := closing.parenthesis
      rfl
  | cons character rest =>
      by_cases colon : character = ':'
      · subst colon
        cases rest with
        | nil =>
            have named := nameOfClass_append false [] closing
            obtain ⟨more, rfl⟩ := closing.parenthesis
            exact named
        | cons second others =>
            by_cases caret : second = '^'
            · subst caret
              exact nameOfClass_append true others closing
            · have named := nameOfClass_append false (second :: others) closing
              simp only [readAsciiClass?, List.cons_append, List.cons.injEq, caret, false_and,
                imp_false, not_false_eq_true, implies_true]
              exact named
      · simp [readAsciiClass?, colon]

theorem readLeadingMinus_carries (fuel : Nat) (state : BracketState) :
    Carries fun text => some (readLeadingMinus flags fuel state text) := by
  induction fuel generalizing state with
  | zero => exact carries_some state
  | succ fuel ih =>
      refine .of_cons_or_closed rfl (fun more => rfl) fun character => ?_
      by_cases minus : character = '-'
      · subst minus
        exact (ih (state.add ⟨.single '-', 0⟩)).skipping flags
      · exact ((carries_some state).behind character).of_eq fun rest => by
          simp [readLeadingMinus, minus]

theorem readLeadingMinus_settles (state : BracketState) (fuel : Nat) (text : List Char)
    (whole : text.length ≤ fuel) :
    readLeadingMinus flags (fuel + 1) state text = readLeadingMinus flags fuel state text := by
  refine settles_of_skipping flags ?_ ?_ state fuel text whole
  · intro fuel state
    cases fuel <;> rfl
  · intro fuel state character rest same
    by_cases minus : character = '-'
    · subst minus
      rw [readLeadingMinus, readLeadingMinus, same]
    · simp [readLeadingMinus, minus]

/-- What opens a bracket, behind its negation. -/
def frontOfBracket (negated : Bool) (text : List Char) :
    Option ((Bool × BracketState) × List Char) :=
  match readLeadingMinus flags text.length ⟨none, []⟩ text with
  | (⟨none, []⟩, ']' :: rest) =>
      some ((negated, ⟨none, [⟨.single ']', 0⟩]⟩), skipBlanks flags rest)
  | (state, text) => some ((negated, state), text)

theorem frontOfBracket_carries (negated : Bool) : Carries (frontOfBracket flags negated) := by
  have closes (state : BracketState) : Carries fun text =>
      match (state, text) with
      | (⟨none, []⟩, ']' :: rest) =>
          some ((negated, (⟨none, [⟨.single ']', 0⟩]⟩ : BracketState)), skipBlanks flags rest)
      | (state, text) => some ((negated, state), text) := by
    rcases state with ⟨_ | waiting, _ | ⟨part, parts⟩⟩
    · refine .of_cons_or_closed rfl (fun more => rfl) fun character => ?_
      by_cases bracket : character = ']'
      · subst bracket
        exact (carries_some _).skipping flags
      · exact ((carries_some (negated, ⟨none, []⟩)).behind character).of_eq fun rest => by
          simp [bracket]
    · exact carries_some (negated, _)
    · exact carries_some (negated, _)
    · exact carries_some (negated, _)
  refine ((Carries.settled (fun fuel => readLeadingMinus_carries flags fuel ⟨none, []⟩)
    (readLeadingMinus_settles flags ⟨none, []⟩)).bind closes).of_eq fun text => ?_
  rfl

/-- What opens a bracket, with its negation. -/
def wholeFrontOfBracket : List Char → Option ((Bool × BracketState) × List Char)
  | '^' :: rest => frontOfBracket flags true (skipBlanks flags rest)
  | text => frontOfBracket flags false text

theorem openBracket_carries : Carries fun text =>
    some (((openBracket flags text).1, (openBracket flags text).2.1),
      (openBracket flags text).2.2) := by
  have opened : Carries (wholeFrontOfBracket flags) := by
    intro text
    cases text with
    | nil =>
        refine (frontOfBracket_carries flags false []).congr rfl fun tail closing => ?_
        obtain ⟨more, rfl⟩ := closing.parenthesis
        rfl
    | cons character rest =>
        refine .cons ?_
        by_cases caret : character = '^'
        · subst caret
          exact (frontOfBracket_carries flags true).skipping flags rest
        · exact ((frontOfBracket_carries flags false).behind character).of_eq
            (fun rest => by simp [wholeFrontOfBracket, caret]) rest
  refine (opened.skipping flags).of_eq fun text => ?_
  unfold openBracket wholeFrontOfBracket frontOfBracket
  generalize skipBlanks flags text = text
  split <;> split <;> simp_all

theorem readAsciiClass?_carries : Carries fun text => (readAsciiClass? text).map paired := by
  intro text next result rest continued found
  obtain ⟨⟨negated, members, back⟩, named, same⟩ := Option.map_eq_some_iff.mp found
  cases same
  cases continued with
  | absorbed => exact ⟨_, .absorbed _, fun _ _ => found⟩
  | followed =>
      refine ⟨_, .followed _, fun tail closing => ?_⟩
      dsimp only
      rw [readAsciiClass?_append text closing, named]
      rfl

/-- A mark that is doubled is read in one way, and a single one in another. -/
theorem Carries.doubled {α : Type} {twice once : List Char → Option (α × List Char)} {mark : Char}
    (apart : mark ≠ ')') (readsTwice : Carries twice) (readsOnce : Carries once) :
    Carries fun rest => if rest.head? = some mark then twice rest.tail else once rest := by
  intro text
  cases text with
  | nil =>
      refine (readsOnce []).congr rfl fun tail closing => ?_
      obtain ⟨more, rfl⟩ := closing.parenthesis
      exact if_neg fun same => apart (Option.some.inj same).symm
  | cons character rest =>
      refine .cons ?_
      by_cases same : character = mark
      · exact readsTwice.of_eq (fun rest => by simp [same]) rest
      · exact (readsOnce.behind character).of_eq (fun rest => by simp [same]) rest

theorem Carries.of_doubled {α : Type} {read twice once : List Char → Option (α × List Char)}
    {mark : Char} (apart : mark ≠ ')') (readsTwice : Carries twice) (readsOnce : Carries once)
    (doubled : ∀ text rest, skipBlanks flags text = mark :: mark :: rest → read text = twice rest)
    (single : ∀ text rest, skipBlanks flags text = mark :: rest → rest.head? ≠ some mark →
      read text = once rest) :
    ∃ behind, Carries behind ∧
      ∀ text rest, skipBlanks flags text = mark :: rest → read text = behind rest := by
  refine ⟨_, readsTwice.doubled apart readsOnce, fun text rest blank => ?_⟩
  split
  · rename_i same
    obtain ⟨others, rfl⟩ := List.head?_eq_some_iff.mp same
    exact doubled text others blank
  · rename_i differs
    exact single text rest blank differs

section Parts

variable {fuel : Nat} (parts : ∀ state, Carries (readBracketParts? flags fuel state))

include parts

theorem readBracket?_carries_of_parts : Carries (readBracket? flags (fuel + 1)) := by
  have closed (front : Bool × BracketState) := (parts front.2).filterMap fun inner =>
    (negateClass? flags front.1 (foldClass flags inner.members)).map fun members =>
      (⟨members, inner.nesting + 1⟩ : ClassPart)
  refine ((openBracket_carries flags).bind closed).of_eq fun text => ?_
  rw [readBracket?]
  rcases openBracket flags text with ⟨negated, state, rest⟩
  dsimp only [Option.bind_some]
  rcases readBracketParts? flags fuel state rest with _ | ⟨inner, back⟩
  · rfl
  · cases negated : negateClass? flags negated (foldClass flags inner.members) <;> simp [negated]

/-- Behind an opening bracket stands a named class or a further bracket. -/
theorem readNested?_carries (bracket : Carries (readBracket? flags fuel)) (state : BracketState) :
    Carries fun rest =>
      match readAsciiClass? rest with
      | some (negated, members, rest) =>
          (negateClass? flags negated (foldClass flags members)).bind fun members =>
            readBracketParts? flags fuel (state.add ⟨members, 0⟩) rest
      | none => (readBracket? flags fuel rest).bind fun found =>
          readBracketParts? flags fuel (state.add found.1) found.2 := by
  have named (found : Bool × Text.CharacterClass) : Carries fun rest =>
      (negateClass? flags found.1 (foldClass flags found.2)).bind fun members =>
        readBracketParts? flags fuel (state.add ⟨members, 0⟩) rest := by
    cases negateClass? flags found.1 (foldClass flags found.2) with
    | none => exact carries_none
    | some members => exact parts (state.add ⟨members, 0⟩)
  intro rest
  cases asNamed : readAsciiClass? rest with
  | none =>
      refine ((bracket.bind fun inner => parts (state.add inner)) rest).congr
        (by simp only [asNamed]) fun tail closing => ?_
      simp only [readAsciiClass?_append rest closing, asNamed, Option.map_none]
  | some found =>
      refine ((readAsciiClass?_carries.bind named) rest).congr
        (by simp [asNamed, paired]) fun tail closing => ?_
      simp [readAsciiClass?_append rest closing, asNamed, paired]

theorem readBracketParts?_carries_of_parts (bracket : Carries (readBracket? flags fuel))
    (state : BracketState) : Carries (readBracketParts? flags (fuel + 1) state) := by
  refine .of_skipped flags (fun text blank => by simp only [readBracketParts?, blank])
    fun character => ?_
  have range : Carries fun text =>
      (readRange? flags text).bind fun found =>
        readBracketParts? flags fuel (state.add ⟨found.1, 0⟩) found.2 :=
    (readRange?_carries flags).bind fun members => parts (state.add ⟨members, 0⟩)
  by_cases closes : character = ']'
  · subst closes
    exact ⟨_, carries_some (state.result flags),
      fun text rest blank => by simp only [readBracketParts?, blank]⟩
  by_cases opens : character = '['
  · subst opens
    refine ⟨_, readNested?_carries flags parts bracket state, fun text rest blank => ?_⟩
    simp only [readBracketParts?, blank]
    rfl
  by_cases joins : character = '&'
  · subst joins
    refine Carries.of_doubled flags (by decide) (parts (state.wait flags .intersection))
      (range.behind '&') (fun text rest blank => by simp only [readBracketParts?, blank])
      fun text rest blank single => ?_
    cases rest <;> simp_all [readBracketParts?]
  by_cases removes : character = '-'
  · subst removes
    refine Carries.of_doubled flags (by decide) (parts (state.wait flags .difference))
      (range.behind '-') (fun text rest blank => by simp only [readBracketParts?, blank])
      fun text rest blank single => ?_
    cases rest <;> simp_all [readBracketParts?]
  by_cases differs : character = '~'
  · subst differs
    refine Carries.of_doubled flags (by decide) (parts (state.wait flags .symmetricDifference))
      (range.behind '~') (fun text rest blank => by simp only [readBracketParts?, blank])
      fun text rest blank single => ?_
    cases rest <;> simp_all [readBracketParts?]
  refine ⟨_, range.behind character, fun text rest blank => ?_⟩
  simp [readBracketParts?, blank, closes, opens, joins, removes, differs]

end Parts

theorem readBracket?_carries_and (fuel : Nat) :
    Carries (readBracket? flags fuel) ∧ ∀ state, Carries (readBracketParts? flags fuel state) := by
  induction fuel with
  | zero => exact ⟨carries_none, fun state => carries_none⟩
  | succ fuel ih =>
      obtain ⟨bracket, parts⟩ := ih
      exact ⟨readBracket?_carries_of_parts flags parts,
        readBracketParts?_carries_of_parts flags parts bracket⟩

theorem readBracket?_grows_and (fuel : Nat) :
    (∀ text, Refines (readBracket? flags fuel text) (readBracket? flags (fuel + 1) text)) ∧
      ∀ state text, Refines (readBracketParts? flags fuel state text)
        (readBracketParts? flags (fuel + 1) state text) := by
  induction fuel with
  | zero => exact ⟨fun _ => refines_none _, fun _ _ => refines_none _⟩
  | succ fuel ih =>
      obtain ⟨bracket, parts⟩ := ih
      constructor
      · intro text
        rw [readBracket?, readBracket?]
        exact .bind (parts _ _) fun found => .refl _
      · intro state text
        rw [readBracketParts?, readBracketParts?]
        split
        · exact .refl _
        · exact .refl _
        · split
          · exact .bind (.refl _) fun members => parts _ _
          · exact .bind (bracket _) fun found => parts _ _
        · exact parts _ _
        · exact parts _ _
        · exact parts _ _
        · exact .bind (.refl _) fun found => parts _ _

theorem bracket_carries : Carries fun text => readBracket? flags (text.length + 1) text :=
  .fueled (fun fuel => (readBracket?_carries_and flags fuel).1)
    (fun fuel => (readBracket?_grows_and flags fuel).1) 1

end Brackets

end Pattern

end Verdict
