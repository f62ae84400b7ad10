import Mathlib.Data.List.Forall2
import Verdict.Proofs.Token.Lookahead

/-! Where the tokens of a text stand. They cover the text but for separators, each of them is told by
its own word, and a text that is refused is refused at the first place that no token begins with. -/

set_option autoImplicit false

namespace Verdict

/-- The bytes of the text that the span covers are those of the word. -/
def Spanned.Covers (spanned : Spanned) (text word : List Char) : Prop :=
  ∃ before behind, text = before ++ (word ++ behind) ∧ spanned.start = byteSize before ∧
    spanned.stop = spanned.start + byteSize word

namespace Token

/-- A text of separators. -/
def Blank (text : List Char) : Prop := ∀ character ∈ text, isSeparator character = true

/-- The word is scanned as the token when the rest is behind it, or a text that ends sooner than the
rest or parts from it at a separator. -/
structure ScansAs (word rest : List Char) (token : Token) : Prop where
  nonempty : word ≠ []
  scans : ∀ other, GoesOnAs isSolid other rest → scan (word ++ other) = .ok (token, byteSize word, other)

/-- How the tokens of a text that begins at an offset lie in it, each on its word. -/
inductive Laid : Nat → List Char → List (List Char) → List Spanned → Prop where
  | blank {offset : Nat} {blanks : List Char} : Blank blanks → Laid offset blanks [] []
  | word {offset start : Nat} {blanks word rest : List Char} {words : List (List Char)}
      {token : Token} {tokens : List Spanned} :
      Blank blanks → ScansAs word rest token → start = offset + byteSize blanks →
      Laid (start + byteSize word) rest words tokens →
      Laid offset (blanks ++ (word ++ rest)) (word :: words)
        (⟨token, start, start + byteSize word⟩ :: tokens)

/-- The words in their order, with separators around them and at least one between two of them. -/
inductive Spaced : List (List Char) → List Char → Prop where
  | blank {blanks : List Char} : Blank blanks → Spaced [] blanks
  | word {blanks word rest : List Char} {words : List (List Char)} :
      Blank blanks → (∀ character ∈ rest.head?, isSeparator character = true) →
      Spaced words rest → Spaced (word :: words) (blanks ++ (word ++ rest))

variable {text rest word : List Char} {words : List (List Char)} {token : Token}
  {tokens : List Spanned} {offset : Nat}

theorem ScansAs.congr {other : List Char} (scans : ScansAs word rest token)
    (goesOn : GoesOnAs isSolid other rest) : ScansAs word other token :=
  ⟨scans.nonempty, fun last further => scans.scans last (further.trans goesOn)⟩

theorem scansAs_of_scan {size : Nat} (scans : scan text = .ok (token, size, rest)) :
    ∃ word, text = word ++ rest ∧ size = byteSize word ∧ ScansAs word rest token := by
  obtain ⟨word, nonempty, split, sized, again⟩ := scan_goesOn scans
  refine ⟨word, split, sized, nonempty, ?_⟩
  intro other goesOn
  rw [← sized]
  exact again other goesOn

/-! ## Blanks -/

theorem Blank.nil : Blank [] := by simp [Blank]

theorem Blank.byteSize_eq {blanks : List Char} (blank : Blank blanks) :
    byteSize blanks = blanks.length := by
  induction blanks with
  | nil => rfl
  | cons first behind ih =>
      obtain ⟨separates, further⟩ := List.forall_mem_cons.mp blank
      have single : first.utf8Size = 1 := by
        simp only [isSeparator, Bool.or_eq_true, decide_eq_true_eq] at separates
        rcases separates with ((rfl | rfl) | rfl) | rfl <;> decide
      rw [byteSize, single, ih further, List.length_cons, Nat.add_comm]

theorem blank_takeWhile (text : List Char) : Blank (text.takeWhile isSeparator) :=
  fun _ member => List.mem_takeWhile_imp member

theorem ScansAs.not_separator (scans : ScansAs word rest token) :
    ∀ character ∈ (word ++ rest).head?, isSeparator character = false := by
  obtain ⟨nonempty, again⟩ := scans
  obtain ⟨first, behind, rfl⟩ := List.exists_cons_of_ne_nil nonempty
  intro character head
  obtain rfl : first = character := by simpa using head
  exact isSeparator_eq_false_of_scan (again rest (.refl rest))

/-! ## Texts that are accepted -/

theorem scanAll_eq {fuel : Nat} :
    scanAll fuel offset text =
      match text.dropWhile isSeparator with
      | [] => .ok []
      | first :: behind =>
          match scan (first :: behind) with
          | .error (fault, distance) =>
              .error ⟨fault, offset + byteSize (text.takeWhile isSeparator) + distance⟩
          | .ok (token, size, rest) =>
              match fuel with
              | 0 => .error
                  ⟨.unexpectedCharacter first, offset + byteSize (text.takeWhile isSeparator)⟩
              | fuel + 1 =>
                  (scanAll fuel (offset + byteSize (text.takeWhile isSeparator) + size) rest).map
                    fun tokens => ⟨token, offset + byteSize (text.takeWhile isSeparator),
                      offset + byteSize (text.takeWhile isSeparator) + size⟩ :: tokens := by
  rw [(blank_takeWhile text).byteSize_eq]
  exact scanAll.eq_def fuel offset text

theorem Laid.scanAll {fuel : Nat} (laid : Laid offset text words tokens)
    (enough : text.length ≤ fuel) : scanAll fuel offset text = .ok tokens := by
  induction laid generalizing fuel with
  | blank blank =>
      have exhausted := List.dropWhile_eq_nil_iff.mpr blank
      rw [scanAll_eq, exhausted]
  | @word offset start blanks word rest words token tokens blank scans begins laid ih =>
      have taken := Text.takeWhile_append blank scans.not_separator
      have left := Text.dropWhile_append blank scans.not_separator
      obtain ⟨nonempty, again⟩ := scans
      have scanned := again rest (.refl rest)
      obtain ⟨first, behind, rfl⟩ := List.exists_cons_of_ne_nil nonempty
      simp only [List.length_append, List.length_cons] at enough
      obtain ⟨less, rfl⟩ : ∃ less, fuel = less + 1 := ⟨fuel - 1, by omega⟩
      have further := @ih less (by omega)
      rw [List.cons_append] at scanned left taken
      rw [scanAll_eq, List.cons_append, left, taken, ← begins]
      simp only [scanned, further, Except.map]

theorem laid_of_scanAll (fuel : Nat) (scans : scanAll fuel offset text = .ok tokens) :
    ∃ words, Laid offset text words tokens := by
  induction fuel generalizing offset text tokens with
  | zero =>
      rw [scanAll_eq] at scans
      split at scans
      · rename_i none
        cases scans
        exact ⟨[], .blank (List.dropWhile_eq_nil_iff.mp none)⟩
      · split at scans <;> cases scans
  | succ fuel ih =>
      rw [scanAll_eq] at scans
      split at scans
      · rename_i none
        cases scans
        exact ⟨[], .blank (List.dropWhile_eq_nil_iff.mp none)⟩
      · rename_i first behind left
        split at scans
        · cases scans
        · rename_i token size rest scanned
          obtain ⟨word, split, rfl, scansAs⟩ := scansAs_of_scan scanned
          obtain ⟨others, further, rfl⟩ := map_eq_ok scans
          obtain ⟨words, laid⟩ := ih further
          have whole : text.takeWhile isSeparator ++ (word ++ rest) = text := by
            rw [← split, ← left, List.takeWhile_append_dropWhile]
          have placed := Laid.word (blank_takeWhile text) scansAs rfl laid
          rw [whole] at placed
          exact ⟨word :: words, placed⟩

theorem tokenize_eq_ok_iff {text : String} :
    tokenize text = .ok tokens ↔ ∃ words, Laid 0 text.toList words tokens := by
  constructor
  · exact laid_of_scanAll text.toList.length
  · intro laid
    obtain ⟨words, laid⟩ := laid
    exact laid.scanAll (Nat.le_refl _)

theorem ScansAs.laid_alone (scans : ScansAs word rest token) :
    Laid 0 word [word] [⟨token, 0, byteSize word⟩] := by
  have alone : ScansAs word [] token := scans.congr (goesOn_of_separated (by simp))
  simpa [byteSize] using @Laid.word 0 0 _ _ _ _ _ _ .nil alone rfl (.blank .nil)

theorem Laid.covers (laid : Laid offset text words tokens) {before : List Char}
    (begins : offset = byteSize before) :
    List.Forall₂ (Spanned.Covers · (before ++ text)) tokens words := by
  induction laid generalizing before with
  | blank blank => exact .nil
  | @word offset start blanks word rest words token tokens blank scans starts laid ih =>
      subst begins
      rw [← byteSize_append] at starts
      have further := @ih (before ++ blanks ++ word) (by rw [byteSize_append, starts])
      refine .cons ⟨before ++ blanks, rest, by simp, starts, rfl⟩ ?_
      simpa using further

theorem Laid.alone (laid : Laid offset text words tokens) :
    List.Forall₂ (fun spanned word => tokenize (String.ofList word) =
      .ok [⟨spanned.token, 0, byteSize word⟩]) tokens words := by
  induction laid with
  | blank blank => exact .nil
  | @word offset start blanks word rest words token tokens blank scans starts laid ih =>
      refine .cons (tokenize_eq_ok_iff.mpr ⟨[word], ?_⟩) ih
      simpa using scans.laid_alone

theorem Laid.behind_offset (laid : Laid offset text words tokens) :
    ∀ spanned ∈ tokens, offset ≤ spanned.start := by
  induction laid with
  | blank blank => simp
  | @word offset start blanks word rest words token tokens blank scans starts laid ih =>
      intro spanned member
      rcases List.mem_cons.mp member with rfl | further
      · simp [starts]
      · have behind := ih spanned further
        omega

theorem Laid.ordered (laid : Laid offset text words tokens) :
    tokens.Pairwise (fun left right => left.stop ≤ right.start) := by
  induction laid with
  | blank blank => exact .nil
  | word blank scans starts laid ih => exact .cons laid.behind_offset ih

theorem Laid.nonempty (laid : Laid offset text words tokens) :
    ∀ spanned ∈ tokens, spanned.start < spanned.stop := by
  induction laid with
  | blank blank => simp
  | word blank scans starts laid ih =>
      intro spanned member
      rcases List.mem_cons.mp member with rfl | further
      · exact Nat.lt_add_of_pos_right (byteSize_pos scans.nonempty)
      · exact ih spanned further

/-- A character of two texts put together is in the first one or behind it. -/
private theorem within_or_beyond {left right before behind : List Char} {character : Char}
    (split : left ++ right = before ++ character :: behind) :
    (∃ inside, left = before ++ character :: inside) ∨
      ∃ inside, before = left ++ inside ∧ right = inside ++ character :: behind := by
  rcases List.append_eq_append_iff.mp split with ⟨inside, rfl, rest⟩ | ⟨inside, rfl, rest⟩
  · exact .inr ⟨inside, rfl, rest⟩
  · cases inside with
    | nil => exact .inr ⟨[], by simp, by simpa using rest.symm⟩
    | cons first others =>
        obtain ⟨rfl, rfl⟩ := List.cons.inj rest
        exact .inl ⟨others, rfl⟩

theorem Laid.gaps (laid : Laid offset text words tokens) {before behind : List Char}
    {character : Char} (split : text = before ++ character :: behind)
    (unseparated : isSeparator character = false) :
    ∃ spanned ∈ tokens, spanned.start ≤ offset + byteSize before ∧
      offset + byteSize before < spanned.stop := by
  induction laid generalizing before with
  | blank blank =>
      subst split
      have separates := blank character (by simp)
      rw [unseparated] at separates
      cases separates
  | @word offset start blanks word rest words token tokens blank scans starts laid ih =>
      rcases within_or_beyond split with ⟨inside, within⟩ | ⟨inside, rfl, tail⟩
      · have separates := blank character (by simp [within])
        rw [unseparated] at separates
        cases separates
      rcases within_or_beyond tail with ⟨inner, rfl⟩ | ⟨further, rfl, last⟩
      · refine ⟨_, List.mem_cons_self, ?_, ?_⟩
        · simp only [byteSize_append]
          omega
        · simp only [byteSize_append, byteSize]
          have positive := character.utf8Size_pos
          omega
      · obtain ⟨spanned, member, begins, ends⟩ := ih last
        refine ⟨spanned, List.mem_cons_of_mem _ member, ?_, ?_⟩
        · simp only [byteSize_append]
          omega
        · simp only [byteSize_append]
          omega

theorem Laid.respaced (laid : Laid offset text words tokens) {other : List Char}
    (spaced : Spaced words other) (behind : Nat) :
    ∃ others, Laid behind other words others ∧
      others.map Spanned.token = tokens.map Spanned.token := by
  induction laid generalizing other behind with
  | blank blank =>
      cases spaced with
      | blank blank => exact ⟨[], .blank blank, rfl⟩
  | @word offset start blanks word rest words token tokens blank scans starts laid ih =>
      cases spaced with
      | @word blanks word other words blank separated spaced =>
          obtain ⟨others, placed, same⟩ :=
            ih spaced (behind + byteSize blanks + byteSize word)
          have apart := scans.congr (goesOn_of_separated separated)
          exact ⟨_, .word blank apart rfl placed, by simp [same]⟩

/-! ## Texts that are refused -/

/-- What may stand behind the opening quote of a string that does not end yet. -/
inductive OpenString (quote : Char) : List Char → Prop where
  | nil : OpenString quote []
  | plain {character : Char} {behind : List Char} : character ≠ quote → character ≠ '\\' →
      OpenString quote behind → OpenString quote (character :: behind)
  | escaped {letter meant : Char} {behind : List Char} : unescape? letter = some meant →
      OpenString quote behind → OpenString quote ('\\' :: letter :: behind)

/-- What stands in front of a text at which a fault is found, and the bytes up to it. -/
inductive FaultAt : List Char → Fault → Nat → Prop where
  | unexpectedCharacter {character : Char} {behind : List Char} :
      FaultAt (character :: behind) (.unexpectedCharacter character) 0
  | unclosedString {quote : Char} {behind : List Char} : quote = '\'' ∨ quote = '"' →
      FaultAt (quote :: behind) .unclosedString 0
  | invalidNumber {literal behind : List Char} : literal ≠ [] →
      FaultAt (literal ++ behind) (.invalidNumber (String.ofList literal)) 0
  | invalidEscape {quote letter : Char} {inside behind : List Char} : quote = '\'' ∨ quote = '"' →
      OpenString quote inside → unescape? letter = none →
      FaultAt (quote :: (inside ++ '\\' :: letter :: behind)) (.invalidEscape letter)
        (byteSize (quote :: inside))

theorem StringScan.prepend_eq_invalidEscape_iff {character letter : Char} {bytes distance : Nat}
    {scan : StringScan} :
    scan.prepend character bytes = .invalidEscape letter distance ↔
      ∃ left, scan = .invalidEscape letter left ∧ bytes + left = distance := by
  cases scan <;> simp [prepend, and_comm]

theorem StringScan.openString_of_read {quote letter : Char} {distance : Nat}
    (invalid : read quote text = .invalidEscape letter distance) :
    ∃ inside behind, text = inside ++ '\\' :: letter :: behind ∧ OpenString quote inside ∧
      unescape? letter = none ∧ distance = byteSize inside := by
  fun_induction StringScan.read quote text generalizing distance with
  | case1 => cases invalid
  | case2 => cases invalid
  | case3 => cases invalid
  | case4 other behind unknown =>
      cases invalid
      exact ⟨[], behind, rfl, .nil, unknown, rfl⟩
  | case5 other behind meant known notQuote ih =>
      obtain ⟨left, read, rfl⟩ := prepend_eq_invalidEscape_iff.mp invalid
      obtain ⟨inside, further, rfl, opened, unknown, rfl⟩ := ih read
      exact ⟨'\\' :: other :: inside, further, rfl, .escaped known opened, unknown,
        by simp only [byteSize, Nat.add_assoc]⟩
  | case6 character behind notQuote notBackslash ih =>
      obtain ⟨left, read, rfl⟩ := prepend_eq_invalidEscape_iff.mp invalid
      obtain ⟨inside, further, rfl, opened, unknown, rfl⟩ := ih read
      exact ⟨character :: inside, further, rfl, .plain notQuote notBackslash opened, unknown, rfl⟩

theorem faultAt_of_scan {fault : Fault} {distance : Nat} (nonempty : text ≠ [])
    (refused : scan text = .error (fault, distance)) : FaultAt text fault distance := by
  unfold scan at refused
  split at refused
  · rename_i numeral behind scanned
    simp only at refused
    split at refused
    · cases refused
    · cases refused
      obtain ⟨someText, split, -⟩ := Numeral.scan_goesOn scanned
      rw [split]
      exact .invalidNumber someText
  · split at refused
    · exact absurd rfl nonempty
    · rename_i first behind _
      split at refused
      · rename_i quotes
        have quotes : first = '\'' ∨ first = '"' := by simpa using quotes
        split at refused
        · cases refused
        · rename_i letter left invalid
          cases refused
          obtain ⟨inside, further, rfl, opened, unknown, rfl⟩ :=
            StringScan.openString_of_read invalid
          exact .invalidEscape quotes opened unknown
        · cases refused
          exact .unclosedString quotes
      · split at refused
        · cases refused
        · split at refused
          · cases refused
          · cases refused
            exact .unexpectedCharacter

private theorem map_eq_error {ε α β : Type} {computation : Except ε α} {change : α → β} {error : ε}
    (mapped : computation.map change = .error error) : computation = .error error := by
  cases computation with
  | error found => exact congrArg Except.error (Except.error.inj mapped)
  | ok value => cases mapped

theorem faultAt_of_scanAll (fuel : Nat) {error : ParseError} (enough : text.length ≤ fuel)
    (refused : scanAll fuel offset text = .error error) :
    ∃ before behind words tokens distance, text = before ++ behind ∧
      Laid offset before words tokens ∧ FaultAt behind error.fault distance ∧
      error.position = offset + byteSize before + distance := by
  induction fuel generalizing offset text with
  | zero =>
      obtain rfl := List.length_eq_zero_iff.mp (Nat.le_zero.mp enough)
      cases refused
  | succ fuel ih =>
      rw [scanAll_eq] at refused
      split at refused
      · cases refused
      · rename_i first behind left
        have whole := List.takeWhile_append_dropWhile (p := isSeparator) (l := text)
        rw [left] at whole
        split at refused
        · rename_i fault distance faulty
          cases refused
          exact ⟨_, _, [], [], distance, whole.symm, .blank (blank_takeWhile text),
            faultAt_of_scan (List.cons_ne_nil _ _) faulty, rfl⟩
        · rename_i token size rest scanned
          obtain ⟨word, split, rfl, scans⟩ := scansAs_of_scan scanned
          rw [split] at whole
          have positive := List.length_pos_iff.mpr scans.nonempty
          have lengths := congrArg List.length whole
          simp only [List.length_append] at lengths
          obtain ⟨before, behind, words, tokens, distance, rfl, laid, fault, position⟩ :=
            ih (by omega) (map_eq_error refused)
          -- the token is scanned as well where the text ends in front of the fault
          have apart := scans.congr (.of_isPrefix (List.prefix_append before behind))
          refine ⟨_, behind, _, _, distance, ?_,
            .word (blank_takeWhile text) apart rfl laid, fault, ?_⟩
          · conv_lhs => rw [← whole]
            simp only [List.append_assoc]
          · rw [position]
            simp only [byteSize_append]
            omega

end Token

/-- The tokens of a text cover it but for separators, and no token depends on more than its word: the
words may be written alone or with other separators. A text is refused where the tokens of the text
before that place end, in a string that begins there when an escape is unknown. -/
theorem tokenize_covers (text : String) :
    (∀ tokens, tokenize text = .ok tokens →
      tokens.Pairwise (fun left right => left.stop ≤ right.start) ∧
      (∀ spanned ∈ tokens, spanned.start < spanned.stop) ∧
      (∀ before character behind, text.toList = before ++ character :: behind →
        Token.isSeparator character = false →
        ∃ spanned ∈ tokens, spanned.start ≤ byteSize before ∧ byteSize before < spanned.stop) ∧
      ∃ words,
        List.Forall₂ (Spanned.Covers · text.toList) tokens words ∧
        List.Forall₂ (fun spanned word => tokenize (String.ofList word) =
          .ok [⟨spanned.token, 0, byteSize word⟩]) tokens words ∧
        ∀ other : String, Token.Spaced words other.toList → ∃ others, tokenize other = .ok others ∧
          others.map Spanned.token = tokens.map Spanned.token) ∧
    ∀ error, tokenize text = .error error →
      ∃ before behind distance tokens, text.toList = before ++ behind ∧
        tokenize (String.ofList before) = .ok tokens ∧
        Token.FaultAt behind error.fault distance ∧ error.position = byteSize before + distance := by
  refine ⟨?_, ?_⟩
  · intro tokens accepted
    obtain ⟨words, laid⟩ := Token.tokenize_eq_ok_iff.mp accepted
    refine ⟨laid.ordered, laid.nonempty, ?_, words, ?_, laid.alone, ?_⟩
    · intro before character behind split unseparated
      simpa using laid.gaps split unseparated
    · exact @Token.Laid.covers _ _ _ _ laid [] rfl
    · intro other spaced
      obtain ⟨others, placed, same⟩ := laid.respaced spaced 0
      exact ⟨others, Token.tokenize_eq_ok_iff.mpr ⟨words, placed⟩, same⟩
  · intro error refused
    obtain ⟨before, behind, words, tokens, distance, split, laid, fault, position⟩ :=
      Token.faultAt_of_scanAll text.toList.length (Nat.le_refl _) refused
    refine ⟨before, behind, distance, tokens, split, ?_, fault, by simpa using position⟩
    exact Token.tokenize_eq_ok_iff.mpr ⟨words, by simpa using laid⟩

theorem covers_abandoned_exponent :
    (∃ tokens words, tokenize "2e" = .ok tokens ∧ tokens.length = 2 ∧
      List.Forall₂ (Spanned.Covers · "2e".toList) tokens words ∧
      ∀ other : String, Token.Spaced words other.toList → ∃ others, tokenize other = .ok others ∧
        others.map Spanned.token = tokens.map Spanned.token) ∧
    ∃ before behind distance tokens, "a '\\q'".toList = before ++ behind ∧
      tokenize (String.ofList before) = .ok tokens ∧
      Token.FaultAt behind (.invalidEscape 'q') distance ∧ 3 = byteSize before + distance := by
  have accepted : tokenize "2e" =
      .ok [⟨.number (.ofNat 2), 0, 1⟩, ⟨.identifier "e", 1, 2⟩] := by decide +kernel
  have refused : tokenize "a '\\q'" = .error ⟨.invalidEscape 'q', 3⟩ := by decide +kernel
  obtain ⟨-, -, -, words, covers, -, respaced⟩ := (tokenize_covers "2e").1 _ accepted
  exact ⟨⟨_, words, accepted, rfl, covers, respaced⟩, (tokenize_covers "a '\\q'").2 _ refused⟩

end Verdict
