import Verdict.Proofs.Number.Spelling
import Verdict.Proofs.Token.Identifiers
import Verdict.Value.Printer

/-! Every token that the scanner can answer has a written form, and the scanner takes that form back
to the token wherever it is followed by what may stand behind it. -/

set_option autoImplicit false

namespace Verdict

/-- The marks that no other mark begins with. -/
def Mark.isPunctuation : Mark → Bool
  | .negation => true
  | .openParen => true
  | .closeParen => true
  | .openBracket => true
  | .closeBracket => true
  | .comma => true
  | _ => false

/-- The character with which a mark would be a longer one. -/
def Mark.longer? : Mark → Option Char
  | .greater => some '='
  | .less => some '='
  | .both => some '&'
  | .either => some '|'
  | _ => none

/-- Where a mark ends, as no longer one stands there. -/
def Mark.Ends (sign : Mark) (rest : List Char) : Prop :=
  ∀ character ∈ sign.longer?, ∀ behind, rest ≠ character :: behind

theorem Mark.ends_of_punctuation_or_blank {sign : Mark} {rest : List Char}
    (ends : sign.isPunctuation = true ∨ rest.head? = some ' ') : sign.Ends rest := by
  intro character longer behind same
  subst same
  rcases ends with punctuation | blank
  · have single : sign.longer? = none := by
      cases sign <;> first | rfl | cases punctuation
    rw [single] at longer
    cases longer
  · cases sign <;> cases longer <;> cases blank

/-- Nothing more, or one of the characters that a rule is written with between its words. -/
def Delimited (rest : List Char) : Prop :=
  ∀ character ∈ rest.head?, character ∈ [' ', ',', '(', ')', ']']

theorem Delimited.nil : Delimited [] := by simp [Delimited]

theorem Delimited.cons {first : Char} {rest : List Char}
    (member : first ∈ [' ', ',', '(', ')', ']']) : Delimited (first :: rest) := by
  intro character same
  obtain rfl : first = character := by simpa using same
  exact member

theorem Delimited.endsNumeral {rest : List Char} (delimited : Delimited rest) :
    Numeral.Ends rest := by
  intro character member
  have listed := delimited character member
  simp only [List.mem_cons, List.not_mem_nil, or_false] at listed
  rcases listed with rfl | rfl | rfl | rfl | rfl <;> decide

theorem Delimited.endsIdentifier {rest : List Char} (delimited : Delimited rest) :
    Token.EndsIdentifier rest := by
  intro character member
  have listed := delimited character member
  simp only [List.mem_cons, List.not_mem_nil, or_false] at listed
  rcases listed with rfl | rfl | rfl | rfl | rfl <;> decide

theorem utf8ByteSize_eq (text : String) : text.utf8ByteSize = byteSize text.toList := by
  obtain ⟨characters, rfl⟩ : ∃ characters, text = String.ofList characters :=
    ⟨text.toList, String.ofList_toList.symm⟩
  induction characters with
  | nil => rfl
  | cons first behind ih =>
      rw [String.ofList_cons, String.utf8ByteSize_append, ih]
      simp [byteSize]

namespace Token

/-- The words of the two truth values. -/
def truthWord : Bool → List Char
  | true => ['t', 'r', 'u', 'e']
  | false => ['f', 'a', 'l', 's', 'e']

/-- The written form of a token in a rule. -/
def written : Token → List Char
  | .number value => value.display.toList
  | .string text => Text.quoted text.toList
  | .truth value => truthWord value
  | .identifier name => name.toList
  | .mark sign => sign.text.toList

/-- What is true of every token that is scanned: numbers are finite, names are dotted identifiers
other than the truth values. -/
inductive Scanned : Token → Prop where
  | number {value : Number} : value.isFinite = true → Scanned (.number value)
  | string {text : String} : Scanned (.string text)
  | truth {value : Bool} : Scanned (.truth value)
  | identifier {name : String} :
      IsDotted name.toList → (∀ value, name.toList ≠ truthWord value) → Scanned (.identifier name)
  | mark {sign : Mark} : Scanned (.mark sign)

private theorem scanned_ofIdentifier {name : List Char} (isDotted : IsDotted name) :
    Scanned (ofIdentifier name) := by
  unfold ofIdentifier
  split
  · exact .truth
  · rename_i notTrue
    split
    · exact .truth
    · rename_i notFalse
      refine .identifier (by simpa using isDotted) ?_
      intro value
      cases value with
      | true => simpa [truthWord] using notTrue
      | false => simpa [truthWord] using notFalse

theorem scanned_of_scan {text rest : List Char} {token : Token} {size : Nat}
    (scans : scan text = .ok (token, size, rest)) : Scanned token := by
  unfold scan at scans
  split at scans
  · simp only at scans
    split at scans
    · rename_i finite
      cases scans
      exact .number finite
    · cases scans
  · split at scans
    · cases scans
    · split at scans
      · split at scans
        · cases scans
          exact .string
        · cases scans
        · cases scans
      · split at scans
        · rename_i found
          cases scans
          exact scanned_ofIdentifier (isDotted_of_scanIdentifier? found)
        · split at scans
          · cases scans
            exact .mark
          · cases scans

theorem map_eq_ok {ε α β : Type} {computation : Except ε α} {change : α → β} {result : β}
    (mapped : computation.map change = .ok result) :
    ∃ value, computation = .ok value ∧ change value = result := by
  cases computation with
  | error error => cases mapped
  | ok value => exact ⟨value, rfl, Except.ok.inj mapped⟩

theorem scanned_of_scanAll (fuel : Nat) {offset : Nat} {text : List Char} {tokens : List Spanned}
    (scans : scanAll fuel offset text = .ok tokens) :
    ∀ spanned ∈ tokens, Scanned spanned.token := by
  induction fuel generalizing offset text tokens with
  | zero =>
      unfold scanAll at scans
      simp only at scans
      split at scans
      · cases scans
        simp
      · split at scans <;> cases scans
  | succ fuel ih =>
      unfold scanAll at scans
      simp only at scans
      split at scans
      · cases scans
        simp
      · split at scans
        · cases scans
        · rename_i scannedFirst
          obtain ⟨others, scannedOthers, rfl⟩ := map_eq_ok scans
          intro spanned member
          rcases List.mem_cons.mp member with rfl | behind
          · exact scanned_of_scan scannedFirst
          · exact ih scannedOthers spanned behind

theorem scanNumeral_eq_none {first : Char} {rest : List Char} (notMinus : first ≠ '-')
    (notDigit : first.isDigit = false) : Numeral.scan (first :: rest) = none := by
  simp [Numeral.scan, Numeral.scanUnsigned, notMinus, notDigit]

private theorem read_escaped (character : Char) (rest : List Char) :
    ∃ bytes, StringScan.read '\'' (Text.escaped character ++ rest) =
      (StringScan.read '\'' rest).prepend character bytes := by
  by_cases quote : character = '\''
  · subst quote
    exact ⟨'\\'.utf8Size + '\''.utf8Size, by simp [Text.escaped, StringScan.read, unescape?]⟩
  by_cases backslash : character = '\\'
  · subst backslash
    exact ⟨'\\'.utf8Size + '\\'.utf8Size, by simp [Text.escaped, StringScan.read, unescape?]⟩
  by_cases lineFeed : character = '\n'
  · subst lineFeed
    exact ⟨'\\'.utf8Size + 'n'.utf8Size, by simp [Text.escaped, StringScan.read, unescape?]⟩
  by_cases tab : character = '\t'
  · subst tab
    exact ⟨'\\'.utf8Size + 't'.utf8Size, by simp [Text.escaped, StringScan.read, unescape?]⟩
  refine ⟨character.utf8Size, ?_⟩
  have plain : Text.escaped character = [character] := by
    simp [Text.escaped, quote, backslash, lineFeed, tab]
  rw [plain, List.singleton_append, StringScan.read.eq_def]
  simp [quote, backslash]

private theorem read_quoted (text rest : List Char) :
    ∃ size, StringScan.read '\'' (text.flatMap Text.escaped ++ '\'' :: rest) =
      .closed text size rest := by
  induction text with
  | nil =>
      refine ⟨'\''.utf8Size, ?_⟩
      rw [List.flatMap_nil, List.nil_append, StringScan.read.eq_def]
      simp
  | cons character text ih =>
      obtain ⟨size, read⟩ := ih
      obtain ⟨bytes, first⟩ :=
        read_escaped character (text.flatMap Text.escaped ++ '\'' :: rest)
      refine ⟨bytes + size, ?_⟩
      rw [List.flatMap_cons, List.append_assoc, first, read]
      rfl

theorem scan_quoted (text : String) (rest : List Char) :
    ∃ size, scan (Text.quoted text.toList ++ rest) = .ok (.string text, size, rest) := by
  obtain ⟨size, read⟩ := read_quoted text.toList rest
  refine ⟨'\''.utf8Size + size, ?_⟩
  have notNumeral :
      Numeral.scan ('\'' :: (text.toList.flatMap Text.escaped ++ '\'' :: rest)) = none :=
    scanNumeral_eq_none (by decide) (by decide)
  simp [Text.quoted, scan, notNumeral, read]

private theorem isAlpha_eq_false_of_isDigit {character : Char} (digit : character.isDigit = true) :
    character.isAlpha = false := by
  have bound : character.val.toNat ≤ 57 := by
    simp only [Char.isDigit, Bool.and_eq_true, decide_eq_true_eq] at digit
    exact UInt32.le_iff_toNat_le.mp digit.2
  have notUpper : character.isUpper = false := by
    refine decide_eq_false fun upper => ?_
    have above : 65 ≤ character.val.toNat := UInt32.le_iff_toNat_le.mp upper.1
    omega
  have notLower : character.isLower = false := by
    refine Bool.and_eq_false_imp.mpr fun lower => ?_
    have above : 97 ≤ character.val.toNat := UInt32.le_iff_toNat_le.mp (of_decide_eq_true lower)
    omega
  exact Bool.or_eq_false_iff.mpr ⟨notUpper, notLower⟩

private theorem isDigit_eq_false_of_begins {first : Char} (begins : beginsIdentifier first = true) :
    first.isDigit = false := by
  cases digit : first.isDigit with
  | false => rfl
  | true =>
      have ascii : first.toNat < 0x80 := by
        simp only [Char.isDigit, Bool.and_eq_true, decide_eq_true_eq] at digit
        exact Nat.lt_of_le_of_lt (UInt32.le_iff_toNat_le.mp digit.2) (by decide)
      have notUnderscore := ne_of_isDigit digit (by decide : '_'.isDigit = false)
      have alpha : first.isAlpha = true := by
        simpa [beginsIdentifier, Text.isIdentifierStart, ascii, notUnderscore] using begins
      rw [isAlpha_eq_false_of_isDigit digit] at alpha
      cases alpha

private theorem not_numeral_of_begins {first : Char} (begins : beginsIdentifier first = true) :
    first ≠ '-' ∧ first.isDigit = false ∧ first ≠ '\'' ∧ first ≠ '"' := by
  refine ⟨?_, ?_, ?_, ?_⟩
  · rintro rfl
    exact absurd begins (by decide)
  · exact isDigit_eq_false_of_begins begins
  · rintro rfl
    exact absurd begins (by decide)
  · rintro rfl
    exact absurd begins (by decide)

theorem scan_name {name rest : List Char} (isDotted : IsDotted name)
    (stops : StopsIdentifier rest) :
    scan (name ++ rest) = .ok (ofIdentifier name, byteSize name, rest) := by
  have found := scanIdentifier?_of_isDotted isDotted stops
  obtain ⟨first, behind, rfl, begins⟩ := isDotted.exists_cons
  obtain ⟨notMinus, notDigit, notQuote, notDouble⟩ := not_numeral_of_begins begins
  rw [List.cons_append] at found ⊢
  simp [scan, scanNumeral_eq_none notMinus notDigit, notQuote, notDouble, found]

theorem scan_isDotted {name rest : List Char} (isDotted : IsDotted name)
    (ends : EndsIdentifier rest) :
    ∃ size, scan (name ++ rest) = .ok (ofIdentifier name, size, rest) :=
  ⟨byteSize name, scan_name isDotted ends.stops⟩

theorem scanMark?_text {sign : Mark} {rest : List Char} (ends : sign.Ends rest) :
    scanMark? (sign.text.toList ++ rest) = some (sign, rest) := by
  cases sign with
  | greater => exact scanMark?.eq_7 rest (ends '=' rfl)
  | less => exact scanMark?.eq_8 rest (ends '=' rfl)
  | both => exact scanMark?.eq_9 rest (ends '&' rfl)
  | either => exact scanMark?.eq_10 rest (ends '|' rfl)
  | _ => rfl

theorem exists_first_of_mark (sign : Mark) :
    ∃ first behind, sign.text.toList = first :: behind ∧ first ≠ '-' ∧ first.isDigit = false ∧
      first ≠ '\'' ∧ first ≠ '"' ∧ beginsIdentifier first = false := by
  cases sign <;> exact ⟨_, _, rfl, by decide, by decide, by decide, by decide, by decide⟩

theorem scan_mark {sign : Mark} {rest : List Char} (ends : sign.Ends rest) :
    scan (sign.text.toList ++ rest) = .ok (.mark sign, byteSize sign.text.toList, rest) := by
  have scanned := scanMark?_text ends
  rw [← utf8ByteSize_eq]
  obtain ⟨first, behind, split, noMinus, noDigit, noQuote, noDouble, begins⟩ :=
    exists_first_of_mark sign
  rw [split, List.cons_append] at scanned ⊢
  simp [scan, scanNumeral_eq_none noMinus noDigit, noQuote, noDouble, scanIdentifier?, scanPart?,
    begins, scanned]

theorem isDotted_truthWord (value : Bool) : IsDotted (truthWord value) := by
  cases value with
  | true =>
      have isPart : IsPart ['t', 'r', 'u', 'e'] :=
        .intro (by decide) (List.all_eq_true.mp rfl)
      exact .intro isPart .nil
  | false =>
      have isPart : IsPart ['f', 'a', 'l', 's', 'e'] :=
        .intro (by decide) (List.all_eq_true.mp rfl)
      exact .intro isPart .nil

theorem ofIdentifier_truthWord (value : Bool) : ofIdentifier (truthWord value) = .truth value := by
  cases value <;> rfl

theorem ofIdentifier_eq {name : String} (noTruth : ∀ value, name.toList ≠ truthWord value) :
    ofIdentifier name.toList = .identifier name := by
  have notTrue := noTruth true
  have notFalse := noTruth false
  simp only [truthWord] at notTrue notFalse
  simp [ofIdentifier, notTrue, notFalse]

/-- What may stand behind the written form of a token so that the token ends there. -/
def EndsAt : Token → List Char → Prop
  | .string _, _ => True
  | .mark sign, rest => sign.isPunctuation = true ∨ rest.head? = some ' '
  | _, rest => Delimited rest

theorem scan_written {token : Token} {rest : List Char} (scanned : Scanned token)
    (readsBack : ∀ number, token = .number number → number.ReadsBack)
    (ends : token.EndsAt rest) :
    ∃ size, scan (token.written ++ rest) = .ok (token, size, rest) := by
  cases scanned with
  | @number value finite =>
      obtain ⟨numeral, found, same⟩ :=
        Number.scan_display finite (readsBack value rfl) (Delimited.endsNumeral ends)
      exact ⟨byteSize numeral.text, by simp [written, scan, found, same, finite]⟩
  | @string text => exact scan_quoted text rest
  | @truth value =>
      have scans := scan_isDotted (isDotted_truthWord value) (Delimited.endsIdentifier ends)
      rwa [ofIdentifier_truthWord] at scans
  | @identifier name isDotted noTruth =>
      have scans := scan_isDotted isDotted (Delimited.endsIdentifier ends)
      rwa [ofIdentifier_eq noTruth] at scans
  | mark => exact ⟨_, scan_mark (Mark.ends_of_punctuation_or_blank ends)⟩

theorem written_ne_nil {token : Token} (scanned : Scanned token) : token.written ≠ [] := by
  cases scanned with
  | @number value finite =>
      obtain ⟨numeral, plain, spelled⟩ := Number.display_plain finite
      simp [written, spelled, plain.text_eq, Numeral.plainText, plain.whole.nonempty]
  | string => simp [written, Text.quoted]
  | @truth value => cases value <;> simp [written, truthWord]
  | identifier isDotted =>
      obtain ⟨first, behind, split, -⟩ := isDotted.exists_cons
      simp [written, split]
  | @mark sign => cases sign <;> decide

theorem isSeparator_eq_false_of_scan {first : Char} {behind rest : List Char} {token : Token}
    {size : Nat} (scans : scan (first :: behind) = .ok (token, size, rest)) :
    isSeparator first = false := by
  cases separates : isSeparator first with
  | false => rfl
  | true =>
      simp only [isSeparator, Bool.or_eq_true, decide_eq_true_eq] at separates
      rcases separates with ((rfl | rfl) | rfl) | rfl <;> cases scans

end Token

end Verdict
