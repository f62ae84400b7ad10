import Verdict.Proofs.Token.Coverage

/-! A string that is written between quotes is one token again. The tokens of a text stay as they are
when a string is written behind it, and those of a text behind the string move by the bytes in front
of them. -/

set_option autoImplicit false

namespace Verdict

/-- A string as it is written in a rule. -/
def Text.quote (text : String) : String := String.ofList (Text.quoted text.toList)

/-- The token behind more bytes. -/
def Spanned.shift (bytes : Nat) (spanned : Spanned) : Spanned :=
  ⟨spanned.token, bytes + spanned.start, bytes + spanned.stop⟩

namespace Token

variable {text other : List Char} {words others : List (List Char)} {tokens more : List Spanned}
  {offset : Nat}

theorem Blank.append (blank : Blank text) (further : Blank other) : Blank (text ++ other) :=
  List.forall_mem_append.mpr ⟨blank, further⟩

theorem Blank.separates (blank : Blank text) (nonempty : text ≠ []) (rest : List Char) :
    ∀ character ∈ (text ++ rest).head?, isSeparator character = true := by
  obtain ⟨first, behind, rfl⟩ := List.exists_cons_of_ne_nil nonempty
  intro character head
  obtain rfl : first = character := by simpa using head
  exact blank first List.mem_cons_self

theorem Laid.shift (laid : Laid offset text words tokens) (bytes : Nat) :
    Laid (bytes + offset) text words (tokens.map (Spanned.shift bytes)) := by
  induction laid with
  | blank blank => exact .blank blank
  | @word offset start blanks word rest words token tokens blank scans begins laid ih =>
      have moved : bytes + start = bytes + offset + byteSize blanks := by omega
      rw [← Nat.add_assoc] at ih
      rw [List.map_cons, Spanned.shift, ← Nat.add_assoc]
      exact .word blank scans moved ih

theorem Laid.behind_blank {blanks : List Char} (blank : Blank blanks)
    (laid : Laid (offset + byteSize blanks) text words tokens) :
    Laid offset (blanks ++ text) words tokens := by
  cases laid with
  | blank further => exact .blank (blank.append further)
  | word further scans begins laid =>
      rw [← List.append_assoc]
      refine .word (blank.append further) scans ?_ laid
      rw [begins, byteSize_append, Nat.add_assoc]

/-- A text that begins with a separator may be put behind another one: neither changes its tokens. -/
theorem Laid.append (laid : Laid offset text words tokens)
    (separated : ∀ character ∈ other.head?, isSeparator character = true)
    (further : Laid (offset + byteSize text) other others more) :
    Laid offset (text ++ other) (words ++ others) (tokens ++ more) := by
  induction laid with
  | blank blank => exact further.behind_blank blank
  | @word offset start blanks word rest words token tokens blank scans begins laid ih =>
      -- the last word may end where the text does, and what is appended does not prolong it
      have goesOn : GoesOnAs isSolid (rest ++ other) (rest ++ []) :=
        (goesOn_of_separated separated).prepend rest
      rw [List.append_nil] at goesOn
      rw [byteSize_append, byteSize_append, ← Nat.add_assoc, ← begins, ← Nat.add_assoc] at further
      rw [List.append_assoc, List.append_assoc]
      exact .word blank (scans.congr goesOn) begins (ih further)

theorem scansAs_quoted (text : String) (rest : List Char) :
    ScansAs (Text.quoted text.toList) rest (.string text) := by
  refine ⟨List.cons_ne_nil _ _, fun other _ => ?_⟩
  obtain ⟨size, scans⟩ := scan_quoted text other
  obtain ⟨word, split, rfl, -⟩ := scansAs_of_scan scans
  rwa [← List.append_cancel_right split] at scans

theorem laid_quoted {before behind : List Char} (blank : Blank before) (further : Blank behind)
    (text : String) (laid : Laid 0 other words tokens) :
    Laid offset (before ++ (Text.quoted text.toList ++ (behind ++ other)))
      (Text.quoted text.toList :: words)
      (⟨.string text, offset + byteSize before,
          offset + byteSize before + byteSize (Text.quoted text.toList)⟩ ::
        tokens.map (Spanned.shift (offset + byteSize before +
          byteSize (Text.quoted text.toList) + byteSize behind))) := by
  refine .word blank (scansAs_quoted text _) rfl (Laid.behind_blank further ?_)
  exact laid.shift _

end Token

/-- A quoted string is one token, which has the string and covers all of the text. Behind another text
and separators it is that token too, and the texts around it keep their own tokens: those in front
their places, those behind the places counted from where their text begins. -/
theorem tokenize_quote (text : String) :
    tokenize (Text.quote text) = .ok [⟨.string text, 0, (Text.quote text).utf8ByteSize⟩] ∧
    ∀ (before behind left right : String) (front back : List Spanned),
      tokenize before = .ok front → tokenize behind = .ok back →
      left ≠ "" → Token.Blank left.toList → Token.Blank right.toList →
      let start := (before ++ left).utf8ByteSize
      let stop := (before ++ left ++ Text.quote text).utf8ByteSize
      let again := (before ++ left ++ Text.quote text ++ right).utf8ByteSize
      tokenize (before ++ left ++ Text.quote text ++ right ++ behind) =
        .ok (front ++ ⟨.string text, start, stop⟩ :: back.map (Spanned.shift again)) := by
  have characters : (Text.quote text).toList = Text.quoted text.toList := String.toList_ofList
  constructor
  · have laid := (Token.scansAs_quoted text []).laid_alone
    rw [← characters, ← utf8ByteSize_eq] at laid
    exact Token.tokenize_eq_ok_iff.mpr ⟨_, laid⟩
  · intro before behind left right front back beforeRead behindRead nonempty blank further
    obtain ⟨words, beforeLaid⟩ := Token.tokenize_eq_ok_iff.mp beforeRead
    obtain ⟨others, behindLaid⟩ := Token.tokenize_eq_ok_iff.mp behindRead
    have quoted := @Token.laid_quoted _ _ _ (0 + byteSize before.toList) _ _ blank further text
      behindLaid
    have separated := blank.separates (by simpa using nonempty)
      (Text.quoted text.toList ++ (right.toList ++ behind.toList))
    have whole := beforeLaid.append separated quoted
    refine Token.tokenize_eq_ok_iff.mpr ⟨words ++ Text.quoted text.toList :: others, ?_⟩
    simpa [characters, utf8ByteSize_eq, byteSize_append, Nat.add_assoc] using whole

/-- Escapes and a carriage return, which is written as it is, behind a mark that a further character
would prolong and in front of a numeral that ends before its exponent. -/
theorem tokenize_quote_between :
    tokenize "a >" = .ok [⟨.identifier "a", 0, 1⟩, ⟨.mark .greater, 2, 3⟩] ∧
    tokenize "2e" = .ok [⟨.number (.ofNat 2), 0, 1⟩, ⟨.identifier "e", 1, 2⟩] ∧
    Text.quote "\\'é\r\n" = "'\\\\\\'é\r\\n'" ∧
    tokenize ("a >" ++ "\t" ++ Text.quote "\\'é\r\n" ++ "" ++ "2e") =
      .ok [⟨.identifier "a", 0, 1⟩, ⟨.mark .greater, 2, 3⟩, ⟨.string "\\'é\r\n", 4, 15⟩,
        ⟨.number (.ofNat 2), 15, 16⟩, ⟨.identifier "e", 16, 17⟩] := by
  have front : tokenize "a >" = .ok [⟨.identifier "a", 0, 1⟩, ⟨.mark .greater, 2, 3⟩] := by
    decide +kernel
  have back : tokenize "2e" = .ok [⟨.number (.ofNat 2), 0, 1⟩, ⟨.identifier "e", 1, 2⟩] := by
    decide +kernel
  have tab : Token.Blank "\t".toList := by simp [Token.Blank, Token.isSeparator]
  have noBlank : Token.Blank "".toList := by simp [Token.Blank]
  refine ⟨front, back, by decide +kernel, ?_⟩
  exact (tokenize_quote "\\'é\r\n").2 "a >" "2e" "\t" "" _ _ front back (by decide) tab noBlank

end Verdict
