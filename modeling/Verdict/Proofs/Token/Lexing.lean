import Verdict.Proofs.Token.Scanning

/-! What the tokens of a text are, whatever its place and however much fuel there is, and how a text
is put together from written tokens and the blanks between them. -/

set_option autoImplicit false

namespace Verdict

/-- The text is cut into the tokens. -/
def Lexes (text : List Char) (tokens : List Token) : Prop :=
  ∀ fuel offset, text.length ≤ fuel →
    ∃ spanned, Token.scanAll fuel offset text = .ok spanned ∧ spanned.map Spanned.token = tokens

namespace Lexes

theorem nil : Lexes [] [] := by
  intro fuel offset _
  refine ⟨[], ?_, rfl⟩
  rw [Token.scanAll.eq_def]
  rfl

theorem blank {rest : List Char} {tokens : List Token} (lexes : Lexes rest tokens) :
    Lexes (' ' :: rest) tokens := by
  intro fuel offset enough
  obtain ⟨spanned, scans, same⟩ := lexes fuel (offset + 1) (by simp at enough; omega)
  refine ⟨spanned, ?_, same⟩
  have separates : Token.isSeparator ' ' = true := by decide
  rw [Token.scanAll.eq_def] at scans ⊢
  simpa [separates, Nat.add_assoc, Nat.add_comm, Nat.add_left_comm] using scans

theorem token {token : Token} {word rest : List Char} {size : Nat} {tokens : List Token}
    (scans : Token.scan (word ++ rest) = .ok (token, size, rest)) (nonempty : word ≠ [])
    (lexes : Lexes rest tokens) : Lexes (word ++ rest) (token :: tokens) := by
  intro fuel offset enough
  cases word with
  | nil => exact absurd rfl nonempty
  | cons first behind =>
      cases fuel with
      | zero => simp at enough
      | succ fuel =>
          have begins := Token.isSeparator_eq_false_of_scan scans
          obtain ⟨spanned, scanned, same⟩ :=
            lexes fuel (offset + size) (by simp at enough; omega)
          refine ⟨⟨token, offset, offset + size⟩ :: spanned, ?_, by simp [same]⟩
          rw [Token.scanAll.eq_def]
          rw [List.cons_append] at scans
          simp [begins, scans, scanned, Except.map]

theorem written {token : Token} {rest : List Char} {tokens : List Token}
    (scanned : token.Scanned) (readsBack : ∀ number, token = .number number → number.ReadsBack)
    (ends : token.EndsAt rest) (lexes : Lexes rest tokens) :
    Lexes (token.written ++ rest) (token :: tokens) := by
  obtain ⟨size, scans⟩ := Token.scan_written scanned readsBack ends
  exact lexes.token scans (Token.written_ne_nil scanned)

theorem mark {sign : Mark} {rest : List Char} {tokens : List Token}
    (ends : sign.isPunctuation = true ∨ rest.head? = some ' ') (lexes : Lexes rest tokens) :
    Lexes (sign.text.toList ++ rest) (.mark sign :: tokens) :=
  lexes.written .mark (fun _ same => by cases same) ends

theorem punctuation {rest : List Char} {tokens : List Token} (lexes : Lexes rest tokens)
    (sign : Mark) {character : Char} (spelled : sign.text.toList = [character])
    (alone : sign.isPunctuation = true) : Lexes (character :: rest) (.mark sign :: tokens) := by
  have whole := lexes.mark (.inl alone)
  rwa [spelled] at whole

theorem tokenize {text : String} {tokens : List Token} (lexes : Lexes text.toList tokens) :
    ∃ spanned, Verdict.tokenize text = .ok spanned ∧ spanned.map Spanned.token = tokens :=
  lexes text.toList.length 0 (Nat.le_refl _)

end Lexes

/-- The text stands for the tokens wherever a delimiter or the end follows it. -/
def Writes (text : List Char) (tokens : List Token) : Prop :=
  ∀ rest more, Delimited rest → Lexes rest more → Lexes (text ++ rest) (tokens ++ more)

namespace Writes

theorem token {token : Token} (scanned : token.Scanned)
    (readsBack : ∀ number, token = .number number → number.ReadsBack)
    (noMark : ∀ sign, token ≠ .mark sign) : Writes token.written [token] := by
  intro rest more delimited lexes
  refine lexes.written scanned readsBack ?_
  cases token with
  | string text => exact trivial
  | mark sign => exact absurd rfl (noMark sign)
  | _ => exact delimited

theorem lexes {text : List Char} {tokens : List Token} (writes : Writes text tokens) :
    Lexes text tokens := by
  simpa using writes [] [] .nil .nil

/-- A text between two punctuation marks. -/
theorem between {text : List Char} {tokens : List Token} (writes : Writes text tokens)
    (first last : Mark) {opening closing : Char} (opens : first.text.toList = [opening])
    (closes : last.text.toList = [closing])
    (alone : first.isPunctuation = true ∧ last.isPunctuation = true)
    (delimits : closing ∈ [' ', ',', '(', ')', ']']) :
    Writes (opening :: (text ++ [closing])) (.mark first :: (tokens ++ [.mark last])) := by
  intro rest more delimited lexes
  have inner := writes _ _ (.cons delimits) (lexes.punctuation last closes alone.2)
  simpa using inner.punctuation first opens alone.1

end Writes

end Verdict
