import Verdict.Rule.Parser

/-! The tokens in front of a cursor, without their places. A reader that succeeds looks at nothing
else, so its laws are stated on these words. -/

set_option autoImplicit false

namespace Verdict

/-- Whatever stands before a mark, only that mark is the same token. -/
theorem Token.same_mark_iff {token : Token} {mark : Mark} :
    token.same (.mark mark) = true ↔ token = .mark mark := by
  cases token <;> simp [Token.same]

namespace Cursor

/-- The tokens that are left, without their places. -/
def words (cursor : Cursor) : List Token := cursor.tokens.map Spanned.token

@[simp] theorem length_words (cursor : Cursor) : cursor.words.length = cursor.tokens.length := by
  simp [words]

@[simp] theorem words_advance (cursor : Cursor) : cursor.advance.words = cursor.words.tail := by
  simp [words, advance]

theorem peek?_eq_none_iff {cursor : Cursor} : cursor.peek? = none ↔ cursor.words = [] := by
  simp [peek?, words]

theorem words_of_peek? {cursor : Cursor} {next : Spanned} (found : cursor.peek? = some next) :
    cursor.words = next.token :: cursor.advance.words := by
  obtain ⟨tokens, stop⟩ := cursor
  cases tokens with
  | nil => simp [peek?] at found
  | cons first others =>
      have same : first = next := by simpa [peek?] using found
      simp [words, advance, same]

theorem exists_peek? {cursor : Cursor} {token : Token} {rest : List Token}
    (words : cursor.words = token :: rest) :
    ∃ next, cursor.peek? = some next ∧ next.token = token := by
  cases found : cursor.peek? with
  | none => simp [peek?_eq_none_iff.mp found] at words
  | some next =>
      have split := words_of_peek? found
      rw [words] at split
      exact ⟨next, rfl, (List.cons.inj split).1.symm⟩

theorem consume?_eq_some_iff {cursor after : Cursor} {mark : Mark} :
    cursor.consume? (.mark mark) = some after ↔
      cursor.words.head? = some (.mark mark) ∧ cursor.advance = after := by
  obtain ⟨tokens, stop⟩ := cursor
  cases tokens with
  | nil => simp [consume?, isAt, peek?, words]
  | cons first others => simp [consume?, isAt, peek?, words, Token.same_mark_iff]

theorem consume?_eq_none_iff {cursor : Cursor} {mark : Mark} :
    cursor.consume? (.mark mark) = none ↔ cursor.words.head? ≠ some (.mark mark) := by
  obtain ⟨tokens, stop⟩ := cursor
  cases tokens with
  | nil => simp [consume?, isAt, peek?, words]
  | cons first others => simp [consume?, isAt, peek?, words, Token.same_mark_iff]

theorem words_of_head? {cursor : Cursor} {token : Token}
    (head : cursor.words.head? = some token) : cursor.words = token :: cursor.advance.words := by
  obtain ⟨rest, split⟩ := List.head?_eq_some_iff.mp head
  simp [split]

theorem words_of_consume? {cursor after : Cursor} {mark : Mark}
    (consumed : cursor.consume? (.mark mark) = some after) :
    cursor.words = .mark mark :: after.words := by
  obtain ⟨head, rfl⟩ := consume?_eq_some_iff.mp consumed
  exact words_of_head? head

theorem consume?_of_words {cursor : Cursor} {mark : Mark} {rest : List Token}
    (words : cursor.words = .mark mark :: rest) :
    ∃ after, cursor.consume? (.mark mark) = some after ∧ after.words = rest :=
  ⟨cursor.advance, consume?_eq_some_iff.mpr (by simp [words]), by simp [words]⟩

end Cursor

theorem expectMark_eq_ok_iff {mark : Mark} {cursor after : Cursor} :
    expectMark mark cursor = .ok after ↔
      cursor.words.head? = some (.mark mark) ∧ cursor.advance = after := by
  obtain ⟨tokens, stop⟩ := cursor
  cases tokens with
  | nil => simp [expectMark, Cursor.expect, Cursor.peek?, Cursor.words]
  | cons first others =>
      by_cases same : first.token = .mark mark
      · have agrees : (Token.mark mark).same (.mark mark) = true := Token.same_mark_iff.mpr rfl
        simp [expectMark, Cursor.expect, Cursor.peek?, Cursor.words, agrees, same]
      · have differs : first.token.same (.mark mark) = false := by
          simpa using mt Token.same_mark_iff.mp same
        simp [expectMark, Cursor.expect, Cursor.peek?, Cursor.words, differs, same]

theorem words_of_expectMark {mark : Mark} {cursor after : Cursor}
    (expected : expectMark mark cursor = .ok after) : cursor.words = .mark mark :: after.words := by
  obtain ⟨head, rfl⟩ := expectMark_eq_ok_iff.mp expected
  exact Cursor.words_of_head? head

theorem expectMark_of_words {mark : Mark} {cursor : Cursor} {rest : List Token}
    (words : cursor.words = .mark mark :: rest) :
    ∃ after, expectMark mark cursor = .ok after ∧ after.words = rest :=
  ⟨cursor.advance, expectMark_eq_ok_iff.mpr (by simp [words]), by simp [words]⟩

end Verdict
