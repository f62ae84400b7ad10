import Verdict.Text.Pieces

/-! Cutting a text at a separator: the pieces without a separator are found again, and the text is
the pieces with separators between them. -/

set_option autoImplicit false

namespace Verdict

namespace Text

variable {separator : Char}

theorem pieces_ne_nil (text : List Char) : pieces separator text ≠ [] := by
  cases text with
  | nil => simp [pieces]
  | cons first rest =>
      unfold pieces
      split
      · simp
      · split <;> simp

theorem pieces_of_not_mem {piece : List Char} (free : separator ∉ piece) :
    pieces separator piece = [piece] := by
  induction piece with
  | nil => rfl
  | cons first others ih =>
      have differs : first ≠ separator := (List.ne_of_not_mem_cons free).symm
      simp [pieces, differs, ih (List.not_mem_of_not_mem_cons free)]

theorem pieces_append {piece : List Char} (free : separator ∉ piece) (rest : List Char) :
    pieces separator (piece ++ separator :: rest) = piece :: pieces separator rest := by
  induction piece with
  | nil => simp [pieces]
  | cons first others ih =>
      have differs : first ≠ separator := (List.ne_of_not_mem_cons free).symm
      simp [pieces, differs, ih (List.not_mem_of_not_mem_cons free)]

/-- The first piece ends with the text or in front of the first separator, behind which the other
pieces lie. -/
theorem eq_of_pieces {text piece : List Char} {others : List (List Char)}
    (cut : pieces separator text = piece :: others) :
    (others = [] ∧ text = piece) ∨
      ∃ rest, text = piece ++ separator :: rest ∧ pieces separator rest = others := by
  induction text generalizing piece others with
  | nil =>
      cases cut
      exact .inl ⟨rfl, rfl⟩
  | cons first rest ih =>
      by_cases same : first = separator
      · subst same
        simp only [pieces, if_true] at cut
        obtain ⟨rfl, rfl⟩ := List.cons.inj cut
        exact .inr ⟨rest, rfl, rfl⟩
      · cases behind : pieces separator rest with
        | nil => exact absurd behind (pieces_ne_nil rest)
        | cons front more =>
            simp only [pieces, same, behind, if_false] at cut
            obtain ⟨rfl, rfl⟩ := List.cons.inj cut
            rcases ih behind with ⟨rfl, rfl⟩ | ⟨left, rfl, split⟩
            · exact .inl ⟨rfl, rfl⟩
            · exact .inr ⟨left, rfl, split⟩

end Text

end Verdict
