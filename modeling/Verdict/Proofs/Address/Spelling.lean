import Verdict.Address.Pointer
import Verdict.Proofs.Number.Spelling
import Verdict.Proofs.Text.Pieces

/-! The pointer text of steps into a document: a slash in front of each, keys with tildes and slashes
escaped, indexes in plain decimal. It always compiles, and its tokens are read as the steps that
were spelled. -/

set_option autoImplicit false

namespace Verdict

/-- One step down from a value in a document. -/
inductive Step where
  | key (name : String)
  | index (position : Nat)

namespace Pointer

/-- The spelling of a key, in which `~0` stands for a tilde and `~1` for a slash. -/
def escape : List Char → List Char
  | [] => []
  | character :: rest =>
      if character = '~' then '~' :: '0' :: escape rest
      else if character = '/' then '~' :: '1' :: escape rest
      else character :: escape rest

theorem unescape_cons {character : Char} (other : character ≠ '~') (rest : List Char) :
    unescape (character :: rest) = character :: unescape rest := by
  rw [unescape]
  · intro _ tilde
    exact absurd tilde other
  · intro _ tilde
    exact absurd tilde other

theorem unescape_escape (key : List Char) : unescape (escape key) = key := by
  induction key with
  | nil => rfl
  | cons character rest ih =>
      by_cases tilde : character = '~'
      · subst tilde
        simp [escape, unescape, ih]
      · by_cases slash : character = '/'
        · subst slash
          simp [escape, unescape, ih]
        · rw [escape, if_neg tilde, if_neg slash, unescape_cons tilde, ih]

theorem unescape_of_not_mem {text : List Char} (free : '~' ∉ text) : unescape text = text := by
  induction text with
  | nil => rfl
  | cons character rest ih =>
      rw [unescape_cons (List.ne_of_not_mem_cons free).symm,
        ih (List.not_mem_of_not_mem_cons free)]

theorem slash_not_mem_escape (key : List Char) : '/' ∉ escape key := by
  induction key with
  | nil => simp [escape]
  | cons character rest ih =>
      by_cases tilde : character = '~'
      · simp [escape, tilde, ih]
      · by_cases slash : character = '/'
        · simp [escape, slash, ih]
        · simp [escape, tilde, slash, ih, Ne.symm slash]

theorem tildesEscape_cons {character : Char} (other : character ≠ '~') (rest : List Char) :
    tildesEscape (character :: rest) = tildesEscape rest := by
  rw [tildesEscape]
  · intro tilde
    exact absurd tilde other
  · intro _ _ tilde
    exact absurd tilde other

theorem tildesEscape_escape (key rest : List Char) :
    tildesEscape (escape key ++ rest) = tildesEscape rest := by
  induction key with
  | nil => rfl
  | cons character others ih =>
      by_cases tilde : character = '~'
      · simp [escape, tilde, tildesEscape, ih]
      · by_cases slash : character = '/'
        · simp [escape, slash, tildesEscape, ih]
        · rw [escape, if_neg tilde, if_neg slash, List.cons_append, tildesEscape_cons tilde, ih]

theorem tildesEscape_of_not_mem {text : List Char} (free : '~' ∉ text) (rest : List Char) :
    tildesEscape (text ++ rest) = tildesEscape rest := by
  induction text with
  | nil => rfl
  | cons character others ih =>
      rw [List.cons_append, tildesEscape_cons (List.ne_of_not_mem_cons free).symm,
        ih (List.not_mem_of_not_mem_cons free)]

end Pointer

private theorem head?_toDigits_ne_zero {position : Nat} (positive : 0 < position) :
    (Nat.toDigits 10 position).head? ≠ some '0' := by
  induction position using Nat.strong_induction_on with
  | _ position ih =>
      by_cases small : position < 10
      · have digit : ∀ digit < 10, 0 < digit → [digit.digitChar].head? ≠ some '0' := by decide
        rw [Nat.toDigits_of_lt_base small]
        exact digit position small positive
      · -- The first digit is that of the number without its last digit.
        have front := ih (position / 10) (by omega) (by omega)
        obtain ⟨first, behind, split⟩ := List.exists_cons_of_ne_nil
          (Nat.toDigits_ne_nil : Nat.toDigits 10 (position / 10) ≠ [])
        rw [Nat.toDigits_of_base_le (by decide) (by omega)]
        simpa [split] using front

namespace Pointer

/-- The decimal text of an index is the token that is read as this index. -/
theorem index?_toString (position : Nat) : index? (toString position).toList = some position := by
  have digits := isDigits_toString position
  rw [Nat.toString_eq_repr, Nat.toList_repr] at digits ⊢
  have value : digitsValue (Nat.toDigits 10 position) = position := Nat.ofDigitChars_ten_toDigits
  have all : (Nat.toDigits 10 position).all Char.isDigit = true :=
    List.all_eq_true.mpr digits.digits
  have plain : (Nat.toDigits 10 position).head? = some '0' →
      Nat.toDigits 10 position = ['0'] := by
    intro leads
    rcases Nat.eq_zero_or_pos position with rfl | positive
    · rfl
    · exact absurd leads (head?_toDigits_ne_zero positive)
  simpa [index?, digits.nonempty, all, value] using plain

end Pointer

namespace Step

/-- The token of a step between the slashes of a pointer. -/
def token : Step → List Char
  | .key name => Pointer.escape name.toList
  | .index position => (toString position).toList

theorem not_mem_digits {character : Char} (other : character.isDigit = false) (position : Nat) :
    character ∉ (toString position).toList := by
  intro member
  exact ne_of_isDigit ((isDigits_toString position).digits character member) other rfl

theorem slash_not_mem_token (step : Step) : '/' ∉ step.token := by
  cases step with
  | key name => exact Pointer.slash_not_mem_escape name.toList
  | index position => exact not_mem_digits (by decide) position

theorem tildesEscape_token (step : Step) (rest : List Char) :
    Pointer.tildesEscape (step.token ++ rest) = Pointer.tildesEscape rest := by
  cases step with
  | key name => exact Pointer.tildesEscape_escape name.toList rest
  | index position => exact Pointer.tildesEscape_of_not_mem (not_mem_digits (by decide) position) rest

end Step

namespace Pointer

/-- The characters of the pointer that spells steps. -/
def spelling (steps : List Step) : List Char := steps.flatMap fun step => '/' :: step.token

/-- The pointer text of steps. -/
def spell (steps : List Step) : String := String.ofList (spelling steps)

theorem tildesEscape_spelling (steps : List Step) : tildesEscape (spelling steps) = true := by
  induction steps with
  | nil => rfl
  | cons step steps ih =>
      rw [spelling, List.flatMap_cons, List.cons_append, tildesEscape_cons (by decide),
        step.tildesEscape_token]
      exact ih

theorem defect?_spell (steps : List Step) : defect? (spell steps) = none := by
  have escaped := tildesEscape_spelling steps
  cases steps with
  | nil => rfl
  | cons step steps =>
      have slash : (spelling (step :: steps)).head? = some '/' := rfl
      simp [defect?, spell, escaped, slash]

/-- The pointer text of steps compiles, whatever they are. -/
theorem compile_spell (steps : List Step) :
    compile (spell steps) = .ok ⟨spell steps, defect?_spell steps⟩ := by
  unfold compile
  split
  · rfl
  · rename_i defect found
    rw [defect?_spell] at found
    cases found

theorem pieces_spelling {piece : List Char} (free : '/' ∉ piece) (steps : List Step) :
    Text.pieces '/' (piece ++ spelling steps) = piece :: steps.map Step.token := by
  induction steps generalizing piece with
  | nil =>
      rw [spelling, List.flatMap_nil, List.append_nil, List.map_nil, Text.pieces_of_not_mem free]
  | cons step steps ih =>
      rw [spelling, List.flatMap_cons, List.cons_append, Text.pieces_append free,
        List.map_cons]
      exact congrArg (piece :: ·) (ih step.slash_not_mem_token)

theorem tokens_spell (steps : List Step) :
    tokens (spell steps).toList = steps.map fun step => unescape step.token := by
  have cut : Text.pieces '/' (spelling steps) = [] :: steps.map Step.token :=
    pieces_spelling List.not_mem_nil steps
  rw [tokens, spell, String.toList_ofList, cut, List.tail_cons, List.map_map]
  rfl

theorem follow_key (fields : List (String × Json)) (name : String) :
    follow (.object fields) (unescape (Step.key name).token) = fields.lookup name := by
  rw [Step.token, unescape_escape, follow, String.ofList_toList]

theorem follow_index (items : List Json) (position : Nat) :
    follow (.array items) (unescape (Step.index position).token) = items[position]? := by
  rw [Step.token, unescape_of_not_mem (Step.not_mem_digits (by decide) position), follow,
    index?_toString]
  rfl

end Pointer

end Verdict
