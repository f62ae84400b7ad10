import Verdict.Proofs.Rule.Soundness
import Verdict.Proofs.Token.Lexing

/-! A value that was read is written with the tokens that it was read from. -/

set_option autoImplicit false

namespace Verdict

mutual

/-- The number literals of a value. -/
def Value.numbers : Value → List Number
  | .number value => [value]
  | .array items => Value.listNumbers items
  | .computed _ _ call => Call.numbers call
  | .called _ call => Call.numbers call
  | _ => []

def Value.listNumbers : List Value → List Number
  | [] => []
  | value :: values => Value.numbers value ++ Value.listNumbers values

def Call.numbers : Call → List Number
  | .mk _ arguments _ _ _ => Value.listNumbers arguments

end

theorem Value.mem_listNumbers {number : Number} {value : Value} {values : List Value}
    (included : value ∈ values) (member : number ∈ value.numbers) :
    number ∈ Value.listNumbers values := by
  induction values with
  | nil => simp at included
  | cons first others ih =>
      rw [Value.listNumbers, List.mem_append]
      rcases List.mem_cons.mp included with rfl | behind
      · exact .inl member
      · exact .inr (ih behind)

theorem Path.text_of_compile {text : String} {path : Path}
    (compiled : Path.compile text = .ok path) : path.text = text := by
  unfold Path.compile at compiled
  split at compiled
  · cases compiled
    rfl
  · cases compiled

theorem Pointer.text_of_compile {text : String} {pointer : Pointer}
    (compiled : Pointer.compile text = .ok pointer) : pointer.text = text := by
  unfold Pointer.compile at compiled
  split at compiled
  · cases compiled
    rfl
  · cases compiled

namespace Grammar

theorem Quoted.characters {text : String} {value : Value} (quoted : Quoted text value) :
    value.characters = Text.quoted text.toList := by
  cases quoted with
  | path _ compiled => rw [Value.characters, Address.text, Path.text_of_compile compiled]
  | pointer _ compiled => rw [Value.characters, Address.text, Pointer.text_of_compile compiled]
  | plain => rw [Value.characters]

theorem Retyped.characters {role : Role} {operand value : Value}
    (retyped : Retyped role operand value) : value.characters = operand.characters := by
  cases retyped with
  | located => rw [Value.characters, Value.characters]
  | called => rw [Value.characters, Value.characters]
  | literal => rfl

theorem Retyped.numbers {role : Role} {operand value : Value}
    (retyped : Retyped role operand value) : value.numbers = operand.numbers := by
  cases retyped with
  | located => rw [Value.numbers, Value.numbers] <;> simp
  | called => rw [Value.numbers, Value.numbers]
  | literal => rfl

end Grammar

/-- Texts with a comma and a blank between each two of them. -/
def listText (texts : List (List Char)) : List Char := [',', ' '].intercalate texts

theorem Writes.row {phrases : List (List Char × List Token)}
    (writes : ∀ phrase ∈ phrases, Writes phrase.1 phrase.2) :
    Writes (listText (phrases.map Prod.fst)) (Grammar.row .comma (phrases.map Prod.snd)) := by
  induction phrases with
  | nil =>
      intro rest more _ lexes
      simpa [listText, Grammar.row] using lexes
  | cons first others ih =>
      have writesFirst := writes first List.mem_cons_self
      have writesOthers := ih fun phrase member => writes phrase (List.mem_cons_of_mem _ member)
      cases others with
      | nil => simpa [listText, Grammar.row] using writesFirst
      | cons second behind =>
          intro rest more delimited lexes
          have further := writesOthers rest more delimited lexes
          have comma := @Lexes.punctuation _ _ further.blank .comma ',' rfl rfl
          have whole := writesFirst _ _ (.cons (by simp)) comma
          have split : Grammar.row .comma ((first :: second :: behind).map Prod.snd) = first.2 ++
              .mark .comma :: Grammar.row .comma ((second :: behind).map Prod.snd) :=
            Grammar.row_cons (by simp)
          rw [split]
          simpa [listText, List.intercalate_cons_cons] using whole

theorem Value.listCharacters_eq (values : List Value) :
    Value.listCharacters values = listText (values.map Value.characters) := by
  induction values with
  | nil => rfl
  | cons first others ih =>
      cases others with
      | nil => simp [Value.listCharacters, listText]
      | cons second rest =>
          have split : Value.listCharacters (first :: second :: rest) = first.characters ++
              ',' :: ' ' :: Value.listCharacters (second :: rest) := by
            rw [Value.listCharacters]
            simp
          simp [split, ih, listText, List.intercalate_cons_cons]

theorem Writes.list {items : List (List Token × Value)}
    (written : ∀ item ∈ items, Writes item.2.characters item.1) :
    Writes (Value.listCharacters (items.map Prod.snd))
      (Grammar.row .comma (items.map Prod.fst)) := by
  have writes := @Writes.row (items.map fun item => (item.2.characters, item.1)) (by
    intro phrase member
    obtain ⟨item, included, rfl⟩ := List.mem_map.mp member
    exact written item included)
  rw [Value.listCharacters_eq]
  simpa [Function.comp_def] using writes

theorem Grammar.mem_row {mark : Mark} {token : Token} {phrase : List Token}
    {phrases : List (List Token)} (included : phrase ∈ phrases) (member : token ∈ phrase) :
    token ∈ Grammar.row mark phrases := by
  cases phrases with
  | nil => simp at included
  | cons first others =>
      rw [Grammar.row, List.mem_append]
      rcases List.mem_cons.mp included with rfl | behind
      · exact .inl member
      · exact .inr (List.mem_flatMap.mpr ⟨phrase, behind, List.mem_cons_of_mem _ member⟩)

private theorem writes_row {items : List (List Token × Value)}
    (writes : ∀ item ∈ items, (∀ token ∈ item.1, token.Scanned) →
      (∀ number ∈ item.2.numbers, number.ReadsBack) → Writes item.2.characters item.1)
    (scanned : ∀ token ∈ Grammar.row .comma (items.map Prod.fst), token.Scanned)
    (readsBack : ∀ number ∈ Value.listNumbers (items.map Prod.snd), number.ReadsBack) :
    Writes (Value.listCharacters (items.map Prod.snd))
      (Grammar.row .comma (items.map Prod.fst)) := by
  refine .list fun item member => writes item member ?_ ?_
  · intro token included
    exact scanned token (Grammar.mem_row (List.mem_map_of_mem member) included)
  · intro number included
    exact readsBack number (Value.mem_listNumbers (List.mem_map_of_mem member) included)

theorem Grammar.Spells.writes {registry : Registry} {tokens : List Token} {value : Value}
    (spelled : Grammar.Spells registry tokens value)
    (scanned : ∀ token ∈ tokens, token.Scanned)
    (readsBack : ∀ number ∈ value.numbers, number.ReadsBack) :
    Writes value.characters tokens := by
  induction spelled with
  | @number number =>
      refine @Writes.token (.number number) (scanned _ (by simp)) ?_ (by simp)
      rintro _ ⟨rfl⟩
      exact readsBack number (by simp [Value.numbers])
  | @truth truth =>
      have writes := @Writes.token (.truth truth) .truth (by simp) (by simp)
      cases truth <;> simpa [Value.characters, Token.written, Token.truthWord] using writes
  | @string text value quoted =>
      rw [quoted.characters]
      exact @Writes.token (.string text) .string (by simp) (by simp)
  | @array items _ ih =>
      have writes := writes_row ih (fun token member => scanned token (by simp [member])) readsBack
      simpa [Value.characters] using
        @Writes.between _ _ writes .openBracket .closeBracket '[' ']' rfl rfl ⟨rfl, rfl⟩ (by simp)
  | @call name arguments overload _ bound ih =>
      have writes := writes_row ih (fun token member => scanned token (by simp [member])) readsBack
      have between :=
        @Writes.between _ _ writes .openParen .closeParen '(' ')' rfl rfl ⟨rfl, rfl⟩ (by simp)
      intro rest more delimited lexes
      have inner := between rest more delimited lexes
      have whole := @Lexes.written (.identifier name) _ _ (scanned _ (by simp)) (by simp)
        (.cons (by simp)) inner
      simpa [Value.characters, Call.characters, Token.written] using whole

theorem Grammar.Retyped.writes {registry : Registry} {role : Role} {tokens : List Token}
    {operand value : Value} (retyped : Grammar.Retyped role operand value)
    (spelled : Grammar.Spells registry tokens operand)
    (scanned : ∀ token ∈ tokens, token.Scanned)
    (readsBack : ∀ number ∈ value.numbers, number.ReadsBack) :
    Writes value.characters tokens := by
  rw [retyped.characters]
  exact spelled.writes scanned (by simpa [retyped.numbers] using readsBack)

private theorem Value.sameAll_self {values : List Value}
    (same : ∀ value ∈ values, value.same value = true) : Value.sameAll values values = true := by
  induction values with
  | nil => rw [Value.sameAll]
  | cons first others ih =>
      have sameFirst := same first (by simp)
      have sameOthers := ih fun value member => same value (by simp [member])
      rw [Value.sameAll, sameFirst, sameOthers]
      rfl

theorem Address.same_self (address : Address) : address.same address = true := by
  cases address <;> simp [Address.same]

theorem Grammar.Spells.same_self {registry : Registry} {tokens : List Token} {value : Value}
    (spelled : Grammar.Spells registry tokens value) : value.same value = true := by
  induction spelled with
  | number => simp [Value.same]
  | truth => simp [Value.same]
  | string quoted =>
      cases quoted with
      | path => simp [Value.same, Address.same_self]
      | pointer => simp [Value.same, Address.same_self]
      | plain => simp [Value.same]
  | @array items _ ih =>
      rw [Value.same]
      refine Value.sameAll_self ?_
      intro value member
      obtain ⟨item, included, rfl⟩ := List.mem_map.mp member
      exact ih item included
  | @call name arguments overload _ _ ih =>
      have sameArguments : Value.sameAll (arguments.map Prod.snd) (arguments.map Prod.snd) = true := by
        refine Value.sameAll_self ?_
        intro value member
        obtain ⟨argument, included, rfl⟩ := List.mem_map.mp member
        exact ih argument included
      simp [Value.same, Call.same, sameArguments]

theorem Grammar.Retyped.same_self {registry : Registry} {role : Role} {tokens : List Token}
    {operand value : Value} (retyped : Grammar.Retyped role operand value)
    (spelled : Grammar.Spells registry tokens operand) : value.same value = true := by
  have same := spelled.same_self
  cases retyped with
  | located => simp [Value.same, Address.same_self]
  | called => simpa [Value.same] using same
  | literal => exact same

end Verdict
