import Verdict.Proofs.Token.Lookahead
import Verdict.Proofs.Value.Display

/-! The literals that can be written in a rule. A number is written with any numeral that it is the
value of, so its shortest decimal text has no part here, and a string between single quotes. -/

set_option autoImplicit false

namespace Verdict

/-- Where a numeral ends at the end of its text, it also ends at a delimiter. -/
theorem Numeral.scan_append {text rest : List Char} {numeral : Numeral}
    (delimited : Delimited rest) (scanned : Numeral.scan text = some (numeral, [])) :
    Numeral.scan (text ++ rest) = some (numeral, rest) := by
  obtain ⟨-, split, again⟩ := scan_goesOn scanned
  rw [List.append_nil] at split
  rw [split]
  refine again rest (.of_unseen ?_)
  intro character first
  have listed := delimited character first
  simp only [List.mem_cons, List.not_mem_nil, or_false] at listed
  rcases listed with rfl | rfl | rfl | rfl | rfl <;> decide

/-- The texts of literals. -/
inductive WrittenLiteral : List Char → Value → Prop where
  | number {text : List Char} {numeral : Numeral} :
      Numeral.scan text = some (numeral, []) → numeral.value.isFinite = true →
      WrittenLiteral text (.number numeral.value)
  | boolean {truth : Bool} : WrittenLiteral (Token.truthWord truth) (.boolean truth)
  | string {text : String} {value : Value} :
      Grammar.Quoted text value → WrittenLiteral (Text.quoted text.toList) value
  | array {items : List (List Char × Value)} :
      (∀ item ∈ items, WrittenLiteral item.1 item.2) →
      WrittenLiteral ('[' :: (listText (items.map Prod.fst) ++ [']']))
        (.array (items.map Prod.snd))

/-- A text stands for tokens that spell the value in every registry. -/
def StandsForValue (text : List Char) (value : Value) : Prop :=
  ∃ tokens, Writes text tokens ∧ ∀ registry, Grammar.Spells registry tokens value

theorem Writes.numeral {text : List Char} {numeral : Numeral}
    (scanned : Numeral.scan text = some (numeral, []))
    (finite : numeral.value.isFinite = true) : Writes text [.number numeral.value] := by
  intro rest more delimited lexes
  have nonempty : text ≠ [] := by
    rintro rfl
    cases scanned
  have whole := Numeral.scan_append delimited scanned
  have scans : Token.scan (text ++ rest) =
      .ok (.number numeral.value, byteSize numeral.text, rest) := by
    simp [Token.scan, whole, finite]
  exact lexes.token scans nonempty

/-- Values in a row have tokens in a row. -/
theorem StandsForValue.row {items : List (List Char × Value)}
    (stand : ∀ item ∈ items, StandsForValue item.1 item.2) :
    ∃ spelled : List (List Token × Value), spelled.map Prod.snd = items.map Prod.snd ∧
      Writes (listText (items.map Prod.fst)) (Grammar.row .comma (spelled.map Prod.fst)) ∧
      ∀ registry, ∀ item ∈ spelled, Grammar.Spells registry item.1 item.2 := by
  have listed : ∃ phrases : List ((List Char × List Token) × Value),
      phrases.map (fun phrase => (phrase.1.1, phrase.2)) = items ∧
        ∀ phrase ∈ phrases, Writes phrase.1.1 phrase.1.2 ∧
          ∀ registry, Grammar.Spells registry phrase.1.2 phrase.2 := by
    induction items with
    | nil => exact ⟨[], rfl, by simp⟩
    | cons first others ih =>
        obtain ⟨phrases, same, holds⟩ := ih fun item member => stand item (by simp [member])
        obtain ⟨tokens, writes, spells⟩ := stand first List.mem_cons_self
        refine ⟨((first.1, tokens), first.2) :: phrases, by simp [same], ?_⟩
        exact List.forall_mem_cons.mpr ⟨⟨writes, spells⟩, holds⟩
  obtain ⟨phrases, rfl, holds⟩ := listed
  refine ⟨phrases.map fun phrase => (phrase.1.2, phrase.2), by simp [Function.comp_def], ?_, ?_⟩
  · have writes := @Writes.row (phrases.map Prod.fst) (by
      intro phrase member
      obtain ⟨origin, included, rfl⟩ := List.mem_map.mp member
      exact (holds origin included).1)
    simpa [Function.comp_def] using writes
  · intro registry item member
    obtain ⟨origin, included, rfl⟩ := List.mem_map.mp member
    exact (holds origin included).2 registry

theorem WrittenLiteral.standsForValue {text : List Char} {value : Value}
    (written : WrittenLiteral text value) : StandsForValue text value := by
  induction written with
  | number scanned finite => exact ⟨_, .numeral scanned finite, fun _ => .number⟩
  | @boolean truth =>
      exact ⟨_, @Writes.token (.truth truth) .truth (by simp) (by simp), fun _ => .truth⟩
  | @string text _ quoted =>
      exact ⟨_, @Writes.token (.string text) .string (by simp) (by simp), fun _ => .string quoted⟩
  | array _ ih =>
      obtain ⟨spelled, same, writes, spells⟩ := StandsForValue.row ih
      refine ⟨_, writes.between .openBracket .closeBracket rfl rfl ⟨rfl, rfl⟩ (by simp), ?_⟩
      intro registry
      rw [← same]
      exact .array (spells registry)

end Verdict
