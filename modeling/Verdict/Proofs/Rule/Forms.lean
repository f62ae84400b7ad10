import Verdict.Proofs.Rule.Soundness

/-! The grammar of rules by its form alone: no call is bound, no string compiled, and an operand may be
of any kind. A rule is then a row of terms, whatever their precedence. -/

set_option autoImplicit false

namespace Verdict

namespace Grammar

/-- The rows of tokens that have the form of a value. -/
inductive IsValue : List Token → Prop where
  | number (value : Number) : IsValue [.number value]
  | truth (value : Bool) : IsValue [.truth value]
  | string (text : String) : IsValue [.string text]
  | array {items : List (List Token)} : (∀ item ∈ items, IsValue item) →
      IsValue (.mark .openBracket :: (row .comma items ++ [.mark .closeBracket]))
  | call {name : String} {arguments : List (List Token)} : (∀ item ∈ arguments, IsValue item) →
      IsValue (.identifier name :: .mark .openParen ::
        (row .comma arguments ++ [.mark .closeParen]))

/-- The rows of tokens that have the form of a rule at a level of precedence. -/
inductive IsRule : Level → List Token → Prop where
  | enclosed {tokens : List Token} : IsRule (.group .any) tokens →
      IsRule .term (.mark .openParen :: (tokens ++ [.mark .closeParen]))
  | negation {tokens : List Token} : IsValue tokens → IsRule .term (.mark .negation :: tokens)
  | binary {lefts rights : List Token} {operator : Operator} : IsValue lefts → IsValue rights →
      IsRule .term (lefts ++ .mark operator.mark :: rights)
  | group {connective : Connective} {first : List Token} {others : List (List Token)} :
      (∀ member ∈ first :: others, IsRule (memberLevel connective) member) →
      IsRule (.group connective) (row (joint connective) (first :: others))

/-- A rule begins with the tokens. -/
def Begins (tokens : List Token) : Prop := ∃ more, IsRule (.group .any) (tokens ++ more)

/-- Further terms behind a term that is in no parentheses. -/
inductive Continues : List Token → Prop where
  | nil : Continues []
  | joined (connective : Connective) {tokens rest : List Token} : IsRule .term tokens →
      Continues rest → Continues (.mark (joint connective) :: (tokens ++ rest))

variable {tokens rest : List Token}

theorem IsRule.single {connective : Connective}
    (member : IsRule (memberLevel connective) tokens) : IsRule (.group connective) tokens := by
  have alone : ∀ candidate ∈ [tokens], IsRule (memberLevel connective) candidate := by
    simpa using member
  simpa [row] using IsRule.group alone

theorem Spells.isValue {registry : Registry} {value : Value}
    (spelled : Spells registry tokens value) : IsValue tokens := by
  induction spelled with
  | number => exact .number _
  | truth => exact .truth _
  | string => exact .string _
  | array _ ih => exact .array (List.forall_mem_map.mpr ih)
  | call _ _ ih => exact .call (List.forall_mem_map.mpr ih)

theorem Derives.isRule {registry : Registry} {level : Level} {rule : Rule}
    (derived : Derives registry level tokens rule) : IsRule level tokens := by
  induction derived with
  | enclosed _ ih => exact .enclosed ih
  | negation spelled _ => exact .negation spelled.isValue
  | binary left right _ _ => exact .binary left.isValue right.isValue
  | single _ ih => exact .single ih
  | joined _ _ ih => exact .group (List.forall_mem_map.mpr ih)

/-! ## Rules as rows of terms -/

theorem Continues.append (first : Continues tokens) (second : Continues rest) :
    Continues (tokens ++ rest) := by
  induction first with
  | nil => exact second
  | joined connective term _ ih =>
      rw [List.cons_append, List.append_assoc]
      exact .joined connective term ih

private theorem continues_of_members {connective : Connective} {members : List (List Token)}
    (splits : ∀ member ∈ members, ∃ term others, member = term ++ others ∧ IsRule .term term ∧
      Continues others) :
    Continues (members.flatMap fun phrase => .mark (joint connective) :: phrase) := by
  induction members with
  | nil => exact .nil
  | cons member members ih =>
      obtain ⟨atMember, behind⟩ := List.forall_mem_cons.mp splits
      obtain ⟨term, others, split, isTerm, continues⟩ := atMember
      have joined := Continues.joined connective isTerm (continues.append (ih behind))
      simpa [split] using joined

theorem IsRule.split {level : Level} (isRule : IsRule level tokens) :
    ∃ term others, tokens = term ++ others ∧ IsRule .term term ∧ Continues others := by
  induction isRule with
  | enclosed inner _ => exact ⟨_, [], (List.append_nil _).symm, .enclosed inner, .nil⟩
  | negation value => exact ⟨_, [], (List.append_nil _).symm, .negation value, .nil⟩
  | binary left right => exact ⟨_, [], (List.append_nil _).symm, .binary left right, .nil⟩
  | group _ ih =>
      obtain ⟨atFirst, behind⟩ := List.forall_mem_cons.mp ih
      obtain ⟨term, more, rfl, isTerm, continues⟩ := atFirst
      exact ⟨term, _, List.append_assoc _ _ _, isTerm,
        continues.append (continues_of_members behind)⟩

theorem IsRule.append {connective : Connective} (isRule : IsRule (.group connective) tokens)
    (member : IsRule (memberLevel connective) rest) :
    IsRule (.group connective) (tokens ++ .mark (joint connective) :: rest) := by
  cases isRule with
  | @group _ first others members =>
      have all : ∀ candidate ∈ first :: (others ++ [rest]),
          IsRule (memberLevel connective) candidate := by
        intro candidate included
        rw [← List.cons_append, List.mem_append, List.mem_singleton] at included
        rcases included with before | last
        · exact members candidate before
        · exact last ▸ member
      simpa [row] using IsRule.group all

theorem IsRule.cons {connective : Connective} (member : IsRule (memberLevel connective) tokens)
    (isRule : IsRule (.group connective) rest) :
    IsRule (.group connective) (tokens ++ .mark (joint connective) :: rest) := by
  cases isRule with
  | @group _ first others members =>
      rw [← row_cons (List.cons_ne_nil _ _)]
      exact .group (List.forall_mem_cons.mpr ⟨member, members⟩)

theorem IsRule.continued (conjunction : IsRule (.group .all) tokens) (continues : Continues rest) :
    IsRule (.group .any) (tokens ++ rest) := by
  induction continues generalizing tokens with
  | nil =>
      rw [List.append_nil]
      exact .single conjunction
  | joined connective isTerm continues ih =>
      cases connective with
      | all => simpa using ih (conjunction.append isTerm)
      | any => exact .cons conjunction (ih (.single isTerm))

end Grammar

end Verdict
