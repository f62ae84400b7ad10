import Verdict.Proofs.Rule.Completeness
import Verdict.Proofs.Value.Display
import Verdict.Registry.Discovery
import Verdict.Rule.Printer

/-! The text of a rule that was read is read as the same rule. A rule is written with the
parentheses that its grouping needs, so the tokens of its text need not be those that it was read
from. -/

set_option autoImplicit false

namespace Verdict

mutual

/-- The number literals of a rule. -/
def Rule.numbers : Rule → List Number
  | .combined _ first others => Rule.numbers first ++ Rule.listNumbers others
  | .negation operand => operand.numbers
  | .binary _ left right => left.numbers ++ right.numbers

def Rule.listNumbers : List Rule → List Number
  | [] => []
  | rule :: rules => Rule.numbers rule ++ Rule.listNumbers rules

end

theorem Rule.mem_listNumbers {number : Number} {rule : Rule} {rules : List Rule}
    (included : rule ∈ rules) (member : number ∈ rule.numbers) :
    number ∈ Rule.listNumbers rules := by
  induction rules with
  | nil => simp at included
  | cons first others ih =>
      rw [Rule.listNumbers, List.mem_append]
      rcases List.mem_cons.mp included with rfl | behind
      · exact .inl member
      · exact .inr (ih behind)

/-- A rule and tokens that its text stands for. Only the text of a rule without a connective of its
own is a term. -/
def Rewritten (registry : Registry) (rule : Rule) : Prop :=
  ∃ tokens, Writes rule.characters tokens ∧
    Grammar.Derives registry (if rule.isCombined then .group .any else .term) tokens rule

namespace Rewritten

variable {registry : Registry} {rule : Rule}

theorem group (rewritten : Rewritten registry rule) :
    ∃ tokens, Writes rule.characters tokens ∧
      Grammar.Derives registry (.group .any) tokens rule := by
  obtain ⟨tokens, writes, derived⟩ := rewritten
  refine ⟨tokens, writes, ?_⟩
  cases combined : rule.isCombined with
  | true => simpa [combined] using derived
  | false =>
      have term : Grammar.Derives registry .term tokens rule := by simpa [combined] using derived
      exact .single (.single term)

theorem member (rewritten : Rewritten registry rule) :
    ∃ tokens, Writes (rule.enclosed rule.characters) tokens ∧
      Grammar.Derives registry .term tokens rule := by
  obtain ⟨tokens, writes, derived⟩ := rewritten
  cases combined : rule.isCombined with
  | true =>
      refine ⟨_, ?_, .enclosed (by simpa [combined] using derived)⟩
      rw [Rule.enclosed, if_pos combined]
      exact writes.between .openParen .closeParen rfl rfl ⟨rfl, rfl⟩ (by simp)
  | false =>
      refine ⟨tokens, ?_, by simpa [combined] using derived⟩
      simpa [Rule.enclosed, combined] using writes

theorem members {rules : List Rule} (rewritten : ∀ rule ∈ rules, Rewritten registry rule) :
    ∃ members : List (List Token × Rule), members.map Prod.snd = rules ∧
      ∀ member ∈ members, Writes (member.2.enclosed member.2.characters) member.1 ∧
        Grammar.Derives registry .term member.1 member.2 := by
  induction rules with
  | nil => exact ⟨[], rfl, by simp⟩
  | cons first others ih =>
      obtain ⟨members, same, written⟩ := ih fun rule included => rewritten rule (by simp [included])
      obtain ⟨tokens, writes, derived⟩ := (rewritten first (by simp)).member
      refine ⟨(tokens, first) :: members, by simp [same], ?_⟩
      intro member included
      rcases List.mem_cons.mp included with rfl | behind
      · exact ⟨writes, derived⟩
      · exact written member behind

end Rewritten

private theorem delimited_others (connective : Connective) (rules : List Rule) {behind : List Char}
    (delimited : Delimited behind) :
    Delimited (Rule.otherCharacters connective rules ++ behind) := by
  cases rules with
  | nil => simpa [Rule.otherCharacters] using delimited
  | cons first others => exact .cons (by simp)

private theorem writes_others (connective : Connective) {members : List (List Token × Rule)}
    (written : ∀ member ∈ members, Writes (member.2.enclosed member.2.characters) member.1) :
    Writes (Rule.otherCharacters connective (members.map Prod.snd))
      ((members.map Prod.fst).flatMap fun phrase =>
        .mark (Grammar.joint connective) :: phrase) := by
  induction members with
  | nil =>
      intro behind more _ lexes
      simpa [Rule.otherCharacters] using lexes
  | cons first others ih =>
      intro behind more delimited lexes
      have further := ih (fun member included => written member (by simp [included])) behind more
        delimited lexes
      have member := written first (by simp) _ _ (delimited_others connective _ delimited) further
      have symbol : connective.symbol = (Grammar.joint connective).text := by
        cases connective <;> rfl
      have joint := (@Lexes.mark (Grammar.joint connective) _ _ (.inr rfl) member.blank).blank
      simpa [Rule.otherCharacters, symbol] using joint

private theorem rewritten_combined {registry : Registry} {connective : Connective} {first : Rule}
    {others : List Rule} (several : others ≠ [])
    (rewritten : ∀ rule ∈ first :: others, Rewritten registry rule) :
    Rewritten registry (.combined connective first others) := by
  obtain ⟨tokens, writesFirst, derivedFirst⟩ := (rewritten first (by simp)).member
  have rewrittenOthers : ∀ rule ∈ others, Rewritten registry rule :=
    fun rule included => rewritten rule (List.mem_cons_of_mem first included)
  obtain ⟨members, rfl, written⟩ := Rewritten.members rewrittenOthers
  have atLevel {memberTokens : List Token} {member : Rule}
      (derived : Grammar.Derives registry .term memberTokens member) :
      Grammar.Derives registry (Grammar.memberLevel connective) memberTokens member := by
    cases connective with
    | all => exact derived
    | any => exact .single derived
  have joined : Grammar.Derives registry (.group connective)
      (Grammar.row (Grammar.joint connective) (((tokens, first) :: members).map Prod.fst))
      (.combined connective first (members.map Prod.snd)) := by
    refine @Grammar.Derives.joined registry connective (tokens, first) members
      (by simpa using several) ?_
    intro member included
    rcases List.mem_cons.mp included with rfl | behind
    · exact atLevel derivedFirst
    · exact atLevel (written member behind).2
  refine ⟨Grammar.row (Grammar.joint connective) (((tokens, first) :: members).map Prod.fst),
    ?_, ?_⟩
  · have writesOthers := writes_others connective fun member included => (written member included).1
    intro behind more delimited lexes
    have further := writesOthers behind more delimited lexes
    have whole := writesFirst _ _ (delimited_others connective _ delimited) further
    simpa [Rule.characters, Grammar.row] using whole
  · cases connective with
    | all => exact .single joined
    | any => exact joined

private theorem rewritten_negation {registry : Registry} {tokens : List Token}
    {operand retyped : Value} (spelled : Grammar.Spells registry tokens operand)
    (typed : Grammar.Retyped .boolean operand retyped)
    (writes : Writes retyped.characters tokens) :
    Rewritten registry (.negation retyped) := by
  refine ⟨_, ?_, .negation spelled typed⟩
  intro behind more delimited lexes
  have whole := @Lexes.punctuation _ _ (writes behind more delimited lexes) .negation '^' rfl rfl
  simpa [Rule.characters] using whole

private theorem rewritten_binary {registry : Registry} {lefts rights : List Token}
    {operator : Operator} {left right retypedLeft retypedRight : Value}
    (spelledLeft : Grammar.Spells registry lefts left)
    (spelledRight : Grammar.Spells registry rights right)
    (typedLeft : Grammar.Retyped operator.role left retypedLeft)
    (typedRight : Grammar.Retyped operator.role right retypedRight)
    (writesLeft : Writes retypedLeft.characters lefts)
    (writesRight : Writes retypedRight.characters rights) :
    Rewritten registry (.binary operator retypedLeft retypedRight) := by
  refine ⟨_, ?_, .binary spelledLeft spelledRight typedLeft typedRight⟩
  intro behind more delimited lexes
  have symbol : operator.symbol = operator.mark.text := by
    cases operator <;> rfl
  have further := (writesRight behind more delimited lexes).blank
  have between := (@Lexes.mark operator.mark _ _ (.inr rfl) further).blank
  have whole := writesLeft _ _ (.cons (by simp)) between
  simpa [Rule.characters, symbol] using whole

theorem Grammar.Derives.rewritten {registry : Registry} {level : Grammar.Level}
    {tokens : List Token} {rule : Rule} (derived : Grammar.Derives registry level tokens rule)
    (scanned : ∀ token ∈ tokens, token.Scanned)
    (readsBack : ∀ number ∈ rule.numbers, number.ReadsBack) : Rewritten registry rule := by
  induction derived with
  | enclosed _ ih => exact ih (fun token member => scanned token (by simp [member])) readsBack
  | negation spelled typed =>
      have scannedOperand := fun token member => scanned token (List.mem_cons_of_mem _ member)
      exact rewritten_negation spelled typed (typed.writes spelled scannedOperand readsBack)
  | binary spelledLeft spelledRight typedLeft typedRight =>
      refine rewritten_binary spelledLeft spelledRight typedLeft typedRight
        (typedLeft.writes spelledLeft ?_ ?_) (typedRight.writes spelledRight ?_ ?_)
      · exact fun token member => scanned token (by simp [member])
      · exact fun number member => readsBack number (by simp [Rule.numbers, member])
      · exact fun token member => scanned token (by simp [member])
      · exact fun number member => readsBack number (by simp [Rule.numbers, member])
  | single _ ih => exact ih scanned readsBack
  | @joined connective first others several _ ih =>
      refine rewritten_combined (by simpa using several) ?_
      intro rule included
      rw [← List.map_cons] at included
      obtain ⟨member, memberIncluded, rfl⟩ := List.mem_map.mp included
      refine ih member memberIncluded ?_ ?_
      · intro token inMember
        exact scanned token (Grammar.mem_row (List.mem_map_of_mem memberIncluded) inMember)
      · intro number inMember
        refine readsBack number ?_
        have listed := @Rule.mem_listNumbers number member.2 ((first :: others).map Prod.snd)
          (List.mem_map_of_mem memberIncluded) inMember
        simpa [Rule.listNumbers, Rule.numbers] using listed

private theorem Rule.sameAll_self {rules : List Rule}
    (same : ∀ rule ∈ rules, rule.same rule = true) : Rule.sameAll rules rules = true := by
  induction rules with
  | nil => rw [Rule.sameAll]
  | cons first others ih =>
      have sameFirst := same first (by simp)
      have sameOthers := ih fun rule member => same rule (by simp [member])
      rw [Rule.sameAll, sameFirst, sameOthers]
      rfl

theorem Grammar.Derives.same_self {registry : Registry} {level : Grammar.Level}
    {tokens : List Token} {rule : Rule} (derived : Grammar.Derives registry level tokens rule) :
    rule.same rule = true := by
  induction derived with
  | enclosed _ ih => exact ih
  | negation spelled typed => simp [Rule.same, typed.same_self spelled]
  | binary spelledLeft spelledRight typedLeft typedRight =>
      simp [Rule.same, typedLeft.same_self spelledLeft, typedRight.same_self spelledRight]
  | single _ ih => exact ih
  | @joined connective first others _ _ ih =>
      have sameFirst := ih first (by simp)
      have sameOthers : Rule.sameAll (others.map Prod.snd) (others.map Prod.snd) = true := by
        refine Rule.sameAll_self ?_
        intro rule member
        obtain ⟨other, included, rfl⟩ := List.mem_map.mp member
        exact ih other (List.mem_cons_of_mem _ included)
      simp [Rule.same, sameFirst, sameOthers]

theorem Rewritten.parseRule {registry : Registry} {rule : Rule}
    (rewritten : Rewritten registry rule) : parseRule registry rule.display = .ok rule := by
  obtain ⟨tokens, writes, derived⟩ := rewritten.group
  have lexes : Lexes rule.display.toList tokens := by
    simpa [Rule.display] using writes.lexes
  obtain ⟨spanned, cut, same⟩ := lexes.tokenize
  rw [Verdict.parseRule, cut]
  exact parseTokens_complete (by simpa [Cursor.words, same] using derived)

/-- Writing and reading are inverse on every rule that can be read, as long as the numbers in it
read back from their decimal text. -/
theorem parseRule_display {registry : Registry} {text : String} {rule : Rule}
    (accepted : parseRule registry text = .ok rule)
    (readsBack : ∀ number ∈ rule.numbers, number.ReadsBack) :
    parseRule registry rule.display = .ok rule ∧ rule.same rule = true := by
  unfold parseRule at accepted
  cases cut : tokenize text with
  | error error => simp [cut] at accepted
  | ok spanned =>
      rw [cut] at accepted
      have derived := parseTokens_sound accepted
      have scanned : ∀ token ∈ spanned.map Spanned.token, token.Scanned := by
        intro token member
        obtain ⟨place, included, rfl⟩ := List.mem_map.mp member
        exact Token.scanned_of_scanAll _ cut place included
      exact ⟨(derived.rewritten scanned readsBack).parseRule, derived.same_self⟩

theorem parseRule_display_of_groups :
    ∃ rule, parseRule Registry.standard
        "('$.a' == 'it\\'s' || math.abs(-0) > 1.5) && ^'/b' && [] != [true]" = .ok rule ∧
      (∀ number ∈ rule.numbers, number.ReadsBack) ∧
      parseRule Registry.standard rule.display = .ok rule ∧ rule.same rule = true := by
  have numbers : (parseRule Registry.standard
      "('$.a' == 'it\\'s' || math.abs(-0) > 1.5) && ^'/b' && [] != [true]").toOption.map
        Rule.numbers = some [⟨0x8000000000000000⟩, ⟨0x3FF8000000000000⟩] := by
    decide +kernel
  cases accepted : parseRule Registry.standard
      "('$.a' == 'it\\'s' || math.abs(-0) > 1.5) && ^'/b' && [] != [true]" with
  | error error => simp [accepted, Except.toOption] at numbers
  | ok rule =>
      have listed : rule.numbers = [⟨0x8000000000000000⟩, ⟨0x3FF8000000000000⟩] := by
        simpa [accepted, Except.toOption] using numbers
      have readsBack : ∀ number ∈ rule.numbers, number.ReadsBack := by
        rw [listed]
        unfold Number.ReadsBack
        decide +kernel
      exact ⟨rule, rfl, readsBack, parseRule_display accepted readsBack⟩

end Verdict
