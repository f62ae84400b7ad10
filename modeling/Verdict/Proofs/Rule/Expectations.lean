import Verdict.Proofs.Rule.Completeness
import Verdict.Proofs.Rule.Forms

/-! Which tokens can stand next in a rule. Behind the tokens that a rule begins with, a row of things is
expected. The next token meets the first of them or stands in no rule that begins so. -/

set_option autoImplicit false

namespace Verdict

namespace Grammar

/-- What encloses values with commas between them. -/
inductive Enclosure where
  | array
  | arguments

def Enclosure.closing : Enclosure → Mark
  | .array => .closeBracket
  | .arguments => .closeParen

/-- What the grammar expects next. The items of an enclosure are expected with its closing mark, from
behind the opening mark or from behind an item, and what follows a term in parentheses likewise. -/
inductive Expectation where
  | value
  | operator
  | mark (sign : Mark)
  | items (enclosure : Enclosure)
  | moreItems (enclosure : Enclosure)
  | term
  | moreTerms

inductive Meets : Expectation → List Token → Prop where
  | value {tokens : List Token} : IsValue tokens → Meets .value tokens
  | operator (operator : Operator) : Meets .operator [.mark operator.mark]
  | mark {sign : Mark} : Meets (.mark sign) [.mark sign]
  | noItem {enclosure : Enclosure} : Meets (.items enclosure) [.mark enclosure.closing]
  | items {enclosure : Enclosure} {item rest : List Token} : IsValue item →
      Meets (.moreItems enclosure) rest → Meets (.items enclosure) (item ++ rest)
  | lastItem {enclosure : Enclosure} : Meets (.moreItems enclosure) [.mark enclosure.closing]
  | nextItem {enclosure : Enclosure} {item rest : List Token} : IsValue item →
      Meets (.moreItems enclosure) rest →
      Meets (.moreItems enclosure) (.mark .comma :: (item ++ rest))
  | term {tokens : List Token} : IsRule .term tokens → Meets .term tokens
  | lastTerm : Meets .moreTerms [.mark .closeParen]
  | nextTerm (connective : Connective) {tokens rest : List Token} : IsRule .term tokens →
      Meets .moreTerms rest → Meets .moreTerms (.mark (joint connective) :: (tokens ++ rest))

/-- The tokens meet one expectation after the other. -/
inductive Spans : List Expectation → List Token → Prop where
  | nil : Spans [] []
  | cons {expectation : Expectation} {others : List Expectation} {tokens rest : List Token} :
      Meets expectation tokens → Spans others rest → Spans (expectation :: others) (tokens ++ rest)

/-- The tokens make a rule of what comes before the expectations. -/
def Completes (expected : List Expectation) (tokens : List Token) : Prop :=
  ∃ front behind, tokens = front ++ behind ∧ Spans expected front ∧ Continues behind

/-- What is expected behind the first token of a value. -/
def afterFirst? : Token → Option (List Expectation)
  | .number _ => some []
  | .truth _ => some []
  | .string _ => some []
  | .mark .openBracket => some [.items .array]
  | .identifier _ => some [.mark .openParen, .items .arguments]
  | _ => none

/-- Whether a token is between two terms. -/
def isJoint (token : Token) : Bool := token = .mark .all || token = .mark .any

/-- What is expected behind a token in place of the expectation that it meets. -/
def Expectation.step? : Expectation → Token → Option (List Expectation)
  | .value, token => afterFirst? token
  | .operator, .mark sign => sign.operator?.map fun _ => []
  | .operator, _ => none
  | .mark sign, token => if token = .mark sign then some [] else none
  | .items enclosure, token =>
      if token = .mark enclosure.closing then some []
      else (afterFirst? token).map (· ++ [.moreItems enclosure])
  | .moreItems enclosure, token =>
      if token = .mark enclosure.closing then some []
      else if token = .mark .comma then some [.value, .moreItems enclosure]
      else none
  | .term, token =>
      if token = .mark .openParen then some [.term, .moreTerms]
      else if token = .mark .negation then some [.value]
      else (afterFirst? token).map (· ++ [.operator, .value])
  | .moreTerms, token =>
      if token = .mark .closeParen then some []
      else if isJoint token then some [.term, .moreTerms]
      else none

/-- What is expected behind one more token. When nothing is, the rule may end or be joined. -/
def step? : List Expectation → Token → Option (List Expectation)
  | [], token => if isJoint token then some [.term] else none
  | expectation :: others, token => (expectation.step? token).map (· ++ others)

/-- What is expected behind more tokens. -/
def run? (expected : List Expectation) (tokens : List Token) : Option (List Expectation) :=
  tokens.foldlM step? expected

variable {token : Token} {tokens rest : List Token}

theorem isRule_iff : IsRule (.group .any) tokens ↔ Completes [.term] tokens := by
  constructor
  · intro isRule
    obtain ⟨term, others, rfl, isTerm, continues⟩ := isRule.split
    refine ⟨term, others, rfl, ?_, continues⟩
    simpa using Spans.cons (.term isTerm) .nil
  · intro completes
    obtain ⟨front, behind, rfl, spans, continues⟩ := completes
    cases spans with
    | cons met ends =>
        cases met with
        | term isTerm =>
            cases ends
            rw [List.append_nil]
            exact .continued (.single isTerm) continues

/-! ## Expectations -/

private theorem meets_moreItems_iff {enclosure : Enclosure} :
    Meets (.moreItems enclosure) tokens ↔
      ∃ items : List (List Token), (∀ item ∈ items, IsValue item) ∧
      tokens = (items.flatMap fun item => .mark .comma :: item) ++ [.mark enclosure.closing] := by
  constructor
  · intro met
    generalize expected : Expectation.moreItems enclosure = expectation at met
    induction met with
    | lastItem =>
        cases expected
        exact ⟨[], by simp, by simp⟩
    | @nextItem _ item rest value _ ih =>
        cases expected
        obtain ⟨items, values, rfl⟩ := ih rfl
        exact ⟨item :: items, List.forall_mem_cons.mpr ⟨value, values⟩, by simp⟩
    | _ => cases expected
  · intro listed
    obtain ⟨items, values, rfl⟩ := listed
    induction items with
    | nil => exact .lastItem
    | cons item items ih =>
        obtain ⟨value, values⟩ := List.forall_mem_cons.mp values
        simpa using Meets.nextItem value (ih values)

private theorem meets_items_iff {enclosure : Enclosure} :
    Meets (.items enclosure) tokens ↔ ∃ items, (∀ item ∈ items, IsValue item) ∧
      tokens = row .comma items ++ [.mark enclosure.closing] := by
  constructor
  · intro met
    cases met with
    | noItem => exact ⟨[], by simp, by simp [row]⟩
    | @items _ item rest value more =>
        obtain ⟨items, values, rfl⟩ := meets_moreItems_iff.mp more
        exact ⟨item :: items, List.forall_mem_cons.mpr ⟨value, values⟩, by simp [row]⟩
  · intro listed
    obtain ⟨items, values, rfl⟩ := listed
    cases items with
    | nil => exact .noItem
    | cons item items =>
        obtain ⟨value, values⟩ := List.forall_mem_cons.mp values
        rw [row, List.append_assoc]
        exact .items value (meets_moreItems_iff.mpr ⟨items, values, rfl⟩)

theorem Spans.append {first second : List Expectation} (spans : Spans first tokens)
    (further : Spans second rest) : Spans (first ++ second) (tokens ++ rest) := by
  induction spans with
  | nil => exact further
  | cons met _ ih =>
      rw [List.cons_append, List.append_assoc]
      exact .cons met ih

theorem Spans.split {first second : List Expectation} (spans : Spans (first ++ second) tokens) :
    ∃ front behind, tokens = front ++ behind ∧ Spans first front ∧ Spans second behind := by
  induction first generalizing tokens with
  | nil => exact ⟨[], tokens, rfl, .nil, spans⟩
  | cons expectation first ih =>
      cases spans with
      | @cons _ _ met others meets spans =>
          obtain ⟨front, behind, rfl, spans, further⟩ := ih spans
          exact ⟨met ++ front, behind, (List.append_assoc _ _ _).symm, .cons meets spans, further⟩

theorem spans_singleton_iff {expectation : Expectation} :
    Spans [expectation] tokens ↔ Meets expectation tokens := by
  constructor
  · intro spans
    cases spans with
    | cons met ends =>
        cases ends
        rwa [List.append_nil]
  · intro met
    simpa using Spans.cons met .nil

/-! ## One more token -/

private theorem isValue_cons_iff :
    IsValue (token :: rest) ↔ ∃ next, afterFirst? token = some next ∧ Spans next rest := by
  constructor
  · intro value
    cases value with
    | number => exact ⟨_, rfl, .nil⟩
    | truth => exact ⟨_, rfl, .nil⟩
    | string => exact ⟨_, rfl, .nil⟩
    | array values =>
        exact ⟨_, rfl, spans_singleton_iff.mpr (meets_items_iff.mpr ⟨_, values, rfl⟩)⟩
    | call values =>
        have listed : Meets (.items .arguments) _ := meets_items_iff.mpr ⟨_, values, rfl⟩
        exact ⟨_, rfl, .cons .mark (spans_singleton_iff.mpr listed)⟩
  · intro started
    obtain ⟨next, first, spans⟩ := started
    unfold afterFirst? at first
    split at first
    · cases first
      cases spans
      exact .number _
    · cases first
      cases spans
      exact .truth _
    · cases first
      cases spans
      exact .string _
    · cases first
      obtain ⟨items, values, rfl⟩ := meets_items_iff.mp (spans_singleton_iff.mp spans)
      exact .array values
    · cases first
      cases spans with
      | cons opened spans =>
          cases opened
          obtain ⟨items, values, rfl⟩ := meets_items_iff.mp (spans_singleton_iff.mp spans)
          exact .call values
    · cases first

theorem IsValue.exists_cons (value : IsValue tokens) :
    ∃ token rest, tokens = token :: rest := by
  cases value with
  | number => exact ⟨_, _, rfl⟩
  | truth => exact ⟨_, _, rfl⟩
  | string => exact ⟨_, _, rfl⟩
  | array => exact ⟨_, _, rfl⟩
  | call => exact ⟨_, _, rfl⟩

/-- A row that begins with a value begins with the first token of the value, which is not the mark
that stands there otherwise. -/
private theorem IsValue.first (value : IsValue tokens) {behind : List Token}
    (split : token :: rest = tokens ++ behind) :
    ∃ next inside, rest = inside ++ behind ∧ afterFirst? token = some next ∧ Spans next inside ∧
      ∀ sign ≠ .openBracket, token ≠ .mark sign := by
  obtain ⟨first, inside, rfl⟩ := value.exists_cons
  obtain ⟨rfl, rfl⟩ := List.cons.inj split
  obtain ⟨next, started, spans⟩ := isValue_cons_iff.mp value
  refine ⟨next, inside, rfl, started, spans, ?_⟩
  intro sign other same
  subst same
  cases sign with
  | openBracket => exact other rfl
  | _ => cases started

theorem Enclosure.closing_ne (enclosure : Enclosure) :
    enclosure.closing ≠ .openBracket ∧ enclosure.closing ≠ .comma := by
  cases enclosure <;> decide

private theorem items_cons_iff {enclosure : Enclosure} :
    Meets (.items enclosure) (token :: rest) ↔
      ∃ next, (Expectation.items enclosure).step? token = some next ∧ Spans next rest := by
  constructor
  · intro met
    generalize whole : token :: rest = row at met
    cases met with
    | noItem =>
        obtain ⟨rfl, rfl⟩ := List.cons.inj whole
        exact ⟨[], by simp [Expectation.step?], .nil⟩
    | items value more =>
        obtain ⟨next, inside, rfl, started, spans, noMark⟩ := value.first whole
        -- no value begins with a closing mark
        have open_ := noMark _ enclosure.closing_ne.1
        exact ⟨_, by simp [Expectation.step?, open_, started],
          spans.append (spans_singleton_iff.mpr more)⟩
  · intro stepped
    obtain ⟨next, stepped, spans⟩ := stepped
    simp only [Expectation.step?] at stepped
    split at stepped
    · rename_i closes
      cases stepped
      cases spans
      exact closes ▸ .noItem
    · obtain ⟨first, started, rfl⟩ := Option.map_eq_some_iff.mp stepped
      obtain ⟨inside, behind, rfl, spans, more⟩ := spans.split
      exact .items (isValue_cons_iff.mpr ⟨first, started, spans⟩) (spans_singleton_iff.mp more)

private theorem moreItems_cons_iff {enclosure : Enclosure} :
    Meets (.moreItems enclosure) (token :: rest) ↔
      ∃ next, (Expectation.moreItems enclosure).step? token = some next ∧ Spans next rest := by
  constructor
  · intro met
    cases met with
    | lastItem => exact ⟨[], by simp [Expectation.step?], .nil⟩
    | nextItem value more =>
        have open_ := enclosure.closing_ne.2.symm
        exact ⟨_, by simp [Expectation.step?, open_],
          .cons (.value value) (spans_singleton_iff.mpr more)⟩
  · intro stepped
    obtain ⟨next, stepped, spans⟩ := stepped
    simp only [Expectation.step?] at stepped
    split at stepped
    · rename_i closes
      cases stepped
      cases spans
      exact closes ▸ .lastItem
    · split at stepped
      · rename_i comma
        cases stepped
        cases spans with
        | cons met spans =>
            cases met with
            | value value => exact comma ▸ .nextItem value (spans_singleton_iff.mp spans)
      · cases stepped

private theorem meets_moreTerms_iff :
    Meets .moreTerms tokens ↔
      ∃ others, Continues others ∧ tokens = others ++ [.mark .closeParen] := by
  constructor
  · intro met
    generalize expected : Expectation.moreTerms = expectation at met
    induction met with
    | lastTerm => exact ⟨[], .nil, rfl⟩
    | nextTerm connective term _ ih =>
        obtain ⟨others, continues, rfl⟩ := ih rfl
        exact ⟨_, .joined connective term continues, by simp⟩
    | _ => cases expected
  · intro closed
    obtain ⟨others, continues, rfl⟩ := closed
    induction continues with
    | nil => exact .lastTerm
    | joined connective term _ ih =>
        rw [List.cons_append, List.append_assoc]
        exact .nextTerm connective term ih

private theorem term_cons_iff :
    Meets .term (token :: rest) ↔
      ∃ next, Expectation.term.step? token = some next ∧ Spans next rest := by
  constructor
  · intro met
    cases met with
    | term isTerm =>
        generalize whole : token :: rest = row at isTerm
        cases isTerm with
        | enclosed isRule =>
            obtain ⟨rfl, rfl⟩ := List.cons.inj whole
            obtain ⟨term, others, rfl, isTerm, continues⟩ := isRule.split
            have closed := meets_moreTerms_iff.mpr ⟨others, continues, rfl⟩
            refine ⟨_, rfl, ?_⟩
            rw [List.append_assoc]
            exact .cons (.term isTerm) (spans_singleton_iff.mpr closed)
        | negation value =>
            obtain ⟨rfl, rfl⟩ := List.cons.inj whole
            exact ⟨_, rfl, spans_singleton_iff.mpr (.value value)⟩
        | @binary lefts rights operator left right =>
            obtain ⟨next, inside, rfl, started, spans, noMark⟩ := left.first whole
            have noParen := noMark .openParen (by decide)
            have noNegation := noMark .negation (by decide)
            have behind := Spans.cons (.operator operator)
              (spans_singleton_iff.mpr (.value right))
            exact ⟨_, by simp [Expectation.step?, noParen, noNegation, started],
              spans.append behind⟩
  · intro stepped
    obtain ⟨next, stepped, spans⟩ := stepped
    simp only [Expectation.step?] at stepped
    split at stepped
    · rename_i opens
      cases stepped
      cases spans with
      | cons met spans =>
          cases met with
          | term isTerm =>
              obtain ⟨others, continues, rfl⟩ :=
                meets_moreTerms_iff.mp (spans_singleton_iff.mp spans)
              have inner := IsRule.continued (.single isTerm) continues
              rw [opens, ← List.append_assoc]
              exact .term (.enclosed inner)
    · split at stepped
      · rename_i negates
        cases stepped
        cases spans_singleton_iff.mp spans with
        | value value => exact negates ▸ .term (.negation value)
      · obtain ⟨first, started, rfl⟩ := Option.map_eq_some_iff.mp stepped
        obtain ⟨inside, behind, rfl, leads, further⟩ := spans.split
        cases further with
        | cons met further =>
            cases met with
            | operator =>
                cases spans_singleton_iff.mp further with
                | value right =>
                    have left := isValue_cons_iff.mpr ⟨first, started, leads⟩
                    exact .term (.binary left right)

theorem isJoint_iff : isJoint token = true ↔ ∃ connective, token = .mark (joint connective) := by
  simp only [isJoint, Bool.or_eq_true, decide_eq_true_eq]
  constructor
  · intro joins
    rcases joins with rfl | rfl
    · exact ⟨.all, rfl⟩
    · exact ⟨.any, rfl⟩
  · intro joins
    obtain ⟨connective, rfl⟩ := joins
    cases connective with
    | all => exact .inl rfl
    | any => exact .inr rfl

private theorem moreTerms_cons_iff :
    Meets .moreTerms (token :: rest) ↔
      ∃ next, Expectation.moreTerms.step? token = some next ∧ Spans next rest := by
  constructor
  · intro met
    cases met with
    | lastTerm => exact ⟨[], rfl, .nil⟩
    | nextTerm connective isTerm more =>
        refine ⟨[.term, .moreTerms], ?_, .cons (.term isTerm) (spans_singleton_iff.mpr more)⟩
        cases connective <;> rfl
  · intro stepped
    obtain ⟨next, stepped, spans⟩ := stepped
    simp only [Expectation.step?] at stepped
    split at stepped
    · rename_i closes
      cases stepped
      cases spans
      exact closes ▸ .lastTerm
    · split at stepped
      · rename_i joins
        obtain ⟨connective, rfl⟩ := isJoint_iff.mp joins
        cases stepped
        cases spans with
        | cons met spans =>
            cases met with
            | term isTerm => exact .nextTerm connective isTerm (spans_singleton_iff.mp spans)
      · cases stepped

private theorem operator_cons_iff :
    Meets .operator (token :: rest) ↔
      ∃ next, Expectation.operator.step? token = some next ∧ Spans next rest := by
  constructor
  · intro met
    cases met with
    | operator operator =>
        exact ⟨[], by simp [Expectation.step?, operator.operator?_mark], .nil⟩
  · intro stepped
    obtain ⟨next, stepped, spans⟩ := stepped
    cases token with
    | mark sign =>
        obtain ⟨operator, known, rfl⟩ := Option.map_eq_some_iff.mp stepped
        cases spans
        exact Operator.mark_of_operator? known ▸ .operator operator
    | _ => cases stepped

private theorem mark_cons_iff {sign : Mark} :
    Meets (.mark sign) (token :: rest) ↔
      ∃ next, (Expectation.mark sign).step? token = some next ∧ Spans next rest := by
  constructor
  · intro met
    cases met with
    | mark => exact ⟨[], by simp [Expectation.step?], .nil⟩
  · intro stepped
    obtain ⟨next, stepped, spans⟩ := stepped
    simp only [Expectation.step?] at stepped
    split at stepped
    · rename_i same
      cases stepped
      cases spans
      exact same ▸ .mark
    · cases stepped

theorem meets_cons_iff {expectation : Expectation} :
    Meets expectation (token :: rest) ↔
      ∃ next, expectation.step? token = some next ∧ Spans next rest := by
  cases expectation with
  | value =>
      rw [Expectation.step?, ← isValue_cons_iff]
      exact ⟨fun met => by cases met; assumption, .value⟩
  | operator => exact operator_cons_iff
  | mark => exact mark_cons_iff
  | items => exact items_cons_iff
  | moreItems => exact moreItems_cons_iff
  | term => exact term_cons_iff
  | moreTerms => exact moreTerms_cons_iff

/-! ## Rows of tokens -/

theorem Meets.exists_cons {expectation : Expectation} (met : Meets expectation tokens) :
    ∃ token rest, tokens = token :: rest := by
  cases met with
  | value value => exact value.exists_cons
  | items value _ =>
      obtain ⟨token, inside, rfl⟩ := value.exists_cons
      exact ⟨token, _, rfl⟩
  | term isTerm =>
      cases isTerm with
      | binary left _ =>
          obtain ⟨token, inside, rfl⟩ := left.exists_cons
          exact ⟨token, _, rfl⟩
      | _ => exact ⟨_, _, rfl⟩
  | _ => exact ⟨_, _, rfl⟩

theorem completes_cons_iff {expected : List Expectation} :
    Completes expected (token :: rest) ↔
      ∃ next, step? expected token = some next ∧ Completes next rest := by
  constructor
  · intro completes
    obtain ⟨front, behind, split, spans, continues⟩ := completes
    cases spans with
    | nil =>
        -- nothing more is expected, so the token joins a further term
        rw [List.nil_append] at split
        subst split
        cases continues with
        | joined connective isTerm continues =>
            have joins := isJoint_iff.mpr ⟨connective, rfl⟩
            exact ⟨[.term], by simp [step?, joins], _, _, rfl,
              spans_singleton_iff.mpr (.term isTerm), continues⟩
    | @cons expectation others tokens front met spans =>
        obtain ⟨first, inside, rfl⟩ := met.exists_cons
        obtain ⟨rfl, rfl⟩ := List.cons.inj split
        obtain ⟨next, stepped, leads⟩ := meets_cons_iff.mp met
        exact ⟨next ++ others, by simp [step?, stepped], inside ++ front, behind, rfl,
          leads.append spans, continues⟩
  · intro stepped
    obtain ⟨next, stepped, front, behind, rfl, spans, continues⟩ := stepped
    cases expected with
    | nil =>
        simp only [step?] at stepped
        split at stepped
        · rename_i joins
          obtain ⟨connective, rfl⟩ := isJoint_iff.mp joins
          cases stepped
          cases spans_singleton_iff.mp spans with
          | term isTerm => exact ⟨[], _, rfl, .nil, .joined connective isTerm continues⟩
        · cases stepped
    | cons expectation others =>
        obtain ⟨first, met, rfl⟩ := Option.map_eq_some_iff.mp stepped
        obtain ⟨inside, further, rfl, leads, spans⟩ := spans.split
        have met := meets_cons_iff.mpr ⟨first, met, leads⟩
        exact ⟨_, behind, rfl, .cons met spans, continues⟩

@[simp] theorem run?_nil (expected : List Expectation) : run? expected [] = some expected := rfl

theorem run?_append (expected : List Expectation) (tokens rest : List Token) :
    run? expected (tokens ++ rest) = (run? expected tokens).bind (run? · rest) :=
  List.foldlM_append

theorem completes_append_iff {expected : List Expectation} :
    Completes expected (tokens ++ rest) ↔
      ∃ left, run? expected tokens = some left ∧ Completes left rest := by
  induction tokens generalizing expected with
  | nil => simp
  | cons token tokens ih =>
      rw [List.cons_append, completes_cons_iff]
      cases stepped : step? expected token with
      | none => simp [run?, stepped]
      | some next => simpa [run?, stepped] using ih

private theorem exists_meets (expectation : Expectation) : ∃ tokens, Meets expectation tokens := by
  cases expectation with
  | value => exact ⟨_, .value (.truth true)⟩
  | operator => exact ⟨_, .operator .equal⟩
  | mark => exact ⟨_, .mark⟩
  | items => exact ⟨_, .noItem⟩
  | moreItems => exact ⟨_, .lastItem⟩
  | term => exact ⟨_, .term (.negation (.truth true))⟩
  | moreTerms => exact ⟨_, .lastTerm⟩

theorem exists_completes (expected : List Expectation) : ∃ tokens, Completes expected tokens := by
  induction expected with
  | nil => exact ⟨[], [], [], rfl, .nil, .nil⟩
  | cons expectation others ih =>
      obtain ⟨tokens, met⟩ := exists_meets expectation
      obtain ⟨_, front, behind, rfl, spans, continues⟩ := ih
      exact ⟨tokens ++ (front ++ behind), _, behind, (List.append_assoc _ _ _).symm,
        .cons met spans, continues⟩

/-- The expectations can follow the tokens that some rule begins with, and no others. -/
theorem begins_iff : Begins tokens ↔ ∃ left, run? [.term] tokens = some left := by
  constructor
  · intro begins
    obtain ⟨more, isRule⟩ := begins
    obtain ⟨left, ran, -⟩ := completes_append_iff.mp (isRule_iff.mp isRule)
    exact ⟨left, ran⟩
  · intro ran
    obtain ⟨left, ran⟩ := ran
    obtain ⟨more, completes⟩ := exists_completes left
    exact ⟨more, isRule_iff.mpr (completes_append_iff.mpr ⟨left, ran, completes⟩)⟩

/-- While something is expected, more tokens are needed. -/
theorem exists_more {expectation : Expectation} {others : List Expectation}
    (ran : run? [.term] tokens = some (expectation :: others)) :
    ∃ more, more ≠ [] ∧ IsRule (.group .any) (tokens ++ more) := by
  obtain ⟨more, completes⟩ := exists_completes (expectation :: others)
  refine ⟨more, ?_, isRule_iff.mpr (completes_append_iff.mpr ⟨_, ran, completes⟩)⟩
  obtain ⟨front, behind, rfl, spans, -⟩ := completes
  cases spans with
  | cons met _ =>
      obtain ⟨token, rest, rfl⟩ := met.exists_cons
      simp

end Grammar

end Verdict
