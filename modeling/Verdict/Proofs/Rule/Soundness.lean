import Verdict.Proofs.Rule.Grammar
import Verdict.Proofs.Token.Words

/-! What a reader of rules accepts, the grammar derives. Each reader takes a row of words off its
cursor, and that row spells what the reader answers. -/

set_option autoImplicit false

namespace Verdict

theorem bind_eq_ok {α β ε : Type} {first : Except ε α} {next : α → Except ε β} {result : β}
    (accepted : first >>= next = .ok result) :
    ∃ value, first = .ok value ∧ next value = .ok result := by
  cases first with
  | error error => cases accepted
  | ok value => exact ⟨value, rfl, accepted⟩

theorem Dialect.compile_path {text : String} {address : Address}
    (compiled : Dialect.path.compile text = .ok address) :
    ∃ path, Path.compile text = .ok path ∧ address = .path path := by
  cases result : Path.compile text with
  | error defect => simp [Dialect.compile, result] at compiled
  | ok path => exact ⟨path, rfl, by simpa [Dialect.compile, result] using compiled.symm⟩

theorem Dialect.compile_pointer {text : String} {address : Address}
    (compiled : Dialect.pointer.compile text = .ok address) :
    ∃ pointer, Pointer.compile text = .ok pointer ∧ address = .pointer pointer := by
  cases result : Pointer.compile text with
  | error defect => simp [Dialect.compile, result] at compiled
  | ok pointer => exact ⟨pointer, rfl, by simpa [Dialect.compile, result] using compiled.symm⟩

theorem Registry.bind_eq_ok_iff {registry : Registry} {name : String} {arguments : List Value}
    {call : Call} :
    registry.bind name arguments = .ok call ↔
      ∃ overload, registry.resolve name arguments.length = .ok overload ∧
        call = .mk name arguments overload.signature overload.attached overload.implementation := by
  unfold Registry.bind
  cases resolved : registry.resolve name arguments.length with
  | error error => simp
  | ok overload => simp [eq_comm]

theorem quoted_of_literalOfString {text : String} {value : Value}
    (accepted : literalOfString text = .ok value) : Grammar.Quoted text value := by
  unfold literalOfString at accepted
  dsimp only at accepted
  split at accepted
  · next head =>
      split at accepted
      · next address compiled =>
          cases accepted
          obtain ⟨path, found, rfl⟩ := Dialect.compile_path compiled
          exact .path head found
      · cases accepted
  · next head =>
      split at accepted
      · next address compiled =>
          cases accepted
          obtain ⟨pointer, found, rfl⟩ := Dialect.compile_pointer compiled
          exact .pointer head found
      · cases accepted
  · next notPath notPointer =>
      cases accepted
      exact .plain notPath notPointer

/-- The items that were read from a row of words, each with its own words. -/
def Grammar.SpellsRow (registry : Registry) (tokens : List Token) (values : List Value) : Prop :=
  ∃ items : List (List Token × Value), (∀ item ∈ items, Grammar.Spells registry item.1 item.2) ∧
    tokens = Grammar.row .comma (items.map Prod.fst) ∧ values = items.map Prod.snd

theorem Grammar.row_cons {mark : Mark} {first : List Token} {others : List (List Token)}
    (more : others ≠ []) :
    Grammar.row mark (first :: others) = first ++ .mark mark :: Grammar.row mark others := by
  obtain ⟨second, rest, rfl⟩ := List.exists_cons_of_ne_nil more
  simp [Grammar.row]

namespace Grammar.SpellsRow

variable {registry : Registry} {tokens rest : List Token} {value : Value} {values : List Value}

theorem nil : SpellsRow registry [] [] := ⟨[], by simp, rfl, rfl⟩

theorem single (spelled : Spells registry tokens value) : SpellsRow registry tokens [value] :=
  ⟨[(tokens, value)], by simpa using spelled, by simp [row], rfl⟩

theorem cons (spelled : Spells registry tokens value) (more : values ≠ [])
    (others : SpellsRow registry rest values) :
    SpellsRow registry (tokens ++ .mark .comma :: rest) (value :: values) := by
  obtain ⟨items, itemsSpelled, rfl, rfl⟩ := others
  refine ⟨(tokens, value) :: items, ?_, ?_, rfl⟩
  · intro item included
    rcases List.mem_cons.mp included with rfl | included
    · exact spelled
    · exact itemsSpelled item included
  · rw [List.map_cons, row_cons (by simpa using more)]

end Grammar.SpellsRow

private def ValuesSound (registry : Registry) (fuel : Nat) : Prop :=
  ∀ ⦃cursor after : Cursor⦄ ⦃value : Value⦄, parseValue registry fuel cursor = .ok (value, after) →
    ∃ tokens, cursor.words = tokens ++ after.words ∧ Grammar.Spells registry tokens value

private def ListsSound (registry : Registry) (fuel : Nat) : Prop :=
  ∀ ⦃close : Mark⦄ ⦃cursor after : Cursor⦄ ⦃values : List Value⦄,
    parseList registry fuel close cursor = .ok (values, after) →
    ∃ tokens, cursor.words = tokens ++ .mark close :: after.words ∧
      Grammar.SpellsRow registry tokens values

private def ItemsSound (registry : Registry) (fuel : Nat) : Prop :=
  ∀ ⦃close : Mark⦄ ⦃cursor after : Cursor⦄ ⦃values : List Value⦄,
    parseItems registry fuel close cursor = .ok (values, after) →
    ∃ tokens, cursor.words = tokens ++ .mark close :: after.words ∧ values ≠ [] ∧
      Grammar.SpellsRow registry tokens values

private theorem valuesSound_succ {registry : Registry} {fuel : Nat}
    (lists : ListsSound registry fuel) : ValuesSound registry (fuel + 1) := by
  intro cursor after value accepted
  simp only [parseValue] at accepted
  cases found : cursor.peek? with
  | none => simp [found] at accepted
  | some next =>
      have words := Cursor.words_of_peek? found
      simp only [found] at accepted
      split at accepted
      · next number token =>
          cases accepted
          exact ⟨[.number number], by rw [words, token]; rfl, .number⟩
      · next truth token =>
          cases accepted
          exact ⟨[.truth truth], by rw [words, token]; rfl, .truth⟩
      · next text token =>
          obtain ⟨literal, compiled, finished⟩ := bind_eq_ok accepted
          cases finished
          exact ⟨[.string text], by rw [words, token]; rfl,
            .string (quoted_of_literalOfString compiled)⟩
      · next token =>
          obtain ⟨⟨values, closed⟩, listed, finished⟩ := bind_eq_ok accepted
          cases finished
          obtain ⟨tokens, split, items, spelled, rfl, rfl⟩ := lists listed
          refine ⟨_, ?_, .array spelled⟩
          rw [words, token, split]
          simp
      · next name token =>
          obtain ⟨opened, expected, accepted⟩ := bind_eq_ok accepted
          obtain ⟨⟨values, closed⟩, listed, accepted⟩ := bind_eq_ok accepted
          obtain ⟨call, bound, finished⟩ := bind_eq_ok accepted
          cases finished
          obtain ⟨tokens, split, items, spelled, rfl, rfl⟩ := lists listed
          obtain ⟨overload, resolved, rfl⟩ := Registry.bind_eq_ok_iff.mp bound
          refine ⟨_, ?_, .call spelled (by simpa using resolved)⟩
          rw [words, token, words_of_expectMark expected, split]
          simp
      · cases accepted

private theorem listsSound_succ {registry : Registry} {fuel : Nat}
    (items : ItemsSound registry fuel) : ListsSound registry (fuel + 1) := by
  intro close cursor after values accepted
  simp only [parseList] at accepted
  cases consumed : cursor.consume? (.mark close) with
  | some closed =>
      simp only [consumed] at accepted
      cases accepted
      exact ⟨[], Cursor.words_of_consume? consumed, .nil⟩
  | none =>
      simp only [consumed] at accepted
      obtain ⟨tokens, split, -, spelled⟩ := items accepted
      exact ⟨tokens, split, spelled⟩

private theorem itemsSound_succ {registry : Registry} {fuel : Nat}
    (values : ValuesSound registry fuel) (items : ItemsSound registry fuel) :
    ItemsSound registry (fuel + 1) := by
  intro close cursor after read accepted
  simp only [parseItems] at accepted
  obtain ⟨⟨item, behind⟩, itemRead, accepted⟩ := bind_eq_ok accepted
  obtain ⟨tokens, itemSplit, spelled⟩ := values itemRead
  dsimp only at accepted
  split at accepted
  · next behindComma consumed =>
      obtain ⟨⟨others, closed⟩, othersRead, finished⟩ := bind_eq_ok accepted
      cases finished
      obtain ⟨rest, split, nonempty, othersSpelled⟩ := items othersRead
      refine ⟨_, ?_, by simp, .cons spelled nonempty othersSpelled⟩
      rw [itemSplit, Cursor.words_of_consume? consumed, split]
      simp
  · obtain ⟨closed, expected, finished⟩ := bind_eq_ok accepted
    cases finished
    exact ⟨tokens, by rw [itemSplit, words_of_expectMark expected], by simp, .single spelled⟩

private theorem readers_sound (registry : Registry) (fuel : Nat) :
    ValuesSound registry fuel ∧ ListsSound registry fuel ∧ ItemsSound registry fuel := by
  induction fuel with
  | zero =>
      refine ⟨?_, ?_, ?_⟩
      · intro _ _ _ accepted
        cases accepted
      · intro _ _ _ _ accepted
        cases accepted
      · intro _ _ _ _ accepted
        cases accepted
  | succ fuel ih =>
      obtain ⟨values, lists, items⟩ := ih
      exact ⟨valuesSound_succ lists, listsSound_succ items, itemsSound_succ values items⟩

theorem parseValue_sound {registry : Registry} {fuel : Nat} {cursor after : Cursor} {value : Value}
    (accepted : parseValue registry fuel cursor = .ok (value, after)) :
    ∃ tokens, cursor.words = tokens ++ after.words ∧ Grammar.Spells registry tokens value :=
  (readers_sound registry fuel).1 accepted

/-! ## Operands -/

theorem Value.toNumeric?_eq_some_iff {operand value : Value} :
    operand.toNumeric? = some value ↔
      operand.withRole .numeric = value ∧ value.kind = Role.numeric.nodeKind := by
  simp only [Value.toNumeric?, Option.ite_none_right_eq_some, Option.some.injEq]
  exact ⟨fun ⟨kind, same⟩ => ⟨same, same ▸ kind⟩, fun ⟨same, kind⟩ => ⟨same ▸ kind, same⟩⟩

theorem Value.toBoolean?_eq_some_iff {operand value : Value} :
    operand.toBoolean? = some value ↔
      operand.withRole .boolean = value ∧ value.kind = Role.boolean.nodeKind := by
  simp only [Value.toBoolean?, Option.ite_none_right_eq_some, Option.some.injEq]
  exact ⟨fun ⟨kind, same⟩ => ⟨same, same ▸ kind⟩, fun ⟨same, kind⟩ => ⟨same ▸ kind, same⟩⟩

theorem Operator.retype?_eq_some_iff {operator : Operator} {operand value : Value} :
    operator.retype? operand = some value ↔ operand.withRole operator.role = value ∧
      (operator.role = .object ∨ value.kind = operator.role.nodeKind) := by
  cases operator with
  | both => simpa [Operator.retype?, Operator.role] using Value.toBoolean?_eq_some_iff
  | either => simpa [Operator.retype?, Operator.role] using Value.toBoolean?_eq_some_iff
  | equal => simp [Operator.retype?, Operator.role, Value.toObject]
  | notEqual => simp [Operator.retype?, Operator.role, Value.toObject]
  | greater => simpa [Operator.retype?, Operator.role] using Value.toNumeric?_eq_some_iff
  | greaterEqual => simpa [Operator.retype?, Operator.role] using Value.toNumeric?_eq_some_iff
  | less => simpa [Operator.retype?, Operator.role] using Value.toNumeric?_eq_some_iff
  | lessEqual => simpa [Operator.retype?, Operator.role] using Value.toNumeric?_eq_some_iff

namespace Grammar

/-- What tokens spell is a literal or a bare reference. -/
theorem Spells.shape {registry : Registry} {tokens : List Token} {value : Value}
    (spelled : Spells registry tokens value) :
    Literal value ∨ (∃ address, value = .located none address) ∨
      ∃ call, value = .called none call := by
  cases spelled with
  | number => exact .inl .number
  | truth => exact .inl .boolean
  | array _ => exact .inl .array
  | call _ _ => exact .inr (.inr ⟨_, rfl⟩)
  | string quoted =>
      cases quoted with
      | path _ _ => exact .inr (.inl ⟨_, rfl⟩)
      | pointer _ _ => exact .inr (.inl ⟨_, rfl⟩)
      | plain _ _ => exact .inl .string

theorem Literal.withRole {value : Value} (literal : Literal value) (role : Role) :
    value.withRole role = value := by
  cases literal <;> rfl

/-- An operand that was read takes a role just when the role allows it. -/
theorem Spells.retyped_iff {registry : Registry} {tokens : List Token} {operand value : Value}
    (spelled : Spells registry tokens operand) (role : Role) :
    Retyped role operand value ↔
      operand.withRole role = value ∧ (role = .object ∨ value.kind = role.nodeKind) := by
  rcases spelled.shape with literal | ⟨address, rfl⟩ | ⟨call, rfl⟩
  · rw [literal.withRole]
    constructor
    · intro retyped
      cases retyped with
      | located => cases literal
      | called => cases literal
      | literal _ kind => exact ⟨rfl, kind⟩
    · rintro ⟨rfl, kind⟩
      exact .literal literal kind
  · constructor
    · intro retyped
      cases retyped with
      | located => exact ⟨rfl, .inr rfl⟩
      | literal literal _ => cases literal
    · rintro ⟨rfl, _⟩
      exact .located
  · constructor
    · intro retyped
      cases retyped with
      | called => exact ⟨rfl, .inr rfl⟩
      | literal literal _ => cases literal
    · rintro ⟨rfl, _⟩
      exact .called

theorem Spells.retype?_eq_some_iff {registry : Registry} {tokens : List Token}
    {operand value : Value} (spelled : Spells registry tokens operand) (operator : Operator) :
    operator.retype? operand = some value ↔ Retyped operator.role operand value := by
  rw [Operator.retype?_eq_some_iff, spelled.retyped_iff]

theorem Spells.toBoolean?_eq_some_iff {registry : Registry} {tokens : List Token}
    {operand value : Value} (spelled : Spells registry tokens operand) :
    operand.toBoolean? = some value ↔ Retyped .boolean operand value := by
  rw [Value.toBoolean?_eq_some_iff, spelled.retyped_iff]
  simp

end Grammar

/-! ## Rules -/

theorem retype_eq_ok_iff {retyped : Option Value} {symbol : String} {operand value : Value}
    {position : Nat} :
    retype retyped symbol operand position = .ok value ↔ retyped = some value := by
  cases retyped <;> simp [retype]

theorem Operator.mark_of_operator? {mark : Mark} {operator : Operator}
    (found : mark.operator? = some operator) : mark = operator.mark := by
  cases mark <;> cases found <;> rfl

theorem parseOperator_sound {cursor after : Cursor} {operator : Operator}
    (accepted : parseOperator cursor = .ok (operator, after)) :
    cursor.words = .mark operator.mark :: after.words := by
  unfold parseOperator at accepted
  cases found : cursor.peek? with
  | none => simp [found] at accepted
  | some next =>
      simp only [found] at accepted
      split at accepted
      · next mark token =>
          cases known : mark.operator? with
          | none => simp [known] at accepted
          | some operator =>
              simp only [known] at accepted
              cases accepted
              rw [Cursor.words_of_peek? found, token, Operator.mark_of_operator? known]
      · cases accepted

theorem parseNegation_sound {registry : Registry} {fuel : Nat} {cursor after : Cursor} {rule : Rule}
    (accepted : parseNegation registry fuel cursor = .ok (rule, after)) :
    ∃ tokens, cursor.words = tokens ++ after.words ∧
      Grammar.Derives registry .term (.mark .negation :: tokens) rule := by
  obtain ⟨⟨operand, behind⟩, operandRead, accepted⟩ := bind_eq_ok accepted
  obtain ⟨value, retyped, finished⟩ := bind_eq_ok accepted
  cases finished
  obtain ⟨tokens, split, spelled⟩ := parseValue_sound operandRead
  exact ⟨tokens, split,
    .negation spelled (spelled.toBoolean?_eq_some_iff.mp (retype_eq_ok_iff.mp retyped))⟩

theorem parseBinary_sound {registry : Registry} {fuel : Nat} {cursor after : Cursor} {rule : Rule}
    (accepted : parseBinary registry fuel cursor = .ok (rule, after)) :
    ∃ tokens, cursor.words = tokens ++ after.words ∧ Grammar.Derives registry .term tokens rule := by
  obtain ⟨⟨left, behindLeft⟩, leftRead, accepted⟩ := bind_eq_ok accepted
  obtain ⟨⟨operator, behindOperator⟩, operatorRead, accepted⟩ := bind_eq_ok accepted
  obtain ⟨⟨right, behindRight⟩, rightRead, accepted⟩ := bind_eq_ok accepted
  obtain ⟨retypedLeft, leftRetyped, accepted⟩ := bind_eq_ok accepted
  obtain ⟨retypedRight, rightRetyped, finished⟩ := bind_eq_ok accepted
  cases finished
  obtain ⟨lefts, leftSplit, leftSpelled⟩ := parseValue_sound leftRead
  obtain ⟨rights, rightSplit, rightSpelled⟩ := parseValue_sound rightRead
  refine ⟨_, ?_, .binary leftSpelled rightSpelled
    ((leftSpelled.retype?_eq_some_iff operator).mp (retype_eq_ok_iff.mp leftRetyped))
    ((rightSpelled.retype?_eq_some_iff operator).mp (retype_eq_ok_iff.mp rightRetyped))⟩
  rw [leftSplit, parseOperator_sound operatorRead, rightSplit]
  simp

theorem Grammar.joint_eq_mark (connective : Connective) :
    Grammar.joint connective = connective.mark := by
  cases connective <;> rfl

/-- The members that follow a first one, each behind the mark of the connective. -/
def Grammar.DerivesOthers (registry : Registry) (connective : Connective) (tokens : List Token)
    (rules : List Rule) : Prop :=
  ∃ members : List (List Token × Rule),
    (∀ member ∈ members,
      Grammar.Derives registry (Grammar.memberLevel connective) member.1 member.2) ∧
    tokens = (members.map Prod.fst).flatMap (fun phrase => .mark connective.mark :: phrase) ∧
    rules = members.map Prod.snd

theorem Grammar.DerivesOthers.cons {registry : Registry} {connective : Connective}
    {tokens rest : List Token} {rule : Rule} {rules : List Rule}
    (member : Grammar.Derives registry (Grammar.memberLevel connective) tokens rule)
    (others : Grammar.DerivesOthers registry connective rest rules) :
    Grammar.DerivesOthers registry connective (.mark connective.mark :: (tokens ++ rest))
      (rule :: rules) := by
  obtain ⟨members, derived, rfl, rfl⟩ := others
  refine ⟨(tokens, rule) :: members, ?_, by simp, rfl⟩
  intro candidate included
  rcases List.mem_cons.mp included with rfl | included
  · exact member
  · exact derived candidate included

/-- A first member and those that follow it make a group. -/
theorem Grammar.DerivesOthers.group {registry : Registry} {connective : Connective}
    {tokens rest : List Token} {rule : Rule} {rules : List Rule}
    (first : Grammar.Derives registry (Grammar.memberLevel connective) tokens rule)
    (others : Grammar.DerivesOthers registry connective rest rules) :
    Grammar.Derives registry (.group connective) (tokens ++ rest)
      (joinMembers connective rule rules) := by
  obtain ⟨members, derived, rfl, rfl⟩ := others
  cases members with
  | nil => simpa [joinMembers] using Grammar.Derives.single first
  | cons second others =>
      have joined := @Grammar.Derives.joined registry connective (tokens, rule) (second :: others)
        (List.cons_ne_nil _ _) (by
          intro candidate included
          rcases List.mem_cons.mp included with rfl | included
          · exact first
          · exact derived candidate included)
      simpa [Grammar.row, Grammar.joint_eq_mark, joinMembers] using joined

private def GroupsSound (registry : Registry) (fuel : Nat) : Prop :=
  ∀ ⦃connective : Connective⦄ ⦃cursor after : Cursor⦄ ⦃rule : Rule⦄,
    parseGroup registry fuel connective cursor = .ok (rule, after) →
    ∃ tokens, cursor.words = tokens ++ after.words ∧
      Grammar.Derives registry (.group connective) tokens rule

private def MemberSound (registry : Registry) (fuel : Nat) : Prop :=
  ∀ ⦃connective : Connective⦄ ⦃cursor after : Cursor⦄ ⦃rule : Rule⦄,
    parseMember registry fuel connective cursor = .ok (rule, after) →
    ∃ tokens, cursor.words = tokens ++ after.words ∧
      Grammar.Derives registry (Grammar.memberLevel connective) tokens rule

private def MembersSound (registry : Registry) (fuel : Nat) : Prop :=
  ∀ ⦃connective : Connective⦄ ⦃cursor after : Cursor⦄ ⦃rules : List Rule⦄,
    parseMembers registry fuel connective cursor = .ok (rules, after) →
    ∃ tokens, cursor.words = tokens ++ after.words ∧
      Grammar.DerivesOthers registry connective tokens rules

private def TermsSound (registry : Registry) (fuel : Nat) : Prop :=
  ∀ ⦃cursor after : Cursor⦄ ⦃rule : Rule⦄, parseTerm registry fuel cursor = .ok (rule, after) →
    ∃ tokens, cursor.words = tokens ++ after.words ∧ Grammar.Derives registry .term tokens rule

private theorem groupsSound_succ {registry : Registry} {fuel : Nat}
    (member : MemberSound registry fuel) (members : MembersSound registry fuel) :
    GroupsSound registry (fuel + 1) := by
  intro connective cursor after rule accepted
  simp only [parseGroup] at accepted
  obtain ⟨⟨first, behindFirst⟩, firstRead, accepted⟩ := bind_eq_ok accepted
  obtain ⟨⟨others, behind⟩, othersRead, finished⟩ := bind_eq_ok accepted
  cases finished
  obtain ⟨tokens, firstSplit, firstDerived⟩ := member firstRead
  obtain ⟨rest, split, othersDerived⟩ := members othersRead
  exact ⟨tokens ++ rest, by rw [firstSplit, split, List.append_assoc],
    othersDerived.group firstDerived⟩

private theorem memberSound_succ {registry : Registry} {fuel : Nat}
    (groups : GroupsSound registry fuel) (terms : TermsSound registry fuel) :
    MemberSound registry (fuel + 1) := by
  intro connective cursor after rule accepted
  cases connective with
  | all => exact terms (by simpa only [parseMember] using accepted)
  | any => exact groups (by simpa only [parseMember] using accepted)

private theorem membersSound_succ {registry : Registry} {fuel : Nat}
    (member : MemberSound registry fuel) (members : MembersSound registry fuel) :
    MembersSound registry (fuel + 1) := by
  intro connective cursor after rules accepted
  simp only [parseMembers] at accepted
  cases consumed : cursor.consume? (.mark connective.mark) with
  | none =>
      simp only [consumed] at accepted
      cases accepted
      exact ⟨[], rfl, [], by simp, rfl, rfl⟩
  | some behindMark =>
      simp only [consumed] at accepted
      obtain ⟨⟨first, behindMember⟩, memberRead, accepted⟩ := bind_eq_ok accepted
      obtain ⟨⟨others, behind⟩, membersRead, finished⟩ := bind_eq_ok accepted
      cases finished
      obtain ⟨tokens, memberSplit, memberDerived⟩ := member memberRead
      obtain ⟨rest, split, othersDerived⟩ := members membersRead
      refine ⟨_, ?_, othersDerived.cons memberDerived⟩
      rw [Cursor.words_of_consume? consumed, memberSplit, split]
      simp

private theorem termsSound_succ {registry : Registry} {fuel : Nat}
    (groups : GroupsSound registry fuel) : TermsSound registry (fuel + 1) := by
  intro cursor after rule accepted
  simp only [parseTerm] at accepted
  cases opened : cursor.consume? (.mark .openParen) with
  | some inside =>
      simp only [opened] at accepted
      obtain ⟨⟨inner, behindInner⟩, innerRead, accepted⟩ := bind_eq_ok accepted
      obtain ⟨closed, expected, finished⟩ := bind_eq_ok accepted
      cases finished
      obtain ⟨tokens, split, derived⟩ := groups innerRead
      refine ⟨_, ?_, .enclosed derived⟩
      rw [Cursor.words_of_consume? opened, split, words_of_expectMark expected]
      simp
  | none =>
      simp only [opened] at accepted
      cases negated : cursor.consume? (.mark .negation) with
      | some operand =>
          simp only [negated] at accepted
          obtain ⟨tokens, split, derived⟩ := parseNegation_sound accepted
          exact ⟨_, by rw [Cursor.words_of_consume? negated, split]; rfl, derived⟩
      | none =>
          simp only [negated] at accepted
          exact parseBinary_sound accepted

private theorem rule_readers_sound (registry : Registry) (fuel : Nat) :
    GroupsSound registry fuel ∧ MemberSound registry fuel ∧ MembersSound registry fuel ∧
      TermsSound registry fuel := by
  induction fuel with
  | zero =>
      refine ⟨?_, ?_, ?_, ?_⟩
      · intro _ _ _ _ accepted
        cases accepted
      · intro _ _ _ _ accepted
        cases accepted
      · intro _ _ _ _ accepted
        cases accepted
      · intro _ _ _ accepted
        cases accepted
  | succ fuel ih =>
      obtain ⟨groups, member, members, terms⟩ := ih
      exact ⟨groupsSound_succ member members, memberSound_succ groups terms,
        membersSound_succ member members, termsSound_succ groups⟩

/-- An accepted row of tokens derives the rule that was read from it. -/
theorem parseTokens_sound {registry : Registry} {cursor : Cursor} {rule : Rule}
    (accepted : parseTokens registry cursor = .ok rule) :
    Grammar.Derives registry (.group .any) cursor.words rule := by
  obtain ⟨⟨read, behind⟩, groupRead, finished⟩ := bind_eq_ok accepted
  dsimp only at finished
  cases rest : behind.peek? with
  | some next => simp [rest] at finished
  | none =>
      simp only [rest] at finished
      cases finished
      obtain ⟨tokens, split, derived⟩ := (rule_readers_sound registry _).1 groupRead
      rw [split, Cursor.peek?_eq_none_iff.mp rest, List.append_nil]
      exact derived

theorem parseRule_eq_ok_iff {registry : Registry} {text : String} {rule : Rule} :
    parseRule registry text = .ok rule ↔
      ∃ spanned, tokenize text = .ok spanned ∧
        parseTokens registry ⟨spanned, text.utf8ByteSize⟩ = .ok rule := by
  unfold parseRule
  cases tokenize text <;> simp

end Verdict
