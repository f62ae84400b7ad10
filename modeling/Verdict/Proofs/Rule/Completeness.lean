import Verdict.Proofs.Rule.Soundness

/-! What the grammar derives, a reader of rules accepts. A derivation fixes every choice that a
reader makes by the next word, and each word pays for the readers that are entered before it is passed, so
the fuel of a reader suffices when it is a multiple of the words. -/

set_option autoImplicit false

namespace Verdict

/-! ## Values -/

/-- A value is read off the front of every cursor that stands before its tokens. -/
private def ReadsValue (registry : Registry) (tokens : List Token) (value : Value) : Prop :=
  ∀ (cursor : Cursor) (rest : List Token) (fuel : Nat),
    cursor.words = tokens ++ rest → 3 * tokens.length ≤ fuel →
    ∃ after, parseValue registry fuel cursor = .ok (value, after) ∧ after.words = rest

/-- The first token of a value is no mark but an opening bracket. -/
theorem Grammar.Spells.exists_first {registry : Registry} {tokens : List Token} {value : Value}
    (spelled : Grammar.Spells registry tokens value) :
    ∃ first others, tokens = first :: others ∧
      ∀ mark, first = .mark mark → mark = .openBracket := by
  cases spelled with
  | number => exact ⟨_, _, rfl, nofun⟩
  | truth => exact ⟨_, _, rfl, nofun⟩
  | string _ => exact ⟨_, _, rfl, nofun⟩
  | array _ => exact ⟨_, _, rfl, fun _ same => (Token.mark.inj same).symm⟩
  | call _ _ => exact ⟨_, _, rfl, nofun⟩

theorem Grammar.Spells.head?_ne {registry : Registry} {tokens rest : List Token} {value : Value}
    (spelled : Grammar.Spells registry tokens value) {mark : Mark} (other : mark ≠ .openBracket) :
    (tokens ++ rest).head? ≠ some (.mark mark) := by
  obtain ⟨first, others, rfl, bracket⟩ := spelled.exists_first
  intro head
  exact other (bracket mark (by simpa using head))

private theorem parseItems_complete {registry : Registry} {close : Mark} (closing : close ≠ .comma)
    {items : List (List Token × Value)} (nonempty : items ≠ [])
    (reads : ∀ item ∈ items, ReadsValue registry item.1 item.2)
    {cursor : Cursor} {rest : List Token} {fuel : Nat}
    (words : cursor.words = Grammar.row .comma (items.map Prod.fst) ++ .mark close :: rest)
    (enough : 3 * (Grammar.row .comma (items.map Prod.fst)).length + 1 ≤ fuel) :
    ∃ after, parseItems registry fuel close cursor = .ok (items.map Prod.snd, after) ∧
      after.words = rest := by
  induction items generalizing cursor fuel with
  | nil => exact absurd rfl nonempty
  | cons item others ih =>
      obtain ⟨fuel, rfl⟩ : ∃ less, fuel = less + 1 := ⟨fuel - 1, by omega⟩
      have itemReads := reads item List.mem_cons_self
      cases others with
      | nil =>
          have itemWords : cursor.words = item.1 ++ .mark close :: rest := by
            simpa [Grammar.row] using words
          obtain ⟨behind, itemRead, left⟩ := itemReads cursor _ fuel itemWords (by
            simp [Grammar.row] at enough
            omega)
          have noComma : behind.consume? (.mark .comma) = none :=
            Cursor.consume?_eq_none_iff.mpr (by simpa [left] using closing)
          obtain ⟨after, expected, remaining⟩ := expectMark_of_words left
          refine ⟨after, ?_, remaining⟩
          simp [parseItems, itemRead, noComma, expected, bind, Except.bind, pure, Except.pure]
      | cons second more =>
          have split : Grammar.row .comma ((item :: second :: more).map Prod.fst) =
              item.1 ++ .mark .comma :: Grammar.row .comma ((second :: more).map Prod.fst) :=
            Grammar.row_cons (by simp)
          have itemWords : cursor.words = item.1 ++
              (.mark .comma ::
                (Grammar.row .comma ((second :: more).map Prod.fst) ++ .mark close :: rest)) := by
            rw [words, split]
            simp
          rw [split, List.length_append, List.length_cons] at enough
          have enoughOthers :
              3 * (Grammar.row .comma ((second :: more).map Prod.fst)).length + 1 ≤ fuel := by omega
          obtain ⟨behind, itemRead, left⟩ := itemReads cursor _ fuel itemWords (by omega)
          obtain ⟨next, consumed, remaining⟩ := Cursor.consume?_of_words left
          obtain ⟨after, othersRead, finished⟩ := ih (List.cons_ne_nil _ _)
            (fun member included => reads member (List.mem_cons_of_mem _ included))
            remaining enoughOthers
          refine ⟨after, ?_, finished⟩
          simp [parseItems, itemRead, consumed, othersRead, bind, Except.bind, pure, Except.pure]

private theorem parseList_complete {registry : Registry} {close : Mark} (closing : close ≠ .comma)
    (shut : close ≠ .openBracket) {items : List (List Token × Value)}
    (spelled : ∀ item ∈ items, Grammar.Spells registry item.1 item.2)
    (reads : ∀ item ∈ items, ReadsValue registry item.1 item.2)
    {cursor : Cursor} {rest : List Token} {fuel : Nat}
    (words : cursor.words = Grammar.row .comma (items.map Prod.fst) ++ .mark close :: rest)
    (enough : 3 * (Grammar.row .comma (items.map Prod.fst)).length + 2 ≤ fuel) :
    ∃ after, parseList registry fuel close cursor = .ok (items.map Prod.snd, after) ∧
      after.words = rest := by
  obtain ⟨fuel, rfl⟩ : ∃ less, fuel = less + 1 := ⟨fuel - 1, by omega⟩
  cases items with
  | nil =>
      obtain ⟨after, consumed, remaining⟩ :=
        Cursor.consume?_of_words (by simpa [Grammar.row] using words)
      exact ⟨after, by simp [parseList, consumed], remaining⟩
  | cons item others =>
      have noClose : cursor.consume? (.mark close) = none := by
        rw [Cursor.consume?_eq_none_iff, words, List.map_cons, Grammar.row, List.append_assoc]
        exact (spelled item List.mem_cons_self).head?_ne shut
      obtain ⟨after, itemsRead, remaining⟩ :=
        parseItems_complete closing (List.cons_ne_nil _ _) reads words
          (Nat.le_of_succ_le_succ enough)
      exact ⟨after, by simpa [parseList, noClose] using itemsRead, remaining⟩

private theorem literalOfString_of_quoted {text : String} {value : Value}
    (quoted : Grammar.Quoted text value) : literalOfString text = .ok value := by
  cases quoted with
  | path head compiled => simp [literalOfString, head, Dialect.compile, compiled]
  | pointer head compiled => simp [literalOfString, head, Dialect.compile, compiled]
  | plain notPath notPointer =>
      unfold literalOfString
      dsimp only
      split
      · next head => exact absurd head notPath
      · next head => exact absurd head notPointer
      · rfl

private theorem readsValue_of_spells {registry : Registry} {tokens : List Token} {value : Value}
    (spelled : Grammar.Spells registry tokens value) : ReadsValue registry tokens value := by
  induction spelled with
  | number =>
      intro cursor rest fuel words enough
      obtain ⟨fuel, rfl⟩ : ∃ less, fuel = less + 1 := ⟨fuel - 1, by simp at enough; omega⟩
      obtain ⟨next, found, token⟩ := Cursor.exists_peek? words
      exact ⟨cursor.advance, by simp [parseValue, found, token], by simp [words]⟩
  | truth =>
      intro cursor rest fuel words enough
      obtain ⟨fuel, rfl⟩ : ∃ less, fuel = less + 1 := ⟨fuel - 1, by simp at enough; omega⟩
      obtain ⟨next, found, token⟩ := Cursor.exists_peek? words
      exact ⟨cursor.advance, by simp [parseValue, found, token], by simp [words]⟩
  | string quoted =>
      intro cursor rest fuel words enough
      obtain ⟨fuel, rfl⟩ : ∃ less, fuel = less + 1 := ⟨fuel - 1, by simp at enough; omega⟩
      obtain ⟨next, found, token⟩ := Cursor.exists_peek? words
      refine ⟨cursor.advance, ?_, by simp [words]⟩
      simp [parseValue, found, token, literalOfString_of_quoted quoted, bind, Except.bind, pure,
        Except.pure]
  | @array items spelled reads =>
      intro cursor rest fuel words enough
      obtain ⟨fuel, rfl⟩ : ∃ less, fuel = less + 1 := ⟨fuel - 1, by simp at enough; omega⟩
      obtain ⟨next, found, token⟩ := Cursor.exists_peek? words
      have inside : cursor.advance.words =
          Grammar.row .comma (items.map Prod.fst) ++ .mark .closeBracket :: rest := by
        simp [words]
      have enoughItems : 3 * (Grammar.row .comma (items.map Prod.fst)).length + 2 ≤ fuel := by
        simp only [List.length_cons, List.length_append] at enough
        omega
      obtain ⟨after, listed, remaining⟩ :=
        parseList_complete (by decide) (by decide) spelled reads inside enoughItems
      refine ⟨after, ?_, remaining⟩
      simp [parseValue, found, token, listed, bind, Except.bind, pure, Except.pure]
  | @call name arguments overload spelled resolved reads =>
      intro cursor rest fuel words enough
      obtain ⟨fuel, rfl⟩ : ∃ less, fuel = less + 1 := ⟨fuel - 1, by simp at enough; omega⟩
      obtain ⟨next, found, token⟩ := Cursor.exists_peek? words
      have behindName : cursor.advance.words = .mark .openParen ::
          (Grammar.row .comma (arguments.map Prod.fst) ++ .mark .closeParen :: rest) := by
        simp [words]
      obtain ⟨opened, expected, inside⟩ := expectMark_of_words behindName
      have enoughItems : 3 * (Grammar.row .comma (arguments.map Prod.fst)).length + 2 ≤ fuel := by
        simp only [List.length_cons, List.length_append] at enough
        omega
      obtain ⟨after, listed, remaining⟩ :=
        parseList_complete (by decide) (by decide) spelled reads inside enoughItems
      have bound : registry.bind name (arguments.map Prod.snd) = .ok (.mk name
          (arguments.map Prod.snd) overload.signature overload.attached overload.implementation) :=
        Registry.bind_eq_ok_iff.mpr ⟨overload, by simpa using resolved, rfl⟩
      refine ⟨after, ?_, remaining⟩
      simp [parseValue, found, token, expected, listed, bound, bind, Except.bind, pure, Except.pure]

theorem parseValue_complete {registry : Registry} {tokens rest : List Token} {value : Value}
    (spelled : Grammar.Spells registry tokens value) {cursor : Cursor} {fuel : Nat}
    (words : cursor.words = tokens ++ rest) (enough : 3 * tokens.length ≤ fuel) :
    ∃ after, parseValue registry fuel cursor = .ok (value, after) ∧ after.words = rest :=
  readsValue_of_spells spelled cursor rest fuel words enough

/-! ## Terms -/

theorem Operator.operator?_mark (operator : Operator) :
    operator.mark.operator? = some operator := by
  cases operator <;> rfl

theorem parseOperator_complete {operator : Operator} {cursor : Cursor} {rest : List Token}
    (words : cursor.words = .mark operator.mark :: rest) :
    ∃ after, parseOperator cursor = .ok (operator, after) ∧ after.words = rest := by
  obtain ⟨next, found, token⟩ := Cursor.exists_peek? words
  refine ⟨cursor.advance, ?_, by simp [words]⟩
  simp [parseOperator, found, token, operator.operator?_mark]

/-- A row of tokens in front of a cursor is no longer than what the cursor has left. -/
private theorem length_le_tokens {cursor : Cursor} {tokens rest : List Token}
    (words : cursor.words = tokens ++ rest) : tokens.length ≤ cursor.tokens.length := by
  have lengths := congrArg List.length words
  rw [Cursor.length_words, List.length_append] at lengths
  omega

theorem parseNegation_complete {registry : Registry} {tokens rest : List Token}
    {operand retyped : Value} (spelled : Grammar.Spells registry tokens operand)
    (typed : Grammar.Retyped .boolean operand retyped) {cursor : Cursor}
    (words : cursor.words = tokens ++ rest) :
    ∃ after, parseNegation registry (3 * cursor.tokens.length + 3) cursor =
        .ok (.negation retyped, after) ∧ after.words = rest := by
  have shorter := length_le_tokens words
  have enough : 3 * tokens.length ≤ 3 * cursor.tokens.length + 3 := by omega
  obtain ⟨after, operandRead, remaining⟩ := parseValue_complete spelled words enough
  have accepted := spelled.toBoolean?_eq_some_iff.mpr typed
  refine ⟨after, ?_, remaining⟩
  simp [parseNegation, operandRead, accepted, retype, bind, Except.bind, pure, Except.pure]

theorem parseBinary_complete {registry : Registry} {lefts rights rest : List Token}
    {operator : Operator} {left right retypedLeft retypedRight : Value}
    (leftSpelled : Grammar.Spells registry lefts left)
    (rightSpelled : Grammar.Spells registry rights right)
    (leftTyped : Grammar.Retyped operator.role left retypedLeft)
    (rightTyped : Grammar.Retyped operator.role right retypedRight) {cursor : Cursor}
    (words : cursor.words = lefts ++ .mark operator.mark :: (rights ++ rest)) :
    ∃ after, parseBinary registry (3 * cursor.tokens.length + 3) cursor =
        .ok (.binary operator retypedLeft retypedRight, after) ∧ after.words = rest := by
  have leftShorter := length_le_tokens words
  have rightShorter : rights.length ≤ cursor.tokens.length := by
    have lengths := congrArg List.length words
    simp only [Cursor.length_words, List.length_append, List.length_cons] at lengths
    omega
  have leftEnough : 3 * lefts.length ≤ 3 * cursor.tokens.length + 3 := by omega
  have rightEnough : 3 * rights.length ≤ 3 * cursor.tokens.length + 3 := by omega
  obtain ⟨behindLeft, leftRead, afterLeft⟩ := parseValue_complete leftSpelled words leftEnough
  obtain ⟨behindOperator, operatorRead, afterOperator⟩ := parseOperator_complete afterLeft
  obtain ⟨after, rightRead, remaining⟩ :=
    parseValue_complete rightSpelled afterOperator rightEnough
  have leftAccepted := (leftSpelled.retype?_eq_some_iff operator).mpr leftTyped
  have rightAccepted := (rightSpelled.retype?_eq_some_iff operator).mpr rightTyped
  refine ⟨after, ?_, remaining⟩
  simp [parseBinary, leftRead, operatorRead, rightRead, leftAccepted, rightAccepted, retype, bind,
    Except.bind, pure, Except.pure]

/-! ## Groups -/

/-- The reader of a level. -/
private def readLevel (registry : Registry) (fuel : Nat) :
    Grammar.Level → Cursor → Except Error (Rule × Cursor)
  | .term, cursor => parseTerm registry fuel cursor
  | .group connective, cursor => parseGroup registry fuel connective cursor

/-- How many readers a level enters before the first word is passed. -/
private def depth : Grammar.Level → Nat
  | .term => 1
  | .group .all => 3
  | .group .any => 5

/-- What follows a phrase of a level, so that the phrase could not go on. -/
private def Ends : Grammar.Level → List Token → Prop
  | .term, _ => True
  | .group .all, rest => rest.head? ≠ some (.mark .all)
  | .group .any, rest => rest.head? ≠ some (.mark .all) ∧ rest.head? ≠ some (.mark .any)

private def ReadsRule (registry : Registry) (level : Grammar.Level) (tokens : List Token)
    (rule : Rule) : Prop :=
  ∀ (cursor : Cursor) (rest : List Token) (fuel : Nat),
    cursor.words = tokens ++ rest → Ends level rest → 5 * tokens.length + depth level ≤ fuel →
    ∃ after, readLevel registry fuel level cursor = .ok (rule, after) ∧ after.words = rest

private theorem depth_group (connective : Connective) :
    depth (.group connective) = depth (Grammar.memberLevel connective) + 2 := by
  cases connective <;> rfl

private theorem depth_memberLevel_le (connective : Connective) :
    depth (Grammar.memberLevel connective) ≤ 3 := by
  cases connective <;> decide

private theorem parseMember_eq_readLevel (registry : Registry) (fuel : Nat)
    (connective : Connective) (cursor : Cursor) :
    parseMember registry (fuel + 1) connective cursor =
      readLevel registry fuel (Grammar.memberLevel connective) cursor := by
  cases connective <;> simp [parseMember, readLevel, Grammar.memberLevel]

/-- Behind a member there is the mark of another one or what ends the group. -/
private theorem ends_member {connective : Connective} {rest : List Token}
    (ends : Ends (.group connective) rest) (others : List (List Token × Rule)) :
    Ends (Grammar.memberLevel connective)
      ((others.map Prod.fst).flatMap (fun phrase => .mark connective.mark :: phrase) ++ rest) := by
  cases connective with
  | all => trivial
  | any =>
      cases others with
      | nil => exact ends.1
      | cons member others => simp [Grammar.memberLevel, Ends, Connective.mark]

private theorem head?_ne_of_ends {connective : Connective} {rest : List Token}
    (ends : Ends (.group connective) rest) : rest.head? ≠ some (.mark connective.mark) := by
  cases connective with
  | all => exact ends
  | any => exact ends.2

private theorem parseMembers_complete {registry : Registry} {connective : Connective}
    {members : List (List Token × Rule)}
    (reads : ∀ member ∈ members,
      ReadsRule registry (Grammar.memberLevel connective) member.1 member.2)
    {cursor : Cursor} {rest : List Token} {fuel : Nat}
    (words : cursor.words =
      (members.map Prod.fst).flatMap (fun phrase => .mark connective.mark :: phrase) ++ rest)
    (ends : Ends (.group connective) rest)
    (enough : 5 * ((members.map Prod.fst).flatMap
      (fun phrase => Token.mark connective.mark :: phrase)).length + 1 ≤ fuel) :
    ∃ after, parseMembers registry fuel connective cursor = .ok (members.map Prod.snd, after) ∧
      after.words = rest := by
  induction members generalizing cursor fuel with
  | nil =>
      obtain ⟨fuel, rfl⟩ : ∃ less, fuel = less + 1 := ⟨fuel - 1, by omega⟩
      have left : cursor.words = rest := by simpa using words
      have finished : cursor.consume? (.mark connective.mark) = none :=
        Cursor.consume?_eq_none_iff.mpr (left ▸ head?_ne_of_ends ends)
      exact ⟨cursor, by simp [parseMembers, finished], left⟩
  | cons member others ih =>
      simp only [List.map_cons, List.flatMap_cons, List.length_append, List.length_cons] at enough
      obtain ⟨fuel, rfl⟩ : ∃ less, fuel = less + 2 := ⟨fuel - 2, by omega⟩
      have split : cursor.words = .mark connective.mark :: (member.1 ++
          ((others.map Prod.fst).flatMap (fun phrase => .mark connective.mark :: phrase) ++
            rest)) := by
        simpa using words
      obtain ⟨behindMark, consumed, left⟩ := Cursor.consume?_of_words split
      have shallow := depth_memberLevel_le connective
      obtain ⟨behindMember, memberRead, remaining⟩ :=
        reads member List.mem_cons_self behindMark _ fuel left (ends_member ends others) (by omega)
      have enoughOthers : 5 * ((others.map Prod.fst).flatMap
          (fun phrase => Token.mark connective.mark :: phrase)).length + 1 ≤ fuel + 1 := by
        omega
      obtain ⟨after, othersRead, finished⟩ :=
        ih (fun candidate included => reads candidate (List.mem_cons_of_mem _ included)) remaining
          enoughOthers
      refine ⟨after, ?_, finished⟩
      rw [← parseMember_eq_readLevel] at memberRead
      rw [parseMembers]
      simp [consumed, memberRead, othersRead, bind, Except.bind, pure, Except.pure]

private theorem parseGroup_complete {registry : Registry} {connective : Connective}
    {first : List Token × Rule} {others : List (List Token × Rule)}
    (reads : ∀ member ∈ first :: others,
      ReadsRule registry (Grammar.memberLevel connective) member.1 member.2) :
    ReadsRule registry (.group connective)
      (Grammar.row connective.mark ((first :: others).map Prod.fst))
      (joinMembers connective first.2 (others.map Prod.snd)) := by
  intro cursor rest fuel words ends enough
  simp only [List.map_cons, Grammar.row, List.length_append, depth_group] at enough
  obtain ⟨fuel, rfl⟩ : ∃ less, fuel = less + 2 := ⟨fuel - 2, by omega⟩
  have split : cursor.words = first.1 ++
      ((others.map Prod.fst).flatMap (fun phrase => .mark connective.mark :: phrase) ++ rest) := by
    simpa [Grammar.row] using words
  obtain ⟨behindFirst, firstRead, left⟩ :=
    reads first List.mem_cons_self cursor _ fuel split (ends_member ends others) (by omega)
  have enoughOthers : 5 * ((others.map Prod.fst).flatMap
      (fun phrase => Token.mark connective.mark :: phrase)).length + 1 ≤ fuel + 1 := by
    omega
  obtain ⟨after, othersRead, remaining⟩ := parseMembers_complete
    (fun candidate included => reads candidate (List.mem_cons_of_mem _ included)) left ends
    enoughOthers
  refine ⟨after, ?_, remaining⟩
  rw [← parseMember_eq_readLevel] at firstRead
  simp [readLevel, parseGroup, firstRead, othersRead, bind, Except.bind, pure, Except.pure]

private theorem readsRule_enclosed {registry : Registry} {tokens : List Token} {rule : Rule}
    (reads : ReadsRule registry (.group .any) tokens rule) :
    ReadsRule registry .term (.mark .openParen :: (tokens ++ [.mark .closeParen])) rule := by
  intro cursor rest fuel words _ enough
  simp only [List.length_cons, List.length_append, depth] at enough
  obtain ⟨fuel, rfl⟩ : ∃ less, fuel = less + 1 := ⟨fuel - 1, by omega⟩
  obtain ⟨inside, opened, left⟩ := Cursor.consume?_of_words words
  obtain ⟨behindInner, innerRead, behind⟩ := reads inside (.mark .closeParen :: rest) fuel
    (by simpa using left) ⟨by simp, by simp⟩ (by simp only [depth]; omega)
  obtain ⟨after, expected, remaining⟩ := expectMark_of_words behind
  refine ⟨after, ?_, remaining⟩
  simp only [readLevel] at innerRead
  simp [readLevel, parseTerm, opened, innerRead, expected, bind, Except.bind, pure, Except.pure]

private theorem readsRule_negation {registry : Registry} {tokens : List Token}
    {operand retyped : Value} (spelled : Grammar.Spells registry tokens operand)
    (typed : Grammar.Retyped .boolean operand retyped) :
    ReadsRule registry .term (.mark .negation :: tokens) (.negation retyped) := by
  intro cursor rest fuel words _ enough
  simp only [depth] at enough
  obtain ⟨fuel, rfl⟩ : ∃ less, fuel = less + 1 := ⟨fuel - 1, by omega⟩
  have noParen : cursor.consume? (.mark .openParen) = none :=
    Cursor.consume?_eq_none_iff.mpr (by simp [words])
  obtain ⟨behindMark, negated, left⟩ := Cursor.consume?_of_words words
  obtain ⟨after, accepted, remaining⟩ := parseNegation_complete spelled typed left
  exact ⟨after, by simpa [readLevel, parseTerm, noParen, negated] using accepted, remaining⟩

private theorem readsRule_binary {registry : Registry} {lefts rights : List Token}
    {operator : Operator} {left right retypedLeft retypedRight : Value}
    (leftSpelled : Grammar.Spells registry lefts left)
    (rightSpelled : Grammar.Spells registry rights right)
    (leftTyped : Grammar.Retyped operator.role left retypedLeft)
    (rightTyped : Grammar.Retyped operator.role right retypedRight) :
    ReadsRule registry .term (lefts ++ .mark operator.mark :: rights)
      (.binary operator retypedLeft retypedRight) := by
  intro cursor rest fuel words _ enough
  simp only [depth] at enough
  obtain ⟨fuel, rfl⟩ : ∃ less, fuel = less + 1 := ⟨fuel - 1, by omega⟩
  rw [List.append_assoc] at words
  have noParen : cursor.consume? (.mark .openParen) = none :=
    Cursor.consume?_eq_none_iff.mpr (words ▸ leftSpelled.head?_ne (by decide))
  have noNegation : cursor.consume? (.mark .negation) = none :=
    Cursor.consume?_eq_none_iff.mpr (words ▸ leftSpelled.head?_ne (by decide))
  obtain ⟨after, accepted, remaining⟩ :=
    parseBinary_complete leftSpelled rightSpelled leftTyped rightTyped words
  exact ⟨after, by simpa [readLevel, parseTerm, noParen, noNegation] using accepted, remaining⟩

private theorem readsRule_of_derives {registry : Registry} {level : Grammar.Level}
    {tokens : List Token} {rule : Rule} (derived : Grammar.Derives registry level tokens rule) :
    ReadsRule registry level tokens rule := by
  induction derived with
  | enclosed _ reads => exact readsRule_enclosed reads
  | negation spelled typed => exact readsRule_negation spelled typed
  | binary leftSpelled rightSpelled leftTyped rightTyped =>
      exact readsRule_binary leftSpelled rightSpelled leftTyped rightTyped
  | @single connective tokens rule _ reads =>
      have group :=
        @parseGroup_complete registry connective (tokens, rule) [] (by simpa using reads)
      simpa [Grammar.row, joinMembers] using group
  | @joined connective first others nonempty _ reads =>
      have group := parseGroup_complete reads
      obtain ⟨second, more, rfl⟩ := List.exists_cons_of_ne_nil nonempty
      simpa [joinMembers, Grammar.joint_eq_mark] using group

/-- A row of tokens that derives a rule is accepted, and that rule is read from it. -/
theorem parseTokens_complete {registry : Registry} {cursor : Cursor} {rule : Rule}
    (derived : Grammar.Derives registry (.group .any) cursor.words rule) :
    parseTokens registry cursor = .ok rule := by
  obtain ⟨after, accepted, left⟩ := readsRule_of_derives derived cursor []
    (5 * cursor.tokens.length + 5) (by simp) ⟨by simp, by simp⟩ (by simp [depth])
  simp only [readLevel] at accepted
  simp [parseTokens, accepted, Cursor.peek?_eq_none_iff.mpr left, bind, Except.bind, pure,
    Except.pure]

/-- Reading accepts exactly the rows of tokens that the grammar derives and answers the rule of the
derivation, of which a row has no more than one. -/
theorem parseTokens_eq_ok_iff_derives (registry : Registry) (cursor : Cursor) :
    (∀ rule, parseTokens registry cursor = .ok rule ↔
      Grammar.Derives registry (.group .any) cursor.words rule) ∧
    ∀ left right, Grammar.Derives registry (.group .any) cursor.words left →
      Grammar.Derives registry (.group .any) cursor.words right → left = right := by
  refine ⟨fun rule => ⟨parseTokens_sound, parseTokens_complete⟩, ?_⟩
  intro left right leftDerived rightDerived
  have leftRead := parseTokens_complete leftDerived
  rw [parseTokens_complete rightDerived] at leftRead
  exact (Except.ok.inj leftRead).symm

end Verdict
