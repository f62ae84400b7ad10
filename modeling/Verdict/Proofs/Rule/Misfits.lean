import Mathlib.Data.List.Basic
import Verdict.Proofs.Rule.Expectations

/-! Where a row of tokens ceases to be a rule, there the reader of rules reports it. Each reader is
entered with a row of expectations and left with what remains of them. -/

set_option autoImplicit false

namespace Verdict

open Grammar (Expectation Enclosure step? run? afterFirst?)

/-- The fault names a token that does not fit. -/
inductive Fault.Misfit : Fault → String → Prop where
  | unexpected {shown : String} : Misfit (.unexpectedToken shown) shown
  | expected {wanted shown : String} : Misfit (.expectedToken wanted shown) shown

/-- Whether an error is about the form of a rule. -/
inductive Error.IsOfForm : Error → Prop where
  | misfit {fault : Fault} {shown : String} {position : Nat} :
      fault.Misfit shown → IsOfForm (.parse ⟨fault, position⟩)
  | ended {wanted : String} {position : Nat} : IsOfForm (.parse ⟨.unexpectedEnd wanted, position⟩)

/-- An error of form stands where the expectations cannot go on, or at the end when some are left. -/
inductive Located (expected : List Expectation) (cursor : Cursor) : Error → Prop where
  | misfit {front behind : List Spanned} {next : Spanned} {left : List Expectation} {fault : Fault} :
      cursor.tokens = front ++ next :: behind →
      run? expected (front.map Spanned.token) = some left → step? left next.token = none →
      fault.Misfit next.token.display → Located expected cursor (.parse ⟨fault, next.start⟩)
  | ended {expectation : Expectation} {others : List Expectation} {wanted : String} :
      run? expected cursor.words = some (expectation :: others) →
      Located expected cursor (.parse (cursor.endOfInput wanted))
  | other {error : Error} : ¬ error.IsOfForm → Located expected cursor error

/-- What a reader that is entered with some expectations and leaves others answers. -/
def Follows {α : Type} (behind : α → Cursor) (expected others : List Expectation)
    (cursor : Cursor) : Except Error α → Prop
  | .ok value => (behind value).stop = cursor.stop ∧ ∃ front,
      cursor.tokens = front ++ (behind value).tokens ∧
        run? expected (front.map Spanned.token) = some others
  | .error error => Located expected cursor error

variable {α β : Type} {expected left others : List Expectation} {cursor after : Cursor}
  {behind : α → Cursor} {result : Except Error α} {next : Spanned} {registry : Registry}

theorem Located.prepend {front : List Spanned} {error : Error}
    (split : cursor.tokens = front ++ after.tokens) (same : after.stop = cursor.stop)
    (ran : run? expected (front.map Spanned.token) = some left)
    (located : Located left after error) : Located expected cursor error := by
  cases located with
  | @misfit inside behind next last fault inner further stuck misfit =>
      refine .misfit (?_ : _ = (front ++ inside) ++ next :: behind) ?_ stuck misfit
      · rw [split, inner, List.append_assoc]
      · rw [List.map_append, Grammar.run?_append, ran]
        exact further
  | ended further =>
      rw [Cursor.endOfInput, same]
      refine .ended (Eq.trans ?_ further)
      rw [Cursor.words, split, List.map_append, Grammar.run?_append, ran]
      rfl
  | other formless => exact .other formless

namespace Follows

theorem prepend {front : List Spanned} (split : cursor.tokens = front ++ after.tokens)
    (same : after.stop = cursor.stop)
    (ran : run? expected (front.map Spanned.token) = some left)
    (follows : Follows behind left others after result) :
    Follows behind expected others cursor result := by
  cases result with
  | error error => exact Located.prepend split same ran follows
  | ok value =>
      obtain ⟨stops, inside, inner, further⟩ := follows
      refine ⟨stops.trans same, front ++ inside, ?_, ?_⟩
      · rw [split, inner, List.append_assoc]
      · rw [List.map_append, Grammar.run?_append, ran]
        exact further

theorem bind {first : Except Error α} {next : α → Except Error β} {last : β → Cursor}
    (follows : Follows behind expected left cursor first)
    (further : ∀ value, first = .ok value →
      (behind value).tokens.length ≤ cursor.tokens.length →
      Follows last left others (behind value) (next value)) :
    Follows last expected others cursor (first >>= next) := by
  cases first with
  | error error => exact follows
  | ok value =>
      obtain ⟨same, front, split, ran⟩ := follows
      have shorter := congrArg List.length split
      rw [List.length_append] at shorter
      exact (further value rfl (by omega)).prepend split same ran

/-- A check reads nothing and finds no fault of form. -/
theorem check {first : Except Error β} {next : β → Except Error α}
    (formless : ∀ error, first = .error error → ¬ error.IsOfForm)
    (further : ∀ value, Follows behind expected others cursor (next value)) :
    Follows behind expected others cursor (first >>= next) := by
  cases first with
  | error error => exact Located.other (formless error rfl)
  | ok value => exact further value

theorem done {value : α} (stands : behind value = cursor) :
    Follows behind expected expected cursor (.ok value) := by
  subst stands
  exact ⟨rfl, [], rfl, rfl⟩

theorem advance (found : cursor.peek? = some next)
    (stepped : step? expected next.token = some left)
    (follows : Follows behind left others cursor.advance result) :
    Follows behind expected others cursor result := by
  obtain ⟨rest, split⟩ := List.head?_eq_some_iff.mp found
  have passed : cursor.tokens = [next] ++ cursor.advance.tokens := by simp [Cursor.advance, split]
  exact follows.prepend passed rfl (by simpa [run?] using stepped)

theorem misfit {fault : Fault} (found : cursor.peek? = some next)
    (stuck : step? expected next.token = none) (misfit : fault.Misfit next.token.display) :
    Follows behind expected others cursor (.error (.parse ⟨fault, next.start⟩)) := by
  obtain ⟨rest, split⟩ := List.head?_eq_some_iff.mp found
  have passed : cursor.tokens = [] ++ next :: rest := split
  exact Located.misfit passed rfl stuck misfit

theorem ended {expectation : Expectation} {wanted : String} (atEnd : cursor.peek? = none) :
    Follows behind (expectation :: left) others cursor
      (.error (.parse (cursor.endOfInput wanted))) := by
  have ran : run? (expectation :: left) cursor.words = some (expectation :: left) := by
    rw [Cursor.peek?_eq_none_iff.mp atEnd, Grammar.run?_nil]
  exact Located.ended ran

end Follows

/-! ## Values -/

/-- The next token must begin a value, and behind the value the others are expected. -/
def StartsValue (expected others : List Expectation) (cursor : Cursor) : Prop :=
  expected ≠ [] ∧ ∀ next, cursor.peek? = some next →
    step? expected next.token = (afterFirst? next.token).map (· ++ others)

/-- The next token must be the mark, and behind it the others are expected. -/
def StartsMark (mark : Mark) (expected others : List Expectation) (cursor : Cursor) : Prop :=
  expected ≠ [] ∧ ∀ next, cursor.peek? = some next →
    step? expected next.token = if next.token = .mark mark then some others else none

theorem expectMark_follows {mark : Mark} (starts : StartsMark mark expected others cursor) :
    Follows id expected others cursor (expectMark mark cursor) := by
  obtain ⟨nonempty, steps⟩ := starts
  obtain ⟨expectation, left, rfl⟩ := List.exists_cons_of_ne_nil nonempty
  unfold expectMark Cursor.expect
  cases found : cursor.peek? with
  | none => exact .ended found
  | some next =>
      have stepped := steps next found
      by_cases same : next.token = .mark mark
      · have agrees := Token.same_mark_iff.mpr same
        simp only [agrees, if_true]
        rw [if_pos same] at stepped
        exact .advance found stepped (.done rfl)
      · have differs : next.token.same (.mark mark) = false := by
          simpa using mt Token.same_mark_iff.mp same
        simp only [differs]
        rw [if_neg same] at stepped
        exact .misfit found stepped .expected

private def ValuesFollow (registry : Registry) (fuel : Nat) : Prop :=
  ∀ ⦃expected others : List Expectation⦄ ⦃cursor : Cursor⦄,
    3 * cursor.tokens.length + 1 ≤ fuel → StartsValue expected others cursor →
    Follows Prod.snd expected others cursor (parseValue registry fuel cursor)

private def ListsFollow (registry : Registry) (fuel : Nat) : Prop :=
  ∀ ⦃enclosure : Enclosure⦄ ⦃others : List Expectation⦄ ⦃cursor : Cursor⦄,
    3 * cursor.tokens.length + 3 ≤ fuel →
    Follows Prod.snd (.items enclosure :: others) others cursor
      (parseList registry fuel enclosure.closing cursor)

private def ItemsFollow (registry : Registry) (fuel : Nat) : Prop :=
  ∀ ⦃enclosure : Enclosure⦄ ⦃expected others : List Expectation⦄ ⦃cursor : Cursor⦄,
    3 * cursor.tokens.length + 2 ≤ fuel →
    StartsValue expected (.moreItems enclosure :: others) cursor →
    Follows Prod.snd expected others cursor (parseItems registry fuel enclosure.closing cursor)

theorem Cursor.length_advance (found : cursor.peek? = some next) :
    cursor.advance.tokens.length + 1 = cursor.tokens.length := by
  obtain ⟨rest, split⟩ := List.head?_eq_some_iff.mp found
  simp [Cursor.advance, split]

private theorem startsValue_value (others : List Expectation) (cursor : Cursor) :
    StartsValue (.value :: others) others cursor :=
  ⟨List.cons_ne_nil _ _, fun _ _ => rfl⟩

private theorem startsMark_mark (mark : Mark) (others : List Expectation) (cursor : Cursor) :
    StartsMark mark (.mark mark :: others) others cursor := by
  refine ⟨List.cons_ne_nil _ _, ?_⟩
  intro next _
  simp only [step?, Expectation.step?]
  split <;> rfl

theorem formless_of_literalOfString {text : String} {error : Error}
    (refused : literalOfString text = .error error) : ¬ error.IsOfForm := by
  unfold literalOfString at refused
  dsimp only at refused
  split at refused
  · split at refused
    · cases refused
    · cases refused
      exact nofun
  · split at refused
    · cases refused
    · cases refused
      exact nofun
  · cases refused

private theorem formless_of_resolve {function : Function} {count : Nat} {error : Error}
    (refused : function.resolve count = .error error) : ¬ error.IsOfForm := by
  unfold Function.resolve at refused
  split at refused
  · cases refused
  · split at refused
    · cases refused
      exact nofun
    · cases refused
    · cases refused
      exact nofun

theorem formless_of_bind {name : String} {arguments : List Value} {error : Error}
    (refused : registry.bind name arguments = .error error) : ¬ error.IsOfForm := by
  unfold Registry.bind at refused
  split at refused
  · cases refused
  · rename_i found resolved
    cases refused
    unfold Registry.resolve at resolved
    split at resolved
    · exact formless_of_resolve resolved
    · cases resolved
      exact nofun

theorem StartsValue.advance {inside last : List Expectation}
    (starts : StartsValue expected others cursor) (found : cursor.peek? = some next)
    (first : afterFirst? next.token = some inside)
    (follows : Follows behind (inside ++ others) last cursor.advance result) :
    Follows behind expected last cursor result := by
  have stepped := starts.2 next found
  rw [first] at stepped
  exact follows.advance found stepped

theorem Cursor.consume?_cases (cursor : Cursor) (mark : Mark) :
    (∃ next, cursor.peek? = some next ∧ next.token = .mark mark ∧
      cursor.consume? (.mark mark) = some cursor.advance) ∨
    (∀ next, cursor.peek? = some next → next.token ≠ .mark mark) ∧
      cursor.consume? (.mark mark) = none := by
  cases consumed : cursor.consume? (.mark mark) with
  | some after =>
      obtain ⟨head, rfl⟩ := consume?_eq_some_iff.mp consumed
      obtain ⟨next, found, token⟩ := exists_peek? (words_of_head? head)
      exact .inl ⟨next, found, token, rfl⟩
  | none =>
      refine .inr ⟨?_, rfl⟩
      intro next found token
      have words := words_of_peek? found
      rw [token] at words
      exact consume?_eq_none_iff.mp consumed (by rw [words, List.head?_cons])

private theorem valuesFollow_succ {fuel : Nat} (lists : ListsFollow registry fuel) :
    ValuesFollow registry (fuel + 1) := by
  intro expected others cursor enough starts
  simp only [parseValue]
  cases found : cursor.peek? with
  | none =>
      obtain ⟨expectation, left, rfl⟩ := List.exists_cons_of_ne_nil starts.1
      exact .ended found
  | some next =>
      have shorter := Cursor.length_advance found
      dsimp only
      split
      · rename_i token
        exact starts.advance found (by rw [token]; rfl) (.done rfl)
      · rename_i token
        exact starts.advance found (by rw [token]; rfl) (.done rfl)
      · rename_i text token
        refine .check (fun _ => formless_of_literalOfString) ?_
        intro value
        exact starts.advance found (by rw [token]; rfl) (.done rfl)
      · rename_i token
        have listed := @lists .array others cursor.advance (by omega)
        refine starts.advance found (by rw [token]; rfl) (listed.bind ?_)
        intro read _ _
        exact .done rfl
      · rename_i name token
        refine starts.advance found (by rw [token]; rfl)
          (.bind (expectMark_follows (startsMark_mark _ _ _)) ?_)
        intro opened _ atMost
        rw [id] at atMost
        have listed := @lists .arguments others opened (by omega)
        refine listed.bind ?_
        intro read _ _
        refine .check (fun _ => formless_of_bind) ?_
        intro call
        exact .done rfl
      · rename_i noNumber noTruth noString noBracket noName
        have noForm : afterFirst? next.token = none := by
          unfold afterFirst?
          split
          · rename_i token
            exact absurd token (noNumber _)
          · rename_i token
            exact absurd token (noTruth _)
          · rename_i token
            exact absurd token (noString _)
          · rename_i token
            exact absurd token noBracket
          · rename_i token
            exact absurd token (noName _)
          · rfl
        have stepped := starts.2 next found
        rw [noForm] at stepped
        exact .misfit found stepped .unexpected

private theorem listsFollow_succ {fuel : Nat} (items : ItemsFollow registry fuel) :
    ListsFollow registry (fuel + 1) := by
  intro enclosure others cursor enough
  simp only [parseList]
  rcases cursor.consume?_cases enclosure.closing with
    ⟨next, found, token, consumed⟩ | ⟨noClose, kept⟩
  · rw [consumed]
    exact .advance found (by simp [step?, Expectation.step?, token]) (.done rfl)
  · rw [kept]
    refine items (by omega) ⟨List.cons_ne_nil _ _, ?_⟩
    intro next found
    have other := noClose next found
    simp [step?, Expectation.step?, other, Function.comp_def]

private theorem itemsFollow_succ {fuel : Nat} (values : ValuesFollow registry fuel)
    (items : ItemsFollow registry fuel) : ItemsFollow registry (fuel + 1) := by
  intro enclosure expected others cursor enough starts
  simp only [parseItems]
  refine (values (by omega) starts).bind ?_
  intro read _ atMost
  obtain ⟨item, behind⟩ := read
  have noComma := enclosure.closing_ne.2
  dsimp only at atMost ⊢
  rcases behind.consume?_cases .comma with ⟨next, found, token, consumed⟩ | ⟨other, kept⟩
  · rw [consumed]
    have shorter := Cursor.length_advance found
    have stepped : step? (.moreItems enclosure :: others) next.token =
        some (.value :: .moreItems enclosure :: others) := by
      simp [step?, Expectation.step?, token, noComma.symm]
    have further := @items enclosure _ others behind.advance (by omega) (startsValue_value _ _)
    refine .advance found stepped (further.bind ?_)
    intro read _ _
    exact .done rfl
  · rw [kept]
    have starts : StartsMark enclosure.closing (.moreItems enclosure :: others) others behind := by
      refine ⟨List.cons_ne_nil _ _, ?_⟩
      intro next found
      simp only [step?, Expectation.step?, other next found, if_false]
      split <;> rfl
    refine (expectMark_follows starts).bind ?_
    intro closed _ _
    exact .done rfl

private theorem readers_follow (registry : Registry) (fuel : Nat) :
    ValuesFollow registry fuel ∧ ListsFollow registry fuel ∧ ItemsFollow registry fuel := by
  induction fuel with
  | zero =>
      refine ⟨?_, ?_, ?_⟩
      · intro _ _ _ enough
        omega
      · intro _ _ _ enough
        omega
      · intro _ _ _ _ enough
        omega
  | succ fuel ih =>
      obtain ⟨values, lists, items⟩ := ih
      exact ⟨valuesFollow_succ lists, listsFollow_succ items, itemsFollow_succ values items⟩

theorem parseValue_follows {fuel : Nat} (enough : 3 * cursor.tokens.length + 1 ≤ fuel)
    (starts : StartsValue expected others cursor) :
    Follows Prod.snd expected others cursor (parseValue registry fuel cursor) :=
  (readers_follow registry fuel).1 enough starts

/-! ## Terms -/

theorem parseOperator_follows (cursor : Cursor) (others : List Expectation) :
    Follows Prod.snd (.operator :: others) others cursor (parseOperator cursor) := by
  unfold parseOperator
  cases found : cursor.peek? with
  | none => exact .ended found
  | some next =>
      dsimp only
      split
      · rename_i sign token
        cases known : sign.operator? with
        | some operator =>
            exact .advance found (by simp [step?, Expectation.step?, token, known]) (.done rfl)
        | none =>
            exact .misfit found (by simp [step?, Expectation.step?, token, known]) .expected
      · rename_i noMark
        refine .misfit found ?_ .expected
        cases token : next.token with
        | mark sign => exact absurd token (noMark sign)
        | _ => rfl

private theorem formless_of_retype {retyped : Option Value} {symbol : String} {operand : Value}
    {position : Nat} {error : Error} (refused : retype retyped symbol operand position = .error error) :
    ¬ error.IsOfForm := by
  cases retyped with
  | some value => cases refused
  | none =>
      cases refused
      rintro ⟨⟨⟩⟩

theorem parseNegation_follows {fuel : Nat} (enough : 3 * cursor.tokens.length + 1 ≤ fuel)
    (others : List Expectation) :
    Follows Prod.snd (.value :: others) others cursor (parseNegation registry fuel cursor) := by
  refine (parseValue_follows enough (startsValue_value others cursor)).bind ?_
  intro read _ _
  refine .check (fun _ => formless_of_retype) ?_
  intro value
  exact .done rfl

theorem parseBinary_follows {fuel : Nat} (enough : 3 * cursor.tokens.length + 1 ≤ fuel)
    (starts : StartsValue expected (.operator :: .value :: others) cursor) :
    Follows Prod.snd expected others cursor (parseBinary registry fuel cursor) := by
  refine (parseValue_follows enough starts).bind ?_
  intro left _ leftShorter
  refine (parseOperator_follows left.2 (.value :: others)).bind ?_
  intro operator _ operatorShorter
  have right := startsValue_value others operator.2
  refine (parseValue_follows (by omega) right).bind ?_
  intro right _ _
  refine .check (fun _ => formless_of_retype) ?_
  intro retypedLeft
  refine .check (fun _ => formless_of_retype) ?_
  intro retypedRight
  exact .done rfl

/-! ## Groups -/

/-- Behind a term another one may be joined. -/
def Joins (expected : List Expectation) : Prop :=
  ∀ connective, step? expected (.mark (Grammar.joint connective)) = some (.term :: expected)

theorem joins_nil : Joins [] := by
  intro connective
  cases connective <;> rfl

theorem joins_moreTerms (others : List Expectation) : Joins (.moreTerms :: others) := by
  intro connective
  cases connective <;> rfl

/-- The next token joins no further member to the group, nor to its last member. -/
def Stops (connective : Connective) (cursor : Cursor) : Prop :=
  ∀ next, cursor.peek? = some next →
    next.token ≠ .mark .all ∧ (connective = .any → next.token ≠ .mark .any)

private def GroupsStop (registry : Registry) (fuel : Nat) : Prop :=
  ∀ ⦃connective : Connective⦄ ⦃cursor after : Cursor⦄ ⦃rule : Rule⦄,
    parseGroup registry fuel connective cursor = .ok (rule, after) → Stops connective after

private def MemberStops (registry : Registry) (fuel : Nat) : Prop :=
  ∀ ⦃cursor after : Cursor⦄ ⦃rule : Rule⦄,
    parseMember registry fuel .any cursor = .ok (rule, after) → Stops .all after

private def MembersStop (registry : Registry) (fuel : Nat) : Prop :=
  ∀ ⦃connective : Connective⦄ ⦃cursor after : Cursor⦄ ⦃rules : List Rule⦄,
    parseMembers registry fuel connective cursor = .ok (rules, after) →
    (connective = .any → Stops .all cursor) → Stops connective after

private theorem groupsStop_succ {fuel : Nat} (member : MemberStops registry fuel)
    (members : MembersStop registry fuel) : GroupsStop registry (fuel + 1) := by
  intro connective cursor after rule accepted
  simp only [parseGroup] at accepted
  obtain ⟨⟨first, behindFirst⟩, firstRead, accepted⟩ := bind_eq_ok accepted
  obtain ⟨⟨others, behind⟩, othersRead, finished⟩ := bind_eq_ok accepted
  cases finished
  refine members othersRead ?_
  intro disjunction
  subst disjunction
  exact member firstRead

private theorem membersStop_succ {fuel : Nat} (member : MemberStops registry fuel)
    (members : MembersStop registry fuel) : MembersStop registry (fuel + 1) := by
  intro connective cursor after rules accepted before
  simp only [parseMembers] at accepted
  rcases cursor.consume?_cases connective.mark with ⟨next, found, token, consumed⟩ | ⟨other, kept⟩
  · simp only [consumed] at accepted
    obtain ⟨⟨first, behindMember⟩, memberRead, accepted⟩ := bind_eq_ok accepted
    obtain ⟨⟨others, behind⟩, membersRead, finished⟩ := bind_eq_ok accepted
    cases finished
    refine members membersRead ?_
    intro disjunction
    subst disjunction
    exact member memberRead
  · simp only [kept] at accepted
    cases accepted
    intro next found
    cases connective with
    | all =>
        refine ⟨other next found, ?_⟩
        intro disjunction
        cases disjunction
    -- a conjunction within the disjunction has stopped before
    | any => exact ⟨(before rfl next found).1, fun _ => other next found⟩

private theorem readers_stop (registry : Registry) (fuel : Nat) :
    GroupsStop registry fuel ∧ MemberStops registry fuel ∧ MembersStop registry fuel := by
  induction fuel with
  | zero =>
      refine ⟨?_, ?_, ?_⟩
      · intro _ _ _ _ accepted
        cases accepted
      · intro _ _ _ accepted
        cases accepted
      · intro _ _ _ _ accepted
        cases accepted
  | succ fuel ih =>
      obtain ⟨groups, member, members⟩ := ih
      refine ⟨groupsStop_succ member members, ?_, membersStop_succ member members⟩
      intro cursor after rule accepted
      exact groups (by simpa only [parseMember] using accepted)

/-- The readers that are entered before the first term of a group, over those of a conjunction. -/
private def Connective.outer : Connective → Nat
  | .all => 0
  | .any => 2

private def GroupsFollow (registry : Registry) (fuel : Nat) : Prop :=
  ∀ ⦃connective : Connective⦄ ⦃others : List Expectation⦄ ⦃cursor : Cursor⦄,
    5 * cursor.tokens.length + 3 + connective.outer ≤ fuel → Joins others →
    Follows Prod.snd (.term :: others) others cursor (parseGroup registry fuel connective cursor)

private def MemberFollows (registry : Registry) (fuel : Nat) : Prop :=
  ∀ ⦃connective : Connective⦄ ⦃others : List Expectation⦄ ⦃cursor : Cursor⦄,
    5 * cursor.tokens.length + 2 + connective.outer ≤ fuel → Joins others →
    Follows Prod.snd (.term :: others) others cursor (parseMember registry fuel connective cursor)

private def MembersFollow (registry : Registry) (fuel : Nat) : Prop :=
  ∀ ⦃connective : Connective⦄ ⦃others : List Expectation⦄ ⦃cursor : Cursor⦄,
    5 * cursor.tokens.length + 1 ≤ fuel → Joins others →
    Follows Prod.snd others others cursor (parseMembers registry fuel connective cursor)

private def TermsFollow (registry : Registry) (fuel : Nat) : Prop :=
  ∀ ⦃others : List Expectation⦄ ⦃cursor : Cursor⦄, 5 * cursor.tokens.length + 1 ≤ fuel →
    Follows Prod.snd (.term :: others) others cursor (parseTerm registry fuel cursor)

private theorem groupsFollow_succ {fuel : Nat} (member : MemberFollows registry fuel)
    (members : MembersFollow registry fuel) : GroupsFollow registry (fuel + 1) := by
  intro connective others cursor enough joins
  simp only [parseGroup]
  refine (member (by omega) joins).bind ?_
  intro first _ shorter
  refine (members (by omega) joins).bind ?_
  intro read _ _
  exact .done rfl

private theorem memberFollows_succ {fuel : Nat} (groups : GroupsFollow registry fuel)
    (terms : TermsFollow registry fuel) : MemberFollows registry (fuel + 1) := by
  intro connective others cursor enough joins
  cases connective with
  | all =>
      simp only [parseMember]
      exact terms (by omega)
  | any =>
      simp only [parseMember]
      simp only [Connective.outer] at enough
      exact groups (by simp only [Connective.outer]; omega) joins

private theorem membersFollow_succ {fuel : Nat} (member : MemberFollows registry fuel)
    (members : MembersFollow registry fuel) : MembersFollow registry (fuel + 1) := by
  intro connective others cursor enough joins
  simp only [parseMembers]
  rcases cursor.consume?_cases connective.mark with ⟨next, found, token, consumed⟩ | ⟨_, kept⟩
  · rw [consumed]
    have shorter := Cursor.length_advance found
    have bounded : connective.outer ≤ 2 := by cases connective <;> decide
    have stepped : step? others next.token = some (.term :: others) := by
      rw [token, ← Grammar.joint_eq_mark]
      exact joins connective
    have first := @member connective others cursor.advance (by omega) joins
    refine .advance found stepped (first.bind ?_)
    intro read _ firstShorter
    refine (members (by omega) joins).bind ?_
    intro rest _ _
    exact .done rfl
  · rw [kept]
    exact .done rfl

private theorem termsFollow_succ {fuel : Nat} (groups : GroupsFollow registry fuel) :
    TermsFollow registry (fuel + 1) := by
  intro others cursor enough
  simp only [parseTerm]
  rcases cursor.consume?_cases .openParen with ⟨next, found, token, consumed⟩ | ⟨noParen, kept⟩
  · rw [consumed]
    have shorter := Cursor.length_advance found
    have stepped : step? (.term :: others) next.token = some (.term :: .moreTerms :: others) := by
      rw [token]
      rfl
    have inner := @groups .any (.moreTerms :: others) cursor.advance
      (by simp only [Connective.outer]; omega) (joins_moreTerms others)
    refine .advance found stepped (inner.bind ?_)
    intro read accepted _
    -- a reader never leaves a token that it could join, so here only the closing one can follow
    have stops := (readers_stop registry fuel).1 accepted
    have starts : StartsMark .closeParen (.moreTerms :: others) others read.2 := by
      refine ⟨List.cons_ne_nil _ _, ?_⟩
      intro next found
      obtain ⟨noAll, noAny⟩ := stops next found
      simp only [step?, Expectation.step?, Grammar.isJoint, noAll, noAny rfl]
      split <;> rfl
    refine (expectMark_follows starts).bind ?_
    intro closed _ _
    exact .done rfl
  · rw [kept]
    dsimp only
    rcases cursor.consume?_cases .negation with ⟨next, found, token, consumed⟩ | ⟨noNegation, kept⟩
    · rw [consumed]
      have stepped : step? (.term :: others) next.token = some (.value :: others) := by
        rw [token]
        rfl
      exact .advance found stepped (parseNegation_follows (by omega) others)
    · rw [kept]
      refine parseBinary_follows (by omega) ⟨List.cons_ne_nil _ _, ?_⟩
      intro next found
      simp [step?, Expectation.step?, noParen next found, noNegation next found,
        Function.comp_def]

private theorem rule_readers_follow (registry : Registry) (fuel : Nat) :
    GroupsFollow registry fuel ∧ MemberFollows registry fuel ∧ MembersFollow registry fuel ∧
      TermsFollow registry fuel := by
  induction fuel with
  | zero =>
      refine ⟨?_, ?_, ?_, ?_⟩
      · intro _ _ _ enough
        omega
      · intro _ _ _ enough
        omega
      · intro _ _ _ enough
        omega
      · intro _ _ enough
        omega
  | succ fuel ih =>
      obtain ⟨groups, member, members, terms⟩ := ih
      exact ⟨groupsFollow_succ member members, memberFollows_succ groups terms,
        membersFollow_succ member members, termsFollow_succ groups⟩

theorem parseTokens_located {error : Error} (refused : parseTokens registry cursor = .error error) :
    Located [.term] cursor error := by
  have follows := @(rule_readers_follow registry (5 * cursor.tokens.length + 5)).1 .any [] cursor
    (Nat.le_refl _) joins_nil
  unfold parseTokens at refused
  cases read : parseGroup registry (5 * cursor.tokens.length + 5) .any cursor with
  | error found =>
      rw [read] at follows refused
      cases refused
      exact follows
  | ok result =>
      obtain ⟨rule, behind⟩ := result
      have stops := (readers_stop registry _).1 read
      rw [read] at follows refused
      obtain ⟨same, front, split, ran⟩ := follows
      cases found : behind.peek? with
      | none => simp [bind, Except.bind, found, pure, Except.pure] at refused
      | some next =>
          obtain ⟨noAll, noAny⟩ := stops next found
          obtain ⟨rest, last⟩ := List.head?_eq_some_iff.mp found
          have stuck : step? [] next.token = none := by
            simp [step?, Grammar.isJoint, noAll, noAny rfl]
          simp only [bind, Except.bind, found] at refused
          cases refused
          exact .misfit (split.trans (congrArg (front ++ ·) last)) ran stuck .unexpected

/-- An error of form stands at the first token that no rule has behind the tokens before it, or behind
all tokens when a rule begins with them and has more. -/
theorem parseRule_points_at_misfit {text : String} {tokens : List Spanned} {fault : Fault}
    {position : Nat} (cut : tokenize text = .ok tokens)
    (refused : parseRule registry text = .error (.parse ⟨fault, position⟩)) :
    (∀ shown, fault.Misfit shown → ∃ front next behind, tokens = front ++ next :: behind ∧
      next.start = position ∧ next.token.display = shown ∧
      Grammar.Begins (front.map Spanned.token) ∧
      ¬ Grammar.Begins ((front ++ [next]).map Spanned.token)) ∧
    ∀ wanted, fault = .unexpectedEnd wanted → position = text.utf8ByteSize ∧
      ∃ more, more ≠ [] ∧ Grammar.IsRule (.group .any) (tokens.map Spanned.token ++ more) := by
  unfold parseRule at refused
  rw [cut] at refused
  have located := parseTokens_located refused
  cases located with
  | @misfit front behind next left fault split ran stuck misfit =>
      refine ⟨?_, ?_⟩
      · intro shown named
        have same : next.token.display = shown := by
          cases misfit <;> cases named <;> rfl
        refine ⟨front, next, behind, split, rfl, same, Grammar.begins_iff.mpr ⟨left, ran⟩, ?_⟩
        rw [Grammar.begins_iff, List.map_append, Grammar.run?_append, ran]
        simp [run?, stuck]
      · intro wanted ended
        subst ended
        cases misfit
  | ended ran =>
      refine ⟨?_, ?_⟩
      · intro shown named
        cases named
      · intro wanted _
        exact ⟨rfl, Grammar.exists_more ran⟩
  | other formless =>
      refine ⟨?_, ?_⟩
      · intro shown named
        exact absurd (.misfit named) formless
      · intro wanted ended
        subst ended
        exact absurd .ended formless

theorem points_into_array :
    (∃ tokens front next behind, tokenize "true & [true false" = .ok tokens ∧
      tokens = front ++ next :: behind ∧ next.start = 13 ∧ next.token.display = "false" ∧
      Grammar.Begins (front.map Spanned.token) ∧
      ¬ Grammar.Begins ((front ++ [next]).map Spanned.token)) ∧
    ∃ tokens more, tokenize "true & [" = .ok tokens ∧ more ≠ [] ∧
      Grammar.IsRule (.group .any) (tokens.map Spanned.token ++ more) := by
  have cut : tokenize "true & [true false" = .ok [⟨.truth true, 0, 4⟩, ⟨.mark .both, 5, 6⟩,
      ⟨.mark .openBracket, 7, 8⟩, ⟨.truth true, 8, 12⟩, ⟨.truth false, 13, 18⟩] := by
    decide +kernel
  have refused : parseRule Registry.empty "true & [true false" =
      .error (.parse ⟨.expectedToken "']'" "false", 13⟩) := by
    rw [parseRule, cut]
    rfl
  have short : tokenize "true & [" = .ok [⟨.truth true, 0, 4⟩, ⟨.mark .both, 5, 6⟩,
      ⟨.mark .openBracket, 7, 8⟩] := by decide +kernel
  have ended : parseRule Registry.empty "true & [" =
      .error (.parse ⟨.unexpectedEnd "a value", 8⟩) := by
    rw [parseRule, short]
    rfl
  obtain ⟨front, next, behind, split, start, shown, begins, stuck⟩ :=
    (parseRule_points_at_misfit cut refused).1 "false" .expected
  obtain ⟨-, more, nonempty, isRule⟩ := (parseRule_points_at_misfit short ended).2 "a value" rfl
  exact ⟨⟨_, front, next, behind, cut, split, start, shown, begins, stuck⟩,
    _, more, short, nonempty, isRule⟩

end Verdict
