import Verdict.Proofs.Registry.Growth
import Verdict.Proofs.Rule.Binding
import Verdict.Proofs.Rule.Display
import Verdict.Proofs.Rule.Literals

/-! Which registered functions a rule can call. A function name is an identifier of rule texts, so
all of them can be called but those that are named like a truth value. -/

set_option autoImplicit false

namespace Verdict

section Names

private theorem toNat_lt_of_isAlphanum {character : Char} (known : character.isAlphanum = true) :
    character.toNat < 0x80 := by
  delta Char.isAlphanum Char.isAlpha Char.isUpper Char.isLower Char.isDigit at known
  simp only [Bool.or_eq_true, Bool.and_eq_true, decide_eq_true_eq,
    UInt32.le_iff_toNat_le] at known
  have same : character.toNat = character.val.toNat := rfl
  have last : 'Z'.val.toNat = 90 ∧ 'z'.val.toNat = 122 ∧ '9'.val.toNat = 57 := ⟨rfl, rfl, rfl⟩
  omega

theorem isIdentifierContinue_of_continuesName {character : Char}
    (continues : continuesName character = true) :
    Text.isIdentifierContinue character = true := by
  rcases Bool.or_eq_true_iff.mp continues with known | underscore
  · simp [Text.isIdentifierContinue, toNat_lt_of_isAlphanum known, known]
  · obtain rfl := of_decide_eq_true underscore
    decide

theorem beginsIdentifier_of_beginsName {character : Char} (begins : beginsName character = true) :
    Token.beginsIdentifier character = true := by
  rcases Bool.or_eq_true_iff.mp begins with letter | underscore
  · have known : character.isAlphanum = true := by simp [Char.isAlphanum, letter]
    simp [Token.beginsIdentifier, Text.isIdentifierStart, toNat_lt_of_isAlphanum known, letter]
  · obtain rfl := of_decide_eq_true underscore
    decide

theorem IsNamePart.isPart {part : List Char} (isPart : IsNamePart part) : Token.IsPart part := by
  obtain ⟨begins, continues⟩ := isPart
  exact .intro (beginsIdentifier_of_beginsName begins) fun character member =>
    isIdentifierContinue_of_continuesName (continues character member)

theorem IsDottedName.isDotted {name : List Char} (dotted : IsDottedName name) :
    Token.IsDotted name := by
  induction dotted with
  | @part part isPart => simpa using Token.IsDotted.intro isPart.isPart .nil
  | dotted isPart _ ih =>
      obtain ⟨next, more⟩ := ih
      exact .intro isPart.isPart (.cons next more)

/-- The text is the word of a truth value. -/
def IsTruthWord (name : String) : Prop := ∃ truth, name.toList = Token.truthWord truth

/-- A function name is one token, its own identifier unless it is the word of a truth value. -/
theorem tokenize_of_isFunctionName {name : String} (valid : isFunctionName name = true) :
    ∃ spanned, tokenize name = .ok spanned ∧
      spanned.map Spanned.token = [Token.ofIdentifier name.toList] ∧
      (Token.ofIdentifier name.toList = .identifier name ↔ ¬ IsTruthWord name) := by
  have dotted := (isFunctionName_iff.mp valid).isDotted
  obtain ⟨size, scans⟩ := Token.scan_isDotted dotted Delimited.nil.endsIdentifier
  obtain ⟨first, behind, split, -⟩ := dotted.exists_cons
  have lexes := Lexes.token scans (by simp [split]) .nil
  rw [List.append_nil] at lexes
  obtain ⟨spanned, cut, same⟩ := lexes.tokenize
  refine ⟨spanned, cut, same, ?_⟩
  constructor
  · rintro identifier ⟨truth, word⟩
    rw [word, Token.ofIdentifier_truthWord] at identifier
    cases identifier
  · intro notTruth
    exact Token.ofIdentifier_eq fun truth word => notTruth ⟨truth, word⟩

end Names

section Calls

variable {registry : Registry} {function : Function}

/-- The text that compares a call with true. -/
def callText (name : String) (arguments : List (List Char)) : String :=
  String.ofList (name.toList ++ '(' :: (listText arguments ++ ')' :: " == true".toList))

theorem Registry.WellFormed.resolve_offered (wellFormed : registry.WellFormed)
    (registered : function ∈ registry.functions) {overload : Overload}
    (offered : overload ∈ function.overloads) {count : Nat}
    (accepted : overload.signature.accepts count = true) :
    registry.resolve function.name count = .ok overload := by
  have found := wellFormed.find?_eq_some registered
  have accepting : overload ∈
      function.overloads.filter fun overload => overload.signature.accepts count :=
    List.mem_filter.mpr ⟨offered, accepted⟩
  rcases (wellFormed.functions function registered).resolve count with
    ⟨chosen, single, resolved⟩ | ⟨noMatch, -⟩
  · rw [single] at accepting
    obtain rfl := List.mem_singleton.mp accepting
    simpa [Registry.resolve, found] using resolved
  · rw [noMatch] at accepting
    exact absurd accepting List.not_mem_nil

private theorem lexes_compared : Lexes " == true".toList [.mark .equal, .truth true] := by
  have truth := (@Writes.token (.truth true) .truth (by simp) (by simp)).lexes
  exact (@Lexes.mark .equal _ _ (.inr rfl) truth.blank).blank

/-- The text of a call is read as the call, with the overload that accepts the arguments. -/
theorem parseRule_callText (wellFormed : registry.WellFormed)
    (registered : function ∈ registry.functions) (notTruth : ¬ IsTruthWord function.name)
    {overload : Overload} (offered : overload ∈ function.overloads)
    {arguments : List (List Char × Value)}
    (written : ∀ argument ∈ arguments, WrittenLiteral argument.1 argument.2)
    (accepted : overload.signature.accepts arguments.length = true) :
    parseRule registry (callText function.name (arguments.map Prod.fst)) =
      .ok (.binary .equal
        (.called (some .object) (.mk function.name (arguments.map Prod.snd) overload.signature
          overload.attached overload.implementation))
        (.boolean true)) := by
  have dotted := (wellFormed.functions function registered).name.isDotted
  obtain ⟨spelled, same, writes, spells⟩ :=
    StandsForValue.row fun argument member => (written argument member).standsForValue
  have lengths : spelled.length = arguments.length := by
    simpa using congrArg List.length same
  -- the tokens of the text, from its end to its beginning
  have closed := @Lexes.punctuation _ _ lexes_compared .closeParen ')' rfl rfl
  have listed := writes _ _ (.cons (by simp)) closed
  have opened := @Lexes.punctuation _ _ listed .openParen '(' rfl rfl
  have named : (Token.identifier function.name).Scanned :=
    .identifier dotted fun truth word => notTruth ⟨truth, word⟩
  have whole := Lexes.written named (by simp) (.cons (by simp)) opened
  -- the rule that these tokens spell
  have resolved : registry.resolve function.name spelled.length = .ok overload :=
    lengths ▸ wellFormed.resolve_offered registered offered accepted
  have derived := @Grammar.Derives.binary registry _ _ .equal _ _ _ _
    (.call (spells registry) resolved) (@Grammar.Spells.truth _ true) .called
    (.literal .boolean (.inl rfl))
  rw [same] at derived
  have text : (callText function.name (arguments.map Prod.fst)).toList =
      (Token.identifier function.name).written ++
        '(' :: (listText (arguments.map Prod.fst) ++ ')' :: " == true".toList) := by
    simp [callText, Token.written]
  rw [← text] at whole
  obtain ⟨spanned, cut, tokens⟩ := whole.tokenize
  refine parseRule_eq_ok_iff.mpr ⟨spanned, cut, parseTokens_complete (.single (.single ?_))⟩
  simpa [Cursor.words, tokens, Operator.mark, Operator.role, Grammar.memberLevel] using derived

/-- No identifier is the word of a truth value, so a call of that name is never read. -/
theorem boundTo_others_of_truthWord {name text : String} {rule : Rule} (truth : IsTruthWord name)
    (accepted : parseRule registry text = .ok rule) :
    rule.BoundTo (registry.functions.filter fun other => other.name ≠ name) := by
  obtain ⟨spanned, cut, parsed⟩ := parseRule_eq_ok_iff.mp accepted
  let others : Registry :=
    ⟨registry.functions.filter fun other => other.name ≠ name, registry.discovered⟩
  have derived : Grammar.Derives others (.group .any) (spanned.map Spanned.token) rule := by
    refine (parseTokens_sound parsed).transfer fun called count overload member resolved => ?_
    obtain ⟨place, listed, same⟩ := List.mem_map.mp member
    have scanned : (Token.identifier called).Scanned :=
      same ▸ Token.scanned_of_scanAll _ cut place listed
    have differs : called ≠ name := by
      rintro rfl
      obtain ⟨value, word⟩ := truth
      cases scanned with
      | identifier _ noTruth => exact noTruth value word
    have still : others.find? called = registry.find? called := by
      simp only [Registry.find?, others, List.find?_filter]
      congr 1
      funext other
      by_cases named : other.name = called
      · simp [named, differs]
      · simp [named]
    simpa [Registry.resolve, still] using resolved
  exact derived.readIn.boundTo

end Calls

/-- After any history of requests, the name of a registered function is one token of a rule text,
and its identifier unless it is the word of a truth value. Exactly then every overload can be called
with all the literals that it accepts; a function with the name of a truth value is registered and
never called. -/
theorem callable_unless_truth (requests : List Registry.Request) :
    (∀ name, isFunctionName name = true →
      ∃ spanned, tokenize name = .ok spanned ∧
        spanned.map Spanned.token = [Token.ofIdentifier name.toList] ∧
        (Token.ofIdentifier name.toList = .identifier name ↔ ¬ IsTruthWord name)) ∧
    ∀ function ∈ (Registry.empty.performAll requests).functions,
      isFunctionName function.name = true ∧
      (¬ IsTruthWord function.name →
        ∀ overload ∈ function.overloads, ∀ arguments : List (List Char × Value),
          (∀ argument ∈ arguments, WrittenLiteral argument.1 argument.2) →
          overload.signature.accepts arguments.length = true →
          parseRule (Registry.empty.performAll requests)
              (callText function.name (arguments.map Prod.fst)) =
            .ok (.binary .equal
              (.called (some .object) (.mk function.name (arguments.map Prod.snd)
                overload.signature overload.attached overload.implementation))
              (.boolean true))) ∧
      (IsTruthWord function.name →
        ∀ text rule, parseRule (Registry.empty.performAll requests) text = .ok rule →
          rule.BoundTo ((Registry.empty.performAll requests).functions.filter
            fun other => other.name ≠ function.name)) := by
  have wellFormed := Registry.empty_wellFormed.performAll requests
  refine ⟨fun name valid => tokenize_of_isFunctionName valid, fun function registered => ?_⟩
  refine ⟨isFunctionName_iff.mpr (wellFormed.functions function registered).name, ?_, ?_⟩
  · intro notTruth overload offered arguments written accepted
    exact parseRule_callText wellFormed registered notTruth offered written accepted
  · intro truth text rule accepted
    exact boundTo_others_of_truthWord truth accepted

theorem callable_unless_truth_dotted :
    parseRule
        (Registry.empty.performAll [.register ⟨"_f.G_1", [.count (.fixed 0), .count (.fixed 2)]⟩])
        "_f.G_1(-1.50, ['a']) == true" =
      .ok (.binary .equal
        (.called (some .object)
          (.mk "_f.G_1"
            [.number (Numeral.value ⟨true, ['1'], some ['5', '0'], none⟩), .array [.string "a"]]
            (.fixed 2) [] fun operands => .done (.number (.ofNat operands.length))))
        (.boolean true)) := by
  have registered : (⟨"_f.G_1", [.count (.fixed 0), .count (.fixed 2)]⟩ : Function) ∈
      (Registry.empty.performAll
        [.register ⟨"_f.G_1", [.count (.fixed 0), .count (.fixed 2)]⟩]).functions :=
    List.mem_singleton_self _
  have notTruth : ¬ IsTruthWord "_f.G_1" := by
    rintro ⟨truth, word⟩
    cases truth <;> exact absurd word (by decide)
  have written : ∀ argument ∈
      [("-1.50".toList, Value.number (Numeral.value ⟨true, ['1'], some ['5', '0'], none⟩)),
        ("['a']".toList, .array [.string "a"])], WrittenLiteral argument.1 argument.2 := by
    refine List.forall_mem_cons.mpr ⟨.number (by decide) (by decide +kernel), ?_⟩
    refine List.forall_mem_singleton.mpr (@WrittenLiteral.array [("'a'".toList, .string "a")] ?_)
    exact List.forall_mem_singleton.mpr
      (@WrittenLiteral.string "a" _ (.plain (by decide) (by decide)))
  have text : callText "_f.G_1" ["-1.50".toList, "['a']".toList] =
      "_f.G_1(-1.50, ['a']) == true" := by
    decide +kernel
  rw [← text]
  have offered : Overload.count (.fixed 2) ∈
      (⟨"_f.G_1", [.count (.fixed 0), .count (.fixed 2)]⟩ : Function).overloads :=
    List.mem_cons_of_mem _ (List.mem_singleton_self _)
  have called := ((callable_unless_truth _).2 _ registered).2.1 notTruth _ offered _ written rfl
  simpa only [List.map_cons, List.map_nil, Overload.count] using called

/-- A function may be registered under the word of a truth value, but its call is no rule. -/
theorem call_of_truth_refused :
    (∃ function overload, function ∈ (Registry.empty.performAll
        [.register ⟨"true", [.count (.fixed 0)]⟩]).functions ∧ function.name = "true" ∧
      overload ∈ function.overloads ∧ overload.signature.accepts 0 = true) ∧
      (tokenize "true").toOption = some [⟨.truth true, 0, 4⟩] ∧
      parseRule (Registry.empty.performAll [.register ⟨"true", [.count (.fixed 0)]⟩])
          (callText "true" []) =
        .error (.parse ⟨.expectedToken "an operator" "(", 4⟩) := by
  refine ⟨⟨_, _, List.mem_singleton_self _, rfl, List.mem_singleton_self _, rfl⟩, ?_, ?_⟩
  · decide +kernel
  · have refused : (match parseRule (Registry.empty.performAll
          [.register ⟨"true", [.count (.fixed 0)]⟩]) (callText "true" []) with
        | .error (.parse fault) => decide (fault = ⟨.expectedToken "an operator" "(", 4⟩)
        | _ => false) = true := by decide +kernel
    split at refused
    · rename_i same
      rw [same, of_decide_eq_true refused]
    · cases refused

end Verdict
