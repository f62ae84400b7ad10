import Verdict.Proofs.Session.Reports
import Verdict.Proofs.Value.Display

/-! What reading a rule guarantees of its operands. An operator only has operands that it can
resolve: literals of the kind that it wants and references. So without calls an evaluation can go
wrong in the document alone, at an address that stands in the rule, and never in the rule itself. -/

set_option autoImplicit false

namespace Verdict

mutual

/-- The addresses that a value holds, also those in the arguments of calls. -/
def Value.addresses : Value → List Address
  | .array items => Value.listAddresses items
  | .located _ address => [address]
  | .computed _ _ call => Call.addresses call
  | .called _ call => Call.addresses call
  | _ => []

def Value.listAddresses : List Value → List Address
  | [] => []
  | value :: values => Value.addresses value ++ Value.listAddresses values

def Call.addresses : Call → List Address
  | .mk _ arguments _ _ _ => Value.listAddresses arguments

end

mutual

def Rule.addresses : Rule → List Address
  | .combined _ first others => Rule.addresses first ++ Rule.listAddresses others
  | .negation operand => operand.addresses
  | .binary _ left right => left.addresses ++ right.addresses

def Rule.listAddresses : List Rule → List Address
  | [] => []
  | rule :: rules => Rule.addresses rule ++ Rule.listAddresses rules

end

theorem Value.mem_listAddresses {address : Address} {values : List Value} :
    address ∈ Value.listAddresses values ↔ ∃ value ∈ values, address ∈ value.addresses := by
  induction values with
  | nil => simp [Value.listAddresses]
  | cons first others ih => simp [Value.listAddresses, ih]

theorem Rule.mem_listAddresses {address : Address} {rules : List Rule} :
    address ∈ Rule.listAddresses rules ↔ ∃ rule ∈ rules, address ∈ rule.addresses := by
  induction rules with
  | nil => simp [Rule.listAddresses]
  | cons first others ih => simp [Rule.listAddresses, ih]

/-- No call occurs in the value: a call would have to be bound to one of no functions. -/
def Value.CallFree (value : Value) : Prop := value.BoundTo []

def Rule.CallFree (rule : Rule) : Prop := rule.BoundTo []

theorem Value.allCallFree_iff {values : List Value} :
    Value.AllBoundTo [] values ↔ ∀ value ∈ values, value.CallFree :=
  Value.allBoundTo_iff

theorem Rule.allCallFree_iff {rules : List Rule} :
    Rule.AllBoundTo [] rules ↔ ∀ rule ∈ rules, rule.CallFree :=
  Rule.allBoundTo_iff

theorem Call.not_boundTo_nil (call : Call) : ¬ call.BoundTo [] := by
  obtain ⟨name, arguments, signature, attached, implementation⟩ := call
  rintro ⟨⟨function, included, -⟩, -⟩
  cases included

/-- The failure is that at one of the addresses lives nothing, or not what was wanted there. -/
inductive Failure.ArisesAt (addresses : List Address) : Failure → Prop where
  | missing {address : Address} :
      address ∈ addresses → ArisesAt addresses (.missing address.text)
  | mismatch {address : Address} {expected actual : JsonKind} :
      address ∈ addresses → ArisesAt addresses (.mismatch address.text expected actual)

theorem Failure.ArisesAt.widen {few many : List Address} (subset : few ⊆ many) :
    ∀ failure, Failure.ArisesAt few failure → Failure.ArisesAt many failure := by
  intro failure arises
  cases arises with
  | missing member => exact .missing (subset member)
  | mismatch member => exact .mismatch (subset member)

theorem Address.resolve_reports {α : Type} (address : Address) (expected : JsonKind)
    (read : Json → Option α) :
    (address.resolve expected read).Reports (Failure.ArisesAt [address]) := by
  apply Script.Reports.look
  intro found
  split
  · exact .report (.missing List.mem_cons_self) .done
  · split
    · exact .done
    · exact .report (.mismatch List.mem_cons_self) .done

mutual

/-- Literals of every kind come to a datum, so only the addresses among them can fail. -/
theorem Value.datum_reports (value : Value) (callFree : value.CallFree) :
    value.operand.datum.Reports (Failure.ArisesAt value.addresses) := by
  cases value with
  | number => exact .done
  | string => exact .done
  | boolean => exact .done
  | object => exact .done
  | array items =>
      rw [Value.operand, Value.addresses]
      apply (Script.Reports.sequence (Value.data_reports items callFree)).bind
      intro data
      exact .done
  | located role address =>
      rw [Value.operand, Value.addresses]
      exact address.resolve_reports .object fun json => some (Datum.ofJson json)
  | computed role dialect call => exact absurd callFree call.not_boundTo_nil
  | called role call => exact absurd callFree call.not_boundTo_nil

theorem Value.data_reports (values : List Value) (callFree : Value.AllBoundTo [] values) :
    ∀ script ∈ (Value.operands values).map fun operand => operand.datum,
      script.Reports (Failure.ArisesAt (Value.listAddresses values)) := by
  cases values with
  | nil => simp [Value.operands]
  | cons first others =>
      rw [Value.operands, Value.listAddresses, List.map_cons]
      intro script member
      rcases List.mem_cons.mp member with rfl | behind
      · exact (Value.datum_reports first callFree.1).widen
          (Failure.ArisesAt.widen (List.subset_append_left _ _))
      · exact (Value.data_reports others callFree.2 script behind).widen
          (Failure.ArisesAt.widen (List.subset_append_right _ _))

end

theorem Script.Reports.both {α β : Type} {lefts rights : List Address} {left right : Script α}
    {answer : α → α → β} (leftReports : left.Reports (Failure.ArisesAt lefts))
    (rightReports : right.Reports (Failure.ArisesAt rights)) :
    (left.bind fun first => right.bind fun second => .done (answer first second)).Reports
      (Failure.ArisesAt (lefts ++ rights)) := by
  apply (leftReports.widen (Failure.ArisesAt.widen (List.subset_append_left _ _))).bind
  intro first
  apply (rightReports.widen (Failure.ArisesAt.widen (List.subset_append_right _ _))).bind
  intro second
  exact .done

theorem Value.resolveDatum_reports {value : Value} (callFree : value.CallFree) (default : Datum) :
    (value.resolveDatum default).Reports (Failure.ArisesAt value.addresses) :=
  (value.datum_reports callFree).bind fun _ => .done

namespace Grammar

section Canonical

variable {operand value : Value}

/-- A comparison has no literals but numbers for operands. -/
theorem Retyped.canonical_numeric (retyped : Retyped .numeric operand value)
    (callFree : value.CallFree) :
    (∃ role address, value = .located role address) ∨ ∃ number, value = .number number := by
  cases retyped with
  | located => exact .inl ⟨_, _, rfl⟩
  | @called call => exact absurd callFree call.not_boundTo_nil
  | literal literal kept =>
      cases literal with
      | number => exact .inr ⟨_, rfl⟩
      | string => simp [Value.kind, Role.nodeKind] at kept
      | boolean => simp [Value.kind, Role.nodeKind] at kept
      | array => simp [Value.kind, Role.nodeKind] at kept

/-- A negation and a junction have no literals but truth values for operands. -/
theorem Retyped.canonical_boolean (retyped : Retyped .boolean operand value)
    (callFree : value.CallFree) :
    (∃ role address, value = .located role address) ∨ ∃ truth, value = .boolean truth := by
  cases retyped with
  | located => exact .inl ⟨_, _, rfl⟩
  | @called call => exact absurd callFree call.not_boundTo_nil
  | literal literal kept =>
      cases literal with
      | boolean => exact .inr ⟨_, rfl⟩
      | number => simp [Value.kind, Role.nodeKind] at kept
      | string => simp [Value.kind, Role.nodeKind] at kept
      | array => simp [Value.kind, Role.nodeKind] at kept

theorem Retyped.resolveNumber_reports (retyped : Retyped .numeric operand value)
    (callFree : value.CallFree) (default : Number) :
    (value.resolveNumber default).Reports (Failure.ArisesAt value.addresses) := by
  refine Script.Reports.bind ?_ fun _ => .done
  rcases retyped.canonical_numeric callFree with ⟨role, address, rfl⟩ | ⟨number, rfl⟩
  · rw [Value.operand, Value.addresses]
    exact address.resolve_reports .number Json.number?
  · exact .done

theorem Retyped.resolveBoolean_reports (retyped : Retyped .boolean operand value)
    (callFree : value.CallFree) (default : Bool) :
    (value.resolveBoolean default).Reports (Failure.ArisesAt value.addresses) := by
  refine Script.Reports.bind ?_ fun _ => .done
  rcases retyped.canonical_boolean callFree with ⟨role, address, rfl⟩ | ⟨truth, rfl⟩
  · rw [Value.operand, Value.addresses]
    exact address.resolve_reports .boolean Json.boolean?
  · exact .done

end Canonical

theorem script_reports {operator : Operator} {left right retypedLeft retypedRight : Value}
    (leftTyped : Retyped operator.role left retypedLeft)
    (rightTyped : Retyped operator.role right retypedRight)
    (leftFree : retypedLeft.CallFree) (rightFree : retypedRight.CallFree) :
    (operator.script retypedLeft retypedRight).Reports
      (Failure.ArisesAt (retypedLeft.addresses ++ retypedRight.addresses)) := by
  -- The role of an operator is that of the accessor which it uses on both operands.
  cases operator with
  | both =>
      exact Script.Reports.both (leftTyped.resolveBoolean_reports leftFree false)
        (rightTyped.resolveBoolean_reports rightFree false)
  | either =>
      exact Script.Reports.both (leftTyped.resolveBoolean_reports leftFree false)
        (rightTyped.resolveBoolean_reports rightFree false)
  | equal =>
      exact Script.Reports.both (Value.resolveDatum_reports leftFree .null)
        (Value.resolveDatum_reports rightFree .null)
  | notEqual =>
      exact Script.Reports.both (Value.resolveDatum_reports leftFree .null)
        (Value.resolveDatum_reports rightFree .null)
  | greater =>
      exact Script.Reports.both (leftTyped.resolveNumber_reports leftFree .zero)
        (rightTyped.resolveNumber_reports rightFree .zero)
  | greaterEqual =>
      exact Script.Reports.both (leftTyped.resolveNumber_reports leftFree .zero)
        (rightTyped.resolveNumber_reports rightFree .zero)
  | less =>
      exact Script.Reports.both (leftTyped.resolveNumber_reports leftFree .zero)
        (rightTyped.resolveNumber_reports rightFree .zero)
  | lessEqual =>
      exact Script.Reports.both (leftTyped.resolveNumber_reports leftFree .zero)
        (rightTyped.resolveNumber_reports rightFree .zero)

end Grammar

theorem Rule.othersScript_reports {allowed : Failure → Prop} (connective : Connective)
    {rules : List Rule} (reports : ∀ rule ∈ rules, rule.script.Reports allowed) :
    (Rule.othersScript connective rules).Reports allowed := by
  induction rules with
  | nil =>
      rw [Rule.othersScript]
      exact .done
  | cons first others ih =>
      obtain ⟨front, behind⟩ := List.forall_mem_cons.mp reports
      rw [Rule.othersScript]
      apply front.bind
      intro answer
      split
      · exact .done
      · exact ih behind

namespace Grammar

section Read

variable {registry : Registry} {level : Level} {tokens : List Token} {rule : Rule}

/-- The operands of a rule that was read fail at most at the addresses that the rule holds. -/
theorem Derives.reports (derived : Derives registry level tokens rule) (callFree : rule.CallFree) :
    rule.script.Reports (Failure.ArisesAt rule.addresses) := by
  induction derived with
  | enclosed _ ih => exact ih callFree
  | negation _ retyped =>
      rw [Rule.script, Rule.addresses]
      apply (retyped.resolveBoolean_reports callFree false).bind
      intro truth
      exact .done
  | binary _ _ leftTyped rightTyped =>
      rw [Rule.script, Rule.addresses]
      exact script_reports leftTyped rightTyped callFree.1 callFree.2
  | single _ ih => exact ih callFree
  | @joined connective first others _ _ ih =>
      obtain ⟨frontFree, behindFree⟩ := callFree
      obtain ⟨front, behind⟩ := List.forall_mem_cons.mp ih
      rw [Rule.script, Rule.addresses]
      apply ((front frontFree).widen (Failure.ArisesAt.widen (List.subset_append_left _ _))).bind
      intro answer
      split
      · exact .done
      · apply Rule.othersScript_reports
        -- Which of the others still run depends on the answers, so each of them is accounted for.
        intro rule member
        obtain ⟨item, included, rfl⟩ := List.mem_map.mp member
        apply (behind item included (Rule.allCallFree_iff.mp behindFree _ member)).widen
        apply Failure.ArisesAt.widen
        intro address held
        exact List.mem_append_right _ (Rule.mem_listAddresses.mpr ⟨item.2, member, held⟩)

variable {value operand : Value} {address : Address}

theorem Quoted.text_of_mem {text : String} (quoted : Quoted text value)
    (member : address ∈ value.addresses) : address.text = text := by
  cases quoted with
  | path _ compiled =>
      obtain rfl := List.mem_singleton.mp member
      exact Path.text_of_compile compiled
  | pointer _ compiled =>
      obtain rfl := List.mem_singleton.mp member
      exact Pointer.text_of_compile compiled
  | plain => cases member

/-- Every address of a value that was read is one of the strings among its tokens. -/
theorem Spells.string_mem (spelled : Spells registry tokens value)
    (member : address ∈ value.addresses) : .string address.text ∈ tokens := by
  induction spelled with
  | number => cases member
  | truth => cases member
  | string quoted =>
      rw [quoted.text_of_mem member]
      exact List.mem_cons_self
  | @array items _ ih =>
      obtain ⟨value, included, held⟩ := Value.mem_listAddresses.mp member
      obtain ⟨item, listed, rfl⟩ := List.mem_map.mp included
      apply List.mem_cons_of_mem
      apply List.mem_append_left
      exact mem_row (List.mem_map_of_mem listed) (ih item listed held)
  | @call name arguments overload _ _ ih =>
      obtain ⟨value, included, held⟩ := Value.mem_listAddresses.mp member
      obtain ⟨argument, listed, rfl⟩ := List.mem_map.mp included
      apply List.mem_cons_of_mem
      apply List.mem_cons_of_mem
      apply List.mem_append_left
      exact mem_row (List.mem_map_of_mem listed) (ih argument listed held)

theorem Retyped.addresses {role : Role} (retyped : Retyped role operand value) :
    value.addresses = operand.addresses := by
  cases retyped with
  | located => rw [Value.addresses, Value.addresses]
  | called => rw [Value.addresses, Value.addresses]
  | literal => rfl

theorem Derives.string_mem (derived : Derives registry level tokens rule)
    (member : address ∈ rule.addresses) : .string address.text ∈ tokens := by
  induction derived with
  | enclosed _ ih =>
      apply List.mem_cons_of_mem
      exact List.mem_append_left _ (ih member)
  | negation spelled retyped =>
      rw [Rule.addresses, retyped.addresses] at member
      exact List.mem_cons_of_mem _ (spelled.string_mem member)
  | binary leftSpelled rightSpelled leftTyped rightTyped =>
      rw [Rule.addresses, leftTyped.addresses, rightTyped.addresses] at member
      rcases List.mem_append.mp member with onLeft | onRight
      · exact List.mem_append_left _ (leftSpelled.string_mem onLeft)
      · exact List.mem_append_right _ (List.mem_cons_of_mem _ (rightSpelled.string_mem onRight))
  | single _ ih => exact ih member
  | @joined connective first others _ _ ih =>
      rcases List.mem_append.mp member with inFirst | inOthers
      · exact mem_row List.mem_cons_self (ih first List.mem_cons_self inFirst)
      · obtain ⟨rule, included, held⟩ := Rule.mem_listAddresses.mp inOthers
        obtain ⟨item, listed, rfl⟩ := List.mem_map.mp included
        have among : item ∈ first :: others := List.mem_cons_of_mem _ listed
        exact mem_row (List.mem_map_of_mem among) (ih item among held)

end Read

section CallFree

variable {registry : Registry} {level : Level} {tokens : List Token}

theorem identifier_mem_row_iff {mark : Mark} {name : String} {phrases : List (List Token)} :
    Token.identifier name ∈ row mark phrases ↔
      ∃ phrase ∈ phrases, Token.identifier name ∈ phrase := by
  cases phrases with
  | nil => simp [row]
  | cons first others => simp [row]

/-- No call occurs in a row of phrases if none occurs in what each of them spells. -/
theorem forall_callFree_iff {α : Type} {callFree : α → Prop} {mark : Mark}
    {phrases : List (List Token × α)}
    (each : ∀ phrase ∈ phrases, (callFree phrase.2 ↔ ∀ name, .identifier name ∉ phrase.1)) :
    (∀ spelled ∈ phrases.map Prod.snd, callFree spelled) ↔
      ∀ name, .identifier name ∉ row mark (phrases.map Prod.fst) := by
  constructor
  · intro free name inRow
    obtain ⟨tokens, listed, inside⟩ := identifier_mem_row_iff.mp inRow
    obtain ⟨phrase, included, rfl⟩ := List.mem_map.mp listed
    exact (each phrase included).mp (free phrase.2 (List.mem_map_of_mem included)) name inside
  · intro absent spelled listed
    obtain ⟨phrase, included, rfl⟩ := List.mem_map.mp listed
    apply (each phrase included).mpr
    intro name inside
    exact absent name
      (identifier_mem_row_iff.mpr ⟨phrase.1, List.mem_map_of_mem included, inside⟩)

theorem Spells.callFree_iff {value : Value} (spelled : Spells registry tokens value) :
    value.CallFree ↔ ∀ name, .identifier name ∉ tokens := by
  induction spelled with
  | number => simp [Value.CallFree, Value.BoundTo]
  | truth => simp [Value.CallFree, Value.BoundTo]
  | string quoted => cases quoted <;> simp [Value.CallFree, Value.BoundTo]
  | @array items _ ih =>
      have inRow := @forall_callFree_iff _ Value.CallFree .comma _ ih
      apply (Value.allCallFree_iff.trans inRow).trans
      simp
  | @call name arguments overload _ _ ih =>
      apply iff_of_false
      · exact Call.not_boundTo_nil _
      · intro uncalled
        exact uncalled name List.mem_cons_self

theorem Retyped.callFree_iff {role : Role} {operand value : Value}
    (retyped : Retyped role operand value) : value.CallFree ↔ operand.CallFree := by
  cases retyped with
  | located => exact Iff.rfl
  | called => exact Iff.rfl
  | literal => exact Iff.rfl

theorem Derives.callFree_iff {rule : Rule} (derived : Derives registry level tokens rule) :
    rule.CallFree ↔ ∀ name, .identifier name ∉ tokens := by
  induction derived with
  | enclosed _ ih => simpa using ih
  | negation spelled retyped =>
      apply (retyped.callFree_iff.trans spelled.callFree_iff).trans
      simp
  | binary leftSpelled rightSpelled leftTyped rightTyped =>
      apply (and_congr (leftTyped.callFree_iff.trans leftSpelled.callFree_iff)
        (rightTyped.callFree_iff.trans rightSpelled.callFree_iff)).trans
      simp [forall_and]
  | single _ ih => exact ih
  | @joined connective first others _ _ ih =>
      apply Iff.trans _ (forall_callFree_iff ih)
      rw [List.map_cons, ← Rule.allCallFree_iff]
      exact Iff.rfl

end CallFree

end Grammar

/-- Evaluating a rule that was read and makes no calls reports no illegal evaluation, whatever the
document and the strategy. It only reports that a path or pointer that is written in the text leads
nowhere or to a value of another kind. -/
theorem parseRule_failures {registry : Registry} {text : String} {rule : Rule}
    (accepted : parseRule registry text = .ok rule) (callFree : rule.CallFree) (setting : Setting)
    (session : Session) :
    ∃ spanned, tokenize text = .ok spanned ∧
      ∃ calls, (rule.script.run setting session).2.failures = session.failures ++ calls ∧
        ∀ call ∈ calls, ∃ address ∈ rule.addresses,
          .string address.text ∈ spanned.map Spanned.token ∧
          (call = .missing address.text ∨
            ∃ expected actual, call = .mismatch address.text expected actual) := by
  obtain ⟨spanned, cut, parsed⟩ := parseRule_eq_ok_iff.mp accepted
  have derived := parseTokens_sound parsed
  obtain ⟨calls, failures, arise⟩ := (derived.reports callFree).run setting session
  refine ⟨spanned, cut, calls, failures, ?_⟩
  intro call member
  cases arise call member with
  | @missing address held => exact ⟨address, held, derived.string_mem held, .inl rfl⟩
  | @mismatch address expected actual held =>
      exact ⟨address, held, derived.string_mem held, .inr ⟨expected, actual, rfl⟩⟩

theorem parseRule_failures_mixed :
    ∃ rule spanned,
      parseRule Registry.standard "'/n' >= 2 || ^'$.b' && ['$.s', 1] == []" = .ok rule ∧
      rule.CallFree ∧
      tokenize "'/n' >= 2 || ^'$.b' && ['$.s', 1] == []" = .ok spanned ∧
      let session :=
        (rule.script.run ⟨.object [("n", .string "2")], .injectDefault, fun _ => .zero⟩ .fresh).2
      session.failures.map Failure.kind = [.mismatch, .missing, .missing] ∧
        ∀ call ∈ session.failures, ∃ address ∈ rule.addresses,
          .string address.text ∈ spanned.map Spanned.token ∧
          (call = .missing address.text ∨
            ∃ expected actual, call = .mismatch address.text expected actual) := by
  have read : (match tokenize "'/n' >= 2 || ^'$.b' && ['$.s', 1] == []",
      parseRule Registry.standard "'/n' >= 2 || ^'$.b' && ['$.s', 1] == []" with
      | .ok spanned, .ok rule =>
          (spanned.map Spanned.token).all (fun token => !(token matches .identifier _)) &&
          decide ((rule.script.run ⟨.object [("n", .string "2")], .injectDefault, fun _ => .zero⟩
            .fresh).2.failures.map Failure.kind = [.mismatch, .missing, .missing])
      | _, _ => false) = true := by decide +kernel
  split at read
  · rename_i spanned rule cut accepted
    obtain ⟨noIdentifier, failures⟩ := Bool.and_eq_true_iff.mp read
    obtain ⟨_, again, parsed⟩ := parseRule_eq_ok_iff.mp accepted
    obtain rfl := Except.ok.inj (cut.symm.trans again)
    have callFree : rule.CallFree := by
      apply (parseTokens_sound parsed).callFree_iff.mpr
      intro name member
      have excluded := List.all_eq_true.mp noIdentifier _ member
      simp at excluded
    obtain ⟨_, cutAgain, calls, added, arise⟩ := parseRule_failures accepted callFree
      ⟨.object [("n", .string "2")], .injectDefault, fun _ => .zero⟩ .fresh
    obtain rfl := Except.ok.inj (cut.symm.trans cutAgain)
    refine ⟨rule, spanned, accepted, callFree, cut, of_decide_eq_true failures, ?_⟩
    rw [added]
    exact arise
  · cases read

end Verdict
