import Verdict.Proofs.Rule.Operands
import Verdict.Proofs.Session.Locality

/-! What a session counts. Its memory has one entry for each text that was looked up, made when the
document was walked for it, and every other look-up was answered from memory. A rule that asks for all
of its operands looks up each address that it holds. -/

set_option autoImplicit false

namespace Verdict

namespace Session

/-- The counts and the memory of a session in which the addresses were looked up. -/
structure Accounts (session : Session) (looked : List Address) : Prop where
  distinct : (session.found.map Prod.fst).Nodup
  keys : ∀ text, text ∈ session.found.map Prod.fst ↔ text ∈ looked.map Address.text
  misses : session.misses = session.found.length
  total : session.hits + session.misses = looked.length

variable {session : Session} {looked : List Address}

theorem fresh_accounts : fresh.Accounts [] := ⟨List.nodup_nil, fun _ => Iff.rfl, rfl, rfl⟩

theorem Accounts.lookUp (accounts : session.Accounts looked) (document : Json)
    (address : Address) :
    (session.lookUp document address).2.Accounts (looked ++ [address]) := by
  obtain ⟨distinct, keys, misses, total⟩ := accounts
  have counts := @lookUp_counts session document address
  refine ⟨?_, ?_, ?_, by simp [counts, total]⟩
  · unfold Session.lookUp
    cases remembered : session.found.lookup address.text with
    | some outcome => exact distinct
    | none =>
        -- a text is entered only when it was looked for in vain
        refine List.nodup_cons.mpr ⟨?_, distinct⟩
        intro known
        obtain ⟨entry, member, same⟩ := List.mem_map.mp known
        exact absurd same.symm (by simpa using List.lookup_eq_none_iff.mp remembered entry member)
  · intro text
    rw [mem_found_lookUp_iff, keys, List.map_append, List.mem_append, List.map_singleton,
      List.mem_singleton, or_comm]
  · unfold Session.lookUp
    split
    · exact misses
    · rw [List.length_cons, misses]

theorem Accounts.report (accounts : session.Accounts looked) (failures : List Failure) :
    { session with failures := failures }.Accounts looked :=
  ⟨accounts.distinct, accounts.keys, accounts.misses, accounts.total⟩

/-- Each text was walked for once. -/
theorem Accounts.card (accounts : session.Accounts looked) :
    session.misses = (looked.map Address.text).toFinset.card := by
  have same : (session.found.map Prod.fst).toFinset = (looked.map Address.text).toFinset := by
    ext text
    rw [List.mem_toFinset, List.mem_toFinset, accounts.keys]
  rw [accounts.misses, ← same, List.toFinset_card_of_nodup accounts.distinct, List.length_map]

end Session

namespace Script

variable {α β : Type} {setting : Setting} {session : Session}

theorem run_accounts (setting : Setting) (script : Script α) {looked : List Address}
    (accounts : session.Accounts looked) :
    (script.run setting session).2.Accounts (looked ++ script.lookedUp setting session) := by
  induction script generalizing session looked with
  | done value => simpa [run, lookedUp] using accounts
  | fail error => simpa [run, lookedUp] using accounts
  | look address next ih =>
      have further := ih (session.lookUp setting.document address).1 (accounts.lookUp setting.document address)
      simpa [run, lookedUp] using further
  | read reading next ih => exact ih (setting.clock reading) accounts
  | report failure rest ih =>
      have reported := accounts.report (session.failures ++ [failure])
      cases judged : setting.strategy.judge session.failures failure with
      | some error => simpa [run, lookedUp, judged] using reported
      | none => simpa only [run, lookedUp, judged] using ih reported

/-- Whatever the questions are answered with, a script that comes to a value has looked up the
addresses. -/
inductive LooksUp : List Address → Script α → Prop where
  | done {value : α} : LooksUp [] (.done value)
  | fail {addresses : List Address} {error : Error} : LooksUp addresses (.fail error)
  | look {address : Address} {addresses : List Address} {next : Option Json → Script α} :
      (∀ found, LooksUp addresses (next found)) → LooksUp (address :: addresses) (.look address next)
  | read {addresses : List Address} {reading : Reading} {next : Number → Script α} :
      (∀ number, LooksUp addresses (next number)) → LooksUp addresses (.read reading next)
  | report {addresses : List Address} {failure : Failure} {rest : Script α} :
      LooksUp addresses rest → LooksUp addresses (.report failure rest)

namespace LooksUp

variable {addresses others : List Address}

theorem bind {script : Script α} {next : α → Script β} (looks : LooksUp addresses script)
    (further : ∀ value, LooksUp others (next value)) :
    LooksUp (addresses ++ others) (script.bind next) := by
  induction looks with
  | done => exact further _
  | fail => exact .fail
  | look _ ih => exact .look ih
  | read _ ih => exact .read ih
  | report _ ih => exact .report ih

theorem map {script : Script α} (looks : LooksUp addresses script) (change : α → β) :
    LooksUp addresses (script.bind fun value => .done (change value)) := by
  simpa using looks.bind fun value => .done

theorem both {γ : Type} {left : Script α} {right : Script β} (answer : α → β → γ)
    (first : LooksUp addresses left) (second : LooksUp others right) :
    LooksUp (addresses ++ others)
      (left.bind fun first => right.bind fun second => .done (answer first second)) :=
  first.bind fun value => second.map (answer value)

theorem lookedUp_eq {script : Script α} {value : α} (looks : LooksUp addresses script)
    (comes : (script.run setting session).1 = .ok value) :
    script.lookedUp setting session = addresses := by
  induction looks generalizing session with
  | done => rfl
  | fail => cases comes
  | look _ ih => exact congrArg (_ :: ·) (ih _ comes)
  | read _ ih => exact ih _ comes
  | @report addresses failure rest _ ih =>
      simp only [run, lookedUp] at comes ⊢
      cases judged : setting.strategy.judge session.failures failure with
      | some error => simp [judged] at comes
      | none =>
          simp only [judged] at comes
          exact ih comes

end LooksUp

end Script

/-! ## Rules -/

theorem Address.resolve_looksUp {α : Type} (address : Address) (expected : JsonKind)
    (read : Json → Option α) : Script.LooksUp [address] (address.resolve expected read) := by
  apply Script.LooksUp.look
  intro found
  split
  · exact .report .done
  · split
    · exact .done
    · exact .report .done

mutual

theorem Value.datum_looksUp (value : Value) (callFree : value.CallFree) :
    Script.LooksUp value.addresses value.operand.datum := by
  cases value with
  | number => exact .done
  | string => exact .done
  | boolean => exact .done
  | object => exact .done
  | array items =>
      rw [Value.operand, Value.addresses]
      exact (Value.data_looksUp items callFree).map fun data =>
        some (Datum.list (data.map fun datum => datum.getD .null))
  | located role address =>
      rw [Value.operand, Value.addresses]
      exact address.resolve_looksUp .object fun json => some (Datum.ofJson json)
  | computed role dialect call => exact absurd callFree call.not_boundTo_nil
  | called role call => exact absurd callFree call.not_boundTo_nil

theorem Value.data_looksUp (values : List Value) (callFree : Value.AllBoundTo [] values) :
    Script.LooksUp (Value.listAddresses values)
      (Script.sequence ((Value.operands values).map fun operand => operand.datum)) := by
  cases values with
  | nil =>
      rw [Value.operands, Value.listAddresses]
      exact .done
  | cons first others =>
      rw [Value.operands, Value.listAddresses, List.map_cons, Script.sequence]
      exact (Value.datum_looksUp first callFree.1).both List.cons
        (Value.data_looksUp others callFree.2)

end

/-- Whether a value is a literal array. -/
def Value.isArray : Value → Bool
  | .array _ => true
  | _ => false

theorem Value.number_looksUp {value : Value} (callFree : value.CallFree)
    (noArray : value.isArray = false) : Script.LooksUp value.addresses value.operand.number := by
  cases value with
  | number => exact .done
  | string => exact .report .done
  | boolean => exact .report .done
  | object => exact .report .done
  | array => cases noArray
  | located role address =>
      rw [Value.operand, Value.addresses]
      exact address.resolve_looksUp .number Json.number?
  | computed role dialect call => exact absurd callFree call.not_boundTo_nil
  | called role call => exact absurd callFree call.not_boundTo_nil

theorem Value.boolean_looksUp {value : Value} (callFree : value.CallFree)
    (noArray : value.isArray = false) : Script.LooksUp value.addresses value.operand.boolean := by
  cases value with
  | boolean => exact .done
  | number => exact .report .done
  | string => exact .report .done
  | object => exact .report .done
  | array => cases noArray
  | located role address =>
      rw [Value.operand, Value.addresses]
      exact address.resolve_looksUp .boolean Json.boolean?
  | computed role dialect call => exact absurd callFree call.not_boundTo_nil
  | called role call => exact absurd callFree call.not_boundTo_nil

mutual

/-- Literal arrays are operands of the equalities only. -/
def Rule.ComparesArrays : Rule → Prop
  | .combined _ first others => Rule.ComparesArrays first ∧ Rule.AllCompareArrays others
  | .negation operand => operand.isArray = false
  | .binary operator left right =>
      operator.role = .object ∨ (left.isArray = false ∧ right.isArray = false)

def Rule.AllCompareArrays : List Rule → Prop
  | [] => True
  | rule :: rules => Rule.ComparesArrays rule ∧ Rule.AllCompareArrays rules

end

section Operands

variable {left right : Value}

theorem Value.booleans_looksUp (leftFree : left.CallFree) (rightFree : right.CallFree)
    (noArray : left.isArray = false ∧ right.isArray = false) (answer : Bool → Bool → Bool) :
    Script.LooksUp (left.addresses ++ right.addresses)
      ((left.resolveBoolean false).bind fun first =>
        (right.resolveBoolean false).bind fun second => .done (answer first second)) :=
  ((left.boolean_looksUp leftFree noArray.1).map _).both answer
    ((right.boolean_looksUp rightFree noArray.2).map _)

theorem Value.numbers_looksUp (leftFree : left.CallFree) (rightFree : right.CallFree)
    (noArray : left.isArray = false ∧ right.isArray = false) (answer : Number → Number → Bool) :
    Script.LooksUp (left.addresses ++ right.addresses)
      ((left.resolveNumber .zero).bind fun first =>
        (right.resolveNumber .zero).bind fun second => .done (answer first second)) :=
  ((left.number_looksUp leftFree noArray.1).map _).both answer
    ((right.number_looksUp rightFree noArray.2).map _)

theorem Operator.script_looksUp {operator : Operator} (leftFree : left.CallFree)
    (rightFree : right.CallFree)
    (compares : operator.role = .object ∨ (left.isArray = false ∧ right.isArray = false)) :
    Script.LooksUp (left.addresses ++ right.addresses) (operator.script left right) := by
  have data (answer : Datum → Datum → Bool) :=
    ((left.datum_looksUp leftFree).map fun datum => datum.getD .null).both answer
      ((right.datum_looksUp rightFree).map fun datum => datum.getD .null)
  cases operator with
  | equal => exact data fun first second => first.same second
  | notEqual => exact data fun first second => !first.same second
  | both =>
      have noArray := compares.resolve_left nofun
      exact Value.booleans_looksUp leftFree rightFree noArray fun first second => first && second
  | either =>
      have noArray := compares.resolve_left nofun
      exact Value.booleans_looksUp leftFree rightFree noArray fun first second => first || second
  | greater =>
      have noArray := compares.resolve_left nofun
      exact Value.numbers_looksUp leftFree rightFree noArray fun first second => second.less first
  | greaterEqual =>
      have noArray := compares.resolve_left nofun
      exact Value.numbers_looksUp leftFree rightFree noArray fun first second => second.atMost first
  | less =>
      have noArray := compares.resolve_left nofun
      exact Value.numbers_looksUp leftFree rightFree noArray fun first second => first.less second
  | lessEqual =>
      have noArray := compares.resolve_left nofun
      exact Value.numbers_looksUp leftFree rightFree noArray fun first second => first.atMost second

end Operands

theorem Rule.script_looksUp {rule : Rule} (single : rule.isCombined = false)
    (callFree : rule.CallFree) (compares : rule.ComparesArrays) :
    Script.LooksUp rule.addresses rule.script := by
  cases rule with
  | combined => cases single
  | negation operand =>
      rw [Rule.script, Rule.addresses]
      exact ((operand.boolean_looksUp callFree compares).map fun truth => truth.getD false).map not
  | binary operator left right =>
      rw [Rule.script, Rule.addresses]
      exact Operator.script_looksUp callFree.1 callFree.2 compares

namespace Grammar

private theorem Retyped.noArray {role : Role} {operand value : Value}
    (retyped : Retyped role operand value) (scalar : role.nodeKind ≠ .array) :
    role = .object ∨ value.isArray = false := by
  cases retyped with
  | located => exact .inr rfl
  | called => exact .inr rfl
  | literal literal kept =>
      rcases kept with object | kind
      · exact .inl object
      · cases literal with
        | array => exact absurd kind.symm scalar
        | _ => exact .inr rfl

/-- Reading refuses an operand of the wrong kind, so every rule that is read compares its arrays. -/
theorem Derives.comparesArrays {registry : Registry} {level : Level} {tokens : List Token}
    {rule : Rule} (derived : Derives registry level tokens rule) : rule.ComparesArrays := by
  induction derived with
  | enclosed _ ih => exact ih
  | negation _ retyped => exact (retyped.noArray (by decide)).resolve_left (by decide)
  | @binary lefts rights operator left right retypedLeft retypedRight _ _ leftTyped rightTyped =>
      have scalar : operator.role.nodeKind ≠ .array := by cases operator <;> decide
      rcases leftTyped.noArray scalar with object | leftScalar
      · exact .inl object
      · rcases rightTyped.noArray scalar with object | rightScalar
        · exact .inl object
        · exact .inr ⟨leftScalar, rightScalar⟩
  | single _ ih => exact ih
  | @joined connective first others _ _ ih =>
      obtain ⟨front, behind⟩ := List.forall_mem_cons.mp ih
      refine ⟨front, ?_⟩
      clear * - behind
      induction others with
      | nil => trivial
      | cons second others ih =>
          obtain ⟨here, further⟩ := List.forall_mem_cons.mp behind
          exact ⟨here, ih further⟩

end Grammar

theorem parseRule_comparesArrays {registry : Registry} {text : String} {rule : Rule}
    (read : parseRule registry text = .ok rule) : rule.ComparesArrays := by
  obtain ⟨spanned, -, accepted⟩ := parseRule_eq_ok_iff.mp read
  exact (parseTokens_sound accepted).comparesArrays

private theorem exists_of_isOk {ε α : Type} {result : Except ε α} (succeeds : result.isOk = true) :
    ∃ value, result = .ok value := by
  cases result with
  | error error => cases succeeds
  | ok value => exact ⟨value, rfl⟩

namespace Operation

variable {setting : Setting}

/-- The addresses that operations look up one after another in a session. -/
def lookedUpAll (setting : Setting) : List Operation → Session → List Address
  | [], _ => []
  | operation :: operations, session =>
      operation.script.lookedUp setting session ++
        lookedUpAll setting operations (operation.script.run setting session).2

theorem performAll_accounts (setting : Setting) (operations : List Operation) {session : Session}
    {looked : List Address} (accounts : session.Accounts looked) :
    (performAll setting operations session).2.Accounts
      (looked ++ lookedUpAll setting operations session) := by
  induction operations generalizing session looked with
  | nil => simpa [performAll, lookedUpAll] using accounts
  | cons operation operations ih =>
      have further := ih (operation.script.run_accounts setting accounts)
      rwa [List.append_assoc] at further

theorem lookedUpAll_evaluate {rules : List Rule} {session : Session}
    (plain : ∀ rule ∈ rules, rule.isCombined = false ∧ rule.CallFree ∧ rule.ComparesArrays)
    (succeeds : ∀ result ∈ (performAll setting (rules.map .evaluate) session).1,
      result.1.isOk = true) :
    lookedUpAll setting (rules.map .evaluate) session = Rule.listAddresses rules := by
  induction rules generalizing session with
  | nil => rfl
  | cons rule rules ih =>
      obtain ⟨⟨single, callFree, compares⟩, others⟩ := List.forall_mem_cons.mp plain
      rw [List.map_cons, performAll] at succeeds
      obtain ⟨succeeded, further⟩ := List.forall_mem_cons.mp succeeds
      obtain ⟨outcome, comes⟩ := exists_of_isOk succeeded
      have looks := (Rule.script_looksUp single callFree compares).map Outcome.boolean
      rw [List.map_cons, lookedUpAll, Rule.listAddresses]
      exact congr (congrArg _ (looks.lookedUp_eq comes)) (ih others further)

/-- A session has walked its document once for each text that was looked up, and each other look-up
was answered from memory. Rules that resolve all of their operands look up every address in them. -/
theorem performAll_counts (setting : Setting) :
    (∀ operations : List Operation,
      let session := (performAll setting operations .fresh).2
      let looked := lookedUpAll setting operations .fresh
      session.misses = (looked.map Address.text).toFinset.card ∧
        (session.found.map Prod.fst).Nodup ∧
        (∀ text, text ∈ session.found.map Prod.fst ↔ text ∈ looked.map Address.text) ∧
        session.hits + session.misses = looked.length) ∧
    (∀ rules : List Rule,
      (∀ rule ∈ rules, rule.isCombined = false ∧ rule.CallFree ∧ rule.ComparesArrays) →
      (∀ result ∈ (performAll setting (rules.map .evaluate) .fresh).1, result.1.isOk = true) →
      let session := (performAll setting (rules.map .evaluate) .fresh).2
      let addresses := Rule.listAddresses rules
      session.misses = (addresses.map Address.text).toFinset.card ∧
        session.hits + session.misses = addresses.length) ∧
    ∀ registry text rule, parseRule registry text = .ok rule → rule.ComparesArrays := by
  refine ⟨?_, ?_, fun _ _ _ => parseRule_comparesArrays⟩
  · intro operations
    have accounts := performAll_accounts setting operations Session.fresh_accounts
    exact ⟨accounts.card, accounts.distinct, accounts.keys, accounts.total⟩
  · intro rules plain succeeds
    have accounts := performAll_accounts setting (rules.map .evaluate) Session.fresh_accounts
    rw [List.nil_append, lookedUpAll_evaluate plain succeeds] at accounts
    exact ⟨accounts.card, accounts.total⟩

end Operation

theorem performAll_counts_items :
    ∃ rule : Rule, rule.addresses.map Address.text = ["$.a", "$.a", "/b"] ∧
      (Operation.performAll ⟨.object [], .injectDefault, fun _ => .zero⟩ [.evaluate rule]
        .fresh).2.misses = 2 := by
  let path : Path := ⟨"$.a", [.key "a"], by rfl⟩
  let pointer : Pointer := ⟨"/b", by rfl⟩
  let item : Value := .located none (.path path)
  let rule : Rule := .binary .equal (.array [item, item]) (.located (some .object) (.pointer pointer))
  have plain : ∀ candidate ∈ [rule],
      candidate.isCombined = false ∧ candidate.CallFree ∧ candidate.ComparesArrays := by
    simpa using ⟨rfl, ⟨⟨trivial, trivial, trivial⟩, trivial⟩, .inl rfl⟩
  obtain ⟨-, counts, -⟩ :=
    Operation.performAll_counts ⟨.object [], .injectDefault, fun _ => .zero⟩
  exact ⟨rule, rfl, (counts [rule] plain (by decide +kernel)).1⟩

/-- A literal array cannot be negated, and when that is recovered from its items were not asked for. -/
theorem performAll_counts_no_unresolved_items :
    ¬ ∀ (setting : Setting) (rules : List Rule),
      (∀ rule ∈ rules, rule.isCombined = false ∧ rule.CallFree) →
      (∀ result ∈ (Operation.performAll setting (rules.map .evaluate) .fresh).1,
        result.1.isOk = true) →
      (Operation.performAll setting (rules.map .evaluate) .fresh).2.misses =
          ((Rule.listAddresses rules).map Address.text).toFinset.card ∧
        (Operation.performAll setting (rules.map .evaluate) .fresh).2.hits +
            (Operation.performAll setting (rules.map .evaluate) .fresh).2.misses =
          (Rule.listAddresses rules).length := by
  intro counts
  let path : Path := ⟨"$.a", [.key "a"], by rfl⟩
  let rule : Rule := .negation (.array [.located (some .boolean) (.path path)])
  have plain : ∀ candidate ∈ [rule], candidate.isCombined = false ∧ candidate.CallFree := by
    simpa using ⟨rfl, trivial, trivial⟩
  have walked := (counts ⟨.object [("a", .boolean true)], .injectDefault, fun _ => .zero⟩ [rule]
    plain (by decide +kernel)).2
  exact absurd walked (by decide +kernel)

end Verdict
