import Mathlib
import Verdict.Proofs.Session.Silence
import Verdict.Proofs.Value.Items

/-! Literals and the document are interchangeable. Where an address leads to something, the literal
of what is there can stand in its place, and a rule that comes to an answer without a failure still
comes to it. -/

set_option autoImplicit false

namespace Verdict

open Script

/-- The second value is the first with literals for some of the addresses outside calls: each
literal stands for what is at its address, which is not null. -/
inductive Value.Filled (document : Json) : Value → Value → Prop where
  | kept {value : Value} : Filled document value value
  | located {role : Option Role} {address : Address} {json : Json} :
      address.locate document = some json → json ≠ .null →
      Filled document (.located role address) (.ofJson json)
  | array {items : List (Value × Value)} :
      (∀ item ∈ items, Filled document item.1 item.2) →
      Filled document (.array (items.map Prod.fst)) (.array (items.map Prod.snd))

/-- The second rule is the first with some of its operands filled. -/
inductive Rule.Filled (document : Json) : Rule → Rule → Prop where
  | negation {operand filled : Value} :
      operand.Filled document filled → Filled document (.negation operand) (.negation filled)
  | binary {operator : Operator} {left right leftFilled rightFilled : Value} :
      left.Filled document leftFilled → right.Filled document rightFilled →
      Filled document (.binary operator left right) (.binary operator leftFilled rightFilled)
  | combined {connective : Connective} {first filled : Rule} {others : List (Rule × Rule)} :
      Filled document first filled → (∀ member ∈ others, Filled document member.1 member.2) →
      Filled document (.combined connective first (others.map Prod.fst))
        (.combined connective filled (others.map Prod.snd))

section Quiet

variable {document : Json} {clock : Reading → Number}

theorem present?_of_ne_null {json : Json} (present : json ≠ .null) :
    present? (some json) = some json := by
  cases json with
  | null => exact absurd rfl present
  | boolean => rfl
  | number => rfl
  | string => rfl
  | array => rfl
  | object => rfl

/-- A literal comes to whatever is read at the address that it stands for. -/
theorem Address.resolve_refines {α : Type} {address : Address} {json : Json}
    (located : address.locate document = some json) (present : json ≠ .null) {expected : JsonKind}
    {read : Json → Option α} {literal : Script (Option α)}
    (reads : ∀ value, read json = some value → literal = .done (some value)) :
    Refines document clock (address.resolve expected read) literal := by
  intro result comes
  -- Nothing was reported, so what lives at the address was read.
  rw [Address.resolve, quiet?, located, present?_of_ne_null present] at comes
  dsimp only at comes
  cases found : read json with
  | none =>
      rw [found] at comes
      cases comes
  | some value =>
      rw [found] at comes
      rw [reads value found]
      exact comes

theorem Operand.number_ofJson {json : Json} {number : Number}
    (reads : json.number? = some number) : (Operand.ofJson json).number = .done (some number) := by
  cases json with
  | number value =>
      cases reads
      rfl
  | null => cases reads
  | boolean => cases reads
  | string => cases reads
  | array => cases reads
  | object => cases reads

theorem Operand.boolean_ofJson {json : Json} {truth : Bool}
    (reads : json.boolean? = some truth) : (Operand.ofJson json).boolean = .done (some truth) := by
  cases json with
  | boolean value =>
      cases reads
      rfl
  | null => cases reads
  | number => cases reads
  | string => cases reads
  | array => cases reads
  | object => cases reads

namespace Value.Filled

variable {value filled : Value}

theorem number (fills : value.Filled document filled) :
    Refines document clock value.operand.number filled.operand.number := by
  cases fills with
  | kept => exact .refl _
  | located found present =>
      rw [Value.operand, Value.operand_ofJson]
      exact Address.resolve_refines found present fun number => Operand.number_ofJson
  | array =>
      rw [Value.operand, Value.operand]
      exact .refl _

theorem boolean (fills : value.Filled document filled) :
    Refines document clock value.operand.boolean filled.operand.boolean := by
  cases fills with
  | kept => exact .refl _
  | located found present =>
      rw [Value.operand, Value.operand_ofJson]
      exact Address.resolve_refines found present fun truth => Operand.boolean_ofJson
  | array =>
      rw [Value.operand, Value.operand]
      exact .refl _

theorem datum (fills : value.Filled document filled) :
    Refines document clock value.operand.datum filled.operand.datum := by
  induction fills with
  | kept => exact .refl _
  | @located role address json found present =>
      rw [Value.operand, Value.datum_ofJson]
      change Refines document clock (address.resolve .object fun json => some (Datum.ofJson json)) _
      apply Address.resolve_refines found present
      intro datum reads
      rw [Option.some_inj.mp reads]
  | @array items _ ih =>
      rw [Value.operand, Value.operand, Value.operands_eq_map, Value.operands_eq_map]
      refine Refines.bind ?_ fun data => .refl _
      let scripts := items.map fun item => (item.1.operand.datum, item.2.operand.datum)
      have refines : ∀ pair ∈ scripts, Refines document clock pair.1 pair.2 := by
        intro pair member
        obtain ⟨item, included, rfl⟩ := List.mem_map.mp member
        exact ih item included
      simpa [scripts, Function.comp_def] using Refines.sequence refines

theorem resolveNumber (fills : value.Filled document filled) (default : Number) :
    Refines document clock (value.resolveNumber default) (filled.resolveNumber default) :=
  fills.number.bind fun _ => .refl _

theorem resolveBoolean (fills : value.Filled document filled) (default : Bool) :
    Refines document clock (value.resolveBoolean default) (filled.resolveBoolean default) :=
  fills.boolean.bind fun _ => .refl _

theorem resolveDatum (fills : value.Filled document filled) (default : Datum) :
    Refines document clock (value.resolveDatum default) (filled.resolveDatum default) :=
  fills.datum.bind fun _ => .refl _

end Value.Filled

/-- Two operands are resolved one after the other, and then the operator decides. -/
theorem Script.Refines.both {α β : Type} {left right leftOther rightOther : Script α}
    (leftRefines : Refines document clock left leftOther)
    (rightRefines : Refines document clock right rightOther) (answer : α → α → β) :
    Refines document clock
      (left.bind fun first => right.bind fun second => .done (answer first second))
      (leftOther.bind fun first => rightOther.bind fun second => .done (answer first second)) := by
  apply leftRefines.bind
  intro first
  apply rightRefines.bind
  intro second
  exact .refl _

theorem Operator.script_refines (operator : Operator) {left right leftFilled rightFilled : Value}
    (leftFills : left.Filled document leftFilled) (rightFills : right.Filled document rightFilled) :
    Refines document clock (operator.script left right)
      (operator.script leftFilled rightFilled) := by
  cases operator with
  | both => exact Refines.both (leftFills.resolveBoolean _) (rightFills.resolveBoolean _) _
  | either => exact Refines.both (leftFills.resolveBoolean _) (rightFills.resolveBoolean _) _
  | equal => exact Refines.both (leftFills.resolveDatum _) (rightFills.resolveDatum _) _
  | notEqual => exact Refines.both (leftFills.resolveDatum _) (rightFills.resolveDatum _) _
  | greater => exact Refines.both (leftFills.resolveNumber _) (rightFills.resolveNumber _) _
  | greaterEqual => exact Refines.both (leftFills.resolveNumber _) (rightFills.resolveNumber _) _
  | less => exact Refines.both (leftFills.resolveNumber _) (rightFills.resolveNumber _) _
  | lessEqual => exact Refines.both (leftFills.resolveNumber _) (rightFills.resolveNumber _) _

namespace Rule

theorem othersScript_refines (connective : Connective) {members : List (Rule × Rule)}
    (refines : ∀ member ∈ members, Refines document clock member.1.script member.2.script) :
    Refines document clock (othersScript connective (members.map Prod.fst))
      (othersScript connective (members.map Prod.snd)) := by
  induction members with
  | nil => exact .refl _
  | cons first others ih =>
      obtain ⟨front, behind⟩ := List.forall_mem_cons.mp refines
      rw [List.map_cons, List.map_cons, othersScript, othersScript]
      apply front.bind
      intro answer
      split
      · exact .refl _
      · exact ih behind

theorem Filled.script {rule filled : Rule} (fills : rule.Filled document filled) :
    Refines document clock rule.script filled.script := by
  induction fills with
  | negation operand =>
      rw [Rule.script, Rule.script]
      exact (operand.resolveBoolean false).bind fun _ => .refl _
  | binary left right =>
      rw [Rule.script, Rule.script]
      exact Operator.script_refines _ left right
  | combined _ _ front behind =>
      rw [Rule.script, Rule.script]
      apply front.bind
      intro answer
      split
      · exact .refl _
      · exact othersScript_refines _ behind

end Rule

end Quiet

/-- A rule that evaluates to a truth value under the strict strategy still does so when literals
take the place of addresses that lead to something. -/
theorem Rule.evaluate_of_filled {document : Json} {clock : Reading → Number} {rule filled : Rule}
    {answer : Bool} (fills : rule.Filled document filled)
    (evaluates : rule.evaluate ⟨document, .strict, clock⟩ = .ok answer) :
    filled.evaluate ⟨document, .strict, clock⟩ = .ok answer := by
  apply evaluate_strict_eq_ok_iff.mpr
  exact fills.script answer (evaluate_strict_eq_ok_iff.mp evaluates)

theorem Rule.evaluate_of_filled_nested :
    ∃ rule filled : Rule, ∃ document : Json,
      rule.evaluate ⟨document, .strict, fun _ => .zero⟩ = .ok true ∧
      filled.same rule = false ∧
      filled.evaluate ⟨document, .strict, fun _ => .zero⟩ = .ok true := by
  let items : List Json := [.null, .object [("k", .number (.decimal .one))]]
  let document : Json := .object [("l", .array items), ("n", .number (.whole 3))]
  let count : Address := .path ⟨"$.n", [.key "n"], by rfl⟩
  let list : Address := .pointer ⟨"/l", by rfl⟩
  let rule : Rule := .combined .all
    (.binary .greater (.located (some .numeric) count) (.number .one))
    [.binary .equal (.array [.located none list, .boolean true])
      (.array [.located none list, .boolean true])]
  let filled : Rule := .combined .all
    (.binary .greater (.ofJson (.number (.whole 3))) (.number .one))
    [.binary .equal (.array [.ofJson (.array items), .boolean true])
      (.array [.located none list, .boolean true])]
  have listFilled : (Value.located none list).Filled document (.ofJson (.array items)) :=
    .located (by cbv) nofun
  have operandFilled : (Value.array [.located none list, .boolean true]).Filled document
      (.array [.ofJson (.array items), .boolean true]) :=
    @Value.Filled.array document [(_, _), (_, _)]
      (List.forall_mem_cons.mpr ⟨listFilled, List.forall_mem_singleton.mpr .kept⟩)
  have fills : rule.Filled document filled :=
    @Rule.Filled.combined document _ _ _ [(_, _)] (.binary (.located (by cbv) nofun) .kept)
      (List.forall_mem_singleton.mpr (.binary operandFilled .kept))
  have evaluates : rule.evaluate ⟨document, .strict, fun _ => .zero⟩ = .ok true :=
    evaluate_strict_eq_ok_iff.mpr (by decide +kernel)
  exact ⟨rule, filled, document, evaluates, by decide +kernel, evaluate_of_filled fills evaluates⟩

end Verdict