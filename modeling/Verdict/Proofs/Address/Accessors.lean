import Verdict.Proofs.Session.Memory

/-! What resolving an address comes to. Every accessor looks the address up once, and what it finds
there decides everything else; the text of the address only shows in the failure. -/

set_option autoImplicit false

namespace Verdict

/-- The ways to resolve a value, each with the default that takes the place of what could not be
resolved. -/
inductive Accessor where
  | string (default : String)
  | number (default : Number)
  | boolean (default : Bool)
  | datum (default : Datum)
  | explode (default : List Value)
  | flatten (default : List Datum)

/-- What keeps an accessor from reading what lives at an address. -/
inductive Lack where
  | missing
  | mismatch (expected actual : JsonKind)

namespace Lack

def failure (lack : Lack) (text : String) : Failure :=
  match lack with
  | .missing => .missing text
  | .mismatch expected actual => .mismatch text expected actual

end Lack

namespace Accessor

def operation (accessor : Accessor) (value : Value) : Operation :=
  match accessor with
  | .string default => .string value default
  | .number default => .number value default
  | .boolean default => .boolean value default
  | .datum default => .datum value default
  | .explode default => .explode value default
  | .flatten default => .flatten value default

def default : Accessor → Outcome
  | .string default => .string default
  | .number default => .number default
  | .boolean default => .boolean default
  | .datum default => .datum default
  | .explode default => .values default
  | .flatten default => .data default

def expected : Accessor → JsonKind
  | .string _ => .string
  | .number _ => .number
  | .boolean _ => .boolean
  | .datum _ => .object
  | .explode _ => .array
  | .flatten _ => .array

/-- What the accessor makes of a value that is neither absent nor null. -/
def read? (json : Json) : Accessor → Option Outcome
  | .string _ => json.string?.map .string
  | .number _ => json.number?.map .number
  | .boolean _ => json.boolean?.map .boolean
  | .datum _ => some (.datum (.ofJson json))
  | .explode _ => json.items?.map fun items => .values (Value.ofItems items)
  | .flatten _ => json.items?.map fun items => .data (Datum.ofItems items)

/-- What the accessor makes of what was found at an address. -/
def find (accessor : Accessor) (found : Option Json) : Except Lack Outcome :=
  match present? found with
  | none => .error .missing
  | some json =>
      match accessor.read? json with
      | some outcome => .ok outcome
      | none => .error (.mismatch accessor.expected json.kind)

def conclude (accessor : Accessor) (text : String) : Except Lack Outcome → Script Outcome
  | .ok outcome => .done outcome
  | .error lack => .report (lack.failure text) (.done accessor.default)

/-- How a finding ends: with its outcome, or with the failure at the address, which the strategy
raises or lets the default take the place of. The failures reported until then come second. -/
def settle (accessor : Accessor) (strategy : Strategy) (before : List Failure) (text : String) :
    Except Lack Outcome → Except Error Outcome × List Failure
  | .ok outcome => (.ok outcome, before)
  | .error lack =>
      match strategy.judge before (lack.failure text) with
      | some error => (.error error, before ++ [lack.failure text])
      | none => (.ok accessor.default, before ++ [lack.failure text])

/-- The result of an accessor in a session, and the failures reported until then. -/
def observe (accessor : Accessor) (setting : Setting) (session : Session) (value : Value) :
    Except Error Outcome × List Failure :=
  let (result, after) := (accessor.operation value).script.run setting session
  (result, after.failures)

end Accessor

mutual

theorem Value.datum_ofJson (json : Json) :
    (Value.ofJson json).operand.datum = .done (some (Datum.ofJson json)) := by
  cases json with
  | array items =>
      rw [Value.ofJson, Value.operand, Datum.ofJson, Operand.ofArray]
      dsimp only
      rw [Value.sequence_ofItems items, Script.bind]
      simp [Function.comp_def]
  | _ => rfl

theorem Value.sequence_ofItems (items : List Json) :
    Script.sequence ((Value.operands (Value.ofItems items)).map fun item => item.datum) =
      .done ((Datum.ofItems items).map some) := by
  cases items with
  | nil =>
      simp only [Value.ofItems, Value.operands, Datum.ofItems]
      rfl
  | cons item items =>
      simp only [Value.ofItems, Value.operands, Datum.ofItems, List.map_cons, Script.sequence]
      rw [Value.datum_ofJson item, Script.bind, Value.sequence_ofItems items]
      rfl

end

theorem Value.sequence_resolveDatum (items : List Json) :
    Script.sequence ((Value.ofItems items).map fun item => item.resolveDatum .null) =
      .done (Datum.ofItems items) := by
  induction items with
  | nil => rfl
  | cons item items ih =>
      simp only [Value.ofItems, Datum.ofItems, List.map_cons, Script.sequence, Value.resolveDatum,
        Operand.datumOr, Value.datum_ofJson, Script.bind, Option.getD_some]
      simp only [Value.resolveDatum, Operand.datumOr] at ih
      rw [ih]
      rfl

theorem Script.bind_assoc {α β γ : Type} (script : Script α) (next : α → Script β)
    (last : β → Script γ) :
    (script.bind next).bind last = script.bind fun value => (next value).bind last := by
  induction script with
  | done value => rfl
  | fail error => rfl
  | look address answer ih =>
      simp only [bind]
      exact congrArg (Script.look address) (funext ih)
  | read reading answer ih =>
      simp only [bind]
      exact congrArg (Script.read reading) (funext ih)
  | report failure rest ih => exact congrArg (Script.report failure) ih

namespace Accessor

/-- A script that resolves an address and goes on as the accessor does looks the address up once
and concludes from what it finds. -/
theorem resolve_bind {α : Type} (accessor : Accessor) (address : Address)
    {read : Json → Option α} {next : Option α → Script Outcome}
    (absent : next none = .done accessor.default)
    (unread : ∀ json, read json = none → accessor.read? json = none)
    (readAs : ∀ json value, read json = some value →
      ∃ outcome, accessor.read? json = some outcome ∧ next (some value) = .done outcome) :
    (address.resolve accessor.expected read).bind next =
      .look address fun found => accessor.conclude address.text (accessor.find found) := by
  rw [Address.resolve, Script.bind]
  congr 1
  funext found
  unfold find
  cases present? found with
  | none => exact congrArg (Script.report _) absent
  | some json =>
      dsimp only
      cases value : read json with
      | none =>
          rw [unread json value]
          exact congrArg (Script.report _) absent
      | some item =>
          obtain ⟨outcome, same, done⟩ := readAs json item value
          rw [same]
          exact done

/-- The accessor's outcome is made of what was read, and nothing more is resolved. -/
theorem resolve_bind_map {α : Type} (accessor : Accessor) (address : Address)
    {read : Json → Option α} {next : Option α → Script Outcome} {outcome : α → Outcome}
    (absent : next none = .done accessor.default)
    (reads : ∀ json, accessor.read? json = (read json).map outcome)
    (concludes : ∀ value, next (some value) = .done (outcome value)) :
    (address.resolve accessor.expected read).bind next =
      .look address fun found => accessor.conclude address.text (accessor.find found) := by
  refine resolve_bind accessor address absent ?_ ?_
  · intro json unread
    rw [reads, unread, Option.map_none]
  · intro json value read
    refine ⟨outcome value, ?_, concludes value⟩
    rw [reads, read, Option.map_some]

theorem script_located (accessor : Accessor) (role : Option Role) (address : Address) :
    (accessor.operation (.located role address)).script =
      .look address fun found => accessor.conclude address.text (accessor.find found) := by
  cases accessor with
  | string default =>
      simp only [operation, Operation.script, Value.resolveString, Operand.stringOr, Value.operand,
        Operand.ofAddress, Script.bind_assoc]
      exact resolve_bind_map (.string default) address rfl (fun _ => rfl) fun _ => rfl
  | number default =>
      simp only [operation, Operation.script, Value.resolveNumber, Operand.numberOr, Value.operand,
        Operand.ofAddress, Script.bind_assoc]
      exact resolve_bind_map (.number default) address rfl (fun _ => rfl) fun _ => rfl
  | boolean default =>
      simp only [operation, Operation.script, Value.resolveBoolean, Operand.booleanOr,
        Value.operand, Operand.ofAddress, Script.bind_assoc]
      exact resolve_bind_map (.boolean default) address rfl (fun _ => rfl) fun _ => rfl
  | datum default =>
      simp only [operation, Operation.script, Value.resolveDatum, Operand.datumOr, Value.operand,
        Operand.ofAddress, Script.bind_assoc]
      exact resolve_bind_map (.datum default) address rfl (fun _ => rfl) fun _ => rfl
  | explode default =>
      simp only [operation, Operation.script, Value.explode, Value.items, Address.items,
        Script.bind_assoc]
      refine resolve_bind_map (.explode default) address rfl (fun json => ?_) fun _ => rfl
      rw [Option.map_map]
      rfl
  | flatten default =>
      simp only [operation, Operation.script, Value.flatten, Value.items, Address.items,
        Script.bind_assoc]
      refine resolve_bind (.flatten default) address rfl ?_ ?_
      · intro json unread
        simp [read?, Option.map_eq_none_iff.mp unread]
      · intro json values read
        obtain ⟨items, found, rfl⟩ := Option.map_eq_some_iff.mp read
        refine ⟨.data (Datum.ofItems items), by simp [read?, found], ?_⟩
        -- The items of a document are literals, so resolving them asks nothing further.
        dsimp only
        rw [Value.sequence_resolveDatum]
        rfl

/-- What an accessor comes to at an address, in a session that remembers nothing false. -/
theorem observe_located {setting : Setting} {session : Session}
    (faithful : session.Faithful setting.document) (accessor : Accessor) (role : Option Role)
    (address : Address) :
    accessor.observe setting session (.located role address) =
      accessor.settle setting.strategy session.failures address.text
        (accessor.find (address.locate setting.document)) := by
  obtain ⟨result, failures, -⟩ :=
    (accessor.operation (.located role address)).script.run_eq_walk faithful
  rw [script_located] at result failures
  have walked : accessor.observe setting session (.located role address) =
      (Script.look address fun found =>
        accessor.conclude address.text (accessor.find found)).walk setting session.failures := by
    rw [observe, script_located]
    exact Prod.ext result failures
  rw [walked, Script.walk]
  cases accessor.find (address.locate setting.document) with
  | ok outcome => rfl
  | error lack =>
      rw [conclude, settle, Script.walk]
      cases setting.strategy.judge session.failures (lack.failure address.text) <;> rfl

end Accessor

end Verdict
