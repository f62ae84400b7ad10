import Mathlib.Logic.Function.Iterate
import Verdict.Proofs.Rule.Operands
import Verdict.Proofs.Value.Recursion

/-! Resolution ends. A call answers with what it finds in its own arguments, with something that has
no call in it, or with an array of such, so with every call that is followed the calls that are left
are less deep: after more rounds than calls are nested in a value, nothing beyond them plays a
part. -/

set_option autoImplicit false

namespace Verdict

open Script

mutual

/-- How deep calls are nested in a value; arrays around them do not count. -/
def Value.depth : Value → Nat
  | .array items => Value.depthOfAll items
  | .computed _ _ call => Call.depth call
  | .called _ call => Call.depth call
  | _ => 0

def Value.depthOfAll : List Value → Nat
  | [] => 0
  | value :: values => max (Value.depth value) (Value.depthOfAll values)

def Call.depth : Call → Nat
  | .mk _ arguments _ _ _ => Value.depthOfAll arguments + 1

end

theorem Value.depthOfAll_le_iff {values : List Value} {limit : Nat} :
    Value.depthOfAll values ≤ limit ↔ ∀ value ∈ values, value.depth ≤ limit := by
  induction values with
  | nil => simp [depthOfAll]
  | cons first others ih => rw [depthOfAll, Nat.max_le, ih, List.forall_mem_cons]

theorem Value.depth_le_of_mem {values : List Value} {value : Value} (member : value ∈ values) :
    value.depth ≤ Value.depthOfAll values :=
  depthOfAll_le_iff.mp (Nat.le_refl _) value member

theorem Call.depth_eq (call : Call) : call.depth = Value.depthOfAll call.arguments + 1 := by
  cases call with
  | mk => rw [depth, arguments]

theorem Value.depth_of_call? {value : Value} {call : Call} (calls : value.call? = some call) :
    value.depth = call.depth := by
  cases value with
  | computed => cases calls; rw [depth]
  | called => cases calls; rw [depth]
  | _ => cases calls

inductive Value.PartOf : Value → Value → Prop where
  | self {value : Value} : PartOf value value
  | item {part item : Value} {items : List Value} :
      item ∈ items → PartOf part item → PartOf part (.array items)
  | argument {part argument value : Value} {call : Call} :
      value.call? = some call → argument ∈ call.arguments → PartOf part argument →
      PartOf part value

theorem Value.PartOf.trans {part middle whole : Value} (inner : part.PartOf middle)
    (outer : middle.PartOf whole) : part.PartOf whole := by
  induction outer with
  | self => exact inner
  | item member _ ih => exact .item member ih
  | argument calls member _ ih => exact .argument calls member ih

theorem Value.PartOf.depth_le {part whole : Value} (stands : part.PartOf whole) :
    part.depth ≤ whole.depth := by
  induction stands with
  | self => exact Nat.le_refl _
  | item member _ ih =>
      rw [Value.depth]
      exact ih.trans (Value.depth_le_of_mem member)
  | argument calls member _ ih =>
      have shallow := Value.depth_le_of_mem member
      rw [Value.depth_of_call? calls, Call.depth_eq]
      omega

section Bound

variable {functions : List Function}

theorem Value.boundTo_of_call? {value : Value} {call : Call} (calls : value.call? = some call) :
    value.BoundTo functions ↔ call.BoundTo functions := by
  cases value with
  | computed => cases calls; rw [BoundTo]
  | called => cases calls; rw [BoundTo]
  | _ => cases calls

theorem Value.CallFree.boundTo {value : Value} (callFree : value.CallFree) :
    value.BoundTo functions :=
  BoundTo.mono (List.nil_subset functions) value callFree

theorem Value.PartOf.boundTo {part whole : Value} (stands : part.PartOf whole)
    (bound : whole.BoundTo functions) : part.BoundTo functions := by
  induction stands with
  | self => exact bound
  | item member _ ih => exact ih (Value.allBoundTo_iff.mp bound _ member)
  | argument calls member _ ih =>
      exact ih (((Value.boundTo_of_call? calls).mp bound).arguments _ member)

end Bound

mutual

theorem Value.CallFree.depth_eq_zero (value : Value) (callFree : value.CallFree) :
    value.depth = 0 := by
  cases value with
  | array items => exact Value.CallFree.depthOfAll_eq_zero items (Value.allCallFree_iff.mp callFree)
  | computed role dialect call => exact absurd callFree call.not_boundTo_nil
  | called role call => exact absurd callFree call.not_boundTo_nil
  | _ => rfl

theorem Value.CallFree.depthOfAll_eq_zero (values : List Value)
    (callFree : ∀ value ∈ values, value.CallFree) : Value.depthOfAll values = 0 := by
  cases values with
  | nil => rfl
  | cons first others =>
      obtain ⟨front, behind⟩ := List.forall_mem_cons.mp callFree
      rw [Value.depthOfAll, Value.CallFree.depth_eq_zero first front,
        Value.CallFree.depthOfAll_eq_zero others behind, Nat.max_self]

end

/-- Some parts, values without calls, and arrays that are put together from such. -/
inductive Value.BuiltFrom (parts : Value → Prop) : Value → Prop where
  | callFree {value : Value} : value.CallFree → BuiltFrom parts value
  | part {value : Value} : parts value → BuiltFrom parts value
  | array {items : List Value} : (∀ item ∈ items, BuiltFrom parts item) →
      BuiltFrom parts (.array items)

namespace Value.BuiltFrom

variable {parts further : Value → Prop} {value : Value}

/-- What is built from things that are built is built. -/
theorem bind (built : value.BuiltFrom parts)
    (each : ∀ part : Value, parts part → part.BuiltFrom further) : value.BuiltFrom further := by
  induction built with
  | callFree free => exact .callFree free
  | part held => exact each _ held
  | array _ ih => exact .array ih

theorem mono (built : value.BuiltFrom parts) (imply : ∀ part, parts part → further part) :
    value.BuiltFrom further :=
  built.bind fun part held => .part (imply part held)

theorem boundTo {functions : List Function} (built : value.BuiltFrom parts)
    (bound : ∀ part : Value, parts part → part.BoundTo functions) : value.BoundTo functions := by
  induction built with
  | callFree free => exact free.boundTo
  | part held => exact bound _ held
  | array _ ih => exact Value.allBoundTo_iff.mpr ih

theorem depth_le {limit : Nat} (built : value.BuiltFrom parts)
    (shallow : ∀ part : Value, parts part → part.depth ≤ limit) : value.depth ≤ limit := by
  induction built with
  | callFree free =>
      rw [free.depth_eq_zero]
      exact Nat.zero_le _
  | part held => exact shallow _ held
  | array _ ih =>
      rw [Value.depth]
      exact Value.depthOfAll_le_iff.mpr ih

/-- What stands in a built value is built, if what stands in a part is a part. -/
theorem of_partOf {part : Value} (built : value.BuiltFrom parts)
    (closed : ∀ inner outer : Value, inner.PartOf outer → parts outer → parts inner)
    (stands : part.PartOf value) : part.BuiltFrom parts := by
  induction built with
  | callFree free => exact .callFree (stands.boundTo free)
  | part held => exact .part (closed _ _ stands held)
  | @array items each ih =>
      cases stands with
      | self => exact .array each
      | item member inner => exact ih _ member inner
      | argument calls => cases calls

end Value.BuiltFrom

/-- What a value is taken apart into is built from what stands in it. -/
def View.Opens (view : View) (value : Value) : Prop :=
  view.items.Yields fun found => ∀ items, found = some items →
    ∀ item ∈ items, item.BuiltFrom fun part => part.PartOf value

/-- Both views make the same of some values, and take none of them apart into others. -/
def View.AlikeOn (among : Value → Prop) (view other : Value → View) : Prop :=
  ∀ value, among value → view value = other value ∧ (view value).Opens value

theorem View.AlikeOn.symm {among : Value → Prop} {view other : Value → View}
    (alike : View.AlikeOn among view other) : View.AlikeOn among other view := by
  intro value within
  obtain ⟨same, opens⟩ := alike value within
  exact ⟨same.symm, same ▸ opens⟩

/-- The values that a call has to do with: its arguments, with what stands in them, values without
calls, and arrays that it puts together. -/
def Call.Owns (call : Call) (value : Value) : Prop :=
  value.BuiltFrom fun part => ∃ argument ∈ call.arguments, part.PartOf argument

/-- Applying the call resolves nothing but what the call owns, and answers with such a value. -/
structure Call.Confined (apply : Application) (call : Call) : Prop where
  own : ∀ view other, View.AlikeOn call.Owns view other → apply view call = apply other call
  answers : ∀ view, View.AlikeOn call.Owns view view → (apply view call).Yields call.Owns

def Application.Confined (functions : List Function) (apply : Application) : Prop :=
  ∀ call : Call, call.BoundTo functions → call.Confined apply

theorem Call.Owns.boundTo {functions : List Function} {call : Call} {value : Value}
    (owns : call.Owns value) (bound : call.BoundTo functions) : value.BoundTo functions := by
  refine Value.BuiltFrom.boundTo owns ?_
  rintro part ⟨argument, member, stands⟩
  exact stands.boundTo (bound.arguments argument member)

/-- A call is deeper than what it owns. -/
theorem Call.Owns.depth_lt {call : Call} {value : Value} (owns : call.Owns value) :
    value.depth < call.depth := by
  rw [Call.depth_eq, Nat.lt_succ_iff]
  refine Value.BuiltFrom.depth_le owns ?_
  rintro part ⟨argument, member, stands⟩
  exact stands.depth_le.trans (Value.depth_le_of_mem member)

/-- What stands in an answer of a call is built from what stands in the call. -/
theorem Call.Owns.of_partOf {call : Call} {role : Option Role} {value part : Value}
    (owns : call.Owns value) (stands : part.PartOf value) :
    part.BuiltFrom fun inner => inner.PartOf (.called role call) := by
  have built : call.Owns part := by
    refine Value.BuiltFrom.of_partOf owns ?_ stands
    rintro inner outer within ⟨argument, member, further⟩
    exact ⟨argument, member, within.trans further⟩
  refine Value.BuiltFrom.mono built ?_
  rintro inner ⟨argument, member, further⟩
  exact .argument rfl member further

/-- Both views make the same of what settles within so many rounds: after these it does not matter
any more what is beyond them. -/
def View.Agree (functions : List Function) (rounds : Nat) (view other : Value → View) : Prop :=
  View.AlikeOn (fun value => value.BoundTo functions ∧ value.depth < rounds) view other

/-- The view is what a round makes of it. -/
def View.Solves (functions : List Function) (apply : Application) (view : Value → View) : Prop :=
  ∀ value : Value, value.BoundTo functions → view value = Value.round apply view value

mutual

theorem Value.callFree_ofJson (json : Json) : (Value.ofJson json).CallFree := by
  cases json with
  | array items => exact Value.allCallFree_iff.mpr (Value.callFree_ofItems items)
  | _ => trivial

theorem Value.callFree_ofItems (items : List Json) :
    ∀ value ∈ Value.ofItems items, value.CallFree := by
  cases items with
  | nil => simp [Value.ofItems]
  | cons first others =>
      rw [Value.ofItems]
      exact List.forall_mem_cons.mpr
        ⟨Value.callFree_ofJson first, Value.callFree_ofItems others⟩

end

theorem Address.items_open (address : Address) (value : Value) :
    address.items.Yields fun found => ∀ items, found = some items →
      ∀ item ∈ items, item.BuiltFrom fun part => part.PartOf value := by
  refine yields_law.resolve nofun ?_
  intro json values read
  obtain ⟨items, -, rfl⟩ := Option.map_eq_some_iff.mp read
  rintro _ ⟨rfl⟩ item member
  exact .callFree (Value.callFree_ofItems items item member)

section Rounds

variable {functions : List Function} {apply : Application} {rounds : Nat}
  {view other : Value → View}

theorem View.Agree.owned (agree : View.Agree functions rounds view other) {call : Call}
    (bound : call.BoundTo functions) (shallow : call.depth ≤ rounds) :
    View.AlikeOn call.Owns view other := by
  intro value owns
  exact agree value ⟨owns.boundTo bound, Nat.lt_of_lt_of_le owns.depth_lt shallow⟩

theorem Call.Confined.yields {call : Call} (confined : call.Confined apply)
    (alike : View.AlikeOn call.Owns view other) : (apply view call).Yields call.Owns :=
  confined.answers view fun value owns => ⟨rfl, (alike value owns).2⟩

theorem Call.chased_congr {α : Type} (confined : apply.Confined functions)
    (agree : View.Agree functions rounds view other) {call : Call}
    (bound : call.BoundTo functions) (shallow : call.depth ≤ rounds) (next : View → Script α) :
    call.chased apply view next = call.chased apply other next := by
  have alike := agree.owned bound shallow
  rw [chased, chased, ← (confined call bound).own view other alike]
  refine ((confined call bound).yields alike).bind_congr fun result owns => ?_
  rw [(alike result owns).1]

mutual

theorem Value.round_congr (confined : apply.Confined functions)
    (agree : View.Agree functions rounds view other) (value : Value)
    (bound : value.BoundTo functions) (shallow : value.depth ≤ rounds) :
    Value.round apply view value = Value.round apply other value := by
  have following (call : Call) (calls : value.call? = some call) {α : Type}
      (next : View → Script α) : call.chased apply view next = call.chased apply other next := by
    refine Call.chased_congr confined agree ((Value.boundTo_of_call? calls).mp bound) ?_ next
    rwa [← Value.depth_of_call? calls]
  cases value with
  | array items =>
      rw [Value.round, Value.round, Value.roundAll_congr confined agree items bound shallow]
  | computed role dialect call => simp only [Value.round, following call rfl]
  | called role call => simp only [Value.round, following call rfl]
  | _ => rfl

theorem Value.roundAll_congr (confined : apply.Confined functions)
    (agree : View.Agree functions rounds view other) (values : List Value)
    (bound : Value.AllBoundTo functions values)
    (shallow : Value.depthOfAll values ≤ rounds) :
    Value.roundAll apply view values = Value.roundAll apply other values := by
  cases values with
  | nil => rfl
  | cons first others =>
      rw [Value.depthOfAll, Nat.max_le] at shallow
      rw [Value.roundAll, Value.roundAll,
        Value.round_congr confined agree first bound.1 shallow.1,
        Value.roundAll_congr confined agree others bound.2 shallow.2]

end

theorem Value.round_opens (confined : apply.Confined functions)
    (agree : View.Agree functions rounds view other) (value : Value)
    (bound : value.BoundTo functions) (shallow : value.depth ≤ rounds) :
    (Value.round apply view value).Opens value := by
  cases value with
  | array items =>
      refine .done ?_
      rintro _ ⟨rfl⟩ item member
      exact .part (.item member .self)
  | located role address => exact address.items_open _
  | computed role dialect call =>
      refine (Yields.trivial _).bind fun place _ => ?_
      cases place with
      | none => exact .done nofun
      | some address => exact address.items_open _
  | called role call =>
      have alike : View.AlikeOn call.Owns view other := agree.owned bound shallow
      refine ((confined call bound).yields alike).bind fun result owns => ?_
      refine yields_law.widen (alike result owns).2 ?_
      intro found opens items same item member
      exact (opens items same item member).bind fun part stands => owns.of_partOf stands
  | _ => exact .report (.done nofun)

theorem View.Agree.round (confined : apply.Confined functions)
    (agree : View.Agree functions rounds view other) :
    View.Agree functions (rounds + 1) (Value.round apply view) (Value.round apply other) :=
  fun value within =>
    have shallow := Nat.le_of_lt_succ within.2
    ⟨Value.round_congr confined agree value within.1 shallow,
      Value.round_opens confined agree value within.1 shallow⟩

theorem View.Solves.agree (confined : apply.Confined functions)
    (solves : View.Solves functions apply view) (beyond : Value → View) (rounds : Nat) :
    View.Agree functions rounds ((Value.round apply)^[rounds] beyond) view := by
  induction rounds with
  | zero => exact fun value within => absurd within.2 (Nat.not_lt_zero _)
  | succ rounds ih =>
      intro value within
      rw [Function.iterate_succ_apply', solves value within.1]
      exact ih.round confined value within

theorem View.Solves.opens (confined : apply.Confined functions)
    (solves : View.Solves functions apply view) (value : Value) (bound : value.BoundTo functions) :
    (view value).Opens value :=
  ((solves.agree confined view (value.depth + 1)).symm value ⟨bound, Nat.lt_succ_self _⟩).2

theorem View.agree_further (confined : apply.Confined functions) (beyond farther : Value → View)
    {more : Nat} (further : rounds ≤ more) :
    View.Agree functions rounds ((Value.round apply)^[rounds] beyond)
      ((Value.round apply)^[more] farther) := by
  induction rounds generalizing more with
  | zero => exact fun value within => absurd within.2 (Nat.not_lt_zero _)
  | succ rounds ih =>
      obtain ⟨others, rfl⟩ : ∃ others, more = others + 1 := ⟨more - 1, by omega⟩
      rw [Function.iterate_succ_apply', Function.iterate_succ_apply']
      exact (ih (by omega)).round confined

theorem View.exists_solves (confined : apply.Confined functions) :
    ∃ view, View.Solves functions apply view := by
  -- As many rounds as a value needs, from anywhere.
  refine ⟨fun value => (Value.round apply)^[value.depth + 1] Value.view value, ?_⟩
  intro value bound
  dsimp only
  rw [Function.iterate_succ_apply']
  have agree : View.Agree functions value.depth ((Value.round apply)^[value.depth] Value.view)
      fun part => (Value.round apply)^[part.depth + 1] Value.view part := by
    intro part within
    rcases Nat.le_total value.depth (part.depth + 1) with less | more
    · exact agree_further confined _ _ less part within
    · exact (agree_further confined _ _ more).symm part
        ⟨within.1, Nat.lt_succ_self _⟩
  exact Value.round_congr confined agree value bound (Nat.le_refl _)

end Rounds

/-- The results of calls that are followed one after another in resolving a value: each is what the
call of the one before answered with. -/
inductive Value.Chases (apply : Application) (view : Value → View) (setting : Setting) :
    Value → Session → List Value → Prop where
  | rest {value : Value} {session : Session} : Chases apply view setting value session []
  | result {value result : Value} {call : Call} {session after : Session} {results : List Value} :
      value.call? = some call → (apply view call).run setting session = (.ok result, after) →
      Chases apply view setting result after results →
      Chases apply view setting value session (result :: results)

section Chases

variable {functions : List Function} {apply : Application} {view : Value → View}
  {setting : Setting}

theorem Script.Yields.run {α : Type} {good : α → Prop} {script : Script α}
    (yields : script.Yields good) {session after : Session} {value : α}
    (ends : script.run setting session = (.ok value, after)) : good value := by
  induction yields generalizing session with
  | done holds => cases ends; exact holds
  | fail => cases ends
  | look _ ih => exact ih _ ends
  | read _ ih => exact ih _ ends
  | @report failure rest _ ih =>
      rw [Script.run] at ends
      split at ends
      · cases ends
      · exact ih ends

theorem Value.Chases.length_le (confined : apply.Confined functions)
    (opens : ∀ value : Value, value.BoundTo functions → (view value).Opens value) {value : Value}
    {session : Session} {results : List Value}
    (chases : value.Chases apply view setting session results)
    (bound : value.BoundTo functions) : results.length ≤ value.depth := by
  induction chases with
  | rest => exact Nat.zero_le _
  | @result value result call session after results calls answered further ih =>
      have callBound := (Value.boundTo_of_call? calls).mp bound
      have owns := ((confined call callBound).answers view
        fun part owned => ⟨rfl, opens part (owned.boundTo callBound)⟩).run answered
      rw [Value.depth_of_call? calls, List.length_cons]
      exact Nat.lt_of_le_of_lt (ih (owns.boundTo callBound)) owns.depth_lt

end Chases

end Verdict
