import Mathlib.Data.List.Basic
import Verdict.Library.Standard
import Verdict.Proofs.Script.Answers
import Verdict.Proofs.Value.Laws

/-! Every function of the standard library obeys every law of scripts and answers with a scalar, on
every number of arguments that it accepts: what can go wrong is reported as an illegal evaluation,
and a value stands ready for what is recovered from. Few functions weigh their arguments as a whole;
all others ask for scalars and for lengths of arrays. -/

set_option autoImplicit false

namespace Verdict

open Script

/-- A reply that needs neither the arguments of the call nor the values attached to it. -/
inductive Reply.IsScalar : Reply → Prop where
  | number {value : Number} : IsScalar (.number value)
  | string {text : String} : IsScalar (.string text)
  | boolean {truth : Bool} : IsScalar (.boolean truth)

/-- A reply that names no argument and no attached value but those that there are. -/
inductive Reply.Within (arguments attached : Nat) : Reply → Prop where
  | number {value : Number} : Within arguments attached (.number value)
  | string {text : String} : Within arguments attached (.string text)
  | boolean {truth : Bool} : Within arguments attached (.boolean truth)
  | datum {value : Datum} : Within arguments attached (.datum value)
  | array {items : List Reply} : (∀ item ∈ items, Within arguments attached item) →
      Within arguments attached (.array items)
  | address {place : Address} : Within arguments attached (.address place)
  | argument {index : Nat} : index < arguments → Within arguments attached (.argument index)
  | attached {index : Nat} : index < attached → Within arguments attached (.attached index)

theorem Reply.IsScalar.within {reply : Reply} {arguments attached : Nat} (scalar : reply.IsScalar) :
    reply.Within arguments attached := by
  cases scalar with
  | number => exact .number
  | string => exact .string
  | boolean => exact .boolean

/-- On as many arguments as its shape accepts, the overload obeys the law with good replies. -/
def Overload.Replies (holds : Script.Property) (overload : Overload) (good : Nat → Reply → Prop) :
    Prop :=
  ∀ operands : List Operand, overload.signature.accepts operands.length = true →
    (∀ operand ∈ operands, operand.Obeys holds) →
    holds Reply (good operands.length) (overload.implementation operands)

/-- The overload obeys the law, and so do the values attached to it. -/
structure Overload.Obeys (holds : Script.Property) (overload : Overload) : Prop where
  attached : ∀ value ∈ overload.attached, value.operand.Obeys holds
  replies : overload.Replies holds fun count => Reply.Within count overload.attached.length

/-- The overload obeys the law and answers with a scalar. -/
structure Overload.ObeysScalar (holds : Script.Property) (overload : Overload) : Prop where
  plain : overload.attached = []
  replies : overload.Replies holds fun _ => Reply.IsScalar

/-- On as many arguments as its shape accepts, all of them serving, the property holds of the
overload, and it answers with a scalar. -/
structure Overload.Serves (holds : Script.Property) (whole : Bool) (overload : Overload) :
    Prop where
  plain : overload.attached = []
  replies : ∀ operands : List Operand, overload.signature.accepts operands.length = true →
    (∀ operand ∈ operands, operand.Serves holds whole) →
    holds Reply Reply.IsScalar (overload.implementation operands)

def Function.Obeys (holds : Script.Property) (function : Function) : Prop :=
  ∀ overload ∈ function.overloads, overload.Obeys holds

def Function.Serves (holds : Script.Property) (whole : Bool) (function : Function) : Prop :=
  ∀ overload ∈ function.overloads, overload.Serves holds whole

def Function.ObeysScalar (holds : Script.Property) (function : Function) : Prop :=
  ∀ overload ∈ function.overloads, overload.ObeysScalar holds

/-- On as many arguments as its shape accepts, every overload comes to a scalar. -/
abbrev Function.AnswersScalar (function : Function) : Prop :=
  function.ObeysScalar fun _ good script => script.Answers good

namespace Library

/-- The functions that resolve their arguments as data, or all items of an array as data. -/
def weighing : List Function :=
  [inArray, notInArray, containsAny, containsAll, rollingHash, murmurHash]

/-- Whether the name is that of a function which weighs its arguments as a whole. -/
def weighs (name : String) : Bool := weighing.any fun function => function.name == name

end Library

theorem Signature.isVariadic_fixed (arity : Nat) : (fixed arity).isVariadic = false := by
  cases arity with
  | zero => rfl
  | succ arity => simp [isVariadic, fixed, List.replicate_succ]

theorem Signature.accepts_fixed_iff {arity count : Nat} :
    (Signature.fixed arity).accepts count = true ↔ arity = count := by
  rw [accepts, isVariadic_fixed, Bool.false_or, beq_iff_eq]
  simp [fixed, Signature.arity]

theorem Function.accepts_of_resolve {function : Function} {count : Nat} {overload : Overload}
    (resolved : function.resolve count = .ok overload) :
    overload ∈ function.overloads ∧ overload.signature.accepts count = true := by
  unfold resolve at resolved
  split at resolved
  · rename_i found
    cases resolved
    have variadic := List.find?_some found
    exact ⟨List.mem_of_find?_eq_some found, by simp [Signature.accepts, variadic]⟩
  · split at resolved
    · cases resolved
    · rename_i single
      cases resolved
      have member : overload ∈ function.overloads.filter
          fun overload => overload.signature.arity == count := by
        rw [single]
        exact List.mem_singleton_self overload
      obtain ⟨included, fits⟩ := List.mem_filter.mp member
      exact ⟨included, by simp [Signature.accepts, fits]⟩
    · cases resolved

section Obeys

variable {holds : Script.Property} (law : Script.Law holds)

include law

theorem Overload.ObeysScalar.obeys {overload : Overload}
    (answers : overload.ObeysScalar holds) : overload.Obeys holds where
  attached := by simp [answers.plain]
  replies := fun operands accepted obey =>
    law.widen (answers.replies operands accepted obey) fun _ scalar => scalar.within

theorem Function.ObeysScalar.obeys {function : Function}
    (answers : function.ObeysScalar holds) : function.Obeys holds :=
  fun overload included => (answers overload included).obeys law

/-- What obeys a law serves as a whole and not. -/
theorem Function.Serves.obeysScalar {function : Function} {whole : Bool}
    (serves : function.Serves holds whole) : function.ObeysScalar holds := by
  intro overload included
  refine ⟨(serves overload included).plain, fun operands accepted obey => ?_⟩
  exact (serves overload included).replies operands accepted fun operand member =>
    (obey operand member).serves law.steps whole

end Obeys

namespace Overload

variable {holds : Script.Property} {whole : Bool} {name : String}

theorem nullary_serves {body : Script Reply} (answers : holds _ Reply.IsScalar body) :
    (nullary name body).Serves holds whole where
  plain := rfl
  replies := by
    intro operands accepted serve
    have length : 0 = operands.length := Signature.accepts_fixed_iff.mp accepted
    cases operands with
    | nil => exact answers
    | cons => simp at length

theorem unary_serves {body : Operand → Script Reply}
    (answers : ∀ operand : Operand, operand.Serves holds whole →
      holds _ Reply.IsScalar (body operand)) :
    (unary name body).Serves holds whole where
  plain := rfl
  replies := by
    intro operands accepted serve
    have length : 1 = operands.length := Signature.accepts_fixed_iff.mp accepted
    obtain ⟨operand, rfl⟩ := List.length_eq_one_iff.mp length.symm
    exact answers operand (serve operand (by simp))

theorem binary_serves {body : Operand → Operand → Script Reply}
    (answers : ∀ first second : Operand, first.Serves holds whole → second.Serves holds whole →
      holds _ Reply.IsScalar (body first second)) :
    (binary name body).Serves holds whole where
  plain := rfl
  replies := by
    intro operands accepted serve
    have length : 2 = operands.length := Signature.accepts_fixed_iff.mp accepted
    obtain ⟨first, second, rfl⟩ := List.length_eq_two.mp length.symm
    exact answers first second (serve first (by simp)) (serve second (by simp))

theorem ternary_serves {body : Operand → Operand → Operand → Script Reply}
    (answers : ∀ first second third : Operand, first.Serves holds whole →
      second.Serves holds whole → third.Serves holds whole →
      holds _ Reply.IsScalar (body first second third)) :
    (ternary name body).Serves holds whole where
  plain := rfl
  replies := by
    intro operands accepted serve
    have length : 3 = operands.length := Signature.accepts_fixed_iff.mp accepted
    obtain ⟨first, second, third, rfl⟩ := List.length_eq_three.mp length.symm
    exact answers first second third (serve first (by simp)) (serve second (by simp))
      (serve third (by simp))

theorem variadic_serves {implementation : Implementation}
    (answers : ∀ operands : List Operand, (∀ operand ∈ operands, operand.Serves holds whole) →
      holds _ Reply.IsScalar (implementation operands)) :
    (variadic implementation).Serves holds whole where
  plain := rfl
  replies := fun operands _ serve => answers operands serve

end Overload

theorem Function.serves_of_overload {holds : Script.Property} {whole : Bool} {name : String}
    {overload : Overload} (answers : overload.Serves holds whole) :
    Function.Serves holds whole ⟨name, [overload]⟩ := by
  intro member included
  rwa [List.mem_singleton.mp included]

namespace Library

variable {holds : Script.Property} {whole : Bool} (steps : Script.Steps holds)

include steps

theorem foldNumbers_holds (operation : Number → Number → Number) (start : Number)
    {operands : List Operand} (serve : ∀ operand ∈ operands, operand.Serves holds whole) :
    holds _ (fun _ => True) (foldNumbers operation start operands) := by
  induction operands generalizing start with
  | nil => exact steps.pure _
  | cons first others ih =>
      obtain ⟨front, behind⟩ := List.forall_mem_cons.mp serve
      exact steps.bind (front.numberOr steps _) fun number _ => ih _ behind

theorem folding_serves (name : String) (start : Number)
    (operation : Number → Number → Number) :
    (folding name start operation).Serves holds whole := by
  refine Function.serves_of_overload (Overload.variadic_serves ?_)
  intro operands serve
  exact steps.map (foldNumbers_holds steps operation start serve) fun _ _ => .number

theorem onNumber_serves (name : String) (operation : Number → Number) :
    (onNumber name operation).Serves holds whole := by
  refine Function.serves_of_overload (Overload.unary_serves ?_)
  intro operand serves
  exact steps.map (serves.numberOr steps _) fun _ _ => .number

theorem difference_serves : difference.Serves holds whole := by
  refine Function.serves_of_overload (Overload.binary_serves ?_)
  intro left right leftServes rightServes
  refine steps.bind (leftServes.numberOr steps _) fun first _ => ?_
  exact steps.map (rightServes.numberOr steps _) fun _ _ => .number

theorem quotient_serves : quotient.Serves holds whole := by
  refine Function.serves_of_overload (Overload.binary_serves ?_)
  intro numerator denominator numeratorServes denominatorServes
  refine steps.bind (numeratorServes.numberOr steps _) fun first _ => ?_
  refine steps.bind (denominatorServes.numberOr steps _) fun second _ => ?_
  split
  · exact steps.illegal (steps.done .number)
  · exact steps.done .number

theorem onText_serves (name : String) {reply : String → Reply}
    (scalar : ∀ text, (reply text).IsScalar) : (onText name reply).Serves holds whole := by
  refine Function.serves_of_overload (Overload.unary_serves ?_)
  intro operand serves
  exact steps.map (serves.stringOr steps _) fun text _ => scalar text

theorem replySubstring_holds (text : String) (start stop : Number) :
    holds _ Reply.IsScalar (replySubstring text start stop) := by
  unfold replySubstring
  split
  · exact steps.done .string
  · exact steps.illegal (steps.done .string)

theorem substrings_serves : substrings.Serves holds whole := by
  intro overload included
  rcases List.mem_cons.mp included with rfl | included
  · refine Overload.binary_serves ?_
    intro operand start operandServes startServes
    refine steps.bind (operandServes.stringOr steps _) fun text _ => ?_
    exact steps.bind (startServes.numberOr steps _) fun first _ => replySubstring_holds steps _ _ _
  · rw [List.mem_singleton.mp included]
    refine Overload.ternary_serves ?_
    intro operand start stop operandServes startServes stopServes
    refine steps.bind (operandServes.stringOr steps _) fun text _ => ?_
    refine steps.bind (startServes.numberOr steps _) fun first _ => ?_
    exact steps.bind (stopServes.numberOr steps _) fun last _ => replySubstring_holds steps _ _ _

theorem fitsPattern_serves (engine : Pattern.Engine) :
    (fitsPattern engine).Serves holds whole := by
  refine Function.serves_of_overload (Overload.binary_serves ?_)
  intro operand subject operandServes subjectServes
  refine steps.bind (operandServes.stringOr steps _) fun pattern _ => ?_
  split
  · exact steps.illegal (steps.done .boolean)
  · refine steps.bind (subjectServes.stringOr steps _) fun text _ => ?_
    split
    · exact steps.done .boolean
    · exact steps.illegal (steps.done .boolean)

theorem arrayLength_serves : arrayLength.Serves holds whole := by
  refine Function.serves_of_overload (Overload.unary_serves ?_)
  intro array serves
  exact steps.map serves.count fun _ _ => .number

theorem arrayIsEmpty_serves : arrayIsEmpty.Serves holds whole := by
  refine Function.serves_of_overload (Overload.unary_serves ?_)
  intro array serves
  exact steps.map serves.count fun _ _ => .boolean

theorem isMember_holds {needle array : Operand} (needleServes : needle.Serves holds true)
    (arrayServes : array.Serves holds true) :
    holds _ (fun _ => True) (isMember needle array) := by
  refine steps.bind (needleServes.datumOr steps _) fun wanted _ => ?_
  exact steps.map (arrayServes.members rfl _) fun _ _ => trivial

theorem inArray_serves : inArray.Serves holds true := by
  refine Function.serves_of_overload (Overload.binary_serves ?_)
  intro needle array needleServes arrayServes
  exact steps.map (isMember_holds steps needleServes arrayServes) fun _ _ => .boolean

theorem notInArray_serves : notInArray.Serves holds true := by
  refine Function.serves_of_overload (Overload.binary_serves ?_)
  intro needle array needleServes arrayServes
  exact steps.map (isMember_holds steps needleServes arrayServes) fun _ _ => .boolean

theorem onArrays_serves (name : String) (answer : List Datum → List Datum → Bool) :
    (onArrays name answer).Serves holds true := by
  refine Function.serves_of_overload (Overload.binary_serves ?_)
  intro left right leftServes rightServes
  refine steps.bind (leftServes.members rfl _) fun members _ => ?_
  exact steps.map (rightServes.members rfl _) fun _ _ => .boolean

theorem isPresentAt_holds (dialect : Dialect) (text : String) :
    holds _ (fun _ => True) (isPresentAt dialect text) := by
  unfold isPresentAt
  split
  · exact steps.pure _
  · split
    · exact steps.isPresent
    · exact steps.illegal (steps.pure _)

theorem existence_serves (name : String) (dialect : Dialect) :
    (existence name dialect).Serves holds whole := by
  refine Function.serves_of_overload (Overload.unary_serves ?_)
  intro address serves
  refine steps.bind (serves.addressText steps _ _) fun text _ => ?_
  exact steps.map (isPresentAt_holds steps dialect text) fun _ _ => .boolean

theorem clockReading_serves (name : String) (reading : Reading) :
    (clockReading name reading).Serves holds whole := by
  refine Function.serves_of_overload (Overload.nullary_serves ?_)
  exact steps.map steps.readClock fun _ _ => .number

theorem hashing_serves (name : String) (hash : Datum → Int) :
    (hashing name hash).Serves holds true := by
  refine Function.serves_of_overload (Overload.unary_serves ?_)
  intro operand serves
  exact steps.map (serves.datumOr steps _) fun _ _ => .number

theorem standardOn_serves (engine : Pattern.Engine) :
    ∀ function ∈ (standardOn engine).functions, function.Serves holds (weighs function.name) := by
  simp only [standardOn, arithmetic, strings, arrays, existences, clock, hashes, List.cons_append,
    List.nil_append, List.forall_mem_cons, List.not_mem_nil, false_implies, implies_true, and_true]
  refine ⟨folding_serves steps _ _ _, folding_serves steps _ _ _,
    difference_serves steps, quotient_serves steps, onNumber_serves steps _ _,
    onNumber_serves steps _ _, onNumber_serves steps _ _, onNumber_serves steps _ _,
    onText_serves steps _ ?_, onText_serves steps _ ?_, onText_serves steps _ ?_,
    substrings_serves steps, fitsPattern_serves steps engine, arrayLength_serves steps,
    arrayIsEmpty_serves steps, inArray_serves steps, notInArray_serves steps,
    onArrays_serves steps _ _, onArrays_serves steps _ _,
    existence_serves steps _ _, existence_serves steps _ _,
    clockReading_serves steps _ _, clockReading_serves steps _ _,
    hashing_serves steps _ _, hashing_serves steps _ _⟩
  · exact fun _ => .number
  · exact fun _ => .string
  · exact fun _ => .string

theorem standard_serves :
    ∀ function ∈ standard.functions, function.Serves holds (weighs function.name) :=
  standardOn_serves steps .builtIn

omit steps

variable (law : Script.Law holds)

include law

theorem standard_obeysScalar : ∀ function ∈ standard.functions, function.ObeysScalar holds :=
  fun function included => (standard_serves law.steps function included).obeysScalar law

theorem standard_obeys : ∀ function ∈ standard.functions, function.Obeys holds :=
  fun function included => (standard_obeysScalar law function included).obeys law

end Library

theorem Library.standard_answersScalar :
    ∀ function ∈ standard.functions, function.AnswersScalar :=
  standard_obeysScalar answers_law

end Verdict
