import Mathlib.Data.List.Nodup
import Verdict.Proofs.Registry.Declarations
import Verdict.Registry.Discovery

/-! What holds of a registry after any history of registrations, whether or not they succeeded.
Names are distinct and functions well-formed, so that a number of arguments is bound to the one
overload that accepts it. Functions are only ever added, and none takes the place of another. -/

set_option autoImplicit false

namespace Verdict

namespace Registry

/-- What may add functions to a registry. -/
inductive Request where
  | register (function : Function)
  | registerAll (functions : List Function)
  | discover (libraries : List FunctionLibrary)

namespace Request

def attempt (registry : Registry) : Request → Except Error Registry
  | .register function => registry.register function
  | .registerAll functions => registry.registerAll functions
  | .discover libraries => registry.discover libraries

/-- The registry after a request, the same as before if the request fails. -/
def perform (registry : Registry) (request : Request) : Registry :=
  match request.attempt registry with
  | .ok next => next
  | .error _ => registry

/-- The functions that a request declares. Once libraries have been discovered, further ones are
passed over. -/
def declared (registry : Registry) : Request → List Function
  | .register function => [function]
  | .registerAll functions => functions
  | .discover libraries =>
      match registry.discovered with
      | some _ => []
      | none => (Library.standard :: libraries).flatMap FunctionLibrary.functions

/-- The discovered libraries after a request that succeeds. -/
def recorded (registry : Registry) : Request → Option (List String)
  | .register _ => registry.discovered
  | .registerAll _ => registry.discovered
  | .discover libraries =>
      match registry.discovered with
      | some names => some names
      | none => some ((Library.standard :: libraries).map FunctionLibrary.name)

end Request

/-- The registry after requests, one after another. -/
def performAll (registry : Registry) (requests : List Request) : Registry :=
  requests.foldl Request.perform registry

/-- No name is taken twice and every function is well-formed. -/
structure WellFormed (registry : Registry) : Prop where
  names : (registry.functions.map Function.name).Nodup
  functions : ∀ function ∈ registry.functions, function.WellFormed

variable {registry next : Registry}

theorem contains_eq_false_iff {name : String} :
    registry.contains name = false ↔ name ∉ registry.functions.map Function.name := by
  simp [contains, find?]

theorem find?_name {name : String} {function : Function}
    (found : registry.find? name = some function) :
    function ∈ registry.functions ∧ function.name = name :=
  ⟨List.mem_of_find?_eq_some found, by simpa using List.find?_some found⟩

/-- What is registered is found under its own name. -/
theorem WellFormed.find?_eq_some (wellFormed : registry.WellFormed) {function : Function}
    (member : function ∈ registry.functions) :
    registry.find? function.name = some function := by
  cases found : registry.find? function.name with
  | none =>
      have absent : registry.contains function.name = false := by simp [contains, found]
      exact absurd (List.mem_map_of_mem member) (contains_eq_false_iff.mp absent)
  | some other =>
      obtain ⟨included, same⟩ := find?_name found
      exact congrArg some (List.inj_on_of_nodup_map wellFormed.names included member same)

/-- A batch is accepted if its functions are without defect, have different names, and no name is
taken. -/
theorem objection?_eq_none_iff {taken : List String} {functions : List Function} :
    registry.objection? taken functions = none ↔
      (∀ function ∈ functions, function.defect? = none) ∧
        (functions.map Function.name).Nodup ∧
        ∀ name ∈ functions.map Function.name,
          name ∉ taken ∧ name ∉ registry.functions.map Function.name := by
  induction functions generalizing taken with
  | nil => simp [objection?]
  | cons first others ih =>
      have step : registry.objection? taken (first :: others) = none ↔
          first.defect? = none ∧ registry.contains first.name = false ∧ first.name ∉ taken ∧
            registry.objection? (first.name :: taken) others = none := by
        cases defect : first.defect? with
        | some error => simp [objection?, defect]
        | none =>
            cases present : registry.contains first.name with
            | true => simp [objection?, defect, present]
            | false => by_cases repeated : first.name ∈ taken <;>
                simp [objection?, defect, present, repeated]
      rw [step, ih, contains_eq_false_iff]
      simp only [List.map_cons, List.nodup_cons, List.forall_mem_cons]
      constructor
      · rintro ⟨sound, absent, new, soundOthers, distinct, fresh⟩
        refine ⟨⟨sound, soundOthers⟩, ⟨?_, distinct⟩, ⟨new, absent⟩, ?_⟩
        · exact fun member => (fresh _ member).1 List.mem_cons_self
        · intro name member
          exact ⟨List.not_mem_of_not_mem_cons (fresh name member).1, (fresh name member).2⟩
      · rintro ⟨⟨sound, soundOthers⟩, ⟨single, distinct⟩, ⟨new, absent⟩, fresh⟩
        refine ⟨sound, absent, new, soundOthers, distinct, fun name member => ?_⟩
        have differs : name ≠ first.name := by
          rintro rfl
          exact single member
        exact ⟨List.not_mem_cons_of_ne_of_not_mem differs (fresh name member).1,
          (fresh name member).2⟩

theorem registerAll_eq_ok_iff {functions : List Function} :
    registry.registerAll functions = .ok next ↔
      registry.objection? [] functions = none ∧
        { registry with functions := registry.functions ++ functions } = next := by
  unfold registerAll
  cases registry.objection? [] functions <;> simp

/-- A request succeeds if there is no objection to the functions that it declares, and then adds
exactly them. -/
theorem Request.attempt_eq_ok_iff {request : Request} :
    request.attempt registry = .ok next ↔
      registry.objection? [] (request.declared registry) = none ∧
        next = ⟨registry.functions ++ request.declared registry, request.recorded registry⟩ := by
  cases request with
  | register function => exact registerAll_eq_ok_iff.trans (and_congr_right' eq_comm)
  | registerAll functions => exact registerAll_eq_ok_iff.trans (and_congr_right' eq_comm)
  | discover libraries =>
      obtain ⟨functions, discovered⟩ := registry
      cases discovered with
      | some names =>
          simp only [attempt, Registry.discover, declared, recorded, List.append_nil,
            Except.ok.injEq]
          exact ⟨fun same => ⟨rfl, same.symm⟩, fun same => same.2.symm⟩
      | none =>
          simp only [attempt, Registry.discover, declared, recorded]
          generalize (Library.standard :: libraries).flatMap FunctionLibrary.functions = added
          cases unopposed : Registry.objection? ⟨functions, none⟩ [] added with
          | some error => simp [Registry.registerAll, unopposed, Except.map]
          | none => simp [Registry.registerAll, unopposed, Except.map, eq_comm]

theorem functions_of_attempt {request : Request} (accepted : request.attempt registry = .ok next) :
    ∃ added, registry.objection? [] added = none ∧
      next.functions = registry.functions ++ added := by
  obtain ⟨unopposed, rfl⟩ := Request.attempt_eq_ok_iff.mp accepted
  exact ⟨request.declared registry, unopposed, rfl⟩

theorem WellFormed.attempt (wellFormed : registry.WellFormed) {request : Request}
    (accepted : request.attempt registry = .ok next) : next.WellFormed := by
  obtain ⟨added, unopposed, grown⟩ := functions_of_attempt accepted
  obtain ⟨sound, distinct, fresh⟩ := objection?_eq_none_iff.mp unopposed
  constructor
  · rw [grown, List.map_append]
    refine wellFormed.names.append distinct ?_
    intro name taken new
    exact (fresh name new).2 taken
  · intro function member
    rw [grown] at member
    rcases List.mem_append.mp member with earlier | new
    · exact wellFormed.functions function earlier
    · exact Function.wellFormed_of_defect?_eq_none (sound function new)

theorem WellFormed.perform (wellFormed : registry.WellFormed) (request : Request) :
    (request.perform registry).WellFormed := by
  unfold Request.perform
  split
  · rename_i next accepted
    exact wellFormed.attempt accepted
  · exact wellFormed

theorem WellFormed.performAll (wellFormed : registry.WellFormed) (requests : List Request) :
    (registry.performAll requests).WellFormed := by
  induction requests generalizing registry with
  | nil => exact wellFormed
  | cons request requests ih => exact ih (wellFormed.perform request)

theorem empty_wellFormed : empty.WellFormed := ⟨List.nodup_nil, by simp [empty]⟩

/-- What binding a call comes to in a well-formed registry. -/
theorem WellFormed.bind (wellFormed : registry.WellFormed) {name : String} {function : Function}
    (found : registry.find? name = some function) (arguments : List Value) :
    (∃ overload,
      function.overloads.filter
        (fun overload => overload.signature.accepts arguments.length) = [overload] ∧
      registry.bind name arguments = .ok (.mk name arguments overload.signature overload.attached
        overload.implementation)) ∨
    (function.overloads.filter
        (fun overload => overload.signature.accepts arguments.length) = [] ∧
      registry.bind name arguments = .error (.noMatchingOverload name arguments.length)) := by
  obtain ⟨member, named⟩ := find?_name found
  rcases (wellFormed.functions function member).resolve arguments.length with
    ⟨overload, single, chosen⟩ | ⟨empty, refused⟩
  · exact .inl ⟨overload, single, by simp [Registry.bind, Registry.resolve, found, chosen]⟩
  · exact .inr ⟨empty, by simp [Registry.bind, Registry.resolve, found, refused, named]⟩

theorem bind_of_find?_eq_none {name : String} (absent : registry.find? name = none)
    (arguments : List Value) : registry.bind name arguments = .error (.unknownFunction name) := by
  simp [Registry.bind, Registry.resolve, absent]

/-- After any history of requests, successful or not, the registered functions are well-formed and
found under their names. A call of one of them is bound to the one overload that accepts its
arguments, and only fails if none does; that several do is never found out by a call. -/
theorem performAll_binds (requests : List Request) :
    (∀ function ∈ (empty.performAll requests).functions,
      (empty.performAll requests).find? function.name = some function ∧ function.WellFormed) ∧
    (∀ name function, (empty.performAll requests).find? name = some function →
      function ∈ (empty.performAll requests).functions ∧ function.name = name ∧
      ∀ arguments : List Value,
        ((∃ call, (empty.performAll requests).bind name arguments = .ok call) ↔
          ∃ overload ∈ function.overloads, overload.signature.accepts arguments.length = true) ∧
        (∀ call, (empty.performAll requests).bind name arguments = .ok call →
          ∃ overload,
            function.overloads.filter
              (fun overload => overload.signature.accepts arguments.length) = [overload] ∧
            call = .mk name arguments overload.signature overload.attached
              overload.implementation) ∧
        ((∀ overload ∈ function.overloads,
            overload.signature.accepts arguments.length = false) →
          (empty.performAll requests).bind name arguments =
            .error (.noMatchingOverload name arguments.length))) ∧
    ∀ name arguments other count,
      (empty.performAll requests).bind name arguments ≠
        .error (.ambiguousOverload other count) := by
  have wellFormed := empty_wellFormed.performAll requests
  refine ⟨?_, ?_, ?_⟩
  · intro function member
    exact ⟨wellFormed.find?_eq_some member, wellFormed.functions function member⟩
  · intro name function found
    obtain ⟨member, named⟩ := find?_name found
    refine ⟨member, named, fun arguments => ?_⟩
    rcases wellFormed.bind found arguments with ⟨overload, single, bound⟩ | ⟨none, refused⟩
    · have accepting : overload ∈ function.overloads ∧
          overload.signature.accepts arguments.length = true :=
        List.mem_filter.mp (single ▸ List.mem_singleton_self overload)
      refine ⟨⟨fun _ => ⟨overload, accepting⟩, fun _ => ⟨_, bound⟩⟩, ?_, ?_⟩
      · intro call same
        exact ⟨overload, single, Except.ok.inj (same.symm.trans bound)⟩
      · intro refusing
        exact absurd accepting.2 (by simp [refusing overload accepting.1])
    · have refusing := List.filter_eq_nil_iff.mp none
      refine ⟨⟨?_, ?_⟩, ?_, fun _ => refused⟩
      · rintro ⟨call, bound⟩
        rw [refused] at bound
        cases bound
      · rintro ⟨overload, included, accepts⟩
        exact absurd accepts (refusing overload included)
      · intro call bound
        rw [refused] at bound
        cases bound
  · intro name arguments other count ambiguous
    cases found : (empty.performAll requests).find? name with
    | none =>
        rw [bind_of_find?_eq_none found] at ambiguous
        cases ambiguous
    | some function =>
        rcases wellFormed.bind found arguments with ⟨overload, -, bound⟩ | ⟨-, refused⟩
        · rw [bound] at ambiguous
          cases ambiguous
        · rw [refused] at ambiguous
          cases ambiguous

/-- The second request asks for a name that is taken and fails. -/
theorem performAll_binds_substrings :
    (empty.performAll [.register Library.substrings, .register Library.substrings]).bind
        "str.substr" [.string "rule"] = .error (.noMatchingOverload "str.substr" 1) ∧
      ∃ call, (empty.performAll [.register Library.substrings, .register Library.substrings]).bind
        "str.substr" [.string "rule", .number .one] = .ok call := by
  have found : (empty.performAll
      [.register Library.substrings, .register Library.substrings]).find? "str.substr" =
        some Library.substrings := by rfl
  obtain ⟨-, -, binds⟩ := (performAll_binds _).2.1 _ _ found
  exact ⟨(binds [.string "rule"]).2.2 (by decide),
    (binds [.string "rule", .number .one]).1.mpr (by decide)⟩

end Registry

end Verdict
