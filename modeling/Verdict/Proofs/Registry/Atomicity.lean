import Verdict.Proofs.Registry.Execution
import Verdict.Proofs.Registry.Growth

/-! After any history of requests, a request that fails has changed nothing, and one that succeeds
has added what it declares and nothing else. Only the first successful discovery ever takes
effect. -/

set_option autoImplicit false

namespace Verdict

namespace Registry

/-- One of the requests is a discovery that succeeds. -/
def DiscoversIn (registry : Registry) : List Request → Prop
  | [] => False
  | request :: requests =>
      (∃ libraries next, request = .discover libraries ∧
        request.execute.run registry = .ok () next) ∨
      DiscoversIn (request.leave registry) requests

/-- A request either changes nothing or adds the functions that it declares. -/
structure Request.Atomic (registry : Registry) (request : Request) : Prop where
  /-- The steps come to the same as the whole request at once. -/
  whole : request.execute.run registry =
    match request.attempt registry with
    | .ok next => .ok () next
    | .error error => .error error registry
  failed : ∀ error next, request.execute.run registry = .error error next → next = registry
  added : ∀ next, request.execute.run registry = .ok () next →
    next.functions = registry.functions ++ request.declared registry ∧
    ∀ name function, next.find? name = some function ↔
      registry.find? name = some function ∨
        function ∈ request.declared registry ∧ function.name = name
  recorded : ∀ next, request.execute.run registry = .ok () next →
    next.discovered = request.recorded registry
  succeeds : (∃ next, request.execute.run registry = .ok () next) ↔
    (∀ function ∈ request.declared registry, function.defect? = none) ∧
      ((request.declared registry).map Function.name).Nodup ∧
      ∀ function ∈ request.declared registry, registry.find? function.name = none

structure DiscoversOnce (requests : List Request) (libraries : List FunctionLibrary) : Prop where
  before : ¬ DiscoversIn empty requests → (empty.executeAll requests).libraries = []
  first : ¬ DiscoversIn empty requests →
    ∀ next, (Request.discover libraries).execute.run (empty.executeAll requests) = .ok () next →
      ∀ later,
        (next.executeAll later).libraries =
          "hope.stdlib" :: libraries.map FunctionLibrary.name ∧
        ∀ library ∈ Library.standard :: libraries, ∀ function ∈ library.functions,
          (next.executeAll later).find? function.name = some function
  again : DiscoversIn empty requests →
    (Request.discover libraries).execute.run (empty.executeAll requests) =
      .ok () (empty.executeAll requests)
  /-- What a failed discovery is followed by is the same as if it had not been made. -/
  retried : ∀ error next,
    (Request.discover libraries).execute.run (empty.executeAll requests) = .error error next →
      ∀ between others,
        (Request.discover others).execute.run (next.executeAll between) =
          (Request.discover others).execute.run ((empty.executeAll requests).executeAll between)

variable {registry next : Registry}

theorem WellFormed.find?_eq_some_iff (wellFormed : registry.WellFormed) {name : String}
    {function : Function} :
    registry.find? name = some function ↔
      function ∈ registry.functions ∧ function.name = name := by
  constructor
  · exact find?_name
  · rintro ⟨member, rfl⟩
    exact wellFormed.find?_eq_some member

theorem find?_eq_none_iff {name : String} :
    registry.find? name = none ↔ name ∉ registry.functions.map Function.name := by
  rw [← contains_eq_false_iff, contains, Option.isSome_eq_false_iff, Option.isNone_iff_eq_none]

theorem WellFormed.atomic (wellFormed : registry.WellFormed) (request : Request) :
    request.Atomic registry where
  whole := request.execute_run registry
  failed := fun _ _ refused => (Request.execute_eq_error_iff.mp refused).2
  added := by
    intro next accepted
    have attempted := Request.execute_eq_ok_iff.mp accepted
    obtain ⟨-, grown⟩ := Request.attempt_eq_ok_iff.mp attempted
    have functions : next.functions = registry.functions ++ request.declared registry := by
      rw [grown]
    refine ⟨functions, fun name function => ?_⟩
    rw [(wellFormed.attempt attempted).find?_eq_some_iff, wellFormed.find?_eq_some_iff, functions,
      List.mem_append, or_and_right]
  recorded := by
    intro next accepted
    obtain ⟨-, rfl⟩ := Request.attempt_eq_ok_iff.mp (Request.execute_eq_ok_iff.mp accepted)
    rfl
  succeeds := by
    have unopposed : (∃ next, request.execute.run registry = .ok () next) ↔
        registry.objection? [] (request.declared registry) = none := by
      simp [Request.execute_eq_ok_iff, Request.attempt_eq_ok_iff]
    rw [unopposed, objection?_eq_none_iff]
    simp [find?_eq_none_iff]

theorem WellFormed.executeAll (wellFormed : registry.WellFormed) (requests : List Request) :
    (registry.executeAll requests).WellFormed := by
  rw [executeAll_eq_performAll]
  exact wellFormed.performAll requests

/-- What is registered stays registered. -/
theorem WellFormed.find?_executeAll (wellFormed : registry.WellFormed) {function : Function}
    (member : function ∈ registry.functions) (requests : List Request) :
    (registry.executeAll requests).find? function.name = some function := by
  refine (wellFormed.executeAll requests).find?_eq_some ?_
  obtain ⟨added, kept⟩ := grows_performAll registry requests
  rw [executeAll_eq_performAll, kept]
  exact List.mem_append_left added member

theorem discovered_executeAll {names : List String} (known : registry.discovered = some names)
    (requests : List Request) : (registry.executeAll requests).discovered = some names := by
  induction requests generalizing registry with
  | nil => exact known
  | cons request requests ih =>
      suffices kept : (request.leave registry).discovered = some names from ih kept
      rw [Request.leave_eq_perform, Request.perform]
      split
      · rename_i next accepted
        obtain ⟨-, rfl⟩ := Request.attempt_eq_ok_iff.mp accepted
        cases request <;> simp [Request.recorded, known]
      · exact known

theorem discovered_leave_eq_none_iff (unknown : registry.discovered = none) (request : Request) :
    (request.leave registry).discovered = none ↔
      ¬ ∃ libraries next, request = .discover libraries ∧
        request.execute.run registry = .ok () next := by
  rw [Request.leave]
  cases outcome : request.execute.run registry with
  | error error left =>
      obtain ⟨-, rfl⟩ := Request.execute_eq_error_iff.mp outcome
      simp [unknown]
  | ok _ next =>
      obtain ⟨-, rfl⟩ := Request.attempt_eq_ok_iff.mp (Request.execute_eq_ok_iff.mp outcome)
      cases request <;> simp [Request.recorded, unknown]

/-- Libraries are recorded as soon as a discovery has succeeded, and not before. -/
theorem discovered_executeAll_eq_none_iff (unknown : registry.discovered = none)
    (requests : List Request) :
    (registry.executeAll requests).discovered = none ↔ ¬ DiscoversIn registry requests := by
  induction requests generalizing registry with
  | nil => simp [executeAll, DiscoversIn, unknown]
  | cons request requests ih =>
      -- The first request either leaves discovery to the others or settles it for good.
      rw [executeAll_cons, DiscoversIn, not_or, ← discovered_leave_eq_none_iff unknown]
      cases known : (request.leave registry).discovered with
      | none => simp [ih known]
      | some names => simp [discovered_executeAll known]

theorem discoversOnce (requests : List Request) (libraries : List FunctionLibrary) :
    DiscoversOnce requests libraries := by
  have recorded : (empty.executeAll requests).discovered = none ↔ ¬ DiscoversIn empty requests :=
    discovered_executeAll_eq_none_iff rfl requests
  constructor
  case before =>
    intro never
    rw [Registry.libraries, recorded.mpr never]
    rfl
  case first =>
    intro never next accepted later
    have attempted := Request.execute_eq_ok_iff.mp accepted
    obtain ⟨-, grown⟩ := Request.attempt_eq_ok_iff.mp attempted
    have names : next.discovered =
        some ("hope.stdlib" :: libraries.map FunctionLibrary.name) := by
      rw [grown]
      simp [Request.recorded, recorded.mpr never, Library.standard, Library.standardOn]
    refine ⟨by rw [Registry.libraries, discovered_executeAll names later, Option.getD_some], ?_⟩
    intro library listed function member
    have declared : function ∈ next.functions := by
      rw [grown]
      simp only [Request.declared, recorded.mpr never]
      exact List.mem_append_right _ (List.mem_flatMap.mpr ⟨library, listed, member⟩)
    exact ((empty_wellFormed.executeAll requests).attempt attempted).find?_executeAll declared later
  case again =>
    intro before
    cases known : (empty.executeAll requests).discovered with
    | none => exact absurd before (recorded.mp known)
    | some names =>
        rw [Request.execute_eq_ok_iff, Request.attempt, Registry.discover, known]
  case retried =>
    intro error next refused between others
    rw [(Request.execute_eq_error_iff.mp refused).2]

/-- Requests are atomic whatever was requested before, and discovery happens once. -/
theorem requests_atomic_discovery_once (requests : List Request) :
    (∀ request, Request.Atomic (empty.executeAll requests) request) ∧
      ∀ libraries, DiscoversOnce requests libraries :=
  ⟨(empty_wellFormed.executeAll requests).atomic, discoversOnce requests⟩

/-- Discovery with a library that declares a standard function again fails after the whole standard
library has passed the checks, and succeeds afterwards without that library. -/
theorem requests_atomic_discovery_once_clash :
    ∃ left next : Registry,
      (Request.discover [⟨"rules", [Library.substrings]⟩]).execute.run empty =
        .error (.duplicateFunction "str.substr") left ∧
      left.functions = [] ∧ left.libraries = [] ∧
      (Request.discover []).execute.run left = .ok () next ∧
      next.libraries = ["hope.stdlib"] ∧
      next.find? "str.substr" = some Library.substrings := by
  obtain ⟨-, once⟩ := requests_atomic_discovery_once []
  have clash : (Request.discover [⟨"rules", [Library.substrings]⟩]).attempt empty =
    .error (.duplicateFunction "str.substr") := by rfl
  have refused := Request.execute_eq_error_iff.mpr ⟨clash, rfl⟩
  have unopposed : empty.objection? [] ((Request.discover []).declared empty) = none := by rfl
  have accepted := Request.execute_eq_ok_iff.mpr (Request.attempt_eq_ok_iff.mpr ⟨unopposed, rfl⟩)
  obtain ⟨libraries, found⟩ := (once []).first (by simp [DiscoversIn]) _ accepted []
  have member : Library.substrings ∈ Library.standard.functions := by
    simp [Library.standard, Library.standardOn, Library.strings]
  exact ⟨empty, _, refused, rfl, rfl, accepted, libraries,
    found Library.standard List.mem_cons_self Library.substrings member⟩

end Registry

end Verdict
