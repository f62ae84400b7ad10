import Verdict.Proofs.Registry.Histories

/-! Registration step by step. All functions of a batch are checked before the first is put into the
registry, and discovery is recorded last of all, so nothing has changed by the time that a request
fails. -/

set_option autoImplicit false

namespace Verdict

namespace Registry

/-- Puts a function under its name, in the place of one that has the name. -/
def put (registry : Registry) (function : Function) : Registry :=
  { registry with
    functions :=
      if registry.contains function.name then
        registry.functions.map fun other => if other.name = function.name then function else other
      else registry.functions ++ [function] }

/-- Checks functions one after another, given the names taken so far in the same batch. -/
def checkEach (taken : List String) : List Function → EStateM Error Registry Unit
  | [] => pure ()
  | function :: functions => do
      match function.defect? with
      | some error => throw error
      | none =>
          let registry ← get
          if registry.contains function.name || function.name ∈ taken then
            throw (.duplicateFunction function.name)
          else checkEach (function.name :: taken) functions

def putEach : List Function → EStateM Error Registry Unit
  | [] => pure ()
  | function :: functions => do
      modify fun registry => registry.put function
      putEach functions

/-- Enters a batch: first all checks, then all changes. -/
def enterAll (functions : List Function) : EStateM Error Registry Unit := do
  checkEach [] functions
  putEach functions

namespace Request

/-- Carries a request out step by step. A failure keeps the registry as the steps before it left
it. -/
def execute : Request → EStateM Error Registry Unit
  | .register function => enterAll [function]
  | .registerAll functions => enterAll functions
  | .discover libraries => do
      let registry ← get
      match registry.discovered with
      | some _ => pure ()
      | none =>
          let all := Library.standard :: libraries
          enterAll (all.flatMap FunctionLibrary.functions)
          modify fun loaded => { loaded with discovered := some (all.map FunctionLibrary.name) }

/-- The registry that a request leaves behind, whether or not it succeeds. -/
def leave (registry : Registry) (request : Request) : Registry :=
  match request.execute.run registry with
  | .ok _ next => next
  | .error _ next => next

end Request

def executeAll (registry : Registry) (requests : List Request) : Registry :=
  requests.foldl Request.leave registry

variable {registry next : Registry}

theorem executeAll_cons (registry : Registry) (request : Request) (requests : List Request) :
    registry.executeAll (request :: requests) = (request.leave registry).executeAll requests := rfl

theorem checkEach_run (registry : Registry) (taken : List String) (functions : List Function) :
    (checkEach taken functions).run registry =
      match registry.objection? taken functions with
      | some error => .error error registry
      | none => .ok () registry := by
  induction functions generalizing taken with
  | nil => rfl
  | cons function functions ih =>
      rw [checkEach, objection?]
      cases function.defect? with
      | some error => rfl
      | none =>
          simp only [EStateM.run_bind, EStateM.run_get]
          split
          · rfl
          · exact ih (function.name :: taken)

theorem put_of_new {function : Function}
    (new : function.name ∉ registry.functions.map Function.name) :
    registry.put function = { registry with functions := registry.functions ++ [function] } := by
  simp [put, contains_eq_false_iff.mpr new]

/-- Functions with new names are put behind the others. -/
theorem putEach_run {functions : List Function} (distinct : (functions.map Function.name).Nodup)
    (new : ∀ name ∈ functions.map Function.name, name ∉ registry.functions.map Function.name) :
    (putEach functions).run registry =
      .ok () { registry with functions := registry.functions ++ functions } := by
  induction functions generalizing registry with
  | nil =>
      rw [List.append_nil]
      rfl
  | cons function functions ih =>
      obtain ⟨single, distinctOthers⟩ := List.nodup_cons.mp distinct
      obtain ⟨newFirst, newOthers⟩ := List.forall_mem_cons.mp new
      have step : (putEach (function :: functions)).run registry =
          (putEach functions).run
            { registry with functions := registry.functions ++ [function] } := by
        rw [putEach, EStateM.run_bind, EStateM.run_modify, put_of_new newFirst]
      -- The others stay new, as none of them has the name of the one just put in.
      rw [step, ih distinctOthers]
      · rw [List.append_assoc]
        rfl
      · intro name member earlier
        rw [List.map_append, List.mem_append] at earlier
        rcases earlier with before | same
        · exact newOthers name member before
        · obtain rfl : name = function.name := by simpa using same
          exact single member

theorem enterAll_run (registry : Registry) (functions : List Function) :
    (enterAll functions).run registry =
      match registry.registerAll functions with
      | .ok next => .ok () next
      | .error error => .error error registry := by
  rw [enterAll, registerAll, EStateM.run_bind, checkEach_run]
  cases unopposed : registry.objection? [] functions with
  | some error => rfl
  | none =>
      obtain ⟨-, distinct, new⟩ := objection?_eq_none_iff.mp unopposed
      exact putEach_run distinct fun name member => (new name member).2

/-- Carried out step by step, a request comes to the same as all at once, and nothing is left of one
that fails. -/
theorem Request.execute_run (registry : Registry) (request : Request) :
    request.execute.run registry =
      match request.attempt registry with
      | .ok next => .ok () next
      | .error error => .error error registry := by
  cases request with
  | register function => exact enterAll_run registry [function]
  | registerAll functions => exact enterAll_run registry functions
  | discover libraries =>
      simp only [execute, attempt, Registry.discover, EStateM.run_bind, EStateM.run_get]
      cases registry.discovered with
      | some names => rfl
      | none =>
          simp only [EStateM.run_bind, enterAll_run, EStateM.run_modify]
          cases registry.registerAll
            ((Library.standard :: libraries).flatMap FunctionLibrary.functions) <;> rfl

theorem Request.execute_eq_ok_iff {request : Request} :
    request.execute.run registry = .ok () next ↔ request.attempt registry = .ok next := by
  rw [execute_run]
  cases request.attempt registry <;> simp

theorem Request.execute_eq_error_iff {request : Request} {error : Error} :
    request.execute.run registry = .error error next ↔
      request.attempt registry = .error error ∧ next = registry := by
  rw [execute_run]
  cases request.attempt registry <;> simp [eq_comm]

theorem Request.leave_eq_perform (registry : Registry) (request : Request) :
    request.leave registry = request.perform registry := by
  rw [leave, perform, execute_run]
  cases request.attempt registry <;> rfl

theorem executeAll_eq_performAll (registry : Registry) (requests : List Request) :
    registry.executeAll requests = registry.performAll requests := by
  induction requests generalizing registry with
  | nil => rfl
  | cons request requests ih =>
      rw [executeAll_cons, Request.leave_eq_perform, ih]
      rfl

end Registry

end Verdict
