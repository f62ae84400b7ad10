import Verdict.Proofs.Registry.Histories

/-! Registering a batch, its functions one by one, or the same functions in any order and cut into
batches in any way. What decides is which functions there are: names taken earlier in the same
batch and names taken by earlier batches are refused alike. -/

set_option autoImplicit false

namespace Verdict

namespace Registry

/-- Adds batches one after another, up to the first that is refused. -/
def registerBatches (registry : Registry) (batches : List (List Function)) :
    Except Error Registry :=
  batches.foldlM registerAll registry

/-- Adds functions one after another, up to the first that is refused. -/
def registerEach (registry : Registry) (functions : List Function) : Except Error Registry :=
  functions.foldlM register registry

/-- Two registries give every name and every call the same binding, or refuse it with the same
error. -/
structure SameBindings (left right : Registry) : Prop where
  find? : ∀ name, left.find? name = right.find? name
  resolve : ∀ name count, left.resolve name count = right.resolve name count
  bind : ∀ name arguments, left.bind name arguments = right.bind name arguments

variable {registry next : Registry}

theorem sameBindings_of_find? {left right : Registry}
    (same : ∀ name, left.find? name = right.find? name) : left.SameBindings right where
  find? := same
  resolve := fun name count => by rw [resolve, resolve, same]
  bind := fun name arguments => by rw [Registry.bind, Registry.bind, resolve, resolve, same]

section Cuttings

/-- There is no objection to two batches as one if there is none to the first, and none to the
second once the first is in. -/
theorem objection?_append_eq_none_iff {front behind : List Function} :
    registry.objection? [] (front ++ behind) = none ↔
      registry.objection? [] front = none ∧
        { registry with functions := registry.functions ++ front }.objection? [] behind = none := by
  simp only [objection?_eq_none_iff, List.map_append, List.nodup_append', List.mem_append,
    List.not_mem_nil, not_false_eq_true, true_and, or_imp, not_or, forall_and]
  constructor
  · rintro ⟨⟨soundFront, soundBehind⟩, ⟨distinctFront, distinctBehind, apart⟩, newFront, newBehind⟩
    exact ⟨⟨soundFront, distinctFront, newFront⟩, soundBehind, distinctBehind, newBehind,
      fun name member earlier => apart earlier member⟩
  · rintro ⟨⟨soundFront, distinctFront, newFront⟩, soundBehind, distinctBehind, newBehind, apart⟩
    exact ⟨⟨soundFront, soundBehind⟩, ⟨distinctFront, distinctBehind,
      fun name earlier member => apart name member earlier⟩, newFront, newBehind⟩

theorem registerAll_append_eq_ok_iff {front behind : List Function} :
    registry.registerAll (front ++ behind) = .ok next ↔
      ∃ between, registry.registerAll front = .ok between ∧
        between.registerAll behind = .ok next := by
  simp only [registerAll_eq_ok_iff, objection?_append_eq_none_iff]
  constructor
  · rintro ⟨⟨front, behind⟩, rfl⟩
    exact ⟨_, ⟨front, rfl⟩, behind, by rw [List.append_assoc]⟩
  · rintro ⟨_, ⟨front, rfl⟩, behind, rfl⟩
    exact ⟨⟨front, behind⟩, by rw [List.append_assoc]⟩

theorem registerBatches_cons_eq_ok_iff {batch : List Function} {batches : List (List Function)} :
    registry.registerBatches (batch :: batches) = .ok next ↔
      ∃ between, registry.registerAll batch = .ok between ∧
        between.registerBatches batches = .ok next := by
  rw [registerBatches, List.foldlM_cons]
  cases registry.registerAll batch with
  | error error => simp [Bind.bind, Except.bind]
  | ok between => simp [Bind.bind, Except.bind, registerBatches]

theorem registerBatches_eq_ok_iff {batches : List (List Function)} :
    registry.registerBatches batches = .ok next ↔
      registry.registerAll batches.flatten = .ok next := by
  induction batches generalizing registry with
  | nil => simp [registerBatches, registerAll, objection?, pure, Except.pure]
  | cons batch batches ih =>
      rw [registerBatches_cons_eq_ok_iff, List.flatten_cons, registerAll_append_eq_ok_iff]
      simp only [ih]

theorem registerEach_eq_registerBatches (registry : Registry) (functions : List Function) :
    registry.registerEach functions = registry.registerBatches (functions.map fun function =>
      [function]) := by
  rw [registerEach, registerBatches, List.foldlM_map]
  rfl

theorem registerEach_eq_ok_iff {functions : List Function} :
    registry.registerEach functions = .ok next ↔ registry.registerAll functions = .ok next := by
  rw [registerEach_eq_registerBatches, registerBatches_eq_ok_iff, ← List.flatMap_def,
    List.flatMap_singleton']

end Cuttings

section Orders

variable {functions others : List Function}

theorem objection?_eq_none_of_perm (order : others.Perm functions)
    (unopposed : registry.objection? [] functions = none) :
    registry.objection? [] others = none := by
  rw [objection?_eq_none_iff] at unopposed ⊢
  obtain ⟨sound, distinct, new⟩ := unopposed
  have names := order.map Function.name
  exact ⟨fun function member => sound function (order.mem_iff.mp member),
    names.nodup_iff.mpr distinct, fun name member => new name (names.mem_iff.mp member)⟩

/-- Functions with different names are found under them whatever their order. -/
theorem find?_of_perm (distinct : (functions.map Function.name).Nodup)
    (order : others.Perm functions) (name : String) :
    others.find? (fun function => function.name == name) =
      functions.find? fun function => function.name == name := by
  cases found : functions.find? fun function => function.name == name with
  | none =>
      rw [List.find?_eq_none] at found ⊢
      exact fun function member => found function (order.mem_iff.mp member)
  | some function =>
      have named : function.name = name := by simpa using List.find?_some found
      have member := order.mem_iff.mpr (List.mem_of_find?_eq_some found)
      -- The other order finds a function of the name as well, and there is only this one.
      cases other : others.find? fun function => function.name == name with
      | none =>
          have unnamed := List.find?_eq_none.mp other function member
          simp [named] at unnamed
      | some same =>
          have renamed : same.name = name := by simpa using List.find?_some other
          have included := order.mem_iff.mp (List.mem_of_find?_eq_some other)
          exact congrArg some (List.inj_on_of_nodup_map distinct included
            (order.mem_iff.mp member) (renamed.trans named.symm))

theorem registerAll_of_perm (order : others.Perm functions)
    (accepted : registry.registerAll functions = .ok next) :
    ∃ reordered, registry.registerAll others = .ok reordered ∧
      reordered.functions.Perm next.functions ∧ reordered.discovered = next.discovered ∧
      reordered.SameBindings next := by
  obtain ⟨unopposed, rfl⟩ := registerAll_eq_ok_iff.mp accepted
  obtain ⟨-, distinct, -⟩ := objection?_eq_none_iff.mp unopposed
  refine ⟨_, registerAll_eq_ok_iff.mpr ⟨objection?_eq_none_of_perm order unopposed, rfl⟩,
    order.append_left registry.functions, rfl, sameBindings_of_find? fun name => ?_⟩
  simp only [find?, List.find?_append, find?_of_perm distinct order name]

end Orders

/-- Registering a batch is registering its functions one by one. Cut into batches in any way it
leads to the same registry; in any order as well it is accepted or refused alike, and what is
accepted is bound alike. -/
theorem registerAll_one_by_one (registry : Registry) (functions : List Function) :
    (∀ next, registry.registerAll functions = .ok next ↔
      registry.registerEach functions = .ok next) ∧
    (∀ batches next, batches.flatten = functions →
      (registry.registerBatches batches = .ok next ↔ registry.registerAll functions = .ok next)) ∧
    ∀ batches, batches.flatten.Perm functions →
      ((∃ next, registry.registerBatches batches = .ok next) ↔
        ∃ next, registry.registerAll functions = .ok next) ∧
      ∀ other next, registry.registerBatches batches = .ok other →
        registry.registerAll functions = .ok next →
        other.functions.Perm next.functions ∧ other.discovered = next.discovered ∧
          other.SameBindings next := by
  refine ⟨fun next => registerEach_eq_ok_iff.symm, ?_, fun batches order => ⟨⟨?_, ?_⟩, ?_⟩⟩
  · rintro batches next rfl
    exact registerBatches_eq_ok_iff
  · rintro ⟨next, accepted⟩
    obtain ⟨reordered, whole, -⟩ :=
      registerAll_of_perm order.symm (registerBatches_eq_ok_iff.mp accepted)
    exact ⟨reordered, whole⟩
  · rintro ⟨next, accepted⟩
    obtain ⟨reordered, whole, -⟩ := registerAll_of_perm order accepted
    exact ⟨reordered, registerBatches_eq_ok_iff.mpr whole⟩
  · intro other next cut whole
    obtain ⟨reordered, accepted, same⟩ := registerAll_of_perm order whole
    obtain rfl := Except.ok.inj (accepted.symm.trans (registerBatches_eq_ok_iff.mp cut))
    exact same

/-- Two functions at once, and the second in a batch of its own before the first, with an empty
batch between them. Either way both are bound. -/
theorem registerAll_one_by_one_turned :
    ∃ other next : Registry,
      empty.registerBatches [[Library.pathExists], [], [Library.substrings]] = .ok other ∧
      empty.registerEach [Library.substrings, Library.pathExists] = .ok next ∧
      other.SameBindings next ∧
      (∃ call, other.bind "str.substr" [.string "rule", .number (.ofNat 1)] = .ok call ∧
        next.bind "str.substr" [.string "rule", .number (.ofNat 1)] = .ok call) ∧
      ∃ call, other.bind "path.exists" [.string "$.rule"] = .ok call ∧
        next.bind "path.exists" [.string "$.rule"] = .ok call := by
  obtain ⟨each, -, turned⟩ :=
    registerAll_one_by_one empty [Library.substrings, Library.pathExists]
  have whole : empty.registerAll [Library.substrings, Library.pathExists] =
    .ok ⟨[Library.substrings, Library.pathExists], none⟩ := by rfl
  obtain ⟨accepted, bound⟩ :=
    turned [[Library.pathExists], [], [Library.substrings]] (List.Perm.swap ..)
  obtain ⟨other, cut⟩ := accepted.mpr ⟨_, whole⟩
  have same := (bound other _ cut whole).2.2
  exact ⟨other, _, cut, (each _).mp whole, same, ⟨_, same.bind .., rfl⟩, ⟨_, same.bind .., rfl⟩⟩

end Registry

end Verdict
