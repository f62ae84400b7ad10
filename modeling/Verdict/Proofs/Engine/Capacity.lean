import Verdict.Proofs.Engine.Cache

/-! How many rules an engine keeps. All are dropped before the one that would be too many is kept,
so the limit holds, except that a limit of zero lets one rule in. -/

set_option autoImplicit false

namespace Verdict

namespace Engine

variable {engine : Engine}

/-- What can become of the kept rules in one action: they stay, or all are dropped, or one more is
kept under a text that had none. -/
inductive Turns (engine : Engine) : List (String × CompiledRule) → Prop where
  | stay : Turns engine engine.cache
  | drop : Turns engine []
  | keep {text : String} (rule : CompiledRule) :
      engine.configuration.cacheRules = true → engine.cache.lookup text = none →
      Turns engine (engine.keep text rule).cache

theorem keep_configuration (engine : Engine) (text : String) (rule : CompiledRule) :
    (engine.keep text rule).configuration = engine.configuration := by
  unfold Engine.keep
  split <;> rfl

theorem cache_of_compile {text : String} {compiled : CompiledRule} {next : Engine}
    (compiles : engine.compile text = .ok (compiled, next)) :
    next.configuration = engine.configuration ∧ next.cache = engine.cache := by
  unfold Engine.compile at compiles
  split at compiles
  · cases compiles
  · cases compiles
    exact ⟨rfl, rfl⟩

theorem turns_of_parse {text : String} {compiled : CompiledRule} {next : Engine}
    (parsed : engine.parse text = .ok (compiled, next)) :
    next.configuration = engine.configuration ∧ engine.Turns next.cache := by
  unfold Engine.parse at parsed
  split at parsed
  · rename_i caches
    split at parsed
    · cases parsed
      exact ⟨rfl, .stay⟩
    · rename_i new
      split at parsed
      · cases parsed
      · rename_i rule further compiles
        cases parsed
        obtain ⟨configuration, cache⟩ := cache_of_compile compiles
        have kept : (further.keep text compiled).cache = (engine.keep text compiled).cache := by
          simp only [Engine.keep, configuration, cache]
          split <;> rfl
        refine ⟨(keep_configuration further text compiled).trans configuration, ?_⟩
        rw [kept]
        exact .keep compiled caches new
  · obtain ⟨configuration, cache⟩ := cache_of_compile parsed
    exact ⟨configuration, cache ▸ .stay⟩

theorem turns_of_act (engine : Engine) (action : Action) :
    (engine.act action).2.configuration = engine.configuration ∧
      engine.Turns (engine.act action).2.cache := by
  cases action with
  | parse text =>
      cases parsed : engine.parse text with
      | error error =>
          simp only [Engine.act, parsed]
          exact ⟨trivial, .stay⟩
      | ok outcome =>
          simp only [Engine.act, parsed]
          exact turns_of_parse parsed
  | evaluateText text document =>
      cases parsed : engine.parse text with
      | error error =>
          simp only [Engine.act, Engine.evaluateText, parsed]
          exact ⟨trivial, .stay⟩
      | ok outcome =>
          simp only [Engine.act, Engine.evaluateText, parsed]
          exact turns_of_parse parsed
  | clearCache => exact ⟨rfl, .drop⟩
  | extend request => exact ⟨rfl, .stay⟩

/-- The kept rules are counted by their texts, and there are not too many of them. -/
structure Bounded (engine : Engine) : Prop where
  distinct : (engine.cache.map Prod.fst).Nodup
  bound : engine.cache.length ≤ max 1 engine.configuration.cacheLimit
  off : engine.configuration.cacheRules = false → engine.cache = []

/-- Before a rule is kept there is room for it, or the rules before it are dropped. -/
theorem Bounded.turns (bounded : engine.Bounded) {next : Engine}
    (configuration : next.configuration = engine.configuration)
    (turns : engine.Turns next.cache) : next.Bounded := by
  generalize same : next.cache = cache at turns
  cases turns with
  | stay =>
      exact ⟨same ▸ bounded.distinct, by rw [same, configuration]; exact bounded.bound,
        by rw [same, configuration]; exact bounded.off⟩
  | drop => exact ⟨by simp [same], by simp [same], fun _ => same⟩
  | @keep text rule caches new =>
      have absent : text ∉ engine.cache.map Prod.fst := by
        rw [List.lookup_eq_none_iff] at new
        intro member
        obtain ⟨entry, kept, named⟩ := List.mem_map.mp member
        simpa [named] using new entry kept
      have off (uncached : next.configuration.cacheRules = false) : next.cache = [] := by
        rw [configuration, caches] at uncached
        cases uncached
      unfold Engine.keep at same
      split at same
      · exact ⟨by simp [same], by rw [same]; exact Nat.le_max_left 1 _, off⟩
      · rename_i room
        refine ⟨?_, ?_, off⟩
        · rw [same]
          exact List.nodup_cons.mpr ⟨absent, bounded.distinct⟩
        · rw [same, configuration, List.length_cons]
          omega

theorem Bounded.actAll (bounded : engine.Bounded) (actions : List Action) :
    (engine.actAll actions).2.Bounded ∧
      (engine.actAll actions).2.configuration = engine.configuration := by
  induction actions generalizing engine with
  | nil => exact ⟨bounded, rfl⟩
  | cons action actions ih =>
      obtain ⟨configuration, turns⟩ := turns_of_act engine action
      obtain ⟨final, unchanged⟩ := ih (bounded.turns configuration turns)
      exact ⟨final, unchanged.trans configuration⟩

theorem cache_of_build {configuration : Configuration} {strategy : Option Strategy}
    {libraries : List FunctionLibrary} {functions : List Function} {clock : Reading → Number}
    (built : build configuration strategy libraries functions clock = .ok engine) :
    engine.configuration = configuration ∧ engine.cache = [] := by
  unfold build at built
  obtain ⟨discovered, -, built⟩ := bind_eq_ok built
  obtain ⟨registry, -, built⟩ := bind_eq_ok built
  cases built
  exact ⟨rfl, rfl⟩

/-- A text without calls is read with every registry, and kept where nothing is kept yet. -/
theorem cache_of_parse_literal (caches : engine.configuration.cacheRules = true)
    (fresh : engine.cache = []) : (engine.actAll [.parse "^true"]).2.cache.length = 1 := by
  have tokens : (tokenize "^true").toOption =
      some [⟨.mark .negation, 0, 1⟩, ⟨.truth true, 1, 5⟩] := by decide +kernel
  have read : parseRule engine.registry "^true" = .ok (.negation (.boolean true)) := by
    cases lexed : tokenize "^true" with
    | error fault =>
        rw [lexed] at tokens
        cases tokens
    | ok spanned =>
        rw [lexed] at tokens
        obtain rfl := Option.some.inj tokens
        exact parseRule_eq_ok_iff.mpr ⟨_, lexed, by rfl⟩
  simp [Engine.actAll, Engine.act, Engine.parse, Engine.compile, Engine.keep, caches, fresh, read]

/-- Whatever is done with an engine, it keeps each text once, no rule at all if rules are not to be
kept, and otherwise as many as its limit at most, or one where that is zero. So the limit is never
passed exactly if rules are not kept or the limit is not zero. -/
theorem kept_within_limit {configuration : Configuration} {strategy : Option Strategy}
    {libraries : List FunctionLibrary} {functions : List Function} {clock : Reading → Number}
    {engine : Engine}
    (built : build configuration strategy libraries functions clock = .ok engine) :
    (∀ actions : List Action,
      ((engine.actAll actions).2.cache.map Prod.fst).Nodup ∧
      (engine.actAll actions).2.cache.length ≤ max 1 configuration.cacheLimit ∧
      (configuration.cacheRules = false → (engine.actAll actions).2.cache = [])) ∧
    ((∀ actions : List Action,
        (engine.actAll actions).2.cache.length ≤ configuration.cacheLimit) ↔
      configuration.cacheRules = false ∨ 0 < configuration.cacheLimit) := by
  obtain ⟨configured, fresh⟩ := cache_of_build built
  have bounded : engine.Bounded := ⟨by simp [fresh], by simp [fresh], fun _ => fresh⟩
  have always (actions : List Action) :
      ((engine.actAll actions).2.cache.map Prod.fst).Nodup ∧
      (engine.actAll actions).2.cache.length ≤ max 1 configuration.cacheLimit ∧
      (configuration.cacheRules = false → (engine.actAll actions).2.cache = []) := by
    obtain ⟨final, unchanged⟩ := bounded.actAll actions
    rw [← configured, ← unchanged]
    exact ⟨final.distinct, final.bound, final.off⟩
  refine ⟨always, ?_, ?_⟩
  · intro within
    by_contra neither
    rw [not_or, Bool.not_eq_false] at neither
    have one := cache_of_parse_literal (configured ▸ neither.1) fresh
    have atZero := within [.parse "^true"]
    omega
  · intro possible actions
    obtain ⟨-, bound, unkept⟩ := always actions
    rcases possible with off | positive
    · simp [unkept off]
    · omega

/-- With a limit of two, the third text finds no room and drops the other two. -/
theorem kept_within_limit_of_three :
    ∃ engine, build { cacheLimit := 2 } none [] [] (fun _ => .zero) = .ok engine ∧
      (∀ actions : List Action, (engine.actAll actions).2.cache.length ≤ 2) ∧
      (engine.actAll [.parse "^true", .parse "^false"]).2.cache.length = 2 ∧
      (engine.actAll [.parse "^true", .parse "^false", .parse "^ true"]).2.cache.length = 1 := by
  let engine : Engine := ⟨.standard, .strict, fun _ => .zero, { cacheLimit := 2 }, [], 0⟩
  have built : build { cacheLimit := 2 } none [] [] (fun _ => .zero) = .ok engine := rfl
  refine ⟨engine, built, ?_, ?_, ?_⟩
  · exact (kept_within_limit built).2.mpr (.inr (by decide))
  · decide +kernel
  · decide +kernel

/-- With a limit of zero, one rule is kept. -/
theorem kept_beyond_limit_zero :
    ∃ engine, build { cacheLimit := 0 } none [] [] (fun _ => .zero) = .ok engine ∧
      ¬ (engine.actAll [.parse "1 < 2"]).2.cache.length ≤ engine.configuration.cacheLimit := by
  refine ⟨⟨.standard, .strict, fun _ => .zero, { cacheLimit := 0 }, [], 0⟩, rfl, ?_⟩
  decide +kernel

end Engine

end Verdict
