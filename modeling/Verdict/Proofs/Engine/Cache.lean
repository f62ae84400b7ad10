import Verdict.Engine
import Verdict.Proofs.Registry.Growth

/-! The rules that an engine keeps cannot be told from rules read anew. A kept rule is what its text
is read as, and stays so while the registry grows; a text that is refused is never kept. -/

set_option autoImplicit false

namespace Verdict

namespace Engine

/-- What can be done with an engine, registrations in its registry included. -/
inductive Action where
  | parse (text : String)
  | evaluateText (text : String) (document : Json)
  | clearCache
  | extend (request : Registry.Request)

/-- What an action is answered with. -/
inductive Answer where
  | rule (result : Except Error Rule)
  | truth (result : Except Error Bool)
  | cleared
  | extended (result : Except Error Unit)

def act (engine : Engine) : Action → Answer × Engine
  | .parse text =>
      match engine.parse text with
      | .ok (compiled, next) => (.rule (.ok compiled.rule), next)
      | .error error => (.rule (.error error), engine)
  | .evaluateText text document =>
      let (result, next) := engine.evaluateText text document
      (.truth result, next)
  | .clearCache => (.cleared, engine.clearCache)
  | .extend request =>
      (.extended ((request.attempt engine.registry).map fun _ => ()),
        { engine with registry := request.perform engine.registry })

/-- Acts one after another and collects the answers. -/
def actAll (engine : Engine) : List Action → List Answer × Engine
  | [] => ([], engine)
  | action :: actions =>
      let (answer, next) := engine.act action
      let (answers, final) := next.actAll actions
      (answer :: answers, final)

/-- What an action comes to if every text is read anew with the registry as it is then. -/
def anew (setting : Json → Setting) (registry : Registry) : Action → Answer × Registry
  | .parse text => (.rule (parseRule registry text), registry)
  | .evaluateText text document =>
      (.truth (match parseRule registry text with
        | .ok rule => rule.evaluate (setting document)
        | .error error => .error error), registry)
  | .clearCache => (.cleared, registry)
  | .extend request =>
      (.extended ((request.attempt registry).map fun _ => ()), request.perform registry)

def anewAll (setting : Json → Setting) (registry : Registry) :
    List Action → List Answer × Registry
  | [] => ([], registry)
  | action :: actions =>
      let (answer, next) := anew setting registry action
      let (answers, final) := anewAll setting next actions
      (answer :: answers, final)

/-- Every rule that is kept is what its text is read as. -/
def Coherent (engine : Engine) : Prop :=
  ∀ entry ∈ engine.cache, parseRule engine.registry entry.1 = .ok entry.2.rule

/-- How an engine stands after something was done with it that read no registration. -/
structure Follows (engine next : Engine) : Prop where
  coherent : next.Coherent
  registry : next.registry = engine.registry
  setting : next.setting = engine.setting

variable {engine : Engine}

theorem Coherent.compile (coherent : engine.Coherent) (text : String) :
    (∃ compiled next, engine.compile text = .ok (compiled, next) ∧
      parseRule engine.registry text = .ok compiled.rule ∧ engine.Follows next) ∨
    (∃ error, engine.compile text = .error error ∧
      parseRule engine.registry text = .error error) := by
  cases read : parseRule engine.registry text with
  | ok rule =>
      exact .inl ⟨⟨engine.compiled, rule⟩, { engine with compiled := engine.compiled + 1 },
        by simp only [Engine.compile, read], rfl, coherent, rfl, rfl⟩
  | error error => exact .inr ⟨error, by simp only [Engine.compile, read], rfl⟩

theorem Coherent.keep (coherent : engine.Coherent) {text : String} {compiled : CompiledRule}
    (read : parseRule engine.registry text = .ok compiled.rule) :
    engine.Follows (engine.keep text compiled) := by
  unfold Engine.keep
  split
  · exact ⟨List.forall_mem_singleton.mpr read, rfl, rfl⟩
  · exact ⟨List.forall_mem_cons.mpr ⟨read, coherent⟩, rfl, rfl⟩

theorem Coherent.lookup (coherent : engine.Coherent) {text : String} {kept : CompiledRule}
    (found : engine.cache.lookup text = some kept) :
    parseRule engine.registry text = .ok kept.rule := by
  obtain ⟨before, after, split, -⟩ := List.lookup_eq_some_iff.mp found
  exact coherent (text, kept) (split ▸ List.mem_append_right _ List.mem_cons_self)

/-- Parsing answers what the text is read as, kept or not. -/
theorem Coherent.parse (coherent : engine.Coherent) (text : String) :
    (∃ compiled next, engine.parse text = .ok (compiled, next) ∧
      parseRule engine.registry text = .ok compiled.rule ∧ engine.Follows next) ∨
    (∃ error, engine.parse text = .error error ∧
      parseRule engine.registry text = .error error) := by
  have compiling := coherent.compile text
  by_cases caches : engine.configuration.cacheRules = true
  swap
  · simpa only [Engine.parse, caches, if_false, Bool.false_eq_true] using compiling
  cases found : engine.cache.lookup text with
  | some kept =>
      exact .inl ⟨kept, engine, by simp only [Engine.parse, caches, found, if_true],
        coherent.lookup found, coherent, rfl, rfl⟩
  | none =>
      rcases compiling with ⟨compiled, next, done, read, follows⟩ | ⟨error, failed, read⟩
      · have kept := follows.coherent.keep (follows.registry ▸ read)
        exact .inl ⟨compiled, next.keep text compiled,
          by simp only [Engine.parse, caches, found, done, if_true], read, kept.coherent,
          kept.registry.trans follows.registry, kept.setting.trans follows.setting⟩
      · exact .inr ⟨error, by simp only [Engine.parse, caches, found, failed, if_true], read⟩

/-- One action answers what it would if every text were read anew, and a refused text changes
nothing. -/
theorem Coherent.act (coherent : engine.Coherent) (action : Action) :
    (engine.act action).1 = (anew engine.setting engine.registry action).1 ∧
      (engine.act action).2.registry = (anew engine.setting engine.registry action).2 ∧
      (engine.act action).2.setting = engine.setting ∧
      (engine.act action).2.Coherent := by
  cases action with
  | parse text =>
      rcases coherent.parse text with ⟨compiled, next, done, read, follows⟩ | ⟨error, failed, read⟩
      · simp only [Engine.act, anew, done, read]
        exact ⟨trivial, follows.registry, follows.setting, follows.coherent⟩
      · simp only [Engine.act, anew, failed, read]
        exact ⟨trivial, trivial, trivial, coherent⟩
  | evaluateText text document =>
      rcases coherent.parse text with ⟨compiled, next, done, read, follows⟩ | ⟨error, failed, read⟩
      · simp only [Engine.act, Engine.evaluateText, anew, done, read, Engine.evaluate,
          follows.setting]
        exact ⟨trivial, follows.registry, trivial, follows.coherent⟩
      · simp only [Engine.act, Engine.evaluateText, anew, failed, read]
        exact ⟨trivial, trivial, trivial, coherent⟩
  | clearCache => exact ⟨rfl, rfl, rfl, by simp [Engine.act, Engine.clearCache, Coherent]⟩
  | extend request =>
      refine ⟨rfl, rfl, rfl, fun entry kept => ?_⟩
      exact parseRule_of_grows (Registry.Request.grows_perform engine.registry request)
        (coherent entry kept)

theorem Coherent.actAll (coherent : engine.Coherent) (actions : List Action) :
    (engine.actAll actions).1 = (anewAll engine.setting engine.registry actions).1 ∧
      (engine.actAll actions).2.registry = (anewAll engine.setting engine.registry actions).2 ∧
      (engine.actAll actions).2.Coherent := by
  induction actions generalizing engine with
  | nil => exact ⟨rfl, rfl, coherent⟩
  | cons action actions ih =>
      obtain ⟨answer, registry, setting, kept⟩ := coherent.act action
      obtain ⟨answers, final, coherentFinal⟩ := ih kept
      rw [registry, setting] at answers final
      simp only [Engine.actAll, anewAll, answer, answers]
      exact ⟨trivial, final, coherentFinal⟩

theorem Coherent.cache_of_refused (coherent : engine.Coherent) {text : String} {error : Error}
    (refused : parseRule engine.registry text = .error error) (document : Json) :
    (engine.act (.parse text)).2.cache = engine.cache ∧
      (engine.act (.evaluateText text document)).2.cache = engine.cache := by
  rcases coherent.parse text with ⟨compiled, next, -, read, -⟩ | ⟨other, failed, -⟩
  · rw [refused] at read
    cases read
  · simp only [Engine.act, Engine.evaluateText, failed]
    exact ⟨trivial, trivial⟩

theorem coherent_of_build {configuration : Configuration} {strategy : Option Strategy}
    {libraries : List FunctionLibrary} {functions : List Function} {clock : Reading → Number}
    (built : build configuration strategy libraries functions clock = .ok engine) :
    engine.Coherent := by
  unfold build at built
  obtain ⟨discovered, -, built⟩ := bind_eq_ok built
  obtain ⟨registry, -, built⟩ := bind_eq_ok built
  cases built
  simp [Coherent]

/-- Keeping rules never shows. Whatever is done with an engine, every text is read as it would be
with the registry as it is at that moment, and a text that is refused leaves the kept rules as they
are. -/
theorem actAll_eq_anewAll {configuration : Configuration} {strategy : Option Strategy}
    {libraries : List FunctionLibrary} {functions : List Function} {clock : Reading → Number}
    {engine : Engine}
    (built : build configuration strategy libraries functions clock = .ok engine)
    (actions : List Action) :
    (engine.actAll actions).1 = (anewAll engine.setting engine.registry actions).1 ∧
      (engine.actAll actions).2.registry = (anewAll engine.setting engine.registry actions).2 ∧
      ∀ text error, parseRule (engine.actAll actions).2.registry text = .error error →
        ∀ document : Json,
          ((engine.actAll actions).2.act (.parse text)).2.cache =
              (engine.actAll actions).2.cache ∧
            ((engine.actAll actions).2.act (.evaluateText text document)).2.cache =
              (engine.actAll actions).2.cache := by
  obtain ⟨answers, registry, coherent⟩ := (coherent_of_build built).actAll actions
  exact ⟨answers, registry, fun text error refused document =>
    coherent.cache_of_refused refused document⟩

/-- A text that is refused before its function is registered is read afterwards. -/
theorem actAll_eq_anewAll_of_register :
    ∃ engine rule, build {} none [] [] (fun _ => .zero) = .ok engine ∧
      (engine.actAll [.parse "^ f()",
        .extend (.register ⟨"f", [.constant (.fixed 0) (.boolean true)]⟩), .parse "^ f()"]).1 =
        [.rule (.error (.unknownFunction "f")), .extended (.ok ()), .rule (.ok rule)] := by
  let engine : Engine := ⟨.standard, .strict, fun _ => .zero, {}, [], 0⟩
  let registered : Registry := { Registry.standard with
    functions := Registry.standard.functions ++ [⟨"f", [.constant (.fixed 0) (.boolean true)]⟩] }
  have built : build {} none [] [] (fun _ => .zero) = .ok engine := rfl
  have extended : Registry.Request.attempt .standard
      (.register ⟨"f", [.constant (.fixed 0) (.boolean true)]⟩) = .ok registered := rfl
  have refused : (match parseRule .standard "^ f()" with
      | .error (.unknownFunction name) => name == "f"
      | _ => false) = true := by decide +kernel
  have accepted : (parseRule registered "^ f()").isOk = true := by decide +kernel
  have before : parseRule .standard "^ f()" = .error (.unknownFunction "f") := by
    split at refused
    · rename_i same
      rw [same, beq_iff_eq.mp refused]
    · cases refused
  cases after : parseRule registered "^ f()" with
  | error error => simp [after, Except.isOk, Except.toBool] at accepted
  | ok rule =>
      refine ⟨engine, rule, built, ?_⟩
      rw [(actAll_eq_anewAll built _).1]
      simp only [anewAll, anew, Registry.Request.perform, engine, extended, before, after,
        Except.map]

end Engine

end Verdict
