import MonkeyLang.Proofs.Congruence

/-! The log is written and never read. Whatever has been logged before, an evaluation does the same
and adds the same lines. -/

namespace MonkeyLang

def Store.withLog (store : Store) (log : Array LogLine) : Store := { store with log }

namespace Evaluation

variable {α β : Type}

/-- Over every log the evaluation ends in the same way, with the same lines added. -/
def IgnoresLog (body : Evaluation α) : Prop :=
  ∀ store : Store, ∃ (outcome : Outcome α) (after : Store) (lines : Array LogLine), ∀ log,
    body (store.withLog log) = (outcome, after.withLog (log ++ lines))

theorem IgnoresLog.of_silent {body : Evaluation α}
    (silent : ∀ store : Store, ∃ (outcome : Outcome α) (after : Store), ∀ log,
      body (store.withLog log) = (outcome, after.withLog log)) : body.IgnoresLog := by
  intro store
  obtain ⟨outcome, after, ends⟩ := silent store
  refine ⟨outcome, after, #[], fun log => ?_⟩
  rw [ends, Array.append_empty]

theorem IgnoresLog.of_unchanged {body : Evaluation α} {outcome : Outcome α}
    (ends : ∀ store, body store = (outcome, store)) : body.IgnoresLog :=
  .of_silent fun store => ⟨outcome, store, fun log => ends (store.withLog log)⟩

theorem IgnoresLog.bind {first : Evaluation α} {next : α → Evaluation β}
    (former : first.IgnoresLog) (latter : ∀ result, (next result).IgnoresLog) :
    (first >>= next).IgnoresLog := by
  intro store
  obtain ⟨outcome, middle, lines, ends⟩ := former store
  cases outcome with
  | value result =>
      obtain ⟨final, after, more, endsLater⟩ := latter result middle
      refine ⟨final, after, lines ++ more, fun log => ?_⟩
      rw [bind_of_value _ _ (ends log), endsLater, Array.append_assoc]
  | returning origin result =>
      exact ⟨_, middle, lines, fun log => bind_of_returning _ _ (ends log)⟩
  | failed failure => exact ⟨_, middle, lines, fun log => bind_of_failed _ _ (ends log)⟩
  | exhausted => exact ⟨_, middle, lines, fun log => bind_of_exhausted _ _ (ends log)⟩

theorem IgnoresLog.review {body : Evaluation Value} (ignores : body.IgnoresLog)
    (view : Outcome Value → Outcome Value) : (body.review view).IgnoresLog := by
  intro store
  obtain ⟨outcome, after, lines, ends⟩ := ignores store
  refine ⟨view outcome, after, lines, fun log => ?_⟩
  rw [Evaluation.review, ends]

theorem IgnoresLog.step {body : Evaluation α} (step : body.IsStep) : body.IgnoresLog := by
  cases step with
  | pure result => exact .of_unchanged fun store => rfl
  | returning result => exact .of_unchanged fun store => rfl
  | fault fault => exact .of_unchanged fun store => rfl
  | failAt position cause => exact .of_unchanged fun store => rfl
  | exhausted => exact .of_unchanged fun store => rfl
  | ofExcept result =>
      cases result with
      | ok value => exact .of_unchanged fun store => rfl
      | error failure => exact .of_unchanged fun store => rfl
  | resolve scope position name =>
      refine .of_silent fun store => ⟨(resolve scope position name store).1, store, fun log => ?_⟩
      have scopes : (store.withLog log).scopes = store.scopes := rfl
      have registry : (store.withLog log).registry = store.registry := rfl
      obtain ⟨outcome, ends, endsLogged⟩ := resolve_congr scope position name scopes registry
      rw [endsLogged, ends]
  | bindName scope position name value =>
      cases unit : value.isUnit with
      | true => exact .of_unchanged fun store => bindName_of_unit scope position name store unit
      | false =>
          exact .of_silent fun store => ⟨_, store.assign scope name value, fun log =>
            bindName_of_plain scope position name (store.withLog log) unit⟩
  | array elements =>
      exact .of_silent fun store =>
        ⟨.value (store.addArray elements).1, (store.addArray elements).2, fun log => rfl⟩
  | function closure =>
      exact .of_silent fun store =>
        ⟨.value (store.addFunction closure).1, (store.addFunction closure).2, fun log => rfl⟩
  | write sink texts => exact .of_silent fun store => ⟨_, store.write sink texts, fun log => rfl⟩

end Evaluation

open Evaluation

theorem ignoresLog_congruence :
    Congruence fun _ first second => first = second ∧ first.IgnoresLog where
  step := fun step => ⟨rfl, .step step⟩
  bind := by
    rintro _ _ first _ next nextTwin ⟨rfl, former⟩ latter
    have same : next = nextTwin := funext fun result => (latter result).1
    exact ⟨by rw [same], former.bind fun result => (latter result).2⟩
  review := by
    rintro first _ view _ _ ⟨rfl, ignores⟩
    exact ⟨rfl, ignores.review view⟩

theorem enter_ignoresLog (closure : Closure) (arguments : List Value) (position : Position) :
    (enter closure arguments position).IgnoresLog := by
  intro store
  let line : LogLine := .calling closure.parameters.length arguments.length
    (store.settingsOf closure.scope).policy
  have logged (log : Array LogLine) : (store.withLog log).logCall closure arguments =
      store.withLog (log ++ #[line]) := by
    rw [Array.append_singleton]
    rfl
  by_cases refused : store.Refuses closure arguments
  · refine ⟨.failed (.error ⟨.functionArity closure.parameters.length arguments.length, position⟩),
      store, #[line], fun log => ?_⟩
    rw [enter_of_refused closure arguments position (store.withLog log) refused, logged]
  · refine ⟨.value store.scopes.size, (store.enterCall closure arguments).2, #[line],
      fun log => ?_⟩
    rw [enter_of_accepted closure arguments position (store.withLog log) refused, Store.enterCall,
      logged]
    rfl

theorem evaluate_ignoresLog {invoke : Invoke}
    (calls : ∀ callable arguments position caller,
      (invoke callable arguments position caller).IgnoresLog) (node : Node) (scope : ScopeId) :
    (node.evaluate invoke scope).IgnoresLog :=
  (ignoresLog_congruence.evaluate (fun callable arguments position caller =>
    ⟨rfl, calls callable arguments position caller⟩) node).2

theorem Evaluation.IgnoresLog.arrive {body : Evaluation Value} (ignores : body.IgnoresLog) :
    (Evaluation.arrive body).IgnoresLog := by
  rw [arrive_eq_review]
  exact ignores.review Outcome.arrived

theorem invokeWithin_ignoresLog (depth : Nat) (callable : Callable) (arguments : List Value)
    (position : Position) (caller : ScopeId) :
    (invokeWithin depth callable arguments position caller).IgnoresLog := by
  refine invokeWithin_induct (.step .exhausted) ?_ ?_ depth callable arguments position caller
  · intro name action arguments position caller store
    exact (ignoresLog_congruence.call action name position arguments (store.settingsOf caller)).2
      store
  · intro invoke calls closure arguments position
    refine (enter_ignoresLog closure arguments position).bind fun scope => ?_
    exact (evaluate_ignoresLog calls closure.body scope).arrive

end MonkeyLang
