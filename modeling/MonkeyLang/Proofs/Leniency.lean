import Mathlib.Data.List.Forall2
import Mathlib.Data.List.Infix
import MonkeyLang.Proofs.Congruence
import MonkeyLang.Proofs.Depth
import MonkeyLang.Proofs.Discipline

/-! The lenient policy only adds to the strict one. A run in which the strict policy refuses no call
of a function goes the same way when settings are made lenient; if it ends with a refused call, all
that it wrote is what the lenient run writes first. -/

namespace MonkeyLang

def Store.relax (store : Store) (chosen : SettingsId → Bool) : Store :=
  { store with
    settings := store.settings.mapIdx fun id settings =>
      if chosen id then { settings with policy := .lenient } else settings }

inductive LogLine.SameButPolicy : LogLine → LogLine → Prop
  | same (line : LogLine) : SameButPolicy line line
  | calling (parameters arguments : Nat) (policy other : ArityPolicy) :
      SameButPolicy (.calling parameters arguments policy) (.calling parameters arguments other)

/-- The stores differ in policies only, also those named in the log, and the first one is strict
throughout. -/
structure Store.SameButPolicy (strict other : Store) : Prop where
  scopes : other.scopes = strict.scopes
  registry : other.registry = strict.registry
  stockLoaded : other.stockLoaded = strict.stockLoaded
  identities : other.nextIdentity = strict.nextIdentity
  writes : other.writes = strict.writes
  settings : ∀ id : SettingsId, Option.Rel
    (fun settings twin : Settings => settings.policy = .strict ∧ twin.sink = settings.sink)
    strict.settings[id]? other.settings[id]?
  log : List.Forall₂ LogLine.SameButPolicy strict.log.toList other.log.toList

namespace Store

theorem sameButPolicy_relax {store : Store}
    (strict : ∀ settings ∈ store.settings, settings.policy = .strict)
    (chosen : SettingsId → Bool) : store.SameButPolicy (store.relax chosen) where
  scopes := rfl
  registry := rfl
  stockLoaded := rfl
  identities := rfl
  writes := rfl
  settings := by
    intro id
    simp only [relax, Array.getElem?_mapIdx]
    cases found : store.settings[id]? with
    | none => exact .none
    | some settings =>
        refine .some ⟨strict settings (Array.mem_of_getElem? found), ?_⟩
        split <;> rfl
  log := List.forall₂_same.mpr fun line _ => .same line

namespace SameButPolicy

variable {strict other : Store} (same : strict.SameButPolicy other)
include same

theorem settingsOf (scope : ScopeId) :
    (strict.settingsOf scope).policy = .strict ∧
      (other.settingsOf scope).sink = (strict.settingsOf scope).sink := by
  simp only [Store.settingsOf, same.scopes]
  cases strict.scopes[scope]? with
  | none => exact ⟨rfl, rfl⟩
  | some found =>
      have related := same.settings found.settings
      simp only [Option.bind_some]
      generalize strict.settings[found.settings]? = settings,
        other.settings[found.settings]? = twin at related
      cases related with
      | none => exact ⟨rfl, rfl⟩
      | some held => exact held

theorem assign (scope : ScopeId) (name : String) (value : Value) :
    (strict.assign scope name value).SameButPolicy (other.assign scope name value) :=
  { same with scopes := by simp only [Store.assign, same.scopes] }

theorem freshIdentity : strict.freshIdentity.2.SameButPolicy other.freshIdentity.2 :=
  { same with identities := by simp only [Store.freshIdentity, same.identities] }

theorem addArray (elements : List Value) :
    (other.addArray elements).1 = (strict.addArray elements).1 ∧
      (strict.addArray elements).2.SameButPolicy (other.addArray elements).2 := by
  refine ⟨?_, same.freshIdentity⟩
  simp only [Store.addArray, Store.freshIdentity, same.identities]

theorem addFunction (closure : Closure) :
    (other.addFunction closure).1 = (strict.addFunction closure).1 ∧
      (strict.addFunction closure).2.SameButPolicy (other.addFunction closure).2 := by
  refine ⟨?_, same.freshIdentity⟩
  simp only [Store.addFunction, Store.freshIdentity, same.identities]

theorem write (sink : Sink) (texts : List String) :
    (strict.write sink texts).SameButPolicy (other.write sink texts) :=
  { same with writes := by simp only [Store.write, same.writes] }

theorem record {line twin : LogLine} (lines : line.SameButPolicy twin) :
    (strict.record line).SameButPolicy (other.record twin) :=
  { same with
    log := by
      simp only [Store.record, Array.toList_push]
      exact List.rel_append same.log (.cons lines .nil) }

theorem addChild (parent : ScopeId) (bindings : Dictionary Value) :
    (strict.addChild parent bindings).2.SameButPolicy (other.addChild parent bindings).2 :=
  { same with scopes := by simp only [Store.addChild, Store.addScope, same.scopes] }

theorem logCall (closure : Closure) (arguments : List Value) :
    (strict.logCall closure arguments).SameButPolicy (other.logCall closure arguments) :=
  same.record (.calling _ _ _ _)

theorem enterCall (closure : Closure) (arguments : List Value) :
    (other.enterCall closure arguments).1 = (strict.enterCall closure arguments).1 ∧
      (strict.enterCall closure arguments).2.SameButPolicy
        (other.enterCall closure arguments).2 := by
  have logged := same.logCall closure arguments
  refine ⟨?_, logged.addChild _ _⟩
  have size : (other.logCall closure arguments).scopes.size =
      (strict.logCall closure arguments).scopes.size := by rw [logged.scopes]
  exact size

end SameButPolicy

end Store

def Failure.IsRefusal (failure : Failure) : Prop :=
  ∃ expected actual position, failure = .error ⟨.functionArity expected actual, position⟩

/-- A strict run ends as another one does, or with a refused call, before which it wrote nothing
that the other did not. -/
inductive RelaxedEnd {α : Type} : Outcome α × Store → Outcome α × Store → Prop
  | same (outcome : Outcome α) {strict other : Store} : strict.SameButPolicy other →
      RelaxedEnd (outcome, strict) (outcome, other)
  | refused {failure : Failure} (twin : Outcome α) {strict other : Store} : failure.IsRefusal →
      strict.writes.toList <+: other.writes.toList →
      RelaxedEnd (.failed failure, strict) (twin, other)

namespace Evaluation

variable {α β : Type}

/-- Goes on after a strict run, which a relaxed one may leave behind but never overtake. -/
structure Tolerates (first second : Evaluation α) : Prop where
  ended : ∀ strict other, strict.SameButPolicy other → RelaxedEnd (first strict) (second other)
  writes : ∀ store, store.writes.toList <+: (second store).2.writes.toList

theorem Tolerates.of_unchanged {body : Evaluation α} {outcome : Outcome α}
    (ends : ∀ store, body store = (outcome, store)) : body.Tolerates body where
  ended := by
    intro strict other same
    rw [ends strict, ends other]
    exact .same outcome same
  writes := by
    intro store
    rw [ends store]

theorem bind_writes {first : Evaluation α} {next : α → Evaluation β}
    (former : ∀ store, store.writes.toList <+: (first store).2.writes.toList)
    (latter : ∀ result store, store.writes.toList <+: (next result store).2.writes.toList)
    (store : Store) :
    (first store).2.writes.toList <+: ((first >>= next) store).2.writes.toList ∧
      store.writes.toList <+: ((first >>= next) store).2.writes.toList := by
  have begun := former store
  suffices later : (first store).2.writes.toList <+:
      ((first >>= next) store).2.writes.toList from ⟨later, begun.trans later⟩
  rcases ends : first store with ⟨outcome, middle⟩
  cases outcome with
  | value result =>
      rw [bind_of_value store _ ends]
      exact latter result middle
  | returning origin result =>
      rw [bind_of_returning store _ ends]
  | failed failure =>
      rw [bind_of_failed store _ ends]
  | exhausted =>
      rw [bind_of_exhausted store _ ends]

theorem Tolerates.bind {first second : Evaluation α} {next nextTwin : α → Evaluation β}
    (former : first.Tolerates second) (latter : ∀ result, (next result).Tolerates (nextTwin result)) :
    (first >>= next).Tolerates (second >>= nextTwin) where
  writes := fun store => (bind_writes former.writes (fun result => (latter result).writes) store).2
  ended := by
    intro strict other same
    have further := (bind_writes former.writes (fun result => (latter result).writes) other).1
    have ended := former.ended strict other same
    rcases ends : first strict with ⟨outcome, after⟩
    rcases endsTwin : second other with ⟨twin, afterTwin⟩
    rw [ends, endsTwin] at ended
    rw [endsTwin] at further
    cases ended with
    | refused _ refusal written =>
        rw [bind_of_failed strict _ ends]
        exact .refused _ refusal (written.trans further)
    | same _ sameAfter =>
        cases outcome with
        | value result =>
            rw [bind_of_value strict _ ends, bind_of_value other _ endsTwin]
            exact (latter result).ended after afterTwin sameAfter
        | returning origin result =>
            rw [bind_of_returning strict _ ends, bind_of_returning other _ endsTwin]
            exact .same _ sameAfter
        | failed failure =>
            rw [bind_of_failed strict _ ends, bind_of_failed other _ endsTwin]
            exact .same _ sameAfter
        | exhausted =>
            rw [bind_of_exhausted strict _ ends, bind_of_exhausted other _ endsTwin]
            exact .same _ sameAfter

theorem Tolerates.review {first second : Evaluation Value} {view : Outcome Value → Outcome Value}
    (failures : ∀ failure, view (.failed failure) = .failed failure)
    (tolerates : first.Tolerates second) : (first.review view).Tolerates (second.review view) where
  writes := tolerates.writes
  ended := by
    intro strict other same
    have ended := tolerates.ended strict other same
    simp only [Evaluation.review]
    generalize first strict = ends, second other = endsTwin at ended
    cases ended with
    | same outcome sameAfter => exact .same _ sameAfter
    | refused twin refusal written =>
        rw [failures]
        exact .refused _ refusal written

theorem Tolerates.step {body : Evaluation α} (step : body.IsStep) : body.Tolerates body := by
  cases step with
  | pure result => exact .of_unchanged fun store => rfl
  | returning result => exact .of_unchanged fun store => rfl
  | fault fault => exact .of_unchanged fun store => rfl
  | failAt position cause => exact .of_unchanged fun store => rfl
  | exhausted => exact .of_unchanged fun store => rfl
  | ofExcept result =>
      cases result with
      | ok value => exact .of_unchanged fun store => rfl
      | error failure => exact .of_unchanged fun store => rfl
  | resolve scope position name =>
      refine ⟨?_, ?_⟩
      · intro strict other same
        obtain ⟨outcome, ends, endsTwin⟩ :=
          resolve_congr scope position name same.scopes same.registry
        rw [ends, endsTwin]
        exact .same _ same
      · intro store
        obtain ⟨outcome, ends, _⟩ :=
          resolve_congr scope position name (Eq.refl store.scopes) (Eq.refl store.registry)
        rw [ends]
  | bindName scope position name value =>
      cases unit : value.isUnit with
      | true =>
          exact .of_unchanged fun store => bindName_of_unit scope position name store unit
      | false =>
          refine ⟨?_, ?_⟩
          · intro strict other same
            rw [bindName_of_plain scope position name strict unit,
              bindName_of_plain scope position name other unit]
            exact .same _ (same.assign scope name value)
          · intro store
            rw [bindName_of_plain scope position name store unit]
            exact List.prefix_refl _
  | array elements =>
      refine ⟨?_, fun store => List.prefix_refl _⟩
      intro strict other same
      have made := same.addArray elements
      rw [make_apply, make_apply, made.1]
      exact .same _ made.2
  | function closure =>
      refine ⟨?_, fun store => List.prefix_refl _⟩
      intro strict other same
      have made := same.addFunction closure
      rw [make_apply, make_apply, made.1]
      exact .same _ made.2
  | write sink texts =>
      refine ⟨fun strict other same => .same _ (same.write sink texts), ?_⟩
      exact fun store => (store.extends_write sink texts).writes

end Evaluation

open Evaluation

theorem tolerates_congruence : Congruence fun _ => Tolerates where
  step := .step
  bind := .bind
  review := fun failures _ => .review failures

theorem enter_writes (closure : Closure) (arguments : List Value) (position : Position)
    (store : Store) : (enter closure arguments position store).2.writes = store.writes := by
  by_cases refused : store.Refuses closure arguments
  · rw [enter_of_refused closure arguments position store refused]
    rfl
  · rw [enter_of_accepted closure arguments position store refused]
    rfl

theorem enter_tolerates (closure : Closure) (arguments : List Value) (position : Position) :
    (enter closure arguments position).Tolerates (enter closure arguments position) where
  ended := by
    intro strict other same
    obtain ⟨policy, _⟩ := same.settingsOf closure.scope
    by_cases fits : arguments.length = closure.parameters.length
    · have accepted (store : Store) : ¬store.Refuses closure arguments := fun refused =>
        refused.1 fits
      have entered := same.enterCall closure arguments
      rw [enter_of_accepted closure arguments position strict (accepted strict),
        enter_of_accepted closure arguments position other (accepted other), entered.1]
      exact .same _ entered.2
    · have written := enter_writes closure arguments position other
      rw [enter_of_refused closure arguments position strict ⟨fits, policy⟩]
      rcases ends : enter closure arguments position other with ⟨twin, afterTwin⟩
      rw [ends, same.writes] at written
      apply RelaxedEnd.refused twin ⟨_, _, _, rfl⟩
      rw [written]
      exact List.prefix_refl _
  writes := by
    intro store
    rw [enter_writes closure arguments position store]

def callAsStrict : BuiltinCall := fun name action arguments position caller store =>
  action.call name position arguments { store.settingsOf caller with policy := .strict } store

theorem callAsStrict_tolerates (name : String) (action : Action Value) (arguments : List Value)
    (position : Position) (caller : ScopeId) :
    (callAsStrict name action arguments position caller).Tolerates
      (callAsStrict name action arguments position caller) where
  ended := by
    intro strict other same
    have called := tolerates_congruence.call action name position arguments
      ⟨.strict, (strict.settingsOf caller).sink⟩
    have sinks := (same.settingsOf caller).2
    simp only [callAsStrict, sinks]
    exact called.ended strict other same
  writes := fun store => (tolerates_congruence.call action name position arguments _).writes store

theorem invokeBy_tolerates (depth : Nat) (callable : Callable) (arguments : List Value)
    (position : Position) (caller : ScopeId) :
    (invokeBy callAsStrict depth callable arguments position caller).Tolerates
      (invokeBy callAsStrict depth callable arguments position caller) := by
  induction depth generalizing callable arguments position caller with
  | zero =>
      cases callable with
      | builtin name action => exact callAsStrict_tolerates name action arguments position caller
      | function closure => exact .step .exhausted
  | succ depth ih =>
      cases callable with
      | builtin name action => exact callAsStrict_tolerates name action arguments position caller
      | function closure =>
          refine (enter_tolerates closure arguments position).bind fun scope => ?_
          exact tolerates_congruence.arrive (tolerates_congruence.evaluate ih closure.body)

def stockOnly : Discipline where
  part := Value.StockPart
  tree := fun _ => True
  failure := fun _ => True
  child := fun _ _ _ => trivial
  computed := fun computed => by cases computed <;> exact trivial
  unit := trivial
  number := fun _ => trivial
  counted := fun _ _ => trivial
  array := fun _ _ => trivial
  function := fun _ _ _ => trivial
  body := fun _ => trivial
  raised := fun _ _ => trivial
  refused := fun _ _ _ => trivial

theorem stock_call_eq {action : Action Value} (stock : action.isStock = true) (name : String)
    (position : Position) (arguments : List Value) (policy : ArityPolicy) (settings : Settings) :
    action.call name position arguments { settings with policy } =
      action.call name position arguments settings := by
  cases action with
  | constant | arguments | policy | write | fail | foreign => cases stock
  | _ => rfl

theorem stockOnly_agrees : stockOnly.contract.Agrees callAsStrict := by
  intro store identity name action values position scope _ builtin _
  have stock : action.isStock = true := builtin.part
  simp only [callAsStrict, stock_call_eq stock]

theorem evaluate_as_strict {store : Store} (stock : store.OnlyStock) (depth : Nat) (node : Node)
    (scope : ScopeId) :
    node.evaluate (invokeBy callAsStrict depth) scope store =
      node.evaluate (invokeWithin depth) scope store :=
  (Contract.evaluate_keeps (Contract.calls_within stockOnly_agrees depth) node store stock
    trivial).same

theorem evaluate_relaxedEnd {store : Store}
    (strict : ∀ settings ∈ store.settings, settings.policy = .strict) (stock : store.OnlyStock)
    (chosen : SettingsId → Bool) (depth : Nat) (node : Node) (scope : ScopeId) :
    RelaxedEnd (node.evaluate (invokeWithin depth) scope store)
      (node.evaluate (invokeWithin depth) scope (store.relax chosen)) := by
  have tolerates : (node.evaluate (invokeBy callAsStrict depth) scope).Tolerates
      (node.evaluate (invokeBy callAsStrict depth) scope) :=
    tolerates_congruence.evaluate (invokeBy_tolerates depth) node
  have relaxed : (store.relax chosen).OnlyStock := stock.of_same rfl rfl
  rw [← evaluate_as_strict stock, ← evaluate_as_strict relaxed]
  exact tolerates.ended store (store.relax chosen) (Store.sameButPolicy_relax strict chosen)

/-- The lenient policy is a conservative extension of the strict one: only a refused call can end
otherwise, and what was written before it is written then too. -/
theorem evaluate_relaxed {store : Store}
    (strict : ∀ settings ∈ store.settings, settings.policy = .strict) (stock : store.OnlyStock)
    (chosen : SettingsId → Bool) {node : Node} {scope : ScopeId} {outcome : Outcome Value}
    {after : Store} (ends : node.Ends scope store outcome after) :
    ((∀ failure, outcome = .failed failure → ¬failure.IsRefusal) →
      ∃ afterTwin, node.Ends scope (store.relax chosen) outcome afterTwin ∧
        after.SameButPolicy afterTwin) ∧
    ((∃ failure, outcome = .failed failure ∧ failure.IsRefusal) → ∀ twin afterTwin,
      node.Ends scope (store.relax chosen) twin afterTwin →
        after.writes.toList <+: afterTwin.writes.toList) := by
  obtain ⟨depth, settled⟩ := ends.at_depth
  refine ⟨?_, ?_⟩
  · intro accepted
    have ended := evaluate_relaxedEnd strict stock chosen depth node scope
    rw [settled depth (Nat.le_refl _)] at ended
    generalize same : node.evaluate (invokeWithin depth) scope (store.relax chosen) = endsTwin
      at ended
    cases ended with
    | same _ sameAfter => exact ⟨_, ⟨ends.1, depth, same⟩, sameAfter⟩
    | refused _ refusal _ => exact (accepted _ rfl refusal).elim
  · rintro _ twin afterTwin endsTwin
    obtain ⟨depthTwin, settledTwin⟩ := endsTwin.at_depth
    have ended := evaluate_relaxedEnd strict stock chosen (max depth depthTwin) node scope
    rw [settled _ (Nat.le_max_left _ _), settledTwin _ (Nat.le_max_right _ _)] at ended
    cases ended with
    | same _ sameAfter =>
        rw [sameAfter.writes]
    | refused _ _ written => exact written

theorem evaluate_relaxed_identity :
    let store := (Store.initial.addRoot .default).2
    let identity : Node := .function .start ["x"] (.identifier .start "x")
    let printing : Node := .call .start (.identifier .start "puts") [.integer .start 1]
    let given : Node := .call .start identity [.integer .start 5]
    let short : Node := .block .start [printing, .call .start identity []]
    let refusal : Failure := .error ⟨.functionArity 1 0, .start⟩
    (∀ settings ∈ store.settings, settings.policy = .strict) ∧ store.OnlyStock ∧
    (∃ after afterTwin, given.Ends 0 store (.value (.integer 5)) after ∧
      given.Ends 0 (store.relax fun _ => true) (.value (.integer 5)) afterTwin ∧
      after.SameButPolicy afterTwin) ∧
    ∃ after afterTwin, short.Ends 0 store (.failed refusal) after ∧
      short.Ends 0 (store.relax fun _ => true) (.value .null) afterTwin ∧
      after.writes.toList <+: afterTwin.writes.toList := by
  intro store identity printing given short refusal
  have strict : ∀ settings ∈ store.settings, settings.policy = .strict := by
    intro settings member
    have same : settings = .default := by
      simpa [store, Store.addRoot, Store.addSettings, Store.addScope, Store.initial,
        Store.clearOutput, Store.loadStock, Store.empty, stockBuiltins, Store.register,
        Store.freshIdentity, Store.record] using member
    rw [same]
    rfl
  have stock : store.OnlyStock := (Store.every_initial stockAllowed_stockPart).addRoot _
  obtain ⟨after, givenEnds⟩ : ∃ after, given.Ends 0 store (.value (.integer 5)) after :=
    ⟨_, by simp, 1, rfl⟩
  obtain ⟨refused, shortEnds⟩ : ∃ after, short.Ends 0 store (.failed refusal) after :=
    ⟨_, by simp, 1, rfl⟩
  obtain ⟨accepted, shortRelaxed⟩ : ∃ after,
      short.Ends 0 (store.relax fun _ => true) (.value .null) after := ⟨_, by simp, 1, rfl⟩
  have givenToo := (evaluate_relaxed strict stock (fun _ => true) givenEnds).1 fun _ same => by
    cases same
  have shorter := (evaluate_relaxed strict stock (fun _ => true) shortEnds).2
    ⟨refusal, rfl, 1, 0, .start, rfl⟩ _ _ shortRelaxed
  obtain ⟨afterTwin, relaxed, same⟩ := givenToo
  exact ⟨strict, stock, ⟨after, afterTwin, givenEnds, relaxed, same⟩, refused, accepted, shortEnds,
    shortRelaxed, shorter⟩

end MonkeyLang
