import MonkeyLang.Semantics

/-! What the single steps of an evaluation do to the store, and how they can end. -/

namespace MonkeyLang

namespace Evaluation

variable {α β : Type} (store : Store)

@[simp] theorem pure_apply (result : α) :
    (pure result : Evaluation α) store = (.value result, store) := rfl

theorem bind_apply (first : Evaluation α) (next : α → Evaluation β) :
    (first >>= next) store = first.andThen next store := rfl

theorem bind_of_value {first : Evaluation α} {result : α} {after : Store}
    (next : α → Evaluation β) (ends : first store = (.value result, after)) :
    (first >>= next) store = next result after := by
  rw [bind_apply, andThen, ends]

theorem bind_of_failed {first : Evaluation α} {failure : Failure} {after : Store}
    (next : α → Evaluation β) (ends : first store = (.failed failure, after)) :
    (first >>= next) store = (.failed failure, after) := by
  rw [bind_apply, andThen, ends]

theorem bind_of_returning {first : Evaluation α} {origin : Option Identity} {result : Value}
    {after : Store} (next : α → Evaluation β)
    (ends : first store = (.returning origin result, after)) :
    (first >>= next) store = (.returning origin result, after) := by
  rw [bind_apply, andThen, ends]

theorem bind_of_exhausted {first : Evaluation α} {after : Store} (next : α → Evaluation β)
    (ends : first store = (.exhausted, after)) :
    (first >>= next) store = (.exhausted, after) := by
  rw [bind_apply, andThen, ends]

theorem exists_of_bind_value {first : Evaluation α} {next : α → Evaluation β} {result : β}
    {after : Store} (ends : (first >>= next) store = (.value result, after)) :
    ∃ value middle, first store = (.value value, middle) ∧
      next value middle = (.value result, after) := by
  rcases former : first store with ⟨outcome, middle⟩
  cases outcome with
  | value value =>
      rw [bind_of_value store next former] at ends
      exact ⟨value, middle, rfl, ends⟩
  | returning origin held => simp [bind_of_returning store next former] at ends
  | failed failure => simp [bind_of_failed store next former] at ends
  | exhausted => simp [bind_of_exhausted store next former] at ends

@[simp] theorem read_apply (view : Store → α) :
    Evaluation.read view store = (.value (view store), store) := rfl

@[simp] theorem update_apply (change : Store → Store) :
    Evaluation.update change store = (.value (), change store) := rfl

@[simp] theorem make_apply (construct : Store → α × Store) :
    Evaluation.make construct store = (.value (construct store).1, (construct store).2) := rfl

@[simp] theorem failAt_apply (position : Position) (cause : Cause) :
    (Evaluation.failAt position cause : Evaluation α) store =
      (.failed (.error ⟨cause, position⟩), store) := rfl

@[simp] theorem fault_apply (fault : Fault) :
    (Evaluation.fault fault : Evaluation α) store = (.failed (.fault fault), store) := rfl

@[simp] theorem yield_apply (value : Value) :
    Evaluation.yield value store = (.ofValue value, store) := rfl

@[simp] theorem ofExcept_ok (value : Value) :
    Evaluation.ofExcept (.ok value) store = (.ofValue value, store) := rfl

@[simp] theorem ofExcept_error (failure : Failure) :
    Evaluation.ofExcept (.error failure) store = (.failed failure, store) := rfl

end Evaluation

namespace Store

theorem chainFrom_congr {store other : Store} (scopes : other.scopes = store.scopes) (steps : Nat)
    (scope : ScopeId) : other.chainFrom steps scope = store.chainFrom steps scope := by
  induction steps generalizing scope with
  | zero => rfl
  | succ steps ih =>
      have parents : other.parent? scope = store.parent? scope := by
        simp only [parent?, scopes]
      simp only [chainFrom, parents]
      cases store.parent? scope with
      | none => rfl
      | some parent => simp only [ih]

theorem lookup_congr {store other : Store} (scopes : other.scopes = store.scopes) (scope : ScopeId)
    (name : String) : other.lookup scope name = store.lookup scope name := by
  have bindings (id : ScopeId) : other.binding? id name = store.binding? id name := by
    simp only [binding?, scopes]
  simp only [lookup, chain, chainFrom_congr scopes, bindings]

end Store

section Names

variable (scope : ScopeId) (position : Position) (name : String) (store : Store)

theorem resolve_of_lookup {value : Value} (found : store.lookup scope name = some value) :
    resolve scope position name store = (.ofValue value, store) := by
  simp only [resolve, Evaluation.bind_of_value store _ (Evaluation.read_apply store _), found,
    Evaluation.yield_apply]

theorem resolve_of_builtin {builtin : Builtin} (unbound : store.lookup scope name = none)
    (found : store.builtin? name = some builtin) :
    resolve scope position name store = (.value builtin.value, store) := by
  simp only [resolve, Evaluation.bind_of_value store _ (Evaluation.read_apply store _), unbound,
    found, Evaluation.pure_apply]

theorem resolve_of_none (unbound : store.lookup scope name = none)
    (missing : store.builtin? name = none) :
    resolve scope position name store =
      (.failed (.error ⟨.undeclared name, position⟩), store) := by
  simp only [resolve, Evaluation.bind_of_value store _ (Evaluation.read_apply store _), unbound,
    missing, Evaluation.failAt_apply]

theorem bindName_of_unit {value : Value} (unit : value.isUnit = true) :
    bindName scope position name value store =
      (.failed (.error ⟨.unitBinding, position⟩), store) := by
  simp [bindName, unit]

theorem bindName_of_plain {value : Value} (plain : value.isUnit = false) :
    bindName scope position name value store =
      (.value value, store.assign scope name value) := by
  simp [bindName, plain, Evaluation.bind_of_value store _ (Evaluation.update_apply store _)]

end Names

theorem resolve_congr {store other : Store} (scope : ScopeId) (position : Position) (name : String)
    (scopes : other.scopes = store.scopes) (registry : other.registry = store.registry) :
    ∃ outcome, resolve scope position name store = (outcome, store) ∧
      resolve scope position name other = (outcome, other) := by
  have lookups := Store.lookup_congr scopes scope name
  have builtins : other.builtin? name = store.builtin? name := by
    simp only [Store.builtin?, registry]
  cases bound : store.lookup scope name with
  | some value =>
      exact ⟨_, resolve_of_lookup scope position name store bound,
        resolve_of_lookup scope position name other (lookups.trans bound)⟩
  | none =>
      cases registered : store.builtin? name with
      | some builtin =>
          exact ⟨_, resolve_of_builtin scope position name store bound registered,
            resolve_of_builtin scope position name other (lookups.trans bound)
              (builtins.trans registered)⟩
      | none =>
          exact ⟨_, resolve_of_none scope position name store bound registered,
            resolve_of_none scope position name other (lookups.trans bound)
              (builtins.trans registered)⟩

section Calls

def Store.logCall (store : Store) (closure : Closure) (arguments : List Value) : Store :=
  store.record (.calling closure.parameters.length arguments.length
    (store.settingsOf closure.scope).policy)

def Store.enterCall (store : Store) (closure : Closure) (arguments : List Value) :
    ScopeId × Store :=
  (store.logCall closure arguments).addChild closure.scope
    (bindParameters .empty closure.parameters arguments)

def Store.Refuses (store : Store) (closure : Closure) (arguments : List Value) : Prop :=
  arguments.length ≠ closure.parameters.length ∧
    (store.settingsOf closure.scope).policy = .strict

variable (closure : Closure) (arguments : List Value) (position : Position) (store : Store)

theorem enter_of_refused (refused : store.Refuses closure arguments) :
    enter closure arguments position store =
      (.failed (.error ⟨.functionArity closure.parameters.length arguments.length, position⟩),
        store.logCall closure arguments) := by
  simp only [enter, Evaluation.bind_of_value store _ (Evaluation.read_apply store _),
    Evaluation.bind_of_value store _ (Evaluation.update_apply store _)]
  have mismatch : arguments.length ≠ closure.parameters.length ∧
      (store.settingsOf closure.scope).policy = .strict := refused
  rw [if_pos mismatch]
  rfl

theorem enter_of_accepted (accepted : ¬store.Refuses closure arguments) :
    enter closure arguments position store =
      (.value (store.enterCall closure arguments).1, (store.enterCall closure arguments).2) := by
  simp only [enter, Evaluation.bind_of_value store _ (Evaluation.read_apply store _),
    Evaluation.bind_of_value store _ (Evaluation.update_apply store _)]
  have suited : ¬(arguments.length ≠ closure.parameters.length ∧
      (store.settingsOf closure.scope).policy = .strict) := accepted
  rw [if_neg suited]
  rfl

end Calls

section Operators

inductive Value.Computed : Value → Prop
  | null : Computed .null
  | boolean (flag : Bool) : Computed (.boolean flag)
  | wrapped (number : Int) : Computed (.integer (wrap number))
  | string (text : String) : Computed (.string text)

/-- How applying an operator can end, `known` saying whether there is such an operator. -/
inductive Applied (known : Prop) (position : Position) : Except Failure Value → Prop
  | computed {value : Value} : value.Computed → Applied known position (.ok value)
  | erred (cause : Cause) : Applied known position (.error (.error ⟨cause, position⟩))
  | unknown {fault : Fault} : ¬known → (∀ zero, fault ≠ .zeroDivisor zero) →
      Applied known position (.error (.fault fault))

variable {known : Prop} {position : Position} {result : Value}

theorem Applied.computed_of_ok (applied : Applied known position (.ok result)) :
    result.Computed := by
  cases applied with
  | computed computed => exact computed

theorem Applied.not_fault {fault : Fault}
    (applied : Applied known position (.error (.fault fault))) : ¬known := by
  cases applied with
  | unknown unknown other => exact unknown

theorem Applied.ne_zeroDivisor {applied : Except Failure Value}
    (applies : Applied known position applied) (zero : ZeroDivisor) :
    applied ≠ .error (.fault (.zeroDivisor zero)) := by
  rintro rfl
  cases applies with
  | unknown unknown other => exact other zero rfl

variable (operator : String) (position : Position)

theorem applyUnary_applied (operand : Value) :
    Applied (UnaryOperator.ofSymbol? operator ≠ none) position
      (applyUnary operator position operand) := by
  simp only [applyUnary]
  split
  · exact .computed (.boolean _)
  · split
    · exact .computed (.wrapped _)
    · exact .computed .null
    · exact .erred _
  · rename_i unknown
    exact .unknown (not_not_intro unknown) (by simp)

theorem applyToIntegers_applied (left right : Int) :
    Applied (BinaryOperator.ofSymbol? operator ≠ none) position
      (applyToIntegers operator position left right) := by
  simp only [applyToIntegers]
  split
  case h_4 =>
    by_cases zero : right = 0
    · simp only [zero, if_true]
      exact .erred _
    · simp only [zero, if_false, quotient]
      exact .computed (.wrapped _)
  case h_9 =>
    rename_i unknown
    exact .unknown (not_not_intro unknown) (by simp)
  all_goals
    apply Applied.computed
    constructor

theorem applyToStrings_applied (left right : String) :
    Applied known position (applyToStrings operator position left right) := by
  simp only [applyToStrings]
  split
  case h_1 => exact .computed (.string _)
  case h_2 => exact .computed (.boolean _)
  case h_3 => exact .computed (.boolean _)
  case h_4 => exact .computed (.boolean _)
  case h_5 => exact .computed (.boolean _)
  all_goals exact .erred _

theorem unsupported_applied (left right : Value) :
    Applied known position (unsupported operator position left right) := by
  simp only [unsupported]
  split
  · exact .erred _
  · exact .erred _

theorem applyToMixed_applied (left right : Value) :
    Applied known position (applyToMixed operator position left right) := by
  simp only [applyToMixed]
  split
  case h_1 =>
    split
    · exact .computed .null
    · split
      · exact .computed (.string _)
      · exact unsupported_applied operator position left right
  case h_5 => exact .computed (.boolean _)
  case h_6 => exact .computed (.boolean _)
  case h_7 => exact unsupported_applied operator position left right
  case h_8 => exact unsupported_applied operator position left right
  case h_9 => exact unsupported_applied operator position left right
  all_goals
    split
    · exact .computed .null
    · exact unsupported_applied operator position left right

theorem applyBinary_applied (left right : Value) :
    Applied (BinaryOperator.ofSymbol? operator ≠ none) position
      (applyBinary operator position left right) := by
  simp only [applyBinary]
  split
  · exact applyToIntegers_applied operator position _ _
  · exact applyToStrings_applied operator position _ _
  · exact applyToMixed_applied operator position left right

variable {position}

theorem elementAt_mem {elements : List Value} {index : Value}
    (applied : elementAt elements position index = .ok result) : result ∈ elements := by
  simp only [elementAt, failAt] at applied
  split at applied
  · split at applied
    · rename_i found
      cases applied
      split at found
      · exact List.mem_of_getElem? found
      · simp at found
    · cases applied
  · cases applied

theorem elementAt_ne_fault {elements : List Value} {position : Position} {index : Value}
    {fault : Fault} : elementAt elements position index ≠ .error (.fault fault) := by
  intro applied
  simp only [elementAt, failAt] at applied
  split at applied
  · split at applied <;> cases applied
  · cases applied

end Operators

section Builtins

inductive Value.Handed (arguments : List Value) : Value → Prop
  | null : Handed arguments .null
  | argument {value : Value} : value ∈ arguments → Handed arguments value
  | element {identity : Identity} {elements : List Value} {value : Value} :
      .array identity elements ∈ arguments → value ∈ elements → Handed arguments value

inductive Action.Effect (action : Action Value) (name : String) (position : Position)
    (arguments : List Value) (settings : Settings) (store : Store) : Outcome Value × Store → Prop
  | handed {value : Value} : value.Handed arguments → value.isPending = false →
      Effect action name position arguments settings store (.value value, store)
  | counted (number : Nat) : action = .len →
      Effect action name position arguments settings store (.value (.integer number), store)
  | held {value : Value} : action = .constant value → value.isPending = false →
      Effect action name position arguments settings store (.value value, store)
  | named (text : String) :
      Effect action name position arguments settings store (.value (.string text), store)
  | made {elements : List Value} : (∀ element ∈ elements, element.Handed arguments) →
      Effect action name position arguments settings store
        (.value (store.addArray elements).1, (store.addArray elements).2)
  | wrote (texts : List String) :
      Effect action name position arguments settings store
        (.value .unit, store.write settings.sink texts)
  | erred (cause : Cause) :
      Effect action name position arguments settings store
        (.failed (.error ⟨cause, position⟩), store)
  | refused {value : Value} : value.Handed arguments ∨ action = .constant value →
      value.isPending = true →
      Effect action name position arguments settings store
        (.failed (.fault (.notValue name value.type.name)), store)
  | foreign (typeName : String) : action = .foreign typeName →
      Effect action name position arguments settings store
        (.failed (.fault (.notValue name typeName)), store)

variable {arguments : List Value} {position : Position} {settings : Settings} {store : Store}

theorem argument_null_or_mem (arguments : List Value) (index : Nat) :
    arguments.getD index .null = .null ∨ arguments.getD index .null ∈ arguments := by
  rw [List.getD_eq_getElem?_getD]
  cases found : arguments[index]? with
  | none => exact Or.inl rfl
  | some value => exact Or.inr (List.mem_of_getElem? found)

theorem Value.Handed.getD (index : Nat) : (arguments.getD index .null).Handed arguments := by
  rcases argument_null_or_mem arguments index with absent | member
  · rw [absent]
    exact .null
  · exact .argument member

theorem checkArity_cases (name : String) (position : Position) (expected : Int) (actual : Nat)
    (store : Store) :
    checkArity name position expected actual store = (.value (), store) ∨
      checkArity name position expected actual store =
        (.failed (.error ⟨.builtinArity name expected actual, position⟩), store) := by
  by_cases fits : expected = actual
  · simp [checkArity, fits]
  · simp [checkArity, fits]

theorem elementsOf_cases (name : String) (position : Position) {value : Value}
    (available : value = .null ∨ value ∈ arguments) (store : Store) :
    (∃ elements, (∀ element ∈ elements, element.Handed arguments) ∧
      elementsOf name position value store = (.value elements, store)) ∨
    ∃ cause, elementsOf name position value store =
      (.failed (.error ⟨cause, position⟩), store) := by
  rcases available with absent | member
  · subst absent
    exact Or.inr ⟨_, rfl⟩
  · cases value with
    | array identity elements =>
        exact Or.inl ⟨elements, fun _ inside => .element member inside, rfl⟩
    | _ => exact Or.inr ⟨_, rfl⟩

theorem arrayArgument_cases (name : String) (position : Position) (expected : Int)
    (arguments : List Value) (store : Store) :
    (∃ elements, (∀ element ∈ elements, element.Handed arguments) ∧
      arrayArgument name position expected arguments store = (.value elements, store)) ∨
    ∃ cause, arrayArgument name position expected arguments store =
      (.failed (.error ⟨cause, position⟩), store) := by
  rcases checkArity_cases name position expected arguments.length store with fits | differs
  · simp only [arrayArgument, Evaluation.bind_of_value store _ fits]
    exact elementsOf_cases name position (argument_null_or_mem arguments 0) store
  · exact Or.inr ⟨_, Evaluation.bind_of_failed store _ differs⟩

theorem lengthOf_cases (position : Position) (value : Value) (store : Store) :
    (∃ number : Nat, lengthOf position value store = (.value (.integer number), store)) ∨
      ∃ cause, lengthOf position value store = (.failed (.error ⟨cause, position⟩), store) := by
  cases value with
  | string text => exact Or.inl ⟨text.length, rfl⟩
  | array identity elements => exact Or.inl ⟨elements.length, rfl⟩
  | _ => exact Or.inr ⟨_, rfl⟩

section Call

variable {action : Action Value} {name : String} {result : Value} {after : Store}

theorem call_of_plain (plain : result.isPending = false)
    (performed : action.perform name position arguments settings store = (.value result, after)) :
    action.call name position arguments settings store = (.value result, after) := by
  simp [Action.call, Evaluation.bind_of_value store _ performed, acceptResult, plain]

theorem call_of_pending (pending : result.isPending = true)
    (performed : action.perform name position arguments settings store = (.value result, after)) :
    action.call name position arguments settings store =
      (.failed (.fault (.notValue name result.type.name)), after) := by
  simp [Action.call, Evaluation.bind_of_value store _ performed, acceptResult, pending]

theorem effect_of_failed {cause : Cause}
    (performed : action.perform name position arguments settings store =
      (.failed (.error ⟨cause, position⟩), store)) :
    action.Effect name position arguments settings store
      (action.call name position arguments settings store) := by
  rw [Action.call, Evaluation.bind_of_failed store _ performed]
  exact .erred cause

theorem effect_of_result (source : result.Handed arguments ∨ action = .constant result)
    (performed : action.perform name position arguments settings store = (.value result, store)) :
    action.Effect name position arguments settings store
      (action.call name position arguments settings store) := by
  cases pending : result.isPending with
  | true =>
      rw [call_of_pending pending performed]
      exact .refused source pending
  | false =>
      rw [call_of_plain pending performed]
      rcases source with handed | held
      · exact .handed handed pending
      · exact .held held pending

theorem effect_of_array {elements : List Value}
    (handed : ∀ element ∈ elements, element.Handed arguments)
    (performed : action.perform name position arguments settings store =
      (.value (store.addArray elements).1, (store.addArray elements).2)) :
    action.Effect name position arguments settings store
      (action.call name position arguments settings store) := by
  rw [call_of_plain rfl performed]
  exact .made handed

end Call

theorem handed_head {elements : List Value}
    (handed : ∀ element ∈ elements, element.Handed arguments) :
    (elements.head?.getD .null).Handed arguments := by
  cases elements with
  | nil => exact .null
  | cons first rest => exact handed first (by simp)

theorem handed_getLast {elements : List Value}
    (handed : ∀ element ∈ elements, element.Handed arguments) :
    (elements.getLast?.getD .null).Handed arguments := by
  cases found : elements.getLast? with
  | none => exact .null
  | some last => exact handed last (List.mem_of_getLast? found)

theorem Action.call_effect (action : Action Value) (name : String) (position : Position)
    (arguments : List Value) (settings : Settings) (store : Store) :
    action.Effect name position arguments settings store
      (action.call name position arguments settings store) := by
  cases action with
  | len =>
      rcases checkArity_cases "len" position 1 arguments.length store with fits | differs
      · have performed : (Action.len).perform name position arguments settings store =
            lengthOf position (arguments.getD 0 .null) store :=
          Evaluation.bind_of_value store _ fits
        rcases lengthOf_cases position (arguments.getD 0 .null) store with counted | erred
        · obtain ⟨number, ends⟩ := counted
          rw [call_of_plain rfl (performed.trans ends)]
          exact .counted number rfl
        · obtain ⟨cause, ends⟩ := erred
          exact effect_of_failed (performed.trans ends)
      · exact effect_of_failed (Evaluation.bind_of_failed store _ differs)
  | first =>
      rcases arrayArgument_cases "first" position 1 arguments store with found | erred
      · obtain ⟨elements, handed, ends⟩ := found
        exact effect_of_result (Or.inl (handed_head handed)) (Evaluation.bind_of_value store _ ends)
      · obtain ⟨cause, ends⟩ := erred
        exact effect_of_failed (Evaluation.bind_of_failed store _ ends)
  | last =>
      rcases arrayArgument_cases "last" position 1 arguments store with found | erred
      · obtain ⟨elements, handed, ends⟩ := found
        exact effect_of_result (Or.inl (handed_getLast handed))
          (Evaluation.bind_of_value store _ ends)
      · obtain ⟨cause, ends⟩ := erred
        exact effect_of_failed (Evaluation.bind_of_failed store _ ends)
  | rest =>
      rcases arrayArgument_cases "rest" position 1 arguments store with found | erred
      · obtain ⟨elements, handed, ends⟩ := found
        have performed : (Action.rest).perform name position arguments settings store =
            restOf elements store := Evaluation.bind_of_value store _ ends
        cases elements with
        | nil => exact effect_of_result (Or.inl .null) performed
        | cons first rest =>
            exact effect_of_array (fun element member => handed element (by simp [member]))
              performed
      · obtain ⟨cause, ends⟩ := erred
        exact effect_of_failed (Evaluation.bind_of_failed store _ ends)
  | push =>
      rcases arrayArgument_cases "push" position 2 arguments store with found | erred
      · obtain ⟨elements, handed, ends⟩ := found
        refine effect_of_array ?_ (Evaluation.bind_of_value store _ ends)
        intro element member
        rcases List.mem_append.mp member with old | added
        · exact handed element old
        · rw [List.mem_singleton.mp added]
          exact .getD 1
      · obtain ⟨cause, ends⟩ := erred
        exact effect_of_failed (Evaluation.bind_of_failed store _ ends)
  | puts =>
      rw [call_of_plain rfl (Evaluation.bind_of_value store _ (Evaluation.update_apply store _))]
      exact .wrote _
  | constant value => exact effect_of_result (Or.inr rfl) rfl
  | arguments => exact effect_of_array (fun _ member => .argument member) rfl
  | policy =>
      rw [call_of_plain rfl (Evaluation.pure_apply store _)]
      exact .named _
  | write text =>
      rw [call_of_plain rfl (Evaluation.bind_of_value store _ (Evaluation.update_apply store _))]
      exact .wrote _
  | fail kind message => exact effect_of_failed rfl
  | foreign typeName => exact .foreign typeName rfl

theorem Action.call_ne_zeroDivisor {action : Action Value} {name : String} {after : Store}
    {zero : ZeroDivisor} : action.call name position arguments settings store ≠
      (.failed (.fault (.zeroDivisor zero)), after) := by
  intro called
  have effect := action.call_effect name position arguments settings store
  rw [called] at effect
  cases effect

theorem invokeWithin_builtin (depth : Nat) (name : String) (action : Action Value)
    (arguments : List Value) (position : Position) (caller : ScopeId) (store : Store) :
    invokeWithin depth (.builtin name action) arguments position caller store =
      action.call name position arguments (store.settingsOf caller) store := by
  cases depth <;> rfl

/-- Induction over the depth of calls. -/
theorem invokeWithin_induct {good : Evaluation Value → Prop} (exhausted : good .exhausted)
    (builtin : ∀ name (action : Action Value) arguments position (caller : ScopeId),
      good fun store => action.call name position arguments (store.settingsOf caller) store)
    (function : ∀ invoke : Invoke,
      (∀ callable arguments position caller, good (invoke callable arguments position caller)) →
      ∀ closure arguments position, good (enter closure arguments position >>= fun scope =>
        .arrive (closure.body.evaluate invoke scope)))
    (depth : Nat) (callable : Callable) (arguments : List Value) (position : Position)
    (caller : ScopeId) : good (invokeWithin depth callable arguments position caller) := by
  induction depth generalizing callable arguments position caller with
  | zero =>
      cases callable with
      | builtin name action => exact builtin name action arguments position caller
      | function closure => exact exhausted
  | succ depth ih =>
      cases callable with
      | builtin name action => exact builtin name action arguments position caller
      | function closure => exact function (invokeWithin depth) ih closure arguments position

end Builtins

end MonkeyLang
