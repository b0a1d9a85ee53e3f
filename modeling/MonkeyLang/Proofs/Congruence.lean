import MonkeyLang.Proofs.Primitive
import MonkeyLang.Proofs.Tree

/-! Relations between evaluations that composing them keeps. If the single steps are related to
themselves and two ways of making calls are related to each other, evaluating a tree with the one is
related to evaluating it with the other. -/

namespace MonkeyLang

/-- The single steps that evaluations are composed of, calls apart. -/
inductive Evaluation.IsStep : {α : Type} → Evaluation α → Prop
  | pure {α : Type} (result : α) : IsStep (Pure.pure result : Evaluation α)
  | returning {α : Type} (result : Value) : IsStep (Evaluation.returning result : Evaluation α)
  | fault {α : Type} (fault : Fault) : IsStep (Evaluation.fault fault : Evaluation α)
  | failAt {α : Type} (position : Position) (cause : Cause) :
      IsStep (Evaluation.failAt position cause : Evaluation α)
  | exhausted {α : Type} : IsStep (Evaluation.exhausted : Evaluation α)
  | ofExcept (result : Except Failure Value) : IsStep (Evaluation.ofExcept result)
  | resolve (scope : ScopeId) (position : Position) (name : String) :
      IsStep (MonkeyLang.resolve scope position name)
  | bindName (scope : ScopeId) (position : Position) (name : String) (value : Value) :
      IsStep (MonkeyLang.bindName scope position name value)
  | array (elements : List Value) : IsStep (.make (·.addArray elements))
  | function (closure : Closure) : IsStep (.make (·.addFunction closure))
  | write (sink : Sink) (texts : List String) : IsStep (.update (·.write sink texts))

def Outcome.arrived : Outcome Value → Outcome Value
  | .returning _ result => .ofValue result
  | ended => ended

def Outcome.concluded : Outcome Value → Outcome Value
  | .returning _ (.pendingReturn _ _) => .failed (.fault .nestedReturn)
  | .returning _ result => .value result
  | ended => ended

namespace Evaluation

def review (view : Outcome Value → Outcome Value) (body : Evaluation Value) : Evaluation Value :=
  fun store => (view (body store).1, (body store).2)

theorem arrive_eq_review (body : Evaluation Value) : arrive body = review Outcome.arrived body := by
  funext store
  rcases ends : body store with ⟨outcome, after⟩
  cases outcome <;> simp only [arrive, review, ends, Outcome.arrived]

theorem conclude_eq_review (body : Evaluation Value) :
    conclude body = review Outcome.concluded body := by
  funext store
  rcases ends : body store with ⟨outcome, after⟩
  cases outcome with
  | returning origin result =>
      cases result <;> simp only [conclude, review, ends, Outcome.concluded]
  | _ => simp only [conclude, review, ends, Outcome.concluded]

end Evaluation

structure Congruence (related : (α : Type) → Evaluation α → Evaluation α → Prop) : Prop where
  step {α : Type} {body : Evaluation α} : body.IsStep → related α body body
  bind {α β : Type} {first second : Evaluation α} {next nextTwin : α → Evaluation β} :
    related α first second → (∀ result, related β (next result) (nextTwin result)) →
    related β (first >>= next) (second >>= nextTwin)
  review {first second : Evaluation Value} {view : Outcome Value → Outcome Value} :
    (∀ failure, view (.failed failure) = .failed failure) → view .exhausted = .exhausted →
    related Value first second → related Value (first.review view) (second.review view)

namespace Congruence

variable {related : (α : Type) → Evaluation α → Evaluation α → Prop}
  (congruence : Congruence related) {invoke invokeTwin : Invoke} {scope : ScopeId}
include congruence

theorem arrive {first second : Evaluation Value} (alike : related Value first second) :
    related Value (.arrive first) (.arrive second) := by
  rw [Evaluation.arrive_eq_review, Evaluation.arrive_eq_review]
  exact congruence.review (fun _ => rfl) rfl alike

theorem conclude {first second : Evaluation Value} (alike : related Value first second) :
    related Value (.conclude first) (.conclude second) := by
  rw [Evaluation.conclude_eq_review, Evaluation.conclude_eq_review]
  exact congruence.review (fun _ => rfl) rfl alike

theorem evaluateEach {nodes : List Node}
    (each : ∀ node ∈ nodes,
      related Value (node.evaluate invoke scope) (node.evaluate invokeTwin scope)) :
    related (List Value) (evaluateEach invoke scope nodes)
      (evaluateEach invokeTwin scope nodes) := by
  induction nodes with
  | nil =>
      simp only [MonkeyLang.evaluateEach]
      exact congruence.step (.pure _)
  | cons node rest ih =>
      simp only [MonkeyLang.evaluateEach]
      apply congruence.bind (each node (by simp))
      intro value
      apply congruence.bind (ih fun node member => each node (by simp [member]))
      intro values
      exact congruence.step (.pure _)

theorem evaluateSequence {nodes : List Node} (last : Value)
    (each : ∀ node ∈ nodes,
      related Value (node.evaluate invoke scope) (node.evaluate invokeTwin scope)) :
    related Value (evaluateSequence invoke scope last nodes)
      (evaluateSequence invokeTwin scope last nodes) := by
  induction nodes generalizing last with
  | nil =>
      simp only [MonkeyLang.evaluateSequence]
      exact congruence.step (.pure _)
  | cons node rest ih =>
      simp only [MonkeyLang.evaluateSequence]
      apply congruence.bind (each node (by simp))
      intro value
      exact ih value fun node member => each node (by simp [member])

theorem evaluate
    (calls : ∀ callable arguments position caller,
      related Value (invoke callable arguments position caller)
        (invokeTwin callable arguments position caller))
    (node : Node) :
    related Value (node.evaluate invoke scope) (node.evaluate invokeTwin scope) := by
  induction node using Node.induct_children with
  | step node ih =>
  cases node with
  | missing => exact congruence.step (.fault _)
  | program position statements =>
      exact congruence.conclude (congruence.evaluateSequence .null ih)
  | block position statements => exact congruence.evaluateSequence .null ih
  | expressionStatement position expression => exact ih expression (by simp [Node.children])
  | letStatement position name value =>
      apply congruence.bind (ih value (by simp [Node.children]))
      intro bound
      exact congruence.step (.bindName scope position name bound)
  | returnStatement position value =>
      apply congruence.bind (ih value (by simp [Node.children]))
      intro result
      exact congruence.step (.returning result)
  | identifier position name => exact congruence.step (.resolve scope position name)
  | integer position number => exact congruence.step (.pure _)
  | boolean position flag => exact congruence.step (.pure _)
  | string position text => exact congruence.step (.pure _)
  | null position => exact congruence.step (.pure _)
  | unit position => exact congruence.step (.pure _)
  | array position elements =>
      apply congruence.bind (congruence.evaluateEach ih)
      intro values
      exact congruence.step (.array values)
  | index position base chosen =>
      apply congruence.bind (ih base (by simp [Node.children]))
      intro found
      cases found with
      | array identity elements =>
          apply congruence.bind (ih chosen (by simp [Node.children]))
          intro value
          exact congruence.step (.ofExcept _)
      | _ => exact congruence.step (.failAt _ _)
  | unary position operator operand =>
      apply congruence.bind (ih operand (by simp [Node.children]))
      intro value
      exact congruence.step (.ofExcept _)
  | binary position operator left right =>
      apply congruence.bind (ih left (by simp [Node.children]))
      intro leftValue
      apply congruence.bind (ih right (by simp [Node.children]))
      intro rightValue
      exact congruence.step (.ofExcept _)
  | conditional position condition consequence alternative =>
      apply congruence.bind (ih condition (by simp [Node.children]))
      intro decision
      by_cases truthy : decision.isTruthy = true
      · simp only [truthy, if_true]
        exact ih consequence (by simp [Node.children])
      · by_cases absent : alternative.isMissing = true
        · simp only [truthy, absent, if_true]
          exact congruence.step (.pure _)
        · simp only [truthy, absent]
          exact ih alternative (by simp [Node.children, absent])
  | function position parameters body => exact congruence.step (.function _)
  | call position callee arguments =>
      apply congruence.bind (ih callee (by simp [Node.children]))
      intro target
      cases target.callable? with
      | none => exact congruence.step (.failAt _ _)
      | some callable =>
          have each := congruence.evaluateEach fun node member =>
            ih node (List.mem_cons_of_mem callee member)
          exact congruence.bind each fun values => calls callable values position scope

theorem checkArity (name : String) (position : Position) (expected : Int) (actual : Nat) :
    related Unit (checkArity name position expected actual)
      (checkArity name position expected actual) := by
  by_cases fits : expected = actual
  · simp only [MonkeyLang.checkArity, fits, if_true]
    exact congruence.step (.pure _)
  · simp only [MonkeyLang.checkArity, fits, if_false]
    exact congruence.step (.failAt _ _)

theorem arrayArgument (name : String) (position : Position) (expected : Int)
    (arguments : List Value) :
    related (List Value) (arrayArgument name position expected arguments)
      (arrayArgument name position expected arguments) := by
  apply congruence.bind (congruence.checkArity name position expected arguments.length)
  intro _
  cases arguments.getD 0 .null with
  | array identity elements => exact congruence.step (.pure _)
  | _ => exact congruence.step (.failAt _ _)

theorem perform (action : Action Value) (name : String) (position : Position)
    (arguments : List Value) (settings : Settings) :
    related Value (action.perform name position arguments settings)
      (action.perform name position arguments settings) := by
  cases action with
  | len =>
      apply congruence.bind (congruence.checkArity "len" position 1 arguments.length)
      intro _
      cases arguments.getD 0 .null with
      | string text => exact congruence.step (.pure _)
      | array identity elements => exact congruence.step (.pure _)
      | _ => exact congruence.step (.failAt _ _)
  | first =>
      exact congruence.bind (congruence.arrayArgument _ _ _ _) fun _ => congruence.step (.pure _)
  | last =>
      exact congruence.bind (congruence.arrayArgument _ _ _ _) fun _ => congruence.step (.pure _)
  | rest =>
      refine congruence.bind (congruence.arrayArgument _ _ _ _) fun elements => ?_
      cases elements with
      | nil => exact congruence.step (.pure _)
      | cons first rest => exact congruence.step (.array rest)
  | push =>
      exact congruence.bind (congruence.arrayArgument _ _ _ _) fun _ => congruence.step (.array _)
  | puts =>
      exact congruence.bind (congruence.step (.write _ _)) fun _ => congruence.step (.pure _)
  | constant result => exact congruence.step (.pure result)
  | arguments => exact congruence.step (.array arguments)
  | policy => exact congruence.step (.pure _)
  | write text =>
      exact congruence.bind (congruence.step (.write _ _)) fun _ => congruence.step (.pure _)
  | fail kind message => exact congruence.step (.failAt _ _)
  | foreign typeName => exact congruence.step (.fault _)

theorem call (action : Action Value) (name : String) (position : Position)
    (arguments : List Value) (settings : Settings) :
    related Value (action.call name position arguments settings)
      (action.call name position arguments settings) := by
  refine congruence.bind (congruence.perform action name position arguments settings) ?_
  intro result
  cases pending : result.isPending with
  | true =>
      simp only [acceptResult, pending, if_true]
      exact congruence.step (.fault _)
  | false =>
      simp only [acceptResult, pending]
      exact congruence.step (.pure result)

end Congruence

end MonkeyLang
