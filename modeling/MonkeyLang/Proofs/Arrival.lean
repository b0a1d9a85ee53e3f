import MonkeyLang.Proofs.Nesting
import MonkeyLang.Proofs.Parameters
import MonkeyLang.Proofs.Sequencing

/-! Where returns arrive. A return is unwrapped by the program, by the call or by the unit that it
leaves, and it makes no difference by which of them, nor whether the last statement returns its value
or just has it, since no return carries another one. -/

namespace MonkeyLang

def Outcome.returned : Outcome Value → Outcome Value
  | .value result => .returning none result
  | ended => ended

section Outcomes

variable {outcome : Outcome Value} (unnested : outcome.Unnested)
include unnested

theorem unnested_returned : outcome.returned.Unnested := by
  cases outcome <;> exact unnested

theorem arrived_returned : outcome.returned.arrived = outcome.arrived := by
  cases outcome with
  | value result =>
      cases result with
      | pendingReturn identity inner => cases unnested
      | _ => rfl
  | _ => rfl

theorem arrived_concluded : outcome.concluded.arrived = outcome.arrived := by
  cases outcome with
  | returning origin result =>
      cases result with
      | pendingReturn identity inner => cases unnested
      | _ => rfl
  | _ => rfl

end Outcomes

theorem Evaluation.arrive_review {body : Evaluation Value} {view : Outcome Value → Outcome Value}
    {store : Store} (same : (view (body store).1).arrived = (body store).1.arrived) :
    Evaluation.arrive (body.review view) store = Evaluation.arrive body store := by
  rw [arrive_eq_review, arrive_eq_review]
  exact Prod.ext same rfl

theorem Evaluation.bind_pure (body : Evaluation Value) : body >>= pure = body := by
  funext store
  simp only [bind_apply, andThen]
  generalize body store = ends
  obtain ⟨outcome, after⟩ := ends
  cases outcome <;> rfl

theorem Evaluation.bind_returning_eq_review (body : Evaluation Value) :
    (body >>= fun result => .returning result) = body.review Outcome.returned := by
  funext store
  simp only [bind_apply, andThen, review]
  generalize body store = ends
  obtain ⟨outcome, after⟩ := ends
  cases outcome <;> rfl

theorem evaluateSequence_returning (invoke : Invoke) (scope : ScopeId) (position : Position)
    (statements : List Node) (last : Node) :
    evaluateSequence invoke scope .null (statements ++ [.returnStatement position last]) =
      (evaluateSequence invoke scope .null (statements ++ [last])).review Outcome.returned := by
  have single (node : Node) (before : Value) :
      evaluateSequence invoke scope before [node] = node.evaluate invoke scope :=
    Evaluation.bind_pure _
  simp only [← Evaluation.bind_returning_eq_review, evaluateSequence_append, single,
    Evaluation.bind_assoc]
  rfl

def Node.endings (position returned : Position) (statements : List Node) (last : Node) :
    List Node :=
  [.program position (statements ++ [last]), .block position (statements ++ [last]),
    .program position (statements ++ [.returnStatement returned last]),
    .block position (statements ++ [.returnStatement returned last])]

section Endings

variable {store : Store} {position returned : Position} {statements : List Node}
  {last root : Node}

theorem position_of_mem_endings (member : root ∈ Node.endings position returned statements last) :
    root.position = position := by
  simp only [Node.endings, List.mem_cons, List.not_mem_nil, or_false] at member
  rcases member with rfl | rfl | rfl | rfl <;> rfl

theorem arrive_of_mem_endings (every : store.Every Value.Unnested)
    (member : root ∈ Node.endings position returned statements last) (depth : Nat)
    (scope : ScopeId) :
    Evaluation.arrive (root.evaluate (invokeWithin depth) scope) store =
      Evaluation.arrive
        (evaluateSequence (invokeWithin depth) scope .null (statements ++ [last])) store := by
  have unnested : (evaluateSequence (invokeWithin depth) scope .null (statements ++ [last])
      store).1.Unnested :=
    evaluate_unnested every depth (.block position (statements ++ [last])) scope
  simp only [Node.endings, List.mem_cons, List.not_mem_nil, or_false] at member
  rcases member with rfl | rfl | rfl | rfl
  · simp only [Node.evaluate, Evaluation.conclude_eq_review]
    exact Evaluation.arrive_review (arrived_concluded unnested)
  · rfl
  · simp only [Node.evaluate, Evaluation.conclude_eq_review, evaluateSequence_returning]
    refine (Evaluation.arrive_review ?_).trans
      (Evaluation.arrive_review (arrived_returned unnested))
    exact arrived_concluded (unnested_returned unnested)
  · simp only [Node.evaluate, evaluateSequence_returning]
    exact Evaluation.arrive_review (arrived_returned unnested)

end Endings

/-- A sequence of statements comes to the same as a program and as a block, and whether its last
statement is returned or not. -/
theorem endings_agree {store : Store} (every : store.Every Value.Unnested) (depth : Nat)
    {position returned : Position} {statements : List Node} {last root other : Node}
    (member : root ∈ Node.endings position returned statements last)
    (otherMember : other ∈ Node.endings position returned statements last) :
    (∀ scope, evaluateUnit depth root scope store = evaluateUnit depth other scope store) ∧
    ∀ parameters home arguments callPosition caller,
      (∀ argument ∈ arguments, argument.Every Value.Unnested) →
      invokeWithin depth (.function ⟨parameters, root, home⟩) arguments callPosition caller store =
        invokeWithin depth (.function ⟨parameters, other, home⟩) arguments callPosition caller
          store := by
  have arrives {now : Store} (everyNow : now.Every Value.Unnested) (within : Nat)
      (scope : ScopeId) :
      Evaluation.arrive (root.evaluate (invokeWithin within) scope) now =
        Evaluation.arrive (other.evaluate (invokeWithin within) scope) now := by
    rw [arrive_of_mem_endings everyNow member, arrive_of_mem_endings everyNow otherMember]
  refine ⟨?_, ?_⟩
  · intro scope
    simp only [evaluateUnit, recordFailure, arrives (every.loadStock stock_unnested),
      position_of_mem_endings member, position_of_mem_endings otherMember]
  · intro parameters home arguments callPosition caller allowed
    cases depth with
    | zero => rfl
    | succ depth =>
        by_cases refused : store.Refuses ⟨parameters, root, home⟩ arguments
        · rw [call_of_refused _ arguments callPosition caller store depth refused,
            call_of_refused ⟨parameters, other, home⟩ arguments callPosition caller store depth
              refused]
          rfl
        · rw [call_of_accepted _ arguments callPosition caller store depth refused,
            call_of_accepted ⟨parameters, other, home⟩ arguments callPosition caller store depth
              refused]
          have function : unnested.contract.value store
              (.function 0 ⟨parameters, root, home⟩) := trivial
          have entered := unnested.contract.entered every function allowed refused
          exact arrives entered.1 depth _

theorem endings_agree_early :
    let store := (Store.initial.addRoot .default).2
    let early : Node := .conditional .start (.identifier .start "x")
      (.returnStatement .start (.integer .start 1)) .missing
    let last : Node := .integer .start 2
    let plain : Node := .program .start [early, last]
    let returning : Node := .block .start [early, .returnStatement .start last]
    store.Every Value.Unnested ∧
    evaluateUnit 0 plain 0 store = evaluateUnit 0 returning 0 store ∧
    (∀ argument ∈ [Value.boolean true], argument.Every Value.Unnested) ∧
    invokeWithin 1 (.function ⟨["x"], plain, 0⟩) [.boolean true] .start 0 store =
      invokeWithin 1 (.function ⟨["x"], returning, 0⟩) [.boolean true] .start 0 store ∧
    (invokeWithin 1 (.function ⟨["x"], plain, 0⟩) [.boolean true] .start 0 store).1 =
      .value (.integer 1) := by
  intro store early last plain returning
  have free : store.ReturnFree false := (Store.every_initial stock_noReturn).addRoot _
  have member : plain ∈ Node.endings .start .start [early] last := by simp [Node.endings, plain]
  have otherMember : returning ∈ Node.endings .start .start [early] last := by
    simp [Node.endings, returning]
  have allowed : ∀ argument ∈ [Value.boolean true], argument.Every Value.Unnested := by
    intro argument among
    cases List.mem_singleton.mp among
    exact trivial
  have units := (endings_agree free.unnested 0 member otherMember).1 0
  have calls := (endings_agree free.unnested 1 member otherMember).2 ["x"] 0 _ .start 0 allowed
  exact ⟨free.unnested, units, allowed, calls, rfl⟩

end MonkeyLang
