import MonkeyLang.Proofs.Congruence
import MonkeyLang.Session

/-! The depth that calls may have does not matter as long as it suffices: an evaluation that ends
with some depth ends in the same way with every greater one. -/

namespace MonkeyLang

namespace Evaluation

variable {α β : Type}

def Settles (less more : Evaluation α) : Prop :=
  ∀ store, (less store).1 ≠ .exhausted → more store = less store

theorem Settles.refl (body : Evaluation α) : body.Settles body := fun _ _ => rfl

theorem Settles.trans {first second third : Evaluation α} (former : first.Settles second)
    (latter : second.Settles third) : first.Settles third := by
  intro store ends
  have same := former store ends
  rw [latter store (by rwa [same]), same]

theorem Settles.unique {first second deepest : Evaluation α} (settles : first.Settles deepest)
    (settlesTwin : second.Settles deepest) {store : Store}
    (ends : (first store).1 ≠ .exhausted) (endsTwin : (second store).1 ≠ .exhausted) :
    first store = second store := by
  rw [← settles store ends, settlesTwin store endsTwin]

theorem Settles.bind {less more : Evaluation α} {lessNext moreNext : α → Evaluation β}
    (first : less.Settles more) (next : ∀ result, (lessNext result).Settles (moreNext result)) :
    (less >>= lessNext).Settles (more >>= moreNext) := by
  intro store
  rcases ends : less store with ⟨outcome, after⟩
  cases outcome with
  | value result =>
      have same : more store = (.value result, after) := by
        rw [first store (by simp [ends]), ends]
      rw [bind_of_value store _ ends, bind_of_value store _ same]
      exact next result after
  | returning origin result =>
      have same : more store = (.returning origin result, after) := by
        rw [first store (by simp [ends]), ends]
      rw [bind_of_returning store _ ends, bind_of_returning store _ same]
      exact fun _ => rfl
  | failed failure =>
      have same : more store = (.failed failure, after) := by
        rw [first store (by simp [ends]), ends]
      rw [bind_of_failed store _ ends, bind_of_failed store _ same]
      exact fun _ => rfl
  | exhausted =>
      rw [bind_of_exhausted store _ ends]
      exact fun cut => (cut rfl).elim

theorem Settles.review {less more : Evaluation Value} {view : Outcome Value → Outcome Value}
    (cutShort : view .exhausted = .exhausted) (settles : less.Settles more) :
    (less.review view).Settles (more.review view) := by
  intro store ends
  have same : more store = less store := by
    apply settles
    intro cut
    exact ends (by simp only [Evaluation.review, cut, cutShort])
  simp only [Evaluation.review, same]

end Evaluation

open Evaluation

theorem settles_congruence : Congruence fun _ => Settles where
  step := fun _ => .refl _
  bind := fun first next => first.bind next
  review := fun _ cutShort settles => settles.review cutShort

theorem invokeWithin_settles (depth : Nat) (callable : Callable) (arguments : List Value)
    (position : Position) (caller : ScopeId) :
    (invokeWithin depth callable arguments position caller).Settles
      (invokeWithin (depth + 1) callable arguments position caller) := by
  induction depth generalizing callable arguments position caller with
  | zero =>
      cases callable with
      | builtin name action => exact .refl _
      | function closure => exact fun store cut => (cut rfl).elim
  | succ depth ih =>
      cases callable with
      | builtin name action => exact .refl _
      | function closure =>
          refine Settles.bind (.refl _) fun scope => ?_
          exact settles_congruence.arrive (settles_congruence.evaluate ih closure.body)

theorem evaluate_settles_depth {depth deeper : Nat} (enough : depth ≤ deeper) (node : Node)
    (scope : ScopeId) :
    (node.evaluate (invokeWithin depth) scope).Settles
      (node.evaluate (invokeWithin deeper) scope) := by
  induction enough with
  | refl => exact .refl _
  | step enough ih => exact ih.trans (settles_congruence.evaluate (invokeWithin_settles _) node)

/-- How an evaluation ends when calls may be nested as deep as they have to be. -/
def Node.Ends (node : Node) (scope : ScopeId) (before : Store) (outcome : Outcome Value)
    (after : Store) : Prop :=
  outcome ≠ .exhausted ∧
    ∃ depth, node.evaluate (invokeWithin depth) scope before = (outcome, after)

theorem Node.Ends.at_depth {node : Node} {scope : ScopeId} {before after : Store}
    {outcome : Outcome Value} (ends : node.Ends scope before outcome after) :
    ∃ depth, ∀ deeper, depth ≤ deeper →
      node.evaluate (invokeWithin deeper) scope before = (outcome, after) := by
  obtain ⟨finished, depth, same⟩ := ends
  refine ⟨depth, fun deeper enough => ?_⟩
  rw [evaluate_settles_depth enough node scope before (by rwa [same]), same]

theorem Node.Ends.unique {node : Node} {scope : ScopeId} {before after other : Store}
    {outcome twin : Outcome Value} (ends : node.Ends scope before outcome after)
    (endsTwin : node.Ends scope before twin other) : outcome = twin ∧ after = other := by
  obtain ⟨finished, depth, same⟩ := ends
  obtain ⟨finishedTwin, depthTwin, sameTwin⟩ := endsTwin
  have agree := (evaluate_settles_depth (Nat.le_max_left depth depthTwin) node scope).unique
    (evaluate_settles_depth (Nat.le_max_right depth depthTwin) node scope)
    (by rwa [same]) (by rwa [sameTwin])
  rw [same, sameTwin] at agree
  exact Prod.mk.inj agree

def Node.EndsAsUnit (node : Node) (scope : ScopeId) (before : Store) (outcome : Outcome Value)
    (after : Store) : Prop :=
  outcome ≠ .exhausted ∧ ∃ depth, evaluateUnit depth node scope before = (outcome, after)

theorem recordFailure_congr {node : Node} {body other : Evaluation Value} {store : Store}
    (same : other store = body store) :
    recordFailure node other store = recordFailure node body store := by
  simp only [recordFailure, same]

theorem recordFailure_exhausted {node : Node} {body : Evaluation Value} {store : Store}
    (cut : (body store).1 = .exhausted) : (recordFailure node body store).1 = .exhausted := by
  rcases ends : body store with ⟨outcome, after⟩
  rw [ends] at cut
  subst cut
  simp only [recordFailure, ends]

theorem evaluateUnit_settles {depth deeper : Nat} (enough : depth ≤ deeper) (node : Node)
    (scope : ScopeId) : (evaluateUnit depth node scope).Settles (evaluateUnit deeper node scope) := by
  intro store ends
  have settles := settles_congruence.arrive (evaluate_settles_depth enough node scope)
  apply recordFailure_congr
  apply settles
  exact fun cut => ends (recordFailure_exhausted cut)

theorem Node.EndsAsUnit.unique {node : Node} {scope : ScopeId} {before after other : Store}
    {outcome twin : Outcome Value} (ends : node.EndsAsUnit scope before outcome after)
    (endsTwin : node.EndsAsUnit scope before twin other) : outcome = twin ∧ after = other := by
  obtain ⟨finished, depth, same⟩ := ends
  obtain ⟨finishedTwin, depthTwin, sameTwin⟩ := endsTwin
  have agree := (evaluateUnit_settles (Nat.le_max_left depth depthTwin) node scope).unique
    (evaluateUnit_settles (Nat.le_max_right depth depthTwin) node scope)
    (by rwa [same]) (by rwa [sameTwin])
  rw [same, sameTwin] at agree
  exact Prod.mk.inj agree

end MonkeyLang
