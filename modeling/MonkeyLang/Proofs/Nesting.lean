import MonkeyLang.Proofs.Confinement
import MonkeyLang.Proofs.Congruence

/-! Returns do not nest. What an evaluation results in is no return, and a return that a statement
starts carries none; so only a return that is bound somewhere can carry another one. -/

namespace MonkeyLang

def Outcome.Plain {α : Type} (good : α → Prop) : Outcome α → Prop
  | .value result => good result
  | .returning none result => result.isPending = false
  | _ => True

def Evaluation.Plain {α : Type} (good : α → Prop) (body : Evaluation α) : Prop :=
  ∀ store, (body store).1.Plain good

abbrev Value.IsPlain (value : Value) : Prop := value.isPending = false

theorem Outcome.ofValue_of_plain {value : Value} (plain : value.IsPlain) :
    Outcome.ofValue value = .value value := by
  cases value with
  | pendingReturn identity result => cases plain
  | _ => rfl

theorem Outcome.plain_ofValue (value : Value) : (Outcome.ofValue value).Plain Value.IsPlain := by
  cases value with
  | pendingReturn identity result => exact trivial
  | _ => exact rfl

theorem Outcome.Arrived.plain {outcome : Outcome Value} (arrived : outcome.Arrived) :
    outcome.Plain Value.IsPlain := by
  cases outcome with
  | value result => exact arrived
  | returning origin result => exact arrived.elim
  | failed failure => exact trivial
  | exhausted => exact trivial

theorem Outcome.Plain.arrived {outcome : Outcome Value} (plain : outcome.Plain Value.IsPlain) :
    outcome.arrived.Plain Value.IsPlain := by
  cases outcome with
  | returning origin result => exact plain_ofValue result
  | _ => exact plain

theorem Outcome.Plain.concluded {outcome : Outcome Value} (plain : outcome.Plain Value.IsPlain) :
    outcome.concluded.Plain Value.IsPlain := by
  cases outcome with
  | returning origin result =>
      cases result with
      | pendingReturn identity inner => exact trivial
      | _ => exact rfl
  | _ => exact plain

namespace Evaluation

variable {α β : Type} {good : α → Prop} {better : β → Prop}

theorem Plain.bind {body : Evaluation α} {next : α → Evaluation β} (plain : body.Plain good)
    (continues : ∀ result, good result → (next result).Plain better) :
    (body >>= next).Plain better := by
  intro store
  have here := plain store
  rcases ends : body store with ⟨outcome, after⟩
  rw [ends] at here
  cases outcome with
  | value result =>
      rw [bind_of_value store next ends]
      exact continues result here after
  | returning origin result =>
      rw [bind_of_returning store next ends]
      cases origin with
      | none => exact here
      | some identity => exact trivial
  | failed failure =>
      rw [bind_of_failed store next ends]
      exact trivial
  | exhausted =>
      rw [bind_of_exhausted store next ends]
      exact trivial

theorem Plain.arrive {body : Evaluation Value} (plain : body.Plain Value.IsPlain) :
    (arrive body).Plain Value.IsPlain := by
  rw [arrive_eq_review]
  exact fun store => (plain store).arrived

theorem Plain.conclude {body : Evaluation Value} (plain : body.Plain Value.IsPlain) :
    (conclude body).Plain Value.IsPlain := by
  rw [conclude_eq_review]
  exact fun store => (plain store).concluded

theorem plain_ofExcept (result : Except Failure Value) :
    (ofExcept result).Plain Value.IsPlain := by
  intro store
  cases result with
  | ok value => exact Outcome.plain_ofValue value
  | error failure => exact trivial

end Evaluation

theorem resolve_plain (scope : ScopeId) (position : Position) (name : String) :
    (resolve scope position name).Plain Value.IsPlain := by
  intro store
  cases bound : store.lookup scope name with
  | some value =>
      rw [resolve_of_lookup scope position name store bound]
      exact Outcome.plain_ofValue value
  | none =>
      cases registered : store.builtin? name with
      | some builtin =>
          rw [resolve_of_builtin scope position name store bound registered]
          exact rfl
      | none =>
          rw [resolve_of_none scope position name store bound registered]
          exact trivial

theorem bindName_plain (scope : ScopeId) (position : Position) (name : String) {value : Value}
    (plain : value.IsPlain) : (bindName scope position name value).Plain Value.IsPlain := by
  intro store
  cases unit : value.isUnit with
  | true =>
      rw [bindName_of_unit scope position name store unit]
      exact trivial
  | false =>
      rw [bindName_of_plain scope position name store unit]
      exact plain

section Trees

variable {invoke : Invoke} {scope : ScopeId}

theorem evaluateEach_plain {nodes : List Node}
    (each : ∀ node ∈ nodes, (node.evaluate invoke scope).Plain Value.IsPlain) :
    (evaluateEach invoke scope nodes).Plain fun _ => True := by
  induction nodes with
  | nil => exact fun store => trivial
  | cons node rest ih =>
      refine (each node (by simp)).bind fun value plain => ?_
      exact (ih fun node member => each node (by simp [member])).bind fun values _ store => trivial

theorem evaluateSequence_plain {nodes : List Node} {last : Value} (plain : last.IsPlain)
    (each : ∀ node ∈ nodes, (node.evaluate invoke scope).Plain Value.IsPlain) :
    (evaluateSequence invoke scope last nodes).Plain Value.IsPlain := by
  induction nodes generalizing last with
  | nil => exact fun store => plain
  | cons node rest ih =>
      refine (each node (by simp)).bind fun value plainNow => ?_
      exact ih plainNow fun node member => each node (by simp [member])

variable (scope) in
theorem evaluate_plain
    (calls : ∀ callable arguments position caller,
      (invoke callable arguments position caller).Plain Value.IsPlain) (node : Node) :
    (node.evaluate invoke scope).Plain Value.IsPlain := by
  induction node using Node.induct_children with
  | step node ih =>
  cases node with
  | missing => exact fun store => trivial
  | program position statements => exact (evaluateSequence_plain rfl ih).conclude
  | block position statements => exact evaluateSequence_plain rfl ih
  | expressionStatement position expression => exact ih expression (by simp [Node.children])
  | letStatement position name value =>
      refine (ih value (by simp [Node.children])).bind fun bound plain => ?_
      exact bindName_plain scope position name plain
  | returnStatement position value =>
      exact (ih value (by simp [Node.children])).bind fun result plain store => plain
  | identifier position name => exact resolve_plain scope position name
  | array position elements =>
      exact (evaluateEach_plain ih).bind fun values _ store => rfl
  | index position base chosen =>
      refine (ih base (by simp [Node.children])).bind fun found _ => ?_
      cases found with
      | array identity elements =>
          refine (ih chosen (by simp [Node.children])).bind fun value _ => ?_
          exact Evaluation.plain_ofExcept _
      | _ => exact fun store => trivial
  | unary position operator operand =>
      refine (ih operand (by simp [Node.children])).bind fun value _ => ?_
      exact Evaluation.plain_ofExcept _
  | binary position operator left right =>
      refine (ih left (by simp [Node.children])).bind fun leftValue _ => ?_
      refine (ih right (by simp [Node.children])).bind fun rightValue _ => ?_
      exact Evaluation.plain_ofExcept _
  | conditional position condition consequence alternative =>
      refine (ih condition (by simp [Node.children])).bind fun decision _ => ?_
      by_cases truthy : decision.isTruthy = true
      · simp only [truthy, if_true]
        exact ih consequence (by simp [Node.children])
      · by_cases absent : alternative.isMissing = true
        · simp only [truthy, absent, if_true]
          exact fun store => rfl
        · simp only [truthy, absent]
          exact ih alternative (by simp [Node.children, absent])
  | call position callee arguments =>
      refine (ih callee (by simp [Node.children])).bind fun target _ => ?_
      cases target.callable? with
      | none => exact fun store => trivial
      | some callable =>
          have each := evaluateEach_plain fun node member =>
            ih node (List.mem_cons_of_mem callee member)
          exact each.bind fun values _ => calls callable values position scope
  | _ => exact fun store => rfl

end Trees

theorem enter_plain (closure : Closure) (arguments : List Value) (position : Position) :
    (enter closure arguments position).Plain fun _ => True := by
  intro store
  by_cases refused : store.Refuses closure arguments
  · rw [enter_of_refused closure arguments position store refused]
    exact trivial
  · rw [enter_of_accepted closure arguments position store refused]
    exact trivial

theorem invokeWithin_plain (depth : Nat) (callable : Callable) (arguments : List Value)
    (position : Position) (caller : ScopeId) :
    (invokeWithin depth callable arguments position caller).Plain Value.IsPlain := by
  refine invokeWithin_induct ?_ ?_ ?_ depth callable arguments position caller
  · exact fun store => trivial
  · intro name action arguments position caller store
    exact (action.call_arrived name position arguments (store.settingsOf caller) store).plain
  · intro invoke calls closure arguments position
    refine (enter_plain closure arguments position).bind fun scope _ => ?_
    exact (evaluate_plain scope calls closure.body).arrive

/-- A part that is no return, or one that carries no other return. -/
def Value.Unnested : Value → Prop
  | .pendingReturn _ result => result.IsPlain
  | _ => True

def unnested : Discipline where
  part := Value.Unnested
  tree := fun _ => True
  failure := fun _ => True
  child := fun _ _ _ => trivial
  computed := fun computed => by cases computed <;> exact trivial
  unit := trivial
  number := fun _ => trivial
  counted := fun _ _ => trivial
  array := fun _ _ => trivial
  function := fun _ _ _ => trivial
  body := fun _ => trivial
  raised := fun _ _ => trivial
  refused := fun _ _ _ => trivial

theorem stock_unnested : StockAllowed Value.Unnested := fun _ _ _ _ => trivial

theorem Store.ReturnFree.unnested {tolerant : Bool} {store : Store}
    (free : store.ReturnFree tolerant) : store.Every Value.Unnested := by
  apply Store.Every.imp free
  intro value plain
  cases value with
  | pendingReturn identity result => exact plain.elim
  | _ => exact trivial

def Outcome.Unnested : Outcome Value → Prop
  | .value result | .returning _ result => result.IsPlain
  | .failed _ | .exhausted => True

/-- Returns do not nest: the started ones carry plain values, and those read from the store carry
what they did there. -/
theorem evaluate_unnested {store : Store} (every : store.Every Value.Unnested) (depth : Nat)
    (node : Node) (scope : ScopeId) :
    (node.evaluate (invokeWithin depth) scope store).1.Unnested := by
  have plain := evaluate_plain scope (invokeWithin_plain depth) node store
  have tree : unnested.contract.tree store scope node := trivial
  have ended := (unnested.contract.evaluate_ended depth every tree).2
  rcases ends : node.evaluate (invokeWithin depth) scope store with ⟨outcome, after⟩
  rw [ends] at plain ended
  cases outcome with
  | value result => exact plain
  | returning origin result =>
      cases origin with
      | none => exact plain
      | some identity => exact ended.2.part
  | failed failure => exact trivial
  | exhausted => exact trivial

end MonkeyLang
