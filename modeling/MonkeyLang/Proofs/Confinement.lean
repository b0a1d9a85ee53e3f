import MonkeyLang.Proofs.Discipline

/-! Returns under way stay where they belong. They are never stored, never handed to a builtin and
never come out of a call or a unit; a tree that ends with one has a return statement of its own. -/

namespace MonkeyLang

/-- A part that is no return under way. If `tolerant`, it may be a builtin that holds one. -/
def Value.NoReturn (tolerant : Bool) : Value → Prop
  | .pendingReturn _ _ => False
  | .builtin _ _ (.constant held) => tolerant = true ∨ held.isPending = false
  | _ => True

def Value.ReturnFree (tolerant : Bool) (value : Value) : Prop := value.Every (NoReturn tolerant)

def Store.ReturnFree (tolerant : Bool) (store : Store) : Prop :=
  store.Every (Value.NoReturn tolerant)

variable {tolerant : Bool}

theorem Value.ReturnFree.isPending {value : Value} (free : value.ReturnFree tolerant) :
    value.isPending = false := by
  cases value with
  | pendingReturn identity result => exact free.1.elim
  | _ => rfl

def returnFree (tolerant : Bool) : Discipline where
  part := Value.NoReturn tolerant
  tree := fun _ => True
  failure := fun _ => True
  child := fun _ _ _ => trivial
  computed := fun computed => by cases computed <;> exact trivial
  unit := trivial
  number := fun _ => trivial
  counted := fun _ _ => trivial
  array := fun _ _ => trivial
  function := fun _ _ _ => trivial
  body := fun _ => trivial
  raised := fun _ _ => trivial
  refused := fun _ _ _ => trivial

theorem stock_noReturn : StockAllowed (Value.NoReturn tolerant) := by
  intro identity name action stock
  cases action with
  | constant held => cases stock
  | _ => exact trivial

def Outcome.Confined (tolerant : Bool) (node : Node) : Outcome Value → Prop
  | .value result => result.ReturnFree tolerant
  | .returning origin result => origin = none ∧ result.ReturnFree tolerant ∧ node.CanReturn
  | .failed _ | .exhausted => True

def Outcome.Arrived : Outcome Value → Prop
  | .value result => result.isPending = false
  | .returning _ _ => False
  | .failed _ | .exhausted => True

theorem store_of_ended {returns : Prop} {ends : Outcome Value × Store}
    (ended : (returnFree tolerant).contract.Ended (returnFree tolerant).contract.value returns
      ends) :
    ends.2.ReturnFree tolerant :=
  Contract.Ended.kept ended fun _ _ failed => failed.1

theorem confined_of_ended {node : Node} {ends : Outcome Value × Store}
    (ended : (returnFree tolerant).contract.Ended (returnFree tolerant).contract.value
      node.CanReturn ends) : ends.1.Confined tolerant node := by
  obtain ⟨outcome, after⟩ := ends
  cases outcome with
  | value result => exact ended.2
  | returning origin result =>
      cases origin with
      | none => exact ⟨rfl, ended.2⟩
      | some identity => exact ended.2.1.elim
  | failed failure => exact trivial
  | exhausted => exact trivial

theorem arrived_of_ended {ends : Outcome Value × Store}
    (ended : (returnFree tolerant).contract.Ended (returnFree tolerant).contract.value False ends) :
    ends.1.Arrived := by
  obtain ⟨outcome, after⟩ := ends
  cases outcome with
  | value result => exact Value.ReturnFree.isPending ended.2
  | returning origin result =>
      cases origin with
      | none => exact ended.2.2
      | some identity => exact ended.2.1
  | failed failure => exact trivial
  | exhausted => exact trivial

theorem Action.call_arrived (action : Action Value) (name : String) (position : Position)
    (arguments : List Value) (settings : Settings) (store : Store) :
    (action.call name position arguments settings store).1.Arrived := by
  have effect := action.call_effect name position arguments settings store
  generalize action.call name position arguments settings store = ends at effect
  cases effect with
  | handed handed plain => exact plain
  | counted number length => exact rfl
  | held constant plain => exact plain
  | named text => exact rfl
  | made handed => exact rfl
  | wrote texts => exact rfl
  | erred cause => exact trivial
  | refused source pending => exact trivial
  | foreign typeName source => exact trivial

theorem invokeWithin_arrived {store : Store} (free : store.ReturnFree tolerant) (depth : Nat)
    (callable : Callable) {arguments : List Value} (position : Position) (scope : ScopeId)
    (allowed : ∀ argument ∈ arguments, argument.ReturnFree tolerant) :
    (invokeWithin depth callable arguments position scope store).1.Arrived := by
  cases callable with
  | builtin name action =>
      rw [invokeWithin_builtin]
      exact action.call_arrived name position arguments _ store
  | function closure =>
      have tree : (returnFree tolerant).contract.tree store scope (.call position .missing []) :=
        trivial
      have target : (returnFree tolerant).contract.value store (.function 0 closure) := trivial
      exact arrived_of_ended
        ((returnFree tolerant).contract.invoke_ended depth free tree target rfl allowed).2

theorem evaluateUnit_arrived {store : Store} (free : store.ReturnFree tolerant) (depth : Nat)
    (node : Node) (scope : ScopeId) : (evaluateUnit depth node scope store).1.Arrived := by
  exact arrived_of_ended
    ((returnFree tolerant).unit_ended free stock_noReturn trivial depth scope)

/-- A way of calling builtins that is the usual one unless there is a return under way in the
arguments. -/
def UsualWithoutReturns (tolerant : Bool) (callBuiltin : BuiltinCall) : Prop :=
  ∀ name action arguments position caller store,
    (∀ argument ∈ arguments, argument.ReturnFree tolerant) →
    callBuiltin name action arguments position caller store =
      action.call name position arguments (store.settingsOf caller) store

theorem evaluate_invokeBy {callBuiltin : BuiltinCall}
    (usual : UsualWithoutReturns tolerant callBuiltin) {store : Store}
    (free : store.ReturnFree tolerant) (depth : Nat) (node : Node) (scope : ScopeId) :
    node.evaluate (invokeBy callBuiltin depth) scope store =
      node.evaluate (invokeWithin depth) scope store := by
  have agrees : (returnFree tolerant).contract.Agrees callBuiltin := by
    intro now identity name action arguments position caller _ _ allowed
    exact usual name action arguments position caller now allowed
  have tree : (returnFree tolerant).contract.tree store scope node := trivial
  exact (Contract.evaluate_keeps (Contract.calls_within agrees depth) node store free tree).same

/-- Over a store without returns, only a return that a statement of the tree itself started can
leave an evaluation, and none is ever stored, passed on or given back. -/
theorem evaluate_confines_returns {store : Store} (free : store.ReturnFree tolerant) (depth : Nat)
    (node : Node) (scope : ScopeId) :
    (node.evaluate (invokeWithin depth) scope store).2.ReturnFree tolerant ∧
    (node.evaluate (invokeWithin depth) scope store).1.Confined tolerant node ∧
    (∀ callBuiltin, UsualWithoutReturns tolerant callBuiltin →
      node.evaluate (invokeBy callBuiltin depth) scope store =
        node.evaluate (invokeWithin depth) scope store) ∧
    (evaluateUnit depth node scope store).1.Arrived ∧
    (∀ callable arguments position, (∀ argument ∈ arguments, argument.ReturnFree tolerant) →
      (invokeWithin depth callable arguments position scope store).1.Arrived) ∧
    ∀ name identity result arguments position,
      invokeWithin depth (.builtin name (.constant (.pendingReturn identity result))) arguments
        position scope store = (.failed (.fault (.notValue name "ReturnSignal")), store) := by
  have tree : (returnFree tolerant).contract.tree store scope node := trivial
  have ended := ((returnFree tolerant).contract.evaluate_ended depth free tree).2
  refine ⟨store_of_ended ended, confined_of_ended ended, ?_, ?_, ?_, ?_⟩
  · exact fun callBuiltin usual => evaluate_invokeBy usual free depth node scope
  · exact evaluateUnit_arrived free depth node scope
  · exact fun callable arguments position allowed =>
      invokeWithin_arrived free depth callable position scope allowed
  · intro name identity result arguments position
    rw [invokeWithin_builtin]
    rfl

theorem evaluate_confines_returns_held :
    ((Store.initial.register "stop" (.constant (.pendingReturn 0 .null))).addRoot
      .default).2.ReturnFree true ∧
    (evaluateUnit 0 (.call .unknown (.identifier .unknown "stop") []) 0
      ((Store.initial.register "stop" (.constant (.pendingReturn 0 .null))).addRoot
        .default).2).1.Arrived := by
  have held : (Value.builtin Store.initial.nextIdentity "stop"
      (.constant (.pendingReturn 0 .null))).ReturnFree true := ⟨Or.inl rfl, Or.inl rfl⟩
  have free : ((Store.initial.register "stop" (.constant (.pendingReturn 0 .null))).addRoot
      .default).2.ReturnFree true :=
    ((Store.every_initial stock_noReturn).register held).addRoot _
  exact ⟨free, (evaluate_confines_returns free 0 _ 0).2.2.2.1⟩

end MonkeyLang
