import MonkeyLang.Semantics

/-! What a host does with a store: opening sessions, evaluating units in them, and registering and
finding builtins. -/

namespace MonkeyLang

def Store.initial : Store := Store.empty.loadStock.clearOutput

/-- Without explicit settings the policy comes from the setting of the surroundings, and output goes
to the standard sink. -/
def sessionSettings (setting : Option String) : Option Settings → Except UnknownPolicy Settings
  | some explicit => .ok explicit
  | none => (ArityPolicy.ofSetting setting).map fun policy => ⟨policy, .standard⟩

def Store.openSession (store : Store) (setting : Option String) (explicit : Option Settings) :
    Except UnknownPolicy ScopeId × Store :=
  let store := store.loadStock
  match sessionSettings setting explicit with
  | .error unknown => (.error unknown, store)
  | .ok settings =>
      let (scope, store) := store.addRoot settings
      (.ok scope, store.record (.session settings.policy))

def recordFailure (node : Node) (body : Evaluation Value) : Evaluation Value := fun store =>
  match body store with
  | (.failed (.error error), store) =>
      (.failed (.error error), store.record (.unitFailed node.position error))
  | ended => ended

/-- Evaluates one unit in a scope. A return that leaves the tree arrives here. -/
def evaluateUnit (depth : Nat) (node : Node) (scope : ScopeId) : Evaluation Value := fun store =>
  recordFailure node (.arrive (node.evaluate (invokeWithin depth) scope)) store.loadStock

def evaluateAlone (depth : Nat) (node : Node) (setting : Option String) (store : Store) :
    Except UnknownPolicy (Outcome Value) × Store :=
  match store.openSession setting none with
  | (.error unknown, store) => (.error unknown, store)
  | (.ok scope, store) =>
      let (outcome, store) := evaluateUnit depth node scope store
      (.ok outcome, store)

def Store.findBuiltin (store : Store) (name : String) : Option Value × Store :=
  let store := store.loadStock
  ((store.builtin? name).map (·.value), store)

def Store.builtinNames (store : Store) : List String := store.registry.sorted.map (·.1)

def Store.addDetachedFunction (store : Store) (parameters : List String) (body : Node) :
    Value × Store :=
  let (scope, store) := store.addRoot .default
  store.addFunction ⟨parameters, body, scope⟩

end MonkeyLang
