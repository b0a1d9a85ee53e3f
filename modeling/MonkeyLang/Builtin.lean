import MonkeyLang.Evaluation

/-! Builtin functions. They see the settings of the scope that calls them, never the scope. -/

namespace MonkeyLang

/-- The number of arguments comes before anything about them. -/
def checkArity (name : String) (position : Position) (expected : Int) (actual : Nat) :
    Evaluation Unit :=
  if expected = actual then pure ()
  else .failAt position (.builtinArity name expected actual)

def elementsOf (name : String) (position : Position) (value : Value) :
    Evaluation (List Value) :=
  match value with
  | .array _ elements => pure elements
  | _ => .failAt position (.arrayArgument name value.type)

def arrayArgument (name : String) (position : Position) (expected : Int)
    (arguments : List Value) : Evaluation (List Value) := do
  checkArity name position expected arguments.length
  elementsOf name position (arguments.getD 0 .null)

def lengthOf (position : Position) (value : Value) : Evaluation Value :=
  match value with
  | .string text => pure (.integer text.length)
  | .array _ elements => pure (.integer elements.length)
  | _ => .failAt position (.lengthArgument value.type)

def restOf (elements : List Value) : Evaluation Value :=
  match elements with
  | [] => pure .null
  | _ :: rest => .make (·.addArray rest)

def Action.perform (action : Action Value) (name : String) (position : Position)
    (arguments : List Value) (settings : Settings) : Evaluation Value :=
  match action with
  | .len => do
      checkArity "len" position 1 arguments.length
      lengthOf position (arguments.getD 0 .null)
  | .first => do
      let elements ← arrayArgument "first" position 1 arguments
      pure (elements.head?.getD .null)
  | .last => do
      let elements ← arrayArgument "last" position 1 arguments
      pure (elements.getLast?.getD .null)
  | .rest => do
      let elements ← arrayArgument "rest" position 1 arguments
      restOf elements
  | .push => do
      let elements ← arrayArgument "push" position 2 arguments
      .make (·.addArray (elements ++ [arguments.getD 1 .null]))
  | .puts => do
      .update (·.write settings.sink (arguments.map fun argument => argument.inspect ++ "\n"))
      pure .unit
  | .constant result => pure result
  | .arguments => .make (·.addArray arguments)
  | .policy => pure (.string settings.policy.name)
  | .write text => do
      .update (·.write settings.sink [text])
      pure .unit
  | .fail kind message => .failAt position (.reported kind message)
  | .foreign typeName => .fault (.notValue name typeName)

def acceptResult (name : String) (result : Value) : Evaluation Value :=
  if result.isPending then .fault (.notValue name result.type.name) else pure result

def Action.call (action : Action Value) (name : String) (position : Position)
    (arguments : List Value) (settings : Settings) : Evaluation Value := do
  let result ← action.perform name position arguments settings
  acceptResult name result

def stockBuiltins : List (String × Action Value) :=
  [("len", .len), ("first", .first), ("last", .last), ("rest", .rest), ("push", .push),
    ("puts", .puts)]

/-- Registers the builtins that are always there, once. A host that registered one of their names
before loses it to them. -/
def Store.loadStock (store : Store) : Store :=
  if store.stockLoaded then store
  else
    let store := stockBuiltins.foldl (fun store entry => store.register entry.1 entry.2) store
    { store with stockLoaded := true }

end MonkeyLang
