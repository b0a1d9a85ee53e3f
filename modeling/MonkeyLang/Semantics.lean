import MonkeyLang.Builtin
import MonkeyLang.Operator

/-! What trees mean. Evaluation follows the tree; only calling a function leaves it, so the depth
of such calls is all that has to be bounded. A return under way and a failure stop everything
between them and the place where they arrive. -/

namespace MonkeyLang

inductive Callable where
  | function (closure : Closure)
  | builtin (name : String) (action : Action Value)

def Value.callable? : Value → Option Callable
  | .function _ closure => some (.function closure)
  | .builtin _ name action => some (.builtin name action)
  | _ => none

abbrev Invoke := Callable → List Value → Position → ScopeId → Evaluation Value

/-- The nearest binding of a name, or else the builtin of that name. The stock is not loaded here:
it is there once a session is open, and to load it again changes nothing. -/
def resolve (scope : ScopeId) (position : Position) (name : String) : Evaluation Value := do
  match ← .read (·.lookup scope name) with
  | some value => .yield value
  | none =>
      match ← .read (·.builtin? name) with
      | some builtin => pure builtin.value
      | none => .failAt position (.undeclared name)

def bindName (scope : ScopeId) (position : Position) (name : String) (value : Value) :
    Evaluation Value :=
  if value.isUnit then .failAt position .unitBinding
  else do
    .update (·.assign scope name value)
    pure value

mutual

def Node.evaluate (invoke : Invoke) (scope : ScopeId) : Node → Evaluation Value
  | .missing => .fault .missingNode
  | .program _ statements => .conclude (evaluateSequence invoke scope .null statements)
  | .block _ statements => evaluateSequence invoke scope .null statements
  | .expressionStatement _ expression => expression.evaluate invoke scope
  | .letStatement position name value => do
      let bound ← value.evaluate invoke scope
      bindName scope position name bound
  | .returnStatement _ value => do
      let result ← value.evaluate invoke scope
      .returning result
  | .identifier position name => resolve scope position name
  | .integer _ number => pure (.integer number)
  | .boolean _ flag => pure (.boolean flag)
  | .string _ text => pure (.string text)
  | .null _ => pure .null
  | .unit _ => pure .unit
  | .array _ elements => do
      let values ← evaluateEach invoke scope elements
      .make (·.addArray values)
  | .index _ base index => do
      let found ← base.evaluate invoke scope
      match found with
      | .array _ elements => do
          let chosen ← index.evaluate invoke scope
          .ofExcept (elementAt elements index.position chosen)
      | _ => .failAt base.position (.indexBase found.type)
  | .unary position operator operand => do
      let value ← operand.evaluate invoke scope
      .ofExcept (applyUnary operator position value)
  | .binary position operator left right => do
      let leftValue ← left.evaluate invoke scope
      let rightValue ← right.evaluate invoke scope
      .ofExcept (applyBinary operator position leftValue rightValue)
  | .conditional _ condition consequence alternative => do
      let decision ← condition.evaluate invoke scope
      if decision.isTruthy then consequence.evaluate invoke scope
      else if alternative.isMissing then pure .null
      else alternative.evaluate invoke scope
  | .function _ parameters body => .make (·.addFunction ⟨parameters, body, scope⟩)
  | .call position callee arguments => do
      let target ← callee.evaluate invoke scope
      match target.callable? with
      | none => .failAt position (.notCallable target.type)
      | some callable => do
          let values ← evaluateEach invoke scope arguments
          invoke callable values position scope
termination_by structural node => node

/-- Statements in order. The result is that of the last one, or `last` when there is none. -/
def evaluateSequence (invoke : Invoke) (scope : ScopeId) (last : Value) :
    List Node → Evaluation Value
  | [] => pure last
  | statement :: rest => do
      let result ← statement.evaluate invoke scope
      evaluateSequence invoke scope result rest
termination_by structural nodes => nodes

def evaluateEach (invoke : Invoke) (scope : ScopeId) : List Node → Evaluation (List Value)
  | [] => pure []
  | node :: rest => do
      let value ← node.evaluate invoke scope
      let values ← evaluateEach invoke scope rest
      pure (value :: values)
termination_by structural nodes => nodes

end

/-- Arguments go to parameters by position, and a later parameter of the same name wins. -/
def bindParameters (bound : Dictionary Value) : List String → List Value → Dictionary Value
  | [], _ => bound
  | parameter :: parameters, arguments =>
      bindParameters (bound.insert parameter (arguments.headD .null)) parameters arguments.tail

/-- The scope of a call lies in the scope where the function was made and shares the settings there;
those of the caller do not matter. -/
def enter (closure : Closure) (arguments : List Value) (position : Position) :
    Evaluation ScopeId := do
  let settings ← .read (·.settingsOf closure.scope)
  let expected := closure.parameters.length
  let actual := arguments.length
  .update (·.record (.calling expected actual settings.policy))
  if actual ≠ expected ∧ settings.policy = .strict then
    .failAt position (.functionArity expected actual)
  else
    .make (·.addChild closure.scope (bindParameters .empty closure.parameters arguments))

/-- Calls with at most `depth` functions under way at a time. Builtins do not count. -/
def invokeWithin : Nat → Invoke
  | _, .builtin name action, arguments, position, caller => do
      let settings ← .read (·.settingsOf caller)
      action.call name position arguments settings
  | 0, .function _, _, _, _ => .exhausted
  | depth + 1, .function closure, arguments, position, _ => do
      let scope ← enter closure arguments position
      .arrive (closure.body.evaluate (invokeWithin depth) scope)

end MonkeyLang
