import MonkeyLang.Failure
import MonkeyLang.Node

/-! Values of the language. Arrays, functions, builtins and the returns that a host holds carry an
identity, which is given out when they are made; scalars are told apart by their content. -/

namespace MonkeyLang

abbrev Identity := Nat

abbrev ScopeId := Nat

/-- A function closes over the scope it was made in, which it shares with everyone else. -/
structure Closure where
  parameters : List String
  body : Node
  scope : ScopeId

/-- What a builtin does, given the type of values. The first six are always there; `foreign` gives
back something of the named host type that is no value. -/
inductive Action (α : Type) where
  | len
  | first
  | last
  | rest
  | push
  | puts
  | constant (result : α)
  | arguments
  | policy
  | write (text : String)
  | fail (kind : ErrorKind) (message : String)
  | foreign (typeName : String)

/-- The values of the language, and `pendingReturn`, which marks a return under way. Programs never
hold one, but a host can put one wherever it may put a value. -/
inductive Value where
  | null
  | unit
  | boolean (flag : Bool)
  | integer (number : Int)
  | string (text : String)
  | array (identity : Identity) (elements : List Value)
  | function (identity : Identity) (closure : Closure)
  | builtin (identity : Identity) (name : String) (action : Action Value)
  | pendingReturn (identity : Identity) (result : Value)

namespace Value

def type : Value → ValueType
  | .null => .null
  | .unit => .unit
  | .boolean _ => .boolean
  | .integer _ => .integer
  | .string _ => .string
  | .array _ _ => .array
  | .function _ _ => .function
  | .builtin _ _ _ => .builtin
  | .pendingReturn _ _ => .returnSignal

def isNull : Value → Bool
  | .null => true
  | _ => false

def isUnit : Value → Bool
  | .unit => true
  | _ => false

def isString : Value → Bool
  | .string _ => true
  | _ => false

def isPending : Value → Bool
  | .pendingReturn _ _ => true
  | _ => false

def isTruthy : Value → Bool
  | .boolean flag => flag
  | .null | .unit => false
  | _ => true

def booleanText (flag : Bool) : String := if flag then "true" else "false"

def functionText (parameters : List String) : String :=
  "fn(" ++ ", ".intercalate parameters ++ ") \x7b ... \x7d"

def arrayText (elements : List String) : String := "[" ++ ", ".intercalate elements ++ "]"

def pendingText (result : String) : String := "ReturnSignal(value=" ++ result ++ ")"

mutual

/-- How a value looks inside an array, with its strings in quotes and nothing escaped. -/
def debugText : Value → String
  | .null => "null"
  | .unit => "unit"
  | .boolean flag => booleanText flag
  | .integer number => toString number
  | .string text => "\"" ++ text ++ "\""
  | .array _ elements => arrayText (debugTexts elements)
  | .function _ closure => functionText closure.parameters
  | .builtin _ name _ => "<builtin " ++ name ++ ">"
  | .pendingReturn _ result => pendingText result.debugText

def debugTexts : List Value → List String
  | [] => []
  | value :: rest => value.debugText :: debugTexts rest

end

mutual

/-- How a value looks to the program. A return under way is no value and has no such text; the one
here only makes this total. -/
def inspect : Value → String
  | .null => "null"
  | .unit => "unit"
  | .boolean flag => booleanText flag
  | .integer number => toString number
  | .string text => text
  | .array _ elements => arrayText (inspectAll elements)
  | .function _ closure => functionText closure.parameters
  | .builtin _ name _ => "builtin " ++ name
  | .pendingReturn _ result => pendingText result.debugText

def inspectAll : List Value → List String
  | [] => []
  | value :: rest => value.inspect :: inspectAll rest

end

theorem debugTexts_eq_map (values : List Value) : debugTexts values = values.map debugText := by
  induction values with
  | nil => rfl
  | cons value rest ih => simp [debugTexts, ih]

theorem inspectAll_eq_map (values : List Value) : inspectAll values = values.map inspect := by
  induction values with
  | nil => rfl
  | cons value rest ih => simp [inspectAll, ih]

/-- Equality inside the language: scalars by content, everything else by identity. -/
def identical : Value → Value → Bool
  | .null, .null => true
  | .unit, .unit => true
  | .boolean left, .boolean right => left == right
  | .integer left, .integer right => left == right
  | .string left, .string right => left == right
  | .array left _, .array right _ => left == right
  | .function left _, .function right _ => left == right
  | .builtin left _ _, .builtin right _ _ => left == right
  | .pendingReturn left _, .pendingReturn right _ => left == right
  | _, _ => false

mutual

/-- Equality as the host sees it: arrays are compared element by element, and returns by what they
return. -/
def equivalent : Value → Value → Bool
  | .null, .null => true
  | .unit, .unit => true
  | .boolean left, .boolean right => left == right
  | .integer left, .integer right => left == right
  | .string left, .string right => left == right
  | .array _ left, .array _ right => equivalentAll left right
  | .function left _, .function right _ => left == right
  | .builtin left _ _, .builtin right _ _ => left == right
  | .pendingReturn _ left, .pendingReturn _ right => left.equivalent right
  | _, _ => false

def equivalentAll : List Value → List Value → Bool
  | [], [] => true
  | left :: lefts, right :: rights => left.equivalent right && equivalentAll lefts rights
  | _, _ => false

end

end Value

end MonkeyLang
