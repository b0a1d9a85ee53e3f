import MonkeyLang.Value

/-! Operators on values. Two integers and two strings have operations of their own; for every other
pair null comes first, then joining to a string, then identity. -/

namespace MonkeyLang

inductive UnaryOperator where
  | not
  | negate
deriving DecidableEq

def UnaryOperator.symbol : UnaryOperator → String
  | .not => "!"
  | .negate => "-"

def UnaryOperator.ofSymbol? (symbol : String) : Option UnaryOperator :=
  [.not, .negate].find? (·.symbol == symbol)

theorem UnaryOperator.ofSymbol?_eq_some {symbol : String} {operator : UnaryOperator} :
    UnaryOperator.ofSymbol? symbol = some operator ↔ operator.symbol = symbol := by
  constructor
  · intro found
    simpa using List.find?_some found
  · rintro rfl
    cases operator <;> rfl

inductive BinaryOperator where
  | add
  | subtract
  | multiply
  | divide
  | equal
  | notEqual
  | less
  | greater
deriving DecidableEq

def BinaryOperator.symbol : BinaryOperator → String
  | .add => "+"
  | .subtract => "-"
  | .multiply => "*"
  | .divide => "/"
  | .equal => "=="
  | .notEqual => "!="
  | .less => "<"
  | .greater => ">"

def BinaryOperator.ofSymbol? (symbol : String) : Option BinaryOperator :=
  [.add, .subtract, .multiply, .divide, .equal, .notEqual, .less, .greater].find?
    (·.symbol == symbol)

theorem BinaryOperator.ofSymbol?_eq_some {symbol : String} {operator : BinaryOperator} :
    BinaryOperator.ofSymbol? symbol = some operator ↔ operator.symbol = symbol := by
  constructor
  · intro found
    simpa using List.find?_some found
  · rintro rfl
    cases operator <;> rfl

def failAt {α : Type} (position : Position) (cause : Cause) : Except Failure α :=
  .error (.error ⟨cause, position⟩)

def applyUnary (symbol : String) (position : Position) (operand : Value) :
    Except Failure Value :=
  match UnaryOperator.ofSymbol? symbol with
  | some .not => .ok (.boolean (!operand.isTruthy))
  | some .negate =>
      match operand with
      | .integer number => .ok (.integer (wrap (-number)))
      | .null => .ok .null
      | _ => failAt position (.negation operand.type)
  | none => .error (.fault (.unaryOperator symbol))

def applyToIntegers (symbol : String) (position : Position) (left right : Int) :
    Except Failure Value :=
  match BinaryOperator.ofSymbol? symbol with
  | some .add => .ok (.integer (wrap (left + right)))
  | some .subtract => .ok (.integer (wrap (left - right)))
  | some .multiply => .ok (.integer (wrap (left * right)))
  | some .divide =>
      if right = 0 then failAt position .divisionByZero
      else
        match quotient left right with
        | .ok result => .ok (.integer (wrap result))
        | .error zero => .error (.fault (.zeroDivisor zero))
  | some .equal => .ok (.boolean (left == right))
  | some .notEqual => .ok (.boolean (left != right))
  | some .less => .ok (.boolean (decide (left < right)))
  | some .greater => .ok (.boolean (decide (right < left)))
  | none => .error (.fault (.integerOperator symbol))

def applyToStrings (symbol : String) (position : Position) (left right : String) :
    Except Failure Value :=
  match BinaryOperator.ofSymbol? symbol with
  | some .add => .ok (.string (left ++ right))
  | some .equal => .ok (.boolean (left == right))
  | some .notEqual => .ok (.boolean (left != right))
  | some .less => .ok (.boolean (decide (left < right)))
  | some .greater => .ok (.boolean (decide (right < left)))
  | some .subtract | some .multiply | some .divide | none =>
      failAt position (.stringOperation symbol)

def unsupported (symbol : String) (position : Position) (left right : Value) :
    Except Failure Value :=
  if left.isNull || right.isNull then failAt position (.nullOperand left.isNull right.isNull)
  else failAt position (.operands symbol left.type right.type)

/-- Null absorbs arithmetic, also when the other operand is a string. -/
def applyToMixed (symbol : String) (position : Position) (left right : Value) :
    Except Failure Value :=
  match BinaryOperator.ofSymbol? symbol with
  | some .add =>
      if left.isNull || right.isNull then .ok .null
      else if left.isString || right.isString then .ok (.string (left.inspect ++ right.inspect))
      else unsupported symbol position left right
  | some .subtract | some .multiply | some .divide =>
      if left.isNull || right.isNull then .ok .null
      else unsupported symbol position left right
  | some .equal => .ok (.boolean (left.identical right))
  | some .notEqual => .ok (.boolean (!left.identical right))
  | some .less | some .greater | none => unsupported symbol position left right

def applyBinary (symbol : String) (position : Position) (left right : Value) :
    Except Failure Value :=
  match left, right with
  | .integer left, .integer right => applyToIntegers symbol position left right
  | .string left, .string right => applyToStrings symbol position left right
  | left, right => applyToMixed symbol position left right

def elementAt (elements : List Value) (position : Position) (index : Value) :
    Except Failure Value :=
  match index with
  | .integer number =>
      let found := if 0 ≤ number then elements[number.toNat]? else none
      match found with
      | some element => .ok element
      | none => failAt position (.indexRange number elements.length)
  | _ => failAt position .indexType

end MonkeyLang
