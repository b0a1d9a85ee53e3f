import MonkeyLang.Integer
import MonkeyLang.Position
import MonkeyLang.Text.Quoted
import MonkeyLang.ValueType

/-! Why an evaluation fails. An error is the fault of the program and has a place in it; a fault is
the fault of whoever built the tree or registered the builtin. -/

namespace MonkeyLang

inductive ErrorKind where
  | undeclared
  | typeMismatch
  | unsupportedIndex
  | indexRange
  | divisionByZero
  | nullOperand
  | unitBinding
  | notCallable
  | arity
deriving DecidableEq

def ErrorKind.code : ErrorKind → String
  | .undeclared => "undeclared-identifier"
  | .typeMismatch => "type-mismatch"
  | .unsupportedIndex => "unsupported-index-target"
  | .indexRange => "out-of-range-index"
  | .divisionByZero => "division-by-zero"
  | .nullOperand => "null-operand"
  | .unitBinding => "unit-binding"
  | .notCallable => "not-callable"
  | .arity => "arity-mismatch"

def nullSide (left right : Bool) : String :=
  if left && right then "both values are"
  else if left then "left value is"
  else "right value is"

inductive Cause where
  | undeclared (name : String)
  | negation (operand : ValueType)
  | operands (operator : String) (left right : ValueType)
  | stringOperation (operator : String)
  | nullOperand (left right : Bool)
  | divisionByZero
  | indexBase (base : ValueType)
  | indexType
  | indexRange (index : Int) (size : Nat)
  | unitBinding
  | notCallable (callee : ValueType)
  | functionArity (expected actual : Nat)
  | builtinArity (name : String) (expected : Int) (actual : Nat)
  | arrayArgument (name : String) (argument : ValueType)
  | lengthArgument (argument : ValueType)
  | reported (kind : ErrorKind) (message : String)
deriving DecidableEq

namespace Cause

def kind : Cause → ErrorKind
  | .undeclared _ => .undeclared
  | .negation _ | .operands _ _ _ | .stringOperation _ | .indexType | .arrayArgument _ _
  | .lengthArgument _ => .typeMismatch
  | .nullOperand _ _ => .nullOperand
  | .divisionByZero => .divisionByZero
  | .indexBase _ => .unsupportedIndex
  | .indexRange _ _ => .indexRange
  | .unitBinding => .unitBinding
  | .notCallable _ => .notCallable
  | .functionArity _ _ | .builtinArity _ _ _ => .arity
  | .reported kind _ => kind

def arityMessage (subject : String) (expected : Int) (actual : Nat) : String :=
  subject ++ " expects " ++ toString expected ++ " argument(s), got " ++ toString actual

def message : Cause → String
  | .undeclared name => "Variable " ++ name ++ " is not declared"
  | .negation operand => "Operation - not supported for type " ++ operand.name
  | .operands operator left right =>
      "Operation " ++ operator ++ " not supported for types " ++ left.name ++ " and " ++ right.name
  | .stringOperation operator => "Operation " ++ operator ++ " not supported between Strings"
  | .nullOperand left right => "Null value error: " ++ nullSide left right ++ " null"
  | .divisionByZero => "Cannot divide by 0"
  | .indexBase base => "Index operator not supported for " ++ base.name
  | .indexType => "Index to an array must be an Expression that yields an Integer"
  | .indexRange index size =>
      "Index " ++ toString index ++ " outside of range [0, " ++ toString size ++ ")"
  | .unitBinding => "Cannot bind unit (void) to a variable"
  | .notCallable callee => "Cannot call non Function object " ++ callee.name
  | .functionArity expected actual => arityMessage "Function" expected actual
  | .builtinArity name expected actual => arityMessage name expected actual
  | .arrayArgument name argument =>
      "Argument to " ++ name ++ " must be Array, got " ++ argument.name
  | .lengthArgument argument => "Argument to len not supported, got " ++ argument.name
  | .reported _ message => message

end Cause

structure EvaluationError where
  cause : Cause
  position : Position
deriving DecidableEq

namespace EvaluationError

def kind (error : EvaluationError) : ErrorKind := error.cause.kind

def message (error : EvaluationError) : String := error.cause.message

def text (error : EvaluationError) : String := error.position.annotate error.message

end EvaluationError

/-- What a program cannot be blamed for. `notValue` is a builtin that gave back no value,
`nestedReturn` a return of a return, and `zeroDivisor` a division by zero that was tried. -/
inductive Fault where
  | missingNode
  | unaryOperator (operator : String)
  | integerOperator (operator : String)
  | zeroDivisor (zero : ZeroDivisor)
  | notValue (builtin : String) (typeName : String)
  | nestedReturn
deriving DecidableEq

def Fault.message : Fault → String
  | .missingNode => "Expected code to be unreachable, but got: None"
  | .unaryOperator operator => "unreachable prefix operator " ++ quoted operator
  | .integerOperator operator => "unreachable integer operator " ++ quoted operator
  | .zeroDivisor zero => zero.message
  | .notValue builtin typeName =>
      "builtin " ++ builtin ++ " produced a non-Monkey value: " ++ typeName
  | .nestedReturn => ""

inductive Failure where
  | error (error : EvaluationError)
  | fault (fault : Fault)
deriving DecidableEq

end MonkeyLang
