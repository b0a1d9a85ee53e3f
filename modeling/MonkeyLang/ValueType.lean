/-! The types that values have at run time. -/

namespace MonkeyLang

/-- The eight types of the language, and `returnSignal` for a return under way, which is no value of
it. -/
inductive ValueType where
  | null
  | unit
  | boolean
  | integer
  | string
  | array
  | function
  | builtin
  | returnSignal
deriving DecidableEq

/-- How messages call a type. A return under way has no type that the language could name: its name
here is the one in the fault of a builtin that gives it back. -/
def ValueType.name : ValueType → String
  | .null => "Null"
  | .unit => "Unit"
  | .boolean => "Boolean"
  | .integer => "Integer"
  | .string => "String"
  | .array => "Array"
  | .function => "Function"
  | .builtin => "Builtin"
  | .returnSignal => "ReturnSignal"

end MonkeyLang
