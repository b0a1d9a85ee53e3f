import MonkeyLang.Position

/-! Syntax trees. Any tree may stand in any position of another one, operators are kept as they
were spelled, and integer literals have any size. -/

namespace MonkeyLang

/-- `missing` is the hole where no tree was given; as the alternative of a conditional it says that
there is none. -/
inductive Node where
  | missing
  | program (position : Position) (statements : List Node)
  | block (position : Position) (statements : List Node)
  | expressionStatement (position : Position) (expression : Node)
  | letStatement (position : Position) (name : String) (value : Node)
  | returnStatement (position : Position) (value : Node)
  | identifier (position : Position) (name : String)
  | integer (position : Position) (number : Int)
  | boolean (position : Position) (flag : Bool)
  | string (position : Position) (text : String)
  | null (position : Position)
  | unit (position : Position)
  | array (position : Position) (elements : List Node)
  | index (position : Position) (base index : Node)
  | unary (position : Position) (operator : String) (operand : Node)
  | binary (position : Position) (operator : String) (left right : Node)
  | conditional (position : Position) (condition consequence alternative : Node)
  | function (position : Position) (parameters : List String) (body : Node)
  | call (position : Position) (callee : Node) (arguments : List Node)

namespace Node

def position : Node → Position
  | .missing => .unknown
  | .program position _ | .block position _ | .expressionStatement position _
  | .letStatement position _ _ | .returnStatement position _ | .identifier position _
  | .integer position _ | .boolean position _ | .string position _ | .null position
  | .unit position | .array position _ | .index position _ _ | .unary position _ _
  | .binary position _ _ _ | .conditional position _ _ _ | .function position _ _
  | .call position _ _ => position

def isMissing : Node → Bool
  | .missing => true
  | _ => false

end Node

end MonkeyLang
