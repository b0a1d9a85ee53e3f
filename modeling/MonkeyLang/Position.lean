/-! Places in the text that a tree was built from. Either coordinate may be unknown, and zero or
negative coordinates are known ones. -/

namespace MonkeyLang

structure Position where
  line : Option Int
  column : Option Int
deriving DecidableEq

def Position.unknown : Position := ⟨none, none⟩

def Position.start : Position := ⟨some 1, some 1⟩

/-- Adds the place to a message. A column is worth telling only beside its line. -/
def Position.annotate (position : Position) (message : String) : String :=
  match position.line, position.column with
  | none, _ => message
  | some line, none => message ++ " (line " ++ toString line ++ ")"
  | some line, some column =>
      message ++ " (line " ++ toString line ++ ", col " ++ toString column ++ ")"

def coordinateText : Option Int → String
  | none => "None"
  | some coordinate => toString coordinate

def Position.text (position : Position) : String :=
  coordinateText position.line ++ ":" ++ coordinateText position.column

end MonkeyLang
