import MonkeyLang.Failure
import MonkeyLang.Policy

/-! Lines of the log that tells what a run does. -/

namespace MonkeyLang

inductive LogLine where
  | session (policy : ArityPolicy)
  | registered (name : String)
  | calling (parameters arguments : Nat) (policy : ArityPolicy)
  | unitFailed (position : Position) (error : EvaluationError)
deriving DecidableEq

def LogLine.text : LogLine → String
  | .session policy => "new session, arity policy " ++ policy.name
  | .registered name => "registered builtin " ++ name
  | .calling parameters arguments policy =>
      "calling fn/" ++ toString parameters ++ " with " ++ toString arguments ++
        " arg(s) under " ++ policy.name
  | .unitFailed position error =>
      "evaluation of unit at " ++ position.text ++ " failed: " ++ error.text

end MonkeyLang
