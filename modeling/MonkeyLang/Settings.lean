import MonkeyLang.Policy

/-! What a session is set to, and where its output goes. -/

namespace MonkeyLang

inductive Sink where
  | standard
  | named (label : String)
deriving DecidableEq

structure Settings where
  policy : ArityPolicy
  sink : Sink
deriving DecidableEq

def Settings.default : Settings := ⟨.strict, .standard⟩

structure Write where
  sink : Sink
  text : String
deriving DecidableEq

end MonkeyLang
