import MonkeyLang.Text.Blank
import MonkeyLang.Text.Lowercase
import MonkeyLang.Text.Quoted

/-! What a function call does with the wrong number of arguments, and how a setting of the
surroundings chooses it. -/

namespace MonkeyLang

/-- Under `strict` a wrong number of arguments is an error; under `lenient` missing arguments are
null and extra ones are dropped. -/
inductive ArityPolicy where
  | strict
  | lenient
deriving DecidableEq

def ArityPolicy.name : ArityPolicy → String
  | .strict => "strict"
  | .lenient => "lenient"

def ArityPolicy.ofName? (name : String) : Option ArityPolicy :=
  [.strict, .lenient].find? (·.name == name)

theorem ArityPolicy.ofName?_eq_some {name : String} {policy : ArityPolicy} :
    ArityPolicy.ofName? name = some policy ↔ policy.name = name := by
  constructor
  · intro found
    simpa using List.find?_some found
  · rintro rfl
    cases policy <;> rfl

/-- A setting as it counts: trimmed and in lower case. One that is unset or blank counts as not
given. -/
def readSetting (raw : Option String) : Option String :=
  match raw with
  | none => none
  | some text => if trim text = "" then none else some (lowercase (trim text))

def policyName (setting : Option String) : String :=
  let name := (readSetting setting).getD ArityPolicy.strict.name
  if name = "" then ArityPolicy.strict.name else name

structure UnknownPolicy where
  name : String
deriving DecidableEq

def UnknownPolicy.message (unknown : UnknownPolicy) : String :=
  "MONKEY_ARITY_POLICY must be " ++ quoted ArityPolicy.strict.name ++ " or " ++
    quoted ArityPolicy.lenient.name ++ ", got " ++ quoted unknown.name

def ArityPolicy.ofSetting (setting : Option String) : Except UnknownPolicy ArityPolicy :=
  match ArityPolicy.ofName? (policyName setting) with
  | some policy => .ok policy
  | none => .error ⟨policyName setting⟩

end MonkeyLang
