import MonkeyLang.Store

/-! What a program that runs in a scope can come by: the scope, its parents and their settings, what
is bound there and registered as builtin, and whatever these are made of. -/

namespace MonkeyLang

namespace Value

def parts : Value → List Value
  | .array _ elements => elements
  | .builtin _ _ (.constant held) => [held]
  | .pendingReturn _ result => [result]
  | _ => []

theorem induct_parts {motive : Value → Prop}
    (step : ∀ value, (∀ part ∈ value.parts, motive part) → motive value) (value : Value) :
    motive value := by
  have leaf (value : Value) (partless : value.parts = []) : motive value := by
    apply step
    simp [partless]
  refine @Value.rec motive (fun values => ∀ value ∈ values, motive value)
    (fun action => ∀ held, action = .constant held → motive held)
    ?null ?unit ?boolean ?integer ?string ?array ?function ?builtin ?pendingReturn ?nil ?cons
    ?len ?first ?last ?rest ?push ?puts ?constant ?arguments ?policy ?write ?fail ?foreign value
  case null => exact leaf _ rfl
  case unit => exact leaf _ rfl
  case boolean => exact fun _ => leaf _ rfl
  case integer => exact fun _ => leaf _ rfl
  case string => exact fun _ => leaf _ rfl
  case array => exact fun _ _ elements => step _ elements
  case function => exact fun _ _ => leaf _ rfl
  case builtin =>
    intro identity name action holds
    cases action with
    | constant held => exact step _ (by simpa [parts] using holds held rfl)
    | _ => exact leaf _ rfl
  case pendingReturn => exact fun _ _ result => step _ (by simpa [parts])
  case constant =>
    intro result holds held same
    cases same
    exact holds
  case nil => simp
  case cons => exact fun _ _ head tail => by simpa using ⟨head, tail⟩
  all_goals
    intros
    rename_i same
    cases same

inductive Contains : Value → Value → Prop
  | self (value : Value) : Contains value value
  | inside {value part inner : Value} : part ∈ value.parts → Contains part inner →
      Contains value inner

def Throughout (good : Value → Prop) (value : Value) : Prop :=
  ∀ inner, value.Contains inner → good inner

theorem throughout_iff {good : Value → Prop} {value : Value} :
    value.Throughout good ↔ good value ∧ ∀ part ∈ value.parts, part.Throughout good := by
  constructor
  · intro all
    exact ⟨all value (.self value), fun part member inner found => all inner (.inside member found)⟩
  · rintro ⟨here, deeper⟩ inner found
    cases found with
    | self => exact here
    | inside member found => exact deeper _ member inner found

theorem throughout_of_partless {good : Value → Prop} {value : Value} (partless : value.parts = [])
    (holds : good value) : value.Throughout good := by
  rw [throughout_iff, partless]
  exact ⟨holds, nofun⟩

theorem Throughout.part {good : Value → Prop} {value part : Value} (all : value.Throughout good)
    (member : part ∈ value.parts) : part.Throughout good :=
  (throughout_iff.mp all).2 part member

theorem Throughout.imp {good better : Value → Prop} {value : Value}
    (all : value.Throughout good) (implied : ∀ inner, good inner → better inner) :
    value.Throughout better :=
  fun inner contained => implied inner (all inner contained)

end Value

inductive Thing where
  | scope (id : ScopeId)
  | settings (id : SettingsId)
  | value (item : Value)

namespace Store

inductive LeadsTo (store : Store) : Thing → Thing → Prop
  | parent {id parent : ScopeId} : store.parent? id = some parent →
      LeadsTo store (.scope id) (.scope parent)
  | settings {id : ScopeId} {found : Scope} : store.scopes[id]? = some found →
      LeadsTo store (.scope id) (.settings found.settings)
  | binding {id : ScopeId} {name : String} {item : Value} : store.binding? id name = some item →
      LeadsTo store (.scope id) (.value item)
  | part {item part : Value} : part ∈ item.parts → LeadsTo store (.value item) (.value part)
  | closure (identity : Identity) (closure : Closure) :
      LeadsTo store (.value (.function identity closure)) (.scope closure.scope)

/-- Everything that can be reached from a scope and from the registered builtins. -/
inductive Reachable (store : Store) (home : ScopeId) : Thing → Prop
  | home : Reachable store home (.scope home)
  | registered {name : String} {builtin : Builtin} : store.builtin? name = some builtin →
      Reachable store home (.value builtin.value)
  | further {thing next : Thing} : Reachable store home thing → store.LeadsTo thing next →
      Reachable store home next

theorem Reachable.contains {store : Store} {home : ScopeId} {item inner : Value}
    (reachable : store.Reachable home (.value item)) (contained : item.Contains inner) :
    store.Reachable home (.value inner) := by
  induction contained with
  | self => exact reachable
  | inside member contained ih => exact ih (.further reachable (.part member))

end Store

end MonkeyLang
