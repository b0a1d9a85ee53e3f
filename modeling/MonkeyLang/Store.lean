import MonkeyLang.Dictionary
import MonkeyLang.LogLine
import MonkeyLang.Settings
import MonkeyLang.Value

/-! The state of a run: lexical scopes, the settings that sessions share, the registered builtins,
and what has been written and logged so far. -/

namespace MonkeyLang

/-- Names a settings object of the store. Scopes share settings by naming the same one. -/
abbrev SettingsId := Nat

structure Scope where
  parent : Option ScopeId
  bindings : Dictionary Value
  settings : SettingsId

structure Builtin where
  identity : Identity
  name : String
  action : Action Value

def Builtin.value (builtin : Builtin) : Value :=
  .builtin builtin.identity builtin.name builtin.action

/-- `stockLoaded` tells whether the builtins that are always there have been registered yet. -/
structure Store where
  scopes : Array Scope
  settings : Array Settings
  registry : Dictionary Builtin
  stockLoaded : Bool
  nextIdentity : Identity
  writes : Array Write
  log : Array LogLine

namespace Store

def empty : Store where
  scopes := #[]
  settings := #[]
  registry := .empty
  stockLoaded := false
  nextIdentity := 0
  writes := #[]
  log := #[]

def parent? (store : Store) (scope : ScopeId) : Option ScopeId :=
  (store.scopes[scope]?).bind (·.parent)

def binding? (store : Store) (scope : ScopeId) (name : String) : Option Value :=
  (store.scopes[scope]?).bind (·.bindings.find? name)

def chainFrom (store : Store) : Nat → ScopeId → List ScopeId
  | 0, _ => []
  | steps + 1, scope =>
      scope :: match store.parent? scope with
        | none => []
        | some parent => store.chainFrom steps parent

/-- A scope and its parents, nearest first. A parent is older than its children, so the number of a
scope bounds how many parents it has. -/
def chain (store : Store) (scope : ScopeId) : List ScopeId := store.chainFrom (scope + 1) scope

def lookup (store : Store) (scope : ScopeId) (name : String) : Option Value :=
  (store.chain scope).findSome? (store.binding? · name)

def settingsOf (store : Store) (scope : ScopeId) : Settings :=
  ((store.scopes[scope]?).bind fun found => store.settings[found.settings]?).getD .default

def locals (store : Store) (scope : ScopeId) : List (String × Value) :=
  match store.scopes[scope]? with
  | some found => found.bindings.sorted
  | none => []

def assign (store : Store) (scope : ScopeId) (name : String) (value : Value) : Store :=
  { store with
    scopes := store.scopes.modify scope fun found =>
      { found with bindings := found.bindings.insert name value } }

theorem binding?_assign (store : Store) (scope other : ScopeId) (name query : String)
    (value : Value) :
    (store.assign scope name value).binding? other query =
      if scope = other ∧ scope < store.scopes.size ∧ name = query then some value
      else store.binding? other query := by
  simp only [binding?, assign, Array.getElem?_modify]
  by_cases same : scope = other
  · subst same
    by_cases bound : scope < store.scopes.size <;> simp [bound, Dictionary.find?_insert]
  · simp [same]

theorem parent?_assign (store : Store) (scope other : ScopeId) (name : String) (value : Value) :
    (store.assign scope name value).parent? other = store.parent? other := by
  simp only [parent?, assign, Array.getElem?_modify]
  by_cases same : scope = other
  · subst same
    cases store.scopes[scope]? <;> simp
  · simp [same]

def addScope (store : Store) (scope : Scope) : ScopeId × Store :=
  (store.scopes.size, { store with scopes := store.scopes.push scope })

def addSettings (store : Store) (settings : Settings) : SettingsId × Store :=
  (store.settings.size, { store with settings := store.settings.push settings })

def addRoot (store : Store) (settings : Settings) : ScopeId × Store :=
  let (settingsId, store) := store.addSettings settings
  store.addScope ⟨none, .empty, settingsId⟩

def addChild (store : Store) (parent : ScopeId) (bindings : Dictionary Value) :
    ScopeId × Store :=
  let settingsId := ((store.scopes[parent]?).map (·.settings)).getD 0
  store.addScope ⟨some parent, bindings, settingsId⟩

def addNested (store : Store) (parent : ScopeId) (settings : Settings) : ScopeId × Store :=
  let (settingsId, store) := store.addSettings settings
  store.addScope ⟨some parent, .empty, settingsId⟩

/-- Changes the policy for every scope that shares the settings of this one. -/
def setPolicy (store : Store) (scope : ScopeId) (policy : ArityPolicy) : Store :=
  match store.scopes[scope]? with
  | none => store
  | some found =>
      { store with
        settings := store.settings.modify found.settings fun settings => { settings with policy } }

def freshIdentity (store : Store) : Identity × Store :=
  (store.nextIdentity, { store with nextIdentity := store.nextIdentity + 1 })

def addArray (store : Store) (elements : List Value) : Value × Store :=
  let (identity, store) := store.freshIdentity
  (.array identity elements, store)

def addFunction (store : Store) (closure : Closure) : Value × Store :=
  let (identity, store) := store.freshIdentity
  (.function identity closure, store)

/-- Lets a host hold a return. One that was held before is still the same. -/
def addReturn (store : Store) (origin : Option Identity) (result : Value) : Value × Store :=
  match origin with
  | some identity => (.pendingReturn identity result, store)
  | none =>
      let (identity, store) := store.freshIdentity
      (.pendingReturn identity result, store)

def write (store : Store) (sink : Sink) (texts : List String) : Store :=
  { store with writes := store.writes ++ texts.map (Write.mk sink) }

def record (store : Store) (line : LogLine) : Store :=
  { store with log := store.log.push line }

def clearOutput (store : Store) : Store :=
  { store with writes := #[], log := #[] }

/-- Whoever holds the builtin that had the name before keeps it. -/
def register (store : Store) (name : String) (action : Action Value) : Store :=
  let (identity, store) := store.freshIdentity
  { store with registry := store.registry.insert name ⟨identity, name, action⟩ }.record
    (.registered name)

def builtin? (store : Store) (name : String) : Option Builtin := store.registry.find? name

end Store

end MonkeyLang
