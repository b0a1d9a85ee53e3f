import MonkeyLang.Store

/-! A run only adds to the store. Scopes stay where they are, with their parents and settings, and
no name in them is forgotten; settings and registered builtins do not change at all. -/

namespace MonkeyLang

structure Scope.Extends (before after : Scope) : Prop where
  parent : after.parent = before.parent
  settings : after.settings = before.settings
  bound : ∀ name, (before.bindings.find? name).isSome → (after.bindings.find? name).isSome

theorem Scope.Extends.refl (scope : Scope) : scope.Extends scope := ⟨rfl, rfl, fun _ bound => bound⟩

theorem Scope.Extends.trans {first second third : Scope} (former : first.Extends second)
    (latter : second.Extends third) : first.Extends third := by
  refine ⟨?_, ?_, ?_⟩
  · rw [latter.parent, former.parent]
  · rw [latter.settings, former.settings]
  · exact fun name bound => latter.bound name (former.bound name bound)

namespace Store

structure Extends (before after : Store) : Prop where
  scopes : ∀ (id : ScopeId) (scope : Scope), before.scopes[id]? = some scope →
    ∃ later, after.scopes[id]? = some later ∧ scope.Extends later
  settings : after.settings = before.settings
  registry : after.registry = before.registry
  stockLoaded : after.stockLoaded = before.stockLoaded
  identities : before.nextIdentity ≤ after.nextIdentity
  writes : before.writes.toList <+: after.writes.toList
  log : before.log.toList <+: after.log.toList

theorem Extends.refl (store : Store) : store.Extends store where
  scopes := fun _ scope found => ⟨scope, found, .refl scope⟩
  settings := rfl
  registry := rfl
  stockLoaded := rfl
  identities := Nat.le_refl _
  writes := List.prefix_refl _
  log := List.prefix_refl _

theorem Extends.trans {first second third : Store} (former : first.Extends second)
    (latter : second.Extends third) : first.Extends third where
  scopes := by
    intro id scope found
    obtain ⟨middle, foundMiddle, formerly⟩ := former.scopes id scope found
    obtain ⟨last, foundLast, latterly⟩ := latter.scopes id middle foundMiddle
    exact ⟨last, foundLast, formerly.trans latterly⟩
  settings := latter.settings.trans former.settings
  registry := latter.registry.trans former.registry
  stockLoaded := latter.stockLoaded.trans former.stockLoaded
  identities := Nat.le_trans former.identities latter.identities
  writes := former.writes.trans latter.writes
  log := former.log.trans latter.log

theorem getElem?_assign_same {store : Store} {scope : ScopeId} {found : Scope} (name : String)
    (value : Value) (foundHere : store.scopes[scope]? = some found) :
    (store.assign scope name value).scopes[scope]? =
      some { found with bindings := found.bindings.insert name value } := by
  simp [assign, Array.getElem?_modify, foundHere]

theorem getElem?_assign_other (store : Store) {scope other : ScopeId} (name : String)
    (value : Value) (different : scope ≠ other) :
    (store.assign scope name value).scopes[other]? = store.scopes[other]? := by
  simp [assign, Array.getElem?_modify, different]

theorem extends_assign (store : Store) (scope : ScopeId) (name : String) (value : Value) :
    store.Extends (store.assign scope name value) where
  scopes := by
    intro id found foundHere
    by_cases same : scope = id
    · subst same
      refine ⟨_, getElem?_assign_same name value foundHere, rfl, rfl, ?_⟩
      intro query bound
      simp only [Dictionary.find?_insert]
      split
      · rfl
      · exact bound
    · rw [store.getElem?_assign_other name value same]
      exact ⟨found, foundHere, .refl found⟩
  settings := rfl
  registry := rfl
  stockLoaded := rfl
  identities := Nat.le_refl _
  writes := List.prefix_refl _
  log := List.prefix_refl _

theorem getElem?_addScope {store : Store} {id : ScopeId} {found : Scope} (scope : Scope)
    (foundHere : store.scopes[id]? = some found) :
    (store.addScope scope).2.scopes[id]? = some found := by
  obtain ⟨bound, _⟩ := Array.getElem?_eq_some_iff.mp foundHere
  simp only [addScope, Array.getElem?_push, foundHere]
  split
  · omega
  · rfl

theorem extends_addScope (store : Store) (scope : Scope) :
    store.Extends (store.addScope scope).2 where
  scopes := fun _ found foundHere => ⟨found, getElem?_addScope scope foundHere, .refl found⟩
  settings := rfl
  registry := rfl
  stockLoaded := rfl
  identities := Nat.le_refl _
  writes := List.prefix_refl _
  log := List.prefix_refl _

theorem extends_addChild (store : Store) (parent : ScopeId) (bindings : Dictionary Value) :
    store.Extends (store.addChild parent bindings).2 :=
  store.extends_addScope _

theorem extends_freshIdentity (store : Store) : store.Extends store.freshIdentity.2 where
  scopes := fun _ scope found => ⟨scope, found, .refl scope⟩
  settings := rfl
  registry := rfl
  stockLoaded := rfl
  identities := Nat.le_succ _
  writes := List.prefix_refl _
  log := List.prefix_refl _

theorem extends_addArray (store : Store) (elements : List Value) :
    store.Extends (store.addArray elements).2 :=
  store.extends_freshIdentity

theorem extends_addFunction (store : Store) (closure : Closure) :
    store.Extends (store.addFunction closure).2 :=
  store.extends_freshIdentity

theorem extends_write (store : Store) (sink : Sink) (texts : List String) :
    store.Extends (store.write sink texts) where
  scopes := fun _ scope found => ⟨scope, found, .refl scope⟩
  settings := rfl
  registry := rfl
  stockLoaded := rfl
  identities := Nat.le_refl _
  writes := by simp [write]
  log := List.prefix_refl _

theorem extends_record (store : Store) (line : LogLine) : store.Extends (store.record line) where
  scopes := fun _ scope found => ⟨scope, found, .refl scope⟩
  settings := rfl
  registry := rfl
  stockLoaded := rfl
  identities := Nat.le_refl _
  writes := List.prefix_refl _
  log := by simp [record]

end Store

end MonkeyLang
