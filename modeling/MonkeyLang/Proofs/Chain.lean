import MonkeyLang.Proofs.Integrity

/-! Going outward from a scope. Where parents are older than their children every such walk comes to
a scope without parent, so looking up a name ends, and with what the walk finds first. -/

namespace MonkeyLang.Store

/-- The scopes from one outward, up to the one that has no parent. -/
inductive Ascends (store : Store) : ScopeId → List ScopeId → Prop
  | top {scope : ScopeId} : store.parent? scope = none → Ascends store scope [scope]
  | up {scope parent : ScopeId} {above : List ScopeId} : store.parent? scope = some parent →
      Ascends store parent above → Ascends store scope (scope :: above)

inductive Finds (store : Store) (name : String) : ScopeId → Option Value → Prop
  | here {scope : ScopeId} {value : Value} : store.binding? scope name = some value →
      Finds store name scope (some value)
  | nowhere {scope : ScopeId} : store.binding? scope name = none → store.parent? scope = none →
      Finds store name scope none
  | above {scope parent : ScopeId} {result : Option Value} : store.binding? scope name = none →
      store.parent? scope = some parent → Finds store name parent result →
      Finds store name scope result

variable {store : Store} {scope : ScopeId} {name : String}

theorem chainFrom_ascends
    (older : ∀ id parent, store.parent? id = some parent → parent < id) {steps : Nat}
    (enough : scope < steps) : store.Ascends scope (store.chainFrom steps scope) := by
  induction steps generalizing scope with
  | zero => exact (Nat.not_lt_zero scope enough).elim
  | succ steps ih =>
      simp only [chainFrom]
      cases found : store.parent? scope with
      | none => exact .top found
      | some parent =>
          have below : parent < steps :=
            Nat.lt_of_lt_of_le (older scope parent found) (Nat.le_of_lt_succ enough)
          exact .up found (ih below)

theorem Ascends.finds {above : List ScopeId} (ascends : store.Ascends scope above) :
    store.Finds name scope (above.findSome? (store.binding? · name)) := by
  induction ascends with
  | @top scope last =>
      cases bound : store.binding? scope name with
      | none => simpa [bound] using Finds.nowhere bound last
      | some value => simpa [bound] using Finds.here bound
  | @up scope parent above found ascends ih =>
      cases bound : store.binding? scope name with
      | none => simpa [bound] using Finds.above bound found ih
      | some value => simpa [bound] using Finds.here bound

theorem Finds.unique {result other : Option Value} (first : store.Finds name scope result)
    (second : store.Finds name scope other) : result = other := by
  induction first with
  | here bound =>
      cases second with
      | here again => exact bound.symm.trans again
      | nowhere unbound _ => simp [bound] at unbound
      | above unbound _ _ => simp [bound] at unbound
  | nowhere unbound last =>
      cases second with
      | here bound => simp [unbound] at bound
      | nowhere _ _ => rfl
      | above _ found _ => simp [last] at found
  | above unbound found _ ih =>
      cases second with
      | here bound => simp [unbound] at bound
      | nowhere _ last => simp [found] at last
      | above _ again further =>
          have same := Option.some.inj (found.symm.trans again)
          exact ih (same ▸ further)

theorem Intact.ascends (intact : store.Intact) (scope : ScopeId) :
    store.Ascends scope (store.chain scope) :=
  chainFrom_ascends intact.parents (Nat.lt_succ_self scope)

theorem Intact.finds_iff (intact : store.Intact) (scope : ScopeId) (name : String)
    (result : Option Value) : store.Finds name scope result ↔ result = store.lookup scope name := by
  have found : store.Finds name scope (store.lookup scope name) := (intact.ascends scope).finds
  constructor
  · exact fun other => other.unique found
  · rintro rfl
    exact found

theorem Extends.parent?_eq {after : Store} (grown : store.Extends after)
    (present : scope < store.scopes.size) : after.parent? scope = store.parent? scope := by
  have found := Array.getElem?_eq_getElem present
  obtain ⟨later, foundLater, kept⟩ := grown.scopes scope _ found
  simp [parent?, foundLater, found, kept.parent]

section Grown

variable {after : Store} (layered : store.Layered) (present : scope < store.scopes.size)
include layered present

theorem chainFrom_of_parents (same : ∀ id < store.scopes.size, after.parent? id = store.parent? id)
    (steps : Nat) : after.chainFrom steps scope = store.chainFrom steps scope := by
  induction steps generalizing scope with
  | zero => rfl
  | succ steps ih =>
      simp only [chainFrom, same scope present]
      cases found : store.parent? scope with
      | none => rfl
      | some parent =>
          simp only [ih (Nat.lt_trans (layered scope parent found) present)]

theorem Ascends.of_parents (same : ∀ id < store.scopes.size, after.parent? id = store.parent? id)
    {above : List ScopeId} (ascends : store.Ascends scope above) : after.Ascends scope above := by
  induction ascends with
  | @top scope last => exact .top ((same scope present).trans last)
  | @up scope parent above found _ ih =>
      have inner := ih (Nat.lt_trans (layered scope parent found) present)
      exact .up ((same scope present).trans found) inner

theorem finds_of_parents (same : ∀ id < store.scopes.size, after.parent? id = store.parent? id)
    (name : String) : after.Finds name scope (after.lookup scope name) := by
  have ascends := chainFrom_ascends layered (Nat.lt_succ_self scope)
  rw [lookup, chain, chainFrom_of_parents layered present same]
  exact (ascends.of_parents layered present same).finds

theorem Finds.of_kept (kept : ∀ id < store.scopes.size, after.scopes[id]? = store.scopes[id]?)
    {result : Option Value} (finds : store.Finds name scope result) :
    after.Finds name scope result := by
  induction finds with
  | @here scope value bound => exact .here (by rwa [binding?, kept scope present])
  | @nowhere scope unbound last =>
      exact .nowhere (by rwa [binding?, kept scope present]) (by rwa [parent?, kept scope present])
  | @above scope parent result unbound found _ ih =>
      have inner := ih (Nat.lt_trans (layered scope parent found) present)
      exact .above (by rwa [binding?, kept scope present]) (by rwa [parent?, kept scope present]) inner

theorem lookup_of_kept (kept : ∀ id < store.scopes.size, after.scopes[id]? = store.scopes[id]?)
    (name : String) : after.lookup scope name = store.lookup scope name := by
  have same (id : ScopeId) (below : id < store.scopes.size) :
      after.parent? id = store.parent? id := by
    simp only [parent?, kept id below]
  have finds : store.Finds name scope (store.lookup scope name) :=
    finds_of_parents layered present (fun _ _ => rfl) name
  exact (finds_of_parents layered present same name).unique (finds.of_kept layered present kept)

end Grown

end MonkeyLang.Store
