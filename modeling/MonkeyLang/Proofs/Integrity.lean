import MonkeyLang.Proofs.Discipline
import MonkeyLang.Proofs.Likeness

/-! Stores in which nothing refers to a scope, settings or an identity that is not there yet. Every
evaluation keeps them so, and the scopes that it makes share the settings of their parents. -/

namespace MonkeyLang

namespace Store

def HasMade (store : Store) : Value → Prop
  | .array identity _ => identity < store.nextIdentity
  | .function identity closure =>
      identity < store.nextIdentity ∧ closure.scope < store.scopes.size
  | _ => True

def Knows (store : Store) (value : Value) : Prop := value.Throughout store.HasMade

def Layered (store : Store) : Prop := ∀ id parent, store.parent? id = some parent → parent < id

structure Intact (store : Store) : Prop where
  parents : ∀ id parent, store.parent? id = some parent → parent < id
  settings : ∀ (id : ScopeId) (scope : Scope), store.scopes[id]? = some scope →
    scope.settings < store.settings.size
  bindings : ∀ id name value, store.binding? id name = some value → store.Knows value
  registry : ∀ name builtin, store.builtin? name = some builtin → store.Knows builtin.value

def settingsId? (store : Store) (id : ScopeId) : Option SettingsId :=
  (store.scopes[id]?).map (·.settings)

/-- A scope inside another one shares its settings, unless it is among those with their own. -/
def Inherits (store : Store) (own : List ScopeId) : Prop :=
  ∀ id parent, id ∉ own → store.parent? id = some parent →
    store.settingsId? id = store.settingsId? parent

theorem settingsOf_eq (store : Store) (scope : ScopeId) :
    store.settingsOf scope = ((store.settingsId? scope).bind (store.settings[·]?)).getD .default := by
  simp only [settingsOf, settingsId?, Option.bind_map]
  rfl

section Knowing

variable {store after : Store} {value : Value}

theorem HasMade.grows (made : store.HasMade value)
    (scopes : store.scopes.size ≤ after.scopes.size)
    (identities : store.nextIdentity ≤ after.nextIdentity) : after.HasMade value := by
  cases value with
  | array identity elements => exact Nat.lt_of_lt_of_le made identities
  | function identity closure =>
      exact ⟨Nat.lt_of_lt_of_le made.1 identities, Nat.lt_of_lt_of_le made.2 scopes⟩
  | _ => exact trivial

theorem Knows.grows (known : store.Knows value) (scopes : store.scopes.size ≤ after.scopes.size)
    (identities : store.nextIdentity ≤ after.nextIdentity) : after.Knows value :=
  known.imp fun _ made => made.grows scopes identities

theorem lt_of_parent? {id parent : ScopeId} (found : store.parent? id = some parent) :
    id < store.scopes.size := by
  obtain ⟨scope, present, _⟩ := Option.bind_eq_some_iff.mp found
  exact (Array.getElem?_eq_some_iff.mp present).1

theorem lt_of_binding? {id : ScopeId} {name : String} (found : store.binding? id name = some value) :
    id < store.scopes.size := by
  obtain ⟨scope, present, _⟩ := Option.bind_eq_some_iff.mp found
  exact (Array.getElem?_eq_some_iff.mp present).1

theorem Extends.size_le {before : Store} (grown : before.Extends after) :
    before.scopes.size ≤ after.scopes.size := by
  by_cases empty : before.scopes.size = 0
  · omega
  · have last : before.scopes.size - 1 < before.scopes.size := by omega
    obtain ⟨later, found, _⟩ := grown.scopes _ _ (Array.getElem?_eq_getElem last)
    have bound := (Array.getElem?_eq_some_iff.mp found).1
    omega

theorem knows_scalar (scalar : value.IsScalar) : store.Knows value := by
  apply Value.throughout_of_partless
  · cases scalar <;> rfl
  · cases scalar <;> exact trivial

theorem knows_array {elements : List Value} (known : ∀ item ∈ elements, store.Knows item) :
    (store.addArray elements).2.Knows (store.addArray elements).1 := by
  rw [Knows, Value.throughout_iff]
  refine ⟨Nat.lt_succ_self _, fun item member => ?_⟩
  exact (known item member).grows (Nat.le_refl _) (Nat.le_succ _)

theorem knows_function {closure : Closure} (present : closure.scope < store.scopes.size) :
    (store.addFunction closure).2.Knows (store.addFunction closure).1 :=
  Value.throughout_of_partless rfl ⟨Nat.lt_succ_self _, present⟩

end Knowing

section Keeping

variable {store after : Store} {own : List ScopeId}

theorem Intact.of_same (intact : store.Intact) (scopes : after.scopes = store.scopes)
    (settings : store.settings.size ≤ after.settings.size)
    (registry : after.registry = store.registry)
    (identities : store.nextIdentity ≤ after.nextIdentity) : after.Intact where
  parents := by
    intro id parent found
    apply intact.parents
    simpa only [parent?, scopes] using found
  settings := by
    intro id scope found
    rw [scopes] at found
    exact Nat.lt_of_lt_of_le (intact.settings id scope found) settings
  bindings := by
    intro id name value found
    have known := intact.bindings id name value (by simpa only [binding?, scopes] using found)
    exact known.grows (Nat.le_of_eq (congrArg Array.size scopes.symm)) identities
  registry := by
    intro name builtin found
    have known := intact.registry name builtin (by simpa only [builtin?, registry] using found)
    exact known.grows (Nat.le_of_eq (congrArg Array.size scopes.symm)) identities

theorem Inherits.of_same (inherits : store.Inherits own) (scopes : after.scopes = store.scopes) :
    after.Inherits own := by
  simp only [Inherits, parent?, settingsId?, scopes]
  exact inherits

theorem kept_of_same (kept : store.Intact ∧ store.Inherits own)
    (scopes : after.scopes = store.scopes) (settings : after.settings = store.settings)
    (registry : after.registry = store.registry)
    (identities : store.nextIdentity ≤ after.nextIdentity) : after.Intact ∧ after.Inherits own :=
  ⟨kept.1.of_same scopes (Nat.le_of_eq (congrArg Array.size settings.symm)) registry identities,
    kept.2.of_same scopes⟩

theorem settingsId?_assign (store : Store) (scope other : ScopeId) (name : String)
    (value : Value) :
    (store.assign scope name value).settingsId? other = store.settingsId? other := by
  simp only [settingsId?, assign, Array.getElem?_modify]
  by_cases same : scope = other
  · subst same
    cases store.scopes[scope]? <;> simp
  · simp [same]

theorem Layered.assign (layered : store.Layered) (scope : ScopeId) (name : String) (value : Value) :
    (store.assign scope name value).Layered := by
  intro id parent found
  rw [parent?_assign] at found
  exact layered id parent found

theorem Intact.assign (intact : store.Intact) (scope : ScopeId) (name : String) {value : Value}
    (known : store.Knows value) : (store.assign scope name value).Intact where
  parents := Layered.assign intact.parents scope name value
  settings := by
    intro id found present
    have same := store.settingsId?_assign scope id name value
    simp only [settingsId?, present, Option.map_some] at same
    obtain ⟨former, presentFormer, settings⟩ := Option.map_eq_some_iff.mp same.symm
    rw [← settings]
    exact intact.settings id former presentFormer
  bindings := by
    intro id query item found
    have size : store.scopes.size ≤ (store.assign scope name value).scopes.size := by
      simp [Store.assign]
    rw [binding?_assign] at found
    split at found
    · cases found
      exact known.grows size (Nat.le_refl _)
    · exact (intact.bindings id query item found).grows size (Nat.le_refl _)
  registry := by
    intro query builtin found
    have size : store.scopes.size ≤ (store.assign scope name value).scopes.size := by
      simp [Store.assign]
    exact (intact.registry query builtin found).grows size (Nat.le_refl _)

theorem Inherits.assign (inherits : store.Inherits own) (scope : ScopeId) (name : String)
    (value : Value) : (store.assign scope name value).Inherits own := by
  intro id parent shared found
  rw [parent?_assign] at found
  rw [settingsId?_assign, settingsId?_assign]
  exact inherits id parent shared found

section Adding

variable {added : Scope}

theorem getElem?_addScope_eq (store : Store) (added : Scope) (id : ScopeId) :
    (store.addScope added).2.scopes[id]? =
      if id = store.scopes.size then some added else store.scopes[id]? :=
  Array.getElem?_push

theorem getElem?_addScope_self (store : Store) (added : Scope) :
    (store.addScope added).2.scopes[(store.addScope added).1]? = some added := by
  rw [getElem?_addScope_eq]
  exact if_pos rfl

theorem Layered.addScope (layered : store.Layered)
    (older : ∀ parent, added.parent = some parent → parent < store.scopes.size) :
    (store.addScope added).2.Layered := by
  intro id parent found
  simp only [parent?, getElem?_addScope_eq] at found
  by_cases new : id = store.scopes.size
  · rw [new]
    exact older parent (by simpa [new] using found)
  · rw [if_neg new] at found
    exact layered id parent found

theorem Intact.addScope (intact : store.Intact)
    (older : ∀ parent, added.parent = some parent → parent < store.scopes.size)
    (settings : added.settings < store.settings.size)
    (known : ∀ name value, added.bindings.find? name = some value → store.Knows value) :
    (store.addScope added).2.Intact where
  parents := Layered.addScope intact.parents older
  settings := by
    intro id scope found
    rw [getElem?_addScope_eq] at found
    by_cases new : id = store.scopes.size
    · rw [if_pos new] at found
      cases found
      exact settings
    · rw [if_neg new] at found
      exact intact.settings id scope found
  bindings := by
    intro id name value found
    have larger : store.scopes.size ≤ (store.addScope added).2.scopes.size := by
      simp [Store.addScope]
    simp only [binding?, getElem?_addScope_eq] at found
    by_cases new : id = store.scopes.size
    · exact (known name value (by simpa [new] using found)).grows larger (Nat.le_refl _)
    · rw [if_neg new] at found
      exact (intact.bindings id name value found).grows larger (Nat.le_refl _)
  registry := by
    intro name builtin found
    have larger : store.scopes.size ≤ (store.addScope added).2.scopes.size := by
      simp [Store.addScope]
    exact (intact.registry name builtin found).grows larger (Nat.le_refl _)

theorem Inherits.addScope (inherits : store.Inherits own) (intact : store.Intact)
    (shared : store.scopes.size ∉ own → ∀ parent, added.parent = some parent →
      parent < store.scopes.size ∧ store.settingsId? parent = some added.settings) :
    (store.addScope added).2.Inherits own := by
  intro id parent listed found
  simp only [parent?, settingsId?, getElem?_addScope_eq] at found ⊢
  by_cases new : id = store.scopes.size
  · obtain ⟨present, same⟩ := shared (new ▸ listed) parent (by simpa [new] using found)
    have older : parent ≠ store.scopes.size := Nat.ne_of_lt present
    rw [if_pos new, if_neg older]
    exact same.symm
  · rw [if_neg new] at found ⊢
    have below : id < store.scopes.size := lt_of_parent? found
    have older := intact.parents id parent found
    have elder : parent ≠ store.scopes.size := Nat.ne_of_lt (Nat.lt_trans older below)
    rw [if_neg elder]
    exact inherits id parent listed found

end Adding

theorem Intact.settingsId?_isSome (intact : store.Intact) {scope : ScopeId}
    (present : scope < store.scopes.size) :
    ∃ id, store.settingsId? scope = some id ∧ id < store.settings.size := by
  have found := Array.getElem?_eq_getElem present
  exact ⟨_, by simp only [settingsId?, found, Option.map_some], intact.settings _ _ found⟩

theorem Intact.addChild (intact : store.Intact) {parent : ScopeId} {bindings : Dictionary Value}
    (present : parent < store.scopes.size)
    (known : ∀ name value, bindings.find? name = some value → store.Knows value) :
    (store.addChild parent bindings).2.Intact := by
  obtain ⟨id, settings, below⟩ := intact.settingsId?_isSome present
  apply intact.addScope
  · rintro _ ⟨⟩
    exact present
  · simp only [settingsId?] at settings
    simpa only [settings, Option.getD_some] using below
  · exact known

theorem Inherits.addChild (inherits : store.Inherits own) (intact : store.Intact)
    {parent : ScopeId} (present : parent < store.scopes.size) (bindings : Dictionary Value) :
    (store.addChild parent bindings).2.Inherits own := by
  obtain ⟨id, settings, _⟩ := intact.settingsId?_isSome present
  apply inherits.addScope intact
  rintro _ _ ⟨⟩
  refine ⟨present, ?_⟩
  rw [settings]
  simp only [settingsId?] at settings
  simp only [settings, Option.getD_some]

theorem Intact.addSettings (intact : store.Intact) (settings : Settings) :
    (store.addSettings settings).2.Intact :=
  intact.of_same rfl (by simp [Store.addSettings]) rfl (Nat.le_refl _)

theorem Intact.addRoot (intact : store.Intact) (settings : Settings) :
    (store.addRoot settings).2.Intact := by
  apply (intact.addSettings settings).addScope
  · exact nofun
  · simp [Store.addSettings]
  · exact nofun

theorem Inherits.addRoot (inherits : store.Inherits own) (intact : store.Intact)
    (settings : Settings) : (store.addRoot settings).2.Inherits own := by
  have widened : (store.addSettings settings).2.Inherits own := inherits.of_same rfl
  exact widened.addScope (intact.addSettings settings) nofun

theorem Intact.addNested (intact : store.Intact) {parent : ScopeId}
    (present : parent < store.scopes.size) (settings : Settings) :
    (store.addNested parent settings).2.Intact := by
  apply (intact.addSettings settings).addScope
  · rintro _ ⟨⟩
    exact present
  · simp [Store.addSettings]
  · exact nofun

theorem Inherits.addNested (inherits : store.Inherits own) (intact : store.Intact)
    (parent : ScopeId) (settings : Settings) :
    (store.addNested parent settings).2.Inherits ((store.addNested parent settings).1 :: own) := by
  have widened : (store.addSettings settings).2.Inherits (store.scopes.size :: own) :=
    fun id above listed => inherits id above fun member => listed (by simp [member])
  exact widened.addScope (intact.addSettings settings) fun listed =>
    (listed List.mem_cons_self).elim

theorem Intact.register (intact : store.Intact) (name : String) {action : Action Value}
    (known : ∀ result, action = .constant result → store.Knows result) :
    (store.register name action).Intact where
  parents := intact.parents
  settings := intact.settings
  bindings := fun id query value found =>
    (intact.bindings id query value found).grows (Nat.le_refl _) (Nat.le_succ _)
  registry := by
    intro query builtin found
    simp only [Store.builtin?, Store.register, Store.record, Dictionary.find?_insert] at found
    split at found
    · cases found
      rw [Knows, Value.throughout_iff]
      refine ⟨trivial, fun part member => ?_⟩
      cases action with
      | constant result =>
          have same : part = result := by simpa [Builtin.value, Value.parts] using member
          rw [same]
          exact (known result rfl).grows (Nat.le_refl _) (Nat.le_succ _)
      | _ => cases member
    · exact (intact.registry query builtin found).grows (Nat.le_refl _) (Nat.le_succ _)

end Keeping

theorem Intact.lookup {store : Store} (intact : store.Intact) {scope : ScopeId} {name : String}
    {value : Value} (found : store.lookup scope name = some value) : store.Knows value := by
  obtain ⟨owner, bound⟩ := binding?_of_lookup found
  exact intact.bindings owner name value bound

def IsThere (store : Store) : Thing → Prop
  | .scope id => id < store.scopes.size
  | .settings id => id < store.settings.size
  | .value item => store.Knows item

theorem Intact.leadsTo {store : Store} (intact : store.Intact) {thing next : Thing}
    (there : store.IsThere thing) (leads : store.LeadsTo thing next) : store.IsThere next := by
  cases leads with
  | parent found => exact Nat.lt_trans (intact.parents _ _ found) (lt_of_parent? found)
  | settings found => exact intact.settings _ _ found
  | binding found => exact intact.bindings _ _ _ found
  | part member => exact (Value.throughout_iff.mp there).2 _ member
  | closure identity closure => exact (there _ (.self _)).2

theorem Intact.isThere {store : Store} (intact : store.Intact) {home : ScopeId}
    (present : home < store.scopes.size) {thing : Thing}
    (reachable : store.Reachable home thing) : store.IsThere thing := by
  induction reachable with
  | home => exact present
  | registered found => exact intact.registry _ _ found
  | further reachable leads ih => exact intact.leadsTo ih leads

end Store

def integrity (own : List ScopeId) : Contract where
  store := fun now => now.Intact ∧ now.Inherits own
  value := Store.Knows
  tree := fun now scope _ => scope < now.scopes.size
  failed := fun now _ => now.Intact ∧ now.Inherits own
  value_grows := fun grown known => known.grows grown.size_le grown.identities
  tree_grows := fun grown present => Nat.lt_of_lt_of_le present grown.size_le
  child := fun present _ _ => present
  computed := fun computed => Store.knows_scalar computed.isScalar
  unit := Store.knows_scalar .unit
  number := fun _ => Store.knows_scalar (.integer _)
  counted := fun _ _ => Store.knows_scalar (.integer _)
  held := fun known _ => (Value.throughout_iff.mp known).2 _ (by simp [Value.parts])
  element := fun known => (Value.throughout_iff.mp known).2
  returned := fun known => (Value.throughout_iff.mp known).2 _ (by simp [Value.parts])
  found := fun kept _ bound => kept.1.lookup bound
  registered := fun kept registered => kept.1.registry _ _ registered
  array := fun kept known =>
    ⟨Store.kept_of_same kept rfl rfl rfl (Nat.le_succ _), Store.knows_array known⟩
  function := fun kept present =>
    ⟨Store.kept_of_same kept rfl rfl rfl (Nat.le_succ _), Store.knows_function present⟩
  assigned := fun kept _ known _ => ⟨kept.1.assign _ _ known, kept.2.assign _ _ _⟩
  wrote := fun _ kept _ => Store.kept_of_same kept rfl rfl rfl (Nat.le_refl _)
  entered := by
    intro now identity closure items kept function known _
    have present : closure.scope < now.scopes.size := (function _ (.self _)).2
    have logged : (now.logCall closure items).Intact ∧ (now.logCall closure items).Inherits own :=
      Store.kept_of_same kept rfl rfl rfl (Nat.le_refl _)
    have bound : (bindParameters .empty closure.parameters items).All now.Knows :=
      bindParameters_all Dictionary.all_empty (Store.knows_scalar .null) closure.parameters items
        known
    refine ⟨⟨logged.1.addChild present fun _ _ found => bound.find? found,
      logged.2.addChild logged.1 present _⟩, ?_⟩
    simp [Store.enterCall, Store.addChild, Store.addScope]
  refused := fun kept _ _ _ => Store.kept_of_same kept rfl rfl rfl (Nat.le_refl _)
  raised := fun kept _ _ => kept

end MonkeyLang
