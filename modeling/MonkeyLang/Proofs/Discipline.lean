import MonkeyLang.Proofs.Contract
import MonkeyLang.Proofs.Reachability
import MonkeyLang.Session

/-! Contracts about what values are made of. A discipline says which parts values may have and which
trees may be evaluated; it is kept by every evaluation over a store in which all values have such
parts only. -/

namespace MonkeyLang

namespace Dictionary

variable {α : Type} {good : α → Prop} {dictionary : Dictionary α} {name : String} {value : α}

def All (good : α → Prop) (dictionary : Dictionary α) : Prop :=
  ∀ entry ∈ dictionary.entries, good entry.2

theorem all_empty : (empty : Dictionary α).All good := by
  intro entry member
  cases member

theorem All.find? (all : dictionary.All good) (found : dictionary.find? name = some value) :
    good value := by
  obtain ⟨entry, foundEntry, rfl⟩ := Option.map_eq_some_iff.mp found
  exact all entry (List.mem_of_find?_eq_some foundEntry)

theorem mem_insertEntry {entries : List (String × α)} {entry : String × α}
    (member : entry ∈ insertEntry name value entries) :
    entry = (name, value) ∨ entry ∈ entries := by
  induction entries with
  | nil => exact Or.inl (List.mem_singleton.mp member)
  | cons first rest ih =>
      simp only [insertEntry] at member
      split at member
      · rcases List.mem_cons.mp member with same | old
        · exact Or.inl same
        · exact Or.inr (List.mem_cons_of_mem first old)
      · rcases List.mem_cons.mp member with same | later
        · exact Or.inr (by simp [same])
        · exact (ih later).imp id (List.mem_cons_of_mem first)

theorem All.insert (all : dictionary.All good) (holds : good value) :
    (dictionary.insert name value).All good := by
  intro entry member
  rcases mem_insertEntry member with same | old
  · rw [same]
    exact holds
  · exact all entry old

end Dictionary

mutual

/-- Every part of a value is as it may be. A return that a builtin holds is no part, since the call
that would give it out fails. -/
def Value.Every (part : Value → Prop) : Value → Prop
  | .null => part .null
  | .unit => part .unit
  | .boolean flag => part (.boolean flag)
  | .integer number => part (.integer number)
  | .string text => part (.string text)
  | .array identity elements => part (.array identity elements) ∧ Value.EveryOf part elements
  | .function identity closure => part (.function identity closure)
  | .builtin identity name action => part (.builtin identity name action) ∧ action.EveryHeld part
  | .pendingReturn identity result => part (.pendingReturn identity result) ∧ result.Every part

def Value.EveryOf (part : Value → Prop) : List Value → Prop
  | [] => True
  | value :: rest => value.Every part ∧ Value.EveryOf part rest

def Action.EveryHeld (part : Value → Prop) : Action Value → Prop
  | .constant result => result.isPending = true ∨ result.Every part
  | _ => True

end

theorem Value.everyOf_iff {part : Value → Prop} {values : List Value} :
    Value.EveryOf part values ↔ ∀ value ∈ values, value.Every part := by
  induction values with
  | nil => simp [Value.EveryOf]
  | cons value rest ih => simp [Value.EveryOf, ih]

theorem Value.Every.part {part : Value → Prop} {value : Value} (every : value.Every part) :
    part value := by
  cases value with
  | array identity elements => exact every.1
  | builtin identity name action => exact every.1
  | pendingReturn identity result => exact every.1
  | _ => exact every

theorem Value.every_of_throughout {part : Value → Prop} {value : Value}
    (all : value.Throughout part) : value.Every part := by
  induction value using Value.induct_parts with
  | step value ih =>
  obtain ⟨here, deeper⟩ := Value.throughout_iff.mp all
  cases value with
  | array identity elements =>
      exact ⟨here, Value.everyOf_iff.mpr fun element member =>
        ih element member (deeper element member)⟩
  | builtin identity name action =>
      refine ⟨here, ?_⟩
      cases action with
      | constant held =>
          have member : held ∈ (Value.builtin identity name (.constant held)).parts := by
            simp [Value.parts]
          exact Or.inr (ih held member (deeper held member))
      | _ => exact trivial
  | pendingReturn identity result =>
      have member : result ∈ (Value.pendingReturn identity result).parts := by simp [Value.parts]
      exact ⟨here, ih result member (deeper result member)⟩
  | _ => exact here

theorem Value.Every.and {part other : Value → Prop} {value : Value} (first : value.Every part)
    (second : value.Every other) : value.Every fun value => part value ∧ other value := by
  induction value using Value.induct_parts with
  | step value ih =>
  cases value with
  | array identity elements =>
      have firsts := Value.everyOf_iff.mp first.2
      have seconds := Value.everyOf_iff.mp second.2
      exact ⟨⟨first.1, second.1⟩, Value.everyOf_iff.mpr fun element member =>
        ih element member (firsts element member) (seconds element member)⟩
  | builtin identity name action =>
      refine ⟨⟨first.1, second.1⟩, ?_⟩
      cases action with
      | constant held =>
          rcases first.2 with pending | firstHeld
          · exact Or.inl pending
          · rcases second.2 with pending | secondHeld
            · exact Or.inl pending
            · exact Or.inr (ih held (by simp [Value.parts]) firstHeld secondHeld)
      | _ => exact trivial
  | pendingReturn identity result =>
      exact ⟨⟨first.1, second.1⟩, ih result (by simp [Value.parts]) first.2 second.2⟩
  | _ => exact ⟨first, second⟩

theorem Value.Every.imp {part other : Value → Prop} {value : Value} (every : value.Every part)
    (implied : ∀ value, part value → other value) : value.Every other := by
  induction value using Value.induct_parts with
  | step value ih =>
  cases value with
  | array identity elements =>
      have elementwise := Value.everyOf_iff.mp every.2
      exact ⟨implied _ every.1, Value.everyOf_iff.mpr fun element member =>
        ih element member (elementwise element member)⟩
  | builtin identity name action =>
      refine ⟨implied _ every.1, ?_⟩
      cases action with
      | constant held => exact every.2.imp id (ih held (by simp [Value.parts]))
      | _ => exact trivial
  | pendingReturn identity result =>
      exact ⟨implied _ every.1, ih result (by simp [Value.parts]) every.2⟩
  | _ => exact implied _ every

def Action.isStock : Action Value → Bool
  | .len | .first | .last | .rest | .push | .puts => true
  | _ => false

def StockAllowed (part : Value → Prop) : Prop :=
  ∀ identity name action, action.isStock = true → part (.builtin identity name action)

theorem stock_every {part : Value → Prop} (stock : StockAllowed part) (identity : Identity)
    (entry : String × Action Value) (member : entry ∈ stockBuiltins) :
    (Value.builtin identity entry.1 entry.2).Every part := by
  simp only [stockBuiltins, List.mem_cons, List.not_mem_nil, or_false] at member
  rcases member with same | same | same | same | same | same
  all_goals
    rw [same]
    exact ⟨stock _ _ _ rfl, trivial⟩

def Value.StockPart : Value → Prop
  | .builtin _ _ action => action.isStock = true
  | _ => True

theorem stockAllowed_stockPart : StockAllowed Value.StockPart := fun _ _ _ stock => stock

structure Store.Every (part : Value → Prop) (store : Store) : Prop where
  bindings : ∀ scope ∈ store.scopes, scope.bindings.All (Value.Every part)
  registry : store.registry.All fun builtin => builtin.value.Every part

def Store.OnlyStock (store : Store) : Prop := store.Every Value.StockPart

def Store.Stores (store : Store) (value : Value) : Prop :=
  (∃ scope ∈ store.scopes, ∃ entry ∈ scope.bindings.entries, entry.2.Contains value) ∨
    ∃ entry ∈ store.registry.entries, entry.2.value.Contains value

namespace Store

variable {part : Value → Prop} {store : Store} {scope : ScopeId} {name : String} {value : Value}

theorem every_of_stores (all : ∀ value, store.Stores value → part value) : store.Every part := by
  refine ⟨?_, ?_⟩
  · intro scope member entry bound
    apply Value.every_of_throughout
    intro inner contained
    exact all inner (Or.inl ⟨scope, member, entry, bound, contained⟩)
  · intro entry registered
    apply Value.every_of_throughout
    intro inner contained
    exact all inner (Or.inr ⟨entry, registered, contained⟩)

theorem Every.and {other : Value → Prop} (first : store.Every part)
    (second : store.Every other) : store.Every fun value => part value ∧ other value := by
  refine ⟨?_, ?_⟩
  · intro scope member entry bound
    exact (first.bindings scope member entry bound).and (second.bindings scope member entry bound)
  · intro entry registered
    exact (first.registry entry registered).and (second.registry entry registered)

theorem Every.imp {other : Value → Prop} (every : store.Every part)
    (implied : ∀ value, part value → other value) : store.Every other := by
  refine ⟨?_, ?_⟩
  · intro scope member entry bound
    exact (every.bindings scope member entry bound).imp implied
  · intro entry registered
    exact (every.registry entry registered).imp implied

theorem chainFrom_within {visible : ScopeId → Prop}
    (parents : ∀ id parent, visible id → store.parent? id = some parent → visible parent)
    (steps : Nat) (here : visible scope) : ∀ owner ∈ store.chainFrom steps scope, visible owner := by
  induction steps generalizing scope with
  | zero => exact nofun
  | succ steps ih =>
      intro owner member
      simp only [chainFrom, List.mem_cons] at member
      rcases member with same | further
      · rw [same]
        exact here
      · cases found : store.parent? scope with
        | none => simp [found] at further
        | some parent =>
            rw [found] at further
            exact ih (parents scope parent here found) owner further

theorem binding?_of_lookup_within {visible : ScopeId → Prop}
    (parents : ∀ id parent, visible id → store.parent? id = some parent → visible parent)
    (here : visible scope) (found : store.lookup scope name = some value) :
    ∃ owner, visible owner ∧ store.binding? owner name = some value := by
  obtain ⟨owner, member, bound⟩ := List.exists_of_findSome?_eq_some found
  exact ⟨owner, chainFrom_within parents _ here owner member, bound⟩

theorem binding?_of_lookup (found : store.lookup scope name = some value) :
    ∃ owner, store.binding? owner name = some value := by
  obtain ⟨owner, _, bound⟩ := List.exists_of_findSome?_eq_some found
  exact ⟨owner, bound⟩

theorem Every.lookup (every : store.Every part) (found : store.lookup scope name = some value) :
    value.Every part := by
  obtain ⟨owner, bound⟩ := binding?_of_lookup found
  obtain ⟨ownerScope, present, boundHere⟩ := Option.bind_eq_some_iff.mp bound
  exact (every.bindings ownerScope (Array.mem_of_getElem? present)).find? boundHere

theorem Every.builtin? {builtin : Builtin} (every : store.Every part)
    (found : store.builtin? name = some builtin) : builtin.value.Every part :=
  every.registry.find? found

theorem Every.assign (every : store.Every part) (holds : value.Every part) :
    (store.assign scope name value).Every part := by
  refine ⟨?_, every.registry⟩
  intro changed member
  obtain ⟨id, found⟩ := Array.mem_iff_getElem?.mp member
  by_cases same : scope = id
  · subst same
    cases former : store.scopes[scope]? with
    | none => simp [Store.assign, Array.getElem?_modify, former] at found
    | some old =>
        rw [getElem?_assign_same name value former] at found
        cases found
        exact (every.bindings old (Array.mem_of_getElem? former)).insert holds
  · rw [store.getElem?_assign_other name value same] at found
    exact every.bindings changed (Array.mem_of_getElem? found)

theorem Every.addScope {added : Scope} (every : store.Every part)
    (holds : added.bindings.All (Value.Every part)) : (store.addScope added).2.Every part := by
  refine ⟨?_, every.registry⟩
  intro scope member
  rcases Array.mem_push.mp member with old | same
  · exact every.bindings scope old
  · rw [same]
    exact holds

theorem Every.addRoot (every : store.Every part) (settings : Settings) :
    (store.addRoot settings).2.Every part := by
  have widened : (store.addSettings settings).2.Every part := ⟨every.bindings, every.registry⟩
  exact widened.addScope Dictionary.all_empty

theorem Every.of_same {after : Store} (every : store.Every part)
    (scopes : after.scopes = store.scopes) (registry : after.registry = store.registry) :
    after.Every part := by
  refine ⟨?_, ?_⟩
  · rw [scopes]
    exact every.bindings
  · rw [registry]
    exact every.registry

theorem Every.register {action : Action Value} (every : store.Every part)
    (holds : (Value.builtin store.nextIdentity name action).Every part) :
    (store.register name action).Every part :=
  ⟨every.bindings, every.registry.insert holds⟩

theorem Every.registerAll {entries : List (String × Action Value)}
    (allowed : ∀ identity, ∀ entry ∈ entries, (Value.builtin identity entry.1 entry.2).Every part)
    (every : store.Every part) :
    (entries.foldl (fun store entry => store.register entry.1 entry.2) store).Every part := by
  induction entries generalizing store with
  | nil => exact every
  | cons entry rest ih =>
      apply ih fun identity other member => allowed identity other (by simp [member])
      exact every.register (allowed _ entry (by simp))

theorem loadStock_of_loaded (loaded : store.stockLoaded = true) : store.loadStock = store := by
  simp [Store.loadStock, loaded]

theorem stockLoaded_loadStock (store : Store) : store.loadStock.stockLoaded = true := by
  rw [Store.loadStock]
  split
  · assumption
  · rfl

theorem Every.loadStock (every : store.Every part) (stock : StockAllowed part) :
    store.loadStock.Every part := by
  simp only [Store.loadStock]
  split
  · exact every
  · exact (Every.registerAll (stock_every stock) every).of_same rfl rfl

theorem every_initial (stock : StockAllowed part) : Store.initial.Every part := by
  have none : Store.empty.Every part := ⟨fun _ member => by simp [Store.empty] at member,
    Dictionary.all_empty⟩
  exact (none.loadStock stock).of_same rfl rfl

theorem partless_initial {name : String} {builtin : Builtin}
    (found : Store.initial.builtin? name = some builtin) : builtin.value.parts = [] := by
  have partless : Store.initial.Every (·.parts = []) := by
    apply Store.every_initial
    intro identity name action stock
    cases action with
    | constant held => cases stock
    | _ => rfl
  exact (partless.builtin? found).part

/-- From scopes that bind nothing only they and their parents can be reached, and no function, as
long as the builtins are those of the initial store. -/
theorem reachable_of_unbound {visible : ScopeId → Prop} {home : ScopeId} {thing : Thing}
    (parents : ∀ id parent, visible id → store.parent? id = some parent → visible parent)
    (unbound : ∀ id name, visible id → store.binding? id name = none)
    (stock : ∀ name, store.builtin? name = Store.initial.builtin? name) (here : visible home)
    (reachable : store.Reachable home thing) :
    match thing with
    | .scope id => visible id
    | .settings _ => True
    | .value item => item.parts = [] ∧ ∀ identity closure, item ≠ .function identity closure := by
  induction reachable with
  | home => exact here
  | registered found => exact ⟨partless_initial ((stock _).symm.trans found), nofun⟩
  | further reachable leads ih =>
      cases leads with
      | parent found => exact parents _ _ ih found
      | settings found => exact trivial
      | binding found => simp [unbound _ _ ih] at found
      | part member => simp [ih.1] at member
      | closure identity closure => exact (ih.2 identity closure rfl).elim

end Store

theorem bindParameters_all {good : Value → Prop} {bound : Dictionary Value}
    (all : bound.All good) (null : good .null) (parameters : List String) :
    ∀ arguments : List Value, (∀ argument ∈ arguments, good argument) →
      (bindParameters bound parameters arguments).All good := by
  induction parameters generalizing bound with
  | nil => exact fun _ _ => all
  | cons parameter rest ih =>
      intro arguments holds
      simp only [bindParameters]
      refine ih (all.insert ?_) arguments.tail fun argument member =>
        holds argument (List.mem_of_mem_tail member)
      cases arguments with
      | nil => exact null
      | cons first others => exact holds first (by simp)

structure Store.Throughout (good : Value → Prop) (store : Store) : Prop where
  bindings : ∀ id name value, store.binding? id name = some value → value.Throughout good
  registry : ∀ name builtin, store.builtin? name = some builtin → builtin.value.Throughout good

namespace Store

variable {good : Value → Prop} {store after : Store} (throughout : store.Throughout good)
include throughout

theorem Throughout.imp {better : Value → Prop} (implied : ∀ value, good value → better value) :
    store.Throughout better :=
  ⟨fun id name value found => (throughout.bindings id name value found).imp implied,
    fun name builtin found => (throughout.registry name builtin found).imp implied⟩

theorem Throughout.and {other : Value → Prop} (second : store.Throughout other) :
    store.Throughout fun value => good value ∧ other value where
  bindings := fun id name value found inner contained =>
    ⟨throughout.bindings id name value found inner contained,
      second.bindings id name value found inner contained⟩
  registry := fun name builtin found inner contained =>
    ⟨throughout.registry name builtin found inner contained,
      second.registry name builtin found inner contained⟩

theorem Throughout.lookup {scope : ScopeId} {name : String} {value : Value}
    (found : store.lookup scope name = some value) : value.Throughout good := by
  obtain ⟨owner, bound⟩ := binding?_of_lookup found
  exact throughout.bindings owner name value bound

theorem Throughout.of_same (scopes : after.scopes = store.scopes)
    (registry : after.registry = store.registry) : after.Throughout good where
  bindings := by
    simp only [binding?, scopes]
    exact throughout.bindings
  registry := by
    simp only [builtin?, registry]
    exact throughout.registry

theorem Throughout.assign (scope : ScopeId) (name : String) {value : Value}
    (holds : value.Throughout good) : (store.assign scope name value).Throughout good where
  bindings := by
    intro id query item found
    rw [binding?_assign] at found
    split at found
    · cases found
      exact holds
    · exact throughout.bindings id query item found
  registry := throughout.registry

theorem Throughout.addScope {added : Scope}
    (holds : ∀ name value, added.bindings.find? name = some value → value.Throughout good) :
    (store.addScope added).2.Throughout good where
  bindings := by
    intro id name value found
    simp only [binding?, Store.addScope, Array.getElem?_push] at found
    split at found
    · exact holds name value found
    · exact throughout.bindings id name value found
  registry := throughout.registry

theorem Throughout.addRoot (settings : Settings) :
    (store.addRoot settings).2.Throughout good := by
  have widened : (store.addSettings settings).2.Throughout good := throughout.of_same rfl rfl
  exact widened.addScope nofun

theorem Throughout.enterCall (null : good .null) {closure : Closure} {items : List Value}
    (holds : ∀ item ∈ items, item.Throughout good) :
    (store.enterCall closure items).2.Throughout good := by
  have logged : (store.logCall closure items).Throughout good := throughout.of_same rfl rfl
  have bound : (bindParameters .empty closure.parameters items).All (Value.Throughout good) :=
    bindParameters_all Dictionary.all_empty (Value.throughout_of_partless rfl null)
      closure.parameters items holds
  exact logged.addScope fun _ _ found => bound.find? found

end Store

structure Discipline where
  part : Value → Prop
  tree : Node → Prop
  failure : Failure → Prop
  child {node child : Node} : tree node → node.isFunction = false → child ∈ node.children →
    tree child
  computed {value : Value} : value.Computed → part value
  unit : part .unit
  number {position : Position} {number : Int} : tree (.integer position number) →
    part (.integer number)
  counted {identity : Identity} {name : String} (number : Nat) :
    part (.builtin identity name .len) → part (.integer number)
  array (identity : Identity) (elements : List Value) : part (.array identity elements)
  function {position : Position} {parameters : List String} {body : Node} (identity : Identity)
    (scope : ScopeId) : tree (.function position parameters body) →
    part (.function identity ⟨parameters, body, scope⟩)
  body {identity : Identity} {closure : Closure} : part (.function identity closure) →
    tree closure.body
  raised {node : Node} {reason : Failure} : tree node → node.Raises (Value.Every part) reason →
    failure reason
  refused {position : Position} {callee : Node} {arguments : List Node} (expected actual : Nat) :
    tree (.call position callee arguments) →
    failure (.error ⟨.functionArity expected actual, position⟩)

namespace Discipline

variable (discipline : Discipline)

theorem every_computed {value : Value} (computed : value.Computed) :
    value.Every discipline.part := by
  have part := discipline.computed computed
  cases computed with
  | null => exact part
  | boolean flag => exact part
  | wrapped number => exact part
  | string text => exact part

def contract : Contract where
  store := Store.Every discipline.part
  value := fun _ value => value.Every discipline.part
  tree := fun _ _ node => discipline.tree node
  failed := fun store failure => store.Every discipline.part ∧ discipline.failure failure
  value_grows := fun _ every => every
  tree_grows := fun _ tree => tree
  child := discipline.child
  computed := discipline.every_computed
  unit := discipline.unit
  number := discipline.number
  counted := fun number builtin => discipline.counted number builtin.part
  held := by
    rintro _ _ _ item ⟨_, pending | every⟩ plain
    · rw [plain] at pending
      cases pending
    · exact every
  element := fun every => Value.everyOf_iff.mp every.2
  returned := fun every => every.2
  found := fun every _ bound => every.lookup bound
  registered := fun every registered => every.builtin? registered
  array := fun every items =>
    ⟨every.of_same rfl rfl, discipline.array _ _, Value.everyOf_iff.mpr items⟩
  function := fun every tree => ⟨every.of_same rfl rfl, discipline.function _ _ tree⟩
  assigned := fun every _ item _ => every.assign item
  wrote := fun _ every _ => every.of_same rfl rfl
  entered := by
    intro now identity closure items every function allowed _
    refine ⟨?_, discipline.body function⟩
    have logged : (now.logCall closure items).Every discipline.part := every.of_same rfl rfl
    apply logged.addScope
    exact bindParameters_all Dictionary.all_empty (discipline.every_computed .null)
      closure.parameters items allowed
  refused := fun every tree _ _ => ⟨every.of_same rfl rfl, discipline.refused _ _ tree⟩
  raised := fun every tree raised => ⟨every, discipline.raised tree raised⟩

theorem unit_ended {store : Store} (every : store.Every discipline.part)
    (stock : StockAllowed discipline.part) {node : Node} (tree : discipline.tree node) (depth : Nat)
    (scope : ScopeId) :
    discipline.contract.Ended discipline.contract.value False
      (evaluateUnit depth node scope store) := by
  have loaded : discipline.contract.store store.loadStock := every.loadStock stock
  have allowed : discipline.contract.tree store.loadStock scope node := tree
  apply (discipline.contract.unit_ended depth _ loaded allowed).2
  exact fun _ _ _ failed => ⟨failed.1.of_same rfl rfl, failed.2⟩

end Discipline

end MonkeyLang
