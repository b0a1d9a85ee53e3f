import MonkeyLang.Proofs.Discipline

/-! Evaluating a tree writes into no scope but its own. There it binds only names that the tree has
let statements for, and a call binds nothing at all in the scopes that were there before. -/

namespace MonkeyLang

/-- A tree has a let statement for a name that stands in no function. -/
def Node.Binds (node : Node) (name : String) : Prop :=
  ∃ position value,
    HasPart (fun above => !above.isFunction) node (.letStatement position name value)

theorem Node.Binds.of_child {node child : Node} {name : String} (function : node.isFunction = false)
    (member : child ∈ node.children) (binds : child.Binds name) : node.Binds name := by
  obtain ⟨position, value, found⟩ := binds
  exact ⟨position, value, .inside (by simp [function]) member found⟩

namespace Store

structure Framed (before : Store) (home : ScopeId) (mayBind : String → Prop) (after : Store) :
    Prop where
  size : before.scopes.size ≤ after.scopes.size
  others : ∀ id, id < before.scopes.size → id ≠ home → after.scopes[id]? = before.scopes[id]?
  home : home < before.scopes.size → ∀ name, after.binding? home name = before.binding? home name ∨
    mayBind name ∧ ∃ value, after.binding? home name = some value ∧ value.isUnit = false

variable {before now after : Store} {home : ScopeId} {mayBind : String → Prop}

theorem framed_refl (store : Store) (home : ScopeId) (mayBind : String → Prop) :
    store.Framed home mayBind store :=
  ⟨Nat.le_refl _, fun _ _ _ => rfl, fun _ _ => Or.inl rfl⟩

theorem Framed.of_kept (framed : before.Framed home mayBind now)
    (size : now.scopes.size ≤ after.scopes.size)
    (kept : ∀ id, id < before.scopes.size → after.scopes[id]? = now.scopes[id]?) :
    before.Framed home mayBind after := by
  refine ⟨Nat.le_trans framed.size size, ?_, ?_⟩
  · intro id bound different
    rw [kept id bound]
    exact framed.others id bound different
  · intro bound name
    have same : after.binding? home name = now.binding? home name := by
      simp only [binding?, kept home bound]
    rw [same]
    exact framed.home bound name

theorem Framed.addScope (framed : before.Framed home mayBind now) (added : Scope) :
    before.Framed home mayBind (now.addScope added).2 := by
  have larger := framed.size
  apply framed.of_kept
  · simp [Store.addScope]
  · intro id bound
    simp only [Store.addScope, Array.getElem?_push]
    split
    · omega
    · rfl

theorem Framed.assign_new {scope : ScopeId} (framed : before.Framed home mayBind now)
    (new : before.scopes.size ≤ scope) (name : String) (value : Value) :
    before.Framed home mayBind (now.assign scope name value) := by
  apply framed.of_kept
  · simp [Store.assign]
  · intro id bound
    have different : scope ≠ id := Nat.ne_of_gt (Nat.lt_of_lt_of_le bound new)
    exact now.getElem?_assign_other name value different

theorem Framed.assign_home {name : String} {value : Value}
    (framed : before.Framed home mayBind now) (allowed : mayBind name)
    (plain : value.isUnit = false) : before.Framed home mayBind (now.assign home name value) := by
  refine ⟨?_, ?_, ?_⟩
  · simpa [Store.assign] using framed.size
  · intro id bound different
    rw [now.getElem?_assign_other name value (Ne.symm different)]
    exact framed.others id bound different
  · intro bound query
    have present : home < now.scopes.size := Nat.lt_of_lt_of_le bound framed.size
    rw [binding?_assign]
    by_cases same : name = query
    · subst same
      exact Or.inr ⟨allowed, value, by simp [present], plain⟩
    · simp only [same, and_false, if_false]
      exact framed.home bound query

end Store

/-- The contract of an evaluation that started in `home`: names are bound only there, as far as they
may be, and in scopes that were made since. -/
def frame (before : Store) (home : ScopeId) (mayBind : String → Prop) : Contract where
  store := before.Framed home mayBind
  value := fun _ _ => True
  tree := fun _ scope node => ∀ name, node.Binds name →
    before.scopes.size ≤ scope ∨ scope = home ∧ mayBind name
  failed := fun after _ => before.Framed home mayBind after
  value_grows := fun _ _ => trivial
  tree_grows := fun _ tree => tree
  child := fun tree function member name binds => tree name (binds.of_child function member)
  computed := fun _ => trivial
  unit := trivial
  number := fun _ => trivial
  counted := fun _ _ => trivial
  held := fun _ _ => trivial
  element := fun _ _ _ => trivial
  returned := fun _ => trivial
  found := fun _ _ _ => trivial
  registered := fun _ _ => trivial
  array := fun framed _ => ⟨framed.of_kept (Nat.le_refl _) fun _ _ => rfl, trivial⟩
  function := fun framed _ => ⟨framed.of_kept (Nat.le_refl _) fun _ _ => rfl, trivial⟩
  assigned := by
    intro now scope position name node item framed tree _ plain
    rcases tree name ⟨position, node, .self _⟩ with new | ⟨here, allowed⟩
    · exact framed.assign_new new name item
    · subst here
      exact framed.assign_home allowed plain
  wrote := fun _ framed _ => framed.of_kept (Nat.le_refl _) fun _ _ => rfl
  entered := by
    intro now identity closure items framed _ _ _
    have logged : before.Framed home mayBind (now.logCall closure items) :=
      framed.of_kept (Nat.le_refl _) fun _ _ => rfl
    exact ⟨logged.addScope _, fun _ _ => Or.inl framed.size⟩
  refused := fun framed _ _ _ => framed.of_kept (Nat.le_refl _) fun _ _ => rfl
  raised := fun framed _ _ => framed

theorem framed_of_ended {before : Store} {home : ScopeId} {mayBind : String → Prop} {returns : Prop}
    {ends : Outcome Value × Store}
    (ended : (frame before home mayBind).Ended (frame before home mayBind).value returns ends) :
    before.Framed home mayBind ends.2 :=
  Contract.Ended.kept ended fun _ _ framed => framed

theorem evaluate_framed (depth : Nat) (node : Node) (scope : ScopeId) (store : Store) :
    store.Framed scope node.Binds (node.evaluate (invokeWithin depth) scope store).2 := by
  have here : (frame store scope node.Binds).tree store scope node :=
    fun name binds => Or.inr ⟨rfl, binds⟩
  exact framed_of_ended ((frame store scope node.Binds).evaluate_ended depth
    (store.framed_refl scope node.Binds) here).2

theorem not_binds_call (position : Position) (name : String) :
    ¬(Node.call position .missing []).Binds name := by
  rintro ⟨letPosition, value, found⟩
  cases found with
  | inside opened member inner =>
      simp only [Node.children, List.mem_singleton] at member
      subst member
      cases inner with
      | inside opened member inner => simp [Node.children] at member

theorem invokeWithin_framed (depth : Nat) (callable : Callable) (arguments : List Value)
    (position : Position) (caller : ScopeId) (store : Store) :
    store.Framed store.scopes.size (fun _ => False)
      (invokeWithin depth callable arguments position caller store).2 := by
  have tree : (frame store store.scopes.size fun _ => False).tree store caller
      (.call position .missing []) := fun name binds => (not_binds_call position name binds).elim
  have kept := store.framed_refl store.scopes.size fun _ => False
  obtain ⟨value, found⟩ : ∃ value : Value, value.callable? = some callable := by
    cases callable with
    | function closure => exact ⟨.function 0 closure, rfl⟩
    | builtin name action => exact ⟨.builtin 0 name action, rfl⟩
  exact framed_of_ended ((frame store store.scopes.size fun _ => False).invoke_ended depth kept tree
    trivial found fun _ _ => trivial).2

theorem evaluateUnit_framed_loadStock (depth : Nat) (node : Node) (scope : ScopeId)
    (store : Store) :
    store.loadStock.Extends (evaluateUnit depth node scope store).2 ∧
      store.loadStock.Framed scope node.Binds (evaluateUnit depth node scope store).2 := by
  obtain ⟨grown, ended⟩ := (frame store.loadStock scope node.Binds).unit_ended depth
    (fun _ _ _ framed => framed.of_kept (Nat.le_refl _) fun _ _ => rfl)
    (store.loadStock.framed_refl scope node.Binds) fun name binds => Or.inr ⟨rfl, binds⟩
  exact ⟨grown, framed_of_ended ended⟩

theorem evaluateUnit_framed {store : Store} (loaded : store.stockLoaded = true) (depth : Nat)
    (node : Node) (scope : ScopeId) :
    store.Extends (evaluateUnit depth node scope store).2 ∧
      store.Framed scope node.Binds (evaluateUnit depth node scope store).2 := by
  have framed := evaluateUnit_framed_loadStock depth node scope store
  rwa [Store.loadStock_of_loaded loaded] at framed

structure Store.ChangesOnly (before : Store) (scope : ScopeId) (binds : String → Prop)
    (after : Store) : Prop where
  others : ∀ id, id < before.scopes.size → id ≠ scope → after.scopes[id]? = before.scopes[id]?
  placed : ∀ (id : ScopeId) (found : Scope), before.scopes[id]? = some found →
    ∃ later, after.scopes[id]? = some later ∧ later.parent = found.parent ∧
      later.settings = found.settings
  settings : after.settings = before.settings
  registry : after.registry = before.registry
  stockLoaded : after.stockLoaded = before.stockLoaded
  bound : ∀ name, (before.binding? scope name).isSome → (after.binding? scope name).isSome
  changed : scope < before.scopes.size → ∀ name,
    after.binding? scope name ≠ before.binding? scope name →
      binds name ∧ ∃ value, after.binding? scope name = some value ∧ value.isUnit = false

theorem Store.Extends.binding?_isSome {before after : Store} (grown : before.Extends after)
    {scope : ScopeId} {name : String} (bound : (before.binding? scope name).isSome) :
    (after.binding? scope name).isSome := by
  simp only [Store.binding?] at bound ⊢
  cases found : before.scopes[scope]? with
  | none => simp [found] at bound
  | some here =>
      obtain ⟨later, foundLater, extended⟩ := grown.scopes scope here found
      rw [foundLater]
      exact extended.bound name (by simpa [found] using bound)

/-- Writes are confined to the current scope and to names that the tree binds there, however the
evaluation ends; a call leaves all scopes as they were. -/
theorem evaluate_changesOnly (depth : Nat) (node : Node) (scope : ScopeId) (store : Store) :
    store.ChangesOnly scope node.Binds (node.evaluate (invokeWithin depth) scope store).2 ∧
    ∀ callable arguments position id, id < store.scopes.size →
      (invokeWithin depth callable arguments position scope store).2.scopes[id]? =
        store.scopes[id]? := by
  have framed := evaluate_framed depth node scope store
  have grown : store.Extends (node.evaluate (invokeWithin depth) scope store).2 :=
    ((frame store scope node.Binds).evaluate_ended depth (store.framed_refl scope node.Binds)
      fun name binds => Or.inr ⟨rfl, binds⟩).1
  refine ⟨?_, ?_⟩
  · refine ⟨framed.others, ?_, grown.settings, grown.registry, grown.stockLoaded, ?_, ?_⟩
    · intro id found present
      obtain ⟨later, foundLater, extended⟩ := grown.scopes id found present
      exact ⟨later, foundLater, extended.parent, extended.settings⟩
    · exact fun name bound => grown.binding?_isSome bound
    · exact fun present name different => (framed.home present name).resolve_left different
  · intro callable arguments position id bound
    exact (invokeWithin_framed depth callable arguments position scope store).others id bound
      (Nat.ne_of_lt bound)

end MonkeyLang
