import MonkeyLang.Proofs.Host

/-! Settings follow the lexical scope. What an evaluation writes and logs goes by the settings of the
scope that it starts in and of the scopes that the functions it can reach were made in; who calls
them does not matter, nor does any other session. -/

namespace MonkeyLang

/-- The scopes whose code an evaluation in `home` can come to run. -/
def Store.RunsIn (store : Store) (home scope : ScopeId) : Prop :=
  scope = home ∨ ∃ identity closure,
    store.Reachable home (.value (.function identity closure)) ∧ closure.scope = scope

namespace Store

variable {store before now after : Store} {home scope : ScopeId}

theorem RunsIn.reachable (runs : store.RunsIn home scope) :
    store.Reachable home (.scope scope) := by
  rcases runs with same | ⟨identity, closure, reachable, same⟩
  · rw [same]
    exact .home
  · rw [← same]
    exact .further reachable (.closure identity closure)

def Active (before : Store) (home : ScopeId) (now : Store) (scope : ScopeId) : Prop :=
  scope < now.scopes.size ∧ (before.RunsIn home scope ∨ before.scopes.size ≤ scope)

def Sees (before : Store) (home scope : ScopeId) : Prop :=
  before.Reachable home (.scope scope) ∨ before.scopes.size ≤ scope

theorem active_home (present : home < store.scopes.size) : store.Active home store home :=
  ⟨present, Or.inl (Or.inl rfl)⟩

theorem Active.sees (active : before.Active home now scope) : before.Sees home scope :=
  active.2.imp RunsIn.reachable id

theorem Active.grows (active : before.Active home now scope)
    (size : now.scopes.size ≤ after.scopes.size) : before.Active home after scope :=
  ⟨Nat.lt_of_lt_of_le active.1 size, active.2⟩

def Serves (before : Store) (home : ScopeId) (now : Store) (value : Value) : Prop :=
  value.Throughout fun inner => ∀ identity closure, inner = .function identity closure →
    before.Active home now closure.scope

theorem Serves.grows {value : Value} (serves : before.Serves home now value)
    (size : now.scopes.size ≤ after.scopes.size) : before.Serves home after value :=
  serves.imp fun _ active identity closure same => (active identity closure same).grows size

theorem serves_scalar {value : Value} (scalar : value.IsScalar) :
    before.Serves home now value := by
  apply Value.throughout_of_partless
  · cases scalar <;> rfl
  · rintro identity closure rfl
    cases scalar

/-- Whatever an evaluation that started in `home` can see, wrote or logged goes by the settings of
scopes from before in which code may run. -/
structure Lexical (before : Store) (home : ScopeId) (now : Store) : Prop where
  grown : before.Extends now
  parents : ∀ scope parent, before.Sees home scope → now.parent? scope = some parent →
    before.Sees home parent
  bindings : ∀ scope name value, before.Sees home scope → now.binding? scope name = some value →
    before.Serves home now value
  settings : ∀ scope, before.Active home now scope →
    ∃ owner, before.RunsIn home owner ∧ now.settingsId? scope = before.settingsId? owner
  writes : ∃ added, now.writes.toList = before.writes.toList ++ added ∧ ∀ write ∈ added,
    ∃ owner, before.RunsIn home owner ∧ write.sink = (before.settingsOf owner).sink
  log : ∃ added, now.log.toList = before.log.toList ++ added ∧ ∀ line ∈ added,
    ∃ owner parameters arguments, before.RunsIn home owner ∧
      line = .calling parameters arguments (before.settingsOf owner).policy

theorem Intact.serves (intact : store.Intact) (present : home < store.scopes.size) {value : Value}
    (reachable : store.Reachable home (.value value)) : store.Serves home store value := by
  rintro inner contained identity closure rfl
  have function := reachable.contains contained
  have known : store.Knows (.function identity closure) := intact.isThere present function
  exact ⟨(known _ (.self _)).2, Or.inl (Or.inr ⟨identity, closure, function, rfl⟩)⟩

theorem lexical_refl (intact : store.Intact) (present : home < store.scopes.size) :
    store.Lexical home store where
  grown := .refl store
  parents := by
    intro scope parent sees found
    rcases sees with reachable | new
    · exact Or.inl (.further reachable (.parent found))
    · exact absurd (lt_of_parent? found) (Nat.not_lt.mpr new)
  bindings := by
    intro scope name value sees found
    rcases sees with reachable | new
    · exact intact.serves present (.further reachable (.binding found))
    · simp [binding?, Array.getElem?_eq_none new] at found
  settings := by
    intro scope active
    rcases active.2 with runs | new
    · exact ⟨scope, runs, rfl⟩
    · exact absurd active.1 (Nat.not_lt.mpr new)
  writes := ⟨[], by simp, fun _ member => by cases member⟩
  log := ⟨[], by simp, fun _ member => by cases member⟩

namespace Lexical

variable (lexical : before.Lexical home now)
include lexical

theorem settingsOf (active : before.Active home now scope) :
    ∃ owner, before.RunsIn home owner ∧ now.settingsOf scope = before.settingsOf owner := by
  obtain ⟨owner, runs, same⟩ := lexical.settings scope active
  refine ⟨owner, runs, ?_⟩
  rw [settingsOf_eq, settingsOf_eq, same, lexical.grown.settings]

theorem lookup {name : String} {value : Value} (sees : before.Sees home scope)
    (found : now.lookup scope name = some value) : before.Serves home now value := by
  obtain ⟨owner, seen, bound⟩ := binding?_of_lookup_within lexical.parents sees found
  exact lexical.bindings owner name value seen bound

theorem freshIdentity : before.Lexical home now.freshIdentity.2 :=
  { lexical with grown := lexical.grown.trans now.extends_freshIdentity }

theorem assign (scope : ScopeId) (name : String) {value : Value}
    (serves : before.Serves home now value) :
    before.Lexical home (now.assign scope name value) := by
  have size : (now.assign scope name value).scopes.size = now.scopes.size := by
    simp [Store.assign]
  refine { lexical with
    grown := lexical.grown.trans (now.extends_assign scope name value)
    parents := ?_
    bindings := ?_
    settings := ?_ }
  · intro id parent sees found
    rw [parent?_assign] at found
    exact lexical.parents id parent sees found
  · intro id query item sees found
    rw [binding?_assign] at found
    split at found
    · cases found
      exact serves.grows (Nat.le_of_eq size.symm)
    · exact (lexical.bindings id query item sees found).grows (Nat.le_of_eq size.symm)
  · intro id active
    rw [settingsId?_assign]
    exact lexical.settings id (active.grows (Nat.le_of_eq size))

theorem write (active : before.Active home now scope) (texts : List String) :
    before.Lexical home (now.write (now.settingsOf scope).sink texts) := by
  obtain ⟨owner, runs, same⟩ := lexical.settingsOf active
  obtain ⟨added, written, sinks⟩ := lexical.writes
  refine { lexical with
    grown := lexical.grown.trans (now.extends_write _ texts)
    writes := ⟨added ++ texts.map (Write.mk (now.settingsOf scope).sink), ?_, ?_⟩ }
  · simp [Store.write, written]
  · intro write member
    rcases List.mem_append.mp member with old | new
    · exact sinks write old
    · obtain ⟨text, _, rfl⟩ := List.mem_map.mp new
      exact ⟨owner, runs, by rw [same]⟩

theorem logCall {closure : Closure} (active : before.Active home now closure.scope)
    (arguments : List Value) : before.Lexical home (now.logCall closure arguments) := by
  obtain ⟨owner, runs, same⟩ := lexical.settingsOf active
  obtain ⟨added, logged, policies⟩ := lexical.log
  refine { lexical with
    grown := lexical.grown.trans (now.extends_record _)
    log := ⟨added ++ [.calling closure.parameters.length arguments.length
      (now.settingsOf closure.scope).policy], ?_, ?_⟩ }
  · simp [Store.logCall, Store.record, logged]
  · intro line member
    rcases List.mem_append.mp member with old | new
    · exact policies line old
    · rw [List.mem_singleton.mp new, same]
      exact ⟨owner, _, _, runs, rfl⟩

theorem addChild {parent : ScopeId} {bindings : Dictionary Value}
    (active : before.Active home now parent)
    (serves : ∀ name value, bindings.find? name = some value → before.Serves home now value) :
    before.Lexical home (now.addChild parent bindings).2 := by
  have larger : now.scopes.size ≤ (now.addChild parent bindings).2.scopes.size := by
    simp [Store.addChild, Store.addScope]
  refine { lexical with
    grown := lexical.grown.trans (now.extends_addChild parent bindings)
    parents := ?_
    bindings := ?_
    settings := ?_ }
  · intro id above sees found
    simp only [parent?, Store.addChild, getElem?_addScope_eq] at found
    by_cases new : id = now.scopes.size
    · have same : parent = above := by simpa [new] using found
      rw [← same]
      exact active.sees
    · rw [if_neg new] at found
      exact lexical.parents id above sees found
  · intro id name value sees found
    simp only [binding?, Store.addChild, getElem?_addScope_eq] at found
    by_cases new : id = now.scopes.size
    · exact (serves name value (by simpa [new] using found)).grows larger
    · rw [if_neg new] at found
      exact (lexical.bindings id name value sees found).grows larger
  · intro id here
    have existing := Array.getElem?_eq_getElem active.1
    by_cases new : id = now.scopes.size
    · obtain ⟨owner, runs, same⟩ := lexical.settings parent active
      refine ⟨owner, runs, ?_⟩
      rw [← same]
      simp [settingsId?, Store.addChild, getElem?_addScope_eq, new, existing]
    · have below : id < now.scopes.size + 1 := by
        simpa [Store.addChild, Store.addScope] using here.1
      have old : before.Active home now id :=
        ⟨Nat.lt_of_le_of_ne (Nat.le_of_lt_succ below) new, here.2⟩
      obtain ⟨owner, runs, same⟩ := lexical.settings id old
      refine ⟨owner, runs, ?_⟩
      rw [← same]
      simp only [settingsId?, Store.addChild, getElem?_addScope_eq, if_neg new]

end Lexical

end Store

structure Store.Follows (before : Store) (owners : ScopeId → Prop) (after : Store) : Prop where
  settings : after.settings = before.settings
  scopes : ∀ scope, before.scopes.size ≤ scope → scope < after.scopes.size →
    ∃ owner, owners owner ∧ after.settingsId? scope = before.settingsId? owner
  writes : ∃ added, after.writes.toList = before.writes.toList ++ added ∧ ∀ write ∈ added,
    ∃ owner, owners owner ∧ write.sink = (before.settingsOf owner).sink
  log : ∃ added, after.log.toList = before.log.toList ++ added ∧ ∀ line ∈ added,
    ∃ owner parameters arguments, owners owner ∧
      line = .calling parameters arguments (before.settingsOf owner).policy

theorem Store.Lexical.follows {before now : Store} {home : ScopeId}
    (lexical : before.Lexical home now) : before.Follows (before.RunsIn home) now where
  settings := lexical.grown.settings
  scopes := fun scope new below => lexical.settings scope ⟨below, Or.inr new⟩
  writes := lexical.writes
  log := lexical.log

def lexicality (before : Store) (home : ScopeId) (intact : before.Intact)
    (present : home < before.scopes.size) : Contract where
  store := before.Lexical home
  value := before.Serves home
  tree := fun now scope _ => before.Active home now scope
  failed := fun now _ => before.Lexical home now
  value_grows := fun grown serves => serves.grows grown.size_le
  tree_grows := fun grown active => active.grows grown.size_le
  child := fun active _ _ => active
  computed := fun computed => Store.serves_scalar computed.isScalar
  unit := Store.serves_scalar .unit
  number := fun _ => Store.serves_scalar (.integer _)
  counted := fun _ _ => Store.serves_scalar (.integer _)
  held := fun serves _ => (Value.throughout_iff.mp serves).2 _ (by simp [Value.parts])
  element := fun serves => (Value.throughout_iff.mp serves).2
  returned := fun serves => (Value.throughout_iff.mp serves).2 _ (by simp [Value.parts])
  found := fun lexical active bound => lexical.lookup active.sees bound
  registered := by
    intro now name builtin lexical found
    have registered : before.builtin? name = some builtin := by
      rw [← found, Store.builtin?, Store.builtin?, lexical.grown.registry]
    exact (intact.serves present (.registered registered)).grows lexical.grown.size_le
  array := by
    intro now elements lexical serves
    refine ⟨lexical.freshIdentity, ?_⟩
    rw [Store.Serves, Value.throughout_iff]
    exact ⟨nofun, serves⟩
  function := by
    intro now scope position parameters body lexical active
    refine ⟨lexical.freshIdentity, Value.throughout_of_partless rfl ?_⟩
    rintro identity closure ⟨⟩
    exact active
  assigned := fun lexical _ serves _ => lexical.assign _ _ serves
  wrote := fun texts lexical active => lexical.write active texts
  entered := by
    intro now identity closure items lexical function serves _
    have active : before.Active home now closure.scope :=
      function _ (.self _) identity closure rfl
    have bound : (bindParameters .empty closure.parameters items).All (before.Serves home now) :=
      bindParameters_all Dictionary.all_empty (Store.serves_scalar .null) closure.parameters items
        serves
    refine ⟨(lexical.logCall active items).addChild active fun _ _ found => bound.find? found, ?_⟩
    have size := lexical.grown.size_le
    exact ⟨by simp [Store.enterCall, Store.addChild, Store.addScope], Or.inr size⟩
  refused := fun lexical _ function _ =>
    lexical.logCall (function _ (.self _) _ _ rfl) _
  raised := fun lexical _ _ => lexical

def enterUnder (settings : Settings) (closure : Closure) (arguments : List Value)
    (position : Position) : Evaluation ScopeId := do
  let expected := closure.parameters.length
  let actual := arguments.length
  .update (·.record (.calling expected actual settings.policy))
  if actual ≠ expected ∧ settings.policy = .strict then
    .failAt position (.functionArity expected actual)
  else
    .make (·.addChild closure.scope (bindParameters .empty closure.parameters arguments))

/-- Calls as `invokeWithin` makes them, except that all go by the given settings. -/
def invokeUnder (settings : Settings) : Nat → Invoke
  | _, .builtin name action, arguments, position, _ =>
      action.call name position arguments settings
  | 0, .function _, _, _, _ => .exhausted
  | depth + 1, .function closure, arguments, position, _ => do
      let scope ← enterUnder settings closure arguments position
      .arrive (closure.body.evaluate (invokeUnder settings depth) scope)

theorem enterUnder_settingsOf (closure : Closure) (arguments : List Value) (position : Position)
    (store : Store) :
    enterUnder (store.settingsOf closure.scope) closure arguments position store =
      enter closure arguments position store :=
  rfl

section Uniform

variable {before : Store} {home : ScopeId} {settings : Settings} {intact : before.Intact}
  {present : home < before.scopes.size}

variable (uniform : ∀ scope, before.RunsIn home scope → before.settingsOf scope = settings)
include uniform

theorem Store.Lexical.settingsOf_uniform {now : Store} {scope : ScopeId}
    (lexical : before.Lexical home now) (active : before.Active home now scope) :
    now.settingsOf scope = settings := by
  obtain ⟨owner, runs, same⟩ := lexical.settingsOf active
  exact same.trans (uniform owner runs)

theorem invokeUnder_builtin_keeps (depth : Nat) {store : Store} {scope : ScopeId}
    {position : Position} {identity : Identity} {name : String} {action : Action Value}
    {values : List Value} (kept : before.Lexical home store)
    (active : before.Active home store scope)
    (builtin : before.Serves home store (.builtin identity name action))
    (serves : ∀ value ∈ values, before.Serves home store value) :
    (lexicality before home intact present).Keeps (before.Serves home) False
      (invokeUnder settings depth (.builtin name action) values position scope)
      (invokeWithin depth (.builtin name action) values position scope) store := by
  have tree : (lexicality before home intact present).tree store scope
      (.call position .missing []) := active
  obtain ⟨grows, ended⟩ := Contract.builtin_keeps kept tree builtin serves
  have watched : invokeUnder settings depth (.builtin name action) values position scope store =
      action.call name position values settings store := by
    cases depth <;> rfl
  refine ⟨?_, ?_, ?_⟩
  · rw [watched, invokeWithin_builtin, kept.settingsOf_uniform uniform active]
  · rw [invokeWithin_builtin]
    exact grows
  · rw [invokeWithin_builtin]
    exact ended

theorem invokeUnder_calls (depth : Nat) :
    (lexicality before home intact present).Calls (invokeUnder settings depth)
      (invokeWithin depth) := by
  induction depth with
  | zero =>
      intro store scope position callee arguments value callable values kept tree target found
        allowed
      cases value with
      | function identity closure =>
          cases found
          exact ⟨rfl, .refl store, kept⟩
      | builtin identity name action =>
          cases found
          exact invokeUnder_builtin_keeps uniform 0 kept tree target allowed
      | _ => cases found
  | succ depth ih =>
      intro store scope position callee arguments value callable values kept tree target found
        allowed
      cases value with
      | function identity closure =>
          cases found
          have active : before.Active home store closure.scope := target _ (.self _) _ _ rfl
          have entered := Contract.enter_keeps kept tree target allowed
          have same := enterUnder_settingsOf closure values position store
          rw [kept.settingsOf_uniform uniform active] at same
          refine Contract.Keeps.bind ⟨same, entered.grows, entered.ended⟩ ?_
          intro inner after grown keptAfter treeAfter
          exact (Contract.evaluate_keeps ih closure.body after keptAfter treeAfter).arrive
      | builtin identity name action =>
          cases found
          exact invokeUnder_builtin_keeps uniform (depth + 1) kept tree target allowed
      | _ => cases found

end Uniform

structure Store.SharesSettings (store : Store) (inner outer : ScopeId) : Prop where
  parent : store.parent? inner = some outer
  settings : store.settingsId? inner = store.settingsId? outer

theorem enter_shares {closure : Closure} {arguments : List Value} {position : Position}
    {store after : Store} {scope : ScopeId} (present : closure.scope < store.scopes.size)
    (entered : enter closure arguments position store = (.value scope, after)) :
    after.SharesSettings scope closure.scope := by
  by_cases refused : store.Refuses closure arguments
  · rw [enter_of_refused closure arguments position store refused] at entered
    cases entered
  · rw [enter_of_accepted closure arguments position store refused] at entered
    cases entered
    have existing := Array.getElem?_eq_getElem present
    have older : closure.scope ≠ store.scopes.size := Nat.ne_of_lt present
    constructor <;>
      simp [Store.parent?, Store.settingsId?, Store.enterCall, Store.addChild, Store.addScope,
        Store.logCall, Store.record, Array.getElem?_push, older, existing]

structure Node.GoesBy (node : Node) (depth : Nat) (home : ScopeId) (store : Store) (id : SettingsId)
    (settings : Settings) : Prop where
  calls : node.evaluate (invokeWithin depth) home store =
    node.evaluate (invokeUnder settings depth) home store
  writes : ∃ added, (node.evaluate (invokeWithin depth) home store).2.writes.toList =
    store.writes.toList ++ added ∧ ∀ write ∈ added, write.sink = settings.sink
  scopes : ∀ scope, store.scopes.size ≤ scope →
    scope < (node.evaluate (invokeWithin depth) home store).2.scopes.size →
    (node.evaluate (invokeWithin depth) home store).2.settingsId? scope = some id

structure Node.FollowsScopes (node : Node) (depth : Nat) (home : ScopeId) (store : Store) :
    Prop where
  follows : store.Follows (store.RunsIn home) (node.evaluate (invokeWithin depth) home store).2
  uniform : ∀ id settings, store.settings[id]? = some settings →
    (∀ scope, store.RunsIn home scope → store.settingsId? scope = some id) →
    node.GoesBy depth home store id settings

section Evaluations

variable {store : Store} {home : ScopeId} (intact : store.Intact)
  (present : home < store.scopes.size) (node : Node) (depth : Nat)
include intact present

theorem evaluate_follows :
    store.Follows (store.RunsIn home) (node.evaluate (invokeWithin depth) home store).2 := by
  have here : (lexicality store home intact present).tree store home node :=
    Store.active_home present
  have ended := ((lexicality store home intact present).evaluate_ended depth
    (Store.lexical_refl intact present) here).2
  have lexical : store.Lexical home (node.evaluate (invokeWithin depth) home store).2 :=
    Contract.Ended.kept ended fun _ _ lexical => lexical
  exact lexical.follows

theorem evaluate_under {settings : Settings}
    (uniform : ∀ scope, store.RunsIn home scope → store.settingsOf scope = settings) :
    node.evaluate (invokeWithin depth) home store =
      node.evaluate (invokeUnder settings depth) home store := by
  have here : (lexicality store home intact present).tree store home node :=
    Store.active_home present
  have kept := Contract.evaluate_keeps (invokeUnder_calls uniform depth) node store
    (Store.lexical_refl intact present) here
  exact kept.same.symm

theorem evaluate_goesBy {id : SettingsId} {settings : Settings}
    (found : store.settings[id]? = some settings)
    (shared : ∀ scope, store.RunsIn home scope → store.settingsId? scope = some id) :
    node.GoesBy depth home store id settings := by
  have uniform : ∀ scope, store.RunsIn home scope → store.settingsOf scope = settings := by
    intro scope runs
    rw [Store.settingsOf_eq, shared scope runs]
    simp [found]
  have follows := evaluate_follows intact present node depth
  refine ⟨evaluate_under intact present node depth uniform, ?_, ?_⟩
  · obtain ⟨added, written, sinks⟩ := follows.writes
    refine ⟨added, written, fun write member => ?_⟩
    obtain ⟨owner, runs, same⟩ := sinks write member
    rw [same, uniform owner runs]
  · intro scope new below
    obtain ⟨owner, runs, same⟩ := follows.scopes scope new below
    exact same.trans (shared owner runs)

end Evaluations

/-- Settings follow the lexical scope and not the caller. -/
theorem settings_follow_scopes :
    (∀ host : Host, host.Reached →
      host.store.Intact ∧ host.store.Inherits host.ownSettings) ∧
    (∀ closure arguments position store scope after, closure.scope < store.scopes.size →
      enter closure arguments position store = (.value scope, after) →
      after.SharesSettings scope closure.scope) ∧
    ∀ (store : Store) (home : ScopeId) (node : Node) (depth : Nat), store.Intact →
      home < store.scopes.size → node.FollowsScopes depth home store := by
  refine ⟨fun host reached => ⟨reached.intact.store, reached.intact.inherits⟩,
    fun _ _ _ _ _ _ present entered => enter_shares present entered, ?_⟩
  intro store home node depth intact present
  exact ⟨evaluate_follows intact present node depth,
    fun _ _ found shared => evaluate_goesBy intact present node depth found shared⟩

theorem settings_follow_scopes_lenient :
    let opened := (Store.initial.openSession none (some ⟨.lenient, .named "a"⟩)).2
    let store := (opened.openSession none (some ⟨.strict, .named "b"⟩)).2
    let node : Node := .call .start (.function .start ["x"]
      (.call .start (.identifier .start "puts") [.identifier .start "x"])) []
    Host.Reached ⟨store, [], []⟩ ∧ 0 < store.scopes.size ∧
    (∀ scope, store.RunsIn 0 scope → store.settingsId? scope = some 0) ∧
    store.Inherits [] ∧ (node.evaluate (invokeWithin 1) 0 store).2.writes.size = 1 ∧
    ∃ added, (node.evaluate (invokeWithin 1) 0 store).2.writes.toList = store.writes.toList ++ added ∧
      ∀ write ∈ added, write.sink = .named "a" := by
  intro opened store node
  have first : Host.Reached ⟨opened, [], []⟩ := .step .initial (.openSession none _)
  have reached : Host.Reached ⟨store, [], []⟩ := .step first (.openSession none _)
  have parents : ∀ id parent, id = 0 → store.parent? id = some parent → parent = 0 := by
    rintro _ _ rfl ⟨⟩
  have unbound : ∀ id name, id = 0 → store.binding? id name = none := by
    rintro _ _ rfl
    rfl
  have stock : ∀ name, store.builtin? name = Store.initial.builtin? name := fun _ => rfl
  have shared : ∀ scope, store.RunsIn 0 scope → store.settingsId? scope = some 0 := by
    rintro scope (same | ⟨identity, closure, reachable, _⟩)
    · rw [same]
      rfl
    · have functionless := Store.reachable_of_unbound parents unbound stock rfl reachable
      exact (functionless.2 identity closure rfl).elim
  have present : 0 < store.scopes.size := by decide
  obtain ⟨intact, inherits⟩ := settings_follow_scopes.1 _ reached
  have goes := (settings_follow_scopes.2.2 store 0 node 1 intact present).uniform 0
    ⟨.lenient, .named "a"⟩ rfl shared
  exact ⟨reached, present, shared, inherits, rfl, goes.writes⟩

end MonkeyLang
