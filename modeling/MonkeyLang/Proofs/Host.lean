import MonkeyLang.Proofs.Integrity

/-! The states that a host can bring about, step by step from the initial store. In all of them the
store is intact, and scopes share the settings of their parents unless they were given their own. -/

namespace MonkeyLang

/-- Looks a name up as `resolve` does, but loads the stock before it looks among the builtins. -/
def resolveWithStock (scope : ScopeId) (position : Position) (name : String) : Evaluation Value := do
  match ← .read (·.lookup scope name) with
  | some value => .yield value
  | none =>
      match ← .make (·.findBuiltin name) with
      | some value => pure value
      | none => .failAt position (.undeclared name)

theorem resolve_of_loaded {store : Store} (loaded : store.stockLoaded = true) (scope : ScopeId)
    (position : Position) (name : String) :
    resolve scope position name store = resolveWithStock scope position name store := by
  have found : store.findBuiltin name = ((store.builtin? name).map (·.value), store) := by
    rw [Store.findBuiltin, Store.loadStock_of_loaded loaded]
  simp only [resolve, resolveWithStock, Evaluation.bind_apply, Evaluation.andThen,
    Evaluation.read_apply]
  cases store.lookup scope name with
  | some value => rfl
  | none =>
      simp only [Evaluation.bind_apply, Evaluation.andThen, Evaluation.read_apply,
        Evaluation.make_apply, found]
      cases store.builtin? name <;> rfl

/-- `ownSettings` keeps the scopes that a host made inside others with settings of their own. -/
structure Host where
  store : Store
  held : List Value
  ownSettings : List ScopeId

namespace Host

def initial : Host := ⟨.initial, [], []⟩

def hold (host : Host) (made : Value × Store) : Host :=
  { host with store := made.2, held := made.1 :: host.held }

def receive (host : Host) : Outcome Value × Store → Host
  | (.value result, store) => host.hold (result, store)
  | (.returning origin result, store) => host.hold (store.addReturn origin result)
  | (.failed _, store) | (.exhausted, store) => { host with store }

/-- To evaluate a unit alone, a host opens a session and evaluates the unit there. -/
inductive Step (host : Host) : Host → Prop
  | openSession (setting : Option String) (explicit : Option Settings) :
      Step host { host with store := (host.store.openSession setting explicit).2 }
  | addChild {parent : ScopeId} : parent < host.store.scopes.size →
      Step host { host with store := (host.store.addChild parent .empty).2 }
  | addNested {parent : ScopeId} (settings : Settings) : parent < host.store.scopes.size →
      Step host { host with
        store := (host.store.addNested parent settings).2
        ownSettings := (host.store.addNested parent settings).1 :: host.ownSettings }
  | setPolicy (scope : ScopeId) (policy : ArityPolicy) :
      Step host { host with store := host.store.setPolicy scope policy }
  | evaluateUnit (depth : Nat) (node : Node) {scope : ScopeId} : scope < host.store.scopes.size →
      Step host (host.receive (evaluateUnit depth node scope host.store))
  | evaluate (depth : Nat) (node : Node) {scope : ScopeId} : scope < host.store.scopes.size →
      Step host (host.receive (node.evaluate (invokeWithin depth) scope host.store))
  | call (depth : Nat) (position : Position) {scope : ScopeId} {callee : Value}
      {callable : Callable} {arguments : List Value} : scope < host.store.scopes.size →
      callee ∈ host.held → callee.callable? = some callable →
      (∀ argument ∈ arguments, argument ∈ host.held) →
      Step host (host.receive (invokeWithin depth callable arguments position scope host.store))
  | assign (scope : ScopeId) (name : String) {value : Value} : value ∈ host.held →
      Step host { host with store := host.store.assign scope name value }
  | register (name : String) {action : Action Value} :
      (∀ result, action = .constant result → result ∈ host.held) →
      Step host { host with store := host.store.register name action }
  | lookup {scope : ScopeId} {name : String} {value : Value} :
      host.store.lookup scope name = some value → Step host (host.hold (value, host.store))
  | findBuiltin {name : String} {value : Value} :
      (host.store.findBuiltin name).1 = some value →
      Step host (host.hold (value, (host.store.findBuiltin name).2))
  | scalar {value : Value} : value.IsScalar → Step host (host.hold (value, host.store))
  | array {elements : List Value} : (∀ element ∈ elements, element ∈ host.held) →
      Step host (host.hold (host.store.addArray elements))
  | function (parameters : List String) (body : Node) :
      Step host (host.hold (host.store.addDetachedFunction parameters body))
  | pendingReturn {result : Value} : result ∈ host.held →
      Step host (host.hold (host.store.addReturn none result))
  | clearOutput : Step host { host with store := host.store.clearOutput }

inductive Reached : Host → Prop
  | initial : Reached .initial
  | step {host next : Host} : Reached host → host.Step next → Reached next

structure Intact (host : Host) : Prop where
  store : host.store.Intact
  inherits : host.store.Inherits host.ownSettings
  held : ∀ value ∈ host.held, host.store.Knows value
  loaded : host.store.stockLoaded = true

theorem intact_initial : initial.Intact where
  store :=
    { parents := fun _ _ found => by cases found
      settings := fun _ _ found => by cases found
      bindings := fun _ _ _ found => by cases found
      registry := fun _ _ found =>
        Value.throughout_of_partless (Store.partless_initial found) trivial }
  inherits := fun _ _ _ found => by cases found
  held := nofun
  loaded := rfl

variable {host : Host}

theorem Intact.loadStock (intact : host.Intact) : host.store.loadStock = host.store :=
  Store.loadStock_of_loaded intact.loaded

theorem Intact.withStore (intact : host.Intact) {store : Store} (kept : store.Intact)
    (inherits : store.Inherits host.ownSettings)
    (scopes : host.store.scopes.size ≤ store.scopes.size)
    (identities : host.store.nextIdentity ≤ store.nextIdentity)
    (loaded : store.stockLoaded = true) : { host with store : Host }.Intact where
  store := kept
  inherits := inherits
  held := fun value member => (intact.held value member).grows scopes identities
  loaded := loaded

theorem Intact.withValue (intact : host.Intact) {value : Value} (known : host.store.Knows value) :
    (host.hold (value, host.store)).Intact where
  store := intact.store
  inherits := intact.inherits
  held := by
    intro item member
    rcases List.mem_cons.mp member with same | old
    · rw [same]
      exact known
    · exact intact.held item old
  loaded := intact.loaded

theorem Intact.withFresh (intact : host.Intact) :
    { host with store := host.store.freshIdentity.2 : Host }.Intact :=
  intact.withStore (intact.store.of_same rfl (Nat.le_refl _) rfl (Nat.le_succ _))
    (intact.inherits.of_same rfl) (Nat.le_refl _) (Nat.le_succ _) intact.loaded

theorem Intact.addReturn (intact : host.Intact) {result : Value} (known : host.store.Knows result) :
    (host.hold (host.store.addReturn none result)).Intact := by
  apply intact.withFresh.withValue
  rw [Store.Knows, Value.throughout_iff]
  refine ⟨trivial, fun part member => ?_⟩
  have same : part = result := by simpa [Value.parts] using member
  rw [same]
  exact known.grows (Nat.le_refl _) (Nat.le_succ _)

theorem Intact.receive (intact : host.Intact) {returns : Prop} {ends : Outcome Value × Store}
    (grown : host.store.Extends ends.2)
    (ended : (integrity host.ownSettings).Ended (integrity host.ownSettings).value returns ends) :
    (host.receive ends).Intact := by
  obtain ⟨outcome, after⟩ := ends
  have kept (held : after.Intact ∧ after.Inherits host.ownSettings) :
      { host with store := after : Host }.Intact :=
    intact.withStore held.1 held.2 grown.size_le grown.identities
      (grown.stockLoaded.trans intact.loaded)
  cases outcome with
  | value result => exact (kept ended.1).withValue ended.2
  | returning origin result =>
      cases origin with
      | none => exact (kept ended.1).addReturn ended.2.1
      | some identity => exact (kept ended.1).withValue ended.2
  | failed failure => exact kept ended
  | exhausted => exact kept ended

theorem Intact.evaluateUnit (intact : host.Intact) (depth : Nat) (node : Node) {scope : ScopeId}
    (present : scope < host.store.scopes.size) :
    (host.receive (evaluateUnit depth node scope host.store)).Intact := by
  have kept : (integrity host.ownSettings).store host.store.loadStock := by
    rw [intact.loadStock]
    exact ⟨intact.store, intact.inherits⟩
  have tree : (integrity host.ownSettings).tree host.store.loadStock scope node := by
    rw [intact.loadStock]
    exact present
  obtain ⟨grown, ended⟩ := (integrity host.ownSettings).unit_ended depth
    (fun _ _ _ failed => Store.kept_of_same failed rfl rfl rfl (Nat.le_refl _)) kept tree
  rw [intact.loadStock] at grown
  exact intact.receive grown ended

theorem Intact.addRoot (intact : host.Intact) (settings : Settings) :
    { host with store := (host.store.addRoot settings).2 : Host }.Intact := by
  refine intact.withStore (intact.store.addRoot settings)
    (intact.inherits.addRoot intact.store settings) ?_ (Nat.le_refl _) intact.loaded
  simp [Store.addRoot, Store.addScope, Store.addSettings]

theorem Intact.openSession (intact : host.Intact) (setting : Option String)
    (explicit : Option Settings) :
    { host with store := (host.store.openSession setting explicit).2 : Host }.Intact := by
  simp only [Store.openSession, intact.loadStock]
  split
  · exact intact
  · rename_i settings _
    have rooted := intact.addRoot settings
    exact rooted.withStore (rooted.store.of_same rfl (Nat.le_refl _) rfl (Nat.le_refl _))
      (rooted.inherits.of_same rfl) (Nat.le_refl _) (Nat.le_refl _) rooted.loaded

theorem Intact.step (intact : host.Intact) {next : Host} (step : host.Step next) :
    next.Intact := by
  cases step with
  | openSession setting explicit => exact intact.openSession setting explicit
  | addChild present =>
      refine intact.withStore (intact.store.addChild present nofun)
        (intact.inherits.addChild intact.store present _) ?_ (Nat.le_refl _) intact.loaded
      simp [Store.addChild, Store.addScope]
  | addNested settings present =>
      refine ⟨intact.store.addNested present settings,
        intact.inherits.addNested intact.store _ settings, ?_, intact.loaded⟩
      intro value member
      refine (intact.held value member).grows ?_ (Nat.le_refl _)
      simp [Store.addNested, Store.addScope, Store.addSettings]
  | setPolicy scope policy =>
      simp only [Store.setPolicy]
      split
      · exact intact
      · exact intact.withStore (intact.store.of_same rfl (by simp) rfl (Nat.le_refl _))
          (intact.inherits.of_same rfl) (Nat.le_refl _) (Nat.le_refl _) intact.loaded
  | evaluateUnit depth node present => exact intact.evaluateUnit depth node present
  | evaluate depth node present =>
      obtain ⟨grown, ended⟩ := (integrity host.ownSettings).evaluate_ended depth
        ⟨intact.store, intact.inherits⟩ present
      exact intact.receive grown ended
  | call depth position present callee found arguments =>
      have tree : (integrity host.ownSettings).tree host.store _ (.call position .missing []) :=
        present
      obtain ⟨grown, ended⟩ := (integrity host.ownSettings).invoke_ended depth
        ⟨intact.store, intact.inherits⟩ tree (intact.held _ callee) found
        fun argument member => intact.held _ (arguments _ member)
      exact intact.receive grown ended
  | assign scope name held =>
      refine intact.withStore (intact.store.assign scope name (intact.held _ held))
        (intact.inherits.assign scope name _) ?_ (Nat.le_refl _) intact.loaded
      simp [Store.assign]
  | register name held =>
      exact intact.withStore
        (intact.store.register name fun result constant => intact.held _ (held result constant))
        (intact.inherits.of_same rfl) (Nat.le_refl _) (Nat.le_succ _) intact.loaded
  | lookup found => exact intact.withValue (intact.store.lookup found)
  | findBuiltin found =>
      simp only [Store.findBuiltin, intact.loadStock] at found ⊢
      obtain ⟨builtin, registered, same⟩ := Option.map_eq_some_iff.mp found
      rw [← same]
      exact intact.withValue (intact.store.registry _ _ registered)
  | scalar scalar => exact intact.withValue (Store.knows_scalar scalar)
  | array held =>
      apply intact.withFresh.withValue
      exact Store.knows_array fun element member => intact.held _ (held element member)
  | function parameters body =>
      apply (intact.addRoot .default).withFresh.withValue
      apply Store.knows_function
      simp [Store.addRoot, Store.addScope, Store.addSettings]
  | pendingReturn held => exact intact.addReturn (intact.held _ held)
  | clearOutput =>
      exact intact.withStore (intact.store.of_same rfl (Nat.le_refl _) rfl (Nat.le_refl _))
        (intact.inherits.of_same rfl) (Nat.le_refl _) (Nat.le_refl _) intact.loaded

theorem Reached.intact (reached : host.Reached) : host.Intact := by
  induction reached with
  | initial => exact intact_initial
  | step reached step ih => exact ih.step step

theorem Reached.resolve_eq (reached : host.Reached) (scope : ScopeId) (position : Position)
    (name : String) :
    resolve scope position name host.store =
      resolveWithStock scope position name host.store :=
  resolve_of_loaded reached.intact.loaded scope position name

end Host

end MonkeyLang
