import MonkeyLang.Proofs.Chain
import MonkeyLang.Proofs.Depth
import MonkeyLang.Proofs.Host

/-! Evaluations that end. Only calling a function leaves the tree, so a tree that calls nothing ends,
whatever functions there are; and where no function can be come by, a tree that makes none may call as
much as it likes, since all it can call are builtins. -/

namespace MonkeyLang

def Evaluation.Finishes {α : Type} (body : Evaluation α) : Prop :=
  ∀ store, (body store).1 ≠ .exhausted

namespace Evaluation

variable {α β : Type}

theorem finishes_pure (result : α) : (pure result : Evaluation α).Finishes := by
  intro store
  simp

theorem finishes_make (construct : Store → α × Store) : (make construct).Finishes := by
  intro store
  simp

theorem finishes_returning (result : Value) : (returning result : Evaluation α).Finishes := by
  intro store
  simp [returning]

theorem finishes_failAt (position : Position) (cause : Cause) :
    (failAt position cause : Evaluation α).Finishes := by
  intro store
  simp

theorem finishes_fault (fault : Fault) : (Evaluation.fault fault : Evaluation α).Finishes := by
  intro store
  simp

theorem Finishes.bind {body : Evaluation α} {next : α → Evaluation β} (finishes : body.Finishes)
    (continues : ∀ result, (next result).Finishes) : (body >>= next).Finishes := by
  intro store
  have here := finishes store
  rcases ends : body store with ⟨outcome, after⟩
  rw [ends] at here
  cases outcome with
  | value result =>
      rw [bind_of_value store next ends]
      exact continues result after
  | returning origin result => simp [bind_of_returning store next ends]
  | failed failure => simp [bind_of_failed store next ends]
  | exhausted => exact (here rfl).elim

theorem ofValue_ne_exhausted (value : Value) : Outcome.ofValue value ≠ .exhausted := by
  cases value <;> simp [Outcome.ofValue]

theorem finishes_ofExcept (result : Except Failure Value) : (ofExcept result).Finishes := by
  intro store
  cases result with
  | ok value => exact ofValue_ne_exhausted value
  | error failure => simp

theorem Finishes.conclude {body : Evaluation Value} (finishes : body.Finishes) :
    (conclude body).Finishes := by
  intro store
  have here := finishes store
  simp only [conclude_eq_review, review]
  cases outcome : (body store).1 with
  | value result => simp [Outcome.concluded]
  | returning origin result => cases result <;> simp [Outcome.concluded]
  | failed failure => simp [Outcome.concluded]
  | exhausted => exact (here outcome).elim

end Evaluation

/-- Whether evaluating a tree can make a call: it has a call that stands in no function. -/
def Node.CanCall (node : Node) : Prop :=
  ∃ position callee arguments,
    HasPart (fun above => !above.isFunction) node (.call position callee arguments)

theorem Node.CanCall.of_child {node child : Node} (function : node.isFunction = false)
    (member : child ∈ node.children) (calls : child.CanCall) : node.CanCall := by
  obtain ⟨position, callee, arguments, found⟩ := calls
  exact ⟨position, callee, arguments, .inside (by simp [function]) member found⟩

section Trees

variable {invoke : Invoke} {scope : ScopeId}

theorem resolve_finishes (position : Position) (name : String) :
    (resolve scope position name).Finishes := by
  intro store
  cases bound : store.lookup scope name with
  | some value =>
      rw [resolve_of_lookup scope position name store bound]
      exact Evaluation.ofValue_ne_exhausted value
  | none =>
      cases registered : store.builtin? name with
      | some builtin =>
          simp [resolve_of_builtin scope position name store bound registered]
      | none =>
          simp [resolve_of_none scope position name store bound registered]

theorem bindName_finishes (position : Position) (name : String) (value : Value) :
    (bindName scope position name value).Finishes := by
  intro store
  cases unit : value.isUnit with
  | true =>
      simp [bindName_of_unit scope position name store unit]
  | false =>
      simp [bindName_of_plain scope position name store unit]

theorem evaluateEach_finishes {nodes : List Node}
    (each : ∀ node ∈ nodes, (node.evaluate invoke scope).Finishes) :
    (evaluateEach invoke scope nodes).Finishes := by
  induction nodes with
  | nil => exact Evaluation.finishes_pure _
  | cons node rest ih =>
      refine (each node (by simp)).bind fun value => ?_
      refine (ih fun node member => each node (by simp [member])).bind fun values => ?_
      exact Evaluation.finishes_pure _

theorem evaluateSequence_finishes {nodes : List Node} (last : Value)
    (each : ∀ node ∈ nodes, (node.evaluate invoke scope).Finishes) :
    (evaluateSequence invoke scope last nodes).Finishes := by
  induction nodes generalizing last with
  | nil => exact Evaluation.finishes_pure _
  | cons node rest ih =>
      refine (each node (by simp)).bind fun value => ?_
      exact ih value fun node member => each node (by simp [member])

theorem evaluate_finishes (node : Node)
    (calls : node.CanCall → ∀ callable arguments position caller,
      (invoke callable arguments position caller).Finishes) :
    (node.evaluate invoke scope).Finishes := by
  induction node using Node.induct_children with
  | step node ih =>
  have child (part : Node) (function : node.isFunction = false) (member : part ∈ node.children) :
      (part.evaluate invoke scope).Finishes :=
    ih part member fun inner => calls (inner.of_child function member)
  cases node with
  | program position statements =>
      exact (evaluateSequence_finishes .null fun part => child part rfl).conclude
  | block position statements =>
      exact evaluateSequence_finishes .null fun part => child part rfl
  | expressionStatement position expression => exact child expression rfl (by simp [Node.children])
  | letStatement position name value =>
      refine (child value rfl (by simp [Node.children])).bind fun bound => ?_
      exact bindName_finishes position name bound
  | returnStatement position value =>
      refine (child value rfl (by simp [Node.children])).bind fun result => ?_
      exact Evaluation.finishes_returning result
  | identifier position name => exact resolve_finishes position name
  | array position elements =>
      refine (evaluateEach_finishes fun part => child part rfl).bind fun values => ?_
      exact Evaluation.finishes_make _
  | index position base chosen =>
      refine (child base rfl (by simp [Node.children])).bind fun found => ?_
      cases found with
      | array identity elements =>
          refine (child chosen rfl (by simp [Node.children])).bind fun value => ?_
          exact Evaluation.finishes_ofExcept _
      | _ => exact Evaluation.finishes_failAt _ _
  | unary position operator operand =>
      refine (child operand rfl (by simp [Node.children])).bind fun value => ?_
      exact Evaluation.finishes_ofExcept _
  | binary position operator left right =>
      refine (child left rfl (by simp [Node.children])).bind fun leftValue => ?_
      refine (child right rfl (by simp [Node.children])).bind fun rightValue => ?_
      exact Evaluation.finishes_ofExcept _
  | conditional position condition consequence alternative =>
      refine (child condition rfl (by simp [Node.children])).bind fun decision => ?_
      by_cases truthy : decision.isTruthy = true
      · simp only [truthy, if_true]
        exact child consequence rfl (by simp [Node.children])
      · by_cases absent : alternative.isMissing = true
        · simp only [truthy, absent, if_true]
          exact Evaluation.finishes_pure _
        · simp only [truthy, absent]
          exact child alternative rfl (by simp [Node.children, absent])
  | call position callee arguments =>
      refine (child callee rfl (by simp [Node.children])).bind fun target => ?_
      cases target.callable? with
      | none => exact Evaluation.finishes_failAt _ _
      | some callable =>
          have each : (evaluateEach invoke scope arguments).Finishes :=
            evaluateEach_finishes fun part member => child part rfl (List.mem_cons_of_mem _ member)
          exact each.bind fun values =>
            calls ⟨position, callee, arguments, .self _⟩ callable values position scope
  | missing => exact Evaluation.finishes_fault _
  | function position parameters body => exact Evaluation.finishes_make _
  | _ => exact Evaluation.finishes_pure _

end Trees

def Node.Functionless (node : Node) : Prop :=
  ∀ part, HasPart (fun _ => true) node part → part.isFunction = false

theorem Node.functionless_iff {node : Node} :
    node.Functionless ↔ node.isFunction = false ∧ ∀ child ∈ node.children, child.Functionless := by
  rw [Node.Functionless, forall_hasPart]
  exact and_congr_right fun _ => ⟨fun below => below rfl, fun below _ => below⟩

def Value.isFunction : Value → Bool
  | .function _ _ => true
  | _ => false

abbrev Value.Functionless (value : Value) : Prop := value.Throughout (·.isFunction = false)

namespace Store

def Functionless (store : Store) (home : ScopeId) : Prop :=
  ∀ identity closure, ¬store.Reachable home (.value (.function identity closure))

/-- What can be seen from the given scopes, among which are their parents, is no function. -/
structure HidesFunctions (visible : ScopeId → Prop) (store : Store) : Prop where
  parents : ∀ id parent, visible id → store.parent? id = some parent → visible parent
  bindings : ∀ id name value, visible id → store.binding? id name = some value → value.Functionless
  registry : ∀ name builtin, store.builtin? name = some builtin → builtin.value.Functionless

inductive LeadsToNone (visible : ScopeId → Prop) : Thing → Prop
  | scope {id : ScopeId} : visible id → LeadsToNone visible (.scope id)
  | settings (id : SettingsId) : LeadsToNone visible (.settings id)
  | value {item : Value} : item.Functionless → LeadsToNone visible (.value item)

variable {store after : Store} {home : ScopeId} {visible : ScopeId → Prop}

theorem Functionless.value {item : Value} (functionless : store.Functionless home)
    (reachable : store.Reachable home (.value item)) : item.Functionless := by
  intro inner contained
  cases inner with
  | function identity closure =>
      exact (functionless identity closure (reachable.contains contained)).elim
  | _ => rfl

theorem Functionless.hides (functionless : store.Functionless home) :
    store.HidesFunctions fun id => store.Reachable home (.scope id) where
  parents := fun _ _ reachable found => .further reachable (.parent found)
  bindings := fun _ _ _ reachable found => functionless.value (.further reachable (.binding found))
  registry := fun _ _ found => functionless.value (.registered found)

namespace HidesFunctions

variable (hides : store.HidesFunctions visible)
include hides

theorem of_same (scopes : after.scopes = store.scopes) (registry : after.registry = store.registry) :
    after.HidesFunctions visible where
  parents := by
    simp only [parent?, scopes]
    exact hides.parents
  bindings := by
    simp only [binding?, scopes]
    exact hides.bindings
  registry := by
    simp only [builtin?, registry]
    exact hides.registry

theorem assign (scope : ScopeId) (name : String) {value : Value} (plain : value.Functionless) :
    (store.assign scope name value).HidesFunctions visible where
  parents := by
    intro id parent seen found
    rw [parent?_assign] at found
    exact hides.parents id parent seen found
  bindings := by
    intro id query item seen found
    rw [binding?_assign] at found
    split at found
    · cases found
      exact plain
    · exact hides.bindings id query item seen found
  registry := hides.registry

theorem lookup {scope : ScopeId} {name : String} {value : Value} (seen : visible scope)
    (found : store.lookup scope name = some value) : value.Functionless := by
  obtain ⟨owner, seenOwner, bound⟩ := binding?_of_lookup_within hides.parents seen found
  exact hides.bindings owner name value seenOwner bound

theorem leadsToNone {thing : Thing} (seen : visible home) (reachable : store.Reachable home thing) :
    LeadsToNone visible thing := by
  induction reachable with
  | home => exact .scope seen
  | registered found => exact .value (hides.registry _ _ found)
  | further _ leads ih =>
      cases leads with
      | parent found =>
          cases ih with
          | scope seen => exact .scope (hides.parents _ _ seen found)
      | settings found => exact .settings _
      | binding found =>
          cases ih with
          | scope seen => exact .value (hides.bindings _ _ _ seen found)
      | part member =>
          cases ih with
          | value plain => exact .value (plain.part member)
      | closure identity closure =>
          cases ih with
          | value plain => cases plain _ (.self _)

theorem functionless (seen : visible home) : store.Functionless home := by
  intro identity closure reachable
  cases hides.leadsToNone seen reachable with
  | value plain => cases plain _ (.self _)

end HidesFunctions

end Store

/-- The contract of an evaluation in `home` where no function can be seen. -/
def concealment (visible : ScopeId → Prop) (home : ScopeId) (seen : visible home) : Contract where
  store := Store.HidesFunctions visible
  value := fun _ => Value.Functionless
  tree := fun _ scope node => scope = home ∧ node.Functionless
  failed := fun now _ => now.HidesFunctions visible
  value_grows := fun _ plain => plain
  tree_grows := fun _ tree => tree
  child := fun tree _ member => ⟨tree.1, (Node.functionless_iff.mp tree.2).2 _ member⟩
  computed := fun computed => by cases computed <;> exact Value.throughout_of_partless rfl rfl
  unit := Value.throughout_of_partless rfl rfl
  number := fun _ => Value.throughout_of_partless rfl rfl
  counted := fun _ _ => Value.throughout_of_partless rfl rfl
  held := fun plain _ => plain.part (by simp [Value.parts])
  element := fun plain _ member => plain.part member
  returned := fun plain => plain.part (by simp [Value.parts])
  found := by
    rintro now scope position name item hides ⟨rfl, _⟩ bound
    exact hides.lookup seen bound
  registered := fun hides found => hides.registry _ _ found
  array := fun hides plain => ⟨hides.of_same rfl rfl, Value.throughout_iff.mpr ⟨rfl, plain⟩⟩
  function := fun _ tree => by cases tree.2 _ (.self _)
  assigned := fun hides _ plain _ => hides.assign _ _ plain
  wrote := fun _ hides _ => hides.of_same rfl rfl
  entered := fun _ function _ _ => by cases function _ (.self _)
  refused := fun _ _ function _ => by cases function _ (.self _)
  raised := fun hides _ _ => hides

def invokeBuiltin : Invoke
  | .builtin name action, arguments, position, caller =>
      invokeWithin 0 (.builtin name action) arguments position caller
  | .function _, _, position, _ => .failAt position (.notCallable .function)

theorem invokeBuiltin_finishes (callable : Callable) (arguments : List Value)
    (position : Position) (caller : ScopeId) :
    (invokeBuiltin callable arguments position caller).Finishes := by
  intro store
  cases callable with
  | function closure => simp [invokeBuiltin]
  | builtin name action =>
      rw [invokeBuiltin, invokeWithin_builtin]
      have effect := action.call_effect name position arguments (store.settingsOf caller) store
      intro cut
      generalize action.call name position arguments (store.settingsOf caller) store = ends
        at effect cut
      cases effect <;> cases cut

section Functionless

variable {visible : ScopeId → Prop} {home : ScopeId} {seen : visible home}

theorem concealment_calls : (concealment visible home seen).Calls invokeBuiltin (invokeWithin 0) := by
  intro store scope position callee arguments value callable values hides tree target found allowed
  have kept := (concealment visible home seen).invoke_ended 0 hides tree target found allowed
  cases value with
  | function identity closure => cases target _ (.self _)
  | builtin identity name action =>
      cases found
      exact ⟨rfl, kept.1, kept.2⟩
  | _ => cases found

end Functionless

theorem Node.ends_of_not_canCall {node : Node} (calls : ¬node.CanCall) (scope : ScopeId)
    (store : Store) : ∃ outcome after, node.Ends scope store outcome after :=
  ⟨_, _, ⟨evaluate_finishes node (fun made => (calls made).elim) store, 0, rfl⟩⟩

theorem Node.ends_of_functionless {node : Node} (plain : node.Functionless) {home : ScopeId}
    {store : Store} (functionless : store.Functionless home) :
    ∃ outcome after, node.Ends home store outcome after ∧ after.Functionless home := by
  let contract := concealment (fun id => store.Reachable home (.scope id)) home .home
  have calls : contract.Calls invokeBuiltin (invokeWithin 0) := concealment_calls
  have keeps := Contract.evaluate_keeps calls node store functionless.hides ⟨rfl, plain⟩
  have finishes : (node.evaluate invokeBuiltin home store).1 ≠ .exhausted :=
    evaluate_finishes node (fun _ => invokeBuiltin_finishes) store
  rw [keeps.same] at finishes
  have hides := Contract.Ended.kept keeps.ended fun _ _ hides => hides
  exact ⟨_, _, ⟨finishes, 0, rfl⟩, hides.functionless .home⟩

/-- No failure is a division by zero. -/
def dividing : Contract where
  store := fun _ => True
  value := fun _ _ => True
  tree := fun _ _ _ => True
  failed := fun _ failure => ∀ zero, failure ≠ .fault (.zeroDivisor zero)
  value_grows := fun _ _ => trivial
  tree_grows := fun _ _ => trivial
  child := fun _ _ _ => trivial
  computed := fun _ => trivial
  unit := trivial
  number := fun _ => trivial
  counted := fun _ _ => trivial
  held := fun _ _ => trivial
  element := fun _ _ _ => trivial
  returned := fun _ => trivial
  found := fun _ _ _ => trivial
  registered := fun _ _ => trivial
  array := fun _ _ => ⟨trivial, trivial⟩
  function := fun _ _ => ⟨trivial, trivial⟩
  assigned := fun _ _ _ _ => trivial
  wrote := fun _ _ _ => trivial
  entered := fun _ _ _ _ => ⟨trivial, trivial⟩
  refused := fun _ _ _ _ _ => nofun
  raised := fun _ _ raised => raised.ne_zeroDivisor

theorem Node.Ends.ne_zeroDivisor {node : Node} {scope : ScopeId} {store after : Store}
    {outcome : Outcome Value} (ends : node.Ends scope store outcome after) (zero : ZeroDivisor) :
    outcome ≠ .failed (.fault (.zeroDivisor zero)) := by
  rintro rfl
  obtain ⟨_, depth, same⟩ := ends
  have kept : dividing.store store := trivial
  have tree : dividing.tree store scope node := trivial
  have ended := (dividing.evaluate_ended depth kept tree).2
  rw [same] at ended
  exact ended zero rfl

/-- An evaluation in which no function can be called ends: with a result, an error, or a fault that
is no division by zero. -/
theorem evaluation_ends {host : Host} (reached : host.Reached) {home : ScopeId}
    (present : home < host.store.scopes.size) (node : Node) :
    (∀ after, host.store.Extends after →
      ∀ name, after.Finds name home (after.lookup home name)) ∧
    (¬node.CanCall → ∃ outcome after, node.Ends home host.store outcome after) ∧
    (node.Functionless → host.store.Functionless home →
      ∃ outcome after, node.Ends home host.store outcome after ∧ after.Functionless home) ∧
    ∀ outcome after, node.Ends home host.store outcome after →
      ∀ zero, outcome ≠ .failed (.fault (.zeroDivisor zero)) := by
  refine ⟨?_, ?_, ?_, fun _ _ ends => ends.ne_zeroDivisor⟩
  · intro after grown name
    exact Store.finds_of_parents reached.intact.store.parents present
      (fun _ below => grown.parent?_eq below) name
  · exact fun calls => Node.ends_of_not_canCall calls home host.store
  · exact fun plain functionless => Node.ends_of_functionless plain functionless

theorem evaluation_ends_session :
    let store := (Store.initial.openSession none (some .default)).2
    let endless : Node := .letStatement .start "f" (.function .start ["x"]
      (.call .start (.identifier .start "f") [.identifier .start "x"]))
    let builtins : Node := .array .start [.identifier .start "len", .identifier .start "first"]
    let nested : Node := .call .start (.index .start builtins (.integer .start 1))
      [.call .start (.identifier .start "push")
        [.array .start [], .call .start (.identifier .start "len") [.string .start "a"]]]
    Host.Reached ⟨store, [], []⟩ ∧ 0 < store.scopes.size ∧ store.Finds "f" 0 none ∧
      (¬endless.CanCall ∧ ∃ outcome after, endless.Ends 0 store outcome after) ∧
      (nested.CanCall ∧ nested.Functionless ∧ store.Functionless 0 ∧
        ∃ outcome after, nested.Ends 0 store outcome after ∧ after.Functionless 0) := by
  intro store endless builtins nested
  have reached : Host.Reached ⟨store, [], []⟩ := .step .initial (.openSession none _)
  have present : 0 < store.scopes.size := by decide
  have uncalled : ¬endless.CanCall := by
    rintro ⟨position, callee, arguments, found⟩
    simp only [endless] at found
    cases found with
    | inside _ member below =>
        simp only [Node.children, List.mem_singleton] at member
        subst member
        cases below with
        | inside opened _ _ => cases opened
  have plain : nested.Functionless := by
    grind [Node.functionless_iff, Node.children, Node.isFunction]
  have functionless : store.Functionless 0 := by
    intro identity closure reachable
    have parents : ∀ id parent, id = 0 → store.parent? id = some parent → parent = 0 := by
      rintro _ _ rfl ⟨⟩
    have unbound : ∀ id name, id = 0 → store.binding? id name = none := by
      rintro _ _ rfl
      rfl
    have found := Store.reachable_of_unbound parents unbound (fun _ => rfl) rfl reachable
    exact found.2 identity closure rfl
  have lookups := (evaluation_ends reached present endless).1 store (.refl store) "f"
  refine ⟨reached, present, lookups, ⟨uncalled, ?_⟩, ⟨_, _, _, .self _⟩, plain, functionless, ?_⟩
  · exact (evaluation_ends reached present endless).2.1 uncalled
  · exact (evaluation_ends reached present nested).2.2.1 plain functionless

end MonkeyLang
