import MonkeyLang.Proofs.Growth
import MonkeyLang.Proofs.Primitive
import MonkeyLang.Proofs.Tree
import MonkeyLang.Session

/-! Contracts between a store and the evaluations that run over it. A contract says which stores,
values and trees are allowed and what a failure may leave behind. If the single steps keep to it,
every evaluation does, to any depth of calls. -/

namespace MonkeyLang

/-- The failures that evaluating a tree itself can raise, when operands are as allowed. A refused
call is not among them, because it is logged before it fails. -/
inductive Node.Raises (allowed : Value → Prop) : Node → Failure → Prop
  | missing : Raises allowed .missing (.fault .missingNode)
  | nestedReturn {position : Position} {statements : List Node} {identity : Identity}
      {value : Value} : allowed (.pendingReturn identity value) →
      Raises allowed (.program position statements) (.fault .nestedReturn)
  | undeclared (position : Position) (name : String) :
      Raises allowed (.identifier position name) (.error ⟨.undeclared name, position⟩)
  | unitBinding (position : Position) (name : String) (value : Node) :
      Raises allowed (.letStatement position name value) (.error ⟨.unitBinding, position⟩)
  | unary {position : Position} {operator : String} {operand : Node} {value : Value}
      {failure : Failure} : allowed value → applyUnary operator position value = .error failure →
      Raises allowed (.unary position operator operand) failure
  | binary {position : Position} {operator : String} {left right : Node}
      {leftValue rightValue : Value} {failure : Failure} : allowed leftValue → allowed rightValue →
      applyBinary operator position leftValue rightValue = .error failure →
      Raises allowed (.binary position operator left right) failure
  | base {value : Value} {base : Node} (position : Position) (index : Node) :
      base.isMissing = false → allowed value →
      (∀ identity elements, value ≠ .array identity elements) →
      Raises allowed (.index position base index) (.error ⟨.indexBase value.type, base.position⟩)
  | element {position : Position} {base index : Node} {elements : List Value} {value : Value}
      {failure : Failure} : index.isMissing = false → (∀ element ∈ elements, allowed element) →
      allowed value → elementAt elements index.position value = .error failure →
      Raises allowed (.index position base index) failure
  | callee {value : Value} (position : Position) (callee : Node) (arguments : List Node) :
      allowed value → value.callable? = none →
      Raises allowed (.call position callee arguments) (.error ⟨.notCallable value.type, position⟩)
  | builtin {position : Position} {callee : Node} {arguments : List Node} {identity : Identity}
      {name : String} {action : Action Value} {values : List Value} {settings : Settings}
      {store after : Store} {failure : Failure} : allowed (.builtin identity name action) →
      (∀ value ∈ values, allowed value) →
      action.call name position values settings store = (.failed failure, after) →
      Raises allowed (.call position callee arguments) failure

theorem Node.Raises.ne_zeroDivisor {allowed : Value → Prop} {node : Node} {failure : Failure}
    (raised : node.Raises allowed failure) (zero : ZeroDivisor) :
    failure ≠ .fault (.zeroDivisor zero) := by
  rintro rfl
  cases raised with
  | unary _ applied => exact (applyUnary_applied _ _ _).ne_zeroDivisor zero applied
  | binary _ _ applied => exact (applyBinary_applied _ _ _ _).ne_zeroDivisor zero applied
  | element _ _ _ applied => exact elementAt_ne_fault applied
  | builtin _ _ called => exact Action.call_ne_zeroDivisor called

structure Terms where
  store : Store → Prop
  value : Store → Value → Prop
  tree : Store → ScopeId → Node → Prop
  failed : Store → Failure → Prop

/-- The terms hold at the end of an evaluation, which a return that a statement started can leave
only if `returns` holds. -/
def Terms.Ended {α : Type} (terms : Terms) (good : Store → α → Prop) (returns : Prop) :
    Outcome α × Store → Prop
  | (.value result, store) => terms.store store ∧ good store result
  | (.returning none result, store) => terms.store store ∧ terms.value store result ∧ returns
  | (.returning (some identity) result, store) =>
      terms.store store ∧ terms.value store (.pendingReturn identity result)
  | (.failed failure, store) => terms.failed store failure
  | (.exhausted, store) => terms.store store

/-- Terms that no single step breaks. -/
structure Contract extends Terms where
  value_grows {before after : Store} {item : Value} :
    before.Extends after → value before item → value after item
  tree_grows {before after : Store} {scope : ScopeId} {node : Node} :
    before.Extends after → tree before scope node → tree after scope node
  child {now : Store} {scope : ScopeId} {node child : Node} : tree now scope node →
    node.isFunction = false → child ∈ node.children → tree now scope child
  computed {now : Store} {item : Value} : item.Computed → value now item
  unit {now : Store} : value now .unit
  number {now : Store} {scope : ScopeId} {position : Position} {number : Int} :
    tree now scope (.integer position number) → value now (.integer number)
  counted {now : Store} {identity : Identity} {name : String} (number : Nat) :
    value now (.builtin identity name .len) → value now (.integer number)
  held {now : Store} {identity : Identity} {name : String} {item : Value} :
    value now (.builtin identity name (.constant item)) → item.isPending = false → value now item
  element {now : Store} {identity : Identity} {elements : List Value} :
    value now (.array identity elements) → ∀ item ∈ elements, value now item
  returned {now : Store} {identity : Identity} {item : Value} :
    value now (.pendingReturn identity item) → value now item
  found {now : Store} {scope : ScopeId} {position : Position} {name : String} {item : Value} :
    store now → tree now scope (.identifier position name) → now.lookup scope name = some item →
    value now item
  registered {now : Store} {name : String} {builtin : Builtin} : store now →
    now.builtin? name = some builtin → value now builtin.value
  array {now : Store} {elements : List Value} : store now → (∀ item ∈ elements, value now item) →
    store (now.addArray elements).2 ∧ value (now.addArray elements).2 (now.addArray elements).1
  function {now : Store} {scope : ScopeId} {position : Position} {parameters : List String}
    {body : Node} : store now → tree now scope (.function position parameters body) →
    store (now.addFunction ⟨parameters, body, scope⟩).2 ∧
      value (now.addFunction ⟨parameters, body, scope⟩).2
        (now.addFunction ⟨parameters, body, scope⟩).1
  assigned {now : Store} {scope : ScopeId} {position : Position} {name : String} {node : Node}
    {item : Value} : store now → tree now scope (.letStatement position name node) →
    value now item → item.isUnit = false → store (now.assign scope name item)
  wrote {now : Store} {scope : ScopeId} {position : Position} {callee : Node}
    {arguments : List Node} (texts : List String) : store now →
    tree now scope (.call position callee arguments) →
    store (now.write (now.settingsOf scope).sink texts)
  entered {now : Store} {identity : Identity} {closure : Closure} {items : List Value} :
    store now → value now (.function identity closure) → (∀ item ∈ items, value now item) →
    ¬now.Refuses closure items →
    store (now.enterCall closure items).2 ∧
      tree (now.enterCall closure items).2 (now.enterCall closure items).1 closure.body
  refused {now : Store} {scope : ScopeId} {position : Position} {callee : Node}
    {arguments : List Node} {identity : Identity} {closure : Closure} {items : List Value} :
    store now → tree now scope (.call position callee arguments) →
    value now (.function identity closure) → now.Refuses closure items →
    failed (now.logCall closure items)
      (.error ⟨.functionArity closure.parameters.length items.length, position⟩)
  raised {now : Store} {scope : ScopeId} {node : Node} {failure : Failure} : store now →
    tree now scope node → node.Raises (value now) failure → failed now failure

abbrev BuiltinCall := String → Action Value → List Value → Position → ScopeId → Evaluation Value

def invokeBy (callBuiltin : BuiltinCall) : Nat → Invoke
  | _, .builtin name action, arguments, position, caller =>
      callBuiltin name action arguments position caller
  | 0, .function _, _, _, _ => .exhausted
  | depth + 1, .function closure, arguments, position, _ => do
      let scope ← enter closure arguments position
      .arrive (closure.body.evaluate (invokeBy callBuiltin depth) scope)

namespace Contract

variable (contract : Contract) {α β : Type} {store : Store}

theorem handed {arguments : List Value} {value : Value} (handed : value.Handed arguments)
    (allowed : ∀ argument ∈ arguments, contract.value store argument) :
    contract.value store value := by
  cases handed with
  | null => exact contract.computed .null
  | argument member => exact allowed value member
  | element outer inner => exact contract.element (allowed _ outer) value inner

/-- Two evaluations that are the same from this store on and keep the contract. Two ways of making
calls may agree only where it holds, so both are said at once. -/
structure Keeps (good : Store → α → Prop) (returns : Prop) (watched body : Evaluation α)
    (store : Store) : Prop where
  same : watched store = body store
  grows : store.Extends (body store).2
  ended : contract.Ended good returns (body store)

variable {contract}

theorem Keeps.bind {good : Store → α → Prop} {better : Store → β → Prop} {returns : Prop}
    {watched body : Evaluation α} {watchedNext next : α → Evaluation β}
    (first : contract.Keeps good returns watched body store)
    (continues : ∀ result after, store.Extends after → contract.store after →
      good after result → contract.Keeps better returns (watchedNext result) (next result) after) :
    contract.Keeps better returns (watched >>= watchedNext) (body >>= next) store := by
  obtain ⟨same, grows, ended⟩ := first
  rcases ends : body store with ⟨outcome, after⟩
  rw [ends] at same grows ended
  cases outcome with
  | value result =>
      have later := continues result after grows ended.1 ended.2
      refine ⟨?_, ?_, ?_⟩
      · rw [Evaluation.bind_of_value store _ same, Evaluation.bind_of_value store _ ends]
        exact later.same
      · rw [Evaluation.bind_of_value store _ ends]
        exact grows.trans later.grows
      · rw [Evaluation.bind_of_value store _ ends]
        exact later.ended
  | returning origin result =>
      refine ⟨?_, ?_, ?_⟩
      · rw [Evaluation.bind_of_returning store _ same, Evaluation.bind_of_returning store _ ends]
      · rw [Evaluation.bind_of_returning store _ ends]
        exact grows
      · rw [Evaluation.bind_of_returning store _ ends]
        cases origin with
        | none => exact ended
        | some identity => exact ended
  | failed failure =>
      refine ⟨?_, ?_, ?_⟩
      · rw [Evaluation.bind_of_failed store _ same, Evaluation.bind_of_failed store _ ends]
      · rw [Evaluation.bind_of_failed store _ ends]
        exact grows
      · rw [Evaluation.bind_of_failed store _ ends]
        exact ended
  | exhausted =>
      refine ⟨?_, ?_, ?_⟩
      · rw [Evaluation.bind_of_exhausted store _ same, Evaluation.bind_of_exhausted store _ ends]
      · rw [Evaluation.bind_of_exhausted store _ ends]
        exact grows
      · rw [Evaluation.bind_of_exhausted store _ ends]
        exact ended

theorem Ended.weaken {good : Store → α → Prop} {returns mayReturn : Prop}
    {ends : Outcome α × Store} (ended : contract.Ended good returns ends)
    (implied : returns → mayReturn) : contract.Ended good mayReturn ends := by
  obtain ⟨outcome, after⟩ := ends
  cases outcome with
  | returning origin result =>
      cases origin with
      | none => exact ⟨ended.1, ended.2.1, implied ended.2.2⟩
      | some identity => exact ended
  | _ => exact ended

theorem Ended.improve {good better : Store → α → Prop} {returns : Prop} {ends : Outcome α × Store}
    (ended : contract.Ended good returns ends)
    (implied : ∀ now result, good now result → better now result) :
    contract.Ended better returns ends := by
  obtain ⟨outcome, after⟩ := ends
  cases outcome with
  | value result => exact ⟨ended.1, implied after result ended.2⟩
  | returning origin result => cases origin <;> exact ended
  | _ => exact ended

theorem Keeps.weaken {good : Store → α → Prop} {returns mayReturn : Prop}
    {watched body : Evaluation α} (kept : contract.Keeps good returns watched body store)
    (implied : returns → mayReturn) : contract.Keeps good mayReturn watched body store :=
  ⟨kept.same, kept.grows, Ended.weaken kept.ended implied⟩

theorem Keeps.of_value {good : Store → α → Prop} {returns : Prop} {body : Evaluation α}
    {result : α} {after : Store} (ends : body store = (.value result, after))
    (grows : store.Extends after) (kept : contract.store after) (allowed : good after result) :
    contract.Keeps good returns body body store := by
  refine ⟨rfl, ?_, ?_⟩
  · rw [ends]
    exact grows
  · rw [ends]
    exact ⟨kept, allowed⟩

theorem Keeps.of_failed {good : Store → α → Prop} {returns : Prop} {body : Evaluation α}
    {failure : Failure} {after : Store} (ends : body store = (.failed failure, after))
    (grows : store.Extends after) (allowed : contract.failed after failure) :
    contract.Keeps good returns body body store := by
  refine ⟨rfl, ?_, ?_⟩
  · rw [ends]
    exact grows
  · rw [ends]
    exact allowed

theorem ended_ofValue {returns : Prop} {value : Value} (kept : contract.store store)
    (allowed : contract.value store value) :
    contract.Ended contract.value returns (.ofValue value, store) := by
  cases value with
  | pendingReturn identity result => exact ⟨kept, allowed⟩
  | _ => exact ⟨kept, allowed⟩

theorem Keeps.of_yield {returns : Prop} {body : Evaluation Value} {value : Value}
    (ends : body store = (.ofValue value, store)) (kept : contract.store store)
    (allowed : contract.value store value) :
    contract.Keeps contract.value returns body body store := by
  refine ⟨rfl, ?_, ?_⟩
  · rw [ends]
    exact .refl store
  · rw [ends]
    exact ended_ofValue kept allowed

theorem Ended.returning {good : Store → α → Prop} {returns : Prop} {origin : Option Identity}
    {result : Value} {after : Store}
    (ended : contract.Ended good returns (.returning origin result, after)) :
    contract.store after ∧ contract.value after result := by
  cases origin with
  | none => exact ⟨ended.1, ended.2.1⟩
  | some identity => exact ⟨ended.1, contract.returned ended.2⟩

theorem Ended.kept {good : Store → α → Prop} {returns : Prop} {ends : Outcome α × Store}
    (ended : contract.Ended good returns ends)
    (failed : ∀ now failure, contract.failed now failure → contract.store now) :
    contract.store ends.2 := by
  obtain ⟨outcome, after⟩ := ends
  cases outcome with
  | value result => exact ended.1
  | returning origin result => exact (Ended.returning ended).1
  | failed failure => exact failed after failure ended
  | exhausted => exact ended

theorem Keeps.arrive {returns : Prop} {watched body : Evaluation Value}
    (kept : contract.Keeps contract.value returns watched body store) :
    contract.Keeps contract.value False (.arrive watched) (.arrive body) store := by
  obtain ⟨same, grows, ended⟩ := kept
  rcases ends : body store with ⟨outcome, after⟩
  rw [ends] at same grows ended
  refine ⟨?_, ?_, ?_⟩
  all_goals simp only [Evaluation.arrive, same, ends]
  · cases outcome <;> exact grows
  · cases outcome with
    | returning origin result =>
        have allowed := Ended.returning ended
        exact ended_ofValue allowed.1 allowed.2
    | _ => exact ended

theorem Keeps.conclude {returns : Prop} {watched body : Evaluation Value}
    (kept : contract.Keeps contract.value returns watched body store)
    (nested : ∀ after identity value, store.Extends after → contract.store after →
      contract.value after (.pendingReturn identity value) →
      contract.failed after (.fault .nestedReturn)) :
    contract.Keeps contract.value False (.conclude watched) (.conclude body) store := by
  obtain ⟨same, grows, ended⟩ := kept
  rcases ends : body store with ⟨outcome, after⟩
  rw [ends] at same grows ended
  refine ⟨?_, ?_, ?_⟩
  all_goals simp only [Evaluation.conclude, same, ends]
  · cases outcome with
    | returning origin result => cases result <;> exact grows
    | _ => exact grows
  · cases outcome with
    | returning origin result =>
        have allowed := Ended.returning ended
        cases result with
        | pendingReturn identity value =>
            exact nested after identity value grows allowed.1 allowed.2
        | _ => exact allowed
    | _ => exact ended

section Steps

variable {scope : ScopeId} {position : Position} {name : String}

theorem resolve_keeps (kept : contract.store store)
    (tree : contract.tree store scope (.identifier position name)) :
    contract.Keeps contract.value False (resolve scope position name)
      (resolve scope position name) store := by
  cases bound : store.lookup scope name with
  | some value =>
      exact .of_yield (resolve_of_lookup scope position name store bound) kept
        (contract.found kept tree bound)
  | none =>
      cases registered : store.builtin? name with
      | some builtin =>
          exact .of_value (resolve_of_builtin scope position name store bound registered)
            (.refl store) kept (contract.registered kept registered)
      | none =>
          exact .of_failed (resolve_of_none scope position name store bound registered)
            (.refl store) (contract.raised kept tree (.undeclared position name))

theorem bindName_keeps {node : Node} {value : Value} (kept : contract.store store)
    (tree : contract.tree store scope (.letStatement position name node))
    (allowed : contract.value store value) :
    contract.Keeps contract.value False (bindName scope position name value)
      (bindName scope position name value) store := by
  cases unit : value.isUnit with
  | true =>
      exact .of_failed (bindName_of_unit scope position name store unit) (.refl store)
        (contract.raised kept tree (.unitBinding position name node))
  | false =>
      exact .of_value (bindName_of_plain scope position name store unit)
        (store.extends_assign scope name value) (contract.assigned kept tree allowed unit)
        (contract.value_grows (store.extends_assign scope name value) allowed)

theorem ofExcept_keeps {result : Except Failure Value} (kept : contract.store store)
    (allowed : ∀ value, result = .ok value → contract.value store value)
    (raised : ∀ failure, result = .error failure → contract.failed store failure) :
    contract.Keeps contract.value False (.ofExcept result) (.ofExcept result) store := by
  cases result with
  | ok value => exact .of_yield (Evaluation.ofExcept_ok store value) kept (allowed value rfl)
  | error failure =>
      exact .of_failed (Evaluation.ofExcept_error store failure) (.refl store) (raised failure rfl)

theorem builtin_keeps {callee : Node} {arguments : List Node} {identity : Identity}
    {action : Action Value} {values : List Value} (kept : contract.store store)
    (tree : contract.tree store scope (.call position callee arguments))
    (builtin : contract.value store (.builtin identity name action))
    (allowed : ∀ value ∈ values, contract.value store value) :
    store.Extends (action.call name position values (store.settingsOf scope) store).2 ∧
      contract.Ended contract.value False
        (action.call name position values (store.settingsOf scope) store) := by
  have effect := action.call_effect name position values (store.settingsOf scope) store
  generalize called : action.call name position values (store.settingsOf scope) store = ends
    at effect
  cases effect with
  | handed handed plain => exact ⟨.refl store, kept, contract.handed handed allowed⟩
  | counted number length =>
      subst length
      exact ⟨.refl store, kept, contract.counted number builtin⟩
  | held constant plain =>
      subst constant
      exact ⟨.refl store, kept, contract.held builtin plain⟩
  | named text => exact ⟨.refl store, kept, contract.computed (.string text)⟩
  | made handed =>
      rename_i elements
      have made := contract.array kept fun element member =>
        contract.handed (handed element member) allowed
      exact ⟨store.extends_addArray elements, made⟩
  | wrote texts =>
      exact ⟨store.extends_write _ texts, contract.wrote texts kept tree, contract.unit⟩
  | erred cause => exact ⟨.refl store, contract.raised kept tree (.builtin builtin allowed called)⟩
  | refused source pending =>
      exact ⟨.refl store, contract.raised kept tree (.builtin builtin allowed called)⟩
  | foreign typeName source =>
      exact ⟨.refl store, contract.raised kept tree (.builtin builtin allowed called)⟩

theorem enter_keeps {callee : Node} {arguments : List Node} {identity : Identity}
    {closure : Closure} {values : List Value} (kept : contract.store store)
    (tree : contract.tree store scope (.call position callee arguments))
    (function : contract.value store (.function identity closure))
    (allowed : ∀ value ∈ values, contract.value store value) :
    contract.Keeps (fun after inner => contract.tree after inner closure.body) False
      (enter closure values position) (enter closure values position) store := by
  by_cases refused : store.Refuses closure values
  · exact .of_failed (enter_of_refused closure values position store refused)
      (store.extends_record _) (contract.refused kept tree function refused)
  · have entered := contract.entered kept function allowed refused
    exact .of_value (enter_of_accepted closure values position store refused)
      ((store.extends_record _).trans (Store.extends_addChild _ _ _)) entered.1 entered.2

end Steps

variable (contract) in
def Calls (watched invoke : Invoke) : Prop :=
  ∀ store scope position callee arguments value callable values, contract.store store →
    contract.tree store scope (.call position callee arguments) → contract.value store value →
    value.callable? = some callable → (∀ argument ∈ values, contract.value store argument) →
    contract.Keeps contract.value False (watched callable values position scope)
      (invoke callable values position scope) store

section Trees

variable {watched invoke : Invoke} {scope : ScopeId}

theorem evaluateEach_keeps {returns : Prop} {nodes : List Node}
    (each : ∀ node ∈ nodes, ∀ now, contract.store now → contract.tree now scope node →
      contract.Keeps contract.value returns (node.evaluate watched scope)
        (node.evaluate invoke scope) now)
    (kept : contract.store store) (trees : ∀ node ∈ nodes, contract.tree store scope node) :
    contract.Keeps (fun after values => ∀ value ∈ values, contract.value after value) returns
      (evaluateEach watched scope nodes) (evaluateEach invoke scope nodes) store := by
  induction nodes generalizing store with
  | nil =>
      simp only [evaluateEach]
      exact .of_value (Evaluation.pure_apply store _) (.refl store) kept (by simp)
  | cons node rest ih =>
      simp only [evaluateEach]
      refine (each node (by simp) store kept (trees node (by simp))).bind ?_
      intro value middle grown keptMiddle allowed
      have restTrees : ∀ node ∈ rest, contract.tree middle scope node := fun node member =>
        contract.tree_grows grown (trees node (by simp [member]))
      refine (ih (fun node member => each node (by simp [member])) keptMiddle restTrees).bind ?_
      intro values after grownAfter keptAfter allowedRest
      refine .of_value (Evaluation.pure_apply after _) (.refl after) keptAfter ?_
      intro item member
      rcases List.mem_cons.mp member with same | inRest
      · rw [same]
        exact contract.value_grows grownAfter allowed
      · exact allowedRest item inRest

theorem evaluateSequence_keeps {returns : Prop} {nodes : List Node} {last : Value}
    (each : ∀ node ∈ nodes, ∀ now, contract.store now → contract.tree now scope node →
      contract.Keeps contract.value returns (node.evaluate watched scope)
        (node.evaluate invoke scope) now)
    (kept : contract.store store) (trees : ∀ node ∈ nodes, contract.tree store scope node)
    (allowed : contract.value store last) :
    contract.Keeps contract.value returns (evaluateSequence watched scope last nodes)
      (evaluateSequence invoke scope last nodes) store := by
  induction nodes generalizing store last with
  | nil =>
      simp only [evaluateSequence]
      exact .of_value (Evaluation.pure_apply store _) (.refl store) kept allowed
  | cons node rest ih =>
      simp only [evaluateSequence]
      refine (each node (by simp) store kept (trees node (by simp))).bind ?_
      intro value after grown keptAfter allowedAfter
      exact ih (fun node member => each node (by simp [member])) keptAfter
        (fun node member => contract.tree_grows grown (trees node (by simp [member]))) allowedAfter

theorem Keeps.given {returns : Prop} {node : Node}
    (kept : contract.Keeps contract.value returns (node.evaluate watched scope)
      (node.evaluate invoke scope) store) :
    contract.Keeps (fun now value => contract.value now value ∧ node.isMissing = false) returns
      (node.evaluate watched scope) (node.evaluate invoke scope) store := by
  cases node with
  | missing => exact ⟨kept.same, kept.grows, kept.ended⟩
  | _ => exact ⟨kept.same, kept.grows, Ended.improve kept.ended fun _ _ allowed => ⟨allowed, rfl⟩⟩

theorem evaluate_keeps (calls : contract.Calls watched invoke) (node : Node) :
    ∀ now, contract.store now → contract.tree now scope node →
      contract.Keeps contract.value node.CanReturn (node.evaluate watched scope)
        (node.evaluate invoke scope) now := by
  induction node using Node.induct_children with
  | step node ih =>
  intro store kept tree
  have child {part : Node} (function : node.isFunction = false) (program : node.isProgram = false)
      (member : part ∈ node.children) {now : Store} (grown : store.Extends now)
      (keptNow : contract.store now) :
      contract.Keeps contract.value node.CanReturn (part.evaluate watched scope)
        (part.evaluate invoke scope) now :=
    (ih part member now keptNow
      (contract.child (contract.tree_grows grown tree) function member)).weaken
      (.of_child function program member)
  cases node with
  | missing =>
      exact .of_failed (Evaluation.fault_apply store _) (.refl store)
        (contract.raised kept tree .missing)
  | program position statements =>
      have sequence : contract.Keeps contract.value True
          (evaluateSequence watched scope .null statements)
          (evaluateSequence invoke scope .null statements) store := by
        apply evaluateSequence_keeps _ kept (fun part member => contract.child tree rfl member)
          (contract.computed .null)
        exact fun part member now keptNow treeNow =>
          (ih part member now keptNow treeNow).weaken fun _ => trivial
      refine (sequence.conclude ?_).weaken False.elim
      intro after identity value grown keptAfter pending
      exact contract.raised keptAfter (contract.tree_grows grown tree) (.nestedReturn pending)
  | block position statements =>
      apply evaluateSequence_keeps _ kept (fun part member => contract.child tree rfl member)
        (contract.computed .null)
      exact fun part member now keptNow treeNow =>
        (ih part member now keptNow treeNow).weaken (.of_child rfl rfl member)
  | expressionStatement position expression =>
      have inner : expression ∈ (Node.expressionStatement position expression).children := by
        simp [Node.children]
      exact child rfl rfl inner (.refl store) kept
  | letStatement position name value =>
      refine (child rfl rfl (by simp [Node.children]) (.refl store) kept).bind ?_
      intro result after grown keptAfter allowed
      exact (bindName_keeps keptAfter (contract.tree_grows grown tree) allowed).weaken False.elim
  | returnStatement position value =>
      refine (child rfl rfl (by simp [Node.children]) (.refl store) kept).bind ?_
      intro result after grown keptAfter allowed
      exact ⟨rfl, .refl after, keptAfter, allowed, position, value, .self _⟩
  | identifier position name => exact (resolve_keeps kept tree).weaken False.elim
  | integer position number =>
      exact .of_value (Evaluation.pure_apply store _) (.refl store) kept (contract.number tree)
  | boolean position flag =>
      exact .of_value (Evaluation.pure_apply store _) (.refl store) kept
        (contract.computed (.boolean flag))
  | string position text =>
      exact .of_value (Evaluation.pure_apply store _) (.refl store) kept
        (contract.computed (.string text))
  | null position =>
      exact .of_value (Evaluation.pure_apply store _) (.refl store) kept (contract.computed .null)
  | unit position =>
      exact .of_value (Evaluation.pure_apply store _) (.refl store) kept contract.unit
  | array position elements =>
      refine Keeps.bind (evaluateEach_keeps (fun part member now keptNow treeNow =>
        (ih part member now keptNow treeNow).weaken (Node.CanReturn.of_child rfl rfl member))
        kept (fun part member => contract.child tree rfl member)) ?_
      intro values after grown keptAfter allowed
      have made := contract.array keptAfter allowed
      exact .of_value (Evaluation.make_apply after _) (after.extends_addArray values) made.1 made.2
  | index position base chosen =>
      refine (child rfl rfl (by simp [Node.children]) (.refl store) kept).given.bind ?_
      rintro found middle grown keptMiddle ⟨allowedBase, givenBase⟩
      have treeMiddle := contract.tree_grows grown tree
      cases found with
      | array identity elements =>
          refine (child rfl rfl (by simp [Node.children]) grown keptMiddle).given.bind ?_
          rintro value after grownAfter keptAfter ⟨allowed, givenIndex⟩
          have allowedElements : ∀ element ∈ elements, contract.value after element :=
            contract.element (contract.value_grows grownAfter allowedBase)
          refine (ofExcept_keeps keptAfter ?_ ?_).weaken False.elim
          · exact fun result applied => allowedElements result (elementAt_mem applied)
          · exact fun failure applied => contract.raised keptAfter
              (contract.tree_grows grownAfter treeMiddle)
              (.element givenIndex allowedElements allowed applied)
      | _ =>
          exact .of_failed (Evaluation.failAt_apply middle _ _) (.refl middle)
            (contract.raised keptMiddle treeMiddle
              (.base position chosen givenBase allowedBase (fun _ _ same => by cases same)))
  | unary position operator operand =>
      refine (child rfl rfl (by simp [Node.children]) (.refl store) kept).bind ?_
      intro value after grown keptAfter allowed
      refine (ofExcept_keeps keptAfter ?_ ?_).weaken False.elim
      · exact fun result applied => contract.computed
          (applied ▸ applyUnary_applied operator position value).computed_of_ok
      · exact fun failure applied => contract.raised keptAfter (contract.tree_grows grown tree)
          (.unary allowed applied)
  | binary position operator left right =>
      refine (child rfl rfl (by simp [Node.children]) (.refl store) kept).bind ?_
      intro leftValue middle grown keptMiddle allowedLeft
      refine (child rfl rfl (by simp [Node.children]) grown keptMiddle).bind ?_
      intro rightValue after grownAfter keptAfter allowedRight
      refine (ofExcept_keeps keptAfter ?_ ?_).weaken False.elim
      · exact fun result applied => contract.computed
          (applied ▸ applyBinary_applied operator position leftValue rightValue).computed_of_ok
      · exact fun failure applied => contract.raised keptAfter
          (contract.tree_grows (grown.trans grownAfter) tree)
          (.binary (contract.value_grows grownAfter allowedLeft) allowedRight applied)
  | conditional position condition consequence alternative =>
      refine (child rfl rfl (by simp [Node.children]) (.refl store) kept).bind ?_
      intro decision after grown keptAfter allowed
      by_cases truthy : decision.isTruthy = true
      · simp only [truthy, if_true]
        exact child rfl rfl (by simp [Node.children]) grown keptAfter
      · simp only [truthy]
        by_cases absent : alternative.isMissing = true
        · simp only [absent, if_true]
          exact .of_value (Evaluation.pure_apply after _) (.refl after) keptAfter
            (contract.computed .null)
        · simp only [absent]
          exact child rfl rfl (by simp [Node.children, absent]) grown keptAfter
  | function position parameters body =>
      have made := contract.function kept tree
      exact .of_value (Evaluation.make_apply store _) (store.extends_addFunction _) made.1 made.2
  | call position callee arguments =>
      refine (child rfl rfl (by simp [Node.children]) (.refl store) kept).bind ?_
      intro target middle grown keptMiddle allowedTarget
      have treeMiddle := contract.tree_grows grown tree
      cases target? : target.callable? with
      | none =>
          exact .of_failed (Evaluation.failAt_apply middle _ _) (.refl middle)
            (contract.raised keptMiddle treeMiddle
              (.callee position callee arguments allowedTarget target?))
      | some callable =>
          have inside {part : Node} (member : part ∈ arguments) :
              part ∈ (Node.call position callee arguments).children :=
            List.mem_cons_of_mem callee member
          refine Keeps.bind (evaluateEach_keeps (fun part member now keptNow treeNow =>
            (ih part (inside member) now keptNow treeNow).weaken
              (Node.CanReturn.of_child rfl rfl (inside member)))
            keptMiddle (fun part member => contract.child treeMiddle rfl (inside member))) ?_
          intro values after grownAfter keptAfter allowed
          exact (calls after scope position callee arguments target callable values keptAfter
            (contract.tree_grows grownAfter treeMiddle)
            (contract.value_grows grownAfter allowedTarget) target? allowed).weaken False.elim

end Trees

variable (contract) in
def Agrees (callBuiltin : BuiltinCall) : Prop :=
  ∀ store identity name action values position scope, contract.store store →
    contract.value store (.builtin identity name action) →
    (∀ value ∈ values, contract.value store value) →
    callBuiltin name action values position scope store =
      action.call name position values (store.settingsOf scope) store

theorem builtin_calls {callBuiltin : BuiltinCall} (agrees : contract.Agrees callBuiltin)
    (depth : Nat) {scope : ScopeId} {position : Position} {callee : Node} {arguments : List Node}
    {identity : Identity} {name : String} {action : Action Value} {values : List Value}
    (kept : contract.store store)
    (tree : contract.tree store scope (.call position callee arguments))
    (target : contract.value store (.builtin identity name action))
    (allowed : ∀ value ∈ values, contract.value store value) :
    contract.Keeps contract.value False
      (invokeBy callBuiltin depth (.builtin name action) values position scope)
      (invokeWithin depth (.builtin name action) values position scope) store := by
  have ends := builtin_keeps kept tree target allowed
  have same := agrees store identity name action values position scope kept target allowed
  have watched : invokeBy callBuiltin depth (.builtin name action) values position scope store =
      callBuiltin name action values position scope store := by
    cases depth <;> rfl
  refine ⟨?_, ?_, ?_⟩
  · rw [watched, same, invokeWithin_builtin]
  · rw [invokeWithin_builtin]
    exact ends.1
  · rw [invokeWithin_builtin]
    exact ends.2

theorem calls_within {callBuiltin : BuiltinCall} (agrees : contract.Agrees callBuiltin)
    (depth : Nat) : contract.Calls (invokeBy callBuiltin depth) (invokeWithin depth) := by
  induction depth with
  | zero =>
      intro store scope position callee arguments value callable values kept tree target found
        allowed
      cases value with
      | function identity closure =>
          cases found
          exact ⟨rfl, .refl store, kept⟩
      | builtin identity name action =>
          cases found
          exact builtin_calls agrees 0 kept tree target allowed
      | _ => cases found
  | succ depth ih =>
      intro store scope position callee arguments value callable values kept tree target found
        allowed
      cases value with
      | function identity closure =>
          cases found
          refine (enter_keeps kept tree target allowed).bind ?_
          intro inner after grown keptAfter treeAfter
          exact (evaluate_keeps ih closure.body after keptAfter treeAfter).arrive
      | builtin identity name action =>
          cases found
          exact builtin_calls agrees (depth + 1) kept tree target allowed
      | _ => cases found

variable (contract) in
theorem agrees_callBuiltin : contract.Agrees fun name action values position scope store =>
    action.call name position values (store.settingsOf scope) store :=
  fun _ _ _ _ _ _ _ _ _ _ => rfl

variable (contract) in
theorem evaluate_ended (depth : Nat) {scope : ScopeId} {node : Node}
    (kept : contract.store store) (tree : contract.tree store scope node) :
    store.Extends (node.evaluate (invokeWithin depth) scope store).2 ∧
      contract.Ended contract.value node.CanReturn
        (node.evaluate (invokeWithin depth) scope store) := by
  have keeps := evaluate_keeps (calls_within contract.agrees_callBuiltin depth) node store kept tree
  exact ⟨keeps.grows, keeps.ended⟩

variable (contract) in
theorem invoke_ended (depth : Nat) {scope : ScopeId} {position : Position} {callee : Node}
    {arguments : List Node} {value : Value} {callable : Callable} {values : List Value}
    (kept : contract.store store)
    (tree : contract.tree store scope (.call position callee arguments))
    (target : contract.value store value) (found : value.callable? = some callable)
    (allowed : ∀ argument ∈ values, contract.value store argument) :
    store.Extends (invokeWithin depth callable values position scope store).2 ∧
      contract.Ended contract.value False
        (invokeWithin depth callable values position scope store) := by
  have keeps := calls_within contract.agrees_callBuiltin depth store scope position callee arguments
    value callable values kept tree target found allowed
  exact ⟨keeps.grows, keeps.ended⟩

variable (contract) in
theorem arrive_ended (depth : Nat) {scope : ScopeId} {node : Node}
    (kept : contract.store store) (tree : contract.tree store scope node) :
    store.Extends (Evaluation.arrive (node.evaluate (invokeWithin depth) scope) store).2 ∧
      contract.Ended contract.value False
        (Evaluation.arrive (node.evaluate (invokeWithin depth) scope) store) := by
  have keeps := evaluate_keeps (calls_within contract.agrees_callBuiltin depth) node store kept tree
  exact ⟨keeps.arrive.grows, keeps.arrive.ended⟩

variable (contract) in
theorem unit_ended (depth : Nat) {scope : ScopeId} {node : Node}
    (recorded : ∀ now failure line, contract.failed now failure →
      contract.failed (now.record line) failure)
    (kept : contract.store store.loadStock) (tree : contract.tree store.loadStock scope node) :
    store.loadStock.Extends (evaluateUnit depth node scope store).2 ∧
      contract.Ended contract.value False (evaluateUnit depth node scope store) := by
  obtain ⟨grown, ended⟩ := contract.arrive_ended depth kept tree
  simp only [evaluateUnit, recordFailure]
  split
  · rename_i error after ends
    rw [ends] at grown ended
    exact ⟨grown.trans (after.extends_record _), recorded after _ _ ended⟩
  · exact ⟨grown, ended⟩

end Contract

end MonkeyLang
