import MonkeyLang.Proofs.Likeness
import MonkeyLang.Proofs.Primitive
import MonkeyLang.Proofs.Tree
import MonkeyLang.Session

/-! Two runs side by side. A coupling says which stores, values and trees of one run stand for which
of the other, as far as is known by now; what is known only grows. If the single steps of the runs
keep to it, evaluating one tree in both keeps to it, to any depth of calls. -/

namespace MonkeyLang

/-- Relations between two runs that no single step breaks. What they relate depends on a world,
which stands for what is known of the two runs so far. -/
structure Coupling where
  World : Type
  le : World → World → Prop
  store : World → Store → Store → Prop
  value : World → Value → Value → Prop
  tree : World → ScopeId → ScopeId → Node → Prop
  refl (now : World) : le now now
  trans {first second third : World} : le first second → le second third → le first third
  value_grows {now later : World} {item twin : Value} :
    le now later → value now item twin → value later item twin
  tree_grows {now later : World} {scope other : ScopeId} {node : Node} :
    le now later → tree now scope other node → tree later scope other node
  child {now : World} {scope other : ScopeId} {node child : Node} : tree now scope other node →
    node.isFunction = false → child ∈ node.children → tree now scope other child
  scalar {now : World} {item : Value} : item.IsScalar → value now item item
  alike {now : World} {item twin : Value} : value now item twin → item.Alike (value now) twin
  identical {now : World} {left right leftTwin rightTwin : Value} : value now left leftTwin →
    value now right rightTwin → left.isPending = false →
    left.identical right = leftTwin.identical rightTwin
  inspect {now : World} {item twin : Value} : value now item twin → item.inspect = twin.inspect
  found {now : World} {left right : Store} {scope other : ScopeId} {position : Position}
    {name : String} : store now left right → tree now scope other (.identifier position name) →
    Option.Rel (value now) (left.lookup scope name) (right.lookup other name)
  registered {now : World} {left right : Store} {scope other : ScopeId} {position : Position}
    {name : String} : store now left right → tree now scope other (.identifier position name) →
    Option.Rel (fun builtin twin => value now builtin.value twin.value)
      (left.builtin? name) (right.builtin? name)
  settings {now : World} {left right : Store} {scope other : ScopeId} {node : Node} :
    store now left right → tree now scope other node →
    left.settingsOf scope = right.settingsOf other
  closure {now : World} {left right : Store} {identity other : Identity} {closure twin : Closure} :
    store now left right → value now (.function identity closure) (.function other twin) →
    left.settingsOf closure.scope = right.settingsOf twin.scope
  array {now : World} {left right : Store} {elements twins : List Value} : store now left right →
    List.Forall₂ (value now) elements twins →
    ∃ later, le now later ∧ store later (left.addArray elements).2 (right.addArray twins).2 ∧
      value later (left.addArray elements).1 (right.addArray twins).1
  function {now : World} {left right : Store} {scope other : ScopeId} {position : Position}
    {parameters : List String} {body : Node} : store now left right →
    tree now scope other (.function position parameters body) →
    ∃ later, le now later ∧ store later (left.addFunction ⟨parameters, body, scope⟩).2
        (right.addFunction ⟨parameters, body, other⟩).2 ∧
      value later (left.addFunction ⟨parameters, body, scope⟩).1
        (right.addFunction ⟨parameters, body, other⟩).1
  assigned {now : World} {left right : Store} {scope other : ScopeId} {position : Position}
    {name : String} {node : Node} {item twin : Value} : store now left right →
    tree now scope other (.letStatement position name node) → value now item twin →
    store now (left.assign scope name item) (right.assign other name twin)
  wrote {now : World} {left right : Store} (sink : Sink) (texts : List String) :
    store now left right → store now (left.write sink texts) (right.write sink texts)
  recorded {now : World} {left right : Store} (line : LogLine) :
    store now left right → store now (left.record line) (right.record line)
  entered {now : World} {left right : Store} {identity other : Identity} {closure twin : Closure}
    {items twins : List Value} : store now left right →
    value now (.function identity closure) (.function other twin) →
    List.Forall₂ (value now) items twins →
    ∃ later, le now later ∧
      store later (left.enterCall closure items).2 (right.enterCall twin twins).2 ∧
      tree later (left.enterCall closure items).1 (right.enterCall twin twins).1 closure.body

namespace Coupling

variable {coupling : Coupling} {α β : Type} {now : coupling.World} {left right : Store}

variable (coupling) in
inductive Ended (good : coupling.World → α → α → Prop) (now : coupling.World) :
    Outcome α × Store → Outcome α × Store → Prop
  | value {left right : Store} {result twin : α} : coupling.store now left right →
      good now result twin → Ended good now (.value result, left) (.value twin, right)
  | started {left right : Store} {result twin : Value} : coupling.store now left right →
      coupling.value now result twin →
      Ended good now (.returning none result, left) (.returning none twin, right)
  | resumed {left right : Store} {identity other : Identity} {result twin : Value} :
      coupling.store now left right →
      coupling.value now (.pendingReturn identity result) (.pendingReturn other twin) →
      Ended good now (.returning (some identity) result, left) (.returning (some other) twin, right)
  | failed {left right : Store} (failure : Failure) : coupling.store now left right →
      Ended good now (.failed failure, left) (.failed failure, right)
  | exhausted {left right : Store} : coupling.store now left right →
      Ended good now (.exhausted, left) (.exhausted, right)

variable (coupling) in
def Coupled (good : coupling.World → α → α → Prop) (now : coupling.World)
    (first second : Evaluation α) (left right : Store) : Prop :=
  ∃ later, coupling.le now later ∧ coupling.Ended good later (first left) (second right)

variable (coupling) in
def Plain (now : coupling.World) (item twin : Value) : Prop :=
  coupling.value now item twin ∧ item.isPending = false

section Rules

variable {good : coupling.World → α → α → Prop} {first second : Evaluation α}

theorem Coupled.of_later {later : coupling.World} (grown : coupling.le now later)
    (coupled : coupling.Coupled good later first second left right) :
    coupling.Coupled good now first second left right := by
  obtain ⟨last, further, ended⟩ := coupled
  exact ⟨last, coupling.trans grown further, ended⟩

theorem Coupled.of_value {result twin : α} {after afterTwin : Store}
    (ends : first left = (.value result, after))
    (endsTwin : second right = (.value twin, afterTwin))
    (stores : coupling.store now after afterTwin) (related : good now result twin) :
    coupling.Coupled good now first second left right := by
  refine ⟨now, coupling.refl now, ?_⟩
  rw [ends, endsTwin]
  exact .value stores related

theorem Coupled.of_failed {failure : Failure} {after afterTwin : Store}
    (ends : first left = (.failed failure, after))
    (endsTwin : second right = (.failed failure, afterTwin))
    (stores : coupling.store now after afterTwin) :
    coupling.Coupled good now first second left right := by
  refine ⟨now, coupling.refl now, ?_⟩
  rw [ends, endsTwin]
  exact .failed failure stores

theorem Coupled.bind {better : coupling.World → β → β → Prop} {next nextTwin : α → Evaluation β}
    (coupled : coupling.Coupled good now first second left right)
    (continues : ∀ later result twin after afterTwin, coupling.le now later →
      coupling.store later after afterTwin → good later result twin →
      coupling.Coupled better later (next result) (nextTwin twin) after afterTwin) :
    coupling.Coupled better now (first >>= next) (second >>= nextTwin) left right := by
  obtain ⟨later, grown, ended⟩ := coupled
  rcases ends : first left with ⟨outcome, after⟩
  rcases endsTwin : second right with ⟨outcomeTwin, afterTwin⟩
  rw [ends, endsTwin] at ended
  cases ended with
  | value stores related =>
      obtain ⟨last, further, ended⟩ :=
        continues later _ _ after afterTwin grown stores related
      refine ⟨last, coupling.trans grown further, ?_⟩
      rwa [Evaluation.bind_of_value left _ ends, Evaluation.bind_of_value right _ endsTwin]
  | started stores related =>
      refine ⟨later, grown, ?_⟩
      rw [Evaluation.bind_of_returning left _ ends, Evaluation.bind_of_returning right _ endsTwin]
      exact .started stores related
  | resumed stores related =>
      refine ⟨later, grown, ?_⟩
      rw [Evaluation.bind_of_returning left _ ends, Evaluation.bind_of_returning right _ endsTwin]
      exact .resumed stores related
  | failed failure stores =>
      refine ⟨later, grown, ?_⟩
      rw [Evaluation.bind_of_failed left _ ends, Evaluation.bind_of_failed right _ endsTwin]
      exact .failed failure stores
  | exhausted stores =>
      refine ⟨later, grown, ?_⟩
      rw [Evaluation.bind_of_exhausted left _ ends, Evaluation.bind_of_exhausted right _ endsTwin]
      exact .exhausted stores

end Rules

theorem forall_grows {later : coupling.World} (grown : coupling.le now later)
    {items twins : List Value} (related : List.Forall₂ (coupling.value now) items twins) :
    List.Forall₂ (coupling.value later) items twins :=
  related.imp fun _ _ => coupling.value_grows grown

theorem ended_ofValue {item twin : Value} (stores : coupling.store now left right)
    (related : coupling.value now item twin) :
    coupling.Ended coupling.Plain now (.ofValue item, left) (.ofValue twin, right) := by
  cases coupling.alike related with
  | pendingReturn inner => exact .resumed stores related
  | _ => exact .value stores ⟨related, rfl⟩

theorem ofExcept_coupled {result twin : Except Failure Value}
    (stores : coupling.store now left right)
    (related : ResultsAlike (coupling.value now) result twin) :
    coupling.Coupled coupling.Plain now (.ofExcept result) (.ofExcept twin) left right := by
  refine ⟨now, coupling.refl now, ?_⟩
  cases result with
  | ok item =>
      cases twin with
      | ok other => exact ended_ofValue stores related
      | error failure => exact related.elim
  | error failure =>
      cases twin with
      | ok other => exact related.elim
      | error other =>
          cases related
          exact .failed failure stores

theorem returned {identity other : Identity} {result twin : Value}
    (related : coupling.value now (.pendingReturn identity result) (.pendingReturn other twin)) :
    coupling.value now result twin := by
  cases coupling.alike related with
  | pendingReturn inner => exact inner

theorem Coupled.arrive {first second : Evaluation Value}
    (coupled : coupling.Coupled coupling.Plain now first second left right) :
    coupling.Coupled coupling.Plain now (.arrive first) (.arrive second) left right := by
  obtain ⟨later, grown, ended⟩ := coupled
  refine ⟨later, grown, ?_⟩
  rcases ends : first left with ⟨outcome, after⟩
  rcases endsTwin : second right with ⟨outcomeTwin, afterTwin⟩
  rw [ends, endsTwin] at ended
  simp only [Evaluation.arrive, ends, endsTwin]
  cases ended with
  | value stores related => exact .value stores related
  | started stores related => exact ended_ofValue stores related
  | resumed stores related => exact ended_ofValue stores (returned related)
  | failed failure stores => exact .failed failure stores
  | exhausted stores => exact .exhausted stores

theorem Coupled.recordFailure {first second : Evaluation Value}
    (coupled : coupling.Coupled coupling.Plain now first second left right) (node : Node) :
    coupling.Coupled coupling.Plain now (recordFailure node first) (recordFailure node second)
      left right := by
  obtain ⟨later, grown, ended⟩ := coupled
  refine ⟨later, grown, ?_⟩
  rcases ends : first left with ⟨outcome, after⟩
  rcases endsTwin : second right with ⟨outcomeTwin, afterTwin⟩
  rw [ends, endsTwin] at ended
  simp only [MonkeyLang.recordFailure, ends, endsTwin]
  cases ended with
  | value stores related => exact .value stores related
  | started stores related => exact .started stores related
  | resumed stores related => exact .resumed stores related
  | failed failure stores =>
      cases failure with
      | error error => exact .failed _ (coupling.recorded _ stores)
      | fault fault => exact .failed _ stores
  | exhausted stores => exact .exhausted stores

theorem ended_concluded {origin other : Option Identity} {result twin : Value}
    {first second : Evaluation Value} {after afterTwin : Store}
    (ends : first left = (.returning origin result, after))
    (endsTwin : second right = (.returning other twin, afterTwin))
    (stores : coupling.store now after afterTwin) (related : coupling.value now result twin) :
    coupling.Ended coupling.Plain now (Evaluation.conclude first left)
      (Evaluation.conclude second right) := by
  simp only [Evaluation.conclude, ends, endsTwin]
  cases coupling.alike related with
  | pendingReturn inner => exact .failed _ stores
  | _ => exact .value stores ⟨related, rfl⟩

theorem Coupled.conclude {first second : Evaluation Value}
    (coupled : coupling.Coupled coupling.Plain now first second left right) :
    coupling.Coupled coupling.Plain now (.conclude first) (.conclude second) left right := by
  obtain ⟨later, grown, ended⟩ := coupled
  refine ⟨later, grown, ?_⟩
  rcases ends : first left with ⟨outcome, after⟩
  rcases endsTwin : second right with ⟨outcomeTwin, afterTwin⟩
  rw [ends, endsTwin] at ended
  cases ended with
  | started stores related => exact ended_concluded ends endsTwin stores related
  | resumed stores related => exact ended_concluded ends endsTwin stores (returned related)
  | value stores related =>
      simp only [Evaluation.conclude, ends, endsTwin]
      exact .value stores related
  | failed failure stores =>
      simp only [Evaluation.conclude, ends, endsTwin]
      exact .failed failure stores
  | exhausted stores =>
      simp only [Evaluation.conclude, ends, endsTwin]
      exact .exhausted stores

section Steps

variable {scope other : ScopeId} {position : Position} {name : String}

theorem resolve_coupled (stores : coupling.store now left right)
    (tree : coupling.tree now scope other (.identifier position name)) :
    coupling.Coupled coupling.Plain now (resolve scope position name)
      (resolve other position name) left right := by
  have found := coupling.found stores tree
  generalize bound : left.lookup scope name = item, twinBound : right.lookup other name = twin
    at found
  cases found with
  | some related =>
      refine ⟨now, coupling.refl now, ?_⟩
      rw [resolve_of_lookup scope position name left bound,
        resolve_of_lookup other position name right twinBound]
      exact ended_ofValue stores related
  | none =>
      have registered := coupling.registered stores tree
      generalize entry : left.builtin? name = builtin, twinEntry : right.builtin? name = twin
        at registered
      cases registered with
      | some related =>
          exact .of_value (resolve_of_builtin scope position name left bound entry)
            (resolve_of_builtin other position name right twinBound twinEntry) stores
            ⟨related, rfl⟩
      | none =>
          exact .of_failed (resolve_of_none scope position name left bound entry)
            (resolve_of_none other position name right twinBound twinEntry) stores

theorem bindName_coupled {node : Node} {item twin : Value} (stores : coupling.store now left right)
    (tree : coupling.tree now scope other (.letStatement position name node))
    (plain : coupling.Plain now item twin) :
    coupling.Coupled coupling.Plain now (bindName scope position name item)
      (bindName other position name twin) left right := by
  have same := (coupling.alike plain.1).isUnit_eq
  cases unit : item.isUnit with
  | true =>
      exact .of_failed (bindName_of_unit scope position name left unit)
        (bindName_of_unit other position name right (same.symm.trans unit)) stores
  | false =>
      exact .of_value (bindName_of_plain scope position name left unit)
        (bindName_of_plain other position name right (same.symm.trans unit))
        (coupling.assigned stores tree plain.1) plain

theorem enter_coupled {identity twinIdentity : Identity} {closure twin : Closure}
    {items twins : List Value} (stores : coupling.store now left right)
    (function : coupling.value now (.function identity closure) (.function twinIdentity twin))
    (related : List.Forall₂ (coupling.value now) items twins) :
    coupling.Coupled (fun later inner innerTwin => coupling.tree later inner innerTwin closure.body)
      now (enter closure items position) (enter twin twins position) left right := by
  have settings := coupling.closure stores function
  have counted : items.length = twins.length := related.length_eq
  have parameters : closure.parameters = twin.parameters := by
    cases coupling.alike function with
    | function parameters body => exact parameters
  have logged : coupling.store now (left.logCall closure items) (right.logCall twin twins) := by
    simp only [Store.logCall, settings, counted, parameters]
    exact coupling.recorded _ stores
  by_cases refused : left.Refuses closure items
  · have twinRefused : right.Refuses twin twins := by
      simpa only [Store.Refuses, settings, counted, parameters] using refused
    have ends := enter_of_refused closure items position left refused
    rw [counted, parameters] at ends
    exact .of_failed ends (enter_of_refused twin twins position right twinRefused) logged
  · have twinAccepted : ¬right.Refuses twin twins := by
      simpa only [Store.Refuses, settings, counted, parameters] using refused
    obtain ⟨later, grown, storesAfter, tree⟩ := coupling.entered stores function related
    exact .of_later grown (.of_value (enter_of_accepted closure items position left refused)
      (enter_of_accepted twin twins position right twinAccepted) storesAfter tree)

theorem make_array_coupled {elements twins : List Value} (stores : coupling.store now left right)
    (related : List.Forall₂ (coupling.value now) elements twins) :
    coupling.Coupled coupling.Plain now (.make (·.addArray elements)) (.make (·.addArray twins))
      left right := by
  obtain ⟨later, grown, storesAfter, made⟩ := coupling.array stores related
  exact .of_later grown (.of_value (Evaluation.make_apply left _) (Evaluation.make_apply right _)
    storesAfter ⟨made, rfl⟩)

end Steps

section Builtins

variable {arguments twins : List Value} {position : Position} {name : String}

theorem getD_related (related : List.Forall₂ (coupling.value now) arguments twins) (index : Nat) :
    coupling.value now (arguments.getD index .null) (twins.getD index .null) := by
  induction related generalizing index with
  | nil => exact coupling.scalar .null
  | cons head tail ih =>
      cases index with
      | zero => exact head
      | succ index => exact ih index

theorem head_related (related : List.Forall₂ (coupling.value now) arguments twins) :
    coupling.value now (arguments.head?.getD .null) (twins.head?.getD .null) := by
  cases related with
  | nil => exact coupling.scalar .null
  | cons head tail => exact head

theorem getLast_related (related : List.Forall₂ (coupling.value now) arguments twins) :
    coupling.value now (arguments.getLast?.getD .null) (twins.getLast?.getD .null) := by
  have reversed := head_related (List.rel_reverse related)
  simpa using reversed

theorem checkArity_coupled (stores : coupling.store now left right) (expected : Int)
    (actual : Nat) :
    coupling.Coupled (fun _ _ _ => True) now (checkArity name position expected actual)
      (checkArity name position expected actual) left right := by
  by_cases fits : expected = actual
  · simp only [checkArity, fits, if_true]
    exact .of_value (Evaluation.pure_apply left _) (Evaluation.pure_apply right _) stores trivial
  · simp only [checkArity, fits, if_false]
    exact .of_failed (Evaluation.failAt_apply left _ _) (Evaluation.failAt_apply right _ _) stores

theorem elementsOf_coupled {item twin : Value} (stores : coupling.store now left right)
    (related : coupling.value now item twin) :
    coupling.Coupled (fun later => List.Forall₂ (coupling.value later)) now
      (elementsOf name position item) (elementsOf name position twin) left right := by
  cases coupling.alike related with
  | array members =>
      exact .of_value (Evaluation.pure_apply left _) (Evaluation.pure_apply right _) stores members
  | _ =>
      exact .of_failed (Evaluation.failAt_apply left _ _) (Evaluation.failAt_apply right _ _) stores

theorem arrayArgument_coupled (stores : coupling.store now left right) (expected : Int)
    (related : List.Forall₂ (coupling.value now) arguments twins) :
    coupling.Coupled (fun later => List.Forall₂ (coupling.value later)) now
      (arrayArgument name position expected arguments)
      (arrayArgument name position expected twins) left right := by
  rw [arrayArgument, arrayArgument, related.length_eq]
  refine (checkArity_coupled stores expected twins.length).bind ?_
  intro later _ _ after afterTwin grown storesAfter _
  exact elementsOf_coupled storesAfter (coupling.value_grows grown (getD_related related 0))

theorem lengthOf_coupled {item twin : Value} (stores : coupling.store now left right)
    (related : coupling.value now item twin) :
    coupling.Coupled coupling.value now (lengthOf position item) (lengthOf position twin)
      left right := by
  cases coupling.alike related with
  | string text =>
      exact .of_value (Evaluation.pure_apply left _) (Evaluation.pure_apply right _) stores
        (coupling.scalar (.integer _))
  | array members =>
      simp only [lengthOf, members.length_eq]
      exact .of_value (Evaluation.pure_apply left _) (Evaluation.pure_apply right _) stores
        (coupling.scalar (.integer _))
  | _ =>
      exact .of_failed (Evaluation.failAt_apply left _ _) (Evaluation.failAt_apply right _ _) stores

theorem Coupled.weaken {good better : coupling.World → α → α → Prop} {first second : Evaluation α}
    (coupled : coupling.Coupled good now first second left right)
    (implied : ∀ later result twin, good later result twin → better later result twin) :
    coupling.Coupled better now first second left right := by
  obtain ⟨later, grown, ended⟩ := coupled
  refine ⟨later, grown, ?_⟩
  generalize first left = ends, second right = endsTwin at ended
  cases ended with
  | value stores related => exact .value stores (implied later _ _ related)
  | started stores related => exact .started stores related
  | resumed stores related => exact .resumed stores related
  | failed failure stores => exact .failed failure stores
  | exhausted stores => exact .exhausted stores

theorem make_array_related {elements others : List Value} (stores : coupling.store now left right)
    (related : List.Forall₂ (coupling.value now) elements others) :
    coupling.Coupled coupling.value now (.make (·.addArray elements)) (.make (·.addArray others))
      left right :=
  (make_array_coupled stores related).weaken fun _ _ _ plain => plain.1

theorem restOf_coupled {elements others : List Value} (stores : coupling.store now left right)
    (related : List.Forall₂ (coupling.value now) elements others) :
    coupling.Coupled coupling.value now (restOf elements) (restOf others) left right := by
  cases related with
  | nil =>
      exact .of_value (Evaluation.pure_apply left _) (Evaluation.pure_apply right _) stores
        (coupling.scalar .null)
  | cons head tail => exact make_array_related stores tail

theorem write_coupled (stores : coupling.store now left right) (sink : Sink)
    (texts : List String) :
    coupling.Coupled coupling.value now
      (do .update (·.write sink texts); pure .unit) (do .update (·.write sink texts); pure .unit)
      left right :=
  .of_value (Evaluation.bind_of_value left _ (Evaluation.update_apply left _))
    (Evaluation.bind_of_value right _ (Evaluation.update_apply right _))
    (coupling.wrote sink texts stores) (coupling.scalar .unit)

theorem texts_eq (related : List.Forall₂ (coupling.value now) arguments twins) :
    arguments.map (fun argument => argument.inspect ++ "\n") =
      twins.map fun argument => argument.inspect ++ "\n" := by
  apply map_eq_of_members
  exact related.imp fun argument twin held => by rw [coupling.inspect held]

theorem perform_coupled {action twin : Action Value} (stores : coupling.store now left right)
    (alike : action.Alike (coupling.value now) twin)
    (related : List.Forall₂ (coupling.value now) arguments twins) (settings : Settings) :
    coupling.Coupled coupling.value now (action.perform name position arguments settings)
      (twin.perform name position twins settings) left right := by
  cases alike with
  | constant held =>
      exact .of_value (Evaluation.pure_apply left _) (Evaluation.pure_apply right _) stores held
  | same action varies =>
      cases action with
      | len =>
          simp only [Action.perform, related.length_eq]
          refine (checkArity_coupled stores 1 twins.length).bind ?_
          intro later _ _ after afterTwin grown storesAfter _
          exact lengthOf_coupled storesAfter (coupling.value_grows grown (getD_related related 0))
      | first =>
          refine (arrayArgument_coupled stores 1 related).bind ?_
          intro later elements others after afterTwin grown storesAfter members
          exact .of_value (Evaluation.pure_apply after _) (Evaluation.pure_apply afterTwin _)
            storesAfter (head_related members)
      | last =>
          refine (arrayArgument_coupled stores 1 related).bind ?_
          intro later elements others after afterTwin grown storesAfter members
          exact .of_value (Evaluation.pure_apply after _) (Evaluation.pure_apply afterTwin _)
            storesAfter (getLast_related members)
      | rest =>
          refine (arrayArgument_coupled stores 1 related).bind ?_
          intro later elements others after afterTwin grown storesAfter members
          exact restOf_coupled storesAfter members
      | push =>
          refine (arrayArgument_coupled stores 2 related).bind ?_
          intro later elements others after afterTwin grown storesAfter members
          have added := coupling.value_grows grown (getD_related related 1)
          exact make_array_related storesAfter (List.rel_append members (.cons added .nil))
      | puts =>
          simp only [Action.perform, texts_eq related]
          exact write_coupled stores _ _
      | constant held => exact (varies held rfl).elim
      | arguments => exact make_array_related stores related
      | policy =>
          exact .of_value (Evaluation.pure_apply left _) (Evaluation.pure_apply right _) stores
            (coupling.scalar (.string _))
      | write text => exact write_coupled stores _ _
      | fail kind message =>
          exact .of_failed (Evaluation.failAt_apply left _ _) (Evaluation.failAt_apply right _ _)
            stores
      | foreign typeName =>
          exact .of_failed (Evaluation.fault_apply left _) (Evaluation.fault_apply right _) stores

theorem call_coupled {action twin : Action Value} (stores : coupling.store now left right)
    (alike : action.Alike (coupling.value now) twin)
    (related : List.Forall₂ (coupling.value now) arguments twins) (settings : Settings) :
    coupling.Coupled coupling.Plain now (action.call name position arguments settings)
      (twin.call name position twins settings) left right := by
  refine (perform_coupled stores alike related settings).bind ?_
  intro later result resultTwin after afterTwin grown storesAfter held
  have form := coupling.alike held
  cases pending : result.isPending with
  | true =>
      simp only [acceptResult, ← form.isPending_eq, ← form.type_eq, pending, if_true]
      exact .of_failed (Evaluation.fault_apply after _) (Evaluation.fault_apply afterTwin _)
        storesAfter
  | false =>
      simp only [acceptResult, ← form.isPending_eq, pending]
      exact .of_value (Evaluation.pure_apply after _) (Evaluation.pure_apply afterTwin _)
        storesAfter ⟨held, pending⟩

end Builtins

variable (coupling) in
inductive Callee (now : coupling.World) : Callable → Callable → Prop
  | function {identity other : Identity} {closure twin : Closure} :
      coupling.value now (.function identity closure) (.function other twin) →
      Callee now (.function closure) (.function twin)
  | builtin {identity other : Identity} {name : String} {action twin : Action Value} :
      coupling.value now (.builtin identity name action) (.builtin other name twin) →
      Callee now (.builtin name action) (.builtin name twin)

theorem callee_of_value {item twin : Value} (related : coupling.value now item twin) :
    Option.Rel (coupling.Callee now) item.callable? twin.callable? := by
  cases coupling.alike related with
  | function parameters body => exact .some (.function related)
  | builtin alike => exact .some (.builtin related)
  | _ => exact .none

theorem Callee.grows {later : coupling.World} {callable twin : Callable}
    (callee : coupling.Callee now callable twin) (grown : coupling.le now later) :
    coupling.Callee later callable twin := by
  cases callee with
  | function related => exact .function (coupling.value_grows grown related)
  | builtin related => exact .builtin (coupling.value_grows grown related)

variable (coupling) in
def Calls (invoke : Invoke) : Prop :=
  ∀ now left right scope other position node arguments callable twin items twins,
    coupling.store now left right → coupling.tree now scope other (.call position node arguments) →
    coupling.Callee now callable twin → List.Forall₂ (coupling.value now) items twins →
    coupling.Coupled coupling.Plain now (invoke callable items position scope)
      (invoke twin twins position other) left right

section Trees

variable {invoke : Invoke} {scope other : ScopeId}

theorem evaluateEach_coupled {nodes : List Node}
    (each : ∀ node ∈ nodes, ∀ now left right, coupling.store now left right →
      coupling.tree now scope other node → coupling.Coupled coupling.Plain now
        (node.evaluate invoke scope) (node.evaluate invoke other) left right)
    (stores : coupling.store now left right)
    (trees : ∀ node ∈ nodes, coupling.tree now scope other node) :
    coupling.Coupled (fun later => List.Forall₂ (coupling.value later)) now
      (evaluateEach invoke scope nodes) (evaluateEach invoke other nodes) left right := by
  induction nodes generalizing now left right with
  | nil =>
      simp only [evaluateEach]
      exact .of_value (Evaluation.pure_apply left _) (Evaluation.pure_apply right _) stores .nil
  | cons node rest ih =>
      simp only [evaluateEach]
      refine (each node (by simp) now left right stores (trees node (by simp))).bind ?_
      intro middle item twin leftMiddle rightMiddle grown storesMiddle plain
      have restTrees : ∀ node ∈ rest, coupling.tree middle scope other node :=
        fun node member => coupling.tree_grows grown (trees node (by simp [member]))
      refine (ih (fun node member => each node (by simp [member])) storesMiddle restTrees).bind ?_
      intro later items twins after afterTwin further storesAfter related
      exact .of_value (Evaluation.pure_apply after _) (Evaluation.pure_apply afterTwin _)
        storesAfter (.cons (coupling.value_grows further plain.1) related)

theorem evaluateSequence_coupled {nodes : List Node} {last lastTwin : Value}
    (each : ∀ node ∈ nodes, ∀ now left right, coupling.store now left right →
      coupling.tree now scope other node → coupling.Coupled coupling.Plain now
        (node.evaluate invoke scope) (node.evaluate invoke other) left right)
    (stores : coupling.store now left right)
    (trees : ∀ node ∈ nodes, coupling.tree now scope other node)
    (plain : coupling.Plain now last lastTwin) :
    coupling.Coupled coupling.Plain now (evaluateSequence invoke scope last nodes)
      (evaluateSequence invoke other lastTwin nodes) left right := by
  induction nodes generalizing now left right last lastTwin with
  | nil =>
      simp only [evaluateSequence]
      exact .of_value (Evaluation.pure_apply left _) (Evaluation.pure_apply right _) stores plain
  | cons node rest ih =>
      simp only [evaluateSequence]
      refine (each node (by simp) now left right stores (trees node (by simp))).bind ?_
      intro later item twin after afterTwin grown storesAfter plainAfter
      exact ih (fun node member => each node (by simp [member])) storesAfter
        (fun node member => coupling.tree_grows grown (trees node (by simp [member]))) plainAfter

theorem pure_coupled {item : Value} (scalar : item.IsScalar)
    (stores : coupling.store now left right) :
    coupling.Coupled coupling.Plain now (pure item) (pure item) left right := by
  refine .of_value (Evaluation.pure_apply left _) (Evaluation.pure_apply right _) stores ?_
  exact ⟨coupling.scalar scalar, by cases scalar <;> rfl⟩

theorem evaluate_coupled (calls : coupling.Calls invoke) (node : Node) :
    ∀ now left right, coupling.store now left right → coupling.tree now scope other node →
      coupling.Coupled coupling.Plain now (node.evaluate invoke scope)
        (node.evaluate invoke other) left right := by
  induction node using Node.induct_children with
  | step node ih =>
  intro now left right stores tree
  have child {part : Node} (function : node.isFunction = false) (member : part ∈ node.children)
      {later : coupling.World} {after afterTwin : Store} (grown : coupling.le now later)
      (storesAfter : coupling.store later after afterTwin) :
      coupling.Coupled coupling.Plain later (part.evaluate invoke scope)
        (part.evaluate invoke other) after afterTwin :=
    ih part member later after afterTwin storesAfter
      (coupling.child (coupling.tree_grows grown tree) function member)
  have here := coupling.refl now
  cases node with
  | missing =>
      exact .of_failed (Evaluation.fault_apply left _) (Evaluation.fault_apply right _) stores
  | program position statements =>
      exact (evaluateSequence_coupled ih stores (fun part member => coupling.child tree rfl member)
        ⟨coupling.scalar .null, rfl⟩).conclude
  | block position statements =>
      exact evaluateSequence_coupled ih stores (fun part member => coupling.child tree rfl member)
        ⟨coupling.scalar .null, rfl⟩
  | expressionStatement position expression =>
      have inner : expression ∈ (Node.expressionStatement position expression).children := by
        simp [Node.children]
      exact child rfl inner here stores
  | letStatement position name value =>
      refine (child rfl (by simp [Node.children]) here stores).bind ?_
      intro later item twin after afterTwin grown storesAfter plain
      exact bindName_coupled storesAfter (coupling.tree_grows grown tree) plain
  | returnStatement position value =>
      refine (child rfl (by simp [Node.children]) here stores).bind ?_
      intro later item twin after afterTwin grown storesAfter plain
      exact ⟨later, coupling.refl later, .started storesAfter plain.1⟩
  | identifier position name => exact resolve_coupled stores tree
  | integer position number => exact pure_coupled (.integer number) stores
  | boolean position flag => exact pure_coupled (.boolean flag) stores
  | string position text => exact pure_coupled (.string text) stores
  | null position => exact pure_coupled .null stores
  | unit position => exact pure_coupled .unit stores
  | array position elements =>
      refine (evaluateEach_coupled ih stores
        fun part member => coupling.child tree rfl member).bind ?_
      intro later items twins after afterTwin grown storesAfter related
      exact make_array_coupled storesAfter related
  | index position base chosen =>
      refine (child rfl (by simp [Node.children]) here stores).bind ?_
      intro middle item twin leftMiddle rightMiddle grown storesMiddle plain
      cases coupling.alike plain.1 with
      | array members =>
          refine (child rfl (by simp [Node.children]) grown storesMiddle).bind ?_
          intro later value valueTwin after afterTwin further storesAfter plainValue
          exact ofExcept_coupled storesAfter (elementAt_alike (forall_grows further members)
            (coupling.alike plainValue.1) chosen.position)
      | _ =>
          exact .of_failed (Evaluation.failAt_apply leftMiddle _ _)
            (Evaluation.failAt_apply rightMiddle _ _) storesMiddle
  | unary position operator operand =>
      refine (child rfl (by simp [Node.children]) here stores).bind ?_
      intro later item twin after afterTwin grown storesAfter plain
      rw [← (coupling.alike plain.1).applyUnary_eq operator position]
      exact ofExcept_coupled storesAfter
        (ResultsAlike.refl_of_ok fun result applied => coupling.scalar (Value.Computed.isScalar
          (applied ▸ applyUnary_applied operator position item).computed_of_ok))
  | binary position operator first second =>
      refine (child rfl (by simp [Node.children]) here stores).bind ?_
      intro middle item twin leftMiddle rightMiddle grown storesMiddle plain
      refine (child rfl (by simp [Node.children]) grown storesMiddle).bind ?_
      intro later value valueTwin after afterTwin further storesAfter plainValue
      have related := coupling.value_grows further plain.1
      rw [← applyBinary_alike (coupling.alike related) (coupling.alike plainValue.1)
        (coupling.identical related plainValue.1 plain.2) (coupling.inspect related)
        (coupling.inspect plainValue.1) operator position]
      exact ofExcept_coupled storesAfter
        (ResultsAlike.refl_of_ok fun result applied => coupling.scalar (Value.Computed.isScalar
          (applied ▸ applyBinary_applied operator position item value).computed_of_ok))
  | conditional position condition consequence alternative =>
      refine (child rfl (by simp [Node.children]) here stores).bind ?_
      intro later item twin after afterTwin grown storesAfter plain
      rw [← (coupling.alike plain.1).isTruthy_eq]
      by_cases truthy : item.isTruthy = true
      · simp only [truthy, if_true]
        exact child rfl (by simp [Node.children]) grown storesAfter
      · simp only [truthy]
        by_cases absent : alternative.isMissing = true
        · simp only [absent, if_true]
          exact pure_coupled .null storesAfter
        · simp only [absent]
          exact child rfl (by simp [Node.children, absent]) grown storesAfter
  | function position parameters body =>
      obtain ⟨later, grown, storesAfter, made⟩ := coupling.function stores tree
      exact .of_later grown (.of_value (Evaluation.make_apply left _)
        (Evaluation.make_apply right _) storesAfter ⟨made, rfl⟩)
  | call position callee arguments =>
      refine (child rfl (by simp [Node.children]) here stores).bind ?_
      intro middle item twin leftMiddle rightMiddle grown storesMiddle plain
      have treeMiddle := coupling.tree_grows grown tree
      have inside {part : Node} (member : part ∈ arguments) :
          part ∈ (Node.call position callee arguments).children :=
        List.mem_cons_of_mem callee member
      have evaluated := evaluateEach_coupled (fun part member => ih part (inside member))
        storesMiddle fun part member => coupling.child treeMiddle rfl (inside member)
      have target := callee_of_value plain.1
      generalize item.callable? = callable, twin.callable? = callableTwin at target
      cases target with
      | none =>
          rw [(coupling.alike plain.1).type_eq]
          exact .of_failed (Evaluation.failAt_apply leftMiddle _ _)
            (Evaluation.failAt_apply rightMiddle _ _) storesMiddle
      | some target =>
          refine evaluated.bind ?_
          intro later items twins after afterTwin further storesAfter related
          exact calls later after afterTwin scope other position callee arguments _ _ items twins
            storesAfter (coupling.tree_grows further treeMiddle) (target.grows further) related

end Trees

theorem builtin_coupled (depth : Nat) {scope other : ScopeId} {position : Position} {node : Node}
    {identity twinIdentity : Identity} {name : String} {action twin : Action Value}
    {items twins : List Value} (stores : coupling.store now left right)
    (tree : coupling.tree now scope other node)
    (builtin : coupling.value now (.builtin identity name action) (.builtin twinIdentity name twin))
    (related : List.Forall₂ (coupling.value now) items twins) :
    coupling.Coupled coupling.Plain now
      (invokeWithin depth (.builtin name action) items position scope)
      (invokeWithin depth (.builtin name twin) twins position other) left right := by
  have alike : action.Alike (coupling.value now) twin := by
    cases coupling.alike builtin with
    | builtin alike => exact alike
  simp only [Coupled, invokeWithin_builtin, coupling.settings stores tree]
  exact call_coupled stores alike related (right.settingsOf other)

theorem calls_within (depth : Nat) : coupling.Calls (invokeWithin depth) := by
  induction depth with
  | zero =>
      intro now left right scope other position node arguments callable twin items twins stores tree
        target related
      cases target with
      | function function => exact ⟨now, coupling.refl now, .exhausted stores⟩
      | builtin builtin => exact builtin_coupled 0 stores tree builtin related
  | succ depth ih =>
      intro now left right scope other position node arguments callable twin items twins stores tree
        target related
      cases target with
      | function function =>
          rename_i closure closureTwin
          have body : closureTwin.body = closure.body := by
            cases coupling.alike function with
            | function parameters body => exact body.symm
          refine (enter_coupled stores function related).bind ?_
          intro later inner innerTwin after afterTwin grown storesAfter treeAfter
          rw [body]
          have evaluated := evaluate_coupled ih closure.body later after afterTwin storesAfter treeAfter
          exact evaluated.arrive
      | builtin builtin => exact builtin_coupled (depth + 1) stores tree builtin related

variable (coupling) in
theorem evaluate_within (depth : Nat) {scope other : ScopeId} {node : Node}
    (stores : coupling.store now left right) (tree : coupling.tree now scope other node) :
    coupling.Coupled coupling.Plain now (node.evaluate (invokeWithin depth) scope)
      (node.evaluate (invokeWithin depth) other) left right :=
  evaluate_coupled (calls_within depth) node now left right stores tree

end Coupling

end MonkeyLang
