import MonkeyLang.Proofs.Coupling
import MonkeyLang.Proofs.Provenance

/-! A name that is never read does not matter. Stores that differ only in what the name stands for, in
any scopes and among the builtins, are told apart by no tree that does not read it, provided that the
functions it can meet do not read it either. Binding the name is harmless. -/

namespace MonkeyLang

namespace Dictionary

variable {α : Type}

def without (dictionary : Dictionary α) (name : String) : Dictionary α :=
  ⟨dictionary.entries.filter (·.1 ≠ name)⟩

variable (dictionary : Dictionary α) {name query : String}

theorem without_without (name : String) :
    (dictionary.without name).without name = dictionary.without name := by
  simp [without, List.filter_filter]

theorem find?_without_same (name : String) : (dictionary.without name).find? name = none := by
  simp [find?, without]

theorem find?_without_other (different : query ≠ name) :
    (dictionary.without name).find? query = dictionary.find? query := by
  simp only [find?, without, List.find?_filter]
  congr 2
  funext entry
  by_cases here : entry.1 = query <;> simp [here, different]

theorem without_insert_same (name : String) (value : α) :
    (dictionary.insert name value).without name = dictionary.without name := by
  obtain ⟨entries⟩ := dictionary
  simp only [insert, without, mk.injEq]
  induction entries with
  | nil => simp [insertEntry]
  | cons entry rest ih =>
      simp only [insertEntry]
      by_cases here : entry.1 = name
      · simp [here]
      · simpa [here] using ih

theorem without_insert_other (different : query ≠ name) (value : α) :
    (dictionary.insert query value).without name = (dictionary.without name).insert query value := by
  obtain ⟨entries⟩ := dictionary
  simp only [insert, without, mk.injEq]
  induction entries with
  | nil => simp [insertEntry, different]
  | cons entry rest ih =>
      by_cases here : entry.1 = query
      · simp [insertEntry, here, different]
      · by_cases dropped : entry.1 = name
        · simpa [insertEntry, dropped, different.symm] using ih
        · simpa [insertEntry, here, dropped] using ih

theorem without_insert (name query : String) (value : α) :
    (dictionary.insert query value).without name =
      ((dictionary.without name).insert query value).without name := by
  by_cases same : query = name
  · rw [same, without_insert_same, without_insert_same, without_without]
  · rw [without_insert_other _ same, without_insert_other _ same, without_without]

end Dictionary

/-- The name is looked up neither in the tree nor in a function that it makes. -/
def Node.Ignores (name : String) (node : Node) : Prop :=
  ∀ part : Node, part.Occurs node → ∀ position, part ≠ .identifier position name

theorem Node.ignores_iff {node : Node} {name : String} :
    node.Ignores name ↔ (∀ position, node ≠ .identifier position name) ∧
      ∀ child ∈ node.children, child.Ignores name :=
  Node.forall_occurs

theorem Node.Ignores.ne {position : Position} {name query : String}
    (unread : (Node.identifier position query).Ignores name) : query ≠ name := by
  rintro rfl
  exact (Node.ignores_iff.mp unread).1 position rfl

def Value.Ignores (name : String) : Value → Prop
  | .function _ closure => closure.body.Ignores name
  | _ => True

theorem Value.ignores_scalar {value : Value} (scalar : value.IsScalar) (name : String) :
    value.Ignores name := by
  cases scalar <;> exact trivial

def Scope.without (scope : Scope) (name : String) : Scope :=
  { scope with bindings := scope.bindings.without name }

namespace Store

def without (store : Store) (name : String) : Store :=
  { store with
    scopes := store.scopes.map (·.without name)
    registry := store.registry.without name }

section Views

variable (store : Store) {name query : String}

theorem parent?_without (name : String) (scope : ScopeId) :
    (store.without name).parent? scope = store.parent? scope := by
  simp only [parent?, without, Array.getElem?_map, Option.bind_map]
  rfl

theorem binding?_without_same (name : String) (scope : ScopeId) :
    (store.without name).binding? scope name = none := by
  simp only [binding?, without, Array.getElem?_map, Option.bind_map]
  cases store.scopes[scope]? with
  | none => rfl
  | some found => exact found.bindings.find?_without_same name

theorem binding?_without_other (different : query ≠ name) (scope : ScopeId) :
    (store.without name).binding? scope query = store.binding? scope query := by
  simp only [binding?, without, Array.getElem?_map, Option.bind_map]
  congr 1
  funext found
  exact found.bindings.find?_without_other different

theorem chainFrom_without (name : String) (steps : Nat) (scope : ScopeId) :
    (store.without name).chainFrom steps scope = store.chainFrom steps scope := by
  induction steps generalizing scope with
  | zero => rfl
  | succ steps ih =>
      simp only [chainFrom, parent?_without]
      cases store.parent? scope with
      | none => rfl
      | some parent => simp only [ih]

theorem lookup_without (different : query ≠ name) (scope : ScopeId) :
    (store.without name).lookup scope query = store.lookup scope query := by
  simp only [lookup, chain, chainFrom_without, binding?_without_other store different]

theorem builtin?_without (different : query ≠ name) :
    (store.without name).builtin? query = store.builtin? query :=
  store.registry.find?_without_other different

theorem settingsOf_without (name : String) (scope : ScopeId) :
    (store.without name).settingsOf scope = store.settingsOf scope := by
  simp only [settingsOf, without, Array.getElem?_map, Option.bind_map]
  rfl

end Views

section Changes

variable (store : Store) (name : String)

theorem scopes_without_without :
    (store.scopes.map (·.without name)).map (·.without name) =
      store.scopes.map (·.without name) := by
  simp [Scope.without, Dictionary.without_without]

theorem without_assign (scope : ScopeId) (assigned : String) (value : Value) :
    (store.assign scope assigned value).without name =
      ((store.without name).assign scope assigned value).without name := by
  have scopes : ((store.assign scope assigned value).without name).scopes =
      (((store.without name).assign scope assigned value).without name).scopes := by
    apply Array.ext_getElem?
    intro id
    simp only [without, assign, Array.getElem?_map, Array.getElem?_modify]
    by_cases here : scope = id
    · subst here
      cases store.scopes[scope]? with
      | none => rfl
      | some found => simp [Scope.without, ← Dictionary.without_insert]
    · cases store.scopes[id]? <;> simp [here, Scope.without, Dictionary.without_without]
  have registry := store.registry.without_without name
  simp only [without, assign] at scopes ⊢
  rw [scopes, registry]

theorem without_addScope (added : Scope) :
    (store.addScope added).2.without name =
      ((store.without name).addScope added).2.without name := by
  simp only [without, addScope, Array.map_push, scopes_without_without,
    Dictionary.without_without]

theorem without_logCall (closure : Closure) (items : List Value) :
    (store.logCall closure items).without name = (store.without name).logCall closure items := by
  simp only [logCall, settingsOf_without]
  rfl

theorem without_addChild (parent : ScopeId) (bindings : Dictionary Value) :
    (store.addChild parent bindings).2.without name =
      ((store.without name).addChild parent bindings).2.without name := by
  have settings : ((store.without name).scopes[parent]?).map (·.settings) =
      (store.scopes[parent]?).map (·.settings) := by
    simp [without, Scope.without, Function.comp_def]
  simp only [addChild, settings]
  exact store.without_addScope name _

theorem without_enterCall (closure : Closure) (items : List Value) :
    (store.enterCall closure items).2.without name =
      ((store.without name).enterCall closure items).2.without name := by
  simp only [enterCall]
  rw [without_addChild, without_logCall]

end Changes

theorem Throughout.without {good : Value → Prop} {store : Store} (throughout : store.Throughout good)
    (name : String) : (store.without name).Throughout good where
  bindings := by
    intro id query value found
    by_cases same : query = name
    · rw [same, binding?_without_same] at found
      cases found
    · rw [binding?_without_other store same] at found
      exact throughout.bindings id query value found
  registry := by
    intro query builtin found
    by_cases same : query = name
    · rw [same, builtin?, Store.without, Dictionary.find?_without_same] at found
      cases found
    · rw [builtin?_without store same] at found
      exact throughout.registry query builtin found

end Store

/-- Two stores that differ only in what a name stands for, which no function in the rest reads. -/
structure Store.AgreeBut (name : String) (left right : Store) : Prop where
  same : left.without name = right.without name
  ignored : (left.without name).Throughout (Value.Ignores name)

namespace Store.AgreeBut

variable {name query : String} {left right : Store} (agree : left.AgreeBut name right)
include agree

theorem lookup (different : query ≠ name) (scope : ScopeId) :
    Option.Rel (Value.Shared (Value.Ignores name)) (left.lookup scope query)
      (right.lookup scope query) := by
  rw [← left.lookup_without different, ← right.lookup_without different, ← agree.same]
  exact Value.shared_of_found rfl fun _ found => agree.ignored.lookup found

theorem builtin? (different : query ≠ name) :
    Option.Rel (fun builtin twin => builtin.value.Shared (Value.Ignores name) twin.value)
      (left.builtin? query) (right.builtin? query) := by
  rw [← left.builtin?_without different, ← right.builtin?_without different, ← agree.same]
  exact Value.shared_of_found rfl fun builtin found => agree.ignored.registry query builtin found

theorem settingsOf (scope : ScopeId) : left.settingsOf scope = right.settingsOf scope := by
  rw [← left.settingsOf_without name, agree.same, settingsOf_without]

theorem nextIdentity : left.nextIdentity = right.nextIdentity := by
  have identities := congrArg Store.nextIdentity agree.same
  exact identities

theorem size : left.scopes.size = right.scopes.size := by
  have sizes := congrArg (·.scopes.size) agree.same
  simpa [Store.without] using sizes

theorem step (change effect : Store → Store)
    (commutes : ∀ store, (change store).without name = effect (store.without name))
    (keeps : (effect (left.without name)).Throughout (Value.Ignores name)) :
    (change left).AgreeBut name (change right) := by
  refine ⟨?_, ?_⟩
  · rw [commutes, commutes, agree.same]
  · rwa [commutes]

theorem assign (scope : ScopeId) (assigned : String) {value : Value}
    (ignores : value.Throughout (Value.Ignores name)) :
    (left.assign scope assigned value).AgreeBut name (right.assign scope assigned value) :=
  agree.step (·.assign scope assigned value)
    (fun rest => (rest.assign scope assigned value).without name)
    (fun store => store.without_assign name scope assigned value)
    ((agree.ignored.assign scope assigned ignores).without name)

theorem record (line : LogLine) : (left.record line).AgreeBut name (right.record line) :=
  agree.step (·.record line) (·.record line) (fun _ => rfl) (agree.ignored.of_same rfl rfl)

theorem write (sink : Sink) (texts : List String) :
    (left.write sink texts).AgreeBut name (right.write sink texts) :=
  agree.step (·.write sink texts) (·.write sink texts) (fun _ => rfl) (agree.ignored.of_same rfl rfl)

theorem freshIdentity : left.freshIdentity.2.AgreeBut name right.freshIdentity.2 :=
  agree.step (·.freshIdentity.2) (·.freshIdentity.2) (fun _ => rfl) (agree.ignored.of_same rfl rfl)

theorem enterCall (closure : Closure) {items : List Value}
    (ignores : ∀ item ∈ items, item.Throughout (Value.Ignores name)) :
    (left.enterCall closure items).2.AgreeBut name (right.enterCall closure items).2 :=
  agree.step (fun store => (store.enterCall closure items).2)
    (fun rest => (rest.enterCall closure items).2.without name)
    (fun store => store.without_enterCall name closure items)
    ((agree.ignored.enterCall trivial ignores).without name)

end Store.AgreeBut

def blindTo (name : String) : Coupling where
  World := Unit
  le := fun _ _ => True
  store := fun _ => Store.AgreeBut name
  value := fun _ => Value.Shared (Value.Ignores name)
  tree := fun _ scope other node => scope = other ∧ node.Ignores name
  refl := fun _ => trivial
  trans := fun _ _ => trivial
  value_grows := fun _ shared => shared
  tree_grows := fun _ tree => tree
  child := by
    rintro _ scope _ node child ⟨rfl, unread⟩ _ member
    exact ⟨rfl, (Node.ignores_iff.mp unread).2 child member⟩
  scalar := fun scalar =>
    ⟨rfl, Value.throughout_scalar scalar (Value.ignores_scalar scalar name)⟩
  alike := fun shared => shared.alike
  identical := fun left right _ => by rw [left.1, right.1]
  inspect := fun shared => by rw [shared.1]
  found := by
    rintro _ left right scope _ position query agree ⟨rfl, unread⟩
    exact agree.lookup (Node.Ignores.ne unread) scope
  registered := by
    rintro _ left right scope _ position query agree ⟨rfl, unread⟩
    exact agree.builtin? (Node.Ignores.ne unread)
  settings := by
    rintro _ left right scope _ node agree ⟨rfl, _⟩
    exact agree.settingsOf scope
  closure := by
    rintro _ left right identity _ closure _ agree ⟨⟨⟩, _⟩
    exact agree.settingsOf closure.scope
  array := by
    intro _ left right elements twins agree members
    obtain ⟨rfl, ignores⟩ := Value.shared_members.mp members
    refine ⟨(), trivial, agree.freshIdentity, ?_, ?_⟩
    · exact congrArg (Value.array · elements) agree.nextIdentity
    · exact Value.throughout_iff.mpr ⟨trivial, ignores⟩
  function := by
    rintro _ left right scope _ position parameters body agree ⟨rfl, unread⟩
    refine ⟨(), trivial, agree.freshIdentity, ?_, ?_⟩
    · exact congrArg (Value.function · ⟨parameters, body, scope⟩) agree.nextIdentity
    · have ignores := (Node.ignores_iff.mp unread).2 body (List.mem_singleton.mpr rfl)
      exact Value.throughout_iff.mpr ⟨ignores, nofun⟩
  assigned := by
    rintro _ left right scope _ position assigned node item _ agree ⟨rfl, _⟩ ⟨rfl, ignores⟩
    exact agree.assign scope assigned ignores
  wrote := fun sink texts agree => agree.write sink texts
  recorded := fun line agree => agree.record line
  entered := by
    rintro _ left right identity _ closure _ items twins agree ⟨⟨⟩, unread⟩ members
    obtain ⟨rfl, ignores⟩ := Value.shared_members.mp members
    exact ⟨(), trivial, agree.enterCall closure ignores, agree.size,
      (Value.throughout_iff.mp unread).1⟩

section Blindness

variable {name : String} {left right : Store}

theorem same_of_coupled {first second : Evaluation Value}
    (coupled : (blindTo name).Coupled (blindTo name).Plain () first second left right) :
    (first left).1 = (second right).1 ∧
      (first left).2.without name = (second right).2.without name := by
  obtain ⟨_, _, ended⟩ := coupled
  generalize first left = ends, second right = endsTwin at ended
  cases ended with
  | value agree plain => exact ⟨congrArg Outcome.value plain.1.1, agree.same⟩
  | started agree shared => exact ⟨congrArg (Outcome.returning none) shared.1, agree.same⟩
  | resumed agree shared =>
      obtain ⟨⟨⟩, _⟩ := shared
      exact ⟨rfl, agree.same⟩
  | failed failure agree => exact ⟨rfl, agree.same⟩
  | exhausted agree => exact ⟨rfl, agree.same⟩

theorem ends_of_same {node : Node} {scope : ScopeId} {outcome : Outcome Value} {rest : Store}
    (same : ∀ depth,
      (node.evaluate (invokeWithin depth) scope left).1 =
        (node.evaluate (invokeWithin depth) scope right).1 ∧
      (node.evaluate (invokeWithin depth) scope left).2.without name =
        (node.evaluate (invokeWithin depth) scope right).2.without name)
    (ends : ∃ after, node.Ends scope left outcome after ∧ after.without name = rest) :
    ∃ after, node.Ends scope right outcome after ∧ after.without name = rest := by
  obtain ⟨after, ⟨finished, depth, ends⟩, rfl⟩ := ends
  have twin := same depth
  rw [ends] at twin
  refine ⟨(node.evaluate (invokeWithin depth) scope right).2, ⟨finished, depth, ?_⟩, twin.2.symm⟩
  exact Prod.ext twin.1.symm rfl

/-- A name that is never read makes no difference to how an evaluation ends, nor to what it leaves
behind, but for the name. -/
theorem evaluate_ignores_unread (same : left.without name = right.without name)
    (ignored : (left.without name).Throughout (Value.Ignores name)) {node : Node}
    (unread : node.Ignores name) (scope : ScopeId) (outcome : Outcome Value) (rest : Store) :
    (∃ after, node.Ends scope left outcome after ∧ after.without name = rest) ↔
      ∃ after, node.Ends scope right outcome after ∧ after.without name = rest := by
  have agree : (blindTo name).store () left right := ⟨same, ignored⟩
  have tree : (blindTo name).tree () scope scope node := ⟨rfl, unread⟩
  have alike (depth : Nat) := same_of_coupled ((blindTo name).evaluate_within depth agree tree)
  constructor
  · exact ends_of_same alike
  · exact ends_of_same fun depth => ⟨(alike depth).1.symm, (alike depth).2.symm⟩

theorem evaluate_ignores_unread_bound :
    let root := (Store.initial.addRoot .default).2
    let left := ((root.register "x" (.constant .null)).assign 0 "y" (.integer 7)).assign 0 "x"
      (.function 9 ⟨[], .identifier .start "x", 0⟩)
    let right := (root.register "x" .puts).assign 0 "y" (.integer 7)
    let node : Node := .block .start
      [.letStatement .start "x" (.string .start "unused"),
        .call .start (.function .start ["x"] (.identifier .start "y")) [.integer .start 1]]
    left.without "x" = right.without "x" ∧
    (left.without "x").Throughout (Value.Ignores "x") ∧ node.Ignores "x" ∧
    ∃ after, node.Ends 0 left (.value (.integer 7)) after ∧
      ∃ twin, node.Ends 0 right (.value (.integer 7)) twin ∧
        twin.without "x" = after.without "x" := by
  intro root left right node
  have same : left.without "x" = right.without "x" := by
    have bound : left.scopes = #[⟨none, ⟨[("y", .integer 7),
      ("x", .function 9 ⟨[], .identifier .start "x", 0⟩)]⟩, 0⟩] := rfl
    have boundTwin : right.scopes = #[⟨none, ⟨[("y", .integer 7)]⟩, 0⟩] := rfl
    simp only [Store.without, bound, boundTwin, List.map_toArray]
    rfl
  have ignored : (left.without "x").Throughout (Value.Ignores "x") := by
    have initial : Store.initial.Throughout (Value.Ignores "x") :=
      ⟨fun _ _ _ found => (by cases found),
        fun _ _ found => Value.throughout_of_partless (Store.partless_initial found) trivial⟩
    have number : (Value.integer 7).Throughout (Value.Ignores "x") :=
      Value.throughout_of_partless rfl trivial
    rw [same]
    exact (((initial.addRoot .default).assign 0 "y" number).without "x").of_same rfl rfl
  have unread : node.Ignores "x" := by grind [Node.ignores_iff, Node.children]
  have ends : node.Ends 0 left (.value (.integer 7)) _ := ⟨by simp, 1, rfl⟩
  have alike := (evaluate_ignores_unread same ignored unread 0 _ _).mp ⟨_, ends, rfl⟩
  exact ⟨same, ignored, unread, _, ends, alike⟩

end Blindness

end MonkeyLang
