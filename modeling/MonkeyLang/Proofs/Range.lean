import Mathlib.Algebra.Group.Int.Defs
import MonkeyLang.Proofs.Provenance

/-! Integers stay in 64 bits. Arithmetic reduces its results, but literals are taken as they are and
`len` counts without bound, so the range is an invariant of whole runs: it holds as long as neither
the tree nor the store brings in an integer, or a function with a literal, that is out of range. -/

namespace MonkeyLang

def InWord (number : Int) : Prop := -2 ^ 63 ≤ number ∧ number < 2 ^ 63

theorem inWord_wrap (number : Int) : InWord (wrap number) := by
  have bounds := wrap_bounds number
  rw [wordSpan_eq] at bounds
  simp only [InWord]
  omega

/-- The integers written in a tree, and in the functions that it makes, are in range. -/
def Node.InRange (node : Node) : Prop :=
  ∀ part : Node, part.Occurs node →
    ∀ position number, part = .integer position number → InWord number

theorem Node.inRange_iff {node : Node} :
    node.InRange ↔ (∀ position number, node = .integer position number → InWord number) ∧
      ∀ child ∈ node.children, child.InRange :=
  Node.forall_occurs

def Value.InRange : Value → Prop
  | .integer number => InWord number
  | .function _ closure => closure.body.InRange
  | _ => True

def Value.isCounter : Value → Bool
  | .builtin _ _ .len => true
  | _ => false

def Value.Ranged (value : Value) : Prop := value.InRange ∧ value.isCounter = false

theorem Value.Computed.ranged {value : Value} (computed : value.Computed) :
    value.Throughout Value.Ranged := by
  cases computed with
  | wrapped number => exact Value.throughout_of_partless rfl ⟨inWord_wrap number, rfl⟩
  | _ => exact Value.throughout_of_partless rfl ⟨trivial, rfl⟩

def ranged : Contract where
  store := Store.Throughout Value.Ranged
  value := fun _ => Value.Throughout Value.Ranged
  tree := fun _ _ => Node.InRange
  failed := fun store _ => store.Throughout Value.Ranged
  value_grows := fun _ ranged => ranged
  tree_grows := fun _ inRange => inRange
  child := fun inRange _ member => (Node.inRange_iff.mp inRange).2 _ member
  computed := Value.Computed.ranged
  unit := Value.throughout_of_partless rfl ⟨trivial, rfl⟩
  number := by
    intro now scope position number inRange
    exact Value.throughout_of_partless rfl ⟨(Node.inRange_iff.mp inRange).1 position number rfl, rfl⟩
  counted := by
    intro now identity name number counter
    cases (Value.throughout_iff.mp counter).1.2
  held := fun builtin _ => builtin.part (by simp [Value.parts])
  element := fun array item member => array.part member
  returned := fun pending => pending.part (by simp [Value.parts])
  found := fun kept _ found => kept.lookup found
  registered := fun kept found => kept.registry _ _ found
  array := fun kept items =>
    ⟨kept.of_same rfl rfl, Value.throughout_iff.mpr ⟨⟨trivial, rfl⟩, items⟩⟩
  function := by
    intro now scope position parameters body kept inRange
    have bodyInRange := (Node.inRange_iff.mp inRange).2 body (List.mem_singleton.mpr rfl)
    exact ⟨kept.of_same rfl rfl, Value.throughout_of_partless rfl ⟨bodyInRange, rfl⟩⟩
  assigned := fun kept _ item _ => kept.assign _ _ item
  wrote := fun _ kept _ => kept.of_same rfl rfl
  entered := by
    intro now identity closure items kept function allowed _
    exact ⟨kept.enterCall ⟨trivial, rfl⟩ allowed, (Value.throughout_iff.mp function).1.1⟩
  refused := fun kept _ _ _ => kept.of_same rfl rfl
  raised := fun kept _ _ => kept

def Outcome.InRange : Outcome Value → Prop
  | .value result | .returning _ result => result.Throughout Value.InRange
  | .failed _ | .exhausted => True

theorem inRange_of_ended {returns : Prop} {ends : Outcome Value × Store}
    (ended : ranged.Ended ranged.value returns ends) : ends.1.InRange := by
  obtain ⟨outcome, after⟩ := ends
  cases outcome with
  | value result => exact Value.Throughout.imp ended.2 fun _ ranged => ranged.1
  | returning origin result =>
      exact Value.Throughout.imp (Contract.Ended.returning ended).2 fun _ ranged => ranged.1
  | failed failure => exact trivial
  | exhausted => exact trivial

/-- A way of calling builtins that is the usual one unless an integer in the arguments is out of
range. -/
def UsualInRange (callBuiltin : BuiltinCall) : Prop :=
  ∀ name action arguments position caller store,
    (∀ argument ∈ arguments, argument.Throughout Value.InRange) →
    callBuiltin name action arguments position caller store =
      action.call name position arguments (store.settingsOf caller) store

/-- Integers stay in range: in what is stored, in what comes out and in what builtins get. -/
theorem evaluate_inRange {store : Store} (inRange : store.Throughout Value.InRange)
    (uncounted : store.Throughout (·.isCounter = false)) {node : Node} (literals : node.InRange)
    (depth : Nat) (scope : ScopeId) :
    (node.evaluate (invokeWithin depth) scope store).2.Throughout Value.InRange ∧
    (node.evaluate (invokeWithin depth) scope store).1.InRange ∧
    ∀ callBuiltin, UsualInRange callBuiltin →
      node.evaluate (invokeBy callBuiltin depth) scope store =
        node.evaluate (invokeWithin depth) scope store := by
  have kept : ranged.store store := inRange.and uncounted
  have tree : ranged.tree store scope node := literals
  have ended := (ranged.evaluate_ended depth kept tree).2
  refine ⟨?_, inRange_of_ended ended, ?_⟩
  · have after : ranged.store _ := Contract.Ended.kept ended fun _ _ failed => failed
    exact Store.Throughout.imp after fun _ ranged => ranged.1
  · intro callBuiltin usual
    have agrees : ranged.Agrees callBuiltin := by
      intro now identity name action arguments position caller _ _ allowed
      exact usual name action arguments position caller now fun argument member =>
        Value.Throughout.imp (allowed argument member) fun _ ranged => ranged.1
    exact (Contract.evaluate_keeps (Contract.calls_within agrees depth) node store kept tree).same

theorem evaluate_inRange_extremes :
    let store := ((Store.initial.register "len" .arguments).addRoot .default).2
    let least : Node := .integer .unknown (-2 ^ 63)
    let node : Node := .array .unknown
      [.binary .unknown "/" least (.integer .unknown (-1)), .unary .unknown "-" least]
    store.Throughout Value.InRange ∧ store.Throughout (·.isCounter = false) ∧ node.InRange ∧
    let result : Value := .array 7 [.integer (-2 ^ 63), .integer (-2 ^ 63)]
    ∃ after, node.evaluate (invokeWithin 0) 0 store = (.value result, after) ∧
      after.Throughout Value.InRange ∧ result.Throughout Value.InRange := by
  intro store least node
  have plain : ((Store.initial.register "len" .arguments).registry.entries.all fun entry =>
      entry.2.value.parts.isEmpty && !entry.2.value.isCounter) = true := rfl
  have registered : (Store.initial.register "len" .arguments).registry.All fun builtin =>
      builtin.value.Throughout Value.Ranged := by
    intro entry member
    have each := List.all_eq_true.mp plain entry member
    simp only [Bool.and_eq_true, List.isEmpty_iff, Bool.not_eq_true'] at each
    exact Value.throughout_of_partless each.1 ⟨trivial, each.2⟩
  have initial : (Store.initial.register "len" .arguments).Throughout Value.Ranged :=
    ⟨fun _ _ _ found => (by cases found), fun _ _ found => registered.find? found⟩
  have rooted : store.Throughout Value.Ranged := initial.addRoot .default
  have inRange : store.Throughout Value.InRange := rooted.imp fun _ ranged => ranged.1
  have uncounted : store.Throughout (·.isCounter = false) := rooted.imp fun _ ranged => ranged.2
  have literals : node.InRange := by grind [Node.inRange_iff, Node.children, InWord]
  have ends : node.evaluate (invokeWithin 0) 0 store =
      (.value (.array 7 [.integer (-2 ^ 63), .integer (-2 ^ 63)]), _) := rfl
  have holds := evaluate_inRange inRange uncounted literals 0 0
  rw [ends] at holds
  exact ⟨inRange, uncounted, literals, _, ends, holds.1, holds.2.1⟩

end MonkeyLang
