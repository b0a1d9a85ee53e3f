import MonkeyLang.Node

/-! The parts of a tree, and induction over them. -/

namespace MonkeyLang.Node

def children : Node → List Node
  | .program _ statements | .block _ statements => statements
  | .expressionStatement _ expression => [expression]
  | .letStatement _ _ value | .returnStatement _ value => [value]
  | .array _ elements => elements
  | .index _ base chosen => [base, chosen]
  | .unary _ _ operand => [operand]
  | .binary _ _ left right => [left, right]
  | .conditional _ condition consequence alternative =>
      condition :: consequence :: if alternative.isMissing then [] else [alternative]
  | .function _ _ body => [body]
  | .call _ callee arguments => callee :: arguments
  | _ => []

def isFunction : Node → Bool
  | .function _ _ _ => true
  | _ => false

def isProgram : Node → Bool
  | .program _ _ => true
  | _ => false

theorem induct_children {motive : Node → Prop}
    (step : ∀ node, (∀ child ∈ node.children, motive child) → motive node) (node : Node) :
    motive node := by
  have leaf (node : Node) (childless : node.children = []) : motive node := by
    apply step
    simp [childless]
  refine @Node.rec motive (fun nodes => ∀ node ∈ nodes, motive node)
    ?missing ?program ?block ?expressionStatement ?letStatement ?returnStatement ?identifier
    ?integer ?boolean ?string ?null ?unit ?array ?index ?unary ?binary ?conditional ?function
    ?call ?nil ?cons node
  case missing => exact leaf _ rfl
  case program => exact fun _ _ statements => step _ statements
  case block => exact fun _ _ statements => step _ statements
  case expressionStatement => exact fun _ _ expression => step _ (by simpa [children])
  case letStatement => exact fun _ _ _ value => step _ (by simpa [children])
  case returnStatement => exact fun _ _ value => step _ (by simpa [children])
  case identifier => exact fun _ _ => leaf _ rfl
  case integer => exact fun _ _ => leaf _ rfl
  case boolean => exact fun _ _ => leaf _ rfl
  case string => exact fun _ _ => leaf _ rfl
  case null => exact fun _ => leaf _ rfl
  case unit => exact fun _ => leaf _ rfl
  case array => exact fun _ _ elements => step _ elements
  case index => exact fun _ _ _ base chosen => step _ (by simpa [children] using ⟨base, chosen⟩)
  case unary => exact fun _ _ _ operand => step _ (by simpa [children])
  case binary => exact fun _ _ _ _ left right => step _ (by simpa [children] using ⟨left, right⟩)
  case conditional =>
    intro _ condition consequence alternative conditionHolds consequenceHolds alternativeHolds
    apply step
    intro child member
    simp only [children, List.mem_cons] at member
    rcases member with same | same | member
    · rwa [same]
    · rwa [same]
    · split at member
      · simp at member
      · rw [List.mem_singleton.mp member]
        exact alternativeHolds
  case function => exact fun _ _ _ body => step _ (by simpa [children])
  case call =>
    exact fun _ _ _ callee arguments => step _ (by simpa [children] using ⟨callee, arguments⟩)
  case nil => simp
  case cons => exact fun _ _ head tail => by simpa using ⟨head, tail⟩

/-- The second tree is the first one or stands below it, with every tree above it one that is looked
into. -/
inductive HasPart (opens : Node → Bool) : Node → Node → Prop
  | self (node : Node) : HasPart opens node node
  | inside {node child part : Node} : opens node = true → child ∈ node.children →
      HasPart opens child part → HasPart opens node part

theorem forall_hasPart {opens : Node → Bool} {node : Node} {good : Node → Prop} :
    (∀ part, HasPart opens node part → good part) ↔
      good node ∧ (opens node = true → ∀ child ∈ node.children,
        ∀ part, HasPart opens child part → good part) := by
  constructor
  · intro all
    exact ⟨all node (.self node), fun opened child member part found =>
      all part (.inside opened member found)⟩
  · rintro ⟨here, deeper⟩ part found
    cases found with
    | self => exact here
    | inside opened member found => exact deeper opened _ member part found

/-- Whether evaluating a tree can start a return that leaves it: it has a return statement that
stands in no function and in no program. -/
def CanReturn (node : Node) : Prop :=
  ∃ position value,
    HasPart (fun above => !above.isFunction && !above.isProgram) node
      (.returnStatement position value)

theorem CanReturn.of_child {node child : Node} (function : node.isFunction = false)
    (program : node.isProgram = false) (member : child ∈ node.children)
    (returns : child.CanReturn) : node.CanReturn := by
  obtain ⟨position, value, found⟩ := returns
  exact ⟨position, value, .inside (by simp [function, program]) member found⟩

end MonkeyLang.Node
