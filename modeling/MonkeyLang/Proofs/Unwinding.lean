import MonkeyLang.Proofs.Depth

/-! Whatever stops an operand stops all that stands around it. A return under way and a failure come
out of the outermost tree just as they came out of the operand, and nothing happens on the way. -/

namespace MonkeyLang

inductive Stop where
  | returning (origin : Option Identity) (result : Value)
  | failed (failure : Failure)

namespace Stop

variable {α β : Type} {stop : Stop} {store after : Store}

def outcome : Stop → Outcome α
  | .returning origin result => .returning origin result
  | .failed failure => .failed failure

theorem outcome_ne_exhausted (stop : Stop) : (stop.outcome : Outcome α) ≠ .exhausted := by
  cases stop with
  | returning origin result => exact nofun
  | failed failure => exact nofun

theorem bind {first : Evaluation α} (next : α → Evaluation β)
    (ends : first store = (stop.outcome, after)) :
    (first >>= next) store = (stop.outcome, after) := by
  cases stop with
  | returning origin result => exact Evaluation.bind_of_returning store next ends
  | failed failure => exact Evaluation.bind_of_failed store next ends

end Stop

/-- A place where a tree has an operand, with everything else that the tree is made of. -/
inductive Slot where
  | statement (position : Position)
  | binding (position : Position) (name : String)
  | returned (position : Position)
  | operand (position : Position) (operator : String)
  | left (position : Position) (operator : String) (right : Node)
  | right (position : Position) (operator : String) (left : Node)
  | callee (position : Position) (arguments : List Node)
  | argument (position : Position) (callee : Node) (earlier later : List Node)
  | element (position : Position) (earlier later : List Node)
  | base (position : Position) (index : Node)
  | index (position : Position) (base : Node)
  | condition (position : Position) (consequence alternative : Node)

def Slot.fill : Slot → Node → Node
  | .statement position, node => .expressionStatement position node
  | .binding position name, node => .letStatement position name node
  | .returned position, node => .returnStatement position node
  | .operand position operator, node => .unary position operator node
  | .left position operator other, node => .binary position operator node other
  | .right position operator other, node => .binary position operator other node
  | .callee position arguments, node => .call position node arguments
  | .argument position target earlier later, node =>
      .call position target (earlier ++ node :: later)
  | .element position earlier later, node => .array position (earlier ++ node :: later)
  | .base position chosen, node => .index position node chosen
  | .index position array, node => .index position array node
  | .condition position consequence alternative, node =>
      .conditional position node consequence alternative

inductive Node.AllEnd (scope : ScopeId) : List Node → Store → Store → Prop
  | nil (store : Store) : AllEnd scope [] store store
  | cons {node : Node} {rest : List Node} {value : Value} {before middle now : Store} :
      node.Ends scope before (.value value) middle → AllEnd scope rest middle now →
      AllEnd scope (node :: rest) before now

/-- The operands before the one in the slot end with values that let it have its turn, and leave the
store `now`. -/
def Slot.Reaches (scope : ScopeId) (before now : Store) : Slot → Prop
  | .right _ _ other => ∃ value, other.Ends scope before (.value value) now
  | .argument _ target earlier _ => ∃ called middle,
      target.Ends scope before (.value called) middle ∧ called.callable?.isSome = true ∧
        Node.AllEnd scope earlier middle now
  | .element _ earlier _ => Node.AllEnd scope earlier before now
  | .index _ array => ∃ identity elements,
      array.Ends scope before (.value (.array identity elements)) now
  | _ => now = before

inductive PathReaches (scope : ScopeId) : List Slot → Store → Store → Prop
  | nil (store : Store) : PathReaches scope [] store store
  | cons {slot : Slot} {path : List Slot} {before middle now : Store} :
      slot.Reaches scope before middle → PathReaches scope path middle now →
      PathReaches scope (slot :: path) before now

section Unwinding

variable {scope : ScopeId} {node : Node} {stop : Stop} {before now after : Store}

theorem evaluateEach_stops {earlier : List Node} (later : List Node)
    (all : Node.AllEnd scope earlier before now) (ends : node.Ends scope now stop.outcome after) :
    ∃ depth, ∀ deeper, depth ≤ deeper →
      evaluateEach (invokeWithin deeper) scope (earlier ++ node :: later) before =
        (stop.outcome, after) := by
  induction all with
  | nil store =>
      obtain ⟨depth, settled⟩ := ends.at_depth
      exact ⟨depth, fun deeper enough => Stop.bind _ (settled deeper enough)⟩
  | cons first rest ih =>
      obtain ⟨depth, settled⟩ := first.at_depth
      obtain ⟨restDepth, stopped⟩ := ih ends
      refine ⟨max depth restDepth, fun deeper enough => ?_⟩
      have firstEnds := settled deeper (by omega)
      have restStops := stopped deeper (by omega)
      exact (Evaluation.bind_of_value _ _ firstEnds).trans (Stop.bind _ restStops)

theorem Slot.fill_stops {slot : Slot} (reached : slot.Reaches scope before now)
    (ends : node.Ends scope now stop.outcome after) :
    (slot.fill node).Ends scope before stop.outcome after := by
  refine ⟨stop.outcome_ne_exhausted, ?_⟩
  obtain ⟨depth, settled⟩ := ends.at_depth
  have stops := settled depth (Nat.le_refl _)
  cases slot with
  | statement position =>
      cases reached
      exact ⟨depth, stops⟩
  | right position operator left =>
      obtain ⟨value, leftEnds⟩ := reached
      obtain ⟨leftDepth, leftSettled⟩ := leftEnds.at_depth
      have former := leftSettled (max depth leftDepth) (by omega)
      have latter := settled (max depth leftDepth) (by omega)
      exact ⟨_, (Evaluation.bind_of_value before _ former).trans (Stop.bind _ latter)⟩
  | argument position callee earlier later =>
      obtain ⟨target, middle, calleeEnds, callable, all⟩ := reached
      obtain ⟨found, target?⟩ := Option.isSome_iff_exists.mp callable
      obtain ⟨calleeDepth, calleeSettled⟩ := calleeEnds.at_depth
      obtain ⟨eachDepth, eachStops⟩ := evaluateEach_stops later all ends
      have former := calleeSettled (max calleeDepth eachDepth) (by omega)
      have latter := eachStops (max calleeDepth eachDepth) (by omega)
      refine ⟨_, (Evaluation.bind_of_value before _ former).trans ?_⟩
      rw [target?]
      exact Stop.bind _ latter
  | element position earlier later =>
      obtain ⟨eachDepth, eachStops⟩ := evaluateEach_stops later reached ends
      exact ⟨eachDepth, Stop.bind _ (eachStops eachDepth (Nat.le_refl _))⟩
  | index position base =>
      obtain ⟨identity, elements, baseEnds⟩ := reached
      obtain ⟨baseDepth, baseSettled⟩ := baseEnds.at_depth
      have former := baseSettled (max depth baseDepth) (by omega)
      have latter := settled (max depth baseDepth) (by omega)
      exact ⟨_, (Evaluation.bind_of_value before _ former).trans (Stop.bind _ latter)⟩
  | _ =>
      cases reached
      exact ⟨depth, Stop.bind _ stops⟩

theorem path_stops {path : List Slot} (reached : PathReaches scope path before now)
    (ends : node.Ends scope now stop.outcome after) :
    (path.foldr Slot.fill node).Ends scope before stop.outcome after := by
  induction reached with
  | nil store => exact ends
  | cons first rest ih => exact Slot.fill_stops first (ih ends)

/-- What stops an operand stops all that it stands in, in the same way and with the same store,
whatever stands behind the operand. -/
theorem stop_unwinds {path : List Slot} (reached : PathReaches scope path before now)
    (ends : node.Ends scope now stop.outcome after) (outcome : Outcome Value) (final : Store) :
    (path.foldr Slot.fill node).Ends scope before outcome final ↔
      outcome = stop.outcome ∧ final = after := by
  have stops := path_stops reached ends
  constructor
  · exact fun ended => ended.unique stops
  · rintro ⟨rfl, rfl⟩
    exact stops

theorem stop_unwinds_argument :
    let store := (Store.initial.addRoot .default).2
    let printing : Node := .call .start (.identifier .start "puts") [.string .start "a"]
    let path : List Slot := [.binding .start "x",
      .argument .start (.identifier .start "push") [.array .start []] [.identifier .start "y"],
      .right .start "+" printing]
    let node : Node := .returnStatement .start (.integer .start 3)
    let after := (store.addArray []).2.write .standard ["a\n"]
    PathReaches 0 path store after ∧ node.Ends 0 after (.returning none (.integer 3)) after ∧
    (path.foldr Slot.fill node).Ends 0 store (.returning none (.integer 3)) after := by
  intro store printing path node after
  have reached : PathReaches 0 path store after := by
    have callee : (Node.identifier .start "push").Ends 0 store
        (.value (.builtin 4 "push" .push)) store := ⟨nofun, 0, rfl⟩
    have earlier : (Node.array .start []).Ends 0 store (.value (.array 6 []))
        (store.addArray []).2 := ⟨nofun, 0, rfl⟩
    have left : printing.Ends 0 (store.addArray []).2 (.value .unit) after := ⟨nofun, 0, rfl⟩
    exact .cons rfl (.cons ⟨_, _, callee, rfl, .cons earlier (.nil _)⟩
      (.cons ⟨_, left⟩ (.nil after)))
  have ends : node.Ends 0 after (Stop.returning none (.integer 3)).outcome after :=
    ⟨nofun, 0, rfl⟩
  exact ⟨reached, ends, (stop_unwinds reached ends _ _).mpr ⟨rfl, rfl⟩⟩

end Unwinding

end MonkeyLang
