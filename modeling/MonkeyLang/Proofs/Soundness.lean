import MonkeyLang.Proofs.Discipline

/-! Trees that a parser can make never run into a fault. Whatever such trees do wrong is an error of
the program, provided that the functions they meet have such bodies too and that no builtin was
added to those that are always there. -/

namespace MonkeyLang

def Node.isGrammatical : Node → Bool
  | .missing => false
  | .unary _ operator _ => ["!", "-"].contains operator
  | .binary _ operator _ _ => ["+", "-", "*", "/", "==", "!=", "<", ">"].contains operator
  | _ => true

/-- No tree is missing anywhere, and all operators are known, in bodies of functions as well. -/
def Node.WellFormed (node : Node) : Prop :=
  ∀ part, HasPart (fun _ => true) node part → part.isGrammatical = true

theorem Node.wellFormed_iff {node : Node} :
    node.WellFormed ↔ node.isGrammatical = true ∧ ∀ child ∈ node.children, child.WellFormed := by
  rw [Node.WellFormed, forall_hasPart]
  exact and_congr_right fun _ => ⟨fun below => below rfl, fun below _ => below⟩

def Value.SoundPart : Value → Prop
  | .pendingReturn _ _ => False
  | .function _ closure => closure.body.WellFormed
  | .builtin _ _ action => action.isStock = true
  | _ => True

/-- No return under way is stored, the bodies of stored functions are well-formed, and registered
and stored builtins are those that are always there. -/
def Store.Sound (store : Store) : Prop := store.Every Value.SoundPart

theorem ofSymbol?_unary {operator : String} (known : ["!", "-"].contains operator = true) :
    UnaryOperator.ofSymbol? operator ≠ none := by
  simp only [List.contains_cons, List.contains_nil, Bool.or_false, Bool.or_eq_true,
    beq_iff_eq] at known
  rcases known with same | same
  all_goals
    rw [same]
    decide

theorem ofSymbol?_binary {operator : String}
    (known : ["+", "-", "*", "/", "==", "!=", "<", ">"].contains operator = true) :
    BinaryOperator.ofSymbol? operator ≠ none := by
  simp only [List.contains_cons, List.contains_nil, Bool.or_false, Bool.or_eq_true,
    beq_iff_eq] at known
  rcases known with same | same | same | same | same | same | same | same
  all_goals
    rw [same]
    decide

theorem handed_soundPart {arguments : List Value} {value : Value} (handed : value.Handed arguments)
    (sound : ∀ argument ∈ arguments, argument.Every Value.SoundPart) : value.SoundPart := by
  cases handed with
  | null => exact trivial
  | argument member => exact (sound value member).part
  | element outer inner => exact (Value.everyOf_iff.mp (sound _ outer).2 value inner).part

theorem stock_call_ne_fault {action : Action Value} (stock : action.isStock = true) {name : String}
    {position : Position} {arguments : List Value} {settings : Settings} {store after : Store}
    {fault : Fault} (sound : ∀ argument ∈ arguments, argument.Every Value.SoundPart) :
    action.call name position arguments settings store ≠ (.failed (.fault fault), after) := by
  intro called
  have effect := action.call_effect name position arguments settings store
  rw [called] at effect
  cases effect with
  | refused source pending =>
      rename_i value
      rcases source with handed | constant
      · have part := handed_soundPart handed sound
        cases value <;> simp_all [Value.isPending, Value.SoundPart]
      · simp [constant, Action.isStock] at stock
  | foreign typeName source => simp [source, Action.isStock] at stock

theorem raises_error {node : Node} (wellFormed : node.WellFormed) {failure : Failure}
    (raised : node.Raises (Value.Every Value.SoundPart) failure) :
    ∃ error, failure = .error error := by
  have grammatical := wellFormed node (.self node)
  cases failure with
  | error error => exact ⟨error, rfl⟩
  | fault fault =>
      exfalso
      cases raised with
      | missing => cases grammatical
      | nestedReturn pending => exact pending.1
      | unary allowed applied =>
          rename_i position operator operand value
          exact (applied ▸ applyUnary_applied operator position value).not_fault
            (ofSymbol?_unary grammatical)
      | binary allowedLeft allowedRight applied =>
          rename_i position operator left right leftValue rightValue
          exact (applied ▸ applyBinary_applied operator position leftValue rightValue).not_fault
            (ofSymbol?_binary grammatical)
      | element given allowedElements allowed applied => exact elementAt_ne_fault applied
      | builtin allowed allowedArguments called =>
          exact stock_call_ne_fault allowed.part allowedArguments called

def soundness : Discipline where
  part := Value.SoundPart
  tree := Node.WellFormed
  failure := fun failure => ∃ error, failure = .error error
  child := fun wellFormed _ member => (Node.wellFormed_iff.mp wellFormed).2 _ member
  computed := fun computed => by cases computed <;> exact trivial
  unit := trivial
  number := fun _ => trivial
  counted := fun _ _ => trivial
  array := fun _ _ => trivial
  function := fun _ _ wellFormed =>
    (Node.wellFormed_iff.mp wellFormed).2 _ (List.mem_singleton.mpr rfl)
  body := fun wellFormed => wellFormed
  raised := fun wellFormed raised => raises_error wellFormed raised
  refused := fun _ _ _ => ⟨_, rfl⟩

def Outcome.Faultless : Outcome Value → Prop
  | .value _ | .returning _ _ | .failed (.error _) | .exhausted => True
  | .failed (.fault _) => False

theorem sound_of_ended {returns : Prop} {ends : Outcome Value × Store}
    (ended : soundness.contract.Ended soundness.contract.value returns ends) :
    ends.1.Faultless ∧ ends.2.Sound := by
  obtain ⟨outcome, after⟩ := ends
  cases outcome with
  | value result => exact ⟨trivial, ended.1⟩
  | returning origin result => exact ⟨trivial, (Contract.Ended.returning ended).1⟩
  | failed failure =>
      obtain ⟨sound, error, same⟩ := ended
      subst same
      exact ⟨trivial, sound⟩
  | exhausted => exact ⟨trivial, ended⟩

/-- Over a sound store, a well-formed tree ends with a result or an error of the program, and never
in a fault. -/
theorem evaluate_never_faults {store : Store} (sound : store.Sound) {node : Node}
    (wellFormed : node.WellFormed) (depth : Nat) (scope : ScopeId) :
    ((node.evaluate (invokeWithin depth) scope store).1.Faultless ∧
      (node.evaluate (invokeWithin depth) scope store).2.Sound) ∧
    (evaluateUnit depth node scope store).1.Faultless ∧
      (evaluateUnit depth node scope store).2.Sound := by
  have tree : soundness.contract.tree store scope node := wellFormed
  refine ⟨sound_of_ended (soundness.contract.evaluate_ended depth sound tree).2, ?_⟩
  exact sound_of_ended (soundness.unit_ended sound (fun _ _ _ stock => stock) wellFormed depth scope)

theorem evaluate_never_faults_division :
    let body : Node := .binary .start "/" (.integer .start 1) (.identifier .start "x")
    let store := (Store.initial.addRoot .default).2.assign 0 "f" (.function 6 ⟨["x"], body, 0⟩)
    let node : Node := .call .start (.identifier .start "f") [.integer .start 0]
    store.Sound ∧ node.WellFormed ∧
    (evaluateUnit 1 node 0 store).1 = .failed (.error ⟨.divisionByZero, .start⟩) ∧
    (evaluateUnit 1 node 0 store).1.Faultless ∧ (evaluateUnit 1 node 0 store).2.Sound := by
  intro body store node
  have number (value : Int) : (Node.integer .start value).WellFormed :=
    Node.wellFormed_iff.mpr ⟨rfl, by simp [Node.children]⟩
  have name (name : String) : (Node.identifier .start name).WellFormed :=
    Node.wellFormed_iff.mpr ⟨rfl, by simp [Node.children]⟩
  have bodyFormed : body.WellFormed :=
    Node.wellFormed_iff.mpr ⟨by decide, by simp [body, Node.children, number, name]⟩
  have root : (Store.initial.addRoot .default).2.Sound :=
    (Store.every_initial fun _ _ _ stock => stock).addRoot _
  have sound : store.Sound := root.assign bodyFormed
  have wellFormed : node.WellFormed :=
    Node.wellFormed_iff.mpr ⟨rfl, by simp [node, Node.children, number, name]⟩
  exact ⟨sound, wellFormed, rfl, (evaluate_never_faults sound wellFormed 1 0).2⟩

end MonkeyLang
