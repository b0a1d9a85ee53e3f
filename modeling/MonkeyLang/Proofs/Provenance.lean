import MonkeyLang.Proofs.Depth
import MonkeyLang.Proofs.Discipline

/-! Every error is reported at a tree that can be blamed for it: one of the program, or of a function
that was stored before the program ran, and one of the sort that the kind of the error speaks of. -/

namespace MonkeyLang

def Node.Occurs (part node : Node) : Prop := node.HasPart (fun _ => true) part

theorem Node.Occurs.of_child {part child node : Node} (member : child ∈ node.children)
    (occurs : part.Occurs child) : part.Occurs node := .inside rfl member occurs

theorem Node.forall_occurs {node : Node} {good : Node → Prop} :
    (∀ part, part.Occurs node → good part) ↔
      good node ∧ ∀ child ∈ node.children, ∀ part, part.Occurs child → good part := by
  refine Node.forall_hasPart.trans ?_
  simp only [Node.Occurs, forall_const]

/-- The trees of a program, and those of the functions that the store has at the start. -/
def Store.HasCode (store : Store) (program part : Node) : Prop :=
  part.Occurs program ∨
    ∃ identity closure, store.Stores (.function identity closure) ∧ part.Occurs closure.body

/-- What a tree has to be for an error of a kind to be reported there. For an index expression of
the `code` it is one of its two operands. -/
inductive Node.Answers (code : Node → Prop) : Node → ErrorKind → String → Prop
  | undeclared (position : Position) (name : String) :
      Answers code (.identifier position name) .undeclared ("Variable " ++ name ++ " is not declared")
  | unitBinding (position : Position) (name : String) (value : Node) (message : String) :
      Answers code (.letStatement position name value) .unitBinding message
  | notCallable (position : Position) (callee : Node) (arguments : List Node) (message : String) :
      Answers code (.call position callee arguments) .notCallable message
  | arity (position : Position) (callee : Node) (arguments : List Node) (message : String) :
      Answers code (.call position callee arguments) .arity message
  | divisionByZero (position : Position) (left right : Node) (message : String) :
      Answers code (.binary position "/" left right) .divisionByZero message
  | nullOperand {operator : String} (position : Position) (left right : Node) (message : String) :
      operator ∉ ["+", "-", "*", "/", "==", "!="] →
      Answers code (.binary position operator left right) .nullOperand message
  | unsupportedIndex {position : Position} {base index : Node} (message : String) :
      code (.index position base index) → Answers code base .unsupportedIndex message
  | indexRange {position : Position} {base index : Node} (message : String) :
      code (.index position base index) → Answers code index .indexRange message
  | negated (position : Position) (operand : Node) (message : String) :
      Answers code (.unary position "-" operand) .typeMismatch message
  | operands {operator : String} (position : Position) (left right : Node) (message : String) :
      operator ∉ ["==", "!="] →
      Answers code (.binary position operator left right) .typeMismatch message
  | indexType {position : Position} {base index : Node} (message : String) :
      code (.index position base index) → Answers code index .typeMismatch message
  | argument (position : Position) (callee : Node) (arguments : List Node) (message : String) :
      Answers code (.call position callee arguments) .typeMismatch message

def EvaluationError.Blames (error : EvaluationError) (code : Node → Prop) : Prop :=
  ∃ part, code part ∧ part.isMissing = false ∧ error.position = part.position ∧
    part.Answers code error.kind error.message

section Operators

variable {operator : String} {position : Position} {error : EvaluationError}

theorem applyUnary_error {value : Value}
    (applied : applyUnary operator position value = .error (.error error)) :
    operator = "-" ∧ error = ⟨.negation value.type, position⟩ := by
  simp only [applyUnary, failAt] at applied
  split at applied
  · cases applied
  · rename_i known
    have symbol : "-" = operator := UnaryOperator.ofSymbol?_eq_some.mp known
    refine ⟨symbol.symm, ?_⟩
    split at applied
    · cases applied
    · cases applied
    · cases applied
      rfl
  · cases applied

theorem applyToIntegers_error {left right : Int}
    (applied : applyToIntegers operator position left right = .error (.error error)) :
    operator = "/" ∧ error = ⟨.divisionByZero, position⟩ := by
  simp only [applyToIntegers, failAt] at applied
  split at applied
  case h_4 =>
    rename_i known
    have symbol : "/" = operator := BinaryOperator.ofSymbol?_eq_some.mp known
    refine ⟨symbol.symm, ?_⟩
    by_cases zero : right = 0
    · simp only [zero, if_true] at applied
      cases applied
      rfl
    · simp [zero, quotient] at applied
  all_goals cases applied

theorem notEquality_of_symbol {known : Option BinaryOperator}
    (found : BinaryOperator.ofSymbol? operator = known) (equal : known ≠ some .equal)
    (notEqual : known ≠ some .notEqual) : operator ∉ ["==", "!="] := by
  intro member
  simp only [List.mem_cons, List.not_mem_nil, or_false] at member
  rcases member with same | same
  · exact equal (by rw [← found, same]; rfl)
  · exact notEqual (by rw [← found, same]; rfl)

theorem notArithmetic_of_symbol {known : Option BinaryOperator}
    (found : BinaryOperator.ofSymbol? operator = known)
    (other : known = some .less ∨ known = some .greater ∨ known = none) :
    operator ∉ ["+", "-", "*", "/", "==", "!="] := by
  intro member
  simp only [List.mem_cons, List.not_mem_nil, or_false] at member
  rcases member with same | same | same | same | same | same
  all_goals
    subst same
    rw [← found] at other
    revert other
    decide

variable {code : Node → Prop} {leftNode rightNode : Node}

theorem applyToStrings_error {left right : String}
    (applied : applyToStrings operator position left right = .error (.error error)) :
    operator ∉ ["==", "!="] ∧ error = ⟨.stringOperation operator, position⟩ := by
  simp only [applyToStrings, failAt] at applied
  split at applied
  case h_6 | h_7 | h_8 | h_9 =>
    rename_i known
    refine ⟨notEquality_of_symbol known (by simp) (by simp), ?_⟩
    cases applied
    rfl
  all_goals cases applied

theorem unsupported_answers {left right : Value}
    (applied : unsupported operator position left right = .error (.error error))
    (equality : operator ∉ ["==", "!="])
    (nulls : (left.isNull || right.isNull) = true → operator ∉ ["+", "-", "*", "/", "==", "!="]) :
    error.position = position ∧
      (Node.binary position operator leftNode rightNode).Answers code error.kind error.message := by
  simp only [unsupported, failAt] at applied
  split at applied
  · rename_i null
    cases applied
    exact ⟨rfl, .nullOperand _ _ _ _ (nulls null)⟩
  · cases applied
    exact ⟨rfl, .operands _ _ _ _ equality⟩

theorem applyToMixed_answers {left right : Value}
    (applied : applyToMixed operator position left right = .error (.error error)) :
    error.position = position ∧
      (Node.binary position operator leftNode rightNode).Answers code error.kind error.message := by
  simp only [applyToMixed] at applied
  split at applied
  case h_1 =>
    rename_i known
    split at applied
    · cases applied
    · rename_i null
      split at applied
      · cases applied
      · exact unsupported_answers applied (notEquality_of_symbol known (by simp) (by simp))
          fun absurdly => (null absurdly).elim
  case h_2 | h_3 | h_4 =>
    rename_i known
    split at applied
    · cases applied
    · rename_i null
      exact unsupported_answers applied (notEquality_of_symbol known (by simp) (by simp))
        fun absurdly => (null absurdly).elim
  case h_5 => cases applied
  case h_6 => cases applied
  case h_7 | h_8 | h_9 =>
    rename_i known
    exact unsupported_answers applied (notEquality_of_symbol known (by simp) (by simp))
      fun _ => notArithmetic_of_symbol known (by simp)

theorem applyBinary_answers {left right : Value}
    (applied : applyBinary operator position left right = .error (.error error)) :
    error.position = position ∧
      (Node.binary position operator leftNode rightNode).Answers code error.kind error.message := by
  simp only [applyBinary] at applied
  split at applied
  · obtain ⟨rfl, rfl⟩ := applyToIntegers_error applied
    exact ⟨rfl, .divisionByZero _ _ _ _⟩
  · obtain ⟨equality, rfl⟩ := applyToStrings_error applied
    exact ⟨rfl, .operands _ _ _ _ equality⟩
  · exact applyToMixed_answers applied

theorem elementAt_error {elements : List Value} {index : Value}
    (applied : elementAt elements position index = .error (.error error)) :
    error.position = position ∧ (error.kind = .indexRange ∨ error.kind = .typeMismatch) := by
  simp only [elementAt, failAt] at applied
  split at applied
  · split at applied
    · cases applied
    · cases applied
      exact ⟨rfl, Or.inl rfl⟩
  · cases applied
    exact ⟨rfl, Or.inr rfl⟩

end Operators

section Builtins

def Failure.OfArguments (position : Position) : Failure → Prop
  | .error reason => reason.position = position ∧
      (reason.kind = .arity ∨ reason.kind = .typeMismatch)
  | .fault _ => True

namespace Evaluation

variable {α β : Type} {reasons : Failure → Prop}

def FailsWith (reasons : Failure → Prop) (body : Evaluation α) : Prop :=
  ∀ store failure after, body store = (.failed failure, after) → reasons failure

theorem FailsWith.bind {first : Evaluation α} {next : α → Evaluation β}
    (former : first.FailsWith reasons) (latter : ∀ result, (next result).FailsWith reasons) :
    (first >>= next).FailsWith reasons := by
  intro store failure after ends
  rcases found : first store with ⟨outcome, middle⟩
  cases outcome with
  | value result =>
      rw [bind_of_value store _ found] at ends
      exact latter result middle failure after ends
  | returning origin result =>
      rw [bind_of_returning store _ found] at ends
      cases ends
  | failed reason =>
      rw [bind_of_failed store _ found] at ends
      cases ends
      exact former store failure after found
  | exhausted =>
      rw [bind_of_exhausted store _ found] at ends
      cases ends

theorem FailsWith.of_value {body : Evaluation α}
    (ends : ∀ store, ∃ result after, body store = (.value result, after)) :
    body.FailsWith reasons := by
  intro store failure after failed
  obtain ⟨result, later, same⟩ := ends store
  rw [same] at failed
  cases failed

theorem FailsWith.of_failAt {position : Position} {cause : Cause}
    (reason : reasons (.error ⟨cause, position⟩)) :
    (failAt position cause : Evaluation α).FailsWith reasons := by
  intro store failure after failed
  cases failed
  exact reason

end Evaluation

open Evaluation

variable {position : Position} {arguments : List Value}

theorem checkArity_failsWith (name : String) (expected : Int) (actual : Nat) :
    (checkArity name position expected actual).FailsWith (Failure.OfArguments position) := by
  by_cases fits : expected = actual
  · simp only [checkArity, fits, if_true]
    exact .of_value fun store => ⟨_, _, pure_apply store _⟩
  · simp only [checkArity, fits, if_false]
    exact .of_failAt ⟨rfl, Or.inl rfl⟩

theorem elementsOf_failsWith (name : String) (value : Value) :
    (elementsOf name position value).FailsWith (Failure.OfArguments position) := by
  cases value with
  | array identity elements => exact .of_value fun store => ⟨_, _, pure_apply store _⟩
  | _ => exact .of_failAt ⟨rfl, Or.inr rfl⟩

theorem arrayArgument_failsWith (name : String) (expected : Int) :
    (arrayArgument name position expected arguments).FailsWith (Failure.OfArguments position) :=
  (checkArity_failsWith name expected arguments.length).bind fun _ => elementsOf_failsWith name _

theorem lengthOf_failsWith (value : Value) :
    (lengthOf position value).FailsWith (Failure.OfArguments position) := by
  cases value with
  | string text => exact .of_value fun store => ⟨_, _, pure_apply store _⟩
  | array identity elements => exact .of_value fun store => ⟨_, _, pure_apply store _⟩
  | _ => exact .of_failAt ⟨rfl, Or.inr rfl⟩

theorem restOf_failsWith (elements : List Value) :
    (restOf elements).FailsWith (Failure.OfArguments position) := by
  cases elements with
  | nil => exact .of_value fun store => ⟨_, _, pure_apply store _⟩
  | cons first rest => exact .of_value fun store => ⟨_, _, make_apply store (·.addArray rest)⟩

theorem stock_perform_failsWith {action : Action Value} (stock : action.isStock = true)
    (name : String) (settings : Settings) :
    (action.perform name position arguments settings).FailsWith
      (Failure.OfArguments position) := by
  cases action with
  | len => exact (checkArity_failsWith _ _ _).bind fun _ => lengthOf_failsWith _
  | first =>
      exact (arrayArgument_failsWith _ _).bind fun _ =>
        .of_value fun store => ⟨_, _, pure_apply store _⟩
  | last =>
      exact (arrayArgument_failsWith _ _).bind fun _ =>
        .of_value fun store => ⟨_, _, pure_apply store _⟩
  | rest => exact (arrayArgument_failsWith _ _).bind restOf_failsWith
  | push =>
      exact (arrayArgument_failsWith _ _).bind fun _ =>
        .of_value fun store => ⟨_, _, make_apply store _⟩
  | puts => exact .of_value fun store => ⟨_, _, bind_of_value store _ (update_apply store _)⟩
  | _ => cases stock

theorem stock_call_failsWith {action : Action Value} (stock : action.isStock = true)
    (name : String) (settings : Settings) :
    (action.call name position arguments settings).FailsWith (Failure.OfArguments position) := by
  refine (stock_perform_failsWith stock name settings).bind fun result => ?_
  intro store failure after failed
  simp only [acceptResult] at failed
  split at failed
  · cases failed
    exact trivial
  · cases failed

end Builtins

def Value.CodePart (code : Node → Prop) : Value → Prop
  | .function _ closure => ∀ part, part.Occurs closure.body → code part
  | _ => True

def Failure.Blames (code : Node → Prop) : Failure → Prop
  | .error reason => reason.Blames code
  | .fault _ => True

section Raising

variable {code : Node → Prop} {allowed : Value → Prop}

theorem raises_blames {node : Node} (tree : ∀ part, part.Occurs node → code part)
    (stock : ∀ identity name action, allowed (.builtin identity name action) →
      action.isStock = true)
    {failure : Failure} (raised : node.Raises allowed failure) : failure.Blames code := by
  have here : code node := tree node (.self node)
  have child {part : Node} (member : part ∈ node.children) : code part :=
    tree part (.of_child member (.self part))
  cases raised with
  | missing => exact trivial
  | nestedReturn pending => exact trivial
  | undeclared position name => exact ⟨_, here, rfl, rfl, .undeclared position name⟩
  | unitBinding position name value => exact ⟨_, here, rfl, rfl, .unitBinding _ _ _ _⟩
  | unary operand applied =>
      cases failure with
      | fault fault => exact trivial
      | error error =>
          obtain ⟨rfl, rfl⟩ := applyUnary_error applied
          exact ⟨_, here, rfl, rfl, .negated _ _ _⟩
  | binary left right applied =>
      cases failure with
      | fault fault => exact trivial
      | error error =>
          obtain ⟨place, answers⟩ := applyBinary_answers applied
          exact ⟨_, here, rfl, place, answers⟩
  | base position index given value =>
      exact ⟨_, child (by simp [Node.children]), given, rfl, .unsupportedIndex _ here⟩
  | element given elements value applied =>
      cases failure with
      | fault fault => exact trivial
      | error error =>
          obtain ⟨place, range | type⟩ := elementAt_error applied
          · refine ⟨_, child (by simp [Node.children]), given, place, ?_⟩
            rw [range]
            exact .indexRange _ here
          · refine ⟨_, child (by simp [Node.children]), given, place, ?_⟩
            rw [type]
            exact .indexType _ here
  | callee position callee arguments value => exact ⟨_, here, rfl, rfl, .notCallable _ _ _ _⟩
  | builtin builtin arguments called =>
      have reason := stock_call_failsWith (stock _ _ _ builtin) _ _ _ _ _ called
      cases failure with
      | fault fault => exact trivial
      | error error =>
          obtain ⟨place, count | type⟩ := reason
          · refine ⟨_, here, rfl, place, ?_⟩
            rw [count]
            exact .arity _ _ _ _
          · refine ⟨_, here, rfl, place, ?_⟩
            rw [type]
            exact .argument _ _ _ _

end Raising

def provenance (code : Node → Prop) : Discipline where
  part := fun value => value.StockPart ∧ value.CodePart code
  tree := fun node => ∀ part, part.Occurs node → code part
  failure := Failure.Blames code
  child := fun tree _ member part occurs => tree part (occurs.of_child member)
  computed := fun computed => by cases computed <;> exact ⟨trivial, trivial⟩
  unit := ⟨trivial, trivial⟩
  number := fun _ => ⟨trivial, trivial⟩
  counted := fun _ _ => ⟨trivial, trivial⟩
  array := fun _ _ => ⟨trivial, trivial⟩
  function := fun _ _ tree =>
    ⟨trivial, fun part occurs => tree part (occurs.of_child (List.mem_singleton.mpr rfl))⟩
  body := by
    intro identity closure held
    exact held.2
  raised := fun tree raised => raises_blames tree (fun _ _ _ builtin => builtin.part.1) raised
  refused := fun _ _ tree => ⟨_, tree _ (.self _), rfl, rfl, .arity _ _ _ _⟩

theorem every_codePart (store : Store) (program : Node) :
    store.Every (Value.CodePart (store.HasCode program)) := by
  apply Store.every_of_stores
  intro value stored
  cases value with
  | function identity closure =>
      exact fun part occurs => Or.inr ⟨identity, closure, stored, occurs⟩
  | _ => exact trivial

/-- An error has the place of a tree of the program, or of a function stored before, that is of the
sort that the error demands. -/
theorem evaluate_error_blames {store : Store} (stock : store.OnlyStock) {node : Node}
    {scope : ScopeId} {error : EvaluationError} {after : Store}
    (ends : node.Ends scope store (.failed (.error error)) after) :
    error.Blames (store.HasCode node) := by
  obtain ⟨_, depth, same⟩ := ends
  have every : (provenance (store.HasCode node)).contract.store store :=
    stock.and (every_codePart store node)
  have tree : (provenance (store.HasCode node)).contract.tree store scope node :=
    fun part occurs => Or.inl occurs
  have ended := ((provenance (store.HasCode node)).contract.evaluate_ended depth every tree).2
  rw [same] at ended
  exact ended.2

theorem evaluate_error_blames_stored :
    let body : Node := .binary ⟨some 7, some 3⟩ "/" (.integer .unknown 1) (.integer .unknown 0)
    let store := (Store.initial.addRoot .default).2.assign 0 "f" (.function 6 ⟨[], body, 0⟩)
    let node : Node := .call .start (.identifier .start "f") []
    store.OnlyStock ∧
    (∃ after, node.Ends 0 store (.failed (.error ⟨.divisionByZero, ⟨some 7, some 3⟩⟩)) after) ∧
    EvaluationError.Blames ⟨.divisionByZero, ⟨some 7, some 3⟩⟩ (store.HasCode node) := by
  intro body store node
  have stock : store.OnlyStock := by
    apply Store.Every.assign
    · exact (Store.every_initial stockAllowed_stockPart).addRoot _
    · exact trivial
  have ends : node.Ends 0 store (.failed (.error ⟨.divisionByZero, ⟨some 7, some 3⟩⟩)) _ :=
    ⟨nofun, 1, rfl⟩
  exact ⟨stock, ⟨_, ends⟩, evaluate_error_blames stock ends⟩

end MonkeyLang
