import MonkeyLang.Proofs.Operation
import MonkeyLang.Proofs.Primitive

/-! Building texts. A sum that starts with a string joins what its summands look like, one after the
other, until null absorbs it; and printing values writes what each of them looks like. -/

namespace MonkeyLang

open Value

/-- The sum of a tree and the summands, from left to right. -/
def Node.sum (first : Node) : List (Position × Node) → Node
  | [] => first
  | summand :: rest => Node.sum (.binary summand.1 "+" first summand.2) rest

section Addition

variable {value : Value}

theorem applyBinary_add_null (position : Position) {left right : Value}
    (null : EitherOf .null left right) : applyBinary "+" position left right = .ok .null :=
  (arithmeticOutcome position (by simp) left right).absorbed.mpr null

theorem applyBinary_add_string (position : Position) (text : String) (proper : value ≠ .null) :
    applyBinary "+" position (.string text) value = .ok (.string (text ++ value.inspect)) := by
  have plain : ¬EitherOf .null (.string text) value := by
    rintro (null | null)
    · cases null
    · cases value <;> first | exact proper rfl | cases null
  exact (arithmeticOutcome position (by simp) _ value).joined plain rfl (Or.inl rfl)

end Addition

section Sums

variable {invoke : Invoke} {scope : ScopeId} {start store after : Store} {base : Node}
  {summands : List (Position × Node)} {values : List Value}

theorem evaluateEach_cons {node : Node} {nodes : List Node}
    (ends : evaluateEach invoke scope (node :: nodes) store = (.value values, after)) :
    ∃ value middle rest, values = value :: rest ∧
      node.evaluate invoke scope store = (.value value, middle) ∧
      evaluateEach invoke scope nodes middle = (.value rest, after) := by
  rw [evaluateEach] at ends
  obtain ⟨value, middle, here, further⟩ := Evaluation.exists_of_bind_value store ends
  obtain ⟨rest, last, others, joined⟩ := Evaluation.exists_of_bind_value middle further
  cases joined
  exact ⟨value, middle, rest, rfl, here, others⟩

theorem evaluate_add {left right : Node} {first second result : Value} {middle : Store}
    (position : Position) (former : left.evaluate invoke scope start = (.value first, middle))
    (latter : right.evaluate invoke scope middle = (.value second, after))
    (applied : applyBinary "+" position first second = .ok result) :
    (Node.binary position "+" left right).evaluate invoke scope start =
      (.ofValue result, after) := by
  rw [Node.evaluate, Evaluation.bind_of_value start _ former,
    Evaluation.bind_of_value middle _ latter, applied, Evaluation.ofExcept_ok]

theorem evaluate_sum_null (ended : base.evaluate invoke scope start = (.value .null, store))
    (ends : evaluateEach invoke scope (summands.map (·.2)) store = (.value values, after)) :
    (base.sum summands).evaluate invoke scope start = (.value .null, after) := by
  induction summands generalizing base store values with
  | nil =>
      cases ends
      exact ended
  | cons summand rest ih =>
      obtain ⟨value, middle, others, rfl, here, further⟩ := evaluateEach_cons ends
      have absorbed : applyBinary "+" summand.1 .null value = .ok .null :=
        applyBinary_add_null summand.1 (Or.inl rfl)
      exact ih (evaluate_add summand.1 ended here absorbed) further

theorem evaluate_sum_string {text : String}
    (ended : base.evaluate invoke scope start = (.value (.string text), store))
    (ends : evaluateEach invoke scope (summands.map (·.2)) store = (.value values, after)) :
    (.null ∈ values → (base.sum summands).evaluate invoke scope start = (.value .null, after)) ∧
    (.null ∉ values → (base.sum summands).evaluate invoke scope start =
      (.value (.string (text ++ String.join (values.map Value.inspect))), after)) := by
  induction summands generalizing base store text values with
  | nil =>
      cases ends
      simpa [Node.sum] using ended
  | cons summand rest ih =>
      rw [Node.sum]
      obtain ⟨value, middle, others, rfl, here, further⟩ := evaluateEach_cons ends
      by_cases null : value = .null
      · subst null
        have absorbed : applyBinary "+" summand.1 (.string text) .null = .ok .null :=
          applyBinary_add_null summand.1 (Or.inr rfl)
        refine ⟨fun _ => evaluate_sum_null (evaluate_add summand.1 ended here absorbed) further, ?_⟩
        exact fun absent => (absent (by simp)).elim
      · have joined := applyBinary_add_string summand.1 text null
        have inner := ih (evaluate_add summand.1 ended here joined) further
        refine ⟨fun member => inner.1 ?_, fun absent => ?_⟩
        · exact (List.mem_cons.mp member).resolve_left (Ne.symm null)
        · have whole := inner.2 fun member => absent (by simp [member])
          rwa [List.map_cons, String.join_cons, ← String.append_assoc]

end Sums

theorem puts_writes (depth : Nat) (name : String) (values : List Value) (position : Position)
    (caller : ScopeId) (store : Store) :
    invokeWithin depth (.builtin name .puts) values position caller store =
      (.value .unit, store.write (store.settingsOf caller).sink
        (values.map fun value => value.inspect ++ "\n")) := by
  rw [invokeWithin_builtin]
  exact call_of_plain rfl (Evaluation.bind_of_value store _ (Evaluation.update_apply store _))

/-- Values added to a string become their texts, unless one is null, and then so is the sum. -/
theorem texts_built (text : String) (place : Position) {summands : List (Position × Node)}
    {values : List Value} {depth : Nat} {scope : ScopeId} {store after : Store}
    (ends : evaluateEach (invokeWithin depth) scope (summands.map (·.2)) store =
      (.value values, after)) :
    (.null ∈ values →
      ((Node.string place text).sum summands).evaluate (invokeWithin depth) scope store =
        (.value .null, after)) ∧
    (.null ∉ values →
      ((Node.string place text).sum summands).evaluate (invokeWithin depth) scope store =
        (.value (.string (text ++ String.join (values.map Value.inspect))), after)) ∧
    ∀ (name : String) (position : Position) (caller : ScopeId) (now : Store),
      ∃ lines : List Write, lines.length = values.length ∧
        (∀ (index : Nat) (value : Value), values[index]? = some value →
          lines[index]? = some ⟨(now.settingsOf caller).sink, value.inspect ++ "\n"⟩) ∧
        invokeWithin depth (.builtin name .puts) values position caller now =
          (.value .unit, { now with writes := now.writes ++ lines }) := by
  have literal : (Node.string place text).evaluate (invokeWithin depth) scope store =
      (.value (.string text), store) := rfl
  obtain ⟨absorbed, joined⟩ := evaluate_sum_string literal ends
  refine ⟨absorbed, joined, fun name position caller now => ?_⟩
  rw [puts_writes]
  refine ⟨_, by simp, fun index value found => ?_, rfl⟩
  simp [found]

theorem texts_built_mixed :
    ((Node.string .start "n = ").sum [(.start, .integer .start 7),
      (.start, .array .start [.string .start "a", .null .start])]).evaluate
        (invokeWithin 0) 0 .empty =
      (.value (.string "n = 7[a, null]"), { Store.empty with nextIdentity := 1 }) := by
  have ends : evaluateEach (invokeWithin 0) 0
      [.integer .start 7, .array .start [.string .start "a", .null .start]] .empty =
        (.value [.integer 7, .array 0 [.string "a", .null]],
          { Store.empty with nextIdentity := 1 }) := rfl
  have joined : "n = " ++ String.join
      ([.integer 7, .array 0 [.string "a", .null]].map Value.inspect) = "n = 7[a, null]" := by
    decide
  rw [← joined]
  exact (texts_built "n = " .start ends).2.1 (by simp)

end MonkeyLang
