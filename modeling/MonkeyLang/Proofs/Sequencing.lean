import MonkeyLang.Proofs.Frame
import MonkeyLang.Proofs.LogIndependence
import MonkeyLang.Proofs.Unwinding

/-! Statements in sequence. A sequence may be cut in two anywhere, a block among the statements may be
replaced by its own statements, and a program may be run in parts, as long as the last part is not
empty: the value of a sequence is that of its last statement. -/

namespace MonkeyLang

namespace Evaluation

variable {α β γ : Type}

theorem bind_assoc (first : Evaluation α) (next : α → Evaluation β) (last : β → Evaluation γ) :
    first >>= next >>= last = first >>= fun result => next result >>= last := by
  funext store
  simp only [bind_apply, andThen]
  generalize first store = ends
  obtain ⟨outcome, middle⟩ := ends
  cases outcome <;> rfl

end Evaluation

section Sequences

variable (invoke : Invoke) (scope : ScopeId)

theorem evaluateSequence_append (last : Value) (former latter : List Node) :
    evaluateSequence invoke scope last (former ++ latter) =
      evaluateSequence invoke scope last former >>= fun result =>
        evaluateSequence invoke scope result latter := by
  induction former generalizing last with
  | nil => rfl
  | cons statement rest ih =>
      simp only [List.cons_append, evaluateSequence, Evaluation.bind_assoc, ih]

theorem evaluateSequence_of_ne_nil {statements : List Node} (nonempty : statements ≠ [])
    (last other : Value) :
    evaluateSequence invoke scope last statements =
      evaluateSequence invoke scope other statements := by
  cases statements with
  | nil => exact (nonempty rfl).elim
  | cons statement rest => rfl

theorem evaluateSequence_append_null {latter : List Node} (nonempty : latter ≠ []) (last : Value)
    (former : List Node) :
    evaluateSequence invoke scope last (former ++ latter) =
      evaluateSequence invoke scope last former >>= fun _ =>
        evaluateSequence invoke scope .null latter := by
  rw [evaluateSequence_append]
  congr 1
  funext result
  exact evaluateSequence_of_ne_nil invoke scope nonempty result .null

theorem evaluateSequence_block {inner after : List Node} (nonempty : inner ≠ [] ∨ after ≠ [])
    (position : Position) (last : Value) (before : List Node) :
    evaluateSequence invoke scope last (before ++ [.block position inner] ++ after) =
      evaluateSequence invoke scope last (before ++ inner ++ after) := by
  rw [List.append_assoc, List.append_assoc, evaluateSequence_append, evaluateSequence_append]
  congr 1
  funext result
  calc evaluateSequence invoke scope result ([.block position inner] ++ after)
      = evaluateSequence invoke scope .null inner >>= fun value =>
          evaluateSequence invoke scope value after := rfl
    _ = evaluateSequence invoke scope result inner >>= fun value =>
          evaluateSequence invoke scope value after := by
        rcases nonempty with filled | filled
        · rw [evaluateSequence_of_ne_nil invoke scope filled .null result]
        · cases inner with
          | nil => exact evaluateSequence_of_ne_nil invoke scope filled .null result
          | cons statement rest => rfl
    _ = evaluateSequence invoke scope result (inner ++ after) :=
        (evaluateSequence_append invoke scope result inner after).symm

end Sequences

section Ends

variable {node other : Node} {scope : ScopeId}

theorem Node.ends_congr
    (same : ∀ invoke : Invoke, node.evaluate invoke scope = other.evaluate invoke scope)
    (before : Store) (outcome : Outcome Value) (after : Store) :
    node.Ends scope before outcome after ↔ other.Ends scope before outcome after := by
  simp only [Node.Ends, same]

theorem Node.ends_of_bind {first second : Node}
    (composed : ∀ invoke : Invoke, node.evaluate invoke scope =
      first.evaluate invoke scope >>= fun _ => second.evaluate invoke scope)
    (before : Store) (outcome : Outcome Value) (after : Store) :
    node.Ends scope before outcome after ↔
      (∃ stop : Stop, outcome = stop.outcome ∧ first.Ends scope before stop.outcome after) ∨
      ∃ value middle, first.Ends scope before (.value value) middle ∧
        second.Ends scope middle outcome after := by
  constructor
  · rintro ⟨finished, depth, ends⟩
    rw [composed] at ends
    rcases firstEnds : first.evaluate (invokeWithin depth) scope before with ⟨former, middle⟩
    cases former with
    | value value =>
        rw [Evaluation.bind_of_value before _ firstEnds] at ends
        exact Or.inr ⟨value, middle, ⟨nofun, depth, firstEnds⟩, finished, depth, ends⟩
    | returning origin result =>
        rw [Evaluation.bind_of_returning before _ firstEnds] at ends
        obtain ⟨rfl, rfl⟩ := Prod.mk.inj ends
        exact Or.inl ⟨.returning origin result, rfl, nofun, depth, firstEnds⟩
    | failed failure =>
        rw [Evaluation.bind_of_failed before _ firstEnds] at ends
        obtain ⟨rfl, rfl⟩ := Prod.mk.inj ends
        exact Or.inl ⟨.failed failure, rfl, nofun, depth, firstEnds⟩
    | exhausted =>
        rw [Evaluation.bind_of_exhausted before _ firstEnds] at ends
        exact (finished (Prod.mk.inj ends).1.symm).elim
  · rintro (⟨stop, rfl, firstEnds⟩ | ⟨value, middle, firstEnds, secondEnds⟩)
    · obtain ⟨finished, depth, stopped⟩ := firstEnds
      refine ⟨finished, depth, ?_⟩
      rw [composed]
      exact Stop.bind _ stopped
    · obtain ⟨depth, settled⟩ := firstEnds.at_depth
      obtain ⟨secondDepth, secondSettled⟩ := secondEnds.at_depth
      refine ⟨secondEnds.1, max depth secondDepth, ?_⟩
      rw [composed, Evaluation.bind_of_value before _ (settled _ (by omega))]
      exact secondSettled _ (by omega)

end Ends

/-- Run as two units, a program gives the same answer and leaves all but the log the same. -/
structure RunsInParts (scope : ScopeId) (store : Store) (former latter : List Node)
    (first second whole : Position) (value : Value) (middle : Store) : Prop where
  begins : (Node.program first former).EndsAsUnit scope store (.value value) middle
  goesOn : ∀ outcome rest,
    (∃ after, (Node.program second latter).EndsAsUnit scope middle outcome after ∧
      after.withLog #[] = rest) ↔
    ∃ after, (Node.program whole (former ++ latter)).EndsAsUnit scope store outcome after ∧
      after.withLog #[] = rest
  stays : ∀ outcome after,
    (Node.program whole (former ++ latter)).EndsAsUnit scope store outcome after →
    middle.Extends after ∧ middle.Framed scope (Node.program whole latter).Binds after

structure Sequences (scope : ScopeId) (store : Store) (former latter rest : List Node)
    (first second whole : Position) : Prop where
  cut : latter ≠ [] → ∀ outcome after,
    (Node.block whole (former ++ latter)).Ends scope store outcome after ↔
      (∃ stop : Stop, outcome = stop.outcome ∧
        (Node.block first former).Ends scope store stop.outcome after) ∨
      ∃ value middle, (Node.block first former).Ends scope store (.value value) middle ∧
        (Node.block second latter).Ends scope middle outcome after
  inBlock : latter ≠ [] ∨ rest ≠ [] → ∀ outcome after,
    (Node.block first (former ++ [.block second latter] ++ rest)).Ends scope store outcome after ↔
      (Node.block whole (former ++ latter ++ rest)).Ends scope store outcome after
  inProgram : latter ≠ [] ∨ rest ≠ [] → ∀ outcome after,
    (Node.program first (former ++ [.block second latter] ++ rest)).Ends scope store outcome
        after ↔
      (Node.program whole (former ++ latter ++ rest)).Ends scope store outcome after
  inUnits : latter ≠ [] → ∀ value middle,
    (Node.block first former).Ends scope store.loadStock (.value value) middle →
    RunsInParts scope store former latter first second whole value middle

section Units

variable {scope : ScopeId} {store middle : Store} {value : Value}

theorem stockLoaded_of_ends {node : Node} {before after : Store} {outcome : Outcome Value}
    (loaded : before.stockLoaded = true) (ends : node.Ends scope before outcome after) :
    after.stockLoaded = true := by
  obtain ⟨_, depth, same⟩ := ends
  have grown := ((frame before scope node.Binds).evaluate_ended depth
    (before.framed_refl scope node.Binds) fun _ binds => Or.inr ⟨rfl, binds⟩).1
  rw [same] at grown
  exact grown.stockLoaded.trans loaded

theorem recordFailure_alike (node other : Node) (body : Evaluation Value) (store : Store) :
    (recordFailure node body store).1 = (recordFailure other body store).1 ∧
      (recordFailure node body store).2.withLog #[] =
        (recordFailure other body store).2.withLog #[] := by
  simp only [recordFailure]
  split <;> exact ⟨rfl, rfl⟩

theorem evaluateUnit_append {depth : Nat} {former latter : List Node} (nonempty : latter ≠ [])
    (position : Position) (loaded : middle.stockLoaded = true)
    (ends : evaluateSequence (invokeWithin depth) scope .null former store.loadStock =
      (.value value, middle)) :
    evaluateUnit depth (.program position (former ++ latter)) scope store =
      evaluateUnit depth (.program position latter) scope middle := by
  have same : (Node.program position (former ++ latter)).evaluate (invokeWithin depth) scope
      store.loadStock =
      (Node.program position latter).evaluate (invokeWithin depth) scope middle := by
    simp only [Node.evaluate, Evaluation.conclude]
    rw [evaluateSequence_append_null _ _ nonempty, Evaluation.bind_of_value _ _ ends]
  simp only [evaluateUnit, Store.loadStock_of_loaded loaded, recordFailure, Evaluation.arrive, same]
  rfl

theorem endsAsUnit_of_alike {node other : Node} {before twin rest : Store} {depth : Nat}
    {outcome : Outcome Value}
    (alike : ∀ deeper, depth ≤ deeper →
      (evaluateUnit deeper node scope before).1 = (evaluateUnit deeper other scope twin).1 ∧
      (evaluateUnit deeper node scope before).2.withLog #[] =
        (evaluateUnit deeper other scope twin).2.withLog #[])
    (ends : ∃ after, node.EndsAsUnit scope before outcome after ∧ after.withLog #[] = rest) :
    ∃ after, other.EndsAsUnit scope twin outcome after ∧ after.withLog #[] = rest := by
  obtain ⟨after, ⟨finished, reached, same⟩, rfl⟩ := ends
  have settled := evaluateUnit_settles (Nat.le_max_right depth reached) node scope before
    (by rwa [same])
  obtain ⟨outcomes, stores⟩ := alike (max depth reached) (Nat.le_max_left depth reached)
  rw [settled, same] at outcomes stores
  exact ⟨(evaluateUnit (max depth reached) other scope twin).2,
    ⟨finished, max depth reached, Prod.ext outcomes.symm rfl⟩, stores.symm⟩

theorem evaluateUnit_alike (depth : Nat) (statements : List Node) (position other : Position)
    (scope : ScopeId) (store : Store) :
    (evaluateUnit depth (.program position statements) scope store).1 =
      (evaluateUnit depth (.program other statements) scope store).1 ∧
    (evaluateUnit depth (.program position statements) scope store).2.withLog #[] =
      (evaluateUnit depth (.program other statements) scope store).2.withLog #[] :=
  recordFailure_alike _ _ _ _

theorem program_in_parts {former latter : List Node} (nonempty : latter ≠ [])
    (first second whole : Position)
    (ends : (Node.block first former).Ends scope store.loadStock (.value value) middle) :
    RunsInParts scope store former latter first second whole value middle := by
  have loaded := stockLoaded_of_ends store.stockLoaded_loadStock ends
  obtain ⟨depth, settled⟩ := ends.at_depth
  have joined (deeper : Nat) (enough : depth ≤ deeper) :
      evaluateUnit deeper (.program whole (former ++ latter)) scope store =
        evaluateUnit deeper (.program whole latter) scope middle :=
    evaluateUnit_append nonempty whole loaded (settled deeper enough)
  have alike (deeper : Nat) (enough : depth ≤ deeper) :
      (evaluateUnit deeper (.program second latter) scope middle).1 =
        (evaluateUnit deeper (.program whole (former ++ latter)) scope store).1 ∧
      (evaluateUnit deeper (.program second latter) scope middle).2.withLog #[] =
        (evaluateUnit deeper (.program whole (former ++ latter)) scope store).2.withLog #[] := by
    rw [joined deeper enough]
    exact evaluateUnit_alike deeper latter second whole scope middle
  refine ⟨⟨nofun, depth, ?_⟩, fun outcome rest => ⟨?_, ?_⟩, ?_⟩
  · have sequence : evaluateSequence (invokeWithin depth) scope .null former store.loadStock =
        (.value value, middle) := settled depth (Nat.le_refl _)
    simp only [evaluateUnit, recordFailure, Evaluation.arrive, Node.evaluate, Evaluation.conclude,
      sequence]
  · exact endsAsUnit_of_alike alike
  · exact endsAsUnit_of_alike fun deeper enough =>
      ⟨(alike deeper enough).1.symm, (alike deeper enough).2.symm⟩
  · rintro outcome after ⟨finished, reached, same⟩
    have deeper := evaluateUnit_settles (Nat.le_max_right depth reached)
      (.program whole (former ++ latter)) scope store (by rwa [same])
    rw [joined _ (Nat.le_max_left depth reached), same] at deeper
    have framed := evaluateUnit_framed loaded (max depth reached) (.program whole latter) scope
    rwa [deeper] at framed

end Units

/-- A block can be cut in two, a block among statements can be opened, and a program can be run in
two units. -/
theorem sequencing_laws (scope : ScopeId) (store : Store) (former latter rest : List Node)
    (first second whole : Position) :
    Sequences scope store former latter rest first second whole := by
  refine ⟨fun nonempty => ?_, fun nonempty => ?_, fun nonempty => ?_, fun nonempty _ _ ends => ?_⟩
  · refine Node.ends_of_bind ?_ store
    exact fun invoke => evaluateSequence_append_null invoke scope nonempty .null former
  · refine Node.ends_congr ?_ store
    exact fun invoke => evaluateSequence_block invoke scope nonempty second .null former
  · refine Node.ends_congr ?_ store
    exact fun invoke => congrArg Evaluation.conclude
      (evaluateSequence_block invoke scope nonempty second .null former)
  · exact program_in_parts nonempty first second whole ends

theorem sequencing_laws_failing :
    let store := (Store.initial.addRoot .default).2
    let binding : Node := .letStatement .start "x" (.integer .start 1)
    let failing : Node := .identifier ⟨some 2, some 1⟩ "y"
    let middle := store.assign 0 "x" (.integer 1)
    let error : Failure := .error ⟨.undeclared "y", ⟨some 2, some 1⟩⟩
    (Node.block .start [binding]).Ends 0 store (.value (.integer 1)) middle ∧
    (Node.block .start [failing]).Ends 0 middle (.failed error) middle ∧
    (Node.block .start [binding, failing]).Ends 0 store (.failed error) middle ∧
    (Node.program .start [binding, .block .start [failing]]).Ends 0 store (.failed error) middle ∧
    ∃ after, (Node.program .start [binding, failing]).EndsAsUnit 0 store (.failed error) after ∧
      middle.Extends after := by
  intro store binding failing middle error
  have bound : (Node.block .start [binding]).Ends 0 store (.value (.integer 1)) middle :=
    ⟨nofun, 0, rfl⟩
  have fails : (Node.block .start [failing]).Ends 0 middle (.failed error) middle :=
    ⟨nofun, 0, rfl⟩
  have plain : (Node.program .start [binding, failing]).Ends 0 store (.failed error) middle :=
    ⟨nofun, 0, rfl⟩
  have laws := sequencing_laws 0 store [binding] [failing] [] .start .start .start
  have parts := laws.inUnits nofun _ _ bound
  obtain ⟨after, ends, _⟩ := (parts.goesOn (.failed error) (middle.withLog #[])).mp
    ⟨_, ⟨nofun, 0, rfl⟩, rfl⟩
  exact ⟨bound, fails, (laws.cut nofun _ _).mpr (Or.inr ⟨_, _, bound, fails⟩),
    (laws.inProgram (Or.inl nofun) _ _).mpr plain, after, ends, (parts.stays _ _ ends).1⟩

end MonkeyLang
