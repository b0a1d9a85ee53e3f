import MonkeyLang.Proofs.Frame
import MonkeyLang.Proofs.LogIndependence

/-! How a function gets its arguments. Either the call is refused because of their number, before
anything but the log has changed, or the body runs in a scope of its own in which every parameter
has a value. -/

namespace MonkeyLang

namespace Dictionary

variable {α : Type} {dictionary : Dictionary α} {name : String} {value : α}

def Distinct (dictionary : Dictionary α) : Prop := (dictionary.entries.map (·.1)).Nodup

theorem distinct_empty : (empty : Dictionary α).Distinct := List.nodup_nil

theorem Distinct.insert (distinct : dictionary.Distinct) (name : String) (value : α) :
    (dictionary.insert name value).Distinct := by
  obtain ⟨entries⟩ := dictionary
  simp only [Distinct, Dictionary.insert] at distinct ⊢
  induction entries with
  | nil => simp [insertEntry]
  | cons entry rest ih =>
      obtain ⟨absent, distinctRest⟩ := List.nodup_cons.mp distinct
      by_cases here : entry.1 = name
      · simpa [insertEntry, here] using distinct
      · simp only [insertEntry, here, if_false, List.map_cons]
        refine List.nodup_cons.mpr ⟨?_, ih distinctRest⟩
        intro member
        obtain ⟨other, inserted, same⟩ := List.mem_map.mp member
        rcases mem_insertEntry inserted with new | old
        · exact here (by rw [← same, new])
        · exact absent (List.mem_map.mpr ⟨other, old, same⟩)

theorem Distinct.mem_iff (distinct : dictionary.Distinct) :
    (name, value) ∈ dictionary.entries ↔ dictionary.find? name = some value := by
  obtain ⟨entries⟩ := dictionary
  simp only [Distinct, find?] at distinct ⊢
  induction entries with
  | nil => simp
  | cons entry rest ih =>
      obtain ⟨absent, distinctRest⟩ := List.nodup_cons.mp distinct
      by_cases here : entry.1 = name
      · have alone : (name, value) ∉ rest := fun member =>
          absent (List.mem_map.mpr ⟨_, member, here.symm⟩)
        simp [alone, here, Prod.ext_iff, eq_comm]
      · have other : (name, value) ≠ entry := fun same => here (by rw [← same])
        simpa [List.find?_cons, here, other] using ih distinctRest

end Dictionary

def LastAt (parameters : List String) (name : String) (index : Nat) : Prop :=
  parameters[index]? = some name ∧ ∀ later, index < later → parameters[later]? ≠ some name

section Loop

variable {parameter name : String} {parameters : List String}

theorem lastAt_cons_zero :
    LastAt (parameter :: parameters) name 0 ↔ parameter = name ∧ name ∉ parameters := by
  have absent : (∀ later, 0 < later → (parameter :: parameters)[later]? ≠ some name) ↔
      name ∉ parameters := by
    rw [List.mem_iff_getElem?]
    constructor
    · rintro others ⟨index, found⟩
      exact others (index + 1) (by omega) (by simpa using found)
    · intro missing later positive found
      obtain ⟨index, rfl⟩ : ∃ index, later = index + 1 := ⟨later - 1, by omega⟩
      exact missing ⟨index, by simpa using found⟩
  simp [LastAt, absent]

theorem lastAt_cons_succ {index : Nat} :
    LastAt (parameter :: parameters) name (index + 1) ↔ LastAt parameters name index := by
  simp only [LastAt, List.getElem?_cons_succ]
  refine and_congr_right fun _ => ⟨?_, ?_⟩
  · intro others later greater
    simpa using others (later + 1) (by omega)
  · intro others later greater
    obtain ⟨before, rfl⟩ : ∃ before, later = before + 1 := ⟨later - 1, by omega⟩
    simpa using others before (by omega)

theorem find?_bindParameters (bound : Dictionary Value) (parameters : List String)
    (arguments : List Value) (name : String) (value : Value) :
    (bindParameters bound parameters arguments).find? name = some value ↔
      (∃ index, LastAt parameters name index ∧ value = arguments.getD index .null) ∨
        name ∉ parameters ∧ bound.find? name = some value := by
  induction parameters generalizing bound arguments with
  | nil => simp [bindParameters, LastAt]
  | cons parameter rest ih =>
      have first : arguments.getD 0 .null = arguments.headD .null := by
        cases arguments <;> rfl
      have others (index : Nat) :
          arguments.getD (index + 1) .null = arguments.tail.getD index .null := by
        cases arguments <;> rfl
      rw [bindParameters, ih, Dictionary.find?_insert]
      constructor
      · rintro (⟨index, last, same⟩ | ⟨absent, found⟩)
        · exact Or.inl ⟨index + 1, lastAt_cons_succ.mpr last, by rw [others, same]⟩
        · by_cases here : parameter = name
          · rw [if_pos here] at found
            refine Or.inl ⟨0, lastAt_cons_zero.mpr ⟨here, absent⟩, ?_⟩
            rw [first, Option.some.inj found]
          · rw [if_neg here] at found
            exact Or.inr ⟨by simp [Ne.symm here, absent], found⟩
      · rintro (⟨index, last, same⟩ | ⟨absent, found⟩)
        · cases index with
          | zero =>
              obtain ⟨here, absent⟩ := lastAt_cons_zero.mp last
              exact Or.inr ⟨absent, by rw [if_pos here, same, first]⟩
          | succ index =>
              exact Or.inl ⟨index, lastAt_cons_succ.mp last, by rw [same, others]⟩
        · have different : parameter ≠ name := fun here => absent (by simp [here])
          have absentRest : name ∉ rest := fun member => absent (by simp [member])
          exact Or.inr ⟨absentRest, by rw [if_neg different, found]⟩

theorem bindParameters_distinct {bound : Dictionary Value} (distinct : bound.Distinct)
    (parameters : List String) (arguments : List Value) :
    (bindParameters bound parameters arguments).Distinct := by
  induction parameters generalizing bound arguments with
  | nil => exact distinct
  | cons parameter rest ih => exact ih (distinct.insert _ _) arguments.tail

/-- The arguments cut or filled up with nulls so that there are `count` of them. -/
def fitted (count : Nat) (arguments : List Value) : List Value :=
  (arguments.take count).rightpad count .null

theorem length_fitted (count : Nat) (arguments : List Value) :
    (fitted count arguments).length = count := by
  simp only [fitted, List.rightpad, List.length_append, List.length_take, List.length_replicate]
  omega

theorem bindParameters_fitted (bound : Dictionary Value) (parameters : List String)
    (arguments : List Value) :
    bindParameters bound parameters (fitted parameters.length arguments) =
      bindParameters bound parameters arguments := by
  induction parameters generalizing bound arguments with
  | nil => rfl
  | cons parameter rest ih =>
      have first : (fitted (rest.length + 1) arguments).headD .null = arguments.headD .null := by
        cases arguments <;> rfl
      have others : (fitted (rest.length + 1) arguments).tail =
          fitted rest.length arguments.tail := by
        cases arguments <;> simp [fitted, List.rightpad]
      rw [bindParameters, List.length_cons, first, others, ih, ← bindParameters]

end Loop

/-- The last of several parameters of one name counts, and one beyond the arguments is null. -/
structure Scope.Receives (made : Scope) (closure : Closure) (arguments : List Value) : Prop where
  parent : made.parent = some closure.scope
  distinct : made.bindings.Distinct
  bound : ∀ name value, (name, value) ∈ made.bindings.entries ↔
    ∃ index, LastAt closure.parameters name index ∧ value = arguments.getD index .null

theorem receives_bindParameters (closure : Closure) (arguments : List Value)
    (settings : SettingsId) :
    Scope.Receives ⟨some closure.scope, bindParameters .empty closure.parameters arguments, settings⟩
      closure arguments where
  parent := rfl
  distinct := bindParameters_distinct Dictionary.distinct_empty _ _
  bound := by
    intro name value
    rw [(bindParameters_distinct Dictionary.distinct_empty _ _).mem_iff, find?_bindParameters]
    simp [Dictionary.find?_empty]

section Calls

variable (closure : Closure) (arguments : List Value) (position : Position) (caller : ScopeId)
  (store : Store) (depth : Nat)

theorem call_of_refused (refused : store.Refuses closure arguments) :
    invokeWithin (depth + 1) (.function closure) arguments position caller store =
      (.failed (.error ⟨.functionArity closure.parameters.length arguments.length, position⟩),
        store.logCall closure arguments) :=
  Evaluation.bind_of_failed store _ (enter_of_refused closure arguments position store refused)

theorem call_of_accepted (accepted : ¬store.Refuses closure arguments) :
    invokeWithin (depth + 1) (.function closure) arguments position caller store =
      Evaluation.arrive
        (closure.body.evaluate (invokeWithin depth) (store.enterCall closure arguments).1)
        (store.enterCall closure arguments).2 :=
  Evaluation.bind_of_value store _ (enter_of_accepted closure arguments position store accepted)

theorem size_of_accepted (accepted : ¬store.Refuses closure arguments) :
    store.scopes.size < (invokeWithin (depth + 1) (.function closure) arguments position caller
      store).2.scopes.size := by
  rw [call_of_accepted closure arguments position caller store depth accepted,
    Evaluation.arrive_eq_review]
  have made : (store.enterCall closure arguments).2.scopes.size = store.scopes.size + 1 := by
    simp [Store.enterCall, Store.addChild, Store.addScope, Store.logCall, Store.record]
  have kept := (evaluate_framed depth closure.body (store.enterCall closure arguments).1
    (store.enterCall closure arguments).2).size
  simp only [Evaluation.review]
  omega

theorem call_fitted (lenient : (store.settingsOf closure.scope).policy = .lenient) :
    ∃ (outcome : Outcome Value) (after : Store) (lines : Array LogLine),
      invokeWithin (depth + 1) (.function closure) arguments position caller store =
        (outcome, after.withLog (store.log.push
          (.calling closure.parameters.length arguments.length .lenient) ++ lines)) ∧
      invokeWithin (depth + 1) (.function closure) (fitted closure.parameters.length arguments)
          position caller store =
        (outcome, after.withLog (store.log.push
          (.calling closure.parameters.length closure.parameters.length .lenient) ++ lines)) := by
  have accepted (items : List Value) : ¬store.Refuses closure items := by
    rintro ⟨_, strict⟩
    rw [lenient] at strict
    cases strict
  let started := store.addChild closure.scope
    (bindParameters .empty closure.parameters arguments)
  have entered (items : List Value) (same : bindParameters .empty closure.parameters items =
      bindParameters .empty closure.parameters arguments) :
      store.enterCall closure items = (started.1, started.2.withLog
        (store.log.push (.calling closure.parameters.length items.length .lenient))) := by
    rw [Store.enterCall, Store.logCall, lenient, same]
    rfl
  obtain ⟨outcome, after, lines, ends⟩ :=
    (evaluate_ignoresLog (invokeWithin_ignoresLog depth) closure.body started.1).arrive started.2
  refine ⟨outcome, after, lines, ?_, ?_⟩
  · rw [call_of_accepted closure arguments position caller store depth (accepted _),
      entered arguments rfl]
    exact ends _
  · rw [call_of_accepted closure _ position caller store depth (accepted _),
      entered _ (bindParameters_fitted _ _ _), length_fitted]
    exact ends _

end Calls

/-- A call is refused if and only if it has the wrong number of arguments and the policy is strict
where the function was made; otherwise its body runs in one new scope. -/
theorem call_binds_parameters (closure : Closure) (arguments : List Value) (position : Position)
    (caller : ScopeId) (store : Store) (depth : Nat) :
    let expected := closure.parameters.length
    let policy := (store.settingsOf closure.scope).policy
    let called := LogLine.calling expected arguments.length policy
    (invokeWithin (depth + 1) (.function closure) arguments position caller store =
        (.failed (.error ⟨.functionArity expected arguments.length, position⟩),
          store.record called) ↔
      expected ≠ arguments.length ∧ policy = .strict) ∧
    (¬(expected ≠ arguments.length ∧ policy = .strict) →
      ∃ made : Scope, made.Receives closure arguments ∧
        invokeWithin (depth + 1) (.function closure) arguments position caller store =
          Evaluation.arrive (closure.body.evaluate (invokeWithin depth) store.scopes.size)
            { store with scopes := store.scopes.push made, log := store.log.push called }) ∧
    (policy = .lenient → ∃ (outcome : Outcome Value) (after : Store) (lines : Array LogLine),
      invokeWithin (depth + 1) (.function closure) arguments position caller store =
        (outcome, after.withLog (store.log.push (.calling expected arguments.length .lenient) ++
          lines)) ∧
      invokeWithin (depth + 1) (.function closure) (fitted expected arguments) position caller
          store =
        (outcome, after.withLog (store.log.push (.calling expected expected .lenient) ++
          lines))) := by
  intro expected policy called
  have refuses_iff : store.Refuses closure arguments ↔
      expected ≠ arguments.length ∧ policy = .strict :=
    and_congr_left' ne_comm
  refine ⟨⟨?_, ?_⟩, ?_, ?_⟩
  · intro refused
    by_cases mismatch : expected ≠ arguments.length ∧ policy = .strict
    · exact mismatch
    · have grown := size_of_accepted closure arguments position caller store depth
        (mt refuses_iff.mp mismatch)
      rw [refused] at grown
      exact (Nat.lt_irrefl _ grown).elim
  · intro mismatch
    exact call_of_refused closure arguments position caller store depth (refuses_iff.mpr mismatch)
  · intro fits
    exact ⟨_, receives_bindParameters closure arguments _,
      call_of_accepted closure arguments position caller store depth (mt refuses_iff.mp fits)⟩
  · exact call_fitted closure arguments position caller store depth

theorem call_binds_parameters_repeated :
    let strict := (Store.initial.addRoot .default).2
    let lenient := (Store.initial.addRoot ⟨.lenient, .standard⟩).2
    let closure : Closure := ⟨["x", "x"], .identifier .start "x", 0⟩
    let refusal : Failure := .error ⟨.functionArity 2 1, .start⟩
    invokeWithin 1 (.function closure) [.integer 1] .start 0 strict =
      (.failed refusal, strict.record (.calling 2 1 .strict)) ∧
    (∃ made : Scope, made.Receives closure [.integer 1] ∧
      invokeWithin 1 (.function closure) [.integer 1] .start 0 lenient =
        Evaluation.arrive (closure.body.evaluate (invokeWithin 0) 1) { lenient with
          scopes := lenient.scopes.push made
          log := lenient.log.push (.calling 2 1 .lenient) }) ∧
    (invokeWithin 1 (.function closure) [.integer 1] .start 0 lenient).1 = .value .null ∧
    (invokeWithin 1 (.function closure) (fitted 2 [.integer 1]) .start 0 lenient).1 =
      .value .null := by
  intro strict lenient closure refusal
  have refused := call_binds_parameters closure [.integer 1] .start 0 strict 0
  have accepted := call_binds_parameters closure [.integer 1] .start 0 lenient 0
  have null : (invokeWithin 1 (.function closure) [.integer 1] .start 0 lenient).1 =
      .value .null := rfl
  obtain ⟨outcome, after, lines, short, full⟩ := accepted.2.2 rfl
  refine ⟨refused.1.mpr ⟨by decide, rfl⟩, accepted.2.1 ?_, null, ?_⟩
  · exact fun mismatch => nomatch mismatch.2
  · rw [short] at null
    exact (congrArg Prod.fst full).trans null

end MonkeyLang
