import Mathlib.Data.Nat.Fib.Basic
import MonkeyLang.Proofs.Arithmetic
import MonkeyLang.Proofs.Visibility

/-! A recursive function and what it computes. The function finds itself by the name it is bound to
later, calls itself twice, and leaves early out of a conditional; every call has a parameter of its
own. What it comes to are the Fibonacci numbers, reduced to 64 bits. -/

namespace MonkeyLang

namespace Store

/-- All that is new are scopes and the log: nothing is written, and no scope that was there before
has changed. -/
structure Spares (before after : Store) : Prop where
  layered : after.Layered
  size : before.scopes.size ≤ after.scopes.size
  scopes : ∀ id < before.scopes.size, after.scopes[id]? = before.scopes[id]?
  writes : after.writes = before.writes

variable {before after last : Store}

theorem Spares.trans (former : before.Spares after) (latter : after.Spares last) :
    before.Spares last where
  layered := latter.layered
  size := Nat.le_trans former.size latter.size
  scopes := by
    intro id below
    rw [latter.scopes id (Nat.lt_of_lt_of_le below former.size), former.scopes id below]
  writes := latter.writes.trans former.writes

theorem spares_enterCall (layered : before.Layered) {closure : Closure}
    (present : closure.scope < before.scopes.size) (arguments : List Value) :
    before.Spares (before.enterCall closure arguments).2 where
  layered := by
    have logged : (before.logCall closure arguments).Layered := layered
    apply logged.addScope
    rintro _ ⟨⟩
    exact present
  size := by simp [enterCall, addChild, addScope, logCall, record]
  scopes := by
    intro id below
    have old : id ≠ (before.logCall closure arguments).scopes.size := Nat.ne_of_lt below
    rw [enterCall, addChild, getElem?_addScope_eq, if_neg old]
    rfl
  writes := rfl

theorem binding?_enterCall (store : Store) (closure : Closure) (arguments : List Value)
    (name : String) :
    (store.enterCall closure arguments).2.binding? (store.enterCall closure arguments).1 name =
      (bindParameters .empty closure.parameters arguments).find? name := by
  rw [enterCall, addChild, binding?, getElem?_addScope_self]
  rfl

end Store

theorem gives_name {invoke : Invoke} {scope : ScopeId} {store : Store} {name : String}
    {number : Int} (position : Position)
    (found : store.lookup scope name = some (.integer number)) :
    Node.Gives invoke scope store (.identifier position name) number :=
  resolve_of_lookup scope position name store found

namespace Evaluation

theorem arrive_of_value {body : Evaluation Value} {store after : Store} {result : Value}
    (ends : body store = (.value result, after)) : arrive body store = (.value result, after) := by
  simp only [arrive, ends]

theorem arrive_of_returning {body : Evaluation Value} {store after : Store}
    {origin : Option Identity} {result : Value}
    (ends : body store = (.returning origin result, after)) :
    arrive body store = (.ofValue result, after) := by
  simp only [arrive, ends]

end Evaluation

namespace Fibonacci

def recur (less : Int) : Node :=
  .call .start (.identifier .start "fib")
    [.binary .start "-" (.identifier .start "n") (.integer .start less)]

def guard : Node :=
  .conditional .start (.binary .start "<" (.identifier .start "n") (.integer .start 2))
    (.block .start [.returnStatement .start (.identifier .start "n")]) .missing

def body : Node :=
  .block .start [.expressionStatement .start guard,
    .expressionStatement .start (.binary .start "+" (recur 1) (recur 2))]

/-- The program
`let fib = fn(n) { if (n < 2) { return n } fib(n - 1) + fib(n - 2) }; fib(number)`. -/
def program (number : Int) : Node :=
  .program .start [.letStatement .start "fib" (.function .start ["n"] body),
    .expressionStatement .start (.call .start (.identifier .start "fib") [.integer .start number])]

def function (root : ScopeId) : Closure := ⟨["n"], body, root⟩

def value (number : Int) : Int := if number < 2 then number else wrap (Nat.fib number.toNat)

theorem value_modEq {number : Int} (positive : 0 ≤ number) :
    value number ≡ Nat.fib number.toNat [ZMOD 2 ^ 64] := by
  by_cases small : number < 2
  · have cases : number = 0 ∨ number = 1 := by omega
    rcases cases with rfl | rfl <;> exact .refl _
  · rw [value, if_neg small]
    exact wrap_modEq _

theorem value_step {number : Int} (large : 2 ≤ number) :
    wrap (value (number - 1) + value (number - 2)) = value number := by
  obtain ⟨count, rfl⟩ : ∃ count : Nat, number = count + 2 := ⟨(number - 2).toNat, by omega⟩
  have former : value (count + 2 - 1) ≡ Nat.fib (count + 1) [ZMOD 2 ^ 64] := by
    have same : (count + 2 - 1 : Int) = (count + 1 : Nat) := by omega
    rw [same]
    exact value_modEq (Int.natCast_nonneg _)
  have latter : value (count + 2 - 2) ≡ Nat.fib count [ZMOD 2 ^ 64] := by
    rw [Int.add_sub_cancel]
    exact value_modEq (Int.natCast_nonneg _)
  have beyond : ¬(count + 2 : Int) < 2 := by omega
  rw [value.eq_def (count + 2), if_neg beyond, eq_wrap_iff]
  refine ⟨inWord_wrap _, (wrap_modEq _).trans ?_⟩
  have sum : ((Nat.fib (count + 2) : Nat) : Int) = Nat.fib (count + 1) + Nat.fib count := by
    rw [Nat.fib_add_two]
    push_cast
    ring
  have index : (count + 2 : Int).toNat = count + 2 := by omega
  rw [index, sum]
  exact former.add latter

structure Bound (identity : Identity) (root : ScopeId) (store : Store) : Prop where
  layered : store.Layered
  present : root < store.scopes.size
  found : store.lookup root "fib" = some (.function identity (function root))

structure Entered (identity : Identity) (root : ScopeId) (number : Int) (scope : ScopeId)
    (store : Store) : Prop extends Bound identity root store where
  here : scope < store.scopes.size
  parameter : store.lookup scope "n" = some (.integer number)
  itself : store.lookup scope "fib" = some (.function identity (function root))

variable {identity : Identity} {root scope : ScopeId} {number : Int} {store after : Store}
  {depth : Nat}

theorem Bound.spared (bound : Bound identity root store) (spares : store.Spares after) :
    Bound identity root after where
  layered := spares.layered
  present := Nat.lt_of_lt_of_le bound.present spares.size
  found := by
    rw [Store.lookup_of_kept bound.layered bound.present spares.scopes]
    exact bound.found

theorem Entered.spared (entered : Entered identity root number scope store)
    (spares : store.Spares after) : Entered identity root number scope after where
  toBound := entered.toBound.spared spares
  here := Nat.lt_of_lt_of_le entered.here spares.size
  parameter := by
    rw [Store.lookup_of_kept entered.layered entered.here spares.scopes]
    exact entered.parameter
  itself := by
    rw [Store.lookup_of_kept entered.layered entered.here spares.scopes]
    exact entered.itself

def Computes (identity : Identity) (root : ScopeId) (depth : Nat) (number : Int) : Prop :=
  ∀ store position caller, Bound identity root store →
    ∃ after, invokeWithin depth (.function (function root)) [.integer number] position caller
      store = (.value (.integer (value number)), after) ∧ store.Spares after

theorem Bound.enters (bound : Bound identity root store) (number : Int) :
    let entered := store.enterCall (function root) [.integer number]
    store.Spares entered.2 ∧ Entered identity root number entered.1 entered.2 := by
  intro entered
  have spares : store.Spares entered.2 :=
    Store.spares_enterCall bound.layered bound.present _
  refine ⟨spares, bound.spared spares, ?_, ?_, ?_⟩
  · simp [entered, Store.enterCall, Store.addChild, Store.addScope]
  · rw [Store.lookup_step spares.layered, Store.binding?_enterCall]
    rfl
  · have other : "fib" ∉ (function root).parameters := by simp [function]
    rw [Store.lookup_enterCall bound.layered bound.present _ other]
    exact bound.found

theorem wrap_sub {less : Int} (large : 2 ≤ number) (fits : number ≤ 2 ^ 63 - 1) (least : 0 ≤ less)
    (most : less ≤ 2) : wrap (number - less) = number - less := by
  apply wrap_of_bounds <;> rw [wordSpan_eq] <;> omega

theorem Entered.evaluate_recur (entered : Entered identity root number scope store) {less : Int}
    (exact : wrap (number - less) = number - less)
    (computes : Computes identity root depth (number - less)) :
    ∃ after, (recur less).evaluate (invokeWithin depth) scope store =
      (.value (.integer (value (number - less))), after) ∧ store.Spares after := by
  obtain ⟨after, calls, spares⟩ := computes store .start scope entered.toBound
  have argument : Node.Gives (invokeWithin depth) scope store
      (.binary .start "-" (.identifier .start "n") (.integer .start less)) (number - less) := by
    apply gives_operation "-" .start (gives_name .start entered.parameter) (gives_literal .start less)
    have applied : applyToIntegers "-" .start number less =
        .ok (.integer (wrap (number - less))) := rfl
    rw [applied, exact]
  have arguments : evaluateEach (invokeWithin depth) scope
      [.binary .start "-" (.identifier .start "n") (.integer .start less)] store =
        (.value [.integer (number - less)], store) := Evaluation.bind_of_value store _ argument
  refine ⟨after, ?_, spares⟩
  have callee := resolve_of_lookup scope .start "fib" store entered.itself
  exact (Evaluation.bind_of_value store _ callee).trans
    ((Evaluation.bind_of_value store _ arguments).trans calls)

theorem Entered.evaluate_guard (entered : Entered identity root number scope store)
    (invoke : Invoke) : guard.evaluate invoke scope store =
      if number < 2 then (.returning none (.integer number), store) else (.value .null, store) := by
  have given : Node.Gives invoke scope store (.identifier .start "n") number :=
    gives_name .start entered.parameter
  have compared : (Node.binary .start "<" (.identifier .start "n") (.integer .start 2)).evaluate
      invoke scope store = (.value (.boolean (number < 2)), store) :=
    Evaluation.bind_of_value store _ given
  refine (Evaluation.bind_of_value store _ compared).trans ?_
  by_cases small : number < 2
  · have returned : (Node.returnStatement .start (.identifier .start "n")).evaluate invoke scope
        store = (.returning none (.integer number), store) :=
      Evaluation.bind_of_value store _ given
    simp only [small, decide_true, Value.isTruthy, if_true]
    exact Evaluation.bind_of_returning store _ returned
  · simp [small, Value.isTruthy, Node.isMissing]

theorem Entered.evaluate_body_small (entered : Entered identity root number scope store)
    (small : number < 2) (invoke : Invoke) :
    body.evaluate invoke scope store = (.returning none (.integer number), store) := by
  have guards := entered.evaluate_guard invoke
  rw [if_pos small] at guards
  exact Evaluation.bind_of_returning store _ guards

theorem Entered.evaluate_body_large (entered : Entered identity root number scope store)
    (large : 2 ≤ number) (fits : number ≤ 2 ^ 63 - 1)
    (former : Computes identity root depth (number - 1))
    (latter : Computes identity root depth (number - 2)) :
    ∃ after, body.evaluate (invokeWithin depth) scope store =
      (.value (.integer (value number)), after) ∧ store.Spares after := by
  have guards := entered.evaluate_guard (invokeWithin depth)
  rw [if_neg (by omega)] at guards
  obtain ⟨middle, first, sparesFirst⟩ := entered.evaluate_recur
    (wrap_sub large fits (by decide) (by decide)) former
  obtain ⟨after, second, sparesSecond⟩ := (entered.spared sparesFirst).evaluate_recur
    (wrap_sub large fits (by decide) (by decide)) latter
  have sum : (Node.binary .start "+" (recur 1) (recur 2)).evaluate (invokeWithin depth) scope
      store = (.value (.integer (value number)), after) := by
    rw [← value_step large]
    exact (Evaluation.bind_of_value store _ first).trans (Evaluation.bind_of_value middle _ second)
  refine ⟨after, ?_, sparesFirst.trans sparesSecond⟩
  exact (Evaluation.bind_of_value store _ guards).trans (Evaluation.bind_of_value store _ sum)

-- The induction is on how deep calls may be nested, for all numbers that this is enough for: both calls
-- in the body are for smaller numbers, and the second starts from the store that the first one left.
theorem computes (depth : Nat) {number : Int} (enough : number.toNat < depth)
    (fits : number ≤ 2 ^ 63 - 1) : Computes identity root depth number := by
  induction depth generalizing number with
  | zero => exact (Nat.not_lt_zero _ enough).elim
  | succ depth ih =>
      intro store position caller bound
      obtain ⟨spares, entered⟩ := bound.enters number
      have accepted : ¬store.Refuses (function root) [.integer number] := fun refused =>
        refused.1 rfl
      rw [call_of_accepted _ _ position caller store depth accepted]
      by_cases small : number < 2
      · refine ⟨_, ?_, spares⟩
        have ends := entered.evaluate_body_small small (invokeWithin depth)
        rw [value, if_pos small]
        exact Evaluation.arrive_of_returning ends
      · obtain ⟨after, ends, sparesBody⟩ := entered.evaluate_body_large (by omega) fits
          (ih (by omega) (by omega)) (ih (by omega) (by omega))
        exact ⟨after, Evaluation.arrive_of_value ends, spares.trans sparesBody⟩

def define (store : Store) (scope : ScopeId) : Store :=
  (store.addFunction (function scope)).2.assign scope "fib" (store.addFunction (function scope)).1

theorem evaluate_define (invoke : Invoke) (scope : ScopeId) (store : Store) :
    (Node.letStatement .start "fib" (.function .start ["n"] body)).evaluate invoke scope store =
      (.value (store.addFunction (function scope)).1, define store scope) := by
  have made : (Node.function .start ["n"] body).evaluate invoke scope store =
      (.value (store.addFunction (function scope)).1, (store.addFunction (function scope)).2) := rfl
  exact (Evaluation.bind_of_value store _ made).trans (bindName_of_plain scope .start "fib" _ rfl)

theorem bound_define (layered : store.Layered) (present : scope < store.scopes.size) :
    Bound store.nextIdentity scope (define store scope) := by
  have made : (store.addFunction (function scope)).2.Layered := layered
  have there : scope < (store.addFunction (function scope)).2.scopes.size := present
  refine ⟨made.assign scope "fib" _, ?_, ?_⟩
  · simpa [define, Store.assign] using there
  · exact Store.lookup_assign_of_looksAt made _ there (Store.looksAt_self made scope "fib")

theorem evaluate_program (layered : store.Layered) (present : scope < store.scopes.size)
    (fits : number ≤ 2 ^ 63 - 1) :
    ∃ depth after, (program number).evaluate (invokeWithin depth) scope store =
      (.value (.integer (value number)), after) ∧ (define store scope).Spares after := by
  have bound := bound_define layered present
  let invoke := invokeWithin (number.toNat + 1)
  obtain ⟨after, calls, spares⟩ :=
    computes (number.toNat + 1) (Nat.lt_succ_self _) fits _ .start scope bound
  have callee := resolve_of_lookup scope .start "fib" _ bound.found
  have called : (Node.call .start (.identifier .start "fib") [.integer .start number]).evaluate
      invoke scope (define store scope) = (.value (.integer (value number)), after) :=
    (Evaluation.bind_of_value _ _ callee).trans calls
  have statements : evaluateSequence invoke scope .null
      [.letStatement .start "fib" (.function .start ["n"] body),
        .expressionStatement .start (.call .start (.identifier .start "fib")
          [.integer .start number])] store = (.value (.integer (value number)), after) :=
    (Evaluation.bind_of_value store _ (evaluate_define invoke scope store)).trans
      (Evaluation.bind_of_value _ _ called)
  refine ⟨number.toNat + 1, after, ?_, spares⟩
  simp only [program, Node.evaluate, Evaluation.conclude, invoke] at statements ⊢
  rw [statements]

theorem fresh_of_openSession {setting : Option String} {explicit : Option Settings} {opened : Store}
    (opens : store.openSession setting explicit = (.ok scope, opened)) :
    ∃ settings, opened.scopes[scope]? = some ⟨none, .empty, settings⟩ := by
  simp only [Store.openSession] at opens
  split at opens
  · cases opens
  · cases opens
    exact ⟨_, Store.getElem?_addScope_self _ _⟩

theorem locals_define {settings : SettingsId}
    (fresh : store.scopes[scope]? = some ⟨none, .empty, settings⟩) :
    (define store scope).locals scope =
      [("fib", .function store.nextIdentity (function scope))] := by
  have made : (store.addFunction (function scope)).2.scopes[scope]? =
      some ⟨none, .empty, settings⟩ := fresh
  rw [Store.locals, define, Store.getElem?_assign_same "fib" _ made]
  simp [Dictionary.sorted, Dictionary.insert, Dictionary.insertEntry, Dictionary.empty,
    Store.addFunction, Store.freshIdentity]

/-- In a new session of any settings, the recursive program ends for every number up to `2 ^ 63 - 1`
and computes its Fibonacci number, reduced. -/
theorem fibonacci_computed {host : Host} (reached : host.Reached) {setting : Option String}
    {explicit : Option Settings} {scope : ScopeId} {opened : Store}
    (opens : host.store.openSession setting explicit = (.ok scope, opened)) {number : Int}
    (fits : number ≤ 2 ^ 63 - 1) :
    ∃ result after identity,
      (program number).EndsAsUnit scope opened (.value (.integer result)) after ∧
      (number < 2 → result = number) ∧
      (2 ≤ number → InWord result ∧ result ≡ Nat.fib number.toNat [ZMOD 2 ^ 64]) ∧
      after.writes = opened.writes ∧
      after.locals scope = [("fib", .function identity (function scope))] := by
  have intact := (reached.step (.openSession setting explicit)).intact
  rw [opens] at intact
  obtain ⟨settings, fresh⟩ := fresh_of_openSession opens
  have present : scope < opened.scopes.size := (Array.getElem?_eq_some_iff.mp fresh).1
  obtain ⟨depth, after, ends, spares⟩ := evaluate_program intact.store.parents present fits
  refine ⟨value number, after, opened.nextIdentity, ⟨nofun, depth, ?_⟩, ?_, ?_, spares.writes, ?_⟩
  · simp only [evaluateUnit, recordFailure, intact.loadStock, Evaluation.arrive_of_value ends]
  · exact fun small => if_pos small
  · intro large
    rw [value, if_neg (by omega)]
    exact ⟨inWord_wrap _, wrap_modEq _⟩
  · have kept := spares.scopes scope (bound_define intact.store.parents present).present
    rw [Store.locals, kept, ← Store.locals]
    exact locals_define fresh

theorem fibonacci_computed_beyond :
    let store := (Store.initial.openSession none (some ⟨.lenient, .standard⟩)).2
    Host.initial.Reached ∧
    Store.initial.openSession none (some ⟨.lenient, .standard⟩) = (.ok 0, store) ∧
    (93 : Int) ≤ 2 ^ 63 - 1 ∧ Nat.fib 93 = 12200160415121876738 ∧
    ∃ after identity,
      (program 93).EndsAsUnit 0 store (.value (.integer (-6246583658587674878))) after ∧
      after.writes = store.writes ∧
      after.locals 0 = [("fib", .function identity (function 0))] := by
  intro store
  have opens : Store.initial.openSession none (some ⟨.lenient, .standard⟩) = (.ok 0, store) := rfl
  have number : Nat.fib 93 = 12200160415121876738 := by decide +kernel
  obtain ⟨result, after, identity, ends, _, large, writes, locals⟩ :=
    fibonacci_computed .initial opens (by decide : (93 : Int) ≤ 2 ^ 63 - 1)
  obtain ⟨inWord, congruent⟩ := large (by decide)
  have reduced : result = -6246583658587674878 := by
    have index : (93 : Int).toNat = 93 := rfl
    rw [index, number] at congruent
    simp only [InWord, Int.ModEq] at inWord congruent
    omega
  rw [reduced] at ends
  exact ⟨.initial, opens, by decide, number, after, identity, ends, writes, locals⟩

end Fibonacci

end MonkeyLang
