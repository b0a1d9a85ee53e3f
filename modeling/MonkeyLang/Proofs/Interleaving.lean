import MonkeyLang.Proofs.Frame
import MonkeyLang.Proofs.Host
import MonkeyLang.Proofs.Independence

/-! Sessions that cannot reach each other do not interfere. However their units are interleaved, each
unit reports what it reports when the units of its own session run alone, and the session ends with
the same bindings. -/

namespace MonkeyLang

section Units

structure Shown where
  type : ValueType
  inspected : String
  debug : String

def Value.shown (value : Value) : Shown := ⟨value.type, value.inspect, value.debugText⟩

inductive Answer where
  | value (shown : Shown)
  | returning (shown : Shown)
  | failed (failure : Failure)
  | none

def Outcome.answer : Outcome Value → Answer
  | .value result => .value result.shown
  | .returning _ result => .returning result.shown
  | .failed failure => .failed failure
  | .exhausted => .none

structure Report where
  answer : Answer
  writes : List Write
  log : List LogLine

def Outcome.report (outcome : Outcome Value) (before after : Store) : Report where
  answer := outcome.answer
  writes := after.writes.toList.drop before.writes.size
  log := after.log.toList.drop before.log.size

inductive Runs : Store → List (ScopeId × Node) → List (ScopeId × Report) → Store → Prop
  | nil (store : Store) : Runs store [] [] store
  | cons {store middle after : Store} {scope : ScopeId} {node : Node} {outcome : Outcome Value}
      {units : List (ScopeId × Node)} {reports : List (ScopeId × Report)} :
      node.EndsAsUnit scope store outcome middle → Runs middle units reports after →
      Runs store ((scope, node) :: units) ((scope, outcome.report store middle) :: reports) after

/-- The units of both lists, each in their order and in the scope of their list. -/
inductive Interleaves (first second : ScopeId) :
    List Node → List Node → List (ScopeId × Node) → Prop
  | nil : Interleaves first second [] [] []
  | first {node : Node} {nodes others : List Node} {units : List (ScopeId × Node)} :
      Interleaves first second nodes others units →
      Interleaves first second (node :: nodes) others ((first, node) :: units)
  | second {node : Node} {nodes others : List Node} {units : List (ScopeId × Node)} :
      Interleaves first second nodes others units →
      Interleaves first second nodes (node :: others) ((second, node) :: units)

end Units

section Reports

theorem Value.Corresponds.shown_eq {pairs : Correspondence} {value twin : Value}
    (corresponds : value.Corresponds pairs twin) : value.shown = twin.shown := by
  obtain ⟨debug, inspected⟩ := corresponds.texts
  simp only [Value.shown, corresponds.alike.type_eq, debug, inspected]

theorem Outcome.Corresponds.answer_eq {pairs : Correspondence} {outcome twin : Outcome Value}
    (corresponds : outcome.Corresponds pairs twin) : outcome.answer = twin.answer := by
  cases corresponds with
  | value held => exact congrArg Answer.value held.shown_eq
  | returning origins held => exact congrArg Answer.returning held.shown_eq
  | failed failure => rfl

theorem SameAdditions.drop_eq {α : Type} {left after right afterTwin : Array α}
    (same : SameAdditions left after right afterTwin) :
    after.toList.drop left.size = afterTwin.toList.drop right.size := by
  obtain ⟨added, rfl, rfl⟩ := same
  simp

theorem report_eq {pairs later : Correspondence} {left right after afterTwin : Store}
    {outcome twin : Outcome Value} (reached : pairs.Reached left right later after afterTwin)
    (corresponds : outcome.Corresponds later twin) :
    outcome.report left after = twin.report right afterTwin := by
  simp only [Outcome.report, corresponds.answer_eq, reached.progress.writes.drop_eq,
    reached.progress.log.drop_eq]

end Reports

section Determinism

theorem Runs.unique {store after afterTwin : Store} {units : List (ScopeId × Node)}
    {reports twins : List (ScopeId × Report)} (run : Runs store units reports after)
    (other : Runs store units twins afterTwin) : reports = twins ∧ after = afterTwin := by
  induction run generalizing twins with
  | nil store =>
      cases other
      exact ⟨rfl, rfl⟩
  | cons ends run ih =>
      cases other with
      | cons endsTwin rest =>
          obtain ⟨rfl, rfl⟩ := ends.unique endsTwin
          obtain ⟨rfl, rfl⟩ := ih rest
          exact ⟨rfl, rfl⟩

end Determinism

section Coupled

variable {pairs : Correspondence} {left right : Store} {scope other : ScopeId}

theorem evaluateUnit_reached (matched : pairs.Matches left right)
    (paired : other ∈ pairs.scopes scope) (loaded : left.stockLoaded = true)
    (loadedTwin : right.stockLoaded = true) (depth : Nat) (node : Node) :
    ∃ later, pairs.Extends later ∧
      (pairs.coupling left right).Ended (pairs.coupling left right).Plain later
        (evaluateUnit depth node scope left) (evaluateUnit depth node other right) := by
  have reached : pairs.Reached left right pairs left right := ⟨matched, .refl pairs left right⟩
  have tree : (pairs.coupling left right).tree pairs scope other node := paired
  have evaluated := (pairs.coupling left right).evaluate_within depth reached tree
  have unit := evaluated.arrive.recordFailure node
  simp only [evaluateUnit, Store.loadStock_of_loaded loaded, Store.loadStock_of_loaded loadedTwin]
  exact unit

end Coupled

/-- One of two sessions in an interleaved run, beside the run of its own units alone. -/
structure Side (pairs : Correspondence) (own foreign : ScopeId) (alone mixed : Store) : Prop where
  matched : pairs.Matches alone mixed
  own : own ∈ pairs.scopes own
  apart : ∀ id, foreign ∉ pairs.scopes id
  present : foreign < mixed.scopes.size
  loaded : alone.stockLoaded = true
  loadedMixed : mixed.stockLoaded = true

namespace Side

variable {pairs : Correspondence} {own foreign : ScopeId} {alone mixed : Store}

theorem advance (side : Side pairs own foreign alone mixed) {node : Node}
    {outcome : Outcome Value} {after : Store} (ends : node.EndsAsUnit own alone outcome after) :
    ∃ twin afterMixed later, node.EndsAsUnit own mixed twin afterMixed ∧
      twin.report mixed afterMixed = outcome.report alone after ∧
      Side later own foreign after afterMixed := by
  obtain ⟨finished, depth, same⟩ := ends
  obtain ⟨later, grown, ended⟩ :=
    evaluateUnit_reached side.matched side.own side.loaded side.loadedMixed depth node
  have extended := (evaluateUnit_framed side.loaded depth node own).1
  have extendedMixed := (evaluateUnit_framed side.loadedMixed depth node own).1
  rcases sameMixed : evaluateUnit depth node own mixed with ⟨twin, afterMixed⟩
  rw [same, sameMixed] at ended
  rw [same] at extended
  rw [sameMixed] at extendedMixed
  obtain ⟨reached, corresponds⟩ := corresponds_of_ended finished ended
  refine ⟨twin, afterMixed, later, ⟨?_, depth, sameMixed⟩, (report_eq reached corresponds).symm, ?_⟩
  · rintro rfl
    cases corresponds
  · refine ⟨reached.matched, grown.scopes _ _ side.own, ?_, ?_, ?_, ?_⟩
    · intro id paired
      rcases reached.progress.scopes id foreign paired with old | ⟨_, new⟩
      · exact side.apart id old
      · exact absurd side.present (Nat.not_lt.mpr new)
    · exact Nat.lt_of_lt_of_le side.present extendedMixed.size_le
    · exact extended.stockLoaded.trans side.loaded
    · exact extendedMixed.stockLoaded.trans side.loadedMixed

theorem endure (side : Side pairs own foreign alone mixed) {node : Node} {outcome : Outcome Value}
    {after : Store} (ends : node.EndsAsUnit foreign mixed outcome after) :
    Side pairs own foreign alone after := by
  obtain ⟨_, depth, same⟩ := ends
  obtain ⟨grown, framed⟩ := evaluateUnit_framed side.loadedMixed depth node foreign
  have matched : pairs.Matches alone (evaluateUnit depth node foreign mixed).2 := by
    refine side.matched.of_kept ?_ grown.settings grown.registry grown.identities
    intro id other paired
    have different : other ≠ foreign := by
      rintro rfl
      exact side.apart id paired
    exact framed.others other (side.matched.scopes_below id other paired).2 different
  rw [same] at grown matched
  exact ⟨matched, side.own, side.apart, Nat.lt_of_lt_of_le side.present grown.size_le,
    side.loaded, grown.stockLoaded.trans side.loadedMixed⟩

end Side

section Start

variable {store : Store} {home : ScopeId}

open Classical in
noncomputable def Store.reachablePairs (store : Store) (home : ScopeId) : Correspondence where
  scopes := PEquiv.ofSet { id | store.Reachable home (.scope id) }
  settings := PEquiv.ofSet { id | id < store.settings.size }
  arrays := PEquiv.ofSet { identity | identity < store.nextIdentity }
  functions := PEquiv.ofSet { identity | identity < store.nextIdentity }
  builtins := PEquiv.refl Identity

theorem Store.mem_reachablePairs {id other : ScopeId} :
    other ∈ (store.reachablePairs home).scopes id ↔
      other = id ∧ store.Reachable home (.scope other) :=
  PEquiv.ofSet_eq_some_iff

theorem Store.Intact.corresponds_self (intact : store.Intact) (present : home < store.scopes.size)
    {value : Value} (reachable : store.Reachable home (.value value)) :
    value.Corresponds (store.reachablePairs home) value := by
  induction value using Value.induct_parts with
  | step value ih =>
  have known : store.Knows value := intact.isThere present reachable
  have parts (part : Value) (member : part ∈ value.parts) :
      part.Corresponds (store.reachablePairs home) part :=
    ih part member (.further reachable (.part member))
  cases value with
  | array identity elements =>
      exact .array (PEquiv.mem_ofSet_self_iff.mpr (known _ (.self _)))
        (List.forall₂_same.mpr parts)
  | function identity closure =>
      obtain ⟨parameters, body, scope⟩ := closure
      have made := known _ (.self _)
      exact .function (PEquiv.mem_ofSet_self_iff.mpr made.1)
        (Store.mem_reachablePairs.mpr ⟨rfl, .further reachable (.closure _ _)⟩)
  | builtin identity name action =>
      refine .builtin rfl ?_
      cases action with
      | constant held => exact .constant (parts held (by simp [Value.parts]))
      | _ => exact .same _ nofun
  | pendingReturn identity result => exact .pendingReturn (parts result (by simp [Value.parts]))
  | null => exact .scalar .null
  | unit => exact .scalar .unit
  | boolean flag => exact .scalar (.boolean flag)
  | integer number => exact .scalar (.integer number)
  | string text => exact .scalar (.string text)

theorem Store.Intact.matches_self (intact : store.Intact) (present : home < store.scopes.size) :
    (store.reachablePairs home).Matches store store where
  scopes := by
    intro twin id paired
    obtain ⟨rfl, reachable⟩ := Store.mem_reachablePairs.mp paired
    have below : id < store.scopes.size := intact.isThere present reachable
    have found := Array.getElem?_eq_getElem below
    have older (parent : ScopeId) (member : parent ∈ store.scopes[id].parent) : parent < id :=
      intact.parents id parent (by simpa [Store.parent?, found] using member)
    refine ⟨_, _, found, found, ⟨?_, ?_, ?_⟩, older, older⟩
    · cases parent : store.scopes[id].parent with
      | none => exact .none
      | some above =>
          have leads : store.LeadsTo (.scope id) (.scope above) :=
            .parent (by simp [Store.parent?, found, parent])
          exact .some (Store.mem_reachablePairs.mpr ⟨rfl, .further reachable leads⟩)
    · exact PEquiv.mem_ofSet_self_iff.mpr (intact.settings id _ found)
    · intro name
      cases bound : store.scopes[id].bindings.find? name with
      | none => exact .none
      | some value =>
          have leads : store.LeadsTo (.scope id) (.value value) :=
            .binding (by simpa [Store.binding?, found] using bound)
          exact .some (intact.corresponds_self present (.further reachable leads))
  settings := by
    intro twin id paired
    obtain ⟨rfl, below⟩ := PEquiv.ofSet_eq_some_iff.mp paired
    have found := Array.getElem?_eq_getElem below
    exact ⟨_, found, found⟩
  registry := by
    intro name
    cases found : store.builtin? name with
    | none => exact .none
    | some builtin => exact .some (intact.corresponds_self present (.registered found))
  arrays := by
    intro number twin paired
    obtain ⟨rfl, below⟩ := PEquiv.ofSet_eq_some_iff.mp paired
    exact ⟨below, below⟩
  functions := by
    intro number twin paired
    obtain ⟨rfl, below⟩ := PEquiv.ofSet_eq_some_iff.mp paired
    exact ⟨below, below⟩

theorem Store.Intact.side {own foreign : ScopeId} (intact : store.Intact)
    (loaded : store.stockLoaded = true) (present : own < store.scopes.size)
    (presentForeign : foreign < store.scopes.size)
    (apart : ¬store.Reachable own (.scope foreign)) :
    Side (store.reachablePairs own) own foreign store store where
  matched := intact.matches_self present
  own := Store.mem_reachablePairs.mpr ⟨rfl, .home⟩
  apart := by
    intro id paired
    obtain ⟨rfl, reachable⟩ := Store.mem_reachablePairs.mp paired
    exact apart reachable
  present := presentForeign
  loaded := loaded
  loadedMixed := loaded

end Start

theorem Interleaves.runs {first second : ScopeId} (different : first ≠ second)
    {nodes others : List Node} {units : List (ScopeId × Node)}
    (interleaved : Interleaves first second nodes others units)
    {pairs otherPairs : Correspondence} {alone otherAlone mixed after otherAfter : Store}
    {reports otherReports : List (ScopeId × Report)}
    (side : Side pairs first second alone mixed)
    (otherSide : Side otherPairs second first otherAlone mixed)
    (run : Runs alone (nodes.map (Prod.mk first)) reports after)
    (otherRun : Runs otherAlone (others.map (Prod.mk second)) otherReports otherAfter) :
    ∃ allReports afterAll, Runs mixed units allReports afterAll ∧
      allReports.filter (·.1 = first) = reports ∧
      allReports.filter (·.1 = second) = otherReports ∧
      (∃ later, Side later first second after afterAll) ∧
      ∃ later, Side later second first otherAfter afterAll := by
  induction interleaved generalizing pairs otherPairs alone otherAlone mixed reports otherReports with
  | nil =>
      cases run
      cases otherRun
      exact ⟨[], mixed, .nil mixed, rfl, rfl, ⟨pairs, side⟩, otherPairs, otherSide⟩
  | first interleaved ih =>
      cases run with
      | cons ends rest =>
          obtain ⟨twin, middle, later, endsMixed, same, advanced⟩ := side.advance ends
          obtain ⟨allReports, afterAll, runAll, own, foreign, sides⟩ :=
            ih advanced (otherSide.endure endsMixed) rest otherRun
          refine ⟨_, afterAll, .cons endsMixed runAll, ?_, ?_, sides⟩
          · rw [List.filter_cons_of_pos (by simp), own, same]
          · rw [List.filter_cons_of_neg (by simpa using different), foreign]
  | second interleaved ih =>
      cases otherRun with
      | cons ends rest =>
          obtain ⟨twin, middle, later, endsMixed, same, advanced⟩ := otherSide.advance ends
          obtain ⟨allReports, afterAll, runAll, foreign, own, sides⟩ :=
            ih (side.endure endsMixed) advanced run rest
          refine ⟨_, afterAll, .cons endsMixed runAll, ?_, ?_, sides⟩
          · rw [List.filter_cons_of_neg (by simpa using different.symm), foreign]
          · rw [List.filter_cons_of_pos (by simp), own, same]

theorem Side.bindings_eq {pairs : Correspondence} {own foreign : ScopeId} {alone mixed : Store}
    (side : Side pairs own foreign alone mixed) (name : String) :
    (mixed.binding? own name).map (·.inspect) = (alone.binding? own name).map (·.inspect) := by
  have bound := side.matched.binding? side.own name
  generalize alone.binding? own name = value, mixed.binding? own name = twin at bound
  cases bound with
  | none => rfl
  | some held => exact congrArg some held.texts.2.symm

/-- Sessions that cannot reach each other do not interfere: in every interleaving each unit has the
answer, writes and log lines that it has alone. -/
theorem interleaving_unnoticed {store : Store} (intact : store.Intact)
    (loaded : store.stockLoaded = true) {first second : ScopeId}
    (present : first < store.scopes.size) (otherPresent : second < store.scopes.size)
    (apart : ¬store.Reachable first (.scope second))
    (otherApart : ¬store.Reachable second (.scope first)) {nodes others : List Node}
    {reports otherReports : List (ScopeId × Report)} {after otherAfter : Store}
    (run : Runs store (nodes.map (Prod.mk first)) reports after)
    (otherRun : Runs store (others.map (Prod.mk second)) otherReports otherAfter)
    {units : List (ScopeId × Node)} (interleaved : Interleaves first second nodes others units) :
    (∃ allReports afterAll, Runs store units allReports afterAll) ∧
    ∀ allReports afterAll, Runs store units allReports afterAll →
      allReports.filter (·.1 = first) = reports ∧
      allReports.filter (·.1 = second) = otherReports ∧
      ∀ name,
        (afterAll.binding? first name).map (·.inspect) =
          (after.binding? first name).map (·.inspect) ∧
        (afterAll.binding? second name).map (·.inspect) =
          (otherAfter.binding? second name).map (·.inspect) := by
  have different : first ≠ second := by
    rintro rfl
    exact apart .home
  obtain ⟨allReports, afterAll, runAll, own, foreign, ⟨_, side⟩, _, otherSide⟩ :=
    interleaved.runs different (intact.side loaded present otherPresent apart)
      (intact.side loaded otherPresent present otherApart) run otherRun
  refine ⟨⟨allReports, afterAll, runAll⟩, ?_⟩
  intro twins afterTwin runTwin
  obtain ⟨rfl, rfl⟩ := runAll.unique runTwin
  exact ⟨own, foreign, fun name => ⟨side.bindings_eq name, otherSide.bindings_eq name⟩⟩

theorem interleaving_unnoticed_siblings :
    let opened := (Store.initial.openSession none (some ⟨.lenient, .named "a"⟩)).2
    let store := ((opened.addChild 0 .empty).2.addChild 0 .empty).2
    let binding : Node := .letStatement .start "x" (.array .start [.integer .start 1])
    let calling : Node := .call .start (.function .start ["y"] (.identifier .start "x")) []
    let failing : Node := .call .start (.identifier .start "puts") [.identifier .start "x"]
    store.Intact ∧ store.stockLoaded = true ∧ 1 < store.scopes.size ∧ 2 < store.scopes.size ∧
    ¬store.Reachable 1 (.scope 2) ∧ ¬store.Reachable 2 (.scope 1) ∧
    Interleaves 1 2 [binding, calling] [failing] [(1, binding), (2, failing), (1, calling)] ∧
    ∃ reports otherReports allReports after otherAfter afterAll,
      Runs store [(1, binding), (1, calling)] reports after ∧
      Runs store [(2, failing)] otherReports otherAfter ∧
      Runs store [(1, binding), (2, failing), (1, calling)] allReports afterAll ∧
      allReports.filter (·.1 = 1) = reports ∧ allReports.filter (·.1 = 2) = otherReports := by
  intro opened store binding calling failing
  have base : Host.Reached ⟨opened, [], []⟩ := .step .initial (.openSession none _)
  have older : Host.Reached ⟨(opened.addChild 0 .empty).2, [], []⟩ :=
    .step base (.addChild (by decide))
  have reached : Host.Reached ⟨store, [], []⟩ := .step older (.addChild (by decide))
  have intact : store.Intact := reached.intact.store
  have stock : ∀ name, store.builtin? name = Store.initial.builtin? name := fun _ => rfl
  have visible (own : ScopeId) (either : own = 1 ∨ own = 2) (id : ScopeId)
      (reachable : store.Reachable own (.scope id)) : id = own ∨ id = 0 := by
    have parents : ∀ id parent, (id = own ∨ id = 0) → store.parent? id = some parent →
        parent = own ∨ parent = 0 := by
      rintro _ _ (rfl | rfl) found
      · rcases either with rfl | rfl
        all_goals
          cases found
          exact Or.inr rfl
      · cases found
    have unbound : ∀ id name, (id = own ∨ id = 0) → store.binding? id name = none := by
      rintro _ _ (rfl | rfl)
      · rcases either with rfl | rfl
        all_goals rfl
      · rfl
    exact Store.reachable_of_unbound parents unbound stock (Or.inl rfl) reachable
  have apart : ¬store.Reachable 1 (.scope 2) := fun reachable => by
    simpa using visible 1 (Or.inl rfl) 2 reachable
  have otherApart : ¬store.Reachable 2 (.scope 1) := fun reachable => by
    simpa using visible 2 (Or.inr rfl) 1 reachable
  let middle := (evaluateUnit 0 binding 1 store).2
  have bound : binding.EndsAsUnit 1 store (.value (.array 6 [.integer 1])) middle :=
    ⟨nofun, 0, rfl⟩
  obtain ⟨after, called⟩ : ∃ after,
      calling.EndsAsUnit 1 middle (.value (.array 6 [.integer 1])) after := ⟨_, nofun, 1, rfl⟩
  obtain ⟨otherAfter, failed⟩ : ∃ after, failing.EndsAsUnit 2 store
      (.failed (.error ⟨.undeclared "x", .start⟩)) after := ⟨_, nofun, 0, rfl⟩
  have run : Runs store ([binding, calling].map (Prod.mk 1)) _ after :=
    .cons bound (.cons called (.nil after))
  have otherRun : Runs store ([failing].map (Prod.mk 2)) _ otherAfter :=
    .cons failed (.nil otherAfter)
  have interleaved :
      Interleaves 1 2 [binding, calling] [failing] [(1, binding), (2, failing), (1, calling)] :=
    .first (.second (.first .nil))
  have unnoticed := interleaving_unnoticed intact rfl (by decide) (by decide) apart otherApart run
    otherRun interleaved
  obtain ⟨allReports, afterAll, runAll⟩ := unnoticed.1
  obtain ⟨own, foreign, _⟩ := unnoticed.2 _ _ runAll
  exact ⟨intact, rfl, by decide, by decide, apart, otherApart, interleaved, _, _, allReports, after,
    otherAfter, afterAll, run, otherRun, runAll, own, foreign⟩

end MonkeyLang
