import MonkeyLang.Proofs.Correspondence
import MonkeyLang.Proofs.Coupling
import MonkeyLang.Proofs.Depth
import MonkeyLang.Proofs.Discipline

/-! An evaluation depends only on what it can reach, and not on the numbers that scopes, arrays,
functions and builtins have. From stores between which there is a correspondence it ends in
corresponding ways, and what it made on the one side corresponds to what it made on the other. -/

namespace MonkeyLang

section Additions

def NewFrom (before now : Nat ≃. Nat) (left right : Nat) : Prop :=
  ∀ number twin, twin ∈ now number → twin ∈ before number ∨ left ≤ number ∧ right ≤ twin

variable {first second third : Nat ≃. Nat} {left right : Nat}

theorem NewFrom.refl (pairs : Nat ≃. Nat) (left right : Nat) : NewFrom pairs pairs left right :=
  fun _ _ paired => Or.inl paired

theorem NewFrom.trans {later laterTwin : Nat} (former : NewFrom first second left right)
    (latter : NewFrom second third later laterTwin) (grown : left ≤ later)
    (grownTwin : right ≤ laterTwin) : NewFrom first third left right := by
  intro number twin paired
  rcases latter number twin paired with old | ⟨new, newTwin⟩
  · exact former number twin old
  · exact Or.inr ⟨Nat.le_trans grown new, Nat.le_trans grownTwin newTwin⟩

theorem NewFrom.adjoin {pairs : Nat ≃. Nat} (below : Below pairs left right) :
    NewFrom pairs (adjoin pairs left right below) left right := by
  intro number twin paired
  rcases (mem_adjoin below).mp paired with old | ⟨same, sameTwin⟩
  · exact Or.inl old
  · exact Or.inr ⟨Nat.le_of_eq same.symm, Nat.le_of_eq sameTwin.symm⟩

def SameAdditions {α : Type} (left after right afterTwin : Array α) : Prop :=
  ∃ added, after = left ++ added ∧ afterTwin = right ++ added

theorem SameAdditions.refl {α : Type} (left right : Array α) :
    SameAdditions left left right right := ⟨#[], by simp, by simp⟩

theorem SameAdditions.trans {α : Type} {left middle after right middleTwin afterTwin : Array α}
    (former : SameAdditions left middle right middleTwin)
    (latter : SameAdditions middle after middleTwin afterTwin) :
    SameAdditions left after right afterTwin := by
  obtain ⟨early, earlyEq, earlyEqTwin⟩ := former
  obtain ⟨late, lateEq, lateEqTwin⟩ := latter
  refine ⟨early ++ late, ?_, ?_⟩
  · rw [lateEq, earlyEq, Array.append_assoc]
  · rw [lateEqTwin, earlyEqTwin, Array.append_assoc]

end Additions

/-- How far two runs have come: what they wrote and logged is the same, and what corresponds now but
did not before was made since. -/
structure Correspondence.Progress (before : Correspondence) (left right : Store)
    (now : Correspondence) (after afterTwin : Store) : Prop where
  scopes : NewFrom before.scopes now.scopes left.scopes.size right.scopes.size
  arrays : NewFrom before.arrays now.arrays left.nextIdentity right.nextIdentity
  functions : NewFrom before.functions now.functions left.nextIdentity right.nextIdentity
  sizes : left.scopes.size ≤ after.scopes.size ∧ right.scopes.size ≤ afterTwin.scopes.size
  identities : left.nextIdentity ≤ after.nextIdentity ∧
    right.nextIdentity ≤ afterTwin.nextIdentity
  writes : SameAdditions left.writes after.writes right.writes afterTwin.writes
  log : SameAdditions left.log after.log right.log afterTwin.log

namespace Correspondence

variable {pairs before now later : Correspondence} {left right middle middleTwin : Store}

theorem Progress.refl (pairs : Correspondence) (left right : Store) :
    pairs.Progress left right pairs left right where
  scopes := .refl _ _ _
  arrays := .refl _ _ _
  functions := .refl _ _ _
  sizes := ⟨Nat.le_refl _, Nat.le_refl _⟩
  identities := ⟨Nat.le_refl _, Nat.le_refl _⟩
  writes := .refl _ _
  log := .refl _ _

theorem Progress.trans {after afterTwin : Store}
    (former : before.Progress left right now middle middleTwin)
    (latter : now.Progress middle middleTwin later after afterTwin) :
    before.Progress left right later after afterTwin where
  scopes := former.scopes.trans latter.scopes former.sizes.1 former.sizes.2
  arrays := former.arrays.trans latter.arrays former.identities.1 former.identities.2
  functions := former.functions.trans latter.functions former.identities.1 former.identities.2
  sizes := ⟨Nat.le_trans former.sizes.1 latter.sizes.1, Nat.le_trans former.sizes.2 latter.sizes.2⟩
  identities := ⟨Nat.le_trans former.identities.1 latter.identities.1,
    Nat.le_trans former.identities.2 latter.identities.2⟩
  writes := former.writes.trans latter.writes
  log := former.log.trans latter.log

structure Reached (before : Correspondence) (left right : Store) (now : Correspondence)
    (after afterTwin : Store) : Prop where
  matched : now.Matches after afterTwin
  progress : before.Progress left right now after afterTwin

section Steps

variable (reached : before.Reached left right now middle middleTwin)
include reached

theorem Reached.array {elements twins : List Value}
    (related : List.Forall₂ (Value.Corresponds now) elements twins) :
    ∃ later, now.Extends later ∧
      before.Reached left right later (middle.addArray elements).2 (middleTwin.addArray twins).2 ∧
      (middle.addArray elements).1.Corresponds later (middleTwin.addArray twins).1 := by
  have below := reached.matched.arrays
  have grown : now.Extends { now with arrays := adjoin now.arrays _ _ below } :=
    ⟨le_rfl, rfl, le_adjoin below, le_rfl, rfl⟩
  refine ⟨_, grown, ⟨?_, reached.progress.trans ?_⟩, ?_⟩
  · exact reached.matched.freshIdentity grown rfl below.adjoin
      (reached.matched.functions.grows (Nat.le_succ _) (Nat.le_succ _))
  · exact { Progress.refl now middle middleTwin with
      arrays := .adjoin below
      identities := ⟨Nat.le_succ _, Nat.le_succ _⟩ }
  · exact .array (mem_adjoin_new below) (related.imp fun _ _ held => held.grows grown)

theorem Reached.function {scope other : ScopeId} (paired : other ∈ now.scopes scope)
    (parameters : List String) (body : Node) :
    ∃ later, now.Extends later ∧
      before.Reached left right later (middle.addFunction ⟨parameters, body, scope⟩).2
        (middleTwin.addFunction ⟨parameters, body, other⟩).2 ∧
      (middle.addFunction ⟨parameters, body, scope⟩).1.Corresponds later
        (middleTwin.addFunction ⟨parameters, body, other⟩).1 := by
  have below := reached.matched.functions
  have grown : now.Extends { now with functions := adjoin now.functions _ _ below } :=
    ⟨le_rfl, rfl, le_rfl, le_adjoin below, rfl⟩
  refine ⟨_, grown, ⟨?_, reached.progress.trans ?_⟩, ?_⟩
  · exact reached.matched.freshIdentity grown rfl
      (reached.matched.arrays.grows (Nat.le_succ _) (Nat.le_succ _)) below.adjoin
  · exact { Progress.refl now middle middleTwin with
      functions := .adjoin below
      identities := ⟨Nat.le_succ _, Nat.le_succ _⟩ }
  · exact .function (mem_adjoin_new below) paired

theorem Reached.assign {scope other : ScopeId} (paired : other ∈ now.scopes scope) (name : String)
    {item twin : Value} (held : item.Corresponds now twin) :
    before.Reached left right now (middle.assign scope name item)
      (middleTwin.assign other name twin) := by
  refine ⟨reached.matched.assign paired name held, reached.progress.trans ?_⟩
  exact { Progress.refl now middle middleTwin with
    sizes := by simp [Store.assign] }

theorem Reached.write (sink : Sink) (texts : List String) :
    before.Reached left right now (middle.write sink texts) (middleTwin.write sink texts) := by
  refine ⟨reached.matched.write sink texts, reached.progress.trans ?_⟩
  have appended (store : Store) : (store.write sink texts).writes =
      store.writes ++ (texts.map (Write.mk sink)).toArray := by
    apply Array.ext'
    simp [Store.write]
  exact { Progress.refl now middle middleTwin with
    writes := ⟨_, appended middle, appended middleTwin⟩ }

theorem Reached.record (line : LogLine) :
    before.Reached left right now (middle.record line) (middleTwin.record line) := by
  refine ⟨reached.matched.record line, reached.progress.trans ?_⟩
  exact { Progress.refl now middle middleTwin with
    log := ⟨#[line], by simp [Store.record], by simp [Store.record]⟩ }

theorem Reached.addChild {scope other : ScopeId} (paired : other ∈ now.scopes scope)
    {bindings twins : Dictionary Value}
    (related : ∀ name,
      Option.Rel (Value.Corresponds now) (bindings.find? name) (twins.find? name)) :
    ∃ later, now.Extends later ∧
      before.Reached left right later (middle.addChild scope bindings).2
        (middleTwin.addChild other twins).2 ∧
      (middleTwin.addChild other twins).1 ∈ later.scopes (middle.addChild scope bindings).1 := by
  have below := reached.matched.scopes_below
  have grown : now.Extends { now with scopes := adjoin now.scopes _ _ below } :=
    ⟨le_adjoin below, rfl, le_rfl, le_rfl, rfl⟩
  obtain ⟨parent, parentTwin, found, foundTwin, corresponds, _⟩ :=
    reached.matched.scopes scope other paired
  have settings : ((middleTwin.scopes[other]?).map (·.settings)).getD 0 ∈
      now.settings (((middle.scopes[scope]?).map (·.settings)).getD 0) := by
    simpa [found, foundTwin] using corresponds.settings
  refine ⟨_, grown, ⟨?_, reached.progress.trans ?_⟩, mem_adjoin_new below⟩
  · exact reached.matched.addScope grown rfl rfl ⟨.some paired, settings, related⟩
      fun _ _ => (mem_adjoin below).mp
  · exact { Progress.refl now middle middleTwin with
      scopes := .adjoin below
      sizes := by simp [Store.addChild, Store.addScope] }

theorem Reached.enterCall {identity other : Identity} {closure twin : Closure}
    {items twins : List Value}
    (function : (Value.function identity closure).Corresponds now (.function other twin))
    (related : List.Forall₂ (Value.Corresponds now) items twins) :
    ∃ later, now.Extends later ∧
      before.Reached left right later (middle.enterCall closure items).2
        (middleTwin.enterCall twin twins).2 ∧
      (middleTwin.enterCall twin twins).1 ∈ later.scopes (middle.enterCall closure items).1 := by
  obtain ⟨parameters, scopes⟩ := function.closure
  have logged : before.Reached left right now (middle.logCall closure items)
      (middleTwin.logCall twin twins) := by
    simp only [Store.logCall, reached.matched.settingsOf scopes, parameters, related.length_eq]
    exact reached.record _
  have bindings (name : String) : Option.Rel (Value.Corresponds now)
      ((bindParameters .empty closure.parameters items).find? name)
      ((bindParameters .empty twin.parameters twins).find? name) := by
    rw [parameters]
    exact bindParameters_corresponds (fun _ => .none) related name
  exact logged.addChild scopes bindings

end Steps

def coupling (before : Correspondence) (left right : Store) : Coupling where
  World := Correspondence
  le := Extends
  store := before.Reached left right
  value := Value.Corresponds
  tree := fun now scope other _ => other ∈ now.scopes scope
  refl := .refl
  trans := .trans
  value_grows := fun grown held => held.grows grown
  tree_grows := fun grown paired => grown.scopes _ _ paired
  child := fun paired _ _ => paired
  scalar := .scalar
  alike := fun held => held.alike
  identical := fun first second plain => first.identical second plain
  inspect := fun held => held.texts.2
  found := fun reached paired => reached.matched.lookup paired _
  registered := fun reached _ => reached.matched.registry _
  settings := fun reached paired => reached.matched.settingsOf paired
  closure := fun reached function => reached.matched.settingsOf function.closure.2
  array := fun reached related => reached.array related
  function := fun reached paired => reached.function paired _ _
  assigned := fun reached paired held => reached.assign paired _ held
  wrote := fun sink texts reached => reached.write sink texts
  recorded := fun line reached => reached.record line
  entered := fun reached function related => reached.enterCall function related

section Coverage

inductive Relates (pairs : Correspondence) : Thing → Thing → Prop
  | scope {id other : ScopeId} : other ∈ pairs.scopes id → Relates pairs (.scope id) (.scope other)
  | settings {id other : SettingsId} : other ∈ pairs.settings id →
      Relates pairs (.settings id) (.settings other)
  | value {item twin : Value} : item.Corresponds pairs twin →
      Relates pairs (.value item) (.value twin)

theorem Relates.symm {thing twin : Thing} (relates : pairs.Relates thing twin) :
    pairs.symm.Relates twin thing := by
  cases relates with
  | scope paired => exact .scope (pairs.scopes.mem_iff_mem.mpr paired)
  | settings paired => exact .settings (pairs.settings.mem_iff_mem.mpr paired)
  | value held => exact .value held.symm

theorem Matches.leadsTo (matched : pairs.Matches left right) {thing twin next : Thing}
    (relates : pairs.Relates thing twin) (leads : left.LeadsTo thing next) :
    ∃ nextTwin, right.LeadsTo twin nextTwin ∧ pairs.Relates next nextTwin := by
  cases leads with
  | parent found =>
      cases relates with
      | scope paired =>
          have parents := matched.parent? paired
          rw [found] at parents
          generalize foundTwin : right.parent? _ = parentTwin at parents
          cases parents with
          | some held => exact ⟨_, .parent foundTwin, .scope held.1⟩
  | settings found =>
      cases relates with
      | scope paired =>
          obtain ⟨scope, scopeTwin, present, presentTwin, corresponds, _⟩ :=
            matched.scopes _ _ paired
          have same := Option.mem_unique found present
          subst same
          exact ⟨_, .settings presentTwin, .settings corresponds.settings⟩
  | @binding id name item found =>
      cases relates with
      | scope paired =>
          have bound := matched.binding? paired name
          rw [found] at bound
          generalize foundTwin : right.binding? _ name = itemTwin at bound
          cases bound with
          | some held => exact ⟨_, .binding foundTwin, .value held⟩
  | part member =>
      cases relates with
      | value held =>
          obtain ⟨partTwin, memberTwin, related⟩ := exists_of_member held.alike.parts member
          exact ⟨_, .part memberTwin, .value related⟩
  | closure identity closure =>
      cases relates with
      | value held =>
          cases held with
          | scalar scalar => cases scalar
          | function paired scopes => exact ⟨_, .closure _ _, .scope scopes⟩

theorem Matches.reachable (matched : pairs.Matches left right) {home other : ScopeId}
    (paired : other ∈ pairs.scopes home) {thing : Thing} (reachable : left.Reachable home thing) :
    ∃ twin, right.Reachable other twin ∧ pairs.Relates thing twin := by
  induction reachable with
  | home => exact ⟨_, .home, .scope paired⟩
  | @registered name builtin found =>
      have registered := matched.registry name
      rw [found] at registered
      generalize foundTwin : right.builtin? name = builtinTwin at registered
      cases registered with
      | some held => exact ⟨_, .registered foundTwin, .value held⟩
  | further reachable leads ih =>
      obtain ⟨twin, reachableTwin, relates⟩ := ih
      obtain ⟨nextTwin, leadsTwin, relatesNext⟩ := matched.leadsTo relates leads
      exact ⟨nextTwin, .further reachableTwin leadsTwin, relatesNext⟩

structure Covers (pairs : Correspondence) (left : Store) (home : ScopeId) (right : Store)
    (other : ScopeId) : Prop where
  forth : ∀ thing, left.Reachable home thing →
    ∃ twin, right.Reachable other twin ∧ pairs.Relates thing twin
  back : ∀ twin, right.Reachable other twin →
    ∃ thing, left.Reachable home thing ∧ pairs.Relates thing twin

theorem Matches.covers (matched : pairs.Matches left right) {home other : ScopeId}
    (paired : other ∈ pairs.scopes home) : pairs.Covers left home right other where
  forth := fun _ reachable => matched.reachable paired reachable
  back := by
    intro twin reachable
    obtain ⟨thing, reachableTwin, relates⟩ :=
      matched.symm.reachable (pairs.scopes.mem_iff_mem.mpr paired) reachable
    exact ⟨thing, reachableTwin, relates.symm⟩

end Coverage

end Correspondence

inductive Outcome.Corresponds (pairs : Correspondence) : Outcome Value → Outcome Value → Prop
  | value {result twin : Value} : result.Corresponds pairs twin →
      Corresponds pairs (.value result) (.value twin)
  | returning {origin other : Option Identity} {result twin : Value} :
      origin.isSome = other.isSome → result.Corresponds pairs twin →
      Corresponds pairs (.returning origin result) (.returning other twin)
  | failed (failure : Failure) : Corresponds pairs (.failed failure) (.failed failure)

theorem stock_corresponds {pairs : Correspondence} (fixed : pairs.builtins = PEquiv.refl Identity)
    {name : String} {builtin : Builtin} (found : Store.initial.builtin? name = some builtin) :
    builtin.value.Corresponds pairs builtin.value := by
  have none := Store.partless_initial found
  refine .builtin (by rw [fixed]; rfl) (.same _ fun held constant => ?_)
  simp [Builtin.value, constant, Value.parts] at none

section Endings

variable {pairs : Correspondence} {left right : Store} {scope other : ScopeId}

theorem evaluate_reached (matched : pairs.Matches left right) (paired : other ∈ pairs.scopes scope)
    (depth : Nat) (node : Node) :
    ∃ later, pairs.Extends later ∧
      (pairs.coupling left right).Ended (pairs.coupling left right).Plain later
        (node.evaluate (invokeWithin depth) scope left)
        (node.evaluate (invokeWithin depth) other right) := by
  have reached : pairs.Reached left right pairs left right := ⟨matched, .refl pairs left right⟩
  exact (pairs.coupling left right).evaluate_within depth reached paired

theorem corresponds_of_ended {later : Correspondence} {outcome twin : Outcome Value}
    {after afterTwin : Store} (finished : outcome ≠ .exhausted)
    (ended : (pairs.coupling left right).Ended (pairs.coupling left right).Plain later
      (outcome, after) (twin, afterTwin)) :
    pairs.Reached left right later after afterTwin ∧ outcome.Corresponds later twin := by
  cases ended with
  | value reached plain => exact ⟨reached, .value plain.1⟩
  | started reached held => exact ⟨reached, .returning rfl held⟩
  | resumed reached held => exact ⟨reached, .returning rfl (Coupling.returned held)⟩
  | failed failure reached => exact ⟨reached, .failed failure⟩
  | exhausted reached => exact (finished rfl).elim

theorem exists_ending (matched : pairs.Matches left right) (paired : other ∈ pairs.scopes scope)
    {node : Node} {outcome : Outcome Value} {after : Store}
    (ends : node.Ends scope left outcome after) :
    ∃ twin afterTwin, node.Ends other right twin afterTwin := by
  obtain ⟨finished, depth, same⟩ := ends
  obtain ⟨later, _, ended⟩ := evaluate_reached matched paired depth node
  rcases sameTwin : node.evaluate (invokeWithin depth) other right with ⟨twin, afterTwin⟩
  rw [same, sameTwin] at ended
  refine ⟨twin, afterTwin, ?_, depth, sameTwin⟩
  rintro rfl
  cases (corresponds_of_ended finished ended).2

end Endings

/-- Evaluation depends only on what can be reached, and not on identities as such. -/
theorem evaluate_corresponds {pairs : Correspondence} {left right : Store} {scope other : ScopeId}
    (matched : pairs.Matches left right) (paired : other ∈ pairs.scopes scope) (node : Node) :
    ((∃ outcome after, node.Ends scope left outcome after) ↔
      ∃ outcome after, node.Ends other right outcome after) ∧
    ∀ outcome after twin afterTwin, node.Ends scope left outcome after →
      node.Ends other right twin afterTwin →
      ∃ later, pairs.Extends later ∧ pairs.Progress left right later after afterTwin ∧
        later.Matches after afterTwin ∧ later.Covers after scope afterTwin other ∧
        outcome.Corresponds later twin := by
  refine ⟨⟨?_, ?_⟩, ?_⟩
  · rintro ⟨outcome, after, ends⟩
    exact exists_ending matched paired ends
  · rintro ⟨outcome, after, ends⟩
    exact exists_ending matched.symm (pairs.scopes.mem_iff_mem.mpr paired) ends
  · intro outcome after twin afterTwin ends endsTwin
    obtain ⟨depth, same⟩ := ends.at_depth
    obtain ⟨depthTwin, sameTwin⟩ := endsTwin.at_depth
    obtain ⟨later, grown, ended⟩ :=
      evaluate_reached matched paired (max depth depthTwin) node
    rw [same _ (Nat.le_max_left _ _), sameTwin _ (Nat.le_max_right _ _)] at ended
    obtain ⟨reached, corresponds⟩ := corresponds_of_ended ends.1 ended
    exact ⟨later, grown, reached.progress, reached.matched,
      reached.matched.covers (grown.scopes _ _ paired), corresponds⟩

theorem evaluate_corresponds_moved :
    let pairs : Correspondence := ⟨.single 0 1, .single 0 1, ⊥, ⊥, .refl Identity⟩
    let node : Node := .call .unknown
      (.function .unknown ["a"]
        (.binary .unknown "==" (.identifier .unknown "a") (.identifier .unknown "a")))
      [.array .unknown []]
    let left := (Store.initial.addRoot .default).2
    let busy := ((Store.initial.addRoot ⟨.lenient, .standard⟩).2.addArray []).2
    let right := (busy.addRoot .default).2
    pairs.Matches left right ∧ 1 ∈ pairs.scopes 0 ∧
      ∃ after, node.Ends 1 right (.value (.boolean true)) after := by
  intro pairs node left busy right
  have matched : pairs.Matches left right := by
    refine ⟨?_, ?_, ?_, ?_, ?_⟩
    · intro id other paired
      obtain ⟨rfl, rfl⟩ := (PEquiv.mem_single_iff _ _ _ _).mp paired
      exact ⟨⟨none, .empty, 0⟩, ⟨none, .empty, 1⟩, rfl, rfl,
        ⟨.none, PEquiv.mem_single _ _, fun _ => .none⟩, nofun, nofun⟩
    · intro id other paired
      obtain ⟨rfl, rfl⟩ := (PEquiv.mem_single_iff _ _ _ _).mp paired
      exact ⟨.default, rfl, rfl⟩
    · intro name
      have same : left.builtin? name = Store.initial.builtin? name := rfl
      have sameTwin : right.builtin? name = Store.initial.builtin? name := rfl
      rw [same, sameTwin]
      cases found : Store.initial.builtin? name with
      | none => exact .none
      | some builtin => exact .some (stock_corresponds rfl found)
    · exact nofun
    · exact nofun
  have paired : 1 ∈ pairs.scopes 0 := PEquiv.mem_single _ _
  have ends : node.Ends 0 left (.value (.boolean true)) _ := ⟨nofun, 1, rfl⟩
  obtain ⟨same, alike⟩ := evaluate_corresponds matched paired node
  obtain ⟨outcome, after, endsTwin⟩ := same.mp ⟨_, _, ends⟩
  obtain ⟨later, _, _, _, _, corresponds⟩ := alike _ _ outcome after ends endsTwin
  refine ⟨matched, paired, after, ?_⟩
  cases corresponds with
  | value held =>
      cases held with
      | scalar scalar => exact endsTwin

end MonkeyLang
