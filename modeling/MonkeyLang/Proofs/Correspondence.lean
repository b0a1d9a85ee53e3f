import Mathlib.Data.PEquiv
import MonkeyLang.Proofs.Growth
import MonkeyLang.Proofs.Likeness
import MonkeyLang.Proofs.Reachability

/-! Correspondences between the things of two stores. They are one to one, so comparing identities
on one side comes out as on the other, and they can be extended by a pair of things that were just
made. -/

namespace MonkeyLang

section Pairs

def Below (pairs : Nat ≃. Nat) (left right : Nat) : Prop :=
  ∀ number twin, twin ∈ pairs number → number < left ∧ twin < right

variable {pairs : Nat ≃. Nat} {left right : Nat}

def adjoin (pairs : Nat ≃. Nat) (left right : Nat) (below : Below pairs left right) :
    Nat ≃. Nat where
  toFun number := if number = left then some right else pairs number
  invFun twin := if twin = right then some left else pairs.symm twin
  inv := by
    intro number twin
    by_cases first : number = left
    · by_cases second : twin = right
      · simp [first, second]
      · have unpaired : pairs.symm twin ≠ some number := fun paired =>
          Nat.lt_irrefl left (first ▸ (below number twin (pairs.eq_some_iff.mp paired)).1)
        simp [first, second, Ne.symm second, first ▸ unpaired]
    · by_cases second : twin = right
      · have unpaired : pairs number ≠ some twin := fun paired =>
          Nat.lt_irrefl right (second ▸ (below number twin paired).2)
        simp [first, second, Ne.symm first, second ▸ unpaired]
      · simp [first, second, pairs.eq_some_iff]

theorem mem_adjoin (below : Below pairs left right) {number twin : Nat} :
    twin ∈ adjoin pairs left right below number ↔
      twin ∈ pairs number ∨ number = left ∧ twin = right := by
  change (if number = left then some right else pairs number) = some twin ↔ _
  by_cases first : number = left
  · have unpaired : twin ∉ pairs number := fun paired =>
      Nat.lt_irrefl left (first ▸ (below number twin paired).1)
    simp [first, first ▸ unpaired, eq_comm]
  · simp [first]

theorem mem_adjoin_new (below : Below pairs left right) :
    right ∈ adjoin pairs left right below left :=
  (mem_adjoin below).mpr (Or.inr ⟨rfl, rfl⟩)

theorem le_adjoin (below : Below pairs left right) : pairs ≤ adjoin pairs left right below :=
  fun _ _ paired => (mem_adjoin below).mpr (Or.inl paired)

theorem Below.grows {later laterTwin : Nat} (below : Below pairs left right)
    (grown : left ≤ later) (grownTwin : right ≤ laterTwin) : Below pairs later laterTwin :=
  fun number twin paired => ⟨Nat.lt_of_lt_of_le (below number twin paired).1 grown,
    Nat.lt_of_lt_of_le (below number twin paired).2 grownTwin⟩

theorem Below.adjoin (below : Below pairs left right) :
    Below (adjoin pairs left right below) (left + 1) (right + 1) := by
  intro number twin paired
  rcases (mem_adjoin below).mp paired with old | ⟨first, second⟩
  · exact below.grows (Nat.le_succ _) (Nat.le_succ _) number twin old
  · rw [first, second]
    exact ⟨Nat.lt_succ_self _, Nat.lt_succ_self _⟩

theorem beq_of_paired {number other twin otherTwin : Nat} (first : twin ∈ pairs number)
    (second : otherTwin ∈ pairs other) : (number == other) = (twin == otherTwin) := by
  have same : number = other ↔ twin = otherTwin := by
    constructor
    · rintro rfl
      exact Option.mem_unique first second
    · rintro rfl
      exact pairs.inj first second
  simp only [beq_eq_decide, same]

end Pairs

/-- A one-to-one correspondence between some of the scopes, settings, arrays, functions and builtins
of two stores. -/
structure Correspondence where
  scopes : ScopeId ≃. ScopeId
  settings : SettingsId ≃. SettingsId
  arrays : Identity ≃. Identity
  functions : Identity ≃. Identity
  builtins : Identity ≃. Identity

namespace Correspondence

structure Extends (before after : Correspondence) : Prop where
  scopes : before.scopes ≤ after.scopes
  settings : after.settings = before.settings
  arrays : before.arrays ≤ after.arrays
  functions : before.functions ≤ after.functions
  builtins : after.builtins = before.builtins

theorem Extends.refl (pairs : Correspondence) : pairs.Extends pairs :=
  ⟨le_rfl, rfl, le_rfl, le_rfl, rfl⟩

theorem Extends.trans {first second third : Correspondence} (former : first.Extends second)
    (latter : second.Extends third) : first.Extends third where
  scopes := former.scopes.trans latter.scopes
  settings := latter.settings.trans former.settings
  arrays := former.arrays.trans latter.arrays
  functions := former.functions.trans latter.functions
  builtins := latter.builtins.trans former.builtins

def symm (pairs : Correspondence) : Correspondence :=
  ⟨pairs.scopes.symm, pairs.settings.symm, pairs.arrays.symm, pairs.functions.symm,
    pairs.builtins.symm⟩

end Correspondence

/-- Two values of the same form whose arrays, functions, builtins and scopes correspond. -/
inductive Value.Corresponds (pairs : Correspondence) : Value → Value → Prop
  | scalar {value : Value} : value.IsScalar → Corresponds pairs value value
  | array {identity other : Identity} {elements twins : List Value} :
      other ∈ pairs.arrays identity → List.Forall₂ (Corresponds pairs) elements twins →
      Corresponds pairs (.array identity elements) (.array other twins)
  | function {identity other : Identity} {parameters : List String} {body : Node}
      {scope twin : ScopeId} : other ∈ pairs.functions identity → twin ∈ pairs.scopes scope →
      Corresponds pairs (.function identity ⟨parameters, body, scope⟩)
        (.function other ⟨parameters, body, twin⟩)
  | builtin {identity other : Identity} {name : String} {action twin : Action Value} :
      other ∈ pairs.builtins identity → action.Alike (Corresponds pairs) twin →
      Corresponds pairs (.builtin identity name action) (.builtin other name twin)
  | pendingReturn {identity other : Identity} {result twin : Value} :
      Corresponds pairs result twin →
      Corresponds pairs (.pendingReturn identity result) (.pendingReturn other twin)

namespace Value

variable {pairs later : Correspondence} {value twin : Value}

theorem Corresponds.alike (corresponds : value.Corresponds pairs twin) :
    value.Alike (Value.Corresponds pairs) twin := by
  cases corresponds with
  | scalar scalar => cases scalar <;> constructor
  | array paired members => exact .array members
  | function paired scopes => exact .function rfl rfl
  | builtin paired alike => exact .builtin alike
  | pendingReturn result => exact .pendingReturn result

theorem Corresponds.closure {identity other : Identity} {closure closureTwin : Closure}
    (corresponds : (Value.function identity closure).Corresponds pairs
      (.function other closureTwin)) :
    closure.parameters = closureTwin.parameters ∧
      closureTwin.scope ∈ pairs.scopes closure.scope := by
  cases corresponds with
  | scalar scalar => cases scalar
  | function paired scopes => exact ⟨rfl, scopes⟩

theorem Corresponds.identical {other otherTwin : Value} (first : value.Corresponds pairs twin)
    (second : other.Corresponds pairs otherTwin) (plain : value.isPending = false) :
    value.identical other = twin.identical otherTwin := by
  cases first with
  | scalar scalar =>
      cases second with
      | scalar same => rfl
      | _ => cases scalar <;> rfl
  | array paired members =>
      cases second with
      | scalar scalar => cases scalar <;> rfl
      | array otherPaired otherMembers => exact beq_of_paired paired otherPaired
      | _ => rfl
  | function paired scopes =>
      cases second with
      | scalar scalar => cases scalar <;> rfl
      | function otherPaired otherScopes => exact beq_of_paired paired otherPaired
      | _ => rfl
  | builtin paired alike =>
      cases second with
      | scalar scalar => cases scalar <;> rfl
      | builtin otherPaired otherAlike => exact beq_of_paired paired otherPaired
      | _ => rfl
  | pendingReturn result => cases plain

theorem Corresponds.texts (corresponds : value.Corresponds pairs twin) :
    value.debugText = twin.debugText ∧ value.inspect = twin.inspect := by
  induction value using Value.induct_parts generalizing twin with
  | step value ih =>
  cases corresponds with
  | scalar scalar => exact ⟨rfl, rfl⟩
  | array paired members =>
      have same := forall_of_members members fun element member twin => ih element member
      have debug := map_eq_of_members (same.imp fun _ _ both => both.1)
      have shown := map_eq_of_members (same.imp fun _ _ both => both.2)
      simp only [debugText, inspect, debugTexts_eq_map, inspectAll_eq_map, debug, shown, and_self]
  | function paired scopes => exact ⟨rfl, rfl⟩
  | builtin paired alike => exact ⟨rfl, rfl⟩
  | pendingReturn result =>
      have same := (ih _ (by simp [Value.parts]) result).1
      simp only [debugText, inspect, same, and_self]

theorem Corresponds.grows (corresponds : value.Corresponds pairs twin)
    (grown : pairs.Extends later) : value.Corresponds later twin := by
  induction value using Value.induct_parts generalizing twin with
  | step value ih =>
  cases corresponds with
  | scalar scalar => exact .scalar scalar
  | array paired members =>
      exact .array (grown.arrays _ _ paired)
        (forall_of_members members fun element member twin => ih element member)
  | function paired scopes =>
      exact .function (grown.functions _ _ paired) (grown.scopes _ _ scopes)
  | builtin paired alike =>
      refine .builtin (grown.builtins ▸ paired) ?_
      cases alike with
      | same _ varies => exact .same _ varies
      | constant held => exact .constant (ih _ (by simp [Value.parts]) held)
  | pendingReturn result => exact .pendingReturn (ih _ (by simp [Value.parts]) result)

theorem Corresponds.symm (corresponds : value.Corresponds pairs twin) :
    twin.Corresponds pairs.symm value := by
  induction value using Value.induct_parts generalizing twin with
  | step value ih =>
  cases corresponds with
  | scalar scalar => exact .scalar scalar
  | array paired members =>
      exact .array (pairs.arrays.mem_iff_mem.mpr paired)
        (forall_of_members members fun element member twin => ih element member).flip
  | function paired scopes =>
      exact .function (pairs.functions.mem_iff_mem.mpr paired) (pairs.scopes.mem_iff_mem.mpr scopes)
  | builtin paired alike =>
      refine .builtin (pairs.builtins.mem_iff_mem.mpr paired) ?_
      cases alike with
      | same _ varies => exact .same _ varies
      | constant held => exact .constant (ih _ (by simp [Value.parts]) held)
  | pendingReturn result => exact .pendingReturn (ih _ (by simp [Value.parts]) result)

end Value

section Options

variable {α β : Type} {related better : α → β → Prop} {first : Option α} {second : Option β}

theorem rel_imp (holds : Option.Rel related first second)
    (implied : ∀ left right, related left right → better left right) :
    Option.Rel better first second := by
  cases holds with
  | some held => exact .some (implied _ _ held)
  | none => exact .none

theorem rel_flip (holds : Option.Rel related first second) :
    Option.Rel (fun right left => related left right) second first := by
  cases holds with
  | some held => exact .some held
  | none => exact .none

end Options

theorem insert_related {related : Value → Value → Prop} {bound twin : Dictionary Value}
    (bindings : ∀ name, Option.Rel related (bound.find? name) (twin.find? name)) (name : String)
    {value other : Value} (held : related value other) (query : String) :
    Option.Rel related ((bound.insert name value).find? query)
      ((twin.insert name other).find? query) := by
  simp only [Dictionary.find?_insert]
  by_cases same : name = query
  · simp only [same, if_true]
    exact .some held
  · simp only [same, if_false]
    exact bindings query

structure Scope.Corresponds (pairs : Correspondence) (scope twin : Scope) : Prop where
  parent : Option.Rel (fun parent other => other ∈ pairs.scopes parent) scope.parent twin.parent
  settings : twin.settings ∈ pairs.settings scope.settings
  bindings : ∀ name, Option.Rel (Value.Corresponds pairs) (scope.bindings.find? name)
    (twin.bindings.find? name)

namespace Scope

variable {pairs later : Correspondence} {scope twin : Scope}

theorem Corresponds.grows (corresponds : scope.Corresponds pairs twin)
    (grown : pairs.Extends later) : scope.Corresponds later twin where
  parent := rel_imp corresponds.parent grown.scopes
  settings := grown.settings ▸ corresponds.settings
  bindings := fun name => rel_imp (corresponds.bindings name) fun _ _ held => held.grows grown

theorem Corresponds.symm (corresponds : scope.Corresponds pairs twin) :
    twin.Corresponds pairs.symm scope where
  parent := rel_imp (rel_flip corresponds.parent) fun _ _ => pairs.scopes.mem_iff_mem.mpr
  settings := pairs.settings.mem_iff_mem.mpr corresponds.settings
  bindings := fun name => rel_imp (rel_flip (corresponds.bindings name)) fun _ _ held => held.symm

theorem Corresponds.insert (corresponds : scope.Corresponds pairs twin) (name : String)
    {value other : Value} (held : value.Corresponds pairs other) :
    Corresponds pairs { scope with bindings := scope.bindings.insert name value }
      { twin with bindings := twin.bindings.insert name other } where
  parent := corresponds.parent
  settings := corresponds.settings
  bindings := insert_related corresponds.bindings name held

end Scope

namespace Correspondence

def ScopesMatch (pairs : Correspondence) (left right : Store) (id other : ScopeId) : Prop :=
  ∃ scope twin, left.scopes[id]? = some scope ∧ right.scopes[other]? = some twin ∧
    scope.Corresponds pairs twin ∧ (∀ parent ∈ scope.parent, parent < id) ∧
    ∀ parent ∈ twin.parent, parent < other

/-- The correspondence relates only what was made in the two stores, whatever it relates is alike,
and it reaches whatever a related thing leads to. -/
structure Matches (pairs : Correspondence) (left right : Store) : Prop where
  scopes : ∀ id other, other ∈ pairs.scopes id → pairs.ScopesMatch left right id other
  settings : ∀ id other, other ∈ pairs.settings id →
    ∃ settings, left.settings[id]? = some settings ∧ right.settings[other]? = some settings
  registry : ∀ name, Option.Rel (fun builtin twin => builtin.value.Corresponds pairs twin.value)
    (left.builtin? name) (right.builtin? name)
  arrays : Below pairs.arrays left.nextIdentity right.nextIdentity
  functions : Below pairs.functions left.nextIdentity right.nextIdentity

variable {pairs later : Correspondence} {left right : Store}

theorem ScopesMatch.grows {id other : ScopeId} (matched : pairs.ScopesMatch left right id other)
    (grown : pairs.Extends later) : later.ScopesMatch left right id other := by
  obtain ⟨scope, twin, found, foundTwin, corresponds, older⟩ := matched
  exact ⟨scope, twin, found, foundTwin, corresponds.grows grown, older⟩

theorem Matches.symm (matched : pairs.Matches left right) : pairs.symm.Matches right left where
  scopes := by
    intro other id paired
    obtain ⟨scope, twin, found, foundTwin, corresponds, older, olderTwin⟩ :=
      matched.scopes id other (pairs.scopes.mem_iff_mem.mp paired)
    exact ⟨twin, scope, foundTwin, found, corresponds.symm, olderTwin, older⟩
  settings := by
    intro other id paired
    obtain ⟨settings, found, foundTwin⟩ :=
      matched.settings id other (pairs.settings.mem_iff_mem.mp paired)
    exact ⟨settings, foundTwin, found⟩
  registry := fun name => rel_imp (rel_flip (matched.registry name)) fun _ _ held => held.symm
  arrays := fun other number paired =>
    (matched.arrays number other (pairs.arrays.mem_iff_mem.mp paired)).symm
  functions := fun other number paired =>
    (matched.functions number other (pairs.functions.mem_iff_mem.mp paired)).symm

theorem Matches.scopes_below (matched : pairs.Matches left right) :
    Below pairs.scopes left.scopes.size right.scopes.size := by
  intro id other paired
  obtain ⟨scope, twin, found, foundTwin, _⟩ := matched.scopes id other paired
  exact ⟨(Array.getElem?_eq_some_iff.mp found).1, (Array.getElem?_eq_some_iff.mp foundTwin).1⟩

section Reading

variable {scope other : ScopeId}

theorem Matches.settingsOf (matched : pairs.Matches left right)
    (paired : other ∈ pairs.scopes scope) :
    left.settingsOf scope = right.settingsOf other := by
  obtain ⟨found, twin, present, presentTwin, corresponds, _⟩ := matched.scopes scope other paired
  obtain ⟨settings, held, heldTwin⟩ := matched.settings _ _ corresponds.settings
  simp [Store.settingsOf, present, presentTwin, held, heldTwin]

theorem Matches.binding? (matched : pairs.Matches left right) (paired : other ∈ pairs.scopes scope)
    (name : String) :
    Option.Rel (Value.Corresponds pairs) (left.binding? scope name)
      (right.binding? other name) := by
  obtain ⟨found, twin, present, presentTwin, corresponds, _⟩ := matched.scopes scope other paired
  simpa [Store.binding?, present, presentTwin] using corresponds.bindings name

theorem Matches.parent? (matched : pairs.Matches left right) (paired : other ∈ pairs.scopes scope) :
    Option.Rel (fun parent twin => twin ∈ pairs.scopes parent ∧ parent < scope ∧ twin < other)
      (left.parent? scope) (right.parent? other) := by
  obtain ⟨found, twin, present, presentTwin, corresponds, older, olderTwin⟩ :=
    matched.scopes scope other paired
  have parents := corresponds.parent
  simp only [Store.parent?, present, presentTwin, Option.bind_some]
  generalize found.parent = parent, twin.parent = parentTwin at parents older olderTwin
  cases parents with
  | some held => exact .some ⟨held, older _ rfl, olderTwin _ rfl⟩
  | none => exact .none

-- The chains are cut off at different lengths, but neither before its end, as parents are older.
theorem Matches.chain_lookup (matched : pairs.Matches left right) (name : String)
    (steps stepsTwin : Nat) (enough : scope < steps) (enoughTwin : other < stepsTwin)
    (paired : other ∈ pairs.scopes scope) :
    Option.Rel (Value.Corresponds pairs)
      ((left.chainFrom steps scope).findSome? (left.binding? · name))
      ((right.chainFrom stepsTwin other).findSome? (right.binding? · name)) := by
  induction steps generalizing stepsTwin scope other with
  | zero => exact absurd enough (Nat.not_lt_zero _)
  | succ steps ih =>
      cases stepsTwin with
      | zero => exact absurd enoughTwin (Nat.not_lt_zero _)
      | succ stepsTwin =>
          have bound := matched.binding? paired name
          have parents := matched.parent? paired
          simp only [Store.chainFrom, List.findSome?_cons]
          generalize left.binding? scope name = item, right.binding? other name = twin at bound
          generalize left.parent? scope = parent, right.parent? other = parentTwin at parents
          cases bound with
          | some held => exact .some held
          | none =>
              cases parents with
              | none => exact .none
              | some older =>
                  exact ih stepsTwin (Nat.lt_of_lt_of_le older.2.1 (Nat.le_of_lt_succ enough))
                    (Nat.lt_of_lt_of_le older.2.2 (Nat.le_of_lt_succ enoughTwin)) older.1

theorem Matches.lookup (matched : pairs.Matches left right) (paired : other ∈ pairs.scopes scope)
    (name : String) :
    Option.Rel (Value.Corresponds pairs) (left.lookup scope name) (right.lookup other name) :=
  matched.chain_lookup name (scope + 1) (other + 1) (Nat.lt_succ_self _) (Nat.lt_succ_self _) paired

end Reading

section Changing

theorem Matches.write (matched : pairs.Matches left right) (sink : Sink) (texts : List String) :
    pairs.Matches (left.write sink texts) (right.write sink texts) :=
  ⟨matched.scopes, matched.settings, matched.registry, matched.arrays, matched.functions⟩

theorem Matches.record (matched : pairs.Matches left right) (line : LogLine) :
    pairs.Matches (left.record line) (right.record line) :=
  ⟨matched.scopes, matched.settings, matched.registry, matched.arrays, matched.functions⟩

theorem Matches.of_kept (matched : pairs.Matches left right) {after : Store}
    (scopes : ∀ id other, other ∈ pairs.scopes id → after.scopes[other]? = right.scopes[other]?)
    (settings : after.settings = right.settings) (registry : after.registry = right.registry)
    (identities : right.nextIdentity ≤ after.nextIdentity) : pairs.Matches left after where
  scopes := by
    intro id other paired
    obtain ⟨scope, twin, found, foundTwin, corresponds, older⟩ := matched.scopes id other paired
    exact ⟨scope, twin, found, (scopes id other paired).trans foundTwin, corresponds, older⟩
  settings := by
    rw [settings]
    exact matched.settings
  registry := by
    intro name
    simp only [Store.builtin?, registry]
    exact matched.registry name
  arrays := matched.arrays.grows (Nat.le_refl _) identities
  functions := matched.functions.grows (Nat.le_refl _) identities

theorem Matches.freshIdentity (matched : pairs.Matches left right) (grown : pairs.Extends later)
    (scopes : later.scopes = pairs.scopes)
    (arrays : Below later.arrays (left.nextIdentity + 1) (right.nextIdentity + 1))
    (functions : Below later.functions (left.nextIdentity + 1) (right.nextIdentity + 1)) :
    later.Matches left.freshIdentity.2 right.freshIdentity.2 where
  scopes := fun id other paired => (matched.scopes id other (scopes ▸ paired)).grows grown
  settings := by
    rw [grown.settings]
    exact matched.settings
  registry := fun name => rel_imp (matched.registry name) fun _ _ held => held.grows grown
  arrays := arrays
  functions := functions

theorem Matches.assign (matched : pairs.Matches left right) {scope other : ScopeId}
    (paired : other ∈ pairs.scopes scope) (name : String) {item twin : Value}
    (held : item.Corresponds pairs twin) :
    pairs.Matches (left.assign scope name item) (right.assign other name twin) where
  scopes := by
    intro id otherId pairedHere
    obtain ⟨found, foundTwin, present, presentTwin, corresponds, older⟩ :=
      matched.scopes id otherId pairedHere
    by_cases same : scope = id
    · subst same
      have sameTwin : other = otherId := Option.mem_unique paired pairedHere
      subst sameTwin
      exact ⟨_, _, Store.getElem?_assign_same name item present,
        Store.getElem?_assign_same name twin presentTwin, corresponds.insert name held, older⟩
    · have different : other ≠ otherId := by
        rintro rfl
        exact same (pairs.scopes.inj paired pairedHere)
      refine ⟨found, foundTwin, ?_, ?_, corresponds, older⟩
      · rw [left.getElem?_assign_other name item same, present]
      · rw [right.getElem?_assign_other name twin different, presentTwin]
  settings := matched.settings
  registry := matched.registry
  arrays := matched.arrays
  functions := matched.functions

theorem Matches.addScope (matched : pairs.Matches left right) (grown : pairs.Extends later)
    (arrays : later.arrays = pairs.arrays) (functions : later.functions = pairs.functions)
    {scope twin : Scope} (corresponds : scope.Corresponds pairs twin)
    (scopes : ∀ id other, other ∈ later.scopes id →
      other ∈ pairs.scopes id ∨ id = left.scopes.size ∧ other = right.scopes.size) :
    later.Matches (left.addScope scope).2 (right.addScope twin).2 where
  scopes := by
    intro id other paired
    rcases scopes id other paired with old | ⟨first, second⟩
    · obtain ⟨found, foundTwin, present, presentTwin, alike, older⟩ := matched.scopes id other old
      exact ⟨found, foundTwin, Store.getElem?_addScope scope present,
        Store.getElem?_addScope twin presentTwin, alike.grows grown, older⟩
    · subst first second
      refine ⟨scope, twin, by simp [Store.addScope], by simp [Store.addScope],
        corresponds.grows grown, ?_⟩
      have parents := corresponds.parent
      generalize scope.parent = parent, twin.parent = parentTwin at parents
      cases parents with
      | none => simp
      | some held =>
          have below := matched.scopes_below _ _ held
          simpa using below
  settings := by
    rw [grown.settings]
    exact matched.settings
  registry := fun name => rel_imp (matched.registry name) fun _ _ held => held.grows grown
  arrays := arrays ▸ matched.arrays
  functions := functions ▸ matched.functions

end Changing

end Correspondence

theorem bindParameters_corresponds {pairs : Correspondence} {bound twin : Dictionary Value}
    {parameters : List String} {arguments twins : List Value}
    (bindings : ∀ name, Option.Rel (Value.Corresponds pairs) (bound.find? name) (twin.find? name))
    (related : List.Forall₂ (Value.Corresponds pairs) arguments twins) (name : String) :
    Option.Rel (Value.Corresponds pairs) ((bindParameters bound parameters arguments).find? name)
      ((bindParameters twin parameters twins).find? name) := by
  induction parameters generalizing bound twin arguments twins with
  | nil => exact bindings name
  | cons parameter parameters ih =>
      have head : Value.Corresponds pairs (arguments.headD .null) (twins.headD .null) := by
        cases related with
        | nil => exact .scalar .null
        | cons head tail => exact head
      have tail : List.Forall₂ (Value.Corresponds pairs) arguments.tail twins.tail := by
        cases related with
        | nil => exact .nil
        | cons head tail => exact tail
      exact ih (insert_related bindings parameter head) tail

end MonkeyLang
