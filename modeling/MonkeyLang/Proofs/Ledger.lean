import Mathlib.Logic.Function.Basic
import MonkeyLang.Proofs.Coupling
import MonkeyLang.Proofs.Discipline

/-! Identity determines content. A ledger says which value each identity was given to. Evaluations
only add to it, and whatever they meet is as the ledger has it, so two values with one identity are
one value, however far apart they are met. -/

namespace MonkeyLang

def Value.identity? : Value → Option Identity
  | .array identity _ | .function identity _ | .builtin identity _ _
  | .pendingReturn identity _ => some identity
  | _ => none

abbrev Ledger := Identity → Option Value

namespace Ledger

def Extends (before after : Ledger) : Prop :=
  ∀ identity value, before identity = some value → after identity = some value

theorem Extends.refl (ledger : Ledger) : ledger.Extends ledger := fun _ _ entered => entered

theorem Extends.trans {first second third : Ledger} (former : first.Extends second)
    (latter : second.Extends third) : first.Extends third :=
  fun identity value entered => latter identity value (former identity value entered)

/-- A value is what its identity was given to, if it has one. -/
def Enters (ledger : Ledger) (value : Value) : Prop :=
  ∀ identity, value.identity? = some identity → ledger identity = some value

def Lists (ledger : Ledger) (value : Value) : Prop := value.Throughout ledger.Enters

variable {ledger later : Ledger} {value : Value}

theorem Enters.grows (entered : ledger.Enters value) (grown : ledger.Extends later) :
    later.Enters value :=
  fun identity same => grown identity value (entered identity same)

theorem Lists.grows (listed : ledger.Lists value) (grown : ledger.Extends later) :
    later.Lists value :=
  listed.imp fun _ entered => entered.grows grown

theorem enters_scalar (scalar : value.IsScalar) : ledger.Enters value := by
  intro identity same
  cases scalar <;> cases same

def enter (ledger : Ledger) (identity : Identity) (value : Value) : Ledger :=
  Function.update ledger identity (some value)

theorem extends_enter {identity : Identity} (unused : ledger identity = none) (value : Value) :
    ledger.Extends (ledger.enter identity value) := by
  intro other entry entered
  have different : other ≠ identity := by
    rintro rfl
    simp [unused] at entered
  rw [enter, Function.update_of_ne different]
  exact entered

theorem lists_enter {identity : Identity} (unused : ledger identity = none)
    (same : value.identity? = some identity) (parts : ∀ part ∈ value.parts, ledger.Lists part) :
    (ledger.enter identity value).Lists value := by
  rw [Lists, Value.throughout_iff]
  refine ⟨?_, fun part member => (parts part member).grows (extends_enter unused value)⟩
  intro other named
  have found := Option.some.inj (same.symm.trans named)
  rw [← found, enter, Function.update_self]

end Ledger

namespace Store

/-- The ledger has whatever is bound or registered, and no identity that was not given out yet. -/
structure Recorded (store : Store) (ledger : Ledger) : Prop where
  unused : ∀ identity, store.nextIdentity ≤ identity → ledger identity = none
  listed : store.Throughout ledger.Enters

variable {store after : Store} {ledger later : Ledger} (recorded : store.Recorded ledger)
include recorded

theorem Recorded.of_same (scopes : after.scopes = store.scopes)
    (registry : after.registry = store.registry)
    (identities : after.nextIdentity = store.nextIdentity) : after.Recorded ledger := by
  refine ⟨?_, recorded.listed.of_same scopes registry⟩
  rw [identities]
  exact recorded.unused

theorem Recorded.assign (scope : ScopeId) (name : String) {value : Value}
    (listed : ledger.Lists value) : (store.assign scope name value).Recorded ledger :=
  ⟨recorded.unused, recorded.listed.assign scope name listed⟩

theorem Recorded.addScope {added : Scope}
    (listed : ∀ name value, added.bindings.find? name = some value → ledger.Lists value) :
    (store.addScope added).2.Recorded ledger :=
  ⟨recorded.unused, recorded.listed.addScope listed⟩

theorem Recorded.addRoot (settings : Settings) : (store.addRoot settings).2.Recorded ledger :=
  ⟨recorded.unused, recorded.listed.addRoot settings⟩

theorem Recorded.freshIdentity {value : Value} (same : value.identity? = some store.nextIdentity)
    (parts : ∀ part ∈ value.parts, ledger.Lists part) :
    ∃ later, ledger.Extends later ∧ store.freshIdentity.2.Recorded later ∧ later.Lists value := by
  have unused := recorded.unused store.nextIdentity (Nat.le_refl _)
  have grown := Ledger.extends_enter unused value
  refine ⟨ledger.enter store.nextIdentity value, grown, ⟨?_, ?_⟩,
    Ledger.lists_enter unused same parts⟩
  · intro identity beyond
    have different : identity ≠ store.nextIdentity := Nat.ne_of_gt beyond
    rw [Ledger.enter, Function.update_of_ne different]
    exact recorded.unused identity (Nat.le_of_succ_le beyond)
  · exact (recorded.listed.imp fun _ entered => entered.grows grown).of_same rfl rfl

theorem Recorded.addArray {elements : List Value}
    (listed : ∀ element ∈ elements, ledger.Lists element) :
    ∃ later, ledger.Extends later ∧ (store.addArray elements).2.Recorded later ∧
      later.Lists (store.addArray elements).1 :=
  recorded.freshIdentity rfl listed

theorem Recorded.addFunction (closure : Closure) :
    ∃ later, ledger.Extends later ∧ (store.addFunction closure).2.Recorded later ∧
      later.Lists (store.addFunction closure).1 :=
  recorded.freshIdentity rfl nofun

theorem Recorded.addReturn {result : Value} (listed : ledger.Lists result) :
    ∃ later, ledger.Extends later ∧ (store.addReturn none result).2.Recorded later ∧
      later.Lists (store.addReturn none result).1 :=
  recorded.freshIdentity rfl (by simpa [Store.addReturn, Value.parts] using listed)

theorem Recorded.register (name : String) {action : Action Value}
    (listed : ∀ result, action = .constant result → ledger.Lists result) :
    ∃ later, ledger.Extends later ∧ (store.register name action).Recorded later := by
  have parts : ∀ part ∈ (Value.builtin store.nextIdentity name action).parts,
      ledger.Lists part := by
    cases action with
    | constant result => simpa [Value.parts] using listed result rfl
    | _ => exact nofun
  obtain ⟨later, grown, kept, made⟩ := recorded.freshIdentity rfl parts
  refine ⟨later, grown, kept.unused, kept.listed.bindings, ?_⟩
  intro query builtin found
  simp only [builtin?, Store.register, Store.record, Dictionary.find?_insert] at found
  split at found
  · cases found
    exact made
  · exact kept.listed.registry query builtin found

theorem Recorded.enterCall {closure : Closure} {items : List Value}
    (listed : ∀ item ∈ items, ledger.Lists item) :
    (store.enterCall closure items).2.Recorded ledger :=
  ⟨recorded.unused, recorded.listed.enterCall (Ledger.enters_scalar .null) listed⟩

omit recorded

theorem Recorded.registerAll {entries : List (String × Action Value)}
    (constantless : ∀ entry ∈ entries, ∀ result, entry.2 ≠ .constant result)
    (recorded : store.Recorded ledger) :
    ∃ later,
      (entries.foldl (fun store entry => store.register entry.1 entry.2) store).Recorded later := by
  induction entries generalizing store ledger with
  | nil => exact ⟨ledger, recorded⟩
  | cons entry rest ih =>
      have held : ∀ result, entry.2 = .constant result → ledger.Lists result :=
        fun result same => (constantless entry (by simp) result same).elim
      obtain ⟨later, _, kept⟩ := recorded.register entry.1 held
      exact ih (fun other member => constantless other (by simp [member])) kept

theorem recorded_initial : ∃ ledger, Store.initial.Recorded ledger := by
  have empty : Store.empty.Recorded fun _ => none := ⟨fun _ _ => rfl, nofun, nofun⟩
  have constantless : ∀ entry ∈ stockBuiltins, ∀ result, entry.2 ≠ .constant result := by
    simp [stockBuiltins]
  obtain ⟨ledger, kept⟩ := Recorded.registerAll constantless empty
  exact ⟨ledger, kept.of_same rfl rfl rfl⟩

end Store

/-- An evaluation beside itself, with a ledger of the identities given out so far. -/
def bookkeeping : Coupling where
  World := Ledger
  le := Ledger.Extends
  store := fun ledger left right => left = right ∧ left.Recorded ledger
  value := fun ledger => Value.Shared ledger.Enters
  tree := fun _ scope other _ => scope = other
  refl := .refl
  trans := .trans
  value_grows := fun grown shared => ⟨shared.1, Ledger.Lists.grows shared.2 grown⟩
  tree_grows := fun _ same => same
  child := fun same _ _ => same
  scalar := fun scalar => ⟨rfl, Value.throughout_scalar scalar (Ledger.enters_scalar scalar)⟩
  alike := fun shared => shared.alike
  identical := fun left right _ => by rw [left.1, right.1]
  inspect := fun shared => by rw [shared.1]
  found := by
    rintro ledger left _ scope _ position name ⟨rfl, recorded⟩ rfl
    exact Value.shared_of_found rfl fun _ found => recorded.listed.lookup found
  registered := by
    rintro ledger left _ scope _ position name ⟨rfl, recorded⟩ rfl
    exact Value.shared_of_found rfl fun builtin found => recorded.listed.registry name builtin found
  settings := by
    rintro ledger left _ scope _ node ⟨rfl, _⟩ rfl
    rfl
  closure := by
    rintro ledger left _ identity _ closure _ ⟨rfl, _⟩ ⟨⟨⟩, _⟩
    rfl
  array := by
    rintro ledger left _ elements twins ⟨rfl, recorded⟩ members
    obtain ⟨rfl, listed⟩ := Value.shared_members.mp members
    obtain ⟨later, grown, kept, made⟩ := recorded.addArray listed
    exact ⟨later, grown, ⟨rfl, kept⟩, rfl, made⟩
  function := by
    rintro ledger left _ scope _ position parameters body ⟨rfl, recorded⟩ rfl
    obtain ⟨later, grown, kept, made⟩ := recorded.addFunction ⟨parameters, body, scope⟩
    exact ⟨later, grown, ⟨rfl, kept⟩, rfl, made⟩
  assigned := by
    rintro ledger left _ scope _ position name node item _ ⟨rfl, recorded⟩ rfl ⟨rfl, listed⟩
    exact ⟨rfl, recorded.assign scope name listed⟩
  wrote := by
    rintro ledger left _ sink texts ⟨rfl, recorded⟩
    exact ⟨rfl, recorded.of_same rfl rfl rfl⟩
  recorded := by
    rintro ledger left _ line ⟨rfl, recorded⟩
    exact ⟨rfl, recorded.of_same rfl rfl rfl⟩
  entered := by
    rintro ledger left _ identity _ closure _ items twins ⟨rfl, recorded⟩ ⟨⟨⟩, _⟩ members
    obtain ⟨rfl, listed⟩ := Value.shared_members.mp members
    exact ⟨ledger, .refl ledger, ⟨rfl, recorded.enterCall listed⟩, rfl⟩

def Outcome.ListedIn (ledger : Ledger) : Outcome Value → Prop
  | .value result | .returning none result => ledger.Lists result
  | .returning (some identity) result => ledger.Lists (.pendingReturn identity result)
  | .failed _ | .exhausted => True

def Ledger.Accounts (ledger : Ledger) (ends : Outcome Value × Store) : Prop :=
  ∃ later, ledger.Extends later ∧ ends.2.Recorded later ∧ ends.1.ListedIn later

section Accounting

variable {ledger : Ledger} {store : Store}

theorem accounts_of_coupled {body : Evaluation Value}
    (coupled : bookkeeping.Coupled bookkeeping.Plain ledger body body store store) :
    ledger.Accounts (body store) := by
  obtain ⟨later, grown, ended⟩ := coupled
  refine ⟨later, grown, ?_⟩
  generalize body store = ends, body store = endsTwin at ended
  cases ended with
  | value kept plain => exact ⟨kept.2, plain.1.2⟩
  | started kept shared => exact ⟨kept.2, shared.2⟩
  | resumed kept shared => exact ⟨kept.2, shared.2⟩
  | failed failure kept => exact ⟨kept.2, trivial⟩
  | exhausted kept => exact ⟨kept.2, trivial⟩

variable (recorded : store.Recorded ledger) (depth : Nat) (scope : ScopeId)
include recorded

theorem evaluate_coupled_self (node : Node) :
    bookkeeping.Coupled bookkeeping.Plain ledger (node.evaluate (invokeWithin depth) scope)
      (node.evaluate (invokeWithin depth) scope) store store :=
  have stores : bookkeeping.store ledger store store := ⟨rfl, recorded⟩
  have tree : bookkeeping.tree ledger scope scope node := rfl
  bookkeeping.evaluate_within depth stores tree

theorem evaluate_accounts (node : Node) :
    ledger.Accounts (node.evaluate (invokeWithin depth) scope store) :=
  accounts_of_coupled (evaluate_coupled_self recorded depth scope node)

theorem evaluateUnit_accounts (node : Node) (loaded : store.loadStock = store) :
    ledger.Accounts (evaluateUnit depth node scope store) := by
  have coupled := (evaluate_coupled_self recorded depth scope node).arrive.recordFailure node
  have accounts := accounts_of_coupled coupled
  rwa [evaluateUnit, loaded]

theorem invokeWithin_accounts (position : Position) {callee : Value} {callable : Callable}
    {arguments : List Value} (listed : ledger.Lists callee)
    (found : callee.callable? = some callable)
    (allowed : ∀ argument ∈ arguments, ledger.Lists argument) :
    ledger.Accounts (invokeWithin depth callable arguments position scope store) := by
  have stores : bookkeeping.store ledger store store := ⟨rfl, recorded⟩
  have tree : bookkeeping.tree ledger scope scope (.call position .missing []) := rfl
  have shared : bookkeeping.value ledger callee callee := ⟨rfl, listed⟩
  have target := Coupling.callee_of_value shared
  rw [found] at target
  cases target with
  | some target =>
      have calls : bookkeeping.Calls (invokeWithin depth) := Coupling.calls_within depth
      exact accounts_of_coupled (calls ledger store store scope scope position .missing [] callable
        callable arguments arguments stores tree target
        (Value.shared_members.mpr ⟨rfl, allowed⟩))

end Accounting

end MonkeyLang
