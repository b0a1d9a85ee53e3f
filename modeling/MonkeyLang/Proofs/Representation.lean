import Mathlib.Logic.Relation
import MonkeyLang.Proofs.Chain
import MonkeyLang.Proofs.Host
import MonkeyLang.Proofs.Ledger

/-! What holds of the store in every state that a host can bring about: scopes are younger than their
parents, nothing refers to what is not there, and an identity stands for one value for good. -/

namespace MonkeyLang.Host

def Leads : Host → Host → Prop := Relation.ReflTransGen Step

inductive Has (host : Host) : Value → Prop
  | bound {id : ScopeId} {name : String} {item value : Value} :
      host.store.binding? id name = some item → item.Contains value → Has host value
  | registered {name : String} {builtin : Builtin} {value : Value} :
      host.store.builtin? name = some builtin → builtin.value.Contains value → Has host value
  | held {item value : Value} : item ∈ host.held → item.Contains value → Has host value

structure Recorded (host : Host) (ledger : Ledger) : Prop where
  store : host.store.Recorded ledger
  held : ∀ value ∈ host.held, ledger.Lists value

def Continues (ledger : Ledger) (host : Host) : Prop :=
  ∃ later, ledger.Extends later ∧ host.Recorded later

variable {host : Host} {ledger : Ledger}

theorem Has.enters {value : Value} (recorded : host.Recorded ledger) (has : host.Has value) :
    ledger.Enters value := by
  cases has with
  | bound found contained => exact recorded.store.listed.bindings _ _ _ found _ contained
  | registered found contained => exact recorded.store.listed.registry _ _ found _ contained
  | held member contained => exact recorded.held _ member _ contained

theorem Has.made {value : Value} (intact : host.Intact) (has : host.Has value) :
    host.store.HasMade value := by
  cases has with
  | bound found contained => exact intact.store.bindings _ _ _ found _ contained
  | registered found contained => exact intact.store.registry _ _ found _ contained
  | held member contained => exact intact.held _ member _ contained

section Steps

variable (recorded : host.Recorded ledger)
include recorded

theorem Recorded.withStore {later : Ledger} {store : Store} (own : List ScopeId)
    (grown : ledger.Extends later) (kept : store.Recorded later) :
    Host.Recorded ⟨store, host.held, own⟩ later :=
  ⟨kept, fun value member => (recorded.held value member).grows grown⟩

theorem Recorded.continues {store : Store} (own : List ScopeId) (kept : store.Recorded ledger) :
    Continues ledger ⟨store, host.held, own⟩ :=
  ⟨ledger, .refl ledger, recorded.withStore own (.refl ledger) kept⟩

theorem Recorded.hold {made : Value × Store}
    (kept : ∃ later, ledger.Extends later ∧ made.2.Recorded later ∧ later.Lists made.1) :
    Continues ledger (host.hold made) := by
  obtain ⟨later, grown, kept, listed⟩ := kept
  refine ⟨later, grown, kept, ?_⟩
  intro value member
  rcases List.mem_cons.mp member with same | old
  · rw [same]
    exact listed
  · exact (recorded.held value old).grows grown

theorem Recorded.receive {ends : Outcome Value × Store} (accounts : ledger.Accounts ends) :
    Continues ledger (host.receive ends) := by
  obtain ⟨outcome, after⟩ := ends
  obtain ⟨later, grown, kept, listed⟩ := accounts
  cases outcome with
  | value result => exact recorded.hold ⟨later, grown, kept, listed⟩
  | returning origin result =>
      cases origin with
      | none =>
          obtain ⟨last, further, keptLast, listedLast⟩ := kept.addReturn listed
          exact recorded.hold ⟨last, grown.trans further, keptLast, listedLast⟩
      | some identity => exact recorded.hold ⟨later, grown, kept, listed⟩
  | failed failure => exact ⟨later, grown, recorded.withStore _ grown kept⟩
  | exhausted => exact ⟨later, grown, recorded.withStore _ grown kept⟩

theorem Recorded.openSession (loaded : host.store.loadStock = host.store) (setting : Option String)
    (explicit : Option Settings) :
    Continues ledger { host with store := (host.store.openSession setting explicit).2 } := by
  simp only [Store.openSession, loaded]
  split
  · exact recorded.continues _ recorded.store
  · rename_i settings _
    exact recorded.continues _ ((recorded.store.addRoot settings).of_same rfl rfl rfl)

theorem Recorded.step (loaded : host.store.loadStock = host.store) {next : Host}
    (step : host.Step next) : Continues ledger next := by
  have kept := recorded.store
  cases step with
  | openSession setting explicit => exact recorded.openSession loaded setting explicit
  | addChild present => exact recorded.continues _ (kept.addScope nofun)
  | addNested settings present =>
      have widened : (host.store.addSettings settings).2.Recorded ledger :=
        kept.of_same rfl rfl rfl
      exact recorded.continues _ (widened.addScope nofun)
  | setPolicy scope policy =>
      simp only [Store.setPolicy]
      split
      · exact recorded.continues _ kept
      · exact recorded.continues _ (kept.of_same rfl rfl rfl)
  | evaluateUnit depth node present =>
      exact recorded.receive (evaluateUnit_accounts kept depth _ node loaded)
  | evaluate depth node present => exact recorded.receive (evaluate_accounts kept depth _ node)
  | call depth position present callee found arguments =>
      exact recorded.receive (invokeWithin_accounts kept depth _ position (recorded.held _ callee)
        found fun argument member => recorded.held _ (arguments _ member))
  | assign scope name held =>
      exact recorded.continues _ (kept.assign scope name (recorded.held _ held))
  | register name held =>
      obtain ⟨later, grown, keptLater⟩ := kept.register name fun result constant =>
        recorded.held _ (held result constant)
      exact ⟨later, grown, recorded.withStore _ grown keptLater⟩
  | lookup found => exact recorded.hold ⟨ledger, .refl ledger, kept, kept.listed.lookup found⟩
  | findBuiltin found =>
      simp only [Store.findBuiltin, loaded] at found ⊢
      obtain ⟨builtin, registered, same⟩ := Option.map_eq_some_iff.mp found
      rw [← same]
      exact recorded.hold ⟨ledger, .refl ledger, kept, kept.listed.registry _ _ registered⟩
  | scalar scalar =>
      exact recorded.hold ⟨ledger, .refl ledger, kept,
        Value.throughout_scalar scalar (Ledger.enters_scalar scalar)⟩
  | array held =>
      exact recorded.hold (kept.addArray fun element member => recorded.held _ (held element member))
  | function parameters body =>
      exact recorded.hold ((kept.addRoot .default).addFunction ⟨parameters, body, _⟩)
  | pendingReturn held => exact recorded.hold (kept.addReturn (recorded.held _ held))
  | clearOutput => exact recorded.continues _ (kept.of_same rfl rfl rfl)

end Steps

theorem Reached.leads {later : Host} (reached : host.Reached) (leads : host.Leads later) :
    later.Reached := by
  induction leads with
  | refl => exact reached
  | tail _ step ih => exact .step ih step

theorem Recorded.leads {later : Host} (reached : host.Reached) (recorded : host.Recorded ledger)
    (leads : host.Leads later) : Continues ledger later := by
  induction leads with
  | refl => exact ⟨ledger, .refl ledger, recorded⟩
  | tail before step ih =>
      obtain ⟨middle, grown, recordedMiddle⟩ := ih
      have loaded := (reached.leads before).intact.loadStock
      obtain ⟨last, further, recordedLast⟩ := recordedMiddle.step loaded step
      exact ⟨last, grown.trans further, recordedLast⟩

theorem Reached.recorded (reached : host.Reached) : ∃ ledger, host.Recorded ledger := by
  induction reached with
  | initial =>
      obtain ⟨ledger, kept⟩ := Store.recorded_initial
      exact ⟨ledger, kept, nofun⟩
  | step reached step ih =>
      obtain ⟨ledger, recorded⟩ := ih
      obtain ⟨later, _, recordedLater⟩ := recorded.step reached.intact.loadStock step
      exact ⟨later, recordedLater⟩

/-- Going outward from a scope ends, and whatever something refers to is there. -/
structure Formed (host : Host) : Prop where
  parents : ∀ id parent, host.store.parent? id = some parent → parent < id
  ascends : ∀ scope, host.store.Ascends scope (host.store.chain scope)
  lookups : ∀ scope name result,
    host.store.Finds name scope result ↔ result = host.store.lookup scope name
  settings : ∀ (id : ScopeId) (scope : Scope), host.store.scopes[id]? = some scope →
    scope.settings < host.store.settings.size
  values : ∀ value, host.Has value → host.store.HasMade value

theorem Intact.formed (intact : host.Intact) : host.Formed where
  parents := intact.store.parents
  ascends := intact.store.ascends
  lookups := intact.store.finds_iff
  settings := intact.store.settings
  values := fun _ has => has.made intact

/-- Every state that a host can bring about is well formed, and an identity determines the value
that has it, now and after any further steps. -/
theorem reached_host_formed (reached : host.Reached) :
    host.Formed ∧
    ∀ later, host.Leads later → ∀ item other identity, host.Has item → later.Has other →
      item.identity? = some identity → other.identity? = some identity → item = other := by
  refine ⟨reached.intact.formed, ?_⟩
  intro later leads item other identity has hasOther named namedOther
  obtain ⟨ledger, recorded⟩ := reached.recorded
  obtain ⟨last, grown, recordedLast⟩ := recorded.leads reached leads
  have entry := grown identity item (has.enters recorded identity named)
  have entryOther := hasOther.enters recordedLast identity namedOther
  exact Option.some.inj (entry.symm.trans entryOther)

theorem reached_host_formed_pushed :
    let opened : Host := ⟨(Store.initial.openSession none (some .default)).2, [], []⟩
    let holding := (opened.hold (.integer 1, opened.store)).hold
      (opened.store.addArray [.integer 1])
    let host := { holding with store := holding.store.assign 0 "a" (.array 6 [.integer 1]) }
    let pushing : Node := .call .start (.identifier .start "push")
      [.identifier .start "a", .integer .start 2]
    let later := host.receive (evaluateUnit 0 pushing 0 host.store)
    host.Reached ∧ host.Formed ∧ host.Leads later ∧ host.Has (.array 6 [.integer 1]) ∧
    later.Has (.array 7 [.integer 1, .integer 2]) ∧
    ∀ other, later.Has other → other.identity? = some 6 → other = .array 6 [.integer 1] := by
  intro opened holding host pushing later
  have first : opened.Reached := .step .initial (.openSession none _)
  have second : (opened.hold (.integer 1, opened.store)).Reached :=
    .step first (.scalar (.integer 1))
  have third : holding.Reached := .step second (.array (by simp [Host.hold]))
  have reached : host.Reached := .step third (.assign 0 "a" List.mem_cons_self)
  have leads : host.Leads later := .single (.evaluateUnit 0 pushing (by decide))
  have found : host.store.binding? 0 "a" = some (.array 6 [.integer 1]) := rfl
  have bound : host.Has (.array 6 [.integer 1]) := .bound found (.self _)
  have member : Value.array 7 [.integer 1, .integer 2] ∈ later.held := List.mem_cons_self
  have pushed : later.Has (.array 7 [.integer 1, .integer 2]) := .held member (.self _)
  obtain ⟨formed, determined⟩ := reached_host_formed reached
  refine ⟨reached, formed, leads, bound, pushed, ?_⟩
  intro other has named
  exact (determined later leads _ other 6 bound has rfl named).symm

end MonkeyLang.Host
