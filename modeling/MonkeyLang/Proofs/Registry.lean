import MonkeyLang.Proofs.Frame

/-! What a name stands for among the builtins, after any requests of a host that starts from an
empty store. Later registrations win. The builtins that are always there, the stock, are registered
by the first request that needs them, and so after all that the host registered before. -/

namespace MonkeyLang

inductive Request where
  | register (name : String) (action : Action Value)
  | openSession (setting : Option String) (explicit : Option Settings)
  | evaluateUnit (depth : Nat) (node : Node) (scope : ScopeId)
  | evaluateAlone (depth : Nat) (node : Node) (setting : Option String)
  | findBuiltin (name : String)

namespace Request

def perform (store : Store) : Request → Store
  | .register name action => store.register name action
  | .openSession setting explicit => (store.openSession setting explicit).2
  | .evaluateUnit depth node scope => (MonkeyLang.evaluateUnit depth node scope store).2
  | .evaluateAlone depth node setting => (MonkeyLang.evaluateAlone depth node setting store).2
  | .findBuiltin name => (store.findBuiltin name).2

def isRegistration : Request → Bool
  | .register _ _ => true
  | _ => false

def Registers (request : Request) (name : String) : Prop :=
  ∃ action, request = .register name action

def made? (name : String) (store : Store) : Request → Option Builtin
  | .register own action => if own = name then some ⟨store.nextIdentity, own, action⟩ else none
  | _ => none

/-- The registrations before the first request that needs the stock. -/
def early (requests : List Request) : List Request := requests.takeWhile isRegistration

def later (requests : List Request) : List Request := requests.dropWhile isRegistration

end Request

def Store.serve (store : Store) (requests : List Request) : Store :=
  requests.foldl Request.perform store

/-- The builtin that the last registration of a name made, among requests served from a store on. -/
def Store.lastMade? (name : String) (store : Store) : List Request → Option Builtin
  | [] => none
  | request :: rest =>
      ((request.perform store).lastMade? name rest).or (request.made? name store)

/-- The builtin that entries make under a name, if they are registered in order from the identity
`first` on. -/
def entryBuiltin? (entries : List (String × Action Value)) (first : Identity) (name : String) :
    Option Builtin :=
  ((entries.zipIdx first).find? (·.1.1 == name)).map fun entry => ⟨entry.2, name, entry.1.2⟩

def stockBuiltin? (first : Identity) (name : String) : Option Builtin :=
  entryBuiltin? stockBuiltins first name

section Entries

variable {entries : List (String × Action Value)} {first : Identity} {name : String}

theorem entryBuiltin?_cons (entry : String × Action Value) :
    entryBuiltin? (entry :: entries) first name =
      if entry.1 = name then some ⟨first, entry.1, entry.2⟩
      else entryBuiltin? entries (first + 1) name := by
  by_cases same : entry.1 = name <;> simp [entryBuiltin?, List.zipIdx_cons, same]

theorem entryBuiltin?_isSome_iff :
    (entryBuiltin? entries first name).isSome ↔ name ∈ entries.map (·.1) := by
  induction entries generalizing first with
  | nil => simp [entryBuiltin?]
  | cons entry rest ih =>
      rw [entryBuiltin?_cons, List.map_cons, List.mem_cons]
      by_cases same : entry.1 = name
      · simp [same]
      · simp only [same, if_false, ih, Ne.symm same, false_or]

theorem le_identity_of_entryBuiltin? {builtin : Builtin}
    (found : entryBuiltin? entries first name = some builtin) : first ≤ builtin.identity := by
  induction entries generalizing first with
  | nil => simp [entryBuiltin?] at found
  | cons entry rest ih =>
      rw [entryBuiltin?_cons] at found
      split at found
      · cases found
        exact Nat.le_refl _
      · exact Nat.le_of_succ_le (ih found)

end Entries

namespace Store

variable {store : Store} {name : String}

theorem builtin?_register (store : Store) (own : String) (action : Action Value) (name : String) :
    (store.register own action).builtin? name =
      if own = name then some ⟨store.nextIdentity, own, action⟩ else store.builtin? name := by
  simp only [builtin?, register, record, freshIdentity, Dictionary.find?_insert]

theorem builtin?_registerAll {entries : List (String × Action Value)}
    (distinct : (entries.map (·.1)).Nodup) (store : Store) (name : String) :
    (entries.foldl (fun store entry => store.register entry.1 entry.2) store).builtin? name =
      (entryBuiltin? entries store.nextIdentity name).or (store.builtin? name) := by
  induction entries generalizing store with
  | nil => rfl
  | cons entry rest ih =>
      obtain ⟨absent, distinctRest⟩ := List.nodup_cons.mp distinct
      have identity : (store.register entry.1 entry.2).nextIdentity = store.nextIdentity + 1 := rfl
      rw [List.foldl_cons, ih distinctRest, identity, builtin?_register, entryBuiltin?_cons]
      by_cases same : entry.1 = name
      · -- No later entry has the name, so this one is not replaced.
        have none : entryBuiltin? rest (store.nextIdentity + 1) name = none := by
          rw [← Option.not_isSome_iff_eq_none, entryBuiltin?_isSome_iff, ← same]
          exact absent
        simp [same, none]
      · simp [same]

theorem builtin?_loadStock (unloaded : store.stockLoaded = false) (name : String) :
    store.loadStock.builtin? name =
      (stockBuiltin? store.nextIdentity name).or (store.builtin? name) := by
  have distinct : (stockBuiltins.map (·.1)).Nodup := by decide
  rw [stockBuiltin?, ← builtin?_registerAll distinct store name]
  simp [loadStock, unloaded, builtin?]

structure Settled (before after : Store) : Prop where
  registry : after.registry = before.loadStock.registry
  loaded : after.stockLoaded = true

theorem settled_loadStock (store : Store) : store.Settled store.loadStock :=
  ⟨rfl, store.stockLoaded_loadStock⟩

theorem Settled.trans {before middle after : Store} (former : before.Settled middle)
    (latter : middle.Settled after) : before.Settled after := by
  refine ⟨?_, latter.loaded⟩
  rw [latter.registry, loadStock_of_loaded former.loaded, former.registry]

theorem Settled.builtin? {before after : Store} (settled : before.Settled after) (name : String) :
    after.builtin? name = before.loadStock.builtin? name := by
  rw [Store.builtin?, settled.registry, Store.builtin?]

theorem settled_openSession (store : Store) (setting : Option String)
    (explicit : Option Settings) : store.Settled (store.openSession setting explicit).2 := by
  simp only [openSession]
  split
  · exact store.settled_loadStock
  · exact ⟨rfl, store.stockLoaded_loadStock⟩

theorem settled_evaluateUnit (depth : Nat) (node : Node) (scope : ScopeId) (store : Store) :
    store.Settled (evaluateUnit depth node scope store).2 := by
  obtain ⟨grown, _⟩ := evaluateUnit_framed_loadStock depth node scope store
  exact ⟨grown.registry, grown.stockLoaded.trans store.stockLoaded_loadStock⟩

end Store

namespace Request

variable {request : Request} {store : Store} {name : String}

theorem exists_of_isRegistration (registration : request.isRegistration = true) :
    ∃ own action, request = .register own action := by
  cases request with
  | register own action => exact ⟨own, action, rfl⟩
  | _ => cases registration

theorem settled_perform (needs : request.isRegistration = false) (store : Store) :
    store.Settled (request.perform store) := by
  cases request with
  | register own action => cases needs
  | openSession setting explicit => exact store.settled_openSession setting explicit
  | evaluateUnit depth node scope => exact Store.settled_evaluateUnit depth node scope store
  | evaluateAlone depth node setting =>
      have opened := store.settled_openSession setting none
      simp only [perform, MonkeyLang.evaluateAlone]
      split
      · rename_i unknown after refused
        rwa [refused] at opened
      · rename_i scope after session
        rw [session] at opened
        exact opened.trans (Store.settled_evaluateUnit depth node scope after)
  | findBuiltin name => exact store.settled_loadStock

theorem made?_of_needs (needs : request.isRegistration = false) :
    request.made? name store = none := by
  cases request with
  | register own action => cases needs
  | _ => rfl

theorem made?_isSome_iff : (request.made? name store).isSome ↔ request.Registers name := by
  cases request with
  | register own action => by_cases same : own = name <;> simp [made?, Registers, same]
  | _ => simp [made?, Registers]

theorem perform_of_ready (ready : store.stockLoaded = true ∨ request.isRegistration = true)
    (name : String) :
    (request.perform store).builtin? name =
        (request.made? name store).or (store.builtin? name) ∧
      (request.perform store).stockLoaded = store.stockLoaded := by
  cases kind : request.isRegistration with
  | true =>
      obtain ⟨own, action, rfl⟩ := exists_of_isRegistration kind
      refine ⟨?_, rfl⟩
      simp only [perform, Store.builtin?_register, made?]
      split <;> simp
  | false =>
      have loaded : store.stockLoaded = true := ready.resolve_right (by simp [kind])
      have settled := settled_perform kind store
      refine ⟨?_, settled.loaded.trans loaded.symm⟩
      rw [settled.builtin? name, Store.loadStock_of_loaded loaded, made?_of_needs kind,
        Option.none_or]

theorem isRegistration_of_mem_early {requests : List Request} (member : request ∈ early requests) :
    request.isRegistration = true :=
  List.all_eq_true.mp List.all_takeWhile request member

theorem early_append_later (requests : List Request) :
    early requests ++ later requests = requests :=
  List.takeWhile_append_dropWhile

end Request

namespace Store

variable {store : Store} {requests : List Request} {name : String}

theorem serve_append (store : Store) (requests more : List Request) :
    store.serve (requests ++ more) = (store.serve requests).serve more :=
  List.foldl_append

theorem lastMade?_append (store : Store) (requests more : List Request) :
    store.lastMade? name (requests ++ more) =
      ((store.serve requests).lastMade? name more).or (store.lastMade? name requests) := by
  induction requests generalizing store with
  | nil => simp [serve, lastMade?]
  | cons request rest ih =>
      simp only [List.cons_append, lastMade?, ih, Option.or_assoc]
      rfl

theorem lastMade?_isSome_iff :
    (store.lastMade? name requests).isSome ↔ ∃ request ∈ requests, request.Registers name := by
  induction requests generalizing store with
  | nil => simp [lastMade?]
  | cons request rest ih =>
      rw [lastMade?, Option.isSome_or, Bool.or_eq_true, ih, Request.made?_isSome_iff, or_comm]
      simp

theorem builtin?_serve (requests : List Request) (store : Store)
    (ready : store.stockLoaded = true ∨ ∀ request ∈ requests, request.isRegistration = true)
    (name : String) :
    (store.serve requests).builtin? name =
        (store.lastMade? name requests).or (store.builtin? name) ∧
      (store.serve requests).stockLoaded = store.stockLoaded := by
  induction requests generalizing store with
  | nil => exact ⟨rfl, rfl⟩
  | cons request rest ih =>
      have now : store.stockLoaded = true ∨ request.isRegistration = true :=
        ready.imp_right fun all => all request (by simp)
      obtain ⟨step, kept⟩ := Request.perform_of_ready now name
      have next : (request.perform store).stockLoaded = true ∨
          ∀ other ∈ rest, other.isRegistration = true := by
        rw [kept]
        exact ready.imp_right fun all other member => all other (by simp [member])
      obtain ⟨found, loaded⟩ := ih (request.perform store) next
      refine ⟨?_, loaded.trans kept⟩
      rw [step] at found
      rw [lastMade?, Option.or_assoc]
      exact found

theorem nextIdentity_serve (registrations : ∀ request ∈ requests, request.isRegistration = true)
    (store : Store) :
    (store.serve requests).nextIdentity = store.nextIdentity + requests.length := by
  induction requests generalizing store with
  | nil => rfl
  | cons request rest ih =>
      obtain ⟨own, action, rfl⟩ :=
        Request.exists_of_isRegistration (registrations request List.mem_cons_self)
      have rested := ih (fun other member => registrations other (by simp [member]))
        (store.register own action)
      exact rested.trans (Nat.add_right_comm _ _ _)

theorem identity_lt_of_lastMade? {builtin : Builtin}
    (registrations : ∀ request ∈ requests, request.isRegistration = true)
    (made : store.lastMade? name requests = some builtin) :
    builtin.identity < store.nextIdentity + requests.length := by
  induction requests generalizing store with
  | nil => simp [lastMade?] at made
  | cons request rest ih =>
      obtain ⟨own, action, rfl⟩ :=
        Request.exists_of_isRegistration (registrations request List.mem_cons_self)
      rw [lastMade?, Option.or_eq_some_iff] at made
      rcases made with since | ⟨_, here⟩
      · have below : builtin.identity < store.nextIdentity + 1 + rest.length :=
          ih (fun other member => registrations other (by simp [member])) since
        rwa [Nat.add_right_comm] at below
      · simp only [Request.made?] at here
        split at here
        · cases here
          exact Nat.lt_add_of_pos_right (Nat.succ_pos _)
        · cases here

theorem builtin?_serve_later (requests : List Request) (store : Store) (name : String) :
    (store.serve (Request.later requests)).loadStock.builtin? name =
      (store.lastMade? name (Request.later requests)).or (store.loadStock.builtin? name) := by
  cases rest : Request.later requests with
  | nil => rfl
  | cons request others =>
      have needs : request.isRegistration = false := by
        have head := List.head?_dropWhile_not Request.isRegistration requests
        rw [← Request.later, rest] at head
        simpa using head
      have settled := Request.settled_perform needs store
      obtain ⟨found, loaded⟩ := builtin?_serve others _ (Or.inl settled.loaded) name
      have same : ((request.perform store).serve others).loadStock =
          (request.perform store).serve others := loadStock_of_loaded (loaded.trans settled.loaded)
      rw [settled.builtin? name] at found
      simp only [lastMade?, Request.made?_of_needs needs, Option.or_none]
      rw [← found, ← same]
      rfl

end Store

/-- What is found at last: the last registration since the stock was loaded, or else the stock, or
else the last registration before. -/
theorem findBuiltin_serve (requests : List Request) (name : String) :
    ((Store.empty.serve requests).findBuiltin name).1 =
      (((Store.empty.serve (Request.early requests)).lastMade? name (Request.later requests)).or
        ((stockBuiltin? (Request.early requests).length name).or
          (Store.empty.lastMade? name (Request.early requests)))).map Builtin.value := by
  have registrations : ∀ request ∈ Request.early requests, request.isRegistration = true :=
    fun _ member => Request.isRegistration_of_mem_early member
  obtain ⟨found, loaded⟩ := Store.builtin?_serve _ .empty (Or.inr registrations) name
  have identity := Store.nextIdentity_serve registrations .empty
  have stocked := Store.builtin?_loadStock loaded name
  rw [identity, found] at stocked
  have served :=
    Store.builtin?_serve_later requests (Store.empty.serve (Request.early requests)) name
  rw [← Store.serve_append, Request.early_append_later, stocked] at served
  simpa [Store.findBuiltin, Store.empty, Store.builtin?, Dictionary.find?_empty] using
    congrArg (Option.map Builtin.value) served

/-- The host registered a name of the stock, but only before the stock was loaded. -/
structure Overrun (requests : List Request) (name : String) : Prop where
  stock : name ∈ stockBuiltins.map (·.1)
  before : ∃ request ∈ Request.early requests, request.Registers name
  since : ∀ request ∈ Request.later requests, ¬request.Registers name

def loadedBuiltin? (requests : List Request) (name : String) : Option Value :=
  (stockBuiltin? (Request.early requests).length name).map Builtin.value

def intendedBuiltin? (requests : List Request) (name : String) : Option Value :=
  ((Store.empty.lastMade? name requests).map Builtin.value).or (loadedBuiltin? requests name)

section Overrun

variable {requests : List Request} {name : String}

theorem overrun_iff (store : Store) (first : Identity) :
    Overrun requests name ↔ (stockBuiltin? first name).isSome ∧
      (Store.empty.lastMade? name (Request.early requests)).isSome ∧
      store.lastMade? name (Request.later requests) = none := by
  rw [stockBuiltin?, entryBuiltin?_isSome_iff, Store.lastMade?_isSome_iff,
    ← Option.not_isSome_iff_eq_none, Store.lastMade?_isSome_iff]
  constructor
  · rintro ⟨stock, before, since⟩
    refine ⟨stock, before, ?_⟩
    rintro ⟨request, member, registers⟩
    exact since request member registers
  · rintro ⟨stock, before, since⟩
    exact ⟨stock, before, fun request member registers => since ⟨request, member, registers⟩⟩

theorem value_ne_of_early {made stock : Builtin}
    (madeEarly : Store.empty.lastMade? name (Request.early requests) = some made)
    (loaded : stockBuiltin? (Request.early requests).length name = some stock) :
    stock.value ≠ made.value := by
  intro same
  have identity : stock.identity = made.identity := (Value.builtin.inj same).1
  have above := le_identity_of_entryBuiltin? loaded
  have below := Store.identity_lt_of_lastMade?
    (fun _ member => Request.isRegistration_of_mem_early member) madeEarly
  rw [← identity, Store.empty, Nat.zero_add] at below
  exact Nat.lt_irrefl _ (Nat.lt_of_lt_of_le below above)

end Overrun

/-- No registration of a host is lost, unless it is of a name of the stock and comes before all that
needs the stock: then the host finds the stock builtin and no longer its own. -/
theorem registered_found_unless_overrun (requests : List Request) (name : String) :
    (((Store.empty.serve requests).findBuiltin name).1 = intendedBuiltin? requests name ↔
      ¬Overrun requests name) ∧
    (Overrun requests name →
      ((Store.empty.serve requests).findBuiltin name).1 = loadedBuiltin? requests name) := by
  have split : Store.empty.lastMade? name requests =
      ((Store.empty.serve (Request.early requests)).lastMade? name (Request.later requests)).or
        (Store.empty.lastMade? name (Request.early requests)) := by
    rw [← Store.lastMade?_append, Request.early_append_later]
  rw [findBuiltin_serve, intendedBuiltin?, loadedBuiltin?, split,
    overrun_iff (.serve .empty (Request.early requests)) (Request.early requests).length]
  cases since : (Store.empty.serve (Request.early requests)).lastMade? name
      (Request.later requests) with
  | some builtin => simp
  | none =>
      cases loaded : stockBuiltin? (Request.early requests).length name with
      | none => simp
      | some stock =>
          cases before : Store.empty.lastMade? name (Request.early requests) with
          | none => simp
          | some made => simp [value_ne_of_early before loaded]

theorem registered_found_unless_overrun_len :
    let own : Action Value := .constant (.string "mine")
    let before : List Request := [.register "len" own, .openSession none (some .default)]
    let after : List Request := [.openSession none (some .default), .register "len" own]
    Overrun before "len" ∧
    ((Store.empty.serve before).findBuiltin "len").1 = some (.builtin 1 "len" .len) ∧
    ((Store.empty.serve before).findBuiltin "len").1 ≠ intendedBuiltin? before "len" ∧
    intendedBuiltin? before "len" = some (.builtin 0 "len" own) ∧
    ¬Overrun after "len" ∧
    ((Store.empty.serve after).findBuiltin "len").1 = some (.builtin 6 "len" own) := by
  intro own before after
  have overrun : Overrun before "len" := by
    refine ⟨by decide, ⟨_, List.mem_cons_self, own, rfl⟩, ?_⟩
    rintro request member ⟨action, registers⟩
    have session : request = .openSession none (some .default) := List.mem_singleton.mp member
    cases session.symm.trans registers
  have safe : ¬Overrun after "len" := by
    rintro ⟨_, ⟨request, member, _⟩, _⟩
    cases member
  obtain ⟨lost, found⟩ := registered_found_unless_overrun before "len"
  obtain ⟨kept, _⟩ := registered_found_unless_overrun after "len"
  exact ⟨overrun, found overrun, fun same => lost.mp same overrun, rfl, safe, kept.mpr safe⟩

end MonkeyLang
