import MonkeyLang.Proofs.Host
import MonkeyLang.Proofs.Chain
import MonkeyLang.Proofs.Depth
import MonkeyLang.Proofs.Nesting
import MonkeyLang.Proofs.Parameters

/-! Who sees a binding. A name stands for what the first scope binds it to that is met on the way
outward, so binding it in one scope is seen from exactly those scopes whose way outward gets there
before another scope binds the name. -/

namespace MonkeyLang

namespace Store

/-- Whoever looks for the name from a scope outward gets as far as `reached`: no scope that is
passed before binds the name. -/
def LooksAt (store : Store) (scope : ScopeId) (name : String) (reached : ScopeId) : Prop :=
  ∃ nearer further, store.Ascends scope (nearer ++ reached :: further) ∧
    ∀ id ∈ nearer, store.binding? id name = none

def Inside (store : Store) (scope outer : ScopeId) : Prop :=
  scope ≠ outer ∧ ∃ above, store.Ascends scope above ∧ outer ∈ above

def Siblings (store : Store) (scope other : ScopeId) : Prop :=
  scope ≠ other ∧ store.parent? scope = store.parent? other

/-- A name stands for what the first scope on the way outward binds it to, and for nothing if no
scope on the way does. -/
structure LooksOutward (store : Store) (viewer : ScopeId) (query : String) : Prop where
  ends : ∃ above, store.Ascends viewer above
  found : ∀ item, store.lookup viewer query = some item ↔
    ∃ found, store.LooksAt viewer query found ∧ store.binding? found query = some item
  missing : store.lookup viewer query = none ↔
    ∀ above, store.Ascends viewer above → ∀ id ∈ above, store.binding? id query = none

structure ShowsBinding (store : Store) (scope : ScopeId) (name : String) (value : Value) :
    Prop where
  seen : ∀ viewer query, query = name ∧ store.LooksAt viewer name scope →
    (store.assign scope name value).lookup viewer query = some value
  unseen : ∀ viewer query, ¬(query = name ∧ store.LooksAt viewer name scope) →
    (store.assign scope name value).lookup viewer query = store.lookup viewer query
  apart : ∀ viewer, store.Inside scope viewer ∨ store.Siblings scope viewer →
    ∀ query, (store.assign scope name value).lookup viewer query = store.lookup viewer query

variable {store : Store} {scope other reached : ScopeId} {name query : String}

section Walking

theorem Ascends.unique {above rest : List ScopeId} (first : store.Ascends scope above)
    (second : store.Ascends scope rest) : above = rest := by
  induction first generalizing rest with
  | top last =>
      cases second with
      | top _ => rfl
      | up found _ => simp [last] at found
  | up found _ ih =>
      cases second with
      | top last => simp [found] at last
      | up again further =>
          have same := Option.some.inj (found.symm.trans again)
          rw [ih (same ▸ further)]

theorem Ascends.tail {id : ScopeId} {rest : List ScopeId}
    (ascends : store.Ascends scope (id :: rest)) (more : rest ≠ []) :
    scope = id ∧ ∃ parent, store.parent? scope = some parent ∧ store.Ascends parent rest := by
  cases ascends with
  | top _ => exact (more rfl).elim
  | up found further => exact ⟨rfl, _, found, further⟩

variable (layered : store.Layered)
include layered

theorem Layered.ascends (scope : ScopeId) : store.Ascends scope (store.chain scope) :=
  chainFrom_ascends layered (Nat.lt_succ_self scope)

theorem Layered.chain_eq {above : List ScopeId} (ascends : store.Ascends scope above) :
    store.chain scope = above :=
  (layered.ascends scope).unique ascends

theorem Layered.le_of_mem {above : List ScopeId} {id : ScopeId} (ascends : store.Ascends scope above)
    (member : id ∈ above) : id ≤ scope := by
  induction ascends with
  | top _ => exact Nat.le_of_eq (List.mem_singleton.mp member)
  | @up scope parent above found _ ih =>
      rcases List.mem_cons.mp member with same | higher
      · exact Nat.le_of_eq same
      · exact Nat.le_of_lt (Nat.lt_of_le_of_lt (ih higher) (layered scope parent found))

theorem Layered.parent_of_mem {above : List ScopeId} {id : ScopeId}
    (ascends : store.Ascends scope above) (member : id ∈ above) (different : id ≠ scope) :
    ∃ parent, store.parent? scope = some parent ∧ id ≤ parent := by
  cases ascends with
  | top _ => exact (different (List.mem_singleton.mp member)).elim
  | @up _ parent above found further =>
      have higher : id ∈ above := (List.mem_cons.mp member).resolve_left different
      exact ⟨parent, found, layered.le_of_mem further higher⟩

theorem LooksAt.mem_chain (looks : store.LooksAt scope name reached) :
    reached ∈ store.chain scope := by
  obtain ⟨nearer, further, ascends, _⟩ := looks
  rw [layered.chain_eq ascends]
  simp

theorem not_looksAt_of_inside (inside : store.Inside scope other) :
    ¬store.LooksAt other name scope := by
  obtain ⟨different, above, ascends, member⟩ := inside
  intro looks
  obtain ⟨parent, found, bound⟩ := layered.parent_of_mem ascends member different.symm
  have below := layered.le_of_mem (layered.ascends other) (looks.mem_chain layered)
  exact Nat.lt_irrefl scope
    (Nat.lt_of_le_of_lt (Nat.le_trans below bound) (layered scope parent found))

theorem not_looksAt_of_siblings (siblings : store.Siblings scope other) :
    ¬store.LooksAt other name scope := by
  obtain ⟨different, shared⟩ := siblings
  intro looks
  obtain ⟨parent, found, bound⟩ :=
    layered.parent_of_mem (layered.ascends other) (looks.mem_chain layered) different
  exact Nat.lt_irrefl scope (Nat.lt_of_le_of_lt bound (layered scope parent (shared.trans found)))

end Walking

section Lookups

variable (layered : store.Layered)
include layered

theorem lookup_eq_some_iff {value : Value} :
    store.lookup scope name = some value ↔
      ∃ found, store.LooksAt scope name found ∧ store.binding? found name = some value := by
  rw [lookup, List.findSome?_eq_some_iff]
  constructor
  · rintro ⟨nearer, found, further, split, bound, unbound⟩
    exact ⟨found, ⟨nearer, further, split ▸ layered.ascends scope, unbound⟩, bound⟩
  · rintro ⟨found, ⟨nearer, further, ascends, unbound⟩, bound⟩
    exact ⟨nearer, found, further, layered.chain_eq ascends, bound, unbound⟩

theorem lookup_eq_none_iff :
    store.lookup scope name = none ↔
      ∀ above, store.Ascends scope above → ∀ id ∈ above, store.binding? id name = none := by
  rw [lookup, List.findSome?_eq_none_iff]
  constructor
  · intro unbound above ascends
    rwa [← layered.chain_eq ascends]
  · intro unbound
    exact unbound _ (layered.ascends scope)

theorem lookup_step :
    store.lookup scope name =
      (store.binding? scope name).or ((store.parent? scope).bind (store.lookup · name)) := by
  cases found : store.parent? scope with
  | none =>
      have chain := layered.chain_eq (.top found)
      simp [lookup, chain]
  | some parent =>
      have chain := layered.chain_eq (.up found (layered.ascends parent))
      simp only [lookup, chain, List.findSome?_cons, Option.bind_some]
      cases store.binding? scope name <;> rfl

theorem looksAt_self (scope : ScopeId) (name : String) : store.LooksAt scope name scope := by
  have ascends := layered.ascends scope
  generalize store.chain scope = above at ascends
  cases ascends with
  | top last => exact ⟨[], [], .top last, nofun⟩
  | up found further => exact ⟨[], _, .up found further, nofun⟩

omit layered in
theorem LooksAt.up {parent : ScopeId} (unbound : store.binding? scope name = none)
    (found : store.parent? scope = some parent) (looks : store.LooksAt parent name reached) :
    store.LooksAt scope name reached := by
  obtain ⟨nearer, further, ascends, others⟩ := looks
  exact ⟨scope :: nearer, further, .up found ascends, by simpa using ⟨unbound, others⟩⟩

theorem lookup_assign_of_looksAt (value : Value) (present : reached < store.scopes.size)
    (looks : store.LooksAt scope name reached) :
    (store.assign reached name value).lookup scope name = some value := by
  obtain ⟨nearer, further, ascends, unbound⟩ := looks
  induction nearer generalizing scope with
  | nil =>
      have here : scope = reached := by cases ascends <;> rfl
      rw [lookup_step (layered.assign reached name value), binding?_assign]
      simp [here, present]
  | cons id nearer ih =>
      obtain ⟨rfl, parent, found, further⟩ := ascends.tail (by simp)
      have inner := ih further fun id member => unbound id (by simp [member])
      have passed := unbound scope (by simp)
      rw [lookup_step (layered.assign reached name value), binding?_assign, parent?_assign, passed,
        found]
      by_cases here : reached = scope
      · simp [here, here ▸ present]
      · simpa [here] using inner

theorem binding?_assign_of_not_looksAt (value : Value)
    (unseen : ¬(query = name ∧ store.LooksAt scope name reached)) :
    (store.assign reached name value).binding? scope query = store.binding? scope query := by
  rw [binding?_assign, if_neg]
  rintro ⟨rfl, _, rfl⟩
  exact unseen ⟨rfl, looksAt_self layered reached name⟩

theorem lookup_assign_of_not_looksAt (value : Value)
    (unseen : ¬(query = name ∧ store.LooksAt scope name reached)) :
    (store.assign reached name value).lookup scope query = store.lookup scope query := by
  have ascends := layered.ascends scope
  generalize store.chain scope = above at ascends
  induction ascends with
  | @top scope last =>
      rw [lookup_step (layered.assign reached name value), lookup_step layered,
        binding?_assign_of_not_looksAt layered value unseen, parent?_assign, last]
      rfl
  | @up scope parent above found further ih =>
      rw [lookup_step (layered.assign reached name value), lookup_step layered,
        binding?_assign_of_not_looksAt layered value unseen, parent?_assign, found]
      cases unbound : store.binding? scope query with
      | some item => rfl
      | none =>
          simp only [Option.none_or, Option.bind_some]
          apply ih
          rintro ⟨rfl, looks⟩
          exact unseen ⟨rfl, looks.up unbound found⟩

theorem looksOutward (viewer : ScopeId) (query : String) : store.LooksOutward viewer query :=
  ⟨⟨_, layered.ascends viewer⟩, fun _ => lookup_eq_some_iff layered, lookup_eq_none_iff layered⟩

theorem showsBinding (present : scope < store.scopes.size) (name : String) (value : Value) :
    store.ShowsBinding scope name value := by
  refine ⟨?_, fun _ _ => lookup_assign_of_not_looksAt layered value, ?_⟩
  · rintro viewer _ ⟨rfl, looks⟩
    exact lookup_assign_of_looksAt layered value present looks
  · intro viewer apart query
    apply lookup_assign_of_not_looksAt layered value
    rintro ⟨_, looks⟩
    rcases apart with inside | siblings
    · exact not_looksAt_of_inside layered inside looks
    · exact not_looksAt_of_siblings layered siblings looks

end Lookups

section Calls

theorem LooksAt.lt_size (present : reached < store.scopes.size)
    (looks : store.LooksAt scope name reached) : scope < store.scopes.size := by
  obtain ⟨nearer, further, ascends, _⟩ := looks
  cases nearer with
  | nil =>
      have here : scope = reached := by cases ascends <;> rfl
      rwa [here]
  | cons id nearer =>
      obtain ⟨_, parent, found, _⟩ := ascends.tail (by simp)
      exact lt_of_parent? found

variable (layered : store.Layered)
include layered

theorem lookup_addScope (added : Scope) (present : scope < store.scopes.size) :
    (store.addScope added).2.lookup scope name = store.lookup scope name := by
  apply lookup_of_kept layered present
  intro id below
  rw [getElem?_addScope_eq, if_neg (Nat.ne_of_lt below)]

theorem lookup_addChild {parent : ScopeId} {bindings : Dictionary Value}
    (present : parent < store.scopes.size) (unbound : bindings.find? name = none) :
    (store.addChild parent bindings).2.lookup (store.addChild parent bindings).1 name =
      store.lookup parent name := by
  have older : ∀ above, some parent = some above → above < store.scopes.size := by
    rintro _ ⟨⟩
    exact present
  rw [addChild, lookup_step (layered.addScope older), binding?, parent?, getElem?_addScope_self]
  simp only [Option.bind_some, unbound, Option.none_or]
  exact lookup_addScope layered _ present

theorem lookup_enterCall {closure : Closure} (present : closure.scope < store.scopes.size)
    (arguments : List Value) (unbound : name ∉ closure.parameters) :
    (store.enterCall closure arguments).2.lookup (store.enterCall closure arguments).1 name =
      store.lookup closure.scope name := by
  have absent : (bindParameters .empty closure.parameters arguments).find? name = none := by
    rw [Option.eq_none_iff_forall_ne_some]
    intro value found
    rcases (find?_bindParameters _ _ _ _ _).mp found with ⟨index, last, _⟩ | ⟨_, found⟩
    · exact unbound (List.mem_of_getElem? last.1)
    · simp [Dictionary.find?_empty] at found
  have logged : (store.logCall closure arguments).Layered := layered
  have scopes : (store.logCall closure arguments).scopes = store.scopes := rfl
  rw [enterCall, lookup_addChild logged present absent, lookup_congr scopes]

end Calls

end Store

section Lets

variable {scope : ScopeId} {store after : Store} {value : Value} {name : String}

theorem Node.Ends.of_let {position : Position} {node : Node}
    (ends : (Node.letStatement position name node).Ends scope store (.value value) after) :
    ∃ middle, node.Ends scope store (.value value) middle ∧ after = middle.assign scope name value := by
  obtain ⟨_, depth, ends⟩ := ends
  obtain ⟨bound, middle, former, latter⟩ := Evaluation.exists_of_bind_value store ends
  cases unit : bound.isUnit with
  | true => simp [bindName_of_unit scope position name middle unit] at latter
  | false =>
      rw [bindName_of_plain scope position name middle unit] at latter
      cases latter
      exact ⟨middle, ⟨nofun, depth, former⟩, rfl⟩

theorem Node.Ends.plain {node : Node} (ends : node.Ends scope store (.value value) after) :
    value.IsPlain := by
  obtain ⟨_, depth, ends⟩ := ends
  have plain := evaluate_plain scope (invokeWithin_plain depth) node store
  rwa [ends] at plain

theorem Node.Ends.binds_let {position : Position} {node : Node} (present : scope < store.scopes.size)
    (ends : (Node.letStatement position name node).Ends scope store (.value value) after) :
    after.binding? scope name = some value := by
  obtain ⟨middle, ⟨_, depth, former⟩, rfl⟩ := ends.of_let
  have kept := (evaluate_framed depth node scope store).size
  rw [former] at kept
  rw [Store.binding?_assign, if_pos ⟨rfl, Nat.lt_of_lt_of_le present kept, rfl⟩]

end Lets

namespace Host

variable {host : Host}

theorem Reached.layered_after (reached : host.Reached) {scope : ScopeId}
    (present : scope < host.store.scopes.size) {node : Node} {value : Value} {after : Store}
    (ends : node.Ends scope host.store (.value value) after) : after.Layered := by
  obtain ⟨_, depth, ends⟩ := ends
  have next := (Reached.step reached (.evaluate depth node present)).intact
  rw [ends] at next
  exact next.store.parents

theorem Reached.reads_let (reached : host.Reached) {scope : ScopeId}
    (present : scope < host.store.scopes.size) {position place : Position} {node : Node}
    {name : String} {result : Value} {later inside : Store} {callee : ScopeId} {closure : Closure}
    {arguments : List Value}
    (ends : (Node.letStatement position name node).Ends scope host.store (.value result) later)
    (looks : later.LooksAt closure.scope name scope) (unshadowed : name ∉ closure.parameters)
    (entered : enter closure arguments place later = (.value callee, inside)) :
    (Node.identifier place name).Ends callee inside (.value result) inside := by
  have layered := reached.layered_after present ends
  have bound := ends.binds_let present
  have found : later.lookup closure.scope name = some result :=
    (Store.lookup_eq_some_iff layered).mpr ⟨scope, looks, bound⟩
  have there := looks.lt_size (Store.lt_of_binding? bound)
  by_cases refused : later.Refuses closure arguments
  · simp [enter_of_refused closure arguments place later refused] at entered
  · rw [enter_of_accepted closure arguments place later refused] at entered
    cases entered
    have read := resolve_of_lookup _ place name _
      ((Store.lookup_enterCall layered there arguments unshadowed).trans found)
    rw [Outcome.ofValue_of_plain ends.plain] at read
    exact ⟨nofun, 0, read⟩

/-- Exactly who sees a binding, in every state that a host can bring about; and a function sees what
is bound later around it. -/
theorem bindings_seen (reached : host.Reached) {scope : ScopeId}
    (present : scope < host.store.scopes.size) (name : String) (value : Value) :
    (∀ viewer query, host.store.LooksOutward viewer query) ∧
    host.store.ShowsBinding scope name value ∧
    ∀ position node result later,
      (Node.letStatement position name node).Ends scope host.store (.value result) later →
      ∀ closure arguments place callee inside,
        later.LooksAt closure.scope name scope → name ∉ closure.parameters →
        enter closure arguments place later = (.value callee, inside) →
        (Node.identifier place name).Ends callee inside (.value result) inside := by
  have layered := reached.intact.store.parents
  refine ⟨fun viewer query => Store.looksOutward layered viewer query,
    Store.showsBinding layered present name value, ?_⟩
  intro position node result later ends closure arguments place callee inside looks unshadowed entered
  exact reached.reads_let present ends looks unshadowed entered

theorem bindings_seen_nested :
    let opened : Host := ⟨(Store.initial.openSession none (some .default)).2, [], []⟩
    let child (host : Host) (parent : ScopeId) : Host :=
      { host with store := (host.store.addChild parent .empty).2 }
    let host := child (child (child opened 0) 1) 0
    let later := host.store.assign 1 "x" (.integer 5)
    let closure : Closure := ⟨[], .identifier .start "x", 2⟩
    let called := later.enterCall closure []
    host.Reached ∧ 1 < host.store.scopes.size ∧
    host.store.LooksAt 2 "x" 1 ∧ later.lookup 2 "x" = some (.integer 5) ∧
    host.store.Inside 1 0 ∧ later.lookup 0 "x" = host.store.lookup 0 "x" ∧
    host.store.Siblings 1 3 ∧ later.lookup 3 "x" = host.store.lookup 3 "x" ∧
    (Node.letStatement .start "x" (.integer .start 5)).Ends 1 host.store (.value (.integer 5)) later ∧
    (Node.identifier .start "x").Ends called.1 called.2 (.value (.integer 5)) called.2 := by
  intro opened child host later closure called
  have rooted : opened.Reached := .step .initial (.openSession none _)
  have first : (child opened 0).Reached := .step rooted (.addChild (by decide))
  have second : (child (child opened 0) 1).Reached := .step first (.addChild (by decide))
  have reached : host.Reached := .step second (.addChild (by decide))
  have present : 1 < host.store.scopes.size := by decide
  have outer (store : Store) (one : store.parent? 1 = some 0) (top : store.parent? 0 = none) :
      store.Ascends 1 [1, 0] := .up one (.top top)
  have ascends := outer host.store rfl rfl
  have looks : host.store.LooksAt 2 "x" 1 := ⟨[2], [0], .up rfl ascends, by simp; rfl⟩
  have looksLater : later.LooksAt 2 "x" 1 := ⟨[2], [0], .up rfl (outer later rfl rfl), by simp; rfl⟩
  have inside : host.store.Inside 1 0 := ⟨by decide, [1, 0], ascends, by simp⟩
  have siblings : host.store.Siblings 1 3 := ⟨by decide, rfl⟩
  have ends : (Node.letStatement .start "x" (.integer .start 5)).Ends 1 host.store
      (.value (.integer 5)) later := ⟨nofun, 0, rfl⟩
  obtain ⟨_, shows, read⟩ := bindings_seen reached present "x" (.integer 5)
  exact ⟨reached, present, looks, shows.seen 2 "x" ⟨rfl, looks⟩, inside,
    shows.apart 0 (Or.inl inside) "x", siblings, shows.apart 3 (Or.inr siblings) "x", ends,
    read _ _ _ _ ends closure [] .start _ _ looksLater (by simp [closure]) rfl⟩

end Host

end MonkeyLang
