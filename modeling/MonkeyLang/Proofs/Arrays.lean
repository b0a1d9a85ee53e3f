import MonkeyLang.Proofs.HostEquality

/-! Arrays: what indexing finds in them, and what the builtins for them give back. A builtin checks how
many arguments it has, then the type of the first one, and touches nothing until both are right. -/

namespace MonkeyLang

open Value

section Elements

variable {elements : List Value} {number : Int} (position : Position)

theorem elementAt_of_found {element : Value} (natural : 0 ≤ number)
    (found : elements[number.toNat]? = some element) :
    elementAt elements position (.integer number) = .ok element := by
  simp [elementAt, natural, found]

theorem elementAt_of_outside (outside : number < 0 ∨ elements.length ≤ number) :
    Fails .indexRange position (elementAt elements position (.integer number)) := by
  have absent : (if 0 ≤ number then elements[number.toNat]? else none) = none := by
    split
    · rw [List.getElem?_eq_none_iff]
      omega
    · rfl
  simp [elementAt, absent, Cause.kind]

theorem exists_elementAt (natural : 0 ≤ number) (inside : number < elements.length) :
    ∃ element, elements[number.toNat]? = some element := by
  have bound : number.toNat < elements.length := by omega
  exact ⟨_, List.getElem?_eq_getElem bound⟩

end Elements

structure Prolongs (elements : List Value) (value : Value) (longer : List Value) : Prop where
  kept : ∀ (position : Position) (number : Int), 0 ≤ number → number < elements.length →
    ∃ element, elementAt elements position (.integer number) = .ok element ∧
      elementAt longer position (.integer number) = .ok element
  added : ∀ position : Position, elementAt longer position (.integer elements.length) = .ok value
  outside : ∀ (position : Position) (number : Int), number < 0 ∨ elements.length < number →
    Fails .indexRange position (elementAt longer position (.integer number))

structure Drops (elements shorter : List Value) : Prop where
  kept : ∀ (position : Position) (number : Int), 0 ≤ number → number < elements.length - 1 →
    ∃ element, elementAt elements position (.integer (number + 1)) = .ok element ∧
      elementAt shorter position (.integer number) = .ok element
  outside : ∀ (position : Position) (number : Int), number < 0 ∨ elements.length - 1 ≤ number →
    Fails .indexRange position (elementAt shorter position (.integer number))

theorem prolongs_append (elements : List Value) (value : Value) :
    Prolongs elements value (elements ++ [value]) where
  kept := by
    intro position number natural inside
    obtain ⟨element, found⟩ := exists_elementAt natural inside
    refine ⟨element, elementAt_of_found position natural found, ?_⟩
    apply elementAt_of_found position natural
    rw [List.getElem?_append_left (by omega), found]
  added position := elementAt_of_found position (by omega) (by simp)
  outside position number beyond := elementAt_of_outside position (by simp; omega)

theorem drops_tail (head : Value) (tail : List Value) : Drops (head :: tail) tail where
  kept := by
    intro position number natural inside
    have bound : number < tail.length := by simpa using inside
    obtain ⟨element, found⟩ := exists_elementAt natural bound
    refine ⟨element, ?_, elementAt_of_found position natural found⟩
    apply elementAt_of_found position (by omega)
    have next : (number + 1).toNat = number.toNat + 1 := by omega
    rw [next, List.getElem?_cons_succ, found]
  outside position number beyond := elementAt_of_outside position (by simpa using beyond)

def Action.Gives (action : Action Value) (arguments : List Value) (store : Store) (result : Value)
    (after : Store) : Prop :=
  ∀ depth name position caller,
    invokeWithin depth (.builtin name action) arguments position caller store =
      (.value result, after)

/-- The builtin gives an array with these elements that is identical to nothing made before. -/
structure Action.Makes (action : Action Value) (arguments elements : List Value) : Prop where
  gives : ∀ store : Store, action.Gives arguments store (.array store.nextIdentity elements)
    { store with nextIdentity := store.nextIdentity + 1 }
  fresh : ∀ (store : Store) (other : Value), store.HasMade other →
    ¬Holds "==" (.array store.nextIdentity elements) other
  unknown : ∀ host : Host, host.Reached → ∀ other, host.Has other →
    ¬Holds "==" (.array host.store.nextIdentity elements) other

section Results

variable {action : Action Value} {arguments : List Value}

theorem Action.gives_of_performed {store after : Store} {result : Value}
    (plain : result.isPending = false)
    (performed : ∀ name position settings,
      action.perform name position arguments settings store = (.value result, after)) :
    action.Gives arguments store result after := by
  intro depth name position caller
  rw [invokeWithin_builtin]
  exact call_of_plain plain (performed name position _)

theorem Store.HasMade.not_equal {store : Store} {other : Value} (made : store.HasMade other)
    (elements : List Value) : ¬Holds "==" (.array store.nextIdentity elements) other := by
  rw [holds_equal_iff_identical]
  cases other with
  | array identity others =>
      have older : identity < store.nextIdentity := made
      simpa [identical] using Nat.ne_of_gt older
  | _ => simp [identical]

theorem Action.makes_of_performed {elements : List Value}
    (performed : ∀ store name position settings,
      action.perform name position arguments settings store =
        (.value (store.addArray elements).1, (store.addArray elements).2)) :
    action.Makes arguments elements where
  gives store := gives_of_performed rfl (performed store)
  fresh _ _ made := made.not_equal elements
  unknown _ reached _ has := (has.made reached.intact).not_equal elements

theorem push_makes (identity : Identity) (elements : List Value) (value : Value) :
    (Action.push).Makes [.array identity elements, value] (elements ++ [value]) :=
  Action.makes_of_performed fun _ _ _ _ => rfl

theorem rest_makes (identity : Identity) (head : Value) (tail : List Value) :
    (Action.rest).Makes [.array identity (head :: tail)] tail :=
  Action.makes_of_performed fun _ _ _ _ => rfl

theorem len_gives (identity : Identity) (elements : List Value) (store : Store) :
    (Action.len).Gives [.array identity elements] store (.integer elements.length) store :=
  Action.gives_of_performed rfl fun _ _ _ => rfl

theorem Action.gives_of_chosen {choice : Option Value} {element : Value} {store : Store}
    (found : choice = some element) (plain : element.isPending = false)
    (performed : ∀ name position settings,
      action.perform name position arguments settings store = (.value (choice.getD .null), store)) :
    action.Gives arguments store element store := by
  subst found
  exact gives_of_performed plain performed

theorem first_gives (identity : Identity) {elements : List Value} {element : Value}
    (found : elements.head? = some element) (plain : element.isPending = false) (store : Store) :
    (Action.first).Gives [.array identity elements] store element store :=
  Action.gives_of_chosen found plain fun _ _ _ => rfl

theorem last_gives (identity : Identity) {elements : List Value} {element : Value}
    (found : elements.getLast? = some element) (plain : element.isPending = false) (store : Store) :
    (Action.last).Gives [.array identity elements] store element store :=
  Action.gives_of_chosen found plain fun _ _ _ => rfl

end Results

inductive Action.Takes : Action Value → Nat → List ValueType → Prop
  | len : Takes .len 1 [.string, .array]
  | first : Takes .first 1 [.array]
  | last : Takes .last 1 [.array]
  | rest : Takes .rest 1 [.array]
  | push : Takes .push 2 [.array]

def Evaluation.NeverErrs {α : Type} (body : Evaluation α) : Prop :=
  ∀ store error, (body store).1 ≠ .failed (.error error)

theorem Evaluation.neverErrs_pure {α : Type} (result : α) :
    (pure result : Evaluation α).NeverErrs := by
  intro store error failed
  cases failed

theorem Evaluation.neverErrs_make {α : Type} (construct : Store → α × Store) :
    (make construct).NeverErrs := by
  intro store error failed
  cases failed

inductive Checked {α : Type} (count : Nat) (types : List ValueType) (arguments : List Value)
    (position : Position) (store : Store) : Outcome α × Store → Prop
  | miscounted {cause : Cause} : arguments.length ≠ count → cause.kind = .arity →
      Checked count types arguments position store (.failed (.error ⟨cause, position⟩), store)
  | mistyped {cause : Cause} : arguments.length = count →
      (arguments.getD 0 .null).type ∉ types → cause.kind = .typeMismatch →
      Checked count types arguments position store (.failed (.error ⟨cause, position⟩), store)
  | accepted {ends : Outcome α × Store} : arguments.length = count →
      (arguments.getD 0 .null).type ∈ types → (∀ error, ends.1 ≠ .failed (.error error)) →
      Checked count types arguments position store ends

namespace Checked

variable {α β : Type} {count : Nat} {types : List ValueType} {arguments : List Value}
  {position : Position} {store : Store}

theorem value {result : α} {after : Store} (fits : arguments.length = count)
    (right : (arguments.getD 0 .null).type ∈ types) :
    Checked count types arguments position store (.value result, after) := by
  refine .accepted fits right fun error failed => ?_
  cases failed

theorem bind {first : Evaluation α} {next : α → Evaluation β}
    (checked : Checked count types arguments position store (first store))
    (never : ∀ result, (next result).NeverErrs) :
    Checked count types arguments position store ((first >>= next) store) := by
  rcases ends : first store with ⟨outcome, after⟩
  rw [ends] at checked
  cases checked with
  | miscounted differs kind =>
      rw [Evaluation.bind_of_failed store next ends]
      exact .miscounted differs kind
  | mistyped fits wrong kind =>
      rw [Evaluation.bind_of_failed store next ends]
      exact .mistyped fits wrong kind
  | accepted fits right plain =>
      refine .accepted fits right fun error failed => ?_
      cases outcome with
      | value result =>
          rw [Evaluation.bind_of_value store next ends] at failed
          exact never result after error failed
      | returning origin result =>
          rw [Evaluation.bind_of_returning store next ends] at failed
          cases failed
      | failed failure =>
          rw [Evaluation.bind_of_failed store next ends] at failed
          cases failed
          exact plain error rfl
      | exhausted =>
          rw [Evaluation.bind_of_exhausted store next ends] at failed
          cases failed

theorem afterCount {next : Evaluation α} (label : String)
    (typed : arguments.length = count → Checked count types arguments position store (next store)) :
    Checked count types arguments position store
      ((checkArity label position count arguments.length >>= fun _ => next) store) := by
  by_cases fits : arguments.length = count
  · have passed : checkArity label position count arguments.length store = (.value (), store) := by
      simp [checkArity, fits]
    rw [Evaluation.bind_of_value store _ passed]
    exact typed fits
  · have stopped : checkArity label position count arguments.length store =
        (.failed (.error ⟨.builtinArity label count arguments.length, position⟩), store) := by
      have differs : (count : Int) ≠ arguments.length := by omega
      simp [checkArity, differs]
    rw [Evaluation.bind_of_failed store _ stopped]
    exact .miscounted fits rfl

end Checked

section Checks

variable {count : Nat} {types : List ValueType} {arguments : List Value} {position : Position}
  {store : Store}

theorem arrayArgument_checked (label : String) (count : Nat) :
    Checked count [.array] arguments position store
      (arrayArgument label position count arguments store) := by
  refine Checked.afterCount label fun fits => ?_
  cases first : arguments.getD 0 .null with
  | array identity elements => exact .value fits (by rw [first]; simp [type])
  | _ => exact .mistyped fits (by rw [first]; simp [type]) rfl

theorem Action.Takes.performed {action : Action Value} (takes : action.Takes count types)
    (name : String) (settings : Settings) :
    Checked count types arguments position store
      (action.perform name position arguments settings store) := by
  cases takes with
  | len =>
      refine Checked.afterCount "len" fun fits => ?_
      cases first : arguments.getD 0 .null with
      | string text => exact .value fits (by rw [first]; simp [type])
      | array identity elements => exact .value fits (by rw [first]; simp [type])
      | _ => exact .mistyped fits (by rw [first]; simp [type]) rfl
  | first => exact (arrayArgument_checked "first" 1).bind fun _ => Evaluation.neverErrs_pure _
  | last => exact (arrayArgument_checked "last" 1).bind fun _ => Evaluation.neverErrs_pure _
  | rest =>
      refine (arrayArgument_checked "rest" 1).bind fun elements => ?_
      cases elements with
      | nil => exact Evaluation.neverErrs_pure _
      | cons head tail => exact Evaluation.neverErrs_make _
  | push => exact (arrayArgument_checked "push" 2).bind fun _ => Evaluation.neverErrs_make _

theorem acceptResult_neverErrs (name : String) (result : Value) :
    (acceptResult name result).NeverErrs := by
  intro store error failed
  unfold acceptResult at failed
  split at failed <;> cases failed

theorem Action.Takes.checked {action : Action Value} (takes : action.Takes count types)
    (arguments : List Value) (depth : Nat) (name : String) (position : Position) (caller : ScopeId)
    (store : Store) :
    Checked count types arguments position store
      (invokeWithin depth (.builtin name action) arguments position caller store) := by
  rw [invokeWithin_builtin]
  exact (takes.performed name _).bind fun result => acceptResult_neverErrs name result

end Checks

def Outcome.Raises (kind : ErrorKind) (outcome : Outcome Value) : Prop :=
  ∃ error : EvaluationError, outcome = .failed (.error error) ∧ error.kind = kind

/-- A refused call raises an error at its own place, for the number of its arguments or else for the
type of the first, and changes nothing. -/
structure Guards (count : Nat) (types : List ValueType) (arguments : List Value)
    (position : Position) (store : Store) (ends : Outcome Value × Store) : Prop where
  arity : ends.1.Raises .arity ↔ arguments.length ≠ count
  mismatch : ∀ first others, arguments = first :: others → arguments.length = count →
    (ends.1.Raises .typeMismatch ↔ first.type ∉ types)
  unchanged : ∀ error, ends.1 = .failed (.error error) → error.position = position ∧ ends.2 = store

theorem raises_failed {kind : ErrorKind} {cause : Cause} {position : Position} :
    Outcome.Raises kind (.failed (.error ⟨cause, position⟩)) ↔ cause.kind = kind := by
  constructor
  · rintro ⟨error, same, raised⟩
    cases same
    exact raised
  · exact fun same => ⟨_, rfl, same⟩

theorem Checked.guards {count : Nat} {types : List ValueType} {arguments : List Value}
    {position : Position} {store : Store} {ends : Outcome Value × Store}
    (checked : Checked count types arguments position store ends) :
    Guards count types arguments position store ends := by
  cases checked with
  | miscounted differs kind =>
      refine ⟨by simp [raises_failed, kind, differs], fun _ _ _ fits => (differs fits).elim, ?_⟩
      rintro error ⟨⟩
      exact ⟨rfl, rfl⟩
  | mistyped fits wrong kind =>
      refine ⟨by simp [raises_failed, kind, fits], ?_, ?_⟩
      · rintro first others rfl _
        exact iff_of_true (raises_failed.mpr kind) wrong
      · rintro error ⟨⟩
        exact ⟨rfl, rfl⟩
  | accepted fits right plain =>
      have never (kind : ErrorKind) : ¬ends.1.Raises kind := by
        rintro ⟨error, failed, _⟩
        exact plain error failed
      refine ⟨iff_of_false (never _) (not_not_intro fits), ?_, ?_⟩
      · rintro first others rfl _
        exact iff_of_false (never _) (not_not_intro right)
      · exact fun error failed => (plain error failed).elim

/-- The builtin gives back the element at this index, unless that is a return under way, which is no
value of the language. -/
def Action.Picks (action : Action Value) (elements : List Value) (number : Int) : Prop :=
  ∃ element, (∀ position, elementAt elements position (.integer number) = .ok element) ∧
    (element.isPending = false →
      ∀ identity store, action.Gives [.array identity elements] store element store)

theorem first_picks (head : Value) (tail : List Value) : (Action.first).Picks (head :: tail) 0 :=
  ⟨head, fun _ => rfl, fun plain identity store => first_gives identity rfl plain store⟩

theorem last_picks (head : Value) (tail : List Value) :
    (Action.last).Picks (head :: tail) ((head :: tail).length - 1) := by
  have found : (head :: tail).getLast? = some ((head :: tail).getLast (by simp)) :=
    List.getLast?_eq_some_getLast _
  refine ⟨_, fun position => ?_, fun plain identity store => last_gives identity found plain store⟩
  apply elementAt_of_found position (by simp)
  rw [List.getLast?_eq_getElem?] at found
  simpa using found

structure Pushes (identity : Identity) (elements : List Value) (value : Value)
    (longer : List Value) : Prop where
  makes : (Action.push).Makes [.array identity elements, value] longer
  prolongs : Prolongs elements value longer
  counted : ∀ other store, (Action.len).Gives [.array other longer] store
    (.integer (elements.length + 1)) store
  last : value.isPending = false →
    ∀ other store, (Action.last).Gives [.array other longer] store value store

structure Shortens (identity : Identity) (elements : List Value) (value : Value)
    (longer shorter : List Value) : Prop where
  makes : (Action.rest).Makes [.array identity elements] shorter
  drops : Drops elements shorter
  first : (Action.first).Picks elements 0
  last : (Action.last).Picks elements (elements.length - 1)
  commutes : ∀ other another, ∃ common, (Action.rest).Makes [.array other longer] common ∧
    (Action.push).Makes [.array another shorter, value] common

theorem pushes_append (identity : Identity) (elements : List Value) (value : Value) :
    Pushes identity elements value (elements ++ [value]) where
  makes := push_makes identity elements value
  prolongs := prolongs_append elements value
  counted other store := by simpa using len_gives other (elements ++ [value]) store
  last plain other store := last_gives other (by simp) plain store

theorem shortens_tail (identity : Identity) (head : Value) (tail : List Value) (value : Value) :
    Shortens identity (head :: tail) value (head :: tail ++ [value]) tail where
  makes := rest_makes identity head tail
  drops := drops_tail head tail
  first := first_picks head tail
  last := last_picks head tail
  commutes other another :=
    ⟨tail ++ [value], rest_makes other head _, push_makes another tail value⟩

/-- What indexing sees of `push` and `rest`, and what the builtins for arrays check first. -/
theorem array_laws (identity : Identity) (elements : List Value) (value : Value) :
    (∃ longer, Pushes identity elements value longer ∧
      (0 < elements.length → ∃ shorter, Shortens identity elements value longer shorter)) ∧
    ∀ action count types, action.Takes count types →
      ∀ arguments depth name position caller store,
        Guards count types arguments position store
          (invokeWithin depth (.builtin name action) arguments position caller store) := by
  constructor
  · refine ⟨elements ++ [value], pushes_append identity elements value, ?_⟩
    intro occupied
    cases elements with
    | nil => simp at occupied
    | cons head tail => exact ⟨tail, shortens_tail identity head tail value⟩
  · intro action count types takes arguments depth name position caller store
    exact (takes.checked arguments depth name position caller store).guards

theorem array_laws_pair :
    let pair := [Value.integer 5, .array 0 []]
    ∃ longer shorter common,
      (Action.push).Makes [.array 1 pair, .unit] longer ∧ Prolongs pair .unit longer ∧
      (Action.last).Gives [.array 2 longer] .empty .unit .empty ∧
      (Action.rest).Makes [.array 1 pair] shorter ∧ Drops pair shorter ∧
      (Action.rest).Makes [.array 2 longer] common ∧
      (Action.push).Makes [.array 3 shorter, .unit] common ∧
      (invokeWithin 0 (.builtin "push" .push) [.unit, .null] .start 0 .empty).1.Raises
        .typeMismatch := by
  intro pair
  obtain ⟨⟨longer, pushes, occupied⟩, guarded⟩ := array_laws 1 pair .unit
  obtain ⟨shorter, shortens⟩ := occupied (by decide)
  obtain ⟨common, former, latter⟩ := shortens.commutes 2 3
  have guards := guarded .push 2 [.array] .push [.unit, .null] 0 "push" .start 0 .empty
  exact ⟨longer, shorter, common, pushes.makes, pushes.prolongs, pushes.last rfl 2 .empty,
    shortens.makes, shortens.drops, former, latter,
    (guards.mismatch .unit [.null] rfl rfl).mpr (by decide)⟩

end MonkeyLang
