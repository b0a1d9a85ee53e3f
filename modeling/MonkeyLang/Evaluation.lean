import MonkeyLang.Store

/-! Computations over a store, and the ways in which they end. Whatever the end, the store is kept
as it was then. -/

namespace MonkeyLang

/-- `returning` is a return on its way to the call or program that it leaves, with its identity if a
host held it before; `exhausted` says that calls were nested too deep. -/
inductive Outcome (α : Type) where
  | value (result : α)
  | returning (origin : Option Identity) (result : Value)
  | failed (failure : Failure)
  | exhausted

/-- A value that is itself a return under way ends the computation that yields it. -/
def Outcome.ofValue : Value → Outcome Value
  | .pendingReturn identity result => .returning (some identity) result
  | plain => .value plain

def Evaluation (α : Type) : Type := Store → Outcome α × Store

namespace Evaluation

variable {α β : Type}

@[always_inline, inline]
def andThen (first : Evaluation α) (next : α → Evaluation β) : Evaluation β := fun store =>
  match first store with
  | (.value result, store) => next result store
  | (.returning origin result, store) => (.returning origin result, store)
  | (.failed failure, store) => (.failed failure, store)
  | (.exhausted, store) => (.exhausted, store)

@[always_inline]
instance : Monad Evaluation where
  pure result := fun store => (.value result, store)
  bind := andThen

def returning (result : Value) : Evaluation α := fun store => (.returning none result, store)

def exhausted : Evaluation α := fun store => (.exhausted, store)

def fault (fault : Fault) : Evaluation α := fun store => (.failed (.fault fault), store)

def failAt (position : Position) (cause : Cause) : Evaluation α := fun store =>
  (.failed (.error ⟨cause, position⟩), store)

def yield (value : Value) : Evaluation Value := fun store => (.ofValue value, store)

def ofExcept (result : Except Failure Value) : Evaluation Value := fun store =>
  match result with
  | .ok value => (.ofValue value, store)
  | .error failure => (.failed failure, store)

def read (view : Store → α) : Evaluation α := fun store => (.value (view store), store)

def update (change : Store → Store) : Evaluation Unit := fun store => (.value (), change store)

def make (construct : Store → α × Store) : Evaluation α := fun store =>
  let (result, store) := construct store
  (.value result, store)

def arrive (body : Evaluation Value) : Evaluation Value := fun store =>
  match body store with
  | (.returning _ result, store) => (.ofValue result, store)
  | ended => ended

/-- The end of a program: a return arrives here, and it has to carry a plain value. -/
def conclude (body : Evaluation Value) : Evaluation Value := fun store =>
  match body store with
  | (.returning _ (.pendingReturn _ _), store) => (.failed (.fault .nestedReturn), store)
  | (.returning _ result, store) => (.value result, store)
  | ended => ended

end Evaluation

end MonkeyLang
