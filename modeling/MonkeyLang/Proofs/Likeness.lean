import Mathlib.Data.List.Forall2
import MonkeyLang.Proofs.Primitive
import MonkeyLang.Proofs.Reachability

/-! Values that differ only in what is behind identities and scope numbers. Operators and builtins
cannot tell them apart, except by comparing identities. -/

namespace MonkeyLang

section Members

variable {related better : Value → Value → Prop} {values twins : List Value}

theorem forall_of_members (members : List.Forall₂ related values twins)
    (implied : ∀ value ∈ values, ∀ twin, related value twin → better value twin) :
    List.Forall₂ better values twins := by
  have each := (List.forall₂_and_left values twins).mpr ⟨implied, members⟩
  exact each.imp fun _ twin both => both.1 twin both.2

theorem exists_of_member (members : List.Forall₂ related values twins) {value : Value}
    (member : value ∈ values) : ∃ twin ∈ twins, related value twin := by
  induction members with
  | nil => cases member
  | cons head tail ih =>
      rcases List.mem_cons.mp member with same | inRest
      · subst same
        exact ⟨_, by simp, head⟩
      · obtain ⟨twin, twinMember, held⟩ := ih inRest
        exact ⟨twin, by simp [twinMember], held⟩

theorem map_eq_of_members {α : Type} {view : Value → α}
    (members : List.Forall₂ (fun value twin => view value = view twin) values twins) :
    values.map view = twins.map view := by
  have mapped : List.Forall₂ (· = ·) (values.map view) (twins.map view) := by
    rwa [List.forall₂_map_left_iff, List.forall₂_map_right_iff]
  rwa [List.forall₂_eq_eq_eq] at mapped

end Members

inductive Value.IsScalar : Value → Prop
  | null : IsScalar .null
  | unit : IsScalar .unit
  | boolean (flag : Bool) : IsScalar (.boolean flag)
  | integer (number : Int) : IsScalar (.integer number)
  | string (text : String) : IsScalar (.string text)

theorem Value.Computed.isScalar {value : Value} (computed : value.Computed) : value.IsScalar := by
  cases computed <;> constructor

inductive Action.Alike (related : Value → Value → Prop) : Action Value → Action Value → Prop
  | same (action : Action Value) : (∀ held, action ≠ .constant held) → Alike related action action
  | constant {left right : Value} : related left right →
      Alike related (.constant left) (.constant right)

/-- The values have the same form, and what they are made of is related. -/
inductive Value.Alike (related : Value → Value → Prop) : Value → Value → Prop
  | null : Alike related .null .null
  | unit : Alike related .unit .unit
  | boolean (flag : Bool) : Alike related (.boolean flag) (.boolean flag)
  | integer (number : Int) : Alike related (.integer number) (.integer number)
  | string (text : String) : Alike related (.string text) (.string text)
  | array {identity other : Identity} {left right : List Value} : List.Forall₂ related left right →
      Alike related (.array identity left) (.array other right)
  | function {identity other : Identity} {left right : Closure} :
      left.parameters = right.parameters → left.body = right.body →
      Alike related (.function identity left) (.function other right)
  | builtin {identity other : Identity} {name : String} {left right : Action Value} :
      left.Alike related right →
      Alike related (.builtin identity name left) (.builtin other name right)
  | pendingReturn {identity other : Identity} {left right : Value} : related left right →
      Alike related (.pendingReturn identity left) (.pendingReturn other right)

namespace Value.Alike

variable {related : Value → Value → Prop} {left right : Value} (alike : left.Alike related right)
include alike

theorem type_eq : left.type = right.type := by
  cases alike <;> rfl

theorem isNull_eq : left.isNull = right.isNull := by
  cases alike <;> rfl

theorem isUnit_eq : left.isUnit = right.isUnit := by
  cases alike <;> rfl

theorem isString_eq : left.isString = right.isString := by
  cases alike <;> rfl

theorem isTruthy_eq : left.isTruthy = right.isTruthy := by
  cases alike <;> rfl

theorem isPending_eq : left.isPending = right.isPending := by
  cases alike <;> rfl

theorem applyUnary_eq (operator : String) (position : Position) :
    applyUnary operator position left = applyUnary operator position right := by
  cases alike <;> rfl

theorem parts : List.Forall₂ related left.parts right.parts := by
  cases alike with
  | array members => exact members
  | builtin alike =>
      cases alike with
      | same _ varies =>
          rename_i action
          cases action with
          | constant held => exact (varies held rfl).elim
          | _ => exact .nil
      | constant held => exact .cons held .nil
  | pendingReturn result => exact .cons result .nil
  | _ => exact .nil

end Value.Alike

section Operators

variable {related : Value → Value → Prop} {left right leftOther rightOther : Value}

theorem applyToMixed_alike (first : left.Alike related leftOther)
    (second : right.Alike related rightOther)
    (identical : left.identical right = leftOther.identical rightOther)
    (firstText : left.inspect = leftOther.inspect) (secondText : right.inspect = rightOther.inspect)
    (operator : String) (position : Position) :
    applyToMixed operator position left right =
      applyToMixed operator position leftOther rightOther := by
  simp only [applyToMixed, unsupported, first.isNull_eq, second.isNull_eq, first.isString_eq,
    second.isString_eq, first.type_eq, second.type_eq, identical, firstText, secondText]

theorem applyBinary_alike (first : left.Alike related leftOther)
    (second : right.Alike related rightOther)
    (identical : left.identical right = leftOther.identical rightOther)
    (firstText : left.inspect = leftOther.inspect) (secondText : right.inspect = rightOther.inspect)
    (operator : String) (position : Position) :
    applyBinary operator position left right =
      applyBinary operator position leftOther rightOther := by
  have mixed := applyToMixed_alike first second identical firstText secondText operator position
  cases first with
  | integer number =>
      cases second with
      | integer other => rfl
      | _ => exact mixed
  | string text =>
      cases second with
      | string other => rfl
      | _ => exact mixed
  | _ => exact mixed

def ResultsAlike (related : Value → Value → Prop) :
    Except Failure Value → Except Failure Value → Prop
  | .ok left, .ok right => related left right
  | .error failure, .error other => failure = other
  | _, _ => False

theorem ResultsAlike.refl_of_ok {result : Except Failure Value}
    (held : ∀ value, result = .ok value → related value value) :
    ResultsAlike related result result := by
  cases result with
  | ok value => exact held value rfl
  | error failure => rfl

theorem elementAt_alike {elements others : List Value} {index other : Value}
    (members : List.Forall₂ related elements others) (chosen : index.Alike related other)
    (position : Position) :
    ResultsAlike related (elementAt elements position index) (elementAt others position other) := by
  cases chosen with
  | integer number =>
      simp only [elementAt, failAt, members.length_eq]
      by_cases negative : 0 ≤ number
      · simp only [negative, if_true]
        by_cases bound : number.toNat < elements.length
        · have otherBound : number.toNat < others.length := members.length_eq ▸ bound
          rw [List.getElem?_eq_getElem bound, List.getElem?_eq_getElem otherBound]
          exact (List.forall₂_iff_get.mp members).2 _ bound otherBound
        · have otherBound : ¬number.toNat < others.length := members.length_eq ▸ bound
          rw [List.getElem?_eq_none (Nat.le_of_not_lt bound),
            List.getElem?_eq_none (Nat.le_of_not_lt otherBound)]
          rfl
      · simp only [negative, if_false]
        rfl
  | _ => rfl

end Operators

section Shared

def Value.Shared (good : Value → Prop) (value twin : Value) : Prop :=
  value = twin ∧ value.Throughout good

variable {good : Value → Prop}

theorem Value.throughout_scalar {value : Value} (scalar : value.IsScalar) (holds : good value) :
    value.Throughout good := by
  apply Value.throughout_of_partless _ holds
  cases scalar <;> rfl

theorem Value.shared_members {values twins : List Value} :
    List.Forall₂ (Value.Shared good) values twins ↔
      values = twins ∧ ∀ value ∈ values, value.Throughout good := by
  constructor
  · intro members
    induction members with
    | nil => exact ⟨rfl, nofun⟩
    | cons head tail ih =>
        obtain ⟨rfl, first⟩ := head
        obtain ⟨rfl, others⟩ := ih
        exact ⟨rfl, by simpa using ⟨first, others⟩⟩
  · rintro ⟨rfl, all⟩
    exact List.forall₂_same.mpr fun value member => ⟨rfl, all value member⟩

theorem Value.alike_refl {related : Value → Value → Prop} {value : Value}
    (held : ∀ part ∈ value.parts, related part part) : value.Alike related value := by
  cases value with
  | null => exact .null
  | unit => exact .unit
  | boolean flag => exact .boolean flag
  | integer number => exact .integer number
  | string text => exact .string text
  | array identity elements => exact .array (List.forall₂_same.mpr held)
  | function identity closure => exact .function rfl rfl
  | builtin identity name action =>
      cases action with
      | constant result => exact .builtin (.constant (held result (by simp [Value.parts])))
      | _ => exact .builtin (.same _ fun _ same => by cases same)
  | pendingReturn identity result => exact .pendingReturn (held result (by simp [Value.parts]))

theorem Value.Shared.alike {value twin : Value} (shared : value.Shared good twin) :
    value.Alike (Value.Shared good) twin := by
  obtain ⟨rfl, all⟩ := shared
  exact Value.alike_refl fun part member => ⟨rfl, all.part member⟩

theorem Value.shared_of_found {α : Type} {view : α → Value} {found other : Option α}
    (same : found = other) (holds : ∀ item, found = some item → (view item).Throughout good) :
    Option.Rel (fun item twin => (view item).Shared good (view twin)) found other := by
  subst same
  cases found with
  | none => exact .none
  | some item => exact .some ⟨rfl, holds item rfl⟩

end Shared

end MonkeyLang
