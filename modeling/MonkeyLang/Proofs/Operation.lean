import Mathlib.Data.List.Basic
import MonkeyLang.Proofs.Arithmetic
import MonkeyLang.Proofs.Soundness

/-! What the binary operators come to, by the types of their operands. Equality is there for every
pair, the order for two integers and for two strings, and arithmetic for two integers, for whatever
is joined to a string, and for null, which it passes on. Every other pair is an error of the program
at the place of the operation, never a fault. An operator that does not exist gives no value either,
but with most operands it is taken for such an error; only two integers tell it by a fault. -/

namespace MonkeyLang

namespace Value

def BothOf (type : ValueType) (left right : Value) : Prop := left.type = type ∧ right.type = type

def EitherOf (type : ValueType) (left right : Value) : Prop := left.type = type ∨ right.type = type

def Comparable (left right : Value) : Prop :=
  BothOf .integer left right ∨ BothOf .string left right

inductive NamesNull : Value → Value → String → Prop
  | left {other : Value} : other.type ≠ .null → NamesNull .null other "left value is"
  | right {other : Value} : other.type ≠ .null → NamesNull other .null "right value is"
  | both : NamesNull .null .null "both values are"

variable {value left right : Value}

theorem exists_integer_of_type (integer : value.type = .integer) :
    ∃ number, value = .integer number := by
  cases value with
  | integer number => exact ⟨number, rfl⟩
  | _ => cases integer

theorem exists_string_of_type (string : value.type = .string) : ∃ text, value = .string text := by
  cases value with
  | string text => exact ⟨text, rfl⟩
  | _ => cases string

theorem eitherOf_null_iff : EitherOf .null left right ↔ (left.isNull || right.isNull) = true := by
  have single (value : Value) : value.type = .null ↔ value.isNull = true := by
    cases value <;> simp [type, isNull]
  simp only [EitherOf, single, Bool.or_eq_true]

theorem eitherOf_string_iff :
    EitherOf .string left right ↔ (left.isString || right.isString) = true := by
  have single (value : Value) : value.type = .string ↔ value.isString = true := by
    cases value <;> simp [type, isString]
  simp only [EitherOf, single, Bool.or_eq_true]

theorem Comparable.not_null (comparable : Comparable left right) : ¬EitherOf .null left right := by
  rcases comparable with ⟨first, second⟩ | ⟨first, second⟩
  all_goals simp [EitherOf, first, second]

theorem namesNull_of_null (null : EitherOf .null left right) :
    NamesNull left right (nullSide left.isNull right.isNull) := by
  cases left with
  | null =>
      cases right with
      | null => exact .both
      | _ => exact .left nofun
  | _ =>
      cases right with
      | null => exact .right nofun
      | _ => rcases null with null | null <;> cases null

inductive Operands : Value → Value → Prop
  | integers (first second : Int) : Operands (.integer first) (.integer second)
  | strings (first second : String) : Operands (.string first) (.string second)
  | mixed {left right : Value} : ¬Comparable left right →
      (∀ symbol position,
        applyBinary symbol position left right = applyToMixed symbol position left right) →
      Operands left right

theorem operands (left right : Value) : Operands left right := by
  by_cases comparable : Comparable left right
  · rcases comparable with ⟨leftType, rightType⟩ | ⟨leftType, rightType⟩
    · obtain ⟨first, rfl⟩ := exists_integer_of_type leftType
      obtain ⟨second, rfl⟩ := exists_integer_of_type rightType
      exact .integers first second
    · obtain ⟨first, rfl⟩ := exists_string_of_type leftType
      obtain ⟨second, rfl⟩ := exists_string_of_type rightType
      exact .strings first second
  · refine .mixed comparable fun symbol position => ?_
    unfold applyBinary
    split
    · exact (comparable (Or.inl ⟨rfl, rfl⟩)).elim
    · exact (comparable (Or.inr ⟨rfl, rfl⟩)).elim
    · rfl

end Value

open Value

def Fails (kind : ErrorKind) (position : Position) (applied : Except Failure Value) : Prop :=
  ∃ cause : Cause, cause.kind = kind ∧ applied = failAt position cause

section Failing

variable {kind : ErrorKind} {position : Position}

@[simp] theorem fails_failAt {cause : Cause} :
    Fails kind position (failAt position cause) ↔ cause.kind = kind := by
  constructor
  · rintro ⟨other, same, applied⟩
    cases applied
    exact same
  · exact fun same => ⟨cause, same, rfl⟩

@[simp] theorem not_fails_ok {value : Value} : ¬Fails kind position (.ok value) := nofun

@[simp] theorem failAt_ne_ok {cause : Cause} {value : Value} : failAt position cause ≠ .ok value :=
  nofun

@[simp] theorem not_fails_fault {fault : Fault} : ¬Fails kind position (.error (.fault fault)) :=
  nofun

@[simp] theorem failAt_ne_fault {cause : Cause} {fault : Fault} :
    (failAt position cause : Except Failure Value) ≠ .error (.fault fault) :=
  nofun

end Failing

structure OrderOutcome (position : Position) (left right : Value)
    (applied : Except Failure Value) : Prop where
  compared : (∃ flag, applied = .ok (.boolean flag)) ↔ Comparable left right
  refused : Fails .nullOperand position applied ↔ EitherOf .null left right
  named : EitherOf .null left right → ∃ sides cause, NamesNull left right sides ∧
    applied = failAt position cause ∧ cause.message = "Null value error: " ++ sides ++ " null"
  mismatched : Fails .typeMismatch position applied ↔
    ¬Comparable left right ∧ ¬EitherOf .null left right

structure ArithmeticOutcome (symbol : String) (position : Position) (left right : Value)
    (applied : Except Failure Value) : Prop where
  absorbed : applied = .ok .null ↔ EitherOf .null left right
  joined : ¬EitherOf .null left right → symbol = "+" → EitherOf .string left right →
    applied = .ok (.string (left.inspect ++ right.inspect))
  computed : BothOf .integer left right →
    (∃ number, InWord number ∧ applied = .ok (.integer number)) ∨
      Fails .divisionByZero position applied
  undefined : Fails .divisionByZero position applied ↔
    symbol = "/" ∧ left.type = .integer ∧ right = .integer 0
  mismatched : Fails .typeMismatch position applied ↔ ¬EitherOf .null left right ∧
    ¬(symbol = "+" ∧ EitherOf .string left right) ∧ ¬BothOf .integer left right

section Comparisons

variable {symbol : String} {left right : Value} (position : Position)

theorem unsupported_of_null (symbol : String) (null : EitherOf .null left right) :
    unsupported symbol position left right =
      failAt position (.nullOperand left.isNull right.isNull) := by
  rw [unsupported, if_pos (eitherOf_null_iff.mp null)]

theorem unsupported_of_plain (symbol : String) (plain : ¬EitherOf .null left right) :
    unsupported symbol position left right =
      failAt position (.operands symbol left.type right.type) := by
  rw [unsupported, if_neg fun null => plain (eitherOf_null_iff.mpr null)]

theorem applyBinary_equality (equality : symbol ∈ ["==", "!="]) (left right : Value) :
    ∃ flag, applyBinary symbol position left right = .ok (.boolean flag) := by
  rcases List.mem_pair.mp equality with rfl | rfl
  all_goals
    cases operands left right with
    | integers first second => exact ⟨_, rfl⟩
    | strings first second => exact ⟨_, rfl⟩
    | mixed _ applied => exact ⟨_, applied _ position⟩

theorem applyBinary_comparable (order : symbol ∈ ["<", ">"]) (comparable : Comparable left right) :
    ∃ flag, applyBinary symbol position left right = .ok (.boolean flag) := by
  rcases List.mem_pair.mp order with rfl | rfl
  all_goals
    cases operands left right with
    | integers first second => exact ⟨_, rfl⟩
    | strings first second => exact ⟨_, rfl⟩
    | mixed incomparable _ => exact (incomparable comparable).elim

theorem applyBinary_incomparable (order : symbol ∈ ["<", ">"])
    (incomparable : ¬Comparable left right) :
    applyBinary symbol position left right = unsupported symbol position left right := by
  rcases List.mem_pair.mp order with rfl | rfl
  all_goals
    cases operands left right with
    | integers first second => exact (incomparable (Or.inl ⟨rfl, rfl⟩)).elim
    | strings first second => exact (incomparable (Or.inr ⟨rfl, rfl⟩)).elim
    | mixed _ applied => exact applied _ position

theorem orderOutcome (order : symbol ∈ ["<", ">"]) (left right : Value) :
    OrderOutcome position left right (applyBinary symbol position left right) := by
  by_cases comparable : Comparable left right
  · obtain ⟨flag, applied⟩ := applyBinary_comparable position order comparable
    have plain := comparable.not_null
    rw [applied]
    constructor <;> simp [comparable, plain]
  · rw [applyBinary_incomparable position order comparable]
    by_cases null : EitherOf .null left right
    · rw [unsupported_of_null position symbol null]
      exact {
        compared := by simp [comparable]
        refused := by simp [null, Cause.kind]
        named := fun _ => ⟨_, _, namesNull_of_null null, rfl, rfl⟩
        mismatched := by simp [null, Cause.kind] }
    · rw [unsupported_of_plain position symbol null]
      constructor <;> simp [comparable, null, Cause.kind]

end Comparisons

section Arithmetic

variable {symbol : String} {left right : Value} (position : Position)

theorem applyToMixed_joins (plain : ¬EitherOf .null left right)
    (string : EitherOf .string left right) :
    applyToMixed "+" position left right = .ok (.string (left.inspect ++ right.inspect)) :=
  (if_neg fun null => plain (eitherOf_null_iff.mpr null)).trans
    (if_pos (eitherOf_string_iff.mp string))

variable (arithmetic : symbol ∈ ["+", "-", "*", "/"])
include arithmetic

theorem arithmetic_cases : symbol = "+" ∨ symbol = "-" ∨ symbol = "*" ∨ symbol = "/" := by
  simpa using arithmetic

theorem applyToMixed_of_null (null : EitherOf .null left right) :
    applyToMixed symbol position left right = .ok .null := by
  rcases arithmetic_cases arithmetic with rfl | rfl | rfl | rfl
  all_goals exact if_pos (eitherOf_null_iff.mp null)

theorem applyToMixed_mismatch (plain : ¬EitherOf .null left right)
    (unjoined : ¬(symbol = "+" ∧ EitherOf .string left right)) :
    applyToMixed symbol position left right =
      failAt position (.operands symbol left.type right.type) := by
  have refused := unsupported_of_plain position symbol plain
  have proper : ¬(left.isNull || right.isNull) = true :=
    fun null => plain (eitherOf_null_iff.mpr null)
  rcases arithmetic_cases arithmetic with rfl | rfl | rfl | rfl
  · have separate : ¬(left.isString || right.isString) = true :=
      fun string => unjoined ⟨rfl, eitherOf_string_iff.mpr string⟩
    exact (if_neg proper).trans ((if_neg separate).trans refused)
  all_goals exact (if_neg proper).trans refused

theorem applyToIntegers_arithmetic {first second : Int}
    (defined : ¬(symbol = "/" ∧ second = 0)) :
    ∃ number, InWord number ∧
      applyToIntegers symbol position first second = .ok (.integer number) := by
  rcases arithmetic_cases arithmetic with rfl | rfl | rfl | rfl
  case inr.inr.inr =>
    have nonzero : second ≠ 0 := fun zero => defined ⟨rfl, zero⟩
    exact ⟨_, inWord_wrap _, applyToIntegers_divide position first nonzero⟩
  all_goals exact ⟨_, inWord_wrap _, rfl⟩

theorem arithmeticOutcome_integers (first second : Int) :
    ArithmeticOutcome symbol position (.integer first) (.integer second)
      (applyToIntegers symbol position first second) := by
  by_cases undefined : symbol = "/" ∧ second = 0
  · obtain ⟨rfl, rfl⟩ := undefined
    have applied : applyToIntegers "/" position first 0 = failAt position .divisionByZero := rfl
    rw [applied]
    constructor <;> simp [EitherOf, BothOf, Value.type, Cause.kind]
  · obtain ⟨number, fits, applied⟩ := applyToIntegers_arithmetic position arithmetic undefined
    rw [applied]
    exact {
      absorbed := by simp [EitherOf, Value.type]
      joined := by simp [EitherOf, Value.type]
      computed := fun _ => Or.inl ⟨number, fits, rfl⟩
      undefined := by simpa [Value.type] using undefined
      mismatched := by simp [BothOf, Value.type] }

theorem arithmeticOutcome_strings (first second : String) :
    ArithmeticOutcome symbol position (.string first) (.string second)
      (applyToStrings symbol position first second) := by
  by_cases joins : symbol = "+"
  · subst joins
    have applied : applyToStrings "+" position first second = .ok (.string (first ++ second)) := rfl
    rw [applied]
    constructor <;> simp [EitherOf, BothOf, Value.type, Value.inspect]
  · have applied : applyToStrings symbol position first second =
        failAt position (.stringOperation symbol) := by
      rcases (arithmetic_cases arithmetic).resolve_left joins with rfl | rfl | rfl <;> rfl
    rw [applied]
    constructor <;> simp [EitherOf, BothOf, Value.type, Cause.kind, joins]

theorem arithmeticOutcome_mixed (incomparable : ¬Comparable left right) :
    ArithmeticOutcome symbol position left right (applyToMixed symbol position left right) := by
  have zero : ¬(left.type = .integer ∧ right = .integer 0) := by
    rintro ⟨first, rfl⟩
    exact incomparable (Or.inl ⟨first, rfl⟩)
  have integers : ¬BothOf .integer left right := fun both => incomparable (Or.inl both)
  -- Null is looked for first, so it also absorbs a string.
  by_cases null : EitherOf .null left right
  · rw [applyToMixed_of_null position arithmetic null]
    constructor <;> simp [null, zero, integers]
  · by_cases joins : symbol = "+" ∧ EitherOf .string left right
    · obtain ⟨rfl, string⟩ := joins
      rw [applyToMixed_joins position null string]
      constructor <;> simp [null, zero, integers, string]
    · rw [applyToMixed_mismatch position arithmetic null joins]
      exact {
        absorbed := by simp [null]
        joined := fun _ plus string => (joins ⟨plus, string⟩).elim
        computed := fun both => (integers both).elim
        undefined := by simp [zero, Cause.kind]
        mismatched := by simp [null, joins, integers, Cause.kind] }

theorem arithmeticOutcome (left right : Value) :
    ArithmeticOutcome symbol position left right (applyBinary symbol position left right) := by
  cases operands left right with
  | integers first second => exact arithmeticOutcome_integers position arithmetic first second
  | strings first second => exact arithmeticOutcome_strings position arithmetic first second
  | mixed incomparable applied =>
      rw [applied]
      exact arithmeticOutcome_mixed position arithmetic incomparable

end Arithmetic

section Operators

variable {symbol : String} (position : Position)

theorem applyBinary_error_at (known : symbol ∈ ["+", "-", "*", "/", "==", "!=", "<", ">"])
    {left right : Value} {failure : Failure}
    (applied : applyBinary symbol position left right = .error failure) :
    ∃ cause, failure = .error ⟨cause, position⟩ := by
  have outcome := applyBinary_applied symbol position left right
  rw [applied] at outcome
  cases outcome with
  | erred cause => exact ⟨cause, rfl⟩
  | unknown unknown other =>
      exact (unknown (ofSymbol?_binary (List.contains_iff_mem.mpr known))).elim

/-- What every operation comes to, for operands of all types. -/
theorem applyBinary_outcome (known : symbol ∈ ["+", "-", "*", "/", "==", "!=", "<", ">"])
    (left right : Value) :
    (∀ failure, applyBinary symbol position left right = .error failure →
      ∃ cause, failure = .error ⟨cause, position⟩) ∧
    (symbol ∈ ["==", "!="] →
      ∃ flag, applyBinary symbol position left right = .ok (.boolean flag)) ∧
    (symbol ∈ ["<", ">"] →
      OrderOutcome position left right (applyBinary symbol position left right)) ∧
    (symbol ∈ ["+", "-", "*", "/"] →
      ArithmeticOutcome symbol position left right (applyBinary symbol position left right)) :=
  ⟨fun _ => applyBinary_error_at position known,
    fun equality => applyBinary_equality position equality left right,
    fun order => orderOutcome position order left right,
    fun arithmetic => arithmeticOutcome position arithmetic left right⟩

theorem applyBinary_outcome_string :
    ">" ∈ ["+", "-", "*", "/", "==", "!=", "<", ">"] ∧
    (∃ cause, applyBinary ">" .start .null (.string "a") = failAt .start cause ∧
      cause.message = "Null value error: left value is null") ∧
    "+" ∈ ["+", "-", "*", "/", "==", "!=", "<", ">"] ∧
    applyBinary "+" .start .null (.string "a") = .ok .null ∧
    applyBinary "+" .start .unit (.string "a") = .ok (.string "unita") := by
  have greater : ">" ∈ ["+", "-", "*", "/", "==", "!=", "<", ">"] := by decide
  have plus : "+" ∈ ["+", "-", "*", "/", "==", "!=", "<", ">"] := by decide
  have order := (applyBinary_outcome .start greater .null (.string "a")).2.2.1 (by decide)
  have mixed (left : Value) :=
    (applyBinary_outcome .start plus left (.string "a")).2.2.2 (by decide)
  obtain ⟨sides, cause, names, applied, message⟩ := order.named (Or.inl rfl)
  cases names with
  | left _ =>
      exact ⟨greater, ⟨cause, applied, message⟩, plus, (mixed .null).absorbed.mpr (Or.inl rfl),
        (mixed .unit).joined (by simp [EitherOf, Value.type]) rfl (Or.inr rfl)⟩

end Operators

/-- An operator that does not exist gives no value; only two integers have it end in a fault. -/
structure UnknownOutcome (symbol : String) (position : Position) (left right : Value)
    (applied : Except Failure Value) : Prop where
  valueless : ∀ value, applied ≠ .ok value
  faulted : applied = .error (.fault (.integerOperator symbol)) ↔ BothOf .integer left right
  refused : Fails .nullOperand position applied ↔ EitherOf .null left right
  mismatched : Fails .typeMismatch position applied ↔
    ¬BothOf .integer left right ∧ ¬EitherOf .null left right

section Unknown

variable {symbol : String} (position : Position)

theorem ofSymbol?_unary_eq_none (unknown : symbol ∉ ["!", "-"]) :
    UnaryOperator.ofSymbol? symbol = none := by
  rw [Option.eq_none_iff_forall_ne_some]
  intro operator found
  rw [UnaryOperator.ofSymbol?_eq_some] at found
  subst found
  cases operator <;> simp [UnaryOperator.symbol] at unknown

theorem ofSymbol?_binary_eq_none
    (unknown : symbol ∉ ["+", "-", "*", "/", "==", "!=", "<", ">"]) :
    BinaryOperator.ofSymbol? symbol = none := by
  rw [Option.eq_none_iff_forall_ne_some]
  intro operator found
  rw [BinaryOperator.ofSymbol?_eq_some] at found
  subst found
  cases operator <;> simp [BinaryOperator.symbol] at unknown

theorem applyUnary_unknown (unknown : symbol ∉ ["!", "-"]) (operand : Value) :
    applyUnary symbol position operand = .error (.fault (.unaryOperator symbol)) := by
  simp only [applyUnary, ofSymbol?_unary_eq_none unknown]

theorem applyBinary_unknown (unknown : symbol ∉ ["+", "-", "*", "/", "==", "!=", "<", ">"])
    (left right : Value) :
    UnknownOutcome symbol position left right (applyBinary symbol position left right) := by
  have none := ofSymbol?_binary_eq_none unknown
  cases operands left right with
  | integers first second =>
      have applied : applyBinary symbol position (.integer first) (.integer second) =
          .error (.fault (.integerOperator symbol)) := by
        rw [applyBinary, applyToIntegers, none]
      rw [applied]
      constructor <;> simp [BothOf, EitherOf, Value.type]
  | strings first second =>
      have applied : applyBinary symbol position (.string first) (.string second) =
          failAt position (.stringOperation symbol) := by
        rw [applyBinary, applyToStrings, none]
      rw [applied]
      constructor <;> simp [BothOf, EitherOf, Value.type, Cause.kind]
  | mixed incomparable applied =>
      have integers : ¬BothOf .integer left right := fun both => incomparable (Or.inl both)
      have passed : applyBinary symbol position left right =
          unsupported symbol position left right := by
        rw [applied, applyToMixed, none]
      rw [passed]
      by_cases null : EitherOf .null left right
      · rw [unsupported_of_null position symbol null]
        constructor <;> simp [integers, null, Cause.kind]
      · rw [unsupported_of_plain position symbol null]
        constructor <;> simp [integers, null, Cause.kind]

end Unknown

/-- A unary operator that does not exist is a fault for every operand, a binary one for two integers
only. -/
theorem unknown_operators_fail (symbol : String) (position : Position) :
    (symbol ∉ ["!", "-"] → ∀ operand,
      applyUnary symbol position operand = .error (.fault (.unaryOperator symbol))) ∧
    (symbol ∉ ["+", "-", "*", "/", "==", "!=", "<", ">"] → ∀ left right,
      UnknownOutcome symbol position left right (applyBinary symbol position left right)) :=
  ⟨fun unknown => applyUnary_unknown position unknown,
    fun unknown => applyBinary_unknown position unknown⟩

theorem unknown_operators_fail_percent :
    "%" ∉ ["!", "-"] ∧
    applyUnary "%" .start (.integer 5) = .error (.fault (.unaryOperator "%")) ∧
    "%" ∉ ["+", "-", "*", "/", "==", "!=", "<", ">"] ∧
    applyBinary "%" .start (.integer 5) (.integer 2) = .error (.fault (.integerOperator "%")) ∧
    Fails .typeMismatch .start (applyBinary "%" .start (.string "a") (.string "b")) ∧
    Fails .nullOperand .start (applyBinary "%" .start .null (.integer 2)) ∧
    Fails .typeMismatch .start (applyBinary "%" .start (.boolean true) (.integer 2)) := by
  have unary : "%" ∉ ["!", "-"] := by decide
  have binary : "%" ∉ ["+", "-", "*", "/", "==", "!=", "<", ">"] := by decide
  obtain ⟨faults, fails⟩ := unknown_operators_fail "%" .start
  exact ⟨unary, faults unary _, binary, (fails binary _ _).faulted.mpr ⟨rfl, rfl⟩,
    (fails binary _ _).mismatched.mpr (by simp [BothOf, EitherOf, Value.type]),
    (fails binary _ _).refused.mpr (Or.inl rfl),
    (fails binary _ _).mismatched.mpr (by simp [BothOf, EitherOf, Value.type])⟩

end MonkeyLang
