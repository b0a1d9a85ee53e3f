import Mathlib.Data.Int.ModEq
import Mathlib.Tactic.Ring
import MonkeyLang.Proofs.Range

/-! Arithmetic over whole trees. Each operation reduces its result to 64 bits and literals are not
reduced at all, yet where the reductions take place does not show: they change nothing modulo
`2 ^ 64`, so a tree of sums, differences and products comes to its exact value, reduced once. Division
does not respect such congruences, and what it leaves of the dividend is exact all the same. -/

namespace MonkeyLang

theorem wrap_modEq (number : Int) : wrap number ≡ number [ZMOD 2 ^ 64] := wrap_emod number

theorem InWord.eq_of_modEq {left right : Int} (leftFits : InWord left) (rightFits : InWord right)
    (congruent : left ≡ right [ZMOD 2 ^ 64]) : left = right := by
  simp only [InWord, Int.ModEq] at leftFits rightFits congruent
  omega

theorem eq_wrap_iff (number exact : Int) :
    number = wrap exact ↔ InWord number ∧ number ≡ exact [ZMOD 2 ^ 64] := by
  constructor
  · rintro rfl
    exact ⟨inWord_wrap exact, wrap_modEq exact⟩
  · rintro ⟨fits, congruent⟩
    exact fits.eq_of_modEq (inWord_wrap exact) (congruent.trans (wrap_modEq exact).symm)

def Node.Gives (invoke : Invoke) (scope : ScopeId) (store : Store) (node : Node) (number : Int) :
    Prop :=
  node.evaluate invoke scope store = (.value (.integer number), store)

section Operations

variable {invoke : Invoke} {scope : ScopeId} {store : Store} {first second : Int}

theorem gives_literal (position : Position) (number : Int) :
    Node.Gives invoke scope store (.integer position number) number := rfl

theorem gives_negation {operand : Node} (position : Position)
    (given : operand.Gives invoke scope store first) :
    Node.Gives invoke scope store (.unary position "-" operand) (wrap (-first)) :=
  Evaluation.bind_of_value store _ given

theorem gives_operation {left right : Node} {result : Int} (symbol : String) (position : Position)
    (leftGiven : left.Gives invoke scope store first)
    (rightGiven : right.Gives invoke scope store second)
    (applied : applyToIntegers symbol position first second = .ok (.integer result)) :
    Node.Gives invoke scope store (.binary position symbol left right) result := by
  have applies : Evaluation.ofExcept (applyBinary symbol position (.integer first)
      (.integer second)) store = (.value (.integer result), store) := by
    rw [applyBinary, applied]
    rfl
  exact (Evaluation.bind_of_value store _ leftGiven).trans
    ((Evaluation.bind_of_value store _ rightGiven).trans applies)

end Operations

/-- A tree made of integer literals, negations, sums, differences and products, with its value in
unbounded arithmetic. -/
inductive Node.Denotes : Node → Int → Prop
  | literal (position : Position) (number : Int) : Denotes (.integer position number) number
  | negation (position : Position) {operand : Node} {number : Int} : Denotes operand number →
      Denotes (.unary position "-" operand) (-number)
  | sum (position : Position) {left right : Node} {first second : Int} : Denotes left first →
      Denotes right second → Denotes (.binary position "+" left right) (first + second)
  | difference (position : Position) {left right : Node} {first second : Int} :
      Denotes left first → Denotes right second →
      Denotes (.binary position "-" left right) (first - second)
  | product (position : Position) {left right : Node} {first second : Int} : Denotes left first →
      Denotes right second → Denotes (.binary position "*" left right) (first * second)

/-- As `Node.Gives`, up to reduction. A literal that is out of range stays so, hence the integer is
in range only if the tree is more than a literal. -/
def Node.GivesReduced (invoke : Invoke) (scope : ScopeId) (store : Store) (node : Node)
    (exact : Int) : Prop :=
  ∃ result, node.Gives invoke scope store result ∧ result ≡ exact [ZMOD 2 ^ 64] ∧
    ((∀ position number, node ≠ .integer position number) → InWord result)

section Trees

variable {node : Node} {exact : Int} {invoke : Invoke} {scope : ScopeId} {store : Store}

theorem Node.GivesReduced.negation (position : Position)
    (given : node.GivesReduced invoke scope store exact) :
    Node.GivesReduced invoke scope store (.unary position "-" node) (-exact) := by
  obtain ⟨result, gives, congruent, _⟩ := given
  have negated := (wrap_modEq (-result)).trans congruent.neg
  exact ⟨_, gives_negation position gives, negated, fun _ => inWord_wrap _⟩

theorem Node.GivesReduced.operation {left right : Node} {symbol : String} {position : Position}
    {first second : Int} {combine : Int → Int → Int}
    (leftGiven : left.GivesReduced invoke scope store first)
    (rightGiven : right.GivesReduced invoke scope store second)
    (applied : ∀ a b, applyToIntegers symbol position a b = .ok (.integer (wrap (combine a b))))
    (respects : ∀ {a b}, a ≡ first [ZMOD 2 ^ 64] → b ≡ second [ZMOD 2 ^ 64] →
      combine a b ≡ combine first second [ZMOD 2 ^ 64]) :
    Node.GivesReduced invoke scope store (.binary position symbol left right)
      (combine first second) := by
  obtain ⟨a, leftGives, leftCongruent, _⟩ := leftGiven
  obtain ⟨b, rightGives, rightCongruent, _⟩ := rightGiven
  have combined := (wrap_modEq (combine a b)).trans (respects leftCongruent rightCongruent)
  exact ⟨_, gives_operation symbol position leftGives rightGives (applied a b), combined,
    fun _ => inWord_wrap _⟩

theorem Node.Denotes.givesReduced (denotes : node.Denotes exact) :
    node.GivesReduced invoke scope store exact := by
  induction denotes with
  | literal position number =>
      exact ⟨number, gives_literal position number, .refl number,
        fun compound => (compound position number rfl).elim⟩
  | negation position _ ih => exact ih.negation position
  | sum position _ _ left right => exact left.operation right (fun _ _ => rfl) Int.ModEq.add
  | difference position _ _ left right =>
      exact left.operation right (fun _ _ => rfl) Int.ModEq.sub
  | product position _ _ left right =>
      exact left.operation right (fun _ _ => rfl) Int.ModEq.mul

end Trees

/-- Reducing at every step is reducing once: a tree of literals with an operation comes to the
integer of 64 bits that is congruent to its exact value. -/
theorem evaluate_reduces_once {node : Node} {exact : Int} (denotes : node.Denotes exact)
    (compound : ∀ position number, node ≠ .integer position number) (invoke : Invoke)
    (scope : ScopeId) (store : Store) :
    node.evaluate invoke scope store = (.value (.integer (wrap exact)), store) ∧
      ∀ number, number = wrap exact ↔ InWord number ∧ number ≡ exact [ZMOD 2 ^ 64] := by
  refine ⟨?_, fun number => eq_wrap_iff number exact⟩
  obtain ⟨result, given, congruent, fits⟩ := denotes.givesReduced
  have reduced : result = wrap exact := (eq_wrap_iff result exact).mpr ⟨fits compound, congruent⟩
  rw [← reduced]
  exact given

theorem evaluate_reduces_once_beyond :
    let exceeding : Node := .integer .start (2 ^ 64 + 5)
    let overflowing : Node :=
      .binary .start "+" (.integer .start (2 ^ 63 - 1)) (.integer .start 1)
    let node : Node := .binary .start "*" exceeding (.unary .start "-" overflowing)
    node.Denotes ((2 ^ 64 + 5) * -(2 ^ 63 - 1 + 1)) ∧
    (∀ position number, node ≠ .integer position number) ∧
    node.evaluate (invokeWithin 0) 0 .empty = (.value (.integer (-2 ^ 63)), .empty) := by
  intro exceeding overflowing node
  have denotes : node.Denotes ((2 ^ 64 + 5) * -(2 ^ 63 - 1 + 1)) :=
    .product .start (.literal .start _)
      (.negation .start (.sum .start (.literal .start _) (.literal .start _)))
  have compound : ∀ position number, node ≠ .integer position number := nofun
  exact ⟨denotes, compound, (evaluate_reduces_once denotes compound (invokeWithin 0) 0 .empty).1⟩

/-- The quotient goes toward zero: what it leaves of the dividend is smaller than the divisor, and
is zero or has the sign of the dividend. -/
def Truncates (dividend divisor result : Int) : Prop :=
  (dividend - result * divisor).natAbs < divisor.natAbs ∧
    (dividend - result * divisor = 0 ∨ (dividend - result * divisor).sign = dividend.sign)

section Division

variable {dividend divisor : Int}

theorem truncates_tdiv (dividend : Int) (nonzero : divisor ≠ 0) :
    Truncates dividend divisor (dividend.tdiv divisor) := by
  have left : dividend - dividend.tdiv divisor * divisor = dividend.tmod divisor := by
    rw [Int.tmod_def, Int.mul_comm]
  rw [Truncates, left]
  constructor
  · rw [Int.natAbs_tmod]
    exact Nat.mod_lt _ (Int.natAbs_pos.mpr nonzero)
  · by_cases divides : divisor ∣ dividend
    · exact Or.inl (Int.tmod_eq_zero_of_dvd divides)
    · exact Or.inr (by rw [Int.sign_tmod, if_neg divides])

-- Two remainders of one dividend lie on one side of zero, so they differ by less than the divisor.
theorem natAbs_sub_lt_of_sign {first second : Int} (small : first.natAbs < divisor.natAbs)
    (otherSmall : second.natAbs < divisor.natAbs)
    (sign : first = 0 ∨ first.sign = dividend.sign)
    (otherSign : second = 0 ∨ second.sign = dividend.sign) :
    (first - second).natAbs < divisor.natAbs := by
  rcases Int.lt_trichotomy dividend 0 with negative | zero | positive
  · rw [Int.sign_eq_neg_one_of_neg negative, Int.sign_eq_neg_one_iff_neg] at sign otherSign
    omega
  · rw [zero, Int.sign_zero, Int.sign_eq_zero_iff_zero] at sign otherSign
    omega
  · rw [Int.sign_eq_one_of_pos positive, Int.sign_eq_one_iff_pos] at sign otherSign
    omega

theorem Truncates.unique {first second : Int} (former : Truncates dividend divisor first)
    (latter : Truncates dividend divisor second) : first = second := by
  have close := natAbs_sub_lt_of_sign latter.1 former.1 latter.2 former.2
  have multiple : dividend - second * divisor - (dividend - first * divisor) =
      divisor * (first - second) := by ring
  rw [multiple] at close
  have none : divisor * (first - second) = 0 :=
    Int.eq_zero_of_dvd_of_natAbs_lt_natAbs (Int.dvd_mul_right divisor _) close
  have nonzero : divisor ≠ 0 := by
    have small := former.1
    omega
  exact Int.eq_of_sub_eq_zero ((Int.mul_eq_zero.mp none).resolve_left nonzero)

theorem quotient_eq_error_iff (zero : ZeroDivisor) :
    quotient dividend divisor = .error zero ↔ divisor = 0 := by
  simp [quotient]

theorem applyToIntegers_divide (position : Position) (dividend : Int) (nonzero : divisor ≠ 0) :
    applyToIntegers "/" position dividend divisor =
      .ok (.integer (wrap (dividend.tdiv divisor))) := by
  have known : BinaryOperator.ofSymbol? "/" = some .divide := rfl
  simp only [applyToIntegers, known, quotient, nonzero, if_false, signedQuotient_eq_tdiv]

theorem Truncates.inWord_remainder {result : Int} (truncates : Truncates dividend divisor result)
    (fits : InWord divisor) : InWord (dividend - result * divisor) := by
  have small := truncates.1
  simp only [InWord] at fits ⊢
  omega

theorem wrap_remainder {result : Int} (fits : InWord (dividend - result * divisor)) :
    wrap (dividend - wrap (wrap result * divisor)) = dividend - result * divisor := by
  have product : wrap (wrap result * divisor) ≡ result * divisor [ZMOD 2 ^ 64] :=
    (wrap_modEq _).trans ((wrap_modEq result).mul_right divisor)
  exact ((eq_wrap_iff _ _).mpr ⟨fits, product.symm.sub_left dividend⟩).symm

/-- Division goes toward zero. It fails only for a zero divisor, which no operation of the language
comes to, and `a - (a / b) * b` is what it leaves of `a`. -/
theorem division_truncates (dividend divisor : Int) :
    (∀ zero, quotient dividend divisor = .error zero ↔ divisor = 0) ∧
    (∀ symbol position zero,
      applyToIntegers symbol position dividend divisor ≠ .error (.fault (.zeroDivisor zero))) ∧
    (divisor ≠ 0 → ∃ result, quotient dividend divisor = .ok result ∧
      (∀ number, Truncates dividend divisor number ↔ number = result) ∧
      ∀ (invoke : Invoke) (scope : ScopeId) (store : Store) (a b : Node) (inner : Position),
        a.Gives invoke scope store dividend → b.Gives invoke scope store divisor →
        (InWord result → Node.Gives invoke scope store (.binary inner "/" a b) result) ∧
        (InWord divisor → ∀ (minuend factor : Node) (outer middle : Position),
          minuend.Gives invoke scope store dividend → factor.Gives invoke scope store divisor →
          Node.Gives invoke scope store
            (.binary outer "-" minuend (.binary middle "*" (.binary inner "/" a b) factor))
            (dividend - result * divisor))) := by
  refine ⟨quotient_eq_error_iff, fun symbol position =>
    (applyToIntegers_applied symbol position dividend divisor).ne_zeroDivisor, ?_⟩
  intro nonzero
  have truncates := truncates_tdiv dividend nonzero
  refine ⟨dividend.tdiv divisor, by simp [quotient, nonzero, signedQuotient_eq_tdiv], ?_, ?_⟩
  · intro number
    constructor
    · exact fun other => other.unique truncates
    · rintro rfl
      exact truncates
  · intro invoke scope store a b inner aGiven bGiven
    have divided := gives_operation "/" inner aGiven bGiven
      (applyToIntegers_divide inner dividend nonzero)
    constructor
    · intro fits
      have kept := (eq_wrap_iff _ _).mpr ⟨fits, .refl (dividend.tdiv divisor)⟩
      rwa [← kept] at divided
    · intro fits minuend factor outer middle minuendGiven factorGiven
      have multiplied := gives_operation "*" middle divided factorGiven rfl
      have subtracted := gives_operation "-" outer minuendGiven multiplied rfl
      rwa [wrap_remainder (truncates.inWord_remainder fits)] at subtracted

theorem division_truncates_least :
    let least : Node := .integer .start (-2 ^ 63)
    let minusOne : Node := .integer .start (-1)
    let divided : Node := .binary .start "/" least minusOne
    quotient (-2 ^ 63) (-1) = .ok (2 ^ 63) ∧ Truncates (-2 ^ 63) (-1) (2 ^ 63) ∧
    divided.Gives (invokeWithin 0) 0 .empty (-2 ^ 63) ∧ InWord (-1) ∧
    Node.Gives (invokeWithin 0) 0 .empty
      (.binary .start "-" least (.binary .start "*" divided minusOne)) 0 := by
  intro least minusOne divided
  have exceeds : quotient (-2 ^ 63) (-1) = .ok (2 ^ 63) := rfl
  have fits : InWord (-1) := by simp [InWord]
  obtain ⟨result, same, unique, trees⟩ := (division_truncates (-2 ^ 63) (-1)).2.2 (by decide)
  cases exceeds.symm.trans same
  have given := (trees (invokeWithin 0) 0 .empty least minusOne .start (gives_literal .start _)
    (gives_literal .start _)).2 fits least minusOne .start .start (gives_literal .start _)
    (gives_literal .start _)
  exact ⟨exceeds, (unique _).mpr rfl, rfl, fits, given⟩

end Division

end MonkeyLang
