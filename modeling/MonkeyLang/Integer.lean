/-! Arithmetic of the language's integers: results are reduced to 64 bits, quotients go toward
zero. Both work on unbounded integers, because a literal may lie outside the 64-bit range. -/

namespace MonkeyLang

def wordSpan : Nat := 1 <<< 64

theorem wordSpan_eq : wordSpan = 18446744073709551616 := rfl

def greatestWord : Int := (1 <<< 63) - 1

/-- The lowest 64 bits of a number, the highest of them for the sign. -/
def wrap (number : Int) : Int :=
  let low := number % wordSpan
  if greatestWord < low then low - wordSpan else low

theorem wrap_eq_bmod (number : Int) : wrap number = number.bmod wordSpan := by
  have greatest : greatestWord = 9223372036854775807 := rfl
  simp only [wrap, greatest, wordSpan_eq, Int.bmod_def]
  split <;> split <;> omega

theorem wrap_bounds (number : Int) :
    -wordSpan ≤ 2 * wrap number ∧ 2 * wrap number < wordSpan := by
  simp only [wrap_eq_bmod, wordSpan_eq, Int.bmod_def]
  omega

theorem wrap_emod (number : Int) : wrap number % wordSpan = number % wordSpan := by
  simp only [wrap_eq_bmod, wordSpan_eq, Int.bmod_def]
  omega

theorem wrap_of_bounds {number : Int} (lower : -wordSpan ≤ 2 * number)
    (upper : 2 * number < wordSpan) : wrap number = number := by
  simp only [wrap_eq_bmod, wordSpan_eq, Int.bmod_def] at lower upper ⊢
  omega

structure ZeroDivisor where
deriving DecidableEq

def ZeroDivisor.message (_ : ZeroDivisor) : String := "integer division or modulo by zero"

def signedQuotient (dividend divisor : Int) : Int :=
  let magnitude : Int := dividend.natAbs / divisor.natAbs
  if decide (dividend < 0) != decide (divisor < 0) then -magnitude else magnitude

theorem signedQuotient_eq_tdiv (dividend divisor : Int) :
    signedQuotient dividend divisor = dividend.tdiv divisor := by
  have natural (number : Nat) : ¬(number : Int) < 0 := by omega
  cases dividend with
  | ofNat first =>
      cases divisor with
      | ofNat second => simp [signedQuotient, natural]
      | negSucc second => simp [signedQuotient, natural, Int.negSucc_lt_zero, Int.tdiv]
  | negSucc first =>
      cases divisor with
      | ofNat second => simp [signedQuotient, natural, Int.negSucc_lt_zero, Int.tdiv]
      | negSucc second => simp [signedQuotient, Int.negSucc_lt_zero, Int.tdiv]

def quotient (dividend divisor : Int) : Except ZeroDivisor Int :=
  if divisor = 0 then .error ⟨⟩ else .ok (signedQuotient dividend divisor)

end MonkeyLang
