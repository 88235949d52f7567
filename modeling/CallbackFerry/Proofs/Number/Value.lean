import CallbackFerry.Number.Binary64
import Mathlib.Algebra.Order.Field.Rat
import Mathlib.Tactic.Linarith
import Mathlib.Tactic.Positivity

/-!
# The value of a binary64 number

Every finite number is a rational number, its `Binary64.value?`; the infinities and what is not a
number have none.  All tests of the model are made on whole numbers, and here they are tests of the
value: `scaled_div` says what a scaled mantissa stands for, and `isProbability_iff` that a number is
a probability if it has a value, and that lies between zero and one.
-/

namespace CallbackFerry.Binary64

/-- The value of a finite number. -/
def value? : Binary64 → Option ℚ
  | .finite negative mantissa exponent =>
    some ((if negative then -1 else 1) * ((mantissa : ℚ) * 2 ^ exponent))
  | .infinite _ | .nan => none

theorem scaled_pos (n : Nat) (e : Int) : 0 < (scaled n e).2 := by
  cases e with
  | ofNat k => exact Nat.one_pos
  | negSucc k => exact Nat.two_pow_pos (k + 1)

/-- The quotient of the two parts is the number they were made of. -/
theorem scaled_div (n : Nat) (e : Int) :
    ((scaled n e).1 : ℚ) / (scaled n e).2 = n * 2 ^ e := by
  cases e with
  | ofNat k =>
    have power : Nat.pow 2 k = 2 ^ k := rfl
    simp only [scaled, power, Int.ofNat_eq_natCast, zpow_natCast]
    push_cast
    rw [div_one]
  | negSucc k =>
    have power : Nat.pow 2 (k + 1) = 2 ^ (k + 1) := rfl
    simp only [scaled, power, zpow_negSucc]
    push_cast
    rw [div_eq_mul_inv]

/-- A number is a probability if it has a value, and the value lies between zero and one. -/
theorem isProbability_iff {x : Binary64} : x.isProbability = true ↔
    ∃ value, x.value? = some value ∧ 0 ≤ value ∧ value ≤ 1 := by
  cases x with
  | infinite | nan => simp [isProbability, value?]
  | finite negative mantissa exponent =>
    have bottom : (0 : ℚ) < (scaled mantissa exponent).2 := by
      exact_mod_cast scaled_pos mantissa exponent
    have power : (0 : ℚ) < 2 ^ exponent := zpow_pos two_pos exponent
    have share : (scaled mantissa exponent).1 ≤ (scaled mantissa exponent).2 ↔
        (mantissa : ℚ) * 2 ^ exponent ≤ 1 := by
      rw [← scaled_div, div_le_one bottom, Nat.cast_le]
    have nonneg : (0 : ℚ) ≤ (mantissa : ℚ) * 2 ^ exponent := by positivity
    cases negative with
    | false => simpa [isProbability, value?, nonneg] using share
    | true =>
      -- Of the negative numbers only zero is not below zero.
      have zero : (mantissa : ℚ) * 2 ^ exponent ≤ 0 ↔ mantissa = 0 := by
        rw [← Nat.cast_eq_zero (R := ℚ)]
        refine ⟨fun le => ?_, fun zero => by rw [zero, zero_mul]⟩
        have product := le_antisymm le nonneg
        exact (mul_eq_zero.mp product).resolve_right power.ne'
      have atMost : -((mantissa : ℚ) * 2 ^ exponent) ≤ 1 := by linarith
      simpa [isProbability, value?, atMost] using zero.symm

end CallbackFerry.Binary64
