import Mathlib.Algebra.Order.Field.Power
import Mathlib.Tactic.FieldSimp
import Mathlib.Tactic.Linarith
import Mathlib.Tactic.Ring
import NtpQuery.Proofs.Binary64.Rounding

/-!
# What is not rounded

A quotient is a double as it stands when it is a multiple of a power of two,
fewer than 53 binary digits long, as every whole number below `2 ^ 53` is and
every half of one. Its grid is at least as fine as that power, so the division
by which rounding begins has no rest.
-/

namespace NtpQuery

theorem roundedDiv_mul {den : Nat} (positive : 0 < den) (quotient : Nat) :
    roundedDiv (den * quotient) den = quotient := by
  have less : compare (2 * (den * quotient % den)) den = .lt := by
    rw [Nat.mul_mod_right]
    exact Nat.compare_eq_lt.mpr positive
  rw [roundedDiv, less, Nat.mul_div_cancel_left _ positive]

namespace Binary64

theorem powTwo_eq (e : Int) : powTwo e = 2 ^ e.toNat := rfl

theorem powTwo_pos (e : Int) : 0 < powTwo e := Nat.pow_pos (by decide)

/-- The exponent of the leading digit does not go beyond the quotient. -/
theorem powTwo_leadingExponent_le {num : Nat} (den : Nat) (positive : 0 < num) :
    den * powTwo (leadingExponent num den) ≤ num * powTwo (-leadingExponent num den) := by
  rw [leadingExponent]
  split
  · assumption
  · have low : 2 ^ num.log2 ≤ num := Nat.log2_self_le (Nat.ne_of_gt positive)
    have high : den < 2 ^ (den.log2 + 1) := Nat.lt_log2_self
    simp only [powTwo_eq]
    by_cases above : den.log2 + 1 ≤ num.log2
    · have up : ((num.log2 : Int) - den.log2 - 1).toNat = num.log2 - (den.log2 + 1) := by omega
      have down : (-((num.log2 : Int) - den.log2 - 1)).toNat = 0 := by omega
      rw [up, down, Nat.pow_zero, Nat.mul_one]
      calc den * 2 ^ (num.log2 - (den.log2 + 1))
          ≤ 2 ^ (den.log2 + 1) * 2 ^ (num.log2 - (den.log2 + 1)) :=
            Nat.mul_le_mul_right _ (Nat.le_of_lt high)
        _ = 2 ^ num.log2 := by rw [← Nat.pow_add, Nat.add_sub_cancel' above]
        _ ≤ num := low
    · have up : ((num.log2 : Int) - den.log2 - 1).toNat = 0 := by omega
      have down : (-((num.log2 : Int) - den.log2 - 1)).toNat = den.log2 + 1 - num.log2 := by
        omega
      rw [up, down, Nat.pow_zero, Nat.mul_one]
      calc den ≤ 2 ^ (den.log2 + 1) := Nat.le_of_lt high
        _ = 2 ^ num.log2 * 2 ^ (den.log2 + 1 - num.log2) := by
            rw [← Nat.pow_add, Nat.add_sub_cancel' (by omega)]
        _ ≤ num * 2 ^ (den.log2 + 1 - num.log2) := Nat.mul_le_mul_right _ low

/-- A quotient below a power of two has its leading digit below that power. -/
theorem leadingExponent_lt {num den j k : Nat} (positive : 0 < num)
    (small : num * 2 ^ j < den * 2 ^ k) : leadingExponent num den < k - j := by
  have leading := powTwo_leadingExponent_le den positive
  generalize leadingExponent num den = l at leading ⊢
  have chain : den * (powTwo l * 2 ^ j) < den * (2 ^ k * powTwo (-l)) := by
    calc den * (powTwo l * 2 ^ j) = den * powTwo l * 2 ^ j := by ring
      _ ≤ num * powTwo (-l) * 2 ^ j := Nat.mul_le_mul_right _ leading
      _ = num * 2 ^ j * powTwo (-l) := by ring
      _ < den * 2 ^ k * powTwo (-l) := Nat.mul_lt_mul_of_pos_right small (powTwo_pos _)
      _ = den * (2 ^ k * powTwo (-l)) := by ring
  have powers := Nat.lt_of_mul_lt_mul_left chain
  rw [powTwo_eq, powTwo_eq, ← Nat.pow_add, ← Nat.pow_add] at powers
  have := (Nat.pow_lt_pow_iff_right (by decide : 1 < 2)).mp powers
  omega

/-- The value of a finite double. -/
def value (negative : Bool) (mantissa : Nat) (e : Int) : Rat :=
  (if negative then -1 else 1) * (mantissa * 2 ^ e)

theorem value_abs (negative : Bool) (mantissa : Nat) (e : Int) :
    |value negative mantissa e| = mantissa * 2 ^ e := by
  have positive : (0 : Rat) ≤ mantissa * 2 ^ e := by positivity
  rw [value, abs_mul, abs_of_nonneg positive]
  cases negative <;> simp

theorem value_inj {negative : Bool} {mantissa mantissa' : Nat} {e e' : Int}
    (same : value negative mantissa e = value negative mantissa' e') :
    (mantissa * 2 ^ e : Rat) = mantissa' * 2 ^ e' := by
  cases negative with
  | false => simpa [value] using same
  | true => exact neg_injective (by simpa [value] using same)

theorem cast_powTwo (e : Int) : (powTwo e : Rat) = 2 ^ e * powTwo (-e) := by
  simp only [powTwo_eq]
  push_cast
  rcases Int.le_total 0 e with above | below
  · obtain ⟨n, rfl⟩ := Int.eq_ofNat_of_zero_le above
    simp
  · obtain ⟨n, hn⟩ := Int.eq_ofNat_of_zero_le (by omega : 0 ≤ -e)
    obtain rfl : e = -(n : Int) := by omega
    simp

theorem toRat?_finite (negative : Bool) (mantissa : Nat) (e : Int) :
    (finite negative mantissa e).toRat? = some (value negative mantissa e) := by
  have below : (powTwo (-e) : Rat) ≠ 0 := Nat.cast_ne_zero.mpr (Nat.ne_of_gt (powTwo_pos _))
  have size : ((mantissa * powTwo e : Nat) : Rat) / (powTwo (-e) : Nat) = mantissa * 2 ^ e := by
    rw [Nat.cast_mul, cast_powTwo, ← mul_assoc, mul_div_assoc, div_self below, mul_one]
  rw [toRat?, value]
  simp only [size]
  cases negative <;> simp

/-- What rounding makes of a quotient on its grid, also where it carries to the next power. -/
theorem toRat?_nearest_of_grid (negative : Bool) {num den grid : Nat} (nonzero : num ≠ 0)
    (chosen : max (leadingExponent num den - 52) minExponent = -(grid : Int)) :
    (nearest negative num den).toRat? =
      some (value negative (roundedDiv (num * 2 ^ grid) den) (-grid)) := by
  have up : powTwo (-(grid : Int)) = 1 := by
    rw [powTwo_eq, Int.toNat_of_nonpos (by omega), Nat.pow_zero]
  have down : powTwo (- -(grid : Int)) = 2 ^ grid := by
    rw [powTwo_eq, Int.neg_neg, Int.toNat_natCast]
  have mantissa : onGrid num den (-(grid : Int)) = roundedDiv (num * 2 ^ grid) den := by
    rw [onGrid, up, down, Nat.mul_one]
  rw [nearest, if_neg nonzero]
  simp only [chosen, mantissa]
  split
  · rename_i carry
    rw [if_neg (by simp only [maxExponent]; omega), toRat?_finite, carry]
    simp only [value]
    rw [zpow_add₀ two_ne_zero]
    push_cast
    congr 1
    ring
  · rw [if_neg (by simp only [maxExponent]; omega), toRat?_finite]

/-- A quotient with fewer than 53 digits, the last of which counts `2 ^ (-j)`, is exact. -/
theorem toRat?_nearest (negative : Bool) {num den q j : Nat} (positive : 0 < den)
    (whole : num * 2 ^ j = den * q) (fine : j ≤ 1074) (short : q < 2 ^ 53) :
    (nearest negative num den).toRat? = some (value negative q (-j)) := by
  by_cases zeroth : num = 0
  · rw [zeroth, Nat.zero_mul] at whole
    obtain rfl : q = 0 := by
      rcases Nat.mul_eq_zero.mp whole.symm with none | none
      · omega
      · exact none
    rw [zeroth, nearest_zero, zero, toRat?_finite]
    simp [value]
  · have small : num * 2 ^ j < den * 2 ^ 53 := by
      rw [whole]
      exact Nat.mul_lt_mul_of_pos_left short positive
    have leading := leadingExponent_lt (Nat.pos_of_ne_zero zeroth) small
    obtain ⟨n, grid⟩ : ∃ n : Nat,
        max (leadingExponent num den - 52) minExponent = -((j + n : Nat) : Int) := by
      refine ⟨(-j - max (leadingExponent num den - 52) minExponent).toNat, ?_⟩
      simp only [minExponent]
      omega
    have mantissa : roundedDiv (num * 2 ^ (j + n)) den = q * 2 ^ n := by
      rw [Nat.pow_add, ← Nat.mul_assoc, whole, Nat.mul_assoc]
      exact roundedDiv_mul positive _
    rw [toRat?_nearest_of_grid negative zeroth grid, mantissa]
    simp only [value]
    push_cast
    rw [neg_add, zpow_add₀ two_ne_zero, zpow_neg, zpow_neg, zpow_natCast, zpow_natCast]
    field_simp

theorem value_natAbs (n : Int) : value (decide (n < 0)) n.natAbs 0 = n := by
  rw [value, zpow_zero, mul_one]
  rcases Int.lt_or_le n 0 with below | above
  · have size : (n.natAbs : Rat) = -n := by
      rw [← Int.cast_natCast, Int.ofNat_natAbs_of_nonpos (Int.le_of_lt below), Int.cast_neg]
    simp [below, size]
  · have size : (n.natAbs : Rat) = n := by
      rw [← Int.cast_natCast, Int.natAbs_of_nonneg above]
    simp [Int.not_lt.mpr above, size]

theorem value_natAbs_half (n : Int) : value (decide (n < 0)) n.natAbs (-1) = (n : Rat) / 2 := by
  have whole := value_natAbs n
  rw [value, zpow_zero, mul_one] at whole
  rw [value, zpow_neg_one, ← mul_assoc, whole, div_eq_mul_inv]

/-- Whole numbers below `2 ^ 53` are doubles. -/
theorem toRat?_ofInt {n : Int} (short : n.natAbs < 2 ^ 53) : (ofInt n).toRat? = some (n : Rat) := by
  have whole : n.natAbs * 2 ^ 0 = 1 * n.natAbs := by simp
  rw [ofInt, toRat?_nearest _ Nat.one_pos whole (by decide) short, Int.natCast_zero, Int.neg_zero,
    value_natAbs]

theorem ofInt_eq_finite {n : Int} (short : n.natAbs < 2 ^ 53) :
    ∃ mantissa e, ofInt n = .finite (decide (n < 0)) mantissa e := by
  have exact := toRat?_ofInt short
  have sign := isNegative_ofInt n
  cases read : ofInt n with
  | infinity negative => simp [read, toRat?] at exact
  | nan => simp [read, toRat?] at exact
  | finite negative mantissa e =>
    obtain rfl : negative = decide (n < 0) := by simpa [read, isNegative] using sign
    exact ⟨mantissa, e, rfl⟩

theorem ofInt_two : ofInt 2 = .finite false leadingUnit (-51) := by
  decide

/-- Halves of whole numbers below `2 ^ 53` are doubles. -/
theorem toRat?_half {n : Int} (short : n.natAbs < 2 ^ 53) :
    ((ofInt n).div (ofInt 2)).toRat? = some ((n : Rat) / 2) := by
  have exact := toRat?_ofInt short
  obtain ⟨mantissa, e, read⟩ := ofInt_eq_finite short
  rw [read, toRat?_finite, ← value_natAbs n, Option.some.injEq] at exact
  have size : (mantissa : Rat) * 2 ^ e = n.natAbs := by
    have same := value_inj exact
    rwa [zpow_zero, mul_one] at same
  have whole : mantissa * powTwo (e - -51) * 2 ^ 1 =
      leadingUnit * powTwo (-(e - -51)) * n.natAbs := by
    have up := cast_powTwo (e - -51)
    rw [zpow_sub₀ two_ne_zero] at up
    have unit : (leadingUnit : Rat) = 2 ^ (51 : Int) * 2 := by norm_num [leadingUnit]
    rw [← @Nat.cast_inj Rat]
    push_cast
    rw [up, ← size, unit, zpow_neg]
    field_simp
  have positive : 0 < leadingUnit * powTwo (-(e - -51)) :=
    Nat.mul_pos (by decide) (powTwo_pos _)
  rw [read, ofInt_two, div, if_neg (by decide)]
  simp only [Bool.bne_false]
  rw [toRat?_nearest _ positive whole (by decide) short]
  exact congrArg some (value_natAbs_half n)

end Binary64

end NtpQuery
