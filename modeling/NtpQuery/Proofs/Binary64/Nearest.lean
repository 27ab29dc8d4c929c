import NtpQuery.Proofs.Binary64.Order

/-!
# How far rounding goes

A quotient is rounded to a multiple of a power of two that is at most half such a
power away. Which power this is follows from where the quotient lies: its leading
digit is the 53rd one on the grid. So the rounded value of a quotient is known
from the quotient alone, and its whole part with it.
-/

namespace NtpQuery

/-- The nearest whole number is half of one away at most. -/
theorem roundedDiv_bounds {num den : Nat} (positive : 0 < den) :
    2 * (den * roundedDiv num den) ≤ 2 * num + den ∧
      2 * num ≤ 2 * (den * roundedDiv num den) + den := by
  have exact := Nat.div_add_mod num den
  have rest := Nat.mod_lt num positive
  rw [roundedDiv]
  split
  · rename_i less
    have half := Nat.compare_eq_lt.mp less
    omega
  · rename_i more
    have half := Nat.compare_eq_gt.mp more
    rw [Nat.mul_add, Nat.mul_one]
    omega
  · rename_i tie
    have half := Nat.compare_eq_eq.mp tie
    split
    · omega
    · rw [Nat.mul_add, Nat.mul_one]
      omega

theorem roundedDiv_mul_left {factor : Nat} (positive : 0 < factor) (num den : Nat) :
    roundedDiv (factor * num) (factor * den) = roundedDiv num den := by
  have same : compare (2 * (factor * (num % den))) (factor * den) = compare (2 * (num % den)) den := by
    rw [Nat.mul_left_comm]
    rcases Nat.lt_trichotomy (2 * (num % den)) den with less | tie | more
    · rw [Nat.compare_eq_lt.mpr less,
        Nat.compare_eq_lt.mpr (Nat.mul_lt_mul_of_pos_left less positive)]
    · rw [tie, Nat.compare_eq_eq.mpr rfl, Nat.compare_eq_eq.mpr rfl]
    · rw [Nat.compare_eq_gt.mpr more,
        Nat.compare_eq_gt.mpr (Nat.mul_lt_mul_of_pos_left more positive)]
  rw [roundedDiv, roundedDiv, Nat.mul_div_mul_left _ _ positive, Nat.mul_mod_mul_left, same]

/-- Equal quotients are rounded alike. -/
theorem roundedDiv_congr {num den num' den' : Nat} (positive : 0 < den) (positive' : 0 < den')
    (same : num * den' = den * num') : roundedDiv num den = roundedDiv num' den' := by
  calc roundedDiv num den = roundedDiv (den' * num) (den' * den) :=
        (roundedDiv_mul_left positive' ..).symm
    _ = roundedDiv (den * num') (den * den') := by
        rw [Nat.mul_comm den' num, same, Nat.mul_comm den' den]
    _ = roundedDiv num' den' := roundedDiv_mul_left positive ..

/-- A number is scaled by a power of two to a given number of binary digits. -/
theorem exists_two_pow_mul {n k : Nat} (positive : 0 < n) (small : n < 2 ^ (k + 1)) :
    ∃ scale ≤ k, 2 ^ k ≤ n * 2 ^ scale ∧ n * 2 ^ scale < 2 ^ (k + 1) := by
  have nonzero := Nat.ne_of_gt positive
  have digits : n.log2 ≤ k := Nat.le_of_lt_succ ((Nat.log2_lt nonzero).mpr small)
  have low : 2 ^ n.log2 ≤ n := Nat.log2_self_le nonzero
  have high : n < 2 ^ (n.log2 + 1) := Nat.lt_log2_self
  refine ⟨k - n.log2, Nat.sub_le .., ?_, ?_⟩
  · calc 2 ^ k = 2 ^ n.log2 * 2 ^ (k - n.log2) := by
          rw [← Nat.pow_add, Nat.add_sub_cancel' digits]
      _ ≤ n * 2 ^ (k - n.log2) := Nat.mul_le_mul_right _ low
  · calc n * 2 ^ (k - n.log2) < 2 ^ (n.log2 + 1) * 2 ^ (k - n.log2) :=
          Nat.mul_lt_mul_of_pos_right high (Nat.two_pow_pos _)
      _ = 2 ^ (k + 1) := by
          rw [← Nat.pow_add]
          congr 1
          omega

namespace Binary64

theorem two_pow_mul_powTwo (a b : Nat) : 2 ^ a * powTwo (b - a) = 2 ^ b * powTwo (a - b) := by
  rw [powTwo_eq, powTwo_eq, ← Nat.pow_add, ← Nat.pow_add]
  congr 1
  omega

/-- The quotient does not reach the power behind its leading digit. -/
theorem lt_powTwo_leadingExponent (num : Nat) {den : Nat} (positive : 0 < den) :
    num * powTwo (-(leadingExponent num den + 1)) < den * powTwo (leadingExponent num den + 1) := by
  rw [leadingExponent]
  split
  · have low : 2 ^ den.log2 ≤ den := Nat.log2_self_le (Nat.ne_of_gt positive)
    have high : num < 2 ^ (num.log2 + 1) := Nat.lt_log2_self
    have up : ((num.log2 : Int) - den.log2 + 1) = (num.log2 + 1 : Nat) - den.log2 := by omega
    rw [up, Int.neg_sub]
    calc num * powTwo (den.log2 - (num.log2 + 1 : Nat))
        < 2 ^ (num.log2 + 1) * powTwo (den.log2 - (num.log2 + 1 : Nat)) :=
          Nat.mul_lt_mul_of_pos_right high (powTwo_pos _)
      _ = 2 ^ den.log2 * powTwo ((num.log2 + 1 : Nat) - den.log2) := two_pow_mul_powTwo ..
      _ ≤ den * powTwo ((num.log2 + 1 : Nat) - den.log2) := Nat.mul_le_mul_right _ low
  · rename_i beyond
    rw [Int.sub_add_cancel]
    exact Nat.lt_of_not_le beyond

/-- A quotient that reaches a power of two has its leading digit there or above. -/
theorem le_leadingExponent {num den j k : Nat} (positive : 0 < den)
    (large : den * 2 ^ k ≤ num * 2 ^ j) : k - j ≤ leadingExponent num den := by
  have leading := lt_powTwo_leadingExponent num positive
  generalize leadingExponent num den = l at leading ⊢
  have chain : den * (2 ^ k * powTwo (-(l + 1))) < den * (powTwo (l + 1) * 2 ^ j) := by
    calc den * (2 ^ k * powTwo (-(l + 1))) = den * 2 ^ k * powTwo (-(l + 1)) := by ring
      _ ≤ num * 2 ^ j * powTwo (-(l + 1)) := Nat.mul_le_mul_right _ large
      _ = num * powTwo (-(l + 1)) * 2 ^ j := by ring
      _ < den * powTwo (l + 1) * 2 ^ j := Nat.mul_lt_mul_of_pos_right leading (by positivity)
      _ = den * (powTwo (l + 1) * 2 ^ j) := by ring
  have powers := Nat.lt_of_mul_lt_mul_left chain
  rw [powTwo_eq, powTwo_eq, ← Nat.pow_add, ← Nat.pow_add] at powers
  have := (Nat.pow_lt_pow_iff_right (by decide : 1 < 2)).mp powers
  omega

/-- A quotient is rounded on the grid on which it has 53 digits, however it is expanded. -/
theorem toRat?_nearest_of_normal (negative : Bool) {num den num' den' grid : Nat}
    (positive : 0 < den) (positive' : 0 < den') (same : num * den' = den * num')
    (low : den' * 2 ^ 52 ≤ num' * 2 ^ grid) (high : num' * 2 ^ grid < den' * 2 ^ 53)
    (fine : grid ≤ 1074) :
    (nearest negative num den).toRat? =
      some (value negative (roundedDiv (num' * 2 ^ grid) den') (-grid)) := by
  have scaled : num * 2 ^ grid * den' = den * (num' * 2 ^ grid) := by
    calc num * 2 ^ grid * den' = num * den' * 2 ^ grid := by ring
      _ = den * (num' * 2 ^ grid) := by rw [same, Nat.mul_assoc]
  have reached : den * 2 ^ 52 ≤ num * 2 ^ grid := by
    apply Nat.le_of_mul_le_mul_right _ positive'
    calc den * 2 ^ 52 * den' = den * (den' * 2 ^ 52) := by ring
      _ ≤ den * (num' * 2 ^ grid) := Nat.mul_le_mul_left _ low
      _ = num * 2 ^ grid * den' := scaled.symm
  have missed : num * 2 ^ grid < den * 2 ^ 53 := by
    apply Nat.lt_of_mul_lt_mul_right (a := den')
    calc num * 2 ^ grid * den' = den * (num' * 2 ^ grid) := scaled
      _ < den * (den' * 2 ^ 53) := Nat.mul_lt_mul_of_pos_left high positive
      _ = den * 2 ^ 53 * den' := by ring
  have nonzero : num ≠ 0 := by
    rintro rfl
    have : 0 < den * 2 ^ 52 := by positivity
    omega
  have below := leadingExponent_lt (Nat.pos_of_ne_zero nonzero) missed
  have above := le_leadingExponent positive reached
  rw [← roundedDiv_congr positive positive' scaled]
  apply toRat?_nearest_of_grid negative nonzero
  simp only [minExponent]
  omega

/-- A lower bound on the value of a mantissa in natural numbers. -/
theorem le_mul_powTwo_iff {mantissa bound : Nat} {e : Int} :
    (bound : Rat) ≤ mantissa * 2 ^ e ↔ bound * powTwo (-e) ≤ mantissa * powTwo e := by
  have positive : (0 : Rat) < powTwo (-e) := Nat.cast_pos.mpr (powTwo_pos _)
  rw [← @Nat.cast_le Rat, Nat.cast_mul, Nat.cast_mul, cast_powTwo e, ← mul_assoc]
  exact (mul_le_mul_iff_left₀ positive).symm

/-- The whole part follows from the value. -/
theorem truncate?_of_toRat? {x : Binary64} {value : Rat} {whole : Nat}
    (positive : x.isNegative = false) (read : x.toRat? = some value) (low : whole ≤ value)
    (high : value < whole + 1) : x.truncate? = some (whole : Int) := by
  cases x with
  | infinity negative => simp [toRat?] at read
  | nan => simp [toRat?] at read
  | finite negative mantissa e =>
    obtain rfl : negative = false := positive
    obtain rfl : (mantissa * 2 ^ e : Rat) = value := by
      simpa [toRat?_finite, Binary64.value] using read
    have reached : whole * powTwo (-e) ≤ mantissa * powTwo e := le_mul_powTwo_iff.mp low
    have missed : mantissa * powTwo e < (whole + 1) * powTwo (-e) := by
      rw [← Nat.not_le, ← le_mul_powTwo_iff, not_le]
      exact_mod_cast high
    have quotient : mantissa * powTwo e / powTwo (-e) = whole :=
      Nat.div_eq_of_lt_le reached missed
    rw [truncate?, quotient]
    rfl

end Binary64

end NtpQuery
