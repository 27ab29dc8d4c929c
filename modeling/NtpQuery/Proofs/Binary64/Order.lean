import NtpQuery.Proofs.Binary64.Exact

/-!
# Rounding goes beyond no whole number

A quotient that is not above a whole number which is a double is not above it when
it is rounded, because the number is on every grid in question. So bounds of this
kind pass through products and through rounding to decimals.
-/

namespace NtpQuery

theorem roundedDiv_le {num den bound : Nat} (positive : 0 < den) (within : num ≤ den * bound) :
    roundedDiv num den ≤ bound := by
  have exact := Nat.div_add_mod num den
  have below : num / den ≤ bound := Nat.div_le_of_le_mul within
  have above : num % den ≠ 0 → num / den + 1 ≤ bound := by
    intro rest
    have strict : den * (num / den) < den * bound := by omega
    exact Nat.lt_of_mul_lt_mul_left strict
  rw [roundedDiv]
  split
  · exact below
  · rename_i more
    have half := Nat.compare_eq_gt.mp more
    exact above (by omega)
  · rename_i tie
    have half := Nat.compare_eq_eq.mp tie
    split
    · exact below
    · exact above (by omega)

namespace Binary64

/-- The double is finite, not negative and at most a bound. -/
def Within (bound : Nat) (x : Binary64) : Prop :=
  ∃ mantissa e, x = .finite false mantissa e ∧ (mantissa * 2 ^ e : Rat) ≤ bound

theorem Within.toRat? {x : Binary64} {bound : Nat} (h : x.Within bound) :
    ∃ value, x.toRat? = some value ∧ 0 ≤ value ∧ value ≤ bound := by
  obtain ⟨mantissa, e, rfl, le⟩ := h
  refine ⟨mantissa * 2 ^ e, ?_, by positivity, le⟩
  rw [toRat?_finite]
  simp [value]

theorem Within.finite? {x : Binary64} {bound : Nat} (h : x.Within bound) : x.finite? = some x := by
  obtain ⟨mantissa, e, rfl, -⟩ := h
  rfl

theorem Within.nearestInt?_isSome {x : Binary64} {bound : Nat} (h : x.Within bound) :
    x.nearestInt?.isSome := by
  obtain ⟨mantissa, e, rfl, -⟩ := h
  rfl

theorem within_zero (bound : Nat) : (zero false).Within bound :=
  ⟨0, minExponent, rfl, by simp⟩

/-- A bound on the value of a mantissa in natural numbers. -/
theorem mul_powTwo_le_iff {mantissa bound : Nat} {e : Int} :
    (mantissa * 2 ^ e : Rat) ≤ bound ↔ mantissa * powTwo e ≤ powTwo (-e) * bound := by
  have positive : (0 : Rat) < powTwo (-e) := Nat.cast_pos.mpr (powTwo_pos _)
  rw [← @Nat.cast_le Rat, Nat.cast_mul, Nat.cast_mul, cast_powTwo e, ← mul_assoc,
    mul_comm (powTwo (-e) : Rat) bound]
  exact (mul_le_mul_iff_left₀ positive).symm

/-- A quotient that is not above a whole number with at most 53 leading digits stays so when it is
rounded, because the number is on its grid. -/
theorem within_nearest_of_scaled {num den mantissa k : Nat} (positive : 0 < den)
    (le : num ≤ den * (mantissa * 2 ^ k)) (short : mantissa < 2 ^ 53) (range : k ≤ 971) :
    (nearest false num den).Within (mantissa * 2 ^ k) := by
  rw [nearest]
  split
  · exact within_zero _
  · rename_i nonzero
    have small : num * 2 ^ 0 < den * 2 ^ (53 + k) := by
      calc num * 2 ^ 0 = num := by rw [Nat.pow_zero, Nat.mul_one]
        _ ≤ den * (mantissa * 2 ^ k) := le
        _ < den * 2 ^ (53 + k) := by
            rw [Nat.pow_add]
            exact Nat.mul_lt_mul_of_pos_left
              (Nat.mul_lt_mul_of_pos_right short (Nat.two_pow_pos k)) positive
    have leading := leadingExponent_lt (Nat.pos_of_ne_zero nonzero) small
    obtain ⟨e, grid, below⟩ : ∃ e : Int, max (leadingExponent num den - 52) minExponent = e ∧ e ≤ k :=
      ⟨_, rfl, by simp only [minExponent]; omega⟩
    -- The bound is a multiple of the grid, which is no coarser.
    have units : 2 ^ k * powTwo (-e) = powTwo e * 2 ^ (k - e).toNat := by
      rw [powTwo_eq, powTwo_eq, ← Nat.pow_add, ← Nat.pow_add]
      congr 1
      omega
    have mantissa_le : onGrid num den e ≤ mantissa * 2 ^ (k - e).toNat := by
      apply roundedDiv_le (Nat.mul_pos positive (powTwo_pos e))
      calc num * powTwo (-e) ≤ den * (mantissa * 2 ^ k) * powTwo (-e) := Nat.mul_le_mul_right _ le
        _ = den * mantissa * (2 ^ k * powTwo (-e)) := by ring
        _ = den * powTwo e * (mantissa * 2 ^ (k - e).toNat) := by rw [units]; ring
    have value : (onGrid num den e * 2 ^ e : Rat) ≤ (mantissa * 2 ^ k : Nat) := by
      rw [mul_powTwo_le_iff]
      calc onGrid num den e * powTwo e ≤ mantissa * 2 ^ (k - e).toNat * powTwo e :=
            Nat.mul_le_mul_right _ mantissa_le
        _ = mantissa * (powTwo e * 2 ^ (k - e).toNat) := by ring
        _ = powTwo (-e) * (mantissa * 2 ^ k) := by rw [← units]; ring
    simp only [grid]
    split
    · rename_i carry
      have finer : e < k := by
        apply lt_of_le_of_ne below
        rintro rfl
        simp only [Int.sub_self, Int.toNat_zero, Nat.pow_zero, Nat.mul_one] at mantissa_le
        simp only [leadingUnit] at carry
        omega
      rw [if_neg (by simp only [maxExponent]; omega)]
      refine ⟨_, _, rfl, ?_⟩
      rw [carry] at value
      calc (leadingUnit * 2 ^ (e + 1) : Rat) = (2 * leadingUnit : Nat) * 2 ^ e := by
            rw [zpow_add₀ two_ne_zero]
            push_cast
            ring
        _ ≤ (mantissa * 2 ^ k : Nat) := value
    · rw [if_neg (by simp only [maxExponent]; omega)]
      exact ⟨_, _, rfl, value⟩

theorem within_nearest {num den bound : Nat} (positive : 0 < den) (le : num ≤ den * bound)
    (short : bound < 2 ^ 53) : (nearest false num den).Within bound := by
  have scaled : (nearest false num den).Within (bound * 2 ^ 0) :=
    within_nearest_of_scaled positive (by rwa [Nat.pow_zero, Nat.mul_one]) short (by decide)
  rwa [Nat.pow_zero, Nat.mul_one] at scaled

theorem within_mul_of_scaled {x y : Binary64} {bound bound' mantissa k : Nat} (hx : x.Within bound)
    (hy : y.Within bound') (le : bound * bound' ≤ mantissa * 2 ^ k) (short : mantissa < 2 ^ 53)
    (range : k ≤ 971) : (x.mul y).Within (mantissa * 2 ^ k) := by
  obtain ⟨m, e, rfl, below⟩ := hx
  obtain ⟨n, f, rfl, below'⟩ := hy
  apply within_nearest_of_scaled (powTwo_pos _) ?_ short range
  rw [← mul_powTwo_le_iff, zpow_add₀ two_ne_zero]
  calc ((m * n : Nat) * (2 ^ e * 2 ^ f) : Rat) = m * 2 ^ e * (n * 2 ^ f) := by push_cast; ring
    _ ≤ bound * bound' := mul_le_mul below below' (by positivity) (by positivity)
    _ ≤ (mantissa * 2 ^ k : Nat) := by exact_mod_cast le

theorem within_mul {x y : Binary64} {bound bound' : Nat} (hx : x.Within bound)
    (hy : y.Within bound') (short : bound * bound' < 2 ^ 53) :
    (x.mul y).Within (bound * bound') := by
  have scaled : (x.mul y).Within (bound * bound' * 2 ^ 0) :=
    within_mul_of_scaled hx hy (by rw [Nat.pow_zero, Nat.mul_one]) short (by decide)
  rwa [Nat.pow_zero, Nat.mul_one] at scaled

theorem within_roundTo {x : Binary64} {bound : Nat} (hx : x.Within bound) (places : Nat)
    (short : bound < 2 ^ 53) : (x.roundTo places).Within bound := by
  obtain ⟨m, e, rfl, le⟩ := hx
  have positive : 0 < powTen places := Nat.pow_pos (by decide)
  apply within_nearest positive ?_ short
  apply roundedDiv_le (powTwo_pos _)
  calc m * powTwo e * powTen places ≤ powTwo (-e) * bound * powTen places :=
        Nat.mul_le_mul_right _ (mul_powTwo_le_iff.mp le)
    _ = powTwo (-e) * (powTen places * bound) := by ring

end Binary64

end NtpQuery
