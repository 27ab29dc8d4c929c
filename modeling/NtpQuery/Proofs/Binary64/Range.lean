import NtpQuery.Proofs.Binary64.Nearest

/-!
# The end of the range

The largest double is a whole number. No double above zero has a larger whole part,
and every quotient up to it is rounded to a double. Dividing a double by a thousand
and multiplying the quotient by a thousand leads back into the range, although each
of the two steps may round up.
-/

namespace NtpQuery.Binary64

/-- The largest double. -/
def largest : Nat := (2 * leadingUnit - 1) * 2 ^ 971

theorem le_largest {n : Nat} (short : n < 2 ^ 53) : n ≤ largest := by
  have unit : n ≤ 2 * leadingUnit - 1 := by
    simp only [leadingUnit]
    omega
  exact Nat.le_trans unit (Nat.le_mul_of_pos_right _ (by positivity))

theorem two_pow_le_largest : 2 ^ 62 ≤ largest := by
  calc 2 ^ 62 ≤ (2 * leadingUnit - 1) * 2 ^ 10 := by decide
    _ ≤ largest := Nat.mul_le_mul_left _ (Nat.pow_le_pow_right (by decide) (by decide))

theorem isFinite_nearest_sign (negative : Bool) (num den : Nat) :
    (nearest negative num den).isFinite = (nearest false num den).isFinite := by
  rw [nearest, nearest]
  split
  · rfl
  · simp only
    split
    · split <;> rfl
    · split <;> rfl

/-- A quotient that is not above the largest double is rounded to a double. -/
theorem isFinite_nearest {num den : Nat} (positive : 0 < den) (le : num ≤ den * largest)
    (negative : Bool) : (nearest negative num den).isFinite = true := by
  obtain ⟨_, _, same, -⟩ := within_nearest_of_scaled positive le (by decide) (Nat.le_refl _)
  rw [isFinite_nearest_sign, same]
  rfl

theorem ofRatio?_of_le {num : Int} {den : Nat} (positive : 0 < den)
    (le : num.natAbs ≤ den * largest) : ∃ x, ofRatio? num den = some x :=
  ⟨_, if_pos (isFinite_nearest positive le _)⟩

theorem ofInt?_of_le {n : Int} (le : n.natAbs ≤ largest) : ∃ x, ofInt? n = some x :=
  ⟨_, if_pos (isFinite_nearest Nat.one_pos (by rwa [Nat.one_mul]) _)⟩

/-- A quotient less than half a step above a double is rounded to no more than this double. -/
theorem within_nearest_of_half {num den mantissa k : Nat} (positive : 0 < den)
    (lt : 2 * num < den * ((2 * mantissa + 1) * 2 ^ k)) (normal : 2 ^ 52 ≤ mantissa)
    (short : mantissa < 2 ^ 53) (range : k ≤ 971) :
    (nearest false num den).Within (mantissa * 2 ^ k) := by
  by_cases le : num ≤ den * (mantissa * 2 ^ k)
  · exact within_nearest_of_scaled positive le short range
  · have large : den * 2 ^ (52 + k) ≤ num * 2 ^ 0 := by
      calc den * 2 ^ (52 + k) = den * (2 ^ 52 * 2 ^ k) := by rw [Nat.pow_add]
        _ ≤ den * (mantissa * 2 ^ k) := Nat.mul_le_mul_left _ (Nat.mul_le_mul_right _ normal)
        _ ≤ num * 2 ^ 0 := by omega
    have small : num * 2 ^ 0 < den * 2 ^ (53 + k) := by
      have next : 2 * mantissa + 1 ≤ 2 * 2 ^ 53 := by omega
      have bound : den * ((2 * mantissa + 1) * 2 ^ k) ≤ den * (2 * 2 ^ 53 * 2 ^ k) :=
        Nat.mul_le_mul_left _ (Nat.mul_le_mul_right _ next)
      have shape : den * (2 * 2 ^ 53 * 2 ^ k) = 2 * (den * 2 ^ (53 + k)) := by ring
      omega
    have nonzero : num ≠ 0 := by
      rintro rfl
      exact le (Nat.zero_le _)
    -- The quotient has its leading digit where the double has it.
    have grid : max (leadingExponent num den - 52) minExponent = k := by
      have above := le_leadingExponent positive large
      have below := leadingExponent_lt (Nat.pos_of_ne_zero nonzero) small
      simp only [minExponent]
      omega
    have up : powTwo (-(k : Int)) = 1 := by
      rw [powTwo_eq, Int.toNat_of_nonpos (by omega), Nat.pow_zero]
    have down : powTwo (k : Int) = 2 ^ k := by rw [powTwo_eq, Int.toNat_natCast]
    have rounded : onGrid num den k ≤ mantissa := by
      have scale : 0 < den * 2 ^ k := Nat.mul_pos positive (Nat.two_pow_pos k)
      have half := (@roundedDiv_bounds num _ scale).1
      have shape : den * ((2 * mantissa + 1) * 2 ^ k) = den * 2 ^ k * (2 * mantissa + 1) := by ring
      rw [onGrid, up, down, Nat.mul_one]
      apply Nat.le_of_lt_succ
      apply Nat.lt_of_mul_lt_mul_left (a := den * 2 ^ k)
      rw [shape] at lt
      generalize den * 2 ^ k = scale at lt half ⊢
      linarith
    have uncarried : onGrid num den k ≠ 2 * leadingUnit := by
      simp only [leadingUnit]
      omega
    rw [nearest, if_neg nonzero]
    simp only [grid]
    rw [if_neg uncarried]
    simp only
    rw [if_neg (by simp only [maxExponent]; omega)]
    refine ⟨_, _, rfl, ?_⟩
    rw [mul_powTwo_le_iff, up, down, Nat.one_mul]
    exact Nat.mul_le_mul_right _ rounded

/-- Whole numbers up to the largest double are rounded to doubles up to it. -/
theorem within_ofInt {n : Int} (natural : 0 ≤ n) (le : n ≤ largest) : (ofInt n).Within largest := by
  rw [ofInt, decide_eq_false (by omega)]
  apply within_nearest_of_scaled Nat.one_pos ?_ (by decide) (Nat.le_refl _)
  rw [Nat.one_mul]
  show n.natAbs ≤ largest
  omega

/-- A thousandth of the largest double, rounded. -/
def largestShare : Nat := 4611686018427387 * 2 ^ 962

theorem ofInt_thousand : ofInt 1000 = .finite false 8796093022208000 (-43) := by
  decide

theorem largest_eq : largest = (2 * leadingUnit - 1) * 2 ^ 9 * 2 ^ 962 := by
  rw [largest, Nat.mul_assoc, ← Nat.pow_add]

/-- No thousandth is rounded beyond that of the largest double. -/
theorem within_div_thousand {x : Binary64} (hx : x.Within largest) :
    (x.div (ofInt 1000)).Within largestShare := by
  obtain ⟨m, e, rfl, le⟩ := hx
  rw [ofInt_thousand, div, if_neg (by decide)]
  apply within_nearest_of_half (Nat.mul_pos (by decide) (powTwo_pos _)) ?_ (by decide) (by decide)
    (by decide)
  have units : (m * 2 ^ (e - -43) : Rat) ≤ (largest * 2 ^ 43 : Nat) := by
    calc (m * 2 ^ (e - -43) : Rat) = m * 2 ^ e * 2 ^ 43 := by
          rw [sub_neg_eq_add, zpow_add₀ two_ne_zero, ← mul_assoc]
          rfl
      _ ≤ largest * 2 ^ 43 := mul_le_mul_of_nonneg_right le (by positivity)
      _ = (largest * 2 ^ 43 : Nat) := by push_cast; rfl
  have scaled := mul_powTwo_le_iff.mp units
  have gap : 2 * (largest * 2 ^ 43) < 8796093022208000 * ((2 * 4611686018427387 + 1) * 2 ^ 962) := by
    have scale : ∀ unit > 0, 2 * ((2 * leadingUnit - 1) * 2 ^ 9 * unit * 2 ^ 43) <
        8796093022208000 * ((2 * 4611686018427387 + 1) * unit) := by
      intro unit positive
      simp only [leadingUnit]
      omega
    rw [largest_eq]
    exact scale (2 ^ 962) (by positivity)
  calc 2 * (m * powTwo (e - -43)) ≤ 2 * (powTwo (-(e - -43)) * (largest * 2 ^ 43)) :=
        Nat.mul_le_mul_left _ scaled
    _ = powTwo (-(e - -43)) * (2 * (largest * 2 ^ 43)) := by ring
    _ < powTwo (-(e - -43)) * (8796093022208000 * ((2 * 4611686018427387 + 1) * 2 ^ 962)) :=
        Nat.mul_lt_mul_of_pos_left gap (powTwo_pos _)
    _ = 8796093022208000 * powTwo (-(e - -43)) * ((2 * 4611686018427387 + 1) * 2 ^ 962) := by
        rw [Nat.mul_left_comm, Nat.mul_assoc]

theorem within_mul_thousand {x : Binary64} (hx : x.Within largestShare) :
    (x.mul (ofInt 1000)).Within largest := by
  have thousand : (ofInt 1000).Within 1000 := within_nearest Nat.one_pos (by decide) (by decide)
  apply within_mul_of_scaled hx thousand ?_ (by decide) (Nat.le_refl _)
  rw [← largest, largest_eq, largestShare]
  generalize 2 ^ 962 = unit
  simp only [leadingUnit]
  omega

/-- On its grid a quotient has 53 binary digits, or is rounded up to the next power of two. -/
theorem onGrid_le (num : Nat) {den : Nat} (positive : 0 < den) :
    onGrid num den (max (leadingExponent num den - 52) minExponent) ≤ 2 * leadingUnit := by
  have leading := le_mul_powTwo_iff.mpr (Nat.le_of_lt (lt_powTwo_leadingExponent num positive))
  generalize grid : max (leadingExponent num den - 52) minExponent = e
  have power : (2 : Rat) ^ (leadingExponent num den + 1) ≤ 2 ^ (53 + e) :=
    zpow_le_zpow_right₀ one_le_two (by omega)
  have bound : (num : Rat) ≤ (den * (2 * leadingUnit) : Nat) * 2 ^ e := by
    calc (num : Rat) ≤ den * 2 ^ (leadingExponent num den + 1) := leading
      _ ≤ den * 2 ^ (53 + e) := mul_le_mul_of_nonneg_left power (Nat.cast_nonneg _)
      _ = (den * (2 * leadingUnit) : Nat) * 2 ^ e := by
          rw [zpow_add₀ two_ne_zero, leadingUnit]
          push_cast
          ring
  apply roundedDiv_le (Nat.mul_pos positive (powTwo_pos e))
  calc num * powTwo (-e) ≤ den * (2 * leadingUnit) * powTwo e := le_mul_powTwo_iff.mp bound
    _ = den * powTwo e * (2 * leadingUnit) := by ring

/-- The whole part of a double is at most the largest one. -/
theorem truncate?_finite_le {mantissa : Nat} {e n : Int} (short : mantissa ≤ 2 * leadingUnit - 1)
    (range : e ≤ maxExponent) (h : (finite false mantissa e).truncate? = some n) :
    n ≤ largest := by
  obtain rfl : ((mantissa * powTwo e / powTwo (-e) : Nat) : Int) = n := Option.some.inj h
  have power : powTwo e ≤ 2 ^ 971 := by
    rw [powTwo_eq]
    apply Nat.pow_le_pow_right (by decide)
    simp only [maxExponent] at range
    omega
  apply Int.ofNat_le.mpr
  calc mantissa * powTwo e / powTwo (-e) ≤ mantissa * powTwo e := Nat.div_le_self _ _
    _ ≤ largest := Nat.mul_le_mul short power

/-- What a quotient is rounded to has no larger whole part than the largest double. -/
theorem truncate?_nearest_le {num den : Nat} {n : Int} (positive : 0 < den)
    (h : (nearest false num den).truncate? = some n) : n ≤ largest := by
  rw [nearest] at h
  split at h
  · exact truncate?_finite_le (Nat.zero_le _) (by decide) h
  · have mantissa := onGrid_le num positive
    simp only at h
    split at h
    · split at h
      · simp [truncate?] at h
      · exact truncate?_finite_le (show leadingUnit ≤ 2 * leadingUnit - 1 by decide) (by omega) h
    · split at h
      · simp [truncate?] at h
      · exact truncate?_finite_le (by omega) (by omega) h

theorem isSome_truncate? (x : Binary64) : x.truncate?.isSome = x.isFinite := by
  cases x <;> rfl

theorem isNaN_nearest (negative : Bool) (num den : Nat) : (nearest negative num den).isNaN = false := by
  rw [nearest]
  split
  · rfl
  · simp only
    generalize (if _ = 2 * leadingUnit then _ else _ : Nat × Int) = rounded
    obtain ⟨mantissa, e⟩ := rounded
    simp only
    split <;> rfl

/-- A double above zero times a thousand is endless or the rounded quotient of whole numbers. -/
theorem mul_thousand_of_positive {x : Binary64} (positive : x.compareInt? 0 = some .gt) :
    x.mul (ofInt 1000) = .infinity false ∨
      ∃ num den, 0 < den ∧ x.mul (ofInt 1000) = nearest false num den := by
  rw [ofInt_thousand]
  cases x with
  | nan => simp [compareInt?] at positive
  | infinity negative =>
    left
    obtain rfl : negative = false := by simpa [compareInt?] using positive
    rfl
  | finite negative mantissa e =>
    right
    obtain rfl : negative = false := by
      cases negative with
      | false => rfl
      | true =>
        have natural : (0 : Int) ≤ mantissa * powTwo (e - min e 0) :=
          Int.mul_nonneg (Int.natCast_nonneg _) (Int.natCast_nonneg _)
        simp only [compareInt?, signedUnits, Option.some.injEq, Int.compare_eq_gt, if_true,
          Int.zero_mul] at positive
        omega
    exact ⟨_, _, powTwo_pos _, rfl⟩

theorem isNaN_mul_thousand {x : Binary64} (positive : x.compareInt? 0 = some .gt) :
    (x.mul (ofInt 1000)).isNaN = false := by
  rcases mul_thousand_of_positive positive with endless | ⟨num, den, -, quotient⟩
  · rw [endless]
    rfl
  · rw [quotient, isNaN_nearest]

theorem truncate?_mul_thousand_le {x : Binary64} {n : Int} (positive : x.compareInt? 0 = some .gt)
    (h : (x.mul (ofInt 1000)).truncate? = some n) : n ≤ largest := by
  rcases mul_thousand_of_positive positive with endless | ⟨num, den, above, quotient⟩
  · simp [endless, truncate?] at h
  · rw [quotient] at h
    exact truncate?_nearest_le above h

end NtpQuery.Binary64
