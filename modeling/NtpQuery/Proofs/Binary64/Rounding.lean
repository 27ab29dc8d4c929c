import Mathlib.Algebra.Group.Nat.Defs
import NtpQuery.Binary64.Arithmetic
import NtpQuery.Binary64.Fixed

/-!
# What rounding keeps

Rounding keeps the sign, so the sign of a product or a quotient follows from
the signs of its operands, however the result is rounded. It stays within the
range of the doubles for every whole number of 64 bits.
-/

namespace NtpQuery.Binary64

@[simp] theorem isNegative_nearest (negative : Bool) (num den : Nat) :
    (nearest negative num den).isNegative = negative := by
  rw [nearest]
  split
  · rfl
  · simp only
    generalize hr : (if _ = 2 * leadingUnit then _ else _ : Nat × Int) = rounded
    obtain ⟨mantissa, e⟩ := rounded
    simp only
    split <;> rfl

@[simp] theorem isNegative_ofInt (n : Int) : (ofInt n).isNegative = decide (n < 0) :=
  isNegative_nearest _ _ _

theorem isNegative_mul {x y : Binary64} (hx : x.isNegative = false) (hy : y.isNegative = false) :
    (x.mul y).isNegative = false := by
  cases x with
  | finite s m e =>
    obtain rfl : s = false := hx
    cases y with
    | finite t n f =>
      obtain rfl : t = false := hy
      exact isNegative_nearest _ _ _
    | infinity t =>
      obtain rfl : t = false := hy
      simp only [mul]
      split <;> rfl
    | nan => rfl
  | infinity s =>
    obtain rfl : s = false := hx
    cases y with
    | finite t n f =>
      obtain rfl : t = false := hy
      simp only [mul]
      split <;> rfl
    | infinity t =>
      obtain rfl : t = false := hy
      rfl
    | nan => rfl
  | nan => rfl

theorem isNegative_div {x y : Binary64} (hx : x.isNegative = false) (hy : y.isNegative = false) :
    (x.div y).isNegative = false := by
  cases x with
  | finite s m e =>
    obtain rfl : s = false := hx
    cases y with
    | finite t n f =>
      obtain rfl : t = false := hy
      simp only [div]
      split
      · rfl
      · exact isNegative_nearest _ _ _
    | infinity t =>
      obtain rfl : t = false := hy
      rfl
    | nan => rfl
  | infinity s =>
    obtain rfl : s = false := hx
    cases y with
    | finite t n f =>
      obtain rfl : t = false := hy
      simp only [div]
      split <;> rfl
    | infinity t => rfl
    | nan => rfl
  | nan => rfl

theorem nearestInt?_nonneg {x : Binary64} {n : Int} (hx : x.isNegative = false)
    (h : x.nearestInt? = some n) : 0 ≤ n := by
  cases x with
  | finite s m e =>
    simp only [isNegative] at hx
    simp only [nearestInt?, hx, Bool.false_eq_true, if_false, Option.some.injEq] at h
    omega
  | infinity s => simp [nearestInt?] at h
  | nan => simp [nearestInt?] at h

theorem eq_of_finite? {x y : Binary64} (h : x.finite? = some y) : y = x := by
  rw [finite?] at h
  split at h
  · exact (Option.some.inj h).symm
  · simp at h

end NtpQuery.Binary64
