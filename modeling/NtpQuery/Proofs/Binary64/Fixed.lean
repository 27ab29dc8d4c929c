import Mathlib.Algebra.Order.Field.Basic
import NtpQuery.Proofs.Binary64.Exact

/-!
# Decimals that are not rounded

A value whose digits end within the places that are shown is written as it is,
and rounding to these places does not change it.
The last digit of a number with leading zeros stands apart from the number
before it, so a whole part and a fraction that are counted together in units of
the last place come apart again at the point.
-/

namespace NtpQuery

namespace Text

theorem toString_eq_toDigits (n : Nat) : toString n = String.ofList (Nat.toDigits 10 n) :=
  Nat.repr_eq_ofList_toDigits

/-- The sign of a whole number stands in front of its size. -/
theorem toString_eq_sign_append (n : Int) :
    toString n = (if n < 0 then "-" else "") ++ toString n.natAbs := by
  rw [Int.toString_eq_repr, Int.repr_eq_if]
  split
  · rename_i natural
    rw [if_neg (by omega), String.empty_append, show n.toNat = n.natAbs by omega]
    rfl
  · rename_i negative
    rw [if_pos (by omega), show (-n).toNat = n.natAbs by omega]
    rfl

theorem toList_zeroPadded (width n : Nat) : (zeroPadded width n).toList =
    List.replicate (width - (Nat.toDigits 10 n).length) '0' ++ Nat.toDigits 10 n := by
  rw [zeroPadded, fill, toString_eq_toDigits, String.toList_append, String.toList_ofList,
    String.toList_ofList, String.length_ofList]

/-- One digit is no narrower than any number. -/
theorem zeroPadded_one (n : Nat) : zeroPadded 1 n = toString n := by
  have filled : 0 < (Nat.toDigits 10 n).length := Nat.length_toDigits_pos
  apply String.toList_injective
  rw [toList_zeroPadded, toString_eq_toDigits, String.toList_ofList, Nat.sub_eq_zero_of_le filled,
    List.replicate_zero, List.nil_append]

/-- The last digit stands behind the digits of the tenth part. -/
theorem toList_zeroPadded_succ (width n : Nat) : (zeroPadded (width + 2) n).toList =
    (zeroPadded (width + 1) (n / 10)).toList ++ [(n % 10).digitChar] := by
  simp only [toList_zeroPadded]
  by_cases small : n < 10
  · rw [Nat.toDigits_of_lt_base small, Nat.div_eq_of_lt small, Nat.mod_eq_of_lt small,
      Nat.toDigits_zero]
    simp [← List.replicate_succ']
  · have digits := Nat.toDigits_of_base_le (by decide : 1 < 10) (Nat.le_of_not_lt small)
    have width : width + 2 - ((Nat.toDigits 10 (n / 10)).length + 1) =
        width + 1 - (Nat.toDigits 10 (n / 10)).length := by omega
    rw [digits, List.length_append, List.length_singleton, List.append_assoc, width]

/-- A whole part and a fraction of a given number of digits stand side by side. -/
theorem toList_zeroPadded_add (places whole : Nat) {fraction : Nat}
    (small : fraction < 10 ^ (places + 1)) :
    (zeroPadded (places + 2) (whole * 10 ^ (places + 1) + fraction)).toList =
      (toString whole).toList ++ (zeroPadded (places + 1) fraction).toList := by
  -- Without digits the last one has none before it, so the induction begins at one of them.
  induction places generalizing fraction with
  | zero =>
    rw [Nat.zero_add, Nat.pow_one] at small
    have front : (whole * 10 ^ (0 + 1) + fraction) / 10 = whole := by omega
    have last : (whole * 10 ^ (0 + 1) + fraction) % 10 = fraction := by omega
    rw [toList_zeroPadded_succ, front, last, zeroPadded_one, zeroPadded_one,
      toString_eq_toDigits fraction, String.toList_ofList, Nat.toDigits_of_lt_base small]
  | succ places ih =>
    rw [Nat.pow_succ] at small
    have shifted : whole * 10 ^ (places + 1 + 1) + fraction =
        fraction + 10 * (whole * 10 ^ (places + 1)) := by
      rw [Nat.pow_succ]
      ring
    have front : (whole * 10 ^ (places + 1 + 1) + fraction) / 10 =
        whole * 10 ^ (places + 1) + fraction / 10 := by
      rw [shifted, Nat.add_mul_div_left _ _ (by decide), Nat.add_comm]
    have last : (whole * 10 ^ (places + 1 + 1) + fraction) % 10 = fraction % 10 := by
      rw [shifted, Nat.add_mul_mod_self_left]
    rw [toList_zeroPadded_succ, front, last, ih (Nat.div_lt_of_lt_mul (by omega)),
      toList_zeroPadded_succ places fraction, List.append_assoc]

theorem length_zeroPadded {places fraction : Nat} (small : fraction < 10 ^ (places + 1)) :
    (zeroPadded (places + 1) fraction).toList.length = places + 1 := by
  have short : (Nat.toDigits 10 fraction).length ≤ places + 1 :=
    (Nat.length_toDigits_le_iff (by decide) (by omega)).mpr small
  rw [toList_zeroPadded, List.length_append, List.length_replicate]
  omega

end Text

namespace Binary64

/-- The point is put between the whole part and the fraction. -/
theorem placesText_add (places whole : Nat) {fraction : Nat}
    (small : fraction < 10 ^ (places + 1)) :
    placesText (places + 1) (whole * 10 ^ (places + 1) + fraction) =
      toString whole ++ "." ++ Text.zeroPadded (places + 1) fraction := by
  have width : ((toString whole).toList ++ (Text.zeroPadded (places + 1) fraction).toList).length -
      (places + 1) = (toString whole).toList.length := by
    rw [List.length_append, Text.length_zeroPadded small, Nat.add_sub_cancel]
  rw [placesText]
  simp only [Text.toList_zeroPadded_add places whole small, width]
  rw [if_neg (by omega), List.take_left, List.drop_left, String.ofList_toList,
    String.ofList_toList]

/-- A value that ends within the places is a whole number of units of the last place. -/
theorem mul_powTen_of_exact {negative : Bool} {mantissa places scaled : Nat} {e : Int}
    (exact : |value negative mantissa e| * 10 ^ places = scaled) :
    mantissa * powTwo e * powTen places = powTwo (-e) * scaled := by
  rw [← @Nat.cast_inj Rat]
  push_cast
  rw [cast_powTwo e, ← exact, value_abs, powTen, Int.toNat_natCast]
  push_cast [Nat.pow_eq]
  ring

theorem fixedSize_of_exact {x : Binary64} {value : Rat} {places scaled : Nat}
    (read : x.toRat? = some value) (exact : |value| * 10 ^ places = scaled) :
    x.fixedSize places = placesText places scaled := by
  cases x with
  | infinity negative => simp [toRat?] at read
  | nan => simp [toRat?] at read
  | finite negative mantissa e =>
    rw [toRat?_finite, Option.some.injEq] at read
    subst read
    rw [fixedSize, mul_powTen_of_exact exact, roundedDiv_mul (powTwo_pos _)]

/-- Rounding to decimals takes the units of the last place. -/
theorem roundTo_of_exact {x : Binary64} {value : Rat} {places scaled : Nat}
    (read : x.toRat? = some value) (exact : |value| * 10 ^ places = scaled) :
    x.roundTo places = nearest x.isNegative scaled (powTen places) := by
  cases x with
  | infinity negative => simp [toRat?] at read
  | nan => simp [toRat?] at read
  | finite negative mantissa e =>
    rw [toRat?_finite, Option.some.injEq] at read
    subst read
    rw [roundTo, mul_powTen_of_exact exact, roundedDiv_mul (powTwo_pos _)]
    rfl

/-- The sign, the whole part and all digits of a fraction that ends within the places. -/
theorem toFixed_of_exact {x : Binary64} {value : Rat} {places whole fraction : Nat}
    (read : x.toRat? = some value) (small : fraction < 10 ^ (places + 1))
    (exact : |value| * 10 ^ (places + 1) = (whole * 10 ^ (places + 1) + fraction : Nat)) :
    x.toFixed (places + 1) = (if x.isNegative then "-" else "") ++
      (toString whole ++ "." ++ Text.zeroPadded (places + 1) fraction) := by
  rw [toFixed, fixedSize_of_exact read exact, placesText_add places whole small]

/-- A whole number shows no other digits than zeros behind the point. -/
theorem toFixed_ofInt {n : Int} (short : n.natAbs < 2 ^ 53) (places : Nat) :
    (ofInt n).toFixed (places + 1) = toString n ++ "." ++ Text.zeroPadded (places + 1) 0 := by
  have exact : |(n : Rat)| * 10 ^ (places + 1) = (n.natAbs * 10 ^ (places + 1) + 0 : Nat) := by
    push_cast
    rw [add_zero, Nat.cast_natAbs, Int.cast_abs]
  rw [toFixed_of_exact (toRat?_ofInt short) (Nat.pow_pos (by decide)) exact, isNegative_ofInt,
    Text.toString_eq_sign_append n]
  simp only [decide_eq_true_eq, String.append_assoc]

theorem finite?_of_toRat? {x : Binary64} {value : Rat} (read : x.toRat? = some value) :
    x.finite? = some x := by
  cases x with
  | finite negative mantissa e => rfl
  | infinity negative => simp [toRat?] at read
  | nan => simp [toRat?] at read

theorem isNegative_half {n : Int} (short : n.natAbs < 2 ^ 53) :
    ((ofInt n).div (ofInt 2)).isNegative = decide (n < 0) := by
  obtain ⟨mantissa, e, read⟩ := ofInt_eq_finite short
  rw [read, ofInt_two, div, if_neg (by decide), isNegative_nearest, Bool.bne_false]

/-- Half of a whole number shows a five behind the point, or only zeros. -/
theorem toFixed_half {n : Int} (short : n.natAbs < 2 ^ 53) (places : Nat) :
    ((ofInt n).div (ofInt 2)).toFixed (places + 1) = (if n < 0 then "-" else "") ++
      (toString (n.natAbs / 2) ++ "." ++
        Text.zeroPadded (places + 1) (n.natAbs % 2 * (5 * 10 ^ places))) := by
  have small : n.natAbs % 2 * (5 * 10 ^ places) < 10 ^ (places + 1) := by
    have positive : 0 < 10 ^ places := Nat.pow_pos (by decide)
    have rest : n.natAbs % 2 ≤ 1 := by omega
    calc n.natAbs % 2 * (5 * 10 ^ places) ≤ 1 * (5 * 10 ^ places) := Nat.mul_le_mul_right _ rest
      _ < 10 ^ (places + 1) := by rw [Nat.pow_succ]; omega
  have exact : |(n : Rat) / 2| * 10 ^ (places + 1) =
      (n.natAbs / 2 * 10 ^ (places + 1) + n.natAbs % 2 * (5 * 10 ^ places) : Nat) := by
    have parts : (n.natAbs : Rat) = 2 * (n.natAbs / 2 : Nat) + (n.natAbs % 2 : Nat) := by
      exact_mod_cast (Nat.div_add_mod n.natAbs 2).symm
    have size : |(n : Rat)| = n.natAbs := by rw [Nat.cast_natAbs, Int.cast_abs]
    rw [abs_div, size, abs_two, parts]
    push_cast
    ring
  rw [toFixed_of_exact (toRat?_half short) small exact, isNegative_half short]
  simp only [decide_eq_true_eq]

/-- The quotient of a whole number by two has one digit at most behind the point, so it is the same
when it is rounded to two of them. -/
theorem toRat?_roundTo_half {n : Int} (short : n.natAbs < 2 ^ 53) :
    ∃ x, ofRatio? n 2 = some x ∧ (x.roundTo 2).toRat? = some ((n : Rat) / 2) := by
  have half : (nearest (decide (n < 0)) n.natAbs 2).toRat? =
      some (value (decide (n < 0)) n.natAbs (-(1 : Nat))) :=
    toRat?_nearest _ (by decide) (Nat.mul_comm _ _) (by decide) short
  have exact : |value (decide (n < 0)) n.natAbs (-(1 : Nat))| * 10 ^ 2 = (n.natAbs * 50 : Nat) := by
    rw [value_abs]
    push_cast
    ring
  have cents : n.natAbs * 50 * 2 ^ 1 = powTen (2 : Nat) * n.natAbs := by
    rw [show powTen (2 : Nat) = 100 from rfl]
    ring
  refine ⟨_, finite?_of_toRat? half, ?_⟩
  rw [roundTo_of_exact half exact, isNegative_nearest,
    toRat?_nearest _ (by decide) cents (by decide) short]
  exact congrArg some (value_natAbs_half n)

end Binary64

end NtpQuery
