import Mathlib.Algebra.Group.Nat.Defs
import NtpQuery.Text.Hexadecimal
import NtpQuery.Text.Numeral

/-!
# Reading back the digits of a number

The digits of a number in some base have the number as their value, and zeros
in front change nothing. So what was written in decimal, or in base sixteen with
leading zeros, is the same number when it is read.
-/

namespace NtpQuery.Text

/-- The number that digit values denote in a base. -/
def ofDigitValues (base : Nat) (digits : List Nat) : Nat :=
  digits.foldl (fun n d => n * base + d) 0

theorem ofDigitValues_concat (base : Nat) (digits : List Nat) (d : Nat) :
    ofDigitValues base (digits ++ [d]) = ofDigitValues base digits * base + d := by
  simp [ofDigitValues]

theorem ofDigitValues_zeros (base count : Nat) (digits : List Nat) :
    ofDigitValues base (List.replicate count 0 ++ digits) = ofDigitValues base digits := by
  induction count with
  | zero => rfl
  | succ count ih =>
    rw [List.replicate_succ, List.cons_append, ← ih]
    simp [ofDigitValues]

/-- Digits that are read one by one have the number as their value. -/
theorem mapM_toDigits {base : Nat} (large : 1 < base) (digit? : Char → Option Nat)
    (reads : ∀ d < base, digit? d.digitChar = some d) (n : Nat) :
    ∃ digits, (Nat.toDigits base n).mapM digit? = some digits ∧
      ofDigitValues base digits = n := by
  induction n using Nat.strongRecOn with
  | ind n ih =>
    by_cases small : n < base
    · refine ⟨[n], ?_, ?_⟩
      · simp [Nat.toDigits_of_lt_base small, reads n small]
      · simp [ofDigitValues]
    · have positive : 0 < n := by omega
      obtain ⟨digits, read, value⟩ := ih (n / base) (Nat.div_lt_self positive large)
      have last : n % base < base := Nat.mod_lt n (by omega)
      refine ⟨digits ++ [n % base], ?_, ?_⟩
      · rw [Nat.toDigits_of_base_le large (by omega), List.mapM_append]
        simp [read, reads _ last]
      · rw [ofDigitValues_concat, value]
        exact Nat.div_add_mod' n base

theorem mem_toDigits {base : Nat} (large : 1 < base) {n : Nat} {c : Char}
    (mem : c ∈ Nat.toDigits base n) : ∃ d < base, c = d.digitChar := by
  induction n using Nat.strongRecOn with
  | ind n ih =>
    by_cases small : n < base
    · rw [Nat.toDigits_of_lt_base small, List.mem_singleton] at mem
      exact ⟨n, small, mem⟩
    · rw [Nat.toDigits_of_base_le large (by omega), List.mem_append, List.mem_singleton] at mem
      rcases mem with mem | rfl
      · exact ih (n / base) (Nat.div_lt_self (by omega) large) mem
      · exact ⟨n % base, Nat.mod_lt n (by omega), rfl⟩

theorem hexValue?_digitChar : ∀ d < 16, hexValue? d.digitChar = some d := by
  decide

theorem toList_hexadecimal (width n : Nat) : (hexadecimal width n).toList =
    List.replicate (width - (Nat.toDigits 16 n).length) '0' ++ Nat.toDigits 16 n := by
  simp [hexadecimal, fill]

/-- Four digits in base sixteen hold any 16-bit number. -/
theorem hexadecimal_four {n : Nat} (small : n < 65536) :
    ∃ a b c d digits, (hexadecimal 4 n).toList = [a, b, c, d] ∧
      [a, b, c, d].mapM hexValue? = some digits ∧ ofDigitValues 16 digits = n := by
  obtain ⟨digits, read, value⟩ := mapM_toDigits (by decide) hexValue? hexValue?_digitChar n
  have short : (Nat.toDigits 16 n).length ≤ 4 :=
    (Nat.length_toDigits_le_iff (by decide) (by decide)).mpr small
  have written := toList_hexadecimal 4 n
  have width : (hexadecimal 4 n).toList.length = 4 := by
    rw [written, List.length_append, List.length_replicate]
    omega
  have zeros : ∀ count, (List.replicate count '0').mapM hexValue? =
      some (List.replicate count 0) := by
    intro count
    induction count with
    | zero => rfl
    | succ count ih =>
      rw [List.replicate_succ, List.mapM_cons, ih]
      rfl
  have all : (hexadecimal 4 n).toList.mapM hexValue? =
      some (List.replicate (4 - (Nat.toDigits 16 n).length) 0 ++ digits) := by
    rw [written, List.mapM_append, zeros, read]
    rfl
  match chars : (hexadecimal 4 n).toList with
  | [a, b, c, d] =>
    rw [chars] at all
    exact ⟨a, b, c, d, _, rfl, all, by rw [ofDigitValues_zeros, value]⟩
  | [] | [_] | [_, _] | [_, _, _] | _ :: _ :: _ :: _ :: _ :: _ => simp [chars] at width

namespace Numeral

/-- The digits of a number that is short enough. -/
theorem ofDigits?_toDigits {n : Nat} (short : n < 10 ^ maxDigits) :
    ofDigits? ((Nat.toDigits 10 n).map fun c => c.toNat - 48) = some n := by
  have length : (Nat.toDigits 10 n).length ≤ maxDigits :=
    (Nat.length_toDigits_le_iff (by decide) (by decide)).mpr short
  obtain ⟨digits, read, denotes⟩ := mapM_toDigits (by decide)
    (fun c => some (c.toNat - 48))
    (fun d small => congrArg some (Nat.toNat_digitChar_sub_48_of_lt_ten small)) n
  have values : (Nat.toDigits 10 n).map (fun c => c.toNat - 48) = digits := by
    rw [show (fun c : Char => some (c.toNat - 48)) = fun c => pure (c.toNat - 48) from rfl,
      List.mapM_pure] at read
    exact Option.some.inj read
  rw [ofDigits?, if_neg (by simp [Nat.toDigits_ne_nil, length]), values]
  exact congrArg some denotes

end Numeral

end NtpQuery.Text
