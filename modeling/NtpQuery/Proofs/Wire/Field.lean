import Mathlib.Algebra.Group.Int.Defs
import Mathlib.Algebra.Group.Nat.Defs
import NtpQuery.Wire.Field

/-!
# Reading and writing fields

A field that was written is read back as the number it holds, wherever it
stands in a packet: what is in front of it is skipped, what is behind it is
not looked at. A number that is read always fits the field it was read from.
-/

namespace NtpQuery

namespace Bytes

theorem foldl_eq (bytes : Bytes) (value : Nat) :
    bytes.foldl (fun value octet => value * 256 + octet.toNat) value =
      value * 256 ^ bytes.length + toNat bytes := by
  induction bytes generalizing value with
  | nil => simp
  | cons octet bytes ih =>
    rw [toNat, List.foldl_cons, List.foldl_cons, ih, ih (0 * 256 + octet.toNat), List.length_cons,
      Nat.pow_succ]
    grind

theorem toNat_cons (octet : UInt8) (bytes : Bytes) :
    toNat (octet :: bytes) = octet.toNat * 256 ^ bytes.length + toNat bytes := by
  rw [toNat, List.foldl_cons, foldl_eq, Nat.zero_mul, Nat.zero_add]

theorem toNat_lt (bytes : Bytes) : toNat bytes < 256 ^ bytes.length := by
  induction bytes with
  | nil => simp
  | cons octet bytes ih =>
    have := octet.toNat_lt
    rw [toNat_cons, List.length_cons, Nat.pow_succ]
    have : (octet.toNat + 1) * 256 ^ bytes.length ≤ 256 * 256 ^ bytes.length :=
      Nat.mul_le_mul_right _ (by omega)
    grind

theorem toNat_ofNat (width n : Nat) : toNat (ofNat width n) = n % 256 ^ width := by
  induction width with
  | zero => simp [Nat.mod_one]
  | succ width ih =>
    rw [ofNat, toNat_cons, ih, length_ofNat, Nat.pow_succ, Nat.mod_mul]
    have : (UInt8.ofNat (n / Nat.pow 256 width)).toNat = n / 256 ^ width % 256 := by simp
    rw [this, Nat.mul_comm]
    omega

/-- Only the low octets are laid out. -/
theorem ofNat_add_mul (width high low : Nat) :
    ofNat width (high * 256 ^ width + low) = ofNat width low := by
  induction width generalizing high with
  | zero => rfl
  | succ width ih =>
    have positive : 0 < 256 ^ width := Nat.pow_pos (by decide)
    have split : high * 256 ^ (width + 1) + low = high * 256 * 256 ^ width + low := by
      rw [Nat.pow_succ]
      grind
    rw [ofNat, ofNat, split, ih]
    have quotient : (high * 256 * 256 ^ width + low) / Nat.pow 256 width =
        high * 256 + low / 256 ^ width := by
      rw [Nat.add_comm]
      exact (Nat.add_mul_div_right _ _ positive).trans (Nat.add_comm _ _)
    rw [quotient]
    congr 1
    apply UInt8.toNat_inj.mp
    simp

/-- Octets that were read as a number are laid out as they were. -/
theorem ofNat_toNat (bytes : Bytes) : ofNat bytes.length (toNat bytes) = bytes := by
  induction bytes with
  | nil => rfl
  | cons octet bytes ih =>
    have positive : 0 < 256 ^ bytes.length := Nat.pow_pos (by decide)
    have first : (octet.toNat * 256 ^ bytes.length + toNat bytes) / Nat.pow 256 bytes.length =
        octet.toNat := by
      rw [Nat.add_comm]
      refine (Nat.add_mul_div_right _ _ positive).trans ?_
      rw [Nat.div_eq_of_lt (toNat_lt bytes), Nat.zero_add]
    rw [List.length_cons, toNat_cons, ofNat, first, ofNat_add_mul, ih, UInt8.ofNat_toNat]

end Bytes

namespace Wire

theorem unsigned_eq_ok {width : Nat} {n : Int} {octets : Bytes} :
    unsigned width n = .ok octets ↔
      0 ≤ n ∧ n < (256 ^ width : Nat) ∧ octets = Bytes.ofNat width n.toNat := by
  rw [unsigned]
  split
  · rename_i fits
    constructor
    · intro h
      exact ⟨fits.1, fits.2, (Except.ok.inj h).symm⟩
    · rintro ⟨-, -, rfl⟩
      rfl
  · rename_i fits
    constructor
    · simp
    · rintro ⟨lower, upper, -⟩
      exact absurd ⟨lower, upper⟩ fits

theorem concat_cons_eq_ok {field : Except Failure Bytes} {fields : List (Except Failure Bytes)}
    {octets : Bytes} :
    concat (field :: fields) = .ok octets ↔
      ∃ front rest, field = .ok front ∧ concat fields = .ok rest ∧ octets = front ++ rest := by
  cases field with
  | error failure => simp [concat]
  | ok front =>
    cases written : concat fields with
    | error failure => simp [concat, written]
    | ok rest => simp [concat, written, eq_comm]

theorem concat_nil_eq_ok {octets : Bytes} : concat [] = .ok octets ↔ octets = [] := by
  simp [concat, eq_comm]

/-- Fields are refused for one reason only. -/
theorem concat_eq_error {fields : List (Except Failure Bytes)}
    (refused : ∀ octets, concat fields ≠ .ok octets) : concat fields = .error .fieldOutOfRange := by
  cases fields with
  | nil => exact absurd rfl (refused [])
  | cons field fields =>
    cases field with
    | error failure => rfl
    | ok front =>
      cases written : concat fields with
      | error failure => simp only [concat, written]
      | ok rest => exact absurd (concat_cons_eq_ok.mpr ⟨_, _, rfl, written, rfl⟩) (refused _)

theorem unsignedAt_nonneg (start width : Nat) (data : Bytes) : 0 ≤ unsignedAt start width data :=
  Int.natCast_nonneg _

theorem unsignedAt_lt (start width : Nat) (data : Bytes) :
    unsignedAt start width data < (256 ^ width : Nat) := by
  have value := Bytes.toNat_lt ((data.drop start).take width)
  have short : ((data.drop start).take width).length ≤ width := by
    rw [List.length_take]
    exact Nat.min_le_left _ _
  exact Int.ofNat_lt.mpr
    (Nat.lt_of_lt_of_le value (Nat.pow_le_pow_right (by decide) short))

/-- A field that was read is written as it was. -/
theorem ofNat_unsignedAt {start width : Nat} {data : Bytes} (long : start + width ≤ data.length) :
    Bytes.ofNat width (unsignedAt start width data).toNat = (data.drop start).take width := by
  have full : ((data.drop start).take width).length = width := by
    rw [List.length_take, List.length_drop]
    omega
  have read := Bytes.ofNat_toNat ((data.drop start).take width)
  rw [full] at read
  exact read

/-- Neighbouring fields make up one part of the datagram. -/
theorem slice_append (data : Bytes) (start width next : Nat) :
    (data.drop start).take width ++ (data.drop (start + width)).take next =
      (data.drop start).take (width + next) := by
  rw [List.take_add, List.drop_drop]

theorem unsignedAt_append {front : Bytes} {start : Nat} (h : front.length ≤ start) (width : Nat)
    (rest : Bytes) :
    unsignedAt start width (front ++ rest) = unsignedAt (start - front.length) width rest := by
  rw [unsignedAt, unsignedAt, List.drop_append, List.drop_of_length_le h, List.nil_append]

theorem unsignedAt_ofNat (width n : Nat) (rest : Bytes) :
    unsignedAt 0 width (Bytes.ofNat width n ++ rest) = n % 256 ^ width := by
  rw [unsignedAt, List.drop_zero, List.take_left' (Bytes.length_ofNat width n), Bytes.toNat_ofNat]
  simp

end Wire

end NtpQuery
