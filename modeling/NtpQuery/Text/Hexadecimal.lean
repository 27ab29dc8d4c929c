import NtpQuery.Text.Padding

/-!
# Hexadecimal digits

Numbers are written in lower case. Digits of either case are read.
-/

namespace NtpQuery.Text

/-- The digits of a number in base sixteen, at least `width` of them. -/
def hexadecimal (width n : Nat) : String :=
  let digits := String.ofList (Nat.toDigits 16 n)
  fill width '0' digits ++ digits

/-- The value of a hexadecimal digit; none for every other character. -/
def hexValue? (c : Char) : Option Nat :=
  if c.isDigit then some (c.toNat - 48)
  else if 'a' ≤ c ∧ c ≤ 'f' then some (c.toNat - 87)
  else if 'A' ≤ c ∧ c ≤ 'F' then some (c.toNat - 55)
  else none

end NtpQuery.Text
