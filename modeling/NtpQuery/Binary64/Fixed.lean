import NtpQuery.Binary64.Basic
import NtpQuery.Text.Padding

/-!
# A fixed number of decimal places

The exact value is rounded to the given number of places, a tie to the even
neighbour, and written with that many digits behind the point. The sign is
that of the double, so a small negative value shows as a negative zero.
-/

namespace NtpQuery.Binary64

/-- The size of a number counted in units of `10 ^ (-places)`. -/
def placesText (places scaled : Nat) : String :=
  let digits := (Text.zeroPadded (places + 1) scaled).toList
  let whole := digits.length - places
  if places = 0 then String.ofList digits
  else String.ofList (digits.take whole) ++ "." ++ String.ofList (digits.drop whole)

/-- The text without a sign. -/
def fixedSize (places : Nat) : Binary64 → String
  | .finite _ mantissa e =>
    placesText places
      (roundedDiv (mantissa * powTwo e * powTen places) (powTwo (-e)))
  | .infinity _ => "inf"
  | .nan => "nan"

def isNegative : Binary64 → Bool
  | .finite negative _ _ => negative
  | .infinity negative => negative
  | .nan => false

/-- The value with `places` digits behind the point. -/
def toFixed (places : Nat) (x : Binary64) : String :=
  (if x.isNegative then "-" else "") ++ x.fixedSize places

/-- The same with a sign also in front of a positive value. -/
def toSignedFixed (places : Nat) (x : Binary64) : String :=
  (if x.isNegative then "-" else "+") ++ x.fixedSize places

example : (nearest true 1 2).toFixed 6 = "-0.500000" := by decide +kernel

example : (nearest false 5 2).toSignedFixed 0 = "+2" := by decide +kernel

end NtpQuery.Binary64
