/-!
# Double-precision numbers

A finite double is a sign, a whole mantissa and a power of two, and every
operation is the exact result rounded once: to the nearest double, a tie to
the one with the even mantissa. Values are kept in one form. The mantissa has
53 binary digits, or fewer on the finest grid, which is `2 ^ (-1074)`; zero
has exponent `-1074` and a sign of its own.

`Binary64.nearest` is the only place where rounding happens. It takes an exact
quotient of natural numbers, finds the grid on which the quotient has 53
digits and rounds on it; what would need a larger exponent is infinite.
-/

namespace NtpQuery

inductive Binary64 where
  | finite (negative : Bool) (mantissa : Nat) (exponent : Int)
  | infinity (negative : Bool)
  | nan
  deriving DecidableEq, Repr, Inhabited

/-- The quotient to the nearest whole number, a half to the even neighbour. -/
def roundedDiv (num den : Nat) : Nat :=
  let quotient := num / den
  match compare (2 * (num % den)) den with
  | .lt => quotient
  | .gt => quotient + 1
  | .eq => if quotient % 2 = 0 then quotient else quotient + 1

namespace Binary64

/-- The power `2 ^ e`, and 1 for a negative exponent. So `2 ^ e` is always the quotient of
`powTwo e` and `powTwo (-e)`. -/
def powTwo (e : Int) : Nat := Nat.pow 2 e.toNat

/-- The power `10 ^ e`, and 1 for a negative exponent. -/
def powTen (e : Int) : Nat := Nat.pow 10 e.toNat

/-- The least mantissa with 53 binary digits. -/
def leadingUnit : Nat := 4503599627370496

/-- Exponent of the finest grid. -/
def minExponent : Int := -1074

/-- Exponent of the coarsest grid. -/
def maxExponent : Int := 971

def zero (negative : Bool) : Binary64 :=
  .finite negative 0 minExponent

/-- The exponent of the leading binary digit of `num / den`, both positive. -/
def leadingExponent (num den : Nat) : Int :=
  let e : Int := num.log2 - den.log2
  if den * powTwo e ≤ num * powTwo (-e) then e else e - 1

/-- The quotient counted in units of `2 ^ e`, rounded. -/
def onGrid (num den : Nat) (e : Int) : Nat :=
  roundedDiv (num * powTwo (-e)) (den * powTwo e)

/-- The double nearest to `num / den`, with the given sign. -/
def nearest (negative : Bool) (num den : Nat) : Binary64 :=
  if num = 0 then zero negative
  else
    let e := max (leadingExponent num den - 52) minExponent
    let mantissa := onGrid num den e
    let (mantissa, e) := if mantissa = 2 * leadingUnit then (leadingUnit, e + 1) else (mantissa, e)
    if maxExponent < e then .infinity negative else .finite negative mantissa e

/-- The double nearest to `mantissa * 2 ^ e`. -/
def nearestScaled (negative : Bool) (mantissa : Nat) (e : Int) : Binary64 :=
  nearest negative (mantissa * powTwo e) (powTwo (-e))

/-- The double nearest to a whole number, infinite when it is too large. -/
def ofInt (n : Int) : Binary64 :=
  nearest (n < 0) n.natAbs 1

def isFinite : Binary64 → Bool
  | .finite .. => true
  | _ => false

def isNaN : Binary64 → Bool
  | .nan => true
  | _ => false

/-- The value when finite, otherwise none. -/
def finite? (x : Binary64) : Option Binary64 :=
  if x.isFinite then some x else none

/-- The double nearest to a whole number; none beyond the finite range. -/
def ofInt? (n : Int) : Option Binary64 :=
  (ofInt n).finite?

/-- The double nearest to the quotient of whole numbers, `den` positive; none
beyond the finite range. -/
def ofRatio? (num : Int) (den : Nat) : Option Binary64 :=
  (nearest (num < 0) num.natAbs den).finite?

/-- The exact value of a finite double. -/
def toRat? : Binary64 → Option Rat
  | .finite negative mantissa e =>
    let size : Rat := (mantissa * powTwo e : Nat) / (powTwo (-e) : Nat)
    some (if negative then -size else size)
  | _ => none

@[simp] theorem finite?_finite (negative : Bool) (mantissa : Nat) (e : Int) :
    (Binary64.finite negative mantissa e).finite? = some (.finite negative mantissa e) := rfl

@[simp] theorem nearest_zero (negative : Bool) (den : Nat) :
    nearest negative 0 den = zero negative := rfl

end Binary64

end NtpQuery
