import NtpQuery.Binary64.Basic

/-!
# Arithmetic on doubles

Sums, products and quotients are computed exactly on mantissas and exponents
and rounded once. An operation whose exact result is zero keeps the sign that
the operands give it, and one without a meaningful result is not a number.

The order is that of the exact values. Nothing is ordered with what is not a
number, so `compare?` answers none there.
-/

namespace NtpQuery.Binary64

/-- A finite double as a signed multiple of `2 ^ grid`, `grid` not above its exponent. -/
def signedUnits (negative : Bool) (mantissa : Nat) (e grid : Int) : Int :=
  let units : Int := mantissa * powTwo (e - grid)
  if negative then -units else units

def add : Binary64 → Binary64 → Binary64
  | .finite s m e, .finite t n f =>
    let grid := min e f
    let sum := signedUnits s m e grid + signedUnits t n f grid
    if sum = 0 then zero (s && t) else nearestScaled (sum < 0) sum.natAbs grid
  | .infinity s, .infinity t => if s = t then .infinity s else .nan
  | .infinity s, .finite .. => .infinity s
  | .finite .., .infinity t => .infinity t
  | .nan, _ => .nan
  | _, .nan => .nan

def mul : Binary64 → Binary64 → Binary64
  | .finite s m e, .finite t n f => nearestScaled (s != t) (m * n) (e + f)
  | .infinity s, .infinity t => .infinity (s != t)
  | .infinity s, .finite t n _ => if n = 0 then .nan else .infinity (s != t)
  | .finite s m _, .infinity t => if m = 0 then .nan else .infinity (s != t)
  | .nan, _ => .nan
  | _, .nan => .nan

/-- Division by a non-zero finite double. -/
def div : Binary64 → Binary64 → Binary64
  | .finite s m e, .finite t n f =>
    let scale := e - f
    if n = 0 then .nan
    else nearest (s != t) (m * powTwo scale) (n * powTwo (-scale))
  | .infinity s, .finite t n _ => if n = 0 then .nan else .infinity (s != t)
  | .finite s _ _, .infinity t => zero (s != t)
  | _, _ => .nan

/-- Order of the exact values; none when one side is not a number. -/
def compare? : Binary64 → Binary64 → Option Ordering
  | .finite s m e, .finite t n f =>
    let grid := min e f
    some (compare (signedUnits s m e grid) (signedUnits t n f grid))
  | .infinity s, .infinity t => some (compare (!s).toNat (!t).toNat)
  | .infinity s, .finite .. => some (if s then .lt else .gt)
  | .finite .., .infinity t => some (if t then .gt else .lt)
  | .nan, _ => none
  | _, .nan => none

/-- Order against a whole number, exact also where the number is no double. -/
def compareInt? : Binary64 → Int → Option Ordering
  | .finite s m e, n =>
    let grid := min e 0
    some (compare (signedUnits s m e grid) (n * powTwo (-grid)))
  | .infinity s, _ => some (if s then .lt else .gt)
  | .nan, _ => none

/-- The whole part, nearer to zero; none for what is not finite. -/
def truncate? : Binary64 → Option Int
  | .finite negative mantissa e =>
    let size := mantissa * powTwo e / powTwo (-e)
    some (if negative then -(size : Int) else size)
  | _ => none

/-- The nearest whole number, a tie to the even one; none for what is not finite. -/
def nearestInt? : Binary64 → Option Int
  | .finite negative mantissa e =>
    let size := roundedDiv (mantissa * powTwo e) (powTwo (-e))
    some (if negative then -(size : Int) else size)
  | _ => none

/-- To the nearest multiple of `10 ^ (-places)`, a tie on the exact value to
the even one, and from there to the nearest double. -/
def roundTo (places : Nat) : Binary64 → Binary64
  | .finite negative mantissa e =>
    let scaled := roundedDiv (mantissa * powTwo e * powTen places) (powTwo (-e))
    nearest negative scaled (powTen places)
  | x => x

/-- A double with an integral value, as that integer. -/
def integer? : Binary64 → Option Int
  | x@(.finite ..) =>
    match x.truncate? with
    | some n => if x.compareInt? n = some .eq then some n else none
    | none => none
  | _ => none

end NtpQuery.Binary64
