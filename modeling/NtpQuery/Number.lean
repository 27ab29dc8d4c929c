import NtpQuery.Binary64.Arithmetic
import NtpQuery.Binary64.Shortest
import NtpQuery.Sorting

/-!
# Whole and real numbers

Records keep whole numbers exact and apart from doubles: `3` and `3.0` are
written differently, although they compare as equal. Averages stay whole as
long as they are exact. What falls outside the range of doubles has no value.
-/

namespace NtpQuery

inductive Number where
  | whole (n : Int)
  | real (x : Binary64)
  deriving DecidableEq, Repr, Inhabited

namespace Number

def toText : Number → String
  | .whole n => toString n
  | .real x => x.toText

/-- Order of the exact values; none when one side is not a number. -/
def compare? : Number → Number → Option Ordering
  | .whole a, .whole b => some (compare a b)
  | .real x, .whole b => x.compareInt? b
  | .whole a, .real y => (y.compareInt? a).map Ordering.swap
  | .real x, .real y => x.compare? y

/-- Equality of values, so that `1` and `1.0` are the same. -/
def sameValue (a b : Number) : Bool :=
  a.compare? b = some .eq

def less (a b : Number) : Bool :=
  a.compare? b = some .lt

/-- At most, or not comparable. -/
def notAbove (a b : Number) : Bool :=
  !b.less a

/-- Whether the number can be compared with others. -/
def isComparable : Number → Bool
  | .whole _ => true
  | .real x => !x.isNaN

/-- The nearest double; none beyond the finite range of a whole number. -/
def toBinary64? : Number → Option Binary64
  | .whole n => Binary64.ofInt? n
  | .real x => some x

/-- Half of the sum, as a double. -/
def halfSum? : Number → Number → Option Binary64
  | .whole a, .whole b => Binary64.ofRatio? (a + b) 2
  | a, b => do
    let x ← a.toBinary64?
    let y ← b.toBinary64?
    pure ((x.add y).div (.ofInt 2))

/-- The sum of finite values as a multiple of a power of two. -/
def exactSum (numbers : List Number) : Int × Int :=
  numbers.foldl (fun (sum, grid) number =>
    match number with
    | .whole n => (sum + n * Binary64.powTwo (-grid), grid)
    | .real (.finite negative mantissa e) =>
      let finer := min grid e
      (sum * Binary64.powTwo (grid - finer) + Binary64.signedUnits negative mantissa e finer, finer)
    | .real _ => (sum, grid)) (0, 0)

/-- The values that are no finite number. -/
def unbounded (numbers : List Number) : List Binary64 :=
  numbers.filterMap fun
    | .real x => if x.isFinite then none else some x
    | .whole _ => none

def isWhole : Number → Bool
  | .whole _ => true
  | .real _ => false

/-- The mean of a non-empty list. It is whole when all are whole and it is
exact, otherwise the double nearest to the exact mean; none beyond the range
of doubles. -/
def mean? (numbers : List Number) : Option Number :=
  match unbounded numbers with
  | x :: rest => some (.real (rest.foldl Binary64.add x))
  | [] =>
    let (sum, grid) := exactSum numbers
    let count := numbers.length
    if numbers.all isWhole && sum % count = 0 then some (.whole (sum / count))
    else (Binary64.ofRatio? sum (count * Binary64.powTwo (-grid))).map .real

/-- To a number of decimal places; whole numbers stay as they are. -/
def roundTo (places : Nat) : Number → Number
  | .whole n => .whole n
  | .real x => .real (x.roundTo places)

end Number

end NtpQuery
