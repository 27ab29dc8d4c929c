import NtpQuery.Binary64.Basic
import NtpQuery.Text.Padding

/-!
# The fewest digits that identify a double

A double stands for the interval of real numbers that round to it: from half
way to the neighbour below to half way to the neighbour above, both ends
included when its mantissa is even. Its shortest text is the decimal in that
interval with the fewest digits and, among those, the nearest one; a tie goes
to the even digit.

The search goes from one digit to seventeen. On the grid of a given number of
digits only the two neighbours of the exact value can be nearest, so only
those are tested, by comparing naturals. Seventeen digits always suffice, and
the exact decimal expansion stands behind them.

`Layout.standard` fixes how the digits are written in logs, answers and
reports: positionally for leading exponents from -4 to 15, otherwise with a
signed exponent of two digits or more, and always recognisable as no integer.
-/

namespace NtpQuery.Binary64

/-- The number `digits * 10 ^ exponent`. -/
structure Decimal where
  digits : Nat
  exponent : Int
  deriving DecidableEq, Repr

/-- Compares `a * 10 ^ i` with `n * 2 ^ j`. -/
def compareScaled (a : Nat) (i : Int) (n : Nat) (j : Int) : Ordering :=
  compare (a * powTen i * powTwo (-j)) (n * powTwo j * powTen (-i))

/-- Whether the decimal rounds to `mantissa * 2 ^ e`. Below a power of two the
neighbour is only half as far away, except on the finest grid. -/
def readsBack (mantissa : Nat) (e : Int) (d : Decimal) : Bool :=
  let narrow := mantissa = leadingUnit && minExponent < e
  let low := if narrow then 4 * mantissa - 1 else 4 * mantissa - 2
  let high := 4 * mantissa + 2
  let closed := mantissa % 2 = 0
  let aboveLow := compareScaled d.digits d.exponent low (e - 2)
  let belowHigh := compareScaled d.digits d.exponent high (e - 2)
  (aboveLow = .gt || (closed && aboveLow = .eq)) && (belowHigh = .lt || (closed && belowHigh = .eq))

/-- The least `k` with `mantissa * 2 ^ e < 10 ^ k`, found upwards from a guess
that is at most two too small. -/
def decimalScale (mantissa : Nat) (e : Int) : Int :=
  let guess := ((mantissa.log2 : Int) + e) * 30103 / 100000
  if compareScaled 1 guess mantissa e = .gt then guess
  else if compareScaled 1 (guess + 1) mantissa e = .gt then guess + 1
  else guess + 2

/-- The shortest decimal on the grid of the given exponent, if one reads back. -/
def onDecimalGrid (mantissa : Nat) (e exponent : Int) : Option Decimal :=
  let num := mantissa * powTwo e * powTen (-exponent)
  let den := powTwo (-e) * powTen exponent
  let below : Decimal := ⟨num / den, exponent⟩
  let above : Decimal := ⟨num / den + 1, exponent⟩
  match readsBack mantissa e below, readsBack mantissa e above with
  | true, true => some ⟨roundedDiv num den, exponent⟩
  | true, false => some below
  | false, true => some above
  | false, false => none

/-- The exact decimal expansion. -/
def exactDecimal (mantissa : Nat) (e : Int) : Decimal :=
  ⟨mantissa * powTwo e * Nat.pow 5 (-e).toNat, min e 0⟩

/-- Moves up to `fuel` trailing zeros of the digits into the exponent. -/
def stripZeros : (fuel : Nat) → Decimal → Decimal
  | 0, d => d
  | fuel + 1, d =>
    if d.digits % 10 = 0 && d.digits ≠ 0 then
      stripZeros fuel ⟨d.digits / 10, d.exponent + 1⟩
    else d

/-- The decimal with the fewest digits that reads back to a positive double. -/
def shortest (mantissa : Nat) (e : Int) : Decimal :=
  let scale := decimalScale mantissa e
  let found := (List.range 17).findSome? fun (count : Nat) =>
    onDecimalGrid mantissa e (scale - (count + 1))
  stripZeros 18 (found.getD (exactDecimal mantissa e))

/-- How a number that is no integer is written. -/
structure Layout where
  /-- Least exponent of the leading digit that is written positionally. -/
  positionalFrom : Int
  /-- Least exponent of the leading digit, above those, that is not. -/
  positionalBelow : Int
  exponentMark : String
  /-- Least number of digits of an exponent. -/
  exponentDigits : Nat
  infinite : String
  notANumber : String

namespace Layout

def standard : Layout where
  positionalFrom := -4
  positionalBelow := 16
  exponentMark := "e"
  exponentDigits := 2
  infinite := "inf"
  notANumber := "nan"

/-- The layout of machine-readable records, which spell the special values out. -/
def record : Layout :=
  { standard with infinite := "Infinity", notANumber := "NaN" }

/-- Digits with a point after the first `whole` of them. -/
def positional (digits : List Char) (whole : Int) : String :=
  if whole ≤ 0 then
    "0." ++ String.ofList (List.replicate (-whole).toNat '0' ++ digits)
  else if (digits.length : Int) ≤ whole then
    String.ofList (digits ++ List.replicate (whole.toNat - digits.length) '0') ++ ".0"
  else
    String.ofList (digits.take whole.toNat) ++ "." ++ String.ofList (digits.drop whole.toNat)

def scientific (layout : Layout) (digits : List Char) (leading : Int) : String :=
  let fraction := if digits.length ≤ 1 then "" else "." ++ String.ofList (digits.drop 1)
  let sign := if leading < 0 then "-" else "+"
  String.ofList (digits.take 1) ++ fraction ++ layout.exponentMark ++ sign ++
    Text.zeroPadded layout.exponentDigits leading.natAbs

/-- A positive decimal. -/
def decimal (layout : Layout) (d : Decimal) : String :=
  let digits := Nat.toDigits 10 d.digits
  let leading := d.exponent + digits.length - 1
  if layout.positionalFrom ≤ leading && leading < layout.positionalBelow then
    positional digits (leading + 1)
  else layout.scientific digits leading

def write (layout : Layout) : Binary64 → String
  | .finite negative mantissa e =>
    let sign := if negative then "-" else ""
    if mantissa = 0 then sign ++ "0.0" else sign ++ layout.decimal (shortest mantissa e)
  | .infinity negative => (if negative then "-" else "") ++ layout.infinite
  | .nan => layout.notANumber

end Layout

/-- The shortest text that identifies the double. -/
def toText (x : Binary64) : String :=
  Layout.standard.write x

example : toText (nearest false 1 10) = "0.1" := by decide +kernel

example : toText (ofInt 10000000000000000) = "1e+16" := by decide +kernel

example : toText (nearest false 3 20000) = "0.00015" := by decide +kernel

example : toText (.finite true 1 minExponent) = "-5e-324" := by decide +kernel

end NtpQuery.Binary64
