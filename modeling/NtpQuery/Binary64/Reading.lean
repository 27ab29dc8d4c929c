import NtpQuery.Binary64.Basic
import NtpQuery.Text.Numeral

/-!
# Reading doubles

A double is read from decimal text as the nearest one to the exact decimal, or
from its 64 bits. Decimal text that people write may use the digits of any
script, single underscores between digits, blanks around it and the names of
the special values. A decimal far outside the range of doubles is recognised
by its number of digits, so its power of ten is never computed.
-/

namespace NtpQuery.Binary64

/-- The double nearest to `digits * 10 ^ exponent`, the digits given one by one. -/
def ofDecimal (negative : Bool) (digits : List Nat) (exponent : Int) : Binary64 :=
  let digits := digits.dropWhile (· = 0)
  let magnitude := exponent + digits.length
  if digits.isEmpty || magnitude < -400 then zero negative
  else if 400 < magnitude then .infinity negative
  else nearest negative (Text.Numeral.value digits * powTen exponent) (powTen (-exponent))

/-- The value of 64 bits: a sign, eleven bits of exponent and 52 of mantissa. -/
def ofBits (bits : Nat) : Binary64 :=
  let negative : Bool := bits / (2048 * leadingUnit) % 2 = 1
  let biased : Nat := bits / leadingUnit % 2048
  let fraction := bits % leadingUnit
  if biased = 2047 then if fraction = 0 then .infinity negative else .nan
  else if biased = 0 then .finite negative fraction minExponent
  else .finite negative (leadingUnit + fraction) ((biased : Int) - 1075)

/-- An unsigned decimal in ASCII: digits with an optional point among or around
them, and an optional exponent. -/
def decimalParts? (text : List Char) : Option (List Nat × Int) := do
  let whole := text.takeWhile Char.isDigit
  let rest := text.dropWhile Char.isDigit
  let (fraction, rest) :=
    match rest with
    | '.' :: rest => (rest.takeWhile Char.isDigit, rest.dropWhile Char.isDigit)
    | rest => ([], rest)
  guard !(whole.isEmpty && fraction.isEmpty)
  let digits ← (whole ++ fraction).mapM Text.asciiDigitValue?
  let shift := -(fraction.length : Int)
  match rest with
  | [] => pure (digits, shift)
  | mark :: rest =>
    guard (mark = 'e' || mark = 'E')
    let (negative, rest) := Text.Numeral.splitSign rest
    guard !rest.isEmpty
    let exponent ← rest.mapM Text.asciiDigitValue?
    pure (digits, shift + Text.Numeral.withSign negative (Text.Numeral.value exponent))

/-- Digits of any script as ASCII digits, other characters as they are. -/
def withAsciiDigits (text : List Char) : List Char :=
  text.map fun c => (Text.digitValue? c).elim c (fun d => Char.ofNat (48 + d))

/-- Removes underscores; none when one does not stand between two digits. -/
def withoutUnderscores? (before : Char) : List Char → Option (List Char)
  | [] => if before = '_' then none else some []
  | c :: rest => do
    if c = '_' then guard before.isDigit
    if before = '_' then guard c.isDigit
    let rest ← withoutUnderscores? c rest
    pure (if c = '_' then rest else c :: rest)

/-- A decimal number as people write it. -/
def read? (text : List Char) : Option Binary64 := do
  let body := Text.trim Text.isBlank (withAsciiDigits text)
  let body ← withoutUnderscores? ' ' body
  let (negative, size) := Text.Numeral.splitSign body
  let name := String.ofList (size.map Char.toLower)
  if name = "inf" || name = "infinity" then return .infinity negative
  if name = "nan" then return .nan
  let (digits, exponent) ← decimalParts? size
  pure (ofDecimal negative digits exponent)

end NtpQuery.Binary64
