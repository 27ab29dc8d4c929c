import NtpQuery.Text.Blank
import NtpQuery.Text.DecimalDigit

/-!
# Whole numbers written in decimal

A numeral is a run of decimal digits of any script. Where people write it, it
may carry a sign, blanks around it and single underscores between its digits.
A run of more than 4300 digits is refused, leading zeros counted, so that no
text makes a conversion arbitrarily expensive.
-/

namespace NtpQuery.Text.Numeral

def maxDigits : Nat := 4300

/-- The number that a run of digit values denotes. -/
def value (digits : List Nat) : Nat :=
  digits.foldl (fun n d => n * 10 + d) 0

/-- The number of a run of digits; none for an empty or an overlong run. -/
def ofDigits? (digits : List Nat) : Option Nat :=
  if digits.isEmpty || maxDigits < digits.length then none else some (value digits)

/-- Digit values of a run in which single underscores may stand between digits. -/
def groupedDigits? (digit : Char → Option Nat) : List Char → Option (List Nat)
  | [] => none
  | [c] => (digit c).map ([·])
  | c :: '_' :: rest => do
    let d ← digit c
    let ds ← groupedDigits? digit rest
    pure (d :: ds)
  | c :: rest => do
    let d ← digit c
    let ds ← groupedDigits? digit rest
    pure (d :: ds)

/-- Splits a leading sign off; the first component says whether it is a minus. -/
def splitSign : List Char → Bool × List Char
  | '-' :: rest => (true, rest)
  | '+' :: rest => (false, rest)
  | rest => (false, rest)

def withSign (negative : Bool) (n : Nat) : Int :=
  if negative then -(n : Int) else n

/-- A signed whole number with blanks around it and underscores between digits. -/
def read? (text : List Char) : Option Int := do
  let (negative, body) := splitSign (trim isBlank text)
  let digits ← groupedDigits? digitValue? body
  let n ← ofDigits? digits
  pure (withSign negative n)

end NtpQuery.Text.Numeral
