import NtpQuery.Binary64.Reading
import NtpQuery.Json.Value
import NtpQuery.Text.Hexadecimal

/-!
# Reading JSON

The grammar is that of JSON with the special values of doubles as extra
literals. White space is space, tab, line feed and carriage return. A text may
not hold raw control characters. A whole number is kept exact, but one with
more digits than a numeral may have is refused for that reason alone, and so
are containers nested too deep. Of several members with one name the last value
counts.

Two escapes that are the halves of a surrogate pair denote one character. A half
that stands alone denotes none and is read as the replacement character.
-/

namespace NtpQuery.Json

inductive Fault where
  /-- The text is no JSON. -/
  | malformed
  /-- A whole number has too many digits. -/
  | tooManyDigits
  /-- Containers are nested too deep. -/
  | tooDeep
  deriving DecidableEq, Repr

/-- What a part of the reader returns: a result and the rest of the input. -/
abbrev Step (α : Type) := Except Fault (α × List Char)

def isSpace (c : Char) : Bool :=
  c = ' ' || c = '\t' || c = '\n' || c = '\r'

def skipSpace (input : List Char) : List Char :=
  input.dropWhile isSpace

/-- The number of the first four characters as hexadecimal digits. -/
def hexUnit? : List Char → Option (Nat × List Char)
  | a :: b :: c :: d :: rest => do
    let digits ← [a, b, c, d].mapM Text.hexValue?
    pure (digits.foldl (fun n digit => n * 16 + digit) 0, rest)
  | _ => none

def isHighUnit (unit : Nat) : Bool := 0xD800 ≤ unit && unit < 0xDC00

def isLowUnit (unit : Nat) : Bool := 0xDC00 ≤ unit && unit < 0xE000

/-- The low half that follows a high half, if one does. -/
def lowUnit? : List Char → Option (Nat × List Char)
  | '\\' :: 'u' :: rest => (hexUnit? rest).filter fun (unit, _) => isLowUnit unit
  | _ => none

def unescapeLetter? : Char → Option Char
  | '"' => some '"'
  | '\\' => some '\\'
  | '/' => some '/'
  | 'b' => some '\x08'
  | 'f' => some '\x0c'
  | 'n' => some '\n'
  | 'r' => some '\r'
  | 't' => some '\t'
  | _ => none

/-- The character of an escape, read from behind the backslash. -/
def escape? : List Char → Option (Char × List Char)
  | 'u' :: rest => do
    let (unit, rest) ← hexUnit? rest
    if isHighUnit unit then
      match lowUnit? rest with
      | some (low, rest) =>
        pure (Char.ofNat (0x10000 + (unit - 0xD800) * 0x400 + (low - 0xDC00)), rest)
      | none => pure ('\uFFFD', rest)
    else if isLowUnit unit then pure ('\uFFFD', rest)
    else pure (Char.ofNat unit, rest)
  | c :: rest => (unescapeLetter? c).map (·, rest)
  | [] => none

/-- The characters of a text up to its closing quote. -/
def textBody : (fuel : Nat) → (readRev : List Char) → List Char → Step String
  | 0, _, _ => .error .malformed
  | _ + 1, _, [] => .error .malformed
  | fuel + 1, readRev, c :: rest =>
    if c = '"' then .ok (String.ofList readRev.reverse, rest)
    else if c = '\\' then
      match escape? rest with
      | some (c, rest) => textBody fuel (c :: readRev) rest
      | none => .error .malformed
    else if c.toNat < 0x20 then .error .malformed
    else textBody fuel (c :: readRev) rest

/-- The text without the literal at its start. -/
def literal? (name : String) (input : List Char) : Option (List Char) :=
  if name.toList.isPrefixOf input then some (input.drop name.length) else none

def wholeDigits : List Char → List Char × List Char
  | '0' :: rest => (['0'], rest)
  | input => (input.takeWhile Char.isDigit, input.dropWhile Char.isDigit)

/-- Digits behind a point; the point stays unread when no digit follows it. -/
def fractionDigits (input : List Char) : List Char × List Char :=
  match input with
  | '.' :: rest =>
    let digits := rest.takeWhile Char.isDigit
    if digits.isEmpty then ([], input) else (digits, rest.dropWhile Char.isDigit)
  | _ => ([], input)

/-- The sign and the digits behind an exponent mark; all stays unread when no
digit follows. -/
def exponentDigits (input : List Char) : Option (Bool × List Char) × List Char :=
  match input with
  | mark :: rest =>
    let (negative, rest) := Text.Numeral.splitSign rest
    let digits := rest.takeWhile Char.isDigit
    if (mark = 'e' || mark = 'E') && !digits.isEmpty then
      (some (negative, digits), rest.dropWhile Char.isDigit)
    else (none, input)
  | [] => (none, input)

def digitValues (digits : List Char) : List Nat :=
  digits.map fun c => c.toNat - 48

/-- A number without its sign. -/
def unsignedNumber (negative : Bool) (input : List Char) : Step Number :=
  let (whole, rest) := wholeDigits input
  let (fraction, rest) := fractionDigits rest
  let (exponent, rest) := exponentDigits rest
  if whole.isEmpty then .error .malformed
  else if fraction.isEmpty && exponent.isNone then
    match Text.Numeral.ofDigits? (digitValues whole) with
    | some n => .ok (.whole (Text.Numeral.withSign negative n), rest)
    | none => .error .tooManyDigits
  else
    let shift : Int := match exponent with
      | some (negative, digits) =>
        Text.Numeral.withSign negative (Text.Numeral.value (digitValues digits))
      | none => 0
    let digits := digitValues (whole ++ fraction)
    .ok (.real (Binary64.ofDecimal negative digits (shift - (fraction.length : Int))), rest)

/-- A value that is neither a text nor a container. -/
def scalar (input : List Char) : Step Json :=
  match input with
  | '-' :: rest =>
    match literal? "Infinity" rest with
    | some rest => .ok (.real (.infinity true), rest)
    | none => (unsignedNumber true rest).map fun (n, rest) => (.number n, rest)
  | _ =>
    let literals : List (String × Json) :=
      [("null", .null), ("true", .bool true), ("false", .bool false), ("NaN", .real .nan),
       ("Infinity", .real (.infinity false))]
    match literals.findSome? fun (name, value) => (literal? name input).map (value, ·) with
    | some (value, rest) => .ok (value, rest)
    | none => (unsignedNumber false input).map fun (n, rest) => (.number n, rest)

/-- How deep containers may be nested. -/
def maxDepth : Nat := 985

mutual

/-- A value; the text starts with it. So many levels of containers may follow. -/
def value : (fuel depth : Nat) → List Char → Step Json
  | 0, _, _ => .error .malformed
  | fuel + 1, depth, input =>
    match input, depth with
    | '"' :: rest, _ => (textBody (rest.length + 1) [] rest).map fun (s, rest) => (.text s, rest)
    | '[' :: _, 0 => .error .tooDeep
    | '[' :: rest, depth + 1 =>
      match skipSpace rest with
      | ']' :: rest => .ok (.list [], rest)
      | rest => items fuel depth [] rest
    | '\x7b' :: _, 0 => .error .tooDeep
    | '\x7b' :: rest, depth + 1 =>
      match skipSpace rest with
      | '\x7d' :: rest => .ok (.object [], rest)
      | rest => members fuel depth [] rest
    | _, _ => scalar input

/-- The items of a list from the next one on. -/
def items : (fuel depth : Nat) → (readRev : List Json) → List Char → Step Json
  | 0, _, _, _ => .error .malformed
  | fuel + 1, depth, readRev, input =>
    match value fuel depth input with
    | .error fault => .error fault
    | .ok (item, rest) =>
      match skipSpace rest with
      | ',' :: rest => items fuel depth (item :: readRev) (skipSpace rest)
      | ']' :: rest => .ok (.list (item :: readRev).reverse, rest)
      | _ => .error .malformed

/-- The members of an object from the next one on. -/
def members : (fuel depth : Nat) → (readRev : List (String × Json)) → List Char → Step Json
  | 0, _, _, _ => .error .malformed
  | fuel + 1, depth, readRev, input =>
    match input with
    | '"' :: rest =>
      match textBody (rest.length + 1) [] rest with
      | .error fault => .error fault
      | .ok (name, rest) =>
        match skipSpace rest with
        | ':' :: rest =>
          match value fuel depth (skipSpace rest) with
          | .error fault => .error fault
          | .ok (item, rest) =>
            match skipSpace rest with
            | ',' :: rest => members fuel depth ((name, item) :: readRev) (skipSpace rest)
            | '\x7d' :: rest =>
              .ok (.object (Mapping.ofEntries ((name, item) :: readRev).reverse), rest)
            | _ => .error .malformed
        | _ => .error .malformed
    | _ => .error .malformed

end

/-- The value that the whole text denotes. -/
def parse (input : String) : Except Fault Json :=
  let start := skipSpace input.toList
  match value (start.length + 1) maxDepth start with
  | .error fault => .error fault
  | .ok (value, rest) => if (skipSpace rest).isEmpty then .ok value else .error .malformed

end NtpQuery.Json
