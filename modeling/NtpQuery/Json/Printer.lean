import NtpQuery.Json.Value
import NtpQuery.Text.Hexadecimal

/-!
# Writing JSON

Values are written without blanks, on one line and in ASCII. Quotes and
backslashes are escaped, and so is every character outside the printable ASCII
range: by a letter where JSON has one, otherwise by the four hexadecimal digits
of each of its 16-bit units. Doubles have their shortest text; the special
values are spelled out, as readers of such records expect.
-/

namespace NtpQuery.Json

/-- The 16-bit units of a character. -/
def codeUnits (c : Char) : List Nat :=
  if c.toNat < 0x10000 then [c.toNat]
  else [0xD800 + (c.toNat - 0x10000) / 0x400, 0xDC00 + (c.toNat - 0x10000) % 0x400]

/-- The letter that stands behind a backslash for the character. -/
def escapeLetter? : Char → Option Char
  | '"' => some '"'
  | '\\' => some '\\'
  | '\n' => some 'n'
  | '\r' => some 'r'
  | '\t' => some 't'
  | '\x08' => some 'b'
  | '\x0c' => some 'f'
  | _ => none

def escapedChar (c : Char) : List Char :=
  match escapeLetter? c with
  | some letter => ['\\', letter]
  | none =>
    if 0x20 ≤ c.toNat && c.toNat ≤ 0x7E then [c]
    else (codeUnits c).flatMap fun unit => '\\' :: 'u' :: (Text.hexadecimal 4 unit).toList

def quotedText (s : String) : String :=
  "\"" ++ String.ofList (s.toList.flatMap escapedChar) ++ "\""

def numberText : Number → String
  | .whole n => toString n
  | .real x => Binary64.Layout.record.write x

mutual

/-- The text of a value. -/
def print : Json → String
  | .null => "null"
  | .bool b => if b then "true" else "false"
  | .number n => numberText n
  | .text s => quotedText s
  | .list items => "[" ++ ",".intercalate (printItems items) ++ "]"
  | .object members => "\x7b" ++ ",".intercalate (printMembers members) ++ "\x7d"

def printItems : List Json → List String
  | [] => []
  | item :: rest => item.print :: printItems rest

def printMembers : List (String × Json) → List String
  | [] => []
  | (name, value) :: rest => (quotedText name ++ ":" ++ value.print) :: printMembers rest

end

end NtpQuery.Json
