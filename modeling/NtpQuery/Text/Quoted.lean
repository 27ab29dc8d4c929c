import NtpQuery.Text.Hexadecimal
import NtpQuery.Text.Printable

/-!
# Quoted text in messages

A message that names what someone typed shows it in quotes, on one line and
without invisible characters. Single quotes are used unless the text holds a
single quote and no double quote. The quote in use, the backslash and every
unprintable character are escaped: tab, line feed and carriage return by a
letter, the others by the shortest of two, four or eight hexadecimal digits.
-/

namespace NtpQuery.Text

def escaped (quote c : Char) : String :=
  if c = quote || c = '\\' then String.ofList ['\\', c]
  else if c = '\t' then "\\t"
  else if c = '\n' then "\\n"
  else if c = '\r' then "\\r"
  else if isPrintable c then c.toString
  else if c.toNat < 0x100 then "\\x" ++ hexadecimal 2 c.toNat
  else if c.toNat < 0x10000 then "\\u" ++ hexadecimal 4 c.toNat
  else "\\U" ++ hexadecimal 8 c.toNat

def quoteFor (text : List Char) : Char :=
  if '\'' ∈ text ∧ '"' ∉ text then '"' else '\''

/-- The text in quotes, as messages show it. -/
def quoted (text : String) : String :=
  let quote := quoteFor text.toList
  quote.toString ++ String.join (text.toList.map (escaped quote)) ++ quote.toString

example : quoted "a\nb\x7f" = "'a\\nb\\x7f'" := by decide +kernel

end NtpQuery.Text
