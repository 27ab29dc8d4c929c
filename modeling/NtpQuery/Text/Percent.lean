import NtpQuery.Text.Hexadecimal
import NtpQuery.Text.Utf8

/-!
# Percent escapes

A percent sign and two hexadecimal digits stand for an octet. The octets of a
text with escapes are read as UTF-8. A percent sign that begins no escape
stands for itself.
-/

namespace NtpQuery.Text

/-- The octets of a text whose escapes are resolved. -/
def escapedOctets : List Char → Bytes
  | '%' :: a :: b :: rest =>
    match hexValue? a, hexValue? b with
    | some high, some low => UInt8.ofNat (high * 16 + low) :: escapedOctets rest
    | _, _ => 0x25 :: escapedOctets (a :: b :: rest)
  | c :: rest => encodeUtf8 [c] ++ escapedOctets rest
  | [] => []

/-- The text with its escapes resolved. -/
def unescape (text : List Char) : List Char :=
  decodeUtf8 (escapedOctets text)

end NtpQuery.Text
