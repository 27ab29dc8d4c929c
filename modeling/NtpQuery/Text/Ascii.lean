import NtpQuery.Bytes

/-!
# ASCII text on the wire

Texts travel as one octet per character. Encoding refuses any character
beyond ASCII; decoding never fails and shows an octet above 127 as the
replacement character.
-/

namespace NtpQuery.Text

/-- The octets of a text; none when a character is not ASCII. -/
def encodeAscii? (text : List Char) : Option Bytes :=
  text.mapM fun c => if c.toNat < 128 then some (UInt8.ofNat c.toNat) else none

def decodeOctet (octet : UInt8) : Char :=
  if octet.toNat < 128 then Char.ofNat octet.toNat else '\uFFFD'

def decodeAscii (bytes : Bytes) : List Char :=
  bytes.map decodeOctet

@[simp] theorem length_decodeAscii (bytes : Bytes) :
    (decodeAscii bytes).length = bytes.length := by
  simp [decodeAscii]

end NtpQuery.Text
