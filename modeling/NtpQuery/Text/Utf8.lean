import NtpQuery.Bytes

/-!
# Text in UTF-8

A character takes one to four octets: a lead octet, whose value tells how many
octets follow and between which bounds the first of them lies, and octets from
0x80 to 0xBF. Decoding never fails: as many octets as could have begun a
character, and at least one, are shown as one replacement character.
-/

namespace NtpQuery.Text

/-- The octets of a text. -/
def encodeUtf8 (text : List Char) : Bytes :=
  text.flatMap String.utf8EncodeChar

/-- How many octets follow a lead octet, and the bounds of the first of them.
None for an octet that begins no character of several octets. -/
def leadOctet? (lead : Nat) : Option (Nat × Nat × Nat) :=
  if lead < 0xC2 then none
  else if lead < 0xE0 then some (1, 0x80, 0xBF)
  else if lead = 0xE0 then some (2, 0xA0, 0xBF)
  else if lead = 0xED then some (2, 0x80, 0x9F)
  else if lead < 0xF0 then some (2, 0x80, 0xBF)
  else if lead = 0xF0 then some (3, 0x90, 0xBF)
  else if lead < 0xF4 then some (3, 0x80, 0xBF)
  else if lead = 0xF4 then some (3, 0x80, 0x8F)
  else none

/-- The octets at the start that continue a character: at most `count` of them,
the first one within the given bounds. -/
def continuation : (count lower upper : Nat) → Bytes → Bytes
  | count + 1, lower, upper, octet :: rest =>
    if lower ≤ octet.toNat ∧ octet.toNat ≤ upper then
      octet :: continuation count 0x80 0xBF rest
    else []
  | _, _, _, _ => []

/-- The code point of a lead octet and the octets behind it. -/
def codePoint (lead : Nat) (behind : Bytes) : Nat :=
  let high :=
    if behind.length = 1 then lead - 0xC0
    else if behind.length = 2 then lead - 0xE0
    else lead - 0xF0
  behind.foldl (fun n octet => n * 64 + (octet.toNat - 0x80)) high

/-- The text that octets denote. -/
def decodeUtf8 : Bytes → List Char
  | [] => []
  | lead :: rest =>
    if lead.toNat < 0x80 then Char.ofNat lead.toNat :: decodeUtf8 rest
    else
      match leadOctet? lead.toNat with
      | none => '\uFFFD' :: decodeUtf8 rest
      | some (count, lower, upper) =>
        let behind := continuation count lower upper rest
        let c :=
          if behind.length = count then Char.ofNat (codePoint lead.toNat behind) else '\uFFFD'
        c :: decodeUtf8 (rest.drop behind.length)
termination_by bytes => bytes.length

end NtpQuery.Text
