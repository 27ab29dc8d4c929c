import NtpQuery.Text.Hexadecimal
import NtpQuery.Text.Split

/-!
# Addresses as text

An address of four octets is written as a dotted quad: four decimal numbers
without leading zeros. An address of sixteen octets is written as eight groups
of hexadecimal digits between colons. One run of zero groups may be left out,
which leaves two colons in a row, and the last two groups may be written as a
dotted quad. A zone may follow behind a percent sign.
-/

namespace NtpQuery.Address

/-- Decimal parts of a dotted quad, without leading zeros. -/
def isQuadPart (part : List Char) : Bool :=
  match part with
  | [] => false
  | first :: rest =>
    part.all Char.isDigit && (rest.isEmpty || first ≠ '0') && part.length ≤ 3 &&
      part.foldl (fun n c => n * 10 + (c.toNat - 48)) 0 ≤ 255

def isDottedQuad (text : List Char) : Bool :=
  let parts := Text.split '.' text
  parts.length = 4 && parts.all isQuadPart

def isGroup (part : List Char) : Bool :=
  !part.isEmpty && part.length ≤ 4 && part.all fun c => (Text.hexValue? c).isSome

/-- How many groups are written, a dotted quad at the end counting as two; none when a
part is no group. -/
def groupCount? (text : List Char) : Option Nat :=
  let parts := Text.split ':' text
  let last := parts.getLastD []
  if parts.all isGroup then some parts.length
  else if parts.dropLast.all isGroup && isDottedQuad last then some (parts.length + 1)
  else none

/-- A text in front of the first two colons in a row and behind them. -/
def cutAtGap : List Char → List Char × Option (List Char)
  | ':' :: ':' :: rest => ([], some rest)
  | c :: rest =>
    let (front, behind) := cutAtGap rest
    (c :: front, behind)
  | [] => ([], none)

/-- How many groups are written on a side of a gap, which may be empty. -/
def sideCount? (text : List Char) : Option Nat :=
  if text.isEmpty then some 0 else groupCount? text

/-- Groups between colons, without a zone. -/
def isGroups (text : List Char) : Bool :=
  match cutAtGap text with
  | (all, none) => groupCount? all = some 8
  | (front, some behind) =>
    match sideCount? front, sideCount? behind with
    | some a, some b => a + b < 8 && !front.contains '.'
    | _, _ => false

/-- An address of sixteen octets, with or without a zone. -/
def isColonAddress (text : List Char) : Bool :=
  let zone := text.dropWhile (· ≠ '%')
  isGroups (text.takeWhile (· ≠ '%')) &&
    (zone.isEmpty || (zone.length ≠ 1 && !zone.tail.contains '%'))

end NtpQuery.Address
