import NtpQuery.Bytes
import NtpQuery.Failure

/-!
# Packet fields

A field of a packet is a whole number in a fixed number of octets, most
significant octet first. Writing a number that does not fit fails. Reading
takes a slice of the datagram and never fails; missing octets count as absent,
so callers check the length first.
-/

namespace NtpQuery.Wire

/-- An unsigned field. -/
def unsigned (width : Nat) (n : Int) : Except Failure Bytes :=
  if 0 ≤ n ∧ n < Nat.pow 256 width then .ok (Bytes.ofNat width n.toNat) else .error .fieldOutOfRange

/-- A field of one octet in two's complement. -/
def signedOctet (n : Int) : Except Failure Bytes :=
  if -128 ≤ n ∧ n < 128 then .ok (Bytes.ofNat 1 (n % 256).toNat) else .error .fieldOutOfRange

/-- The fields one after the other; fails when one of them does. -/
def concat (fields : List (Except Failure Bytes)) : Except Failure Bytes :=
  match fields with
  | [] => .ok []
  | field :: rest =>
    match field, concat rest with
    | .ok octets, .ok tail => .ok (octets ++ tail)
    | _, _ => .error .fieldOutOfRange

/-- The unsigned field of `width` octets at the given position. -/
def unsignedAt (start width : Nat) (data : Bytes) : Int :=
  Bytes.toNat ((data.drop start).take width)

def signedOctetAt (start : Nat) (data : Bytes) : Int :=
  let n := unsignedAt start 1 data
  if n < 128 then n else n - 256

/-- The three low bits of the first octet of a packet. -/
def modeOf (first : Int) : Int := first % 8

/-- The three bits above them. -/
def versionOf (first : Int) : Int := first / 8 % 8

end NtpQuery.Wire
