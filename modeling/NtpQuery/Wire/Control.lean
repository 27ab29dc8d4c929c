import NtpQuery.Text.Ascii
import NtpQuery.Text.Hexadecimal
import NtpQuery.Wire.Field

/-!
# Control packets

A control packet (mode 6) has a header of twelve octets and up to 500 octets
of text. A request asks for a list of variables, of the server itself for
association 0 and of a peer for any other; requests are padded with zeros to
the full 512 octets. A response sets the top bit of the operation code and
carries the variables and their values.

Sequence and association numbers are reduced to 16 bits when a packet is
written. All other fields have to fit.
-/

namespace NtpQuery

namespace Wire

def controlHeaderSize : Nat := 12
def controlDataSize : Nat := 500
def controlPacketSize : Nat := 512

/-- A response holds at least one octet of text. -/
def controlMinSize : Nat := 13

end Wire

open Wire

structure ControlPacket where
  /-- Leap indicator, version and mode: version 3, mode 6. -/
  versionMode : Int := 30
  /-- The operation code; 2 reads variables. -/
  op : Int := 2
  sequence : Int := 0
  status : Int := 0
  association : Int := 0
  offset : Int := 0
  count : Int := 0
  data : Bytes := []
  deriving DecidableEq, Repr, Inhabited

namespace ControlPacket

def mode (p : ControlPacket) : Int := modeOf p.versionMode

def version (p : ControlPacket) : Int := versionOf p.versionMode

/-- Whether an operation code has the response bit. -/
def hasResponseBit (op : Int) : Bool := op / 128 % 2 = 1

def withResponseBit (op : Int) : Int := if hasResponseBit op then op else op + 128

def isResponse (p : ControlPacket) : Bool := hasResponseBit p.op

/-- The payload up to the first zero octet, as text. -/
def text (p : ControlPacket) : String :=
  String.ofList (Text.decodeAscii p.data.upToZero)

def header (p : ControlPacket) : Except Failure Bytes :=
  concat
    [unsigned 1 p.versionMode, unsigned 1 p.op, unsigned 2 (p.sequence % 65536),
     unsigned 2 p.status, unsigned 2 (p.association % 65536), unsigned 2 p.offset,
     unsigned 2 p.count]

/-- The packet as a datagram that ends with its text. -/
def encode (p : ControlPacket) : Except Failure Bytes :=
  p.header.map (· ++ p.data.take controlDataSize)

/-- The packet as a datagram of full size. -/
def encodePadded (p : ControlPacket) : Except Failure Bytes :=
  p.header.map (· ++ Bytes.padTo controlDataSize (p.data.take controlDataSize))

def decode (data : Bytes) : Except QueryError ControlPacket :=
  if data.length < controlMinSize then
    .error (.malformed ("Control packet too short: " ++ toString data.length ++ " < " ++
      toString controlMinSize))
  else .ok
    { versionMode := unsignedAt 0 1 data
      op := unsignedAt 1 1 data
      sequence := unsignedAt 2 2 data
      status := unsignedAt 4 2 data
      association := unsignedAt 6 2 data
      offset := unsignedAt 8 2 data
      count := unsignedAt 10 2 data
      data := (data.drop controlHeaderSize).take controlDataSize }

/-- The names asked for when the association is the server itself. -/
def systemVariables : String :=
  "precision,peer,system,stratum,rootdelay,rootdispersion,refid"

/-- The names asked for when the association is a peer. -/
def peerVariables : String :=
  "srcadr,stratum,precision,reach,valid,delay,offset,dispersion"

def variablesFor (association : Int) : String :=
  if association = 0 then systemVariables else peerVariables

/-- The octets of a text that is known to be ASCII. -/
def asciiBytes (s : String) : Bytes :=
  s.toList.map fun c => UInt8.ofNat c.toNat

def requestPacket (op association sequence : Int) : ControlPacket :=
  let names := asciiBytes (variablesFor association)
  { op, sequence, association, count := names.length, data := names }

/-- A request for variables of an association. -/
def request (op association sequence : Int) : Except Failure Bytes :=
  (requestPacket op association sequence).encodePadded

/-- The response to a request with the given text, at most 500 octets of it. -/
def response (request : ControlPacket) (text : String) (status : Int) : Except Failure Bytes :=
  match Text.encodeAscii? text.toList with
  | none => .error .notAscii
  | some octets =>
    let payload := octets.take controlDataSize
    encode
      { versionMode := request.versionMode
        op := withResponseBit request.op
        sequence := request.sequence
        status
        association := request.association
        count := payload.length
        data := payload }

def hexNumber (n : Int) : String :=
  (if n < 0 then "-0x" else "0x") ++ Text.hexadecimal 1 n.natAbs

/-- The packet on one line. -/
def describe (p : ControlPacket) : String :=
  "ControlPacket(seq=" ++ toString p.sequence ++ ", op=" ++ hexNumber p.op ++
    ", assoc=" ++ toString p.association ++ ", count=" ++ toString p.count ++ ")"

end ControlPacket

end NtpQuery
