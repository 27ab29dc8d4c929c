import NtpQuery.Wire.Field

/-!
# Client packets

A client packet has the fixed layout of 48 octets that client requests
(mode 3) and server answers (mode 4) share. Timestamps count seconds since
1900 in 32 bits, with a fraction beside them. A request carries the seconds at
which it is sent and nothing else.
-/

namespace NtpQuery

namespace Wire

def clientPacketSize : Nat := 48

/-- Seconds from 1900 to 1970. -/
def epochOffset : Int := 2208988800

/-- Unix seconds as the 32-bit count of seconds since 1900. -/
def toNtpSeconds (unix : Int) : Int := (unix + epochOffset) % 4294967296

end Wire

open Wire

structure ClientPacket where
  /-- Leap indicator, version and mode: version 3, mode 3. -/
  leapVersionMode : Int := 27
  stratum : Int := 0
  poll : Int := 0
  precision : Int := 0
  rootDelay : Int := 0
  rootDispersion : Int := 0
  refId : Int := 0
  refSeconds : Int := 0
  refFraction : Int := 0
  originSeconds : Int := 0
  originFraction : Int := 0
  receiveSeconds : Int := 0
  receiveFraction : Int := 0
  transmitSeconds : Int := 0
  transmitFraction : Int := 0
  deriving DecidableEq, Repr, Inhabited

namespace ClientPacket

def mode (p : ClientPacket) : Int := modeOf p.leapVersionMode

def version (p : ClientPacket) : Int := versionOf p.leapVersionMode

/-- The reference identifier as four octets. -/
def refIdBytes (p : ClientPacket) : Except Failure Bytes := unsigned 4 p.refId

def encode (p : ClientPacket) : Except Failure Bytes :=
  concat
    [unsigned 1 p.leapVersionMode, unsigned 1 p.stratum, unsigned 1 p.poll,
     signedOctet p.precision, unsigned 4 p.rootDelay, unsigned 4 p.rootDispersion,
     unsigned 4 p.refId, unsigned 4 p.refSeconds, unsigned 4 p.refFraction,
     unsigned 4 p.originSeconds, unsigned 4 p.originFraction, unsigned 4 p.receiveSeconds,
     unsigned 4 p.receiveFraction, unsigned 4 p.transmitSeconds, unsigned 4 p.transmitFraction]

def decode (data : Bytes) : Except QueryError ClientPacket :=
  if data.length < clientPacketSize then
    .error (.malformed ("Client packet too short: " ++ toString data.length ++ " < " ++
      toString clientPacketSize))
  else .ok
    { leapVersionMode := unsignedAt 0 1 data
      stratum := unsignedAt 1 1 data
      poll := unsignedAt 2 1 data
      precision := signedOctetAt 3 data
      rootDelay := unsignedAt 4 4 data
      rootDispersion := unsignedAt 8 4 data
      refId := unsignedAt 12 4 data
      refSeconds := unsignedAt 16 4 data
      refFraction := unsignedAt 20 4 data
      originSeconds := unsignedAt 24 4 data
      originFraction := unsignedAt 28 4 data
      receiveSeconds := unsignedAt 32 4 data
      receiveFraction := unsignedAt 36 4 data
      transmitSeconds := unsignedAt 40 4 data
      transmitFraction := unsignedAt 44 4 data }

/-- Decodes a datagram that has to be a server's answer. -/
def decodeAnswer (data : Bytes) : Except QueryError ClientPacket :=
  match decode data with
  | .error error => .error error
  | .ok p =>
    if p.mode = 4 then .ok p
    else .error (.malformed ("Not a server mode packet: mode " ++ toString p.mode))

def requestPacket (unix : Int) : ClientPacket :=
  { transmitSeconds := toNtpSeconds unix }

/-- The request sent at the given Unix second. -/
def request (unix : Int) : Bytes :=
  27 :: List.replicate 39 0 ++ (Bytes.ofNat 4 (toNtpSeconds unix).toNat ++ List.replicate 4 0)

/-- The request is the encoded request packet. -/
theorem encode_requestPacket (unix : Int) : (requestPacket unix).encode = .ok (request unix) := by
  have lower : 0 ≤ toNtpSeconds unix := Int.emod_nonneg _ (by decide)
  have upper : toNtpSeconds unix < Nat.pow 256 4 := Int.emod_lt_of_pos _ (by decide)
  simp only [encode, requestPacket, concat, unsigned, lower, upper]
  rfl

/-- The packet on one line. -/
def describe (p : ClientPacket) : String :=
  "ClientPacket(mode=" ++ toString p.mode ++ ", stratum=" ++ toString p.stratum ++
    ", xmit=" ++ toString p.transmitSeconds ++ ")"

end ClientPacket

end NtpQuery
