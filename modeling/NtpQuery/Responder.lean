import NtpQuery.Mapping
import NtpQuery.Wire.Client
import NtpQuery.Wire.Control

/-!
# The responder

A responder answers client requests with the time and control requests with
the variables of itself or of a peer. Its configuration says what it reports
and which faults it shows: it can ignore the first requests, send a response
to an earlier request or a cut one in front of the right one, or leave
questions about its peers unanswered.

It counts the datagrams it has seen, ignored and answered. Anything that is no
request of the two kinds is seen and passed over.
-/

namespace NtpQuery

structure ResponderConfig where
  stratum : Int := 2
  precision : Int := -20
  refId : Bytes := [192, 168, 1, 1]
  /-- Seconds by which the responder's clock is ahead. -/
  clockOffset : Int := 0
  systemText : String :=
    "version=\"ntpd 4.2.8p15\", precision=-20, peer=4242, system=\"Linux\", stratum=2, " ++
      "rootdelay=1.250, rootdispersion=7.500, refid=192.168.1.1\r\n"
  peerTexts : Mapping Int String :=
    [(4242, "srcadr=192.168.1.1, stratum=1, precision=-23, reach=377, valid=8, delay=0.412, " ++
      "offset=-0.031, dispersion=0.950\r\n")]
  /-- How many of the first datagrams are ignored. -/
  dropFirst : Int := 0
  /-- A response to the previous sequence number goes first. -/
  staleFirst : Bool := false
  /-- A cut response goes first. -/
  shortFirst : Bool := false
  answerPeer : Bool := true
  /-- The mode of answers to client requests. -/
  replyMode : Int := 4
  deriving Repr, Inhabited

structure ResponderStats where
  seen : Nat := 0
  answered : Nat := 0
  dropped : Nat := 0
  deriving DecidableEq, Repr, Inhabited

namespace Responder

/-- The first octet of an answer. A negative mode stays negative, which no
packet can hold. -/
def versionAndMode (version mode : Int) : Int :=
  if mode < 0 then mode else ((version * 8).toNat ||| mode.toNat : Nat)

/-- The answer to a client request at the given Unix second. -/
def clientReply (config : ResponderConfig) (now : Int) (request : ClientPacket) :
    Except Failure Bytes :=
  if config.refId.length < 4 then .error .fieldOutOfRange
  else
    let seconds := Wire.toNtpSeconds (now + config.clockOffset)
    ClientPacket.encode
      { leapVersionMode := versionAndMode request.version config.replyMode
        stratum := config.stratum
        precision := config.precision
        refId := Bytes.toNat (config.refId.take 4)
        refSeconds := seconds
        originSeconds := request.transmitSeconds
        originFraction := request.transmitFraction
        receiveSeconds := seconds
        transmitSeconds := seconds }

def clientReplies (config : ResponderConfig) (now : Int) (request : ClientPacket) :
    Except Failure (List Bytes) :=
  match clientReply config now request with
  | .error failure => .error failure
  | .ok reply =>
    .ok (if config.shortFirst then [reply.take (Wire.clientPacketSize - 1), reply] else [reply])

/-- The text that answers a control request; none when it is left unanswered. -/
def variablesText? (config : ResponderConfig) (association : Int) : Option String :=
  if association = 0 then some config.systemText
  else if config.answerPeer then config.peerTexts.get? association
  else none

/-- The request that came before the given one. -/
def earlierRequest (request : ControlPacket) : ControlPacket :=
  { versionMode := request.versionMode
    op := request.op
    sequence := (request.sequence - 1) % 65536
    association := request.association }

def staleReply (request : ControlPacket) : Except Failure Bytes :=
  ControlPacket.response (earlierRequest request) "stale=1" 0

def controlReplies (config : ResponderConfig) (request : ControlPacket) :
    Except Failure (List Bytes) :=
  match variablesText? config request.association with
  | none => .ok []
  | some text =>
    match ControlPacket.response request text 0, staleReply request with
    | .error failure, _ => .error failure
    | .ok reply, stale =>
      let short := if config.shortFirst then [reply.take Wire.controlHeaderSize] else []
      if config.staleFirst then stale.map fun stale => short ++ [stale, reply]
      else .ok (short ++ [reply])

/-- The replies to a datagram that is not ignored. -/
def replies (config : ResponderConfig) (now : Int) (data : Bytes) : Except Failure (List Bytes) :=
  match Wire.modeOf (Wire.unsignedAt 0 1 data), ClientPacket.decode data,
      ControlPacket.decode data with
  | 3, .ok request, _ => clientReplies config now request
  | 6, _, .ok request => controlReplies config request
  | _, _, _ => .ok []

/-- Takes one datagram at the given Unix second. -/
def handle (config : ResponderConfig) (now : Int) (data : Bytes) (stats : ResponderStats) :
    Except Failure (List Bytes) × ResponderStats :=
  let stats := { stats with seen := stats.seen + 1 }
  if stats.seen ≤ config.dropFirst then (.ok [], { stats with dropped := stats.dropped + 1 })
  else
    match replies config now data with
    | .error failure => (.error failure, stats)
    | .ok [] => (.ok [], stats)
    | .ok replies => (.ok replies, { stats with answered := stats.answered + 1 })

end Responder

end NtpQuery
