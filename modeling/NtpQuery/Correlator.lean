import NtpQuery.Datagram
import NtpQuery.Wire.Client
import NtpQuery.Wire.Control

/-!
# Correlation of responses with requests

A query takes only datagrams that answer its own request. A control response
has to come from the queried endpoint and carry the sequence number of the
request. A server's answer to a client request has to come from the queried
address; its port is not compared. Every other datagram is turned away with
the first reason that applies, in the order in which the checks are listed.

A matcher is offered one datagram after the other and remembers why it turned
the last one away.
-/

namespace NtpQuery

/-- Why a datagram is not the awaited response. -/
inductive Mismatch where
  | short
  | notResponse
  | notServerMode
  | wrongSource
  | wrongPort
  | wrongSequence
  deriving DecidableEq, Repr

def Mismatch.name : Mismatch → String
  | .short => "short"
  | .notResponse => "not-response"
  | .notServerMode => "not-server-mode"
  | .wrongSource => "wrong-source"
  | .wrongPort => "wrong-port"
  | .wrongSequence => "wrong-sequence"

namespace Correlator

/-- The response to the control request with the given sequence number. -/
def control (destination : Endpoint) (sequence : Int) (datagram : Datagram) :
    Except Mismatch ControlPacket :=
  match ControlPacket.decode datagram.data with
  | .error _ => .error .short
  | .ok packet =>
    if !packet.isResponse then .error .notResponse
    else if datagram.source.host ≠ destination.host then .error .wrongSource
    else if datagram.source.port ≠ destination.port then .error .wrongPort
    else if packet.sequence ≠ sequence then .error .wrongSequence
    else .ok packet

/-- The answer to a client request. -/
def client (destination : Endpoint) (datagram : Datagram) : Except Mismatch ClientPacket :=
  match ClientPacket.decodeAnswer datagram.data with
  | .error _ =>
    if datagram.data.length < Wire.clientPacketSize then .error .short
    else .error .notServerMode
  | .ok packet =>
    if datagram.source.host ≠ destination.host then .error .wrongSource else .ok packet

end Correlator

structure Matcher (α : Type) where
  /-- The packet of the awaited response, or why a datagram is none. -/
  verdict : Datagram → Except Mismatch α
  /-- Why the last datagram was turned away; none when it was accepted, and before the first. -/
  lastReason : Option Mismatch := none

namespace Matcher

def control (destination : Endpoint) (sequence : Int) : Matcher ControlPacket :=
  { verdict := Correlator.control destination sequence }

def client (destination : Endpoint) : Matcher ClientPacket :=
  { verdict := Correlator.client destination }

variable {α : Type}

/-- Offers a datagram; the packet is none when it is turned away. -/
def offer (matcher : Matcher α) (datagram : Datagram) : Option α × Matcher α :=
  match matcher.verdict datagram with
  | .ok packet => (some packet, { matcher with lastReason := none })
  | .error reason => (none, { matcher with lastReason := some reason })

/-- Offers datagrams in their order. -/
def offerAll (matcher : Matcher α) (datagrams : List Datagram) : Matcher α :=
  datagrams.foldl (fun matcher datagram => (matcher.offer datagram).2) matcher

@[simp] theorem offerAll_nil (matcher : Matcher α) : matcher.offerAll [] = matcher := rfl

@[simp] theorem offerAll_cons (matcher : Matcher α) (datagram : Datagram)
    (datagrams : List Datagram) :
    matcher.offerAll (datagram :: datagrams) = (matcher.offer datagram).2.offerAll datagrams := rfl

/-- A matcher keeps to what it was made for. -/
@[simp] theorem verdict_offer (matcher : Matcher α) (datagram : Datagram) :
    (matcher.offer datagram).2.verdict = matcher.verdict := by
  rw [offer]
  split <;> rfl

end Matcher

end NtpQuery
