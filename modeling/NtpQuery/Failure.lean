/-!
# Failures

A query reports what went wrong as a `QueryError`: which step failed and a
message for people. Programming mistakes and limits of the machine are no
query errors; `Failure` names their causes beside the reported ones, so that a
caller can tell which of the two left an operation.
-/

namespace NtpQuery

inductive QueryError where
  /-- A query failed in no particular step. -/
  | general (message : String)
  /-- The socket could not be created or bound. -/
  | socket (message : String)
  /-- A request could not be sent. -/
  | send (message : String)
  /-- Reading a datagram failed. -/
  | receive (message : String)
  /-- All attempts ran out without a matching response. -/
  | noResponse (message : String)
  /-- A datagram is too short or has the wrong mode. -/
  | malformed (message : String)
  /-- The follow-up query for the system peer failed. -/
  | peer (association : Int) (cause : QueryError)
  /-- A host name does not denote an address, or a port is out of range. -/
  | address (message : String)
  /-- An argument is out of range. It is a mistake of the caller and no query failed. -/
  | argument (message : String)
  deriving DecidableEq, Repr, Inhabited

namespace QueryError

def message : QueryError → String
  | .general m | .socket m | .send m | .receive m | .noResponse m | .malformed m | .address m
  | .argument m => m
  | .peer association cause =>
    "peer " ++ toString association ++ " query failed: " ++ cause.message

/-- The name under which the event log files the error. -/
def kindName : QueryError → String
  | .general _ => "NtpError"
  | .socket _ => "SocketError"
  | .send _ => "SendError"
  | .receive _ => "ReceiveError"
  | .noResponse _ => "NoResponse"
  | .malformed _ => "MalformedPacket"
  | .peer .. => "PeerQueryFailed"
  | .address _ => "AddressError"
  | .argument _ => "ValueError"

/-- Whether a query failed, as opposed to being called with a bad argument. -/
def isQueryFailure : QueryError → Bool
  | .argument _ => false
  | _ => true

def isNoResponse : QueryError → Bool
  | .noResponse _ => true
  | _ => false

/-- The error of a query whose attempts ran out. -/
def unanswered : QueryError := .noResponse "no ntp response"

end QueryError

inductive Failure where
  | reported (error : QueryError)
  /-- A value does not fit the field of a packet. -/
  | fieldOutOfRange
  /-- A text that has to be ASCII is not. -/
  | notAscii
  /-- A number is too large for a double or for the machine. -/
  | overflow
  /-- The operating system refused an operation that reports no query error. -/
  | system
  /-- A value that an operation does not accept. -/
  | badValue
  /-- A value of the wrong type. -/
  | badType
  /-- Something was asked for that the value does not have. -/
  | missing
  /-- A record is no JSON. -/
  | notJson
  /-- What is nested goes deeper than can be followed. -/
  | tooDeep
  /-- A reference names no resource. -/
  | badReference
  /-- A reference has a scheme that nobody serves. -/
  | unknownScheme
  /-- A reference asks for another protocol. -/
  | otherProtocol
  deriving DecidableEq, Repr, Inhabited

namespace Failure

/-- Whether the failure is reported as a query error. -/
def isQueryFailure : Failure → Bool
  | .reported error => error.isQueryFailure
  | _ => false

end Failure

end NtpQuery
