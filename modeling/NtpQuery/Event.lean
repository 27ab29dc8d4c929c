import NtpQuery.Datagram
import NtpQuery.Failure
import NtpQuery.Json.Value

/-!
# Events of a query

Everything that is counted or logged about queries is an event: what was sent
and received, which datagrams were turned away and why, how an attempt or a
query ended. A query yields its events in order, each with the time of the
monotonic clock; metrics and logs are made from them and from nothing else.
-/

namespace NtpQuery

inductive QueryKind where
  /-- The variables of a server, read with control packets. -/
  | status
  /-- The time of a server, read with client packets. -/
  | time
  deriving DecidableEq, Repr, Inhabited

def QueryKind.name : QueryKind → String
  | .status => "status"
  | .time => "time"

/-- The kind of that name. -/
def QueryKind.ofName? (name : String) : Option QueryKind :=
  [QueryKind.status, .time].find? fun kind => kind.name = name

inductive Event where
  | query (kind : String) (destination : Endpoint) (retries timeoutMs : Int)
  | sent (kind : String) (attempt size : Int) (sequence : Option Int)
  | received (kind : String) (source : Endpoint) (size roundTrip : Int)
  | discarded (kind : String) (source : Endpoint) (reason : String)
  | attemptTimeout (kind : String) (attempt : Int)
  | exhausted (kind : String) (attempts : Int)
  | failed (kind : String) (error : QueryError)
  | peerFailed (error : QueryError)
  | answered (kind : String) (roundTrip : Int) (result : List (String × Json))
  deriving Repr, Inhabited

/-- An event with the time at which it happened. -/
structure TimedEvent where
  time : Int
  event : Event
  deriving Repr, Inhabited

end NtpQuery
