import NtpQuery.Bytes

/-!
# Datagrams and endpoints

An endpoint is a numeric IPv4 address with a port. A received datagram carries
the endpoint it came from. Servers are asked at the standard port unless
another one is named.
-/

namespace NtpQuery

@[ext] structure Endpoint where
  host : String
  port : Int
  deriving DecidableEq, Repr, Inhabited

/-- The port at which servers answer. -/
def standardPort : Int := 123

/-- The endpoint as records show it. -/
def Endpoint.toText (endpoint : Endpoint) : String :=
  endpoint.host ++ ":" ++ toString endpoint.port

structure Datagram where
  data : Bytes
  source : Endpoint
  deriving DecidableEq, Repr, Inhabited

end NtpQuery
