import NtpQuery.Network

/-!
# The responder as a service

A responder is started on an endpoint, takes datagrams while it is running and
is stopped again. Port 0 asks for a free port, which the responder then keeps.
Starting a running responder does nothing, and stopping it closes its socket.
Without a socket it can take no datagram.
-/

namespace NtpQuery

structure Service where
  host : String := "127.0.0.1"
  port : Int := 0
  config : ResponderConfig := {}
  stats : ResponderStats := {}
  running : Bool := false
  /-- Whether it has a socket. -/
  connected : Bool := false
  /-- All datagrams taken, newest first. -/
  requestsRev : List Datagram := []
  deriving Repr, Inhabited

/-- What waiting for a request yields. -/
inductive Intake where
  | datagram (datagram : Datagram)
  | nothing
  /-- The socket fails. -/
  | failure
  /-- The responder is stopped while it waits. -/
  | stopped
  deriving DecidableEq, Repr

structure Reply where
  data : Bytes
  destination : Endpoint
  deriving DecidableEq, Repr

namespace Service

def endpoint (service : Service) : Endpoint := ⟨service.host, service.port⟩

def start (service : Service) (net : Network) : Service × Network :=
  if service.running then (service, net)
  else
    let service : Service := { service with running := true, connected := true }
    if service.port = 0 then
      let (port, net) := net.assignPort
      ({ service with port }, net)
    else (service, net)

def stop (service : Service) : Service :=
  { service with running := false, connected := false }

/-- Takes a datagram at the given Unix second. -/
def take (service : Service) (now : Int) (datagram : Datagram) :
    Except Failure (List Reply) × Service :=
  if !service.connected then (.error .missing, service)
  else
    let (result, stats) := Responder.handle service.config now datagram.data service.stats
    (result.map fun replies => replies.map (⟨·, datagram.source⟩),
      { service with stats, requestsRev := datagram :: service.requestsRev })

/-- Takes requests for as long as it is running. When nothing more comes in, it
is stopped. The replies of all requests are returned, also before a failure. -/
def takeAll (now : Int) : List Intake → Service → List Reply × Option Failure × Service
  | [], service => ([], none, { service with running := false })
  | intake :: rest, service =>
    if !service.running then ([], none, service)
    else
      match intake with
      | .nothing => takeAll now rest service
      | .failure => ([], none, service)
      | .stopped => ([], none, { service with running := false })
      | .datagram datagram =>
        let cut := { datagram with data := datagram.data.take Wire.controlPacketSize }
        match service.take now cut with
        | (.error failure, service) => ([], some failure, service)
        | (.ok replies, service) =>
          let (further, failure, service) := takeAll now rest service
          (replies ++ further, failure, service)

/-- Waits on its socket and takes what comes in. -/
def serve (now : Int) (intakes : List Intake) (service : Service) :
    List Reply × Option Failure × Service :=
  if service.connected then takeAll now intakes service else ([], some .missing, service)

end Service

end NtpQuery
