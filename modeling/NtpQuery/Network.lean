import NtpQuery.Address
import NtpQuery.Binary64.Arithmetic
import NtpQuery.Datagram
import NtpQuery.Responder

/-!
# The network as a query sees it

Everything outside the program is one value: the two clocks, the name table,
the sockets that the system has handed out, the datagrams that sending will
bring in, a local responder and the calls that the system will refuse. Each
system call is a function on it. Time passes only while a call waits, so a run
is determined by the network it starts from.

A socket has an inbox ordered by arrival, ties in the order of queueing.
Sending queues what the script holds for that datagram, then what the
responder replies. Waiting ends when the first datagram has arrived or the
time is over. Sent and received datagrams and requested waits are recorded,
newest first.
-/

namespace NtpQuery

structure Arrival where
  time : Int
  datagram : Datagram
  deriving DecidableEq, Repr, Inhabited

/-- The datagrams that a socket holds, in the order in which they are received. -/
abbrev Inbox := List Arrival

structure Socket where
  /-- Sockets are numbered in the order of their creation. -/
  id : Nat
  address : Endpoint
  inbox : Inbox := []
  deriving DecidableEq, Repr, Inhabited

/-- A datagram that sending brings in, after a delay. -/
structure Delivery where
  delayMs : Int := 0
  datagram : Datagram
  deriving DecidableEq, Repr, Inhabited

structure SentDatagram where
  time : Int
  data : Bytes
  destination : Endpoint
  deriving DecidableEq, Repr, Inhabited

/-- What ends a wait other than a datagram or the time. -/
inductive WaitFault where
  /-- A signal after the given time; the caller may wait again. -/
  | interrupted (ms : Int)
  | refused
  deriving DecidableEq, Repr, Inhabited

/-- The calls that the system refuses, in order: each call takes the next
element of its list and succeeds when that is none or the list is used up. -/
structure Faults where
  create : List (Option String) := []
  bind : List (Option String) := []
  send : List (Option String) := []
  receive : List (Option String) := []
  wait : List (Option WaitFault) := []
  close : List (Option String) := []
  deriving DecidableEq, Repr, Inhabited

/-- What the name table holds for a name. -/
inductive HostEntry where
  | addresses (hosts : List String)
  | unusable
  deriving DecidableEq, Repr, Inhabited

/-- A responder at an endpoint of the network. -/
structure Station where
  endpoint : Endpoint
  config : ResponderConfig := {}
  /-- Time that a request takes to the responder. -/
  upMs : Int := 0
  /-- Time that a reply takes back. -/
  downMs : Int := 0
  stats : ResponderStats := {}
  alive : Bool := true
  deriving Repr, Inhabited

structure Network where
  /-- The monotonic clock in ms. -/
  clock : Int := 0
  /-- How far the wall clock is ahead of the monotonic one, in ms. -/
  wallOffset : Int := 1700000000000
  script : List (List Delivery) := []
  faults : Faults := {}
  hosts : Mapping String HostEntry := []
  /-- The number that a random choice yields. -/
  random : Int := 1234
  portsAssigned : Nat := 0
  socketsCreated : Nat := 0
  openSockets : List Nat := []
  station : Option Station := none
  sentRev : List SentDatagram := []
  /-- The datagrams handed out, as they were handed out. -/
  receivedRev : List Datagram := []
  waitsRev : List Int := []
  deriving Repr, Inhabited

/-- The first element of a list of calls, and the rest. -/
def nextCall {α : Type} : List (Option α) → Option α × List (Option α)
  | [] => (none, [])
  | call :: rest => (call, rest)

/-- Queues a datagram behind all that arrive no later. -/
def Inbox.enqueue (inbox : Inbox) (arrival : Arrival) : Inbox :=
  inbox.takeWhile (·.time ≤ arrival.time) ++
    arrival :: inbox.dropWhile (·.time ≤ arrival.time)

def Inbox.enqueueAll (inbox : Inbox) (arrivals : List Arrival) : Inbox :=
  arrivals.foldl enqueue inbox

/-- Whether the first datagram arrives before a timeout is over, and the clock
when either has happened. -/
def Inbox.await (inbox : Inbox) (clock timeoutMs : Int) : Bool × Int :=
  match inbox with
  | head :: _ =>
    if head.time ≤ clock + timeoutMs then (true, max clock head.time)
    else (false, clock + timeoutMs)
  | [] => (false, clock + timeoutMs)

namespace Socket

def enqueue (socket : Socket) (arrival : Arrival) : Socket :=
  { socket with inbox := socket.inbox.enqueue arrival }

def enqueueAll (socket : Socket) (arrivals : List Arrival) : Socket :=
  { socket with inbox := socket.inbox.enqueueAll arrivals }

end Socket

/-- The first octets of a datagram; a negative size leaves out that many at its end. -/
def truncated (size : Int) (data : Bytes) : Bytes :=
  if 0 ≤ size then data.take size.toNat else data.take (data.length - size.natAbs)

/-- The datagram as it is received with a buffer of the given size. -/
def Datagram.cut (size : Int) (datagram : Datagram) : Datagram :=
  { datagram with data := truncated size datagram.data }

namespace Network

def wallMs (net : Network) : Int := net.clock + net.wallOffset

/-- Whole seconds of a time in ms, nearer to zero. -/
def wholeSeconds (ms : Int) : Int := ms.tdiv 1000

/-- The wall clock in whole seconds. -/
def wallSeconds (net : Network) : Int := wholeSeconds net.wallMs

def advance (net : Network) (ms : Int) : Network :=
  { net with clock := net.clock + ms }

/-- Gives out the next free port. -/
def assignPort (net : Network) : Int × Network :=
  (40001 + net.portsAssigned, { net with portsAssigned := net.portsAssigned + 1 })

/-- The network with a responder. Port 0 asks for the next free port. -/
def withStation (net : Network) (station : Station) : Network :=
  if station.endpoint.port = 0 then
    let (port, net) := net.assignPort
    { net with station := some { station with endpoint := { station.endpoint with port } } }
  else { net with station := some station }

/-- Closes a socket; the system may refuse. -/
def closeSocket (net : Network) (id : Nat) : Except Failure Unit × Network :=
  let (fault, close) := nextCall net.faults.close
  let net := { net with faults := { net.faults with close } }
  match fault with
  | some _ => (.error .system, net)
  | none => (.ok (), { net with openSockets := net.openSockets.erase id })

/-- Creates a socket and binds it to a free port. A socket that cannot be bound
is closed again. -/
def openSocket (net : Network) (bindHost : String) : Except Failure Socket × Network :=
  let (fault, create) := nextCall net.faults.create
  let net := { net with faults := { net.faults with create } }
  match fault with
  | some reason =>
    (.error (.reported (.socket ("could not create socket: " ++ reason))), net)
  | none =>
    let id := net.socketsCreated
    let (fault, bind) := nextCall net.faults.bind
    let net :=
      { net with
        socketsCreated := id + 1
        openSockets := id :: net.openSockets
        faults := { net.faults with bind } }
    match fault with
    | some reason =>
      match net.closeSocket id with
      | (.error failure, net) => (.error failure, net)
      | (.ok _, net) => (.error (.reported (.socket ("can not bind socket: " ++ reason))), net)
    | none =>
      let (port, net) := net.assignPort
      (.ok { id, address := ⟨if bindHost.isEmpty then "0.0.0.0" else bindHost, port⟩ }, net)

/-- The datagrams that the script holds for the next one sent. -/
def scripted (net : Network) : List Arrival × Network :=
  match net.script with
  | [] => ([], net)
  | deliveries :: script =>
    (deliveries.map fun d => ⟨net.clock + d.delayMs, d.datagram⟩, { net with script })

/-- The replies of the responder, when it is the destination. A request that it
fails on is its last one. -/
def responded (net : Network) (data : Bytes) (destination : Endpoint) :
    List Arrival × Network :=
  match net.station with
  | none => ([], net)
  | some station =>
    if station.alive && station.endpoint = destination then
      let now := wholeSeconds (net.wallMs + station.upMs)
      match Responder.handle station.config now
          (data.take Wire.controlPacketSize) station.stats with
      | (.error _, stats) =>
        ([], { net with station := some { station with stats, alive := false } })
      | (.ok replies, stats) =>
        let time := net.clock + station.upMs + station.downMs
        (replies.map fun reply => ⟨time, ⟨reply, station.endpoint⟩⟩,
          { net with station := some { station with stats } })
    else ([], net)

/-- What sending a datagram brings in. -/
def bring (net : Network) (data : Bytes) (destination : Endpoint) : List Arrival × Network :=
  let (scripted, net) := net.scripted
  let (responded, net) := net.responded data destination
  (scripted ++ responded, net)

/-- Sends a datagram; the result is the socket with what came in. -/
def send (net : Network) (socket : Socket) (data : Bytes) (destination : Endpoint) :
    Except String Socket × Network :=
  let (fault, send) := nextCall net.faults.send
  let net := { net with faults := { net.faults with send } }
  match fault with
  | some reason => (.error reason, net)
  | none =>
    let net := { net with sentRev := ⟨net.clock, data, destination⟩ :: net.sentRev }
    let (arrivals, net) := net.bring data destination
    (.ok (socket.enqueueAll arrivals), net)

/-- Times below this many ms, `2 ^ 50`, are told to the system exactly. -/
def exactWaitMs : Nat := 1125899906842624

/-- A timeout as the system is told it, which is the time in seconds as a
double. None for a time that no double holds. Every double is taken as a
timeout, as documented; a platform may refuse one that its own type of time
does not hold. -/
def waitMs? (ms : Int) : Option Int :=
  if ms.natAbs < exactWaitMs then some ms
  else do
    let exact ← Binary64.ofInt? ms
    ((exact.div (.ofInt 1000)).mul (.ofInt 1000)).nearestInt?

/-- Waits until a deadline, `remaining` ms away. An interrupted wait goes on with
the time that is left; a refused one counts as over. The list holds the faults
of this wait and of later ones. -/
def waitUntil (inbox : Inbox) (deadline : Int) :
    (faults : List (Option WaitFault)) → (remaining : Int) → Network →
      Except Failure Bool × Network
  | faults, remaining, net =>
    match waitMs? remaining with
    | none => (.error .overflow, { net with faults := { net.faults with wait := faults } })
    | some timeoutMs =>
      let net := { net with waitsRev := timeoutMs :: net.waitsRev }
      match faults with
      | some (.interrupted ms) :: faults =>
        let net := net.advance ms
        waitUntil inbox deadline faults (max 0 (deadline - net.clock)) net
      | some .refused :: faults =>
        (.ok false, { net with faults := { net.faults with wait := faults } })
      | none :: faults =>
        let (ready, clock) := inbox.await net.clock timeoutMs
        (.ok ready, { net with clock, faults := { net.faults with wait := faults } })
      | [] =>
        let (ready, clock) := inbox.await net.clock timeoutMs
        (.ok ready, { net with clock, faults := { net.faults with wait := [] } })

/-- Waits for a datagram on a socket. -/
def wait (net : Network) (socket : Socket) (timeoutMs : Int) : Except Failure Bool × Network :=
  let timeoutMs := max 0 timeoutMs
  waitUntil socket.inbox (net.clock + timeoutMs) net.faults.wait timeoutMs net

/-- Takes the first datagram of the inbox, cut to a size. -/
def receive (net : Network) (socket : Socket) (size : Int) :
    Except String (Datagram × Socket) × Network :=
  let (fault, receive) := nextCall net.faults.receive
  let net := { net with faults := { net.faults with receive } }
  match fault with
  | some reason => (.error reason, net)
  | none =>
    match socket.inbox with
    | [] => (.error "no datagram", net)
    | arrival :: inbox =>
      let datagram := arrival.datagram.cut size
      (.ok (datagram, { socket with inbox }),
        { net with receivedRev := datagram :: net.receivedRev })

/-- A fresh socket has an empty inbox. -/
theorem inbox_openSocket {net after : Network} {bindHost : String} {socket : Socket}
    (h : net.openSocket bindHost = (.ok socket, after)) : socket.inbox = [] := by
  unfold openSocket at h
  simp only at h
  split at h
  · simp at h
  · split at h
    · split at h <;> simp at h
    · simp only [Prod.mk.injEq, Except.ok.injEq] at h
      rw [← h.1]

/-- Receiving takes one datagram out of the inbox. -/
theorem inbox_receive {net after : Network} {socket : Socket} {size : Int}
    {taken : Datagram × Socket} (h : net.receive socket size = (.ok taken, after)) :
    taken.2.inbox.length < socket.inbox.length := by
  unfold receive at h
  simp only at h
  split at h
  · simp at h
  · split at h
    · simp at h
    · rename_i hi
      simp only [Prod.mk.injEq, Except.ok.injEq] at h
      rw [← h.1, hi]
      simp

/-- The addresses of a name; none when it has no meaning. -/
def lookup (net : Network) (host : String) : Option (List String) :=
  match net.hosts.get? host with
  | some (.addresses hosts) => some hosts
  | some .unusable => none
  | none => if Address.isDottedQuad host.toList then some [host] else none

/-- The endpoint of a host name and a port. -/
def resolve (net : Network) (host : String) (port : Int) : Except QueryError Endpoint :=
  if port < 1 ∨ 65535 < port then
    .error (.address ("port " ++ toString port ++ " out of range 1..65535"))
  else
    match net.lookup host with
    | some (address :: _) => .ok ⟨address, port⟩
    | _ => .error (.address ("unknown IP address \"" ++ host ++ "\""))

end Network

end NtpQuery
