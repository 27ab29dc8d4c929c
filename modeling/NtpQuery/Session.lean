import NtpQuery.Network

/-!
# Sessions

All queries of a client share one socket and one counter of sequence numbers.
The socket is opened when it is first needed and dropped after a failed send
or receive, so that the next use starts with a fresh one and an empty inbox.
Sequence numbers have 16 bits and go around.

A session is used together with the network it lives on; `Channel` pairs the
two, and every operation gives the channel back, also when it fails.
-/

namespace NtpQuery

structure Session where
  bindHost : String := ""
  socket : Option Socket := none
  sequence : Int := 1
  /-- How many sequence numbers were given out. -/
  issued : Nat := 0
  deriving DecidableEq, Repr, Inhabited

structure Channel where
  session : Session
  network : Network
  deriving Repr, Inhabited

namespace Session

def isOpen (session : Session) : Bool := session.socket.isSome

/-- The datagrams that wait on the socket. -/
def inbox (session : Session) : Inbox :=
  match session.socket with
  | some socket => socket.inbox
  | none => []

/-- How many datagrams wait in the inbox. -/
def pending (session : Session) : Nat := session.inbox.length

end Session

namespace Channel

def clock (channel : Channel) : Int := channel.network.clock

def withSocket (channel : Channel) (socket : Option Socket) : Channel :=
  { channel with session := { channel.session with socket } }

/-- The socket of the session, opened if there is none. -/
def ensureOpen (channel : Channel) : Except Failure Socket × Channel :=
  match channel.session.socket with
  | some socket => (.ok socket, channel)
  | none =>
    match channel.network.openSocket channel.session.bindHost with
    | (.error failure, network) => (.error failure, { channel with network })
    | (.ok socket, network) => (.ok socket, { channel with network }.withSocket (some socket))

/-- Closes the socket. The session forgets it even when the system refuses. -/
def close (channel : Channel) : Except Failure Unit × Channel :=
  match channel.session.socket with
  | none => (.ok (), channel)
  | some socket =>
    let (result, network) := channel.network.closeSocket socket.id
    (result, { channel with network }.withSocket none)

/-- Closes the socket after an error, which is the result unless closing fails too. -/
def abandon {α : Type} (channel : Channel) (error : QueryError) : Except Failure α × Channel :=
  match channel.close with
  | (.error failure, channel) => (.error failure, channel)
  | (.ok _, channel) => (.error (.reported error), channel)

theorem abandon_ne_ok {α : Type} (channel after : Channel) (error : QueryError) (a : α) :
    channel.abandon error ≠ (.ok a, after) := by
  unfold abandon
  split <;> simp

/-- The next sequence number. -/
def nextSequence (channel : Channel) : Int × Channel :=
  let sequence := (channel.session.sequence + 1) % 65536
  let issued := channel.session.issued + 1
  (sequence, { channel with session := { channel.session with sequence, issued } })

def send (channel : Channel) (data : Bytes) (destination : Endpoint) :
    Except Failure Unit × Channel :=
  match channel.ensureOpen with
  | (.error failure, channel) => (.error failure, channel)
  | (.ok socket, channel) =>
    match channel.network.send socket data destination with
    | (.error reason, network) =>
      abandon { channel with network } (.send ("udp sendto failed: " ++ reason))
    | (.ok socket, network) => (.ok (), { channel with network }.withSocket (some socket))

/-- Waits for a datagram; false when none came in time. -/
def wait (channel : Channel) (timeoutMs : Int) : Except Failure Bool × Channel :=
  match channel.ensureOpen with
  | (.error failure, channel) => (.error failure, channel)
  | (.ok socket, channel) =>
    let (result, network) := channel.network.wait socket timeoutMs
    (result, { channel with network })

/-- Takes the next datagram, cut to a size. -/
def receive (channel : Channel) (size : Int) : Except Failure Datagram × Channel :=
  match channel.ensureOpen with
  | (.error failure, channel) => (.error failure, channel)
  | (.ok socket, channel) =>
    match channel.network.receive socket size with
    | (.error reason, network) =>
      abandon { channel with network } (.receive ("recvfrom failed: " ++ reason))
    | (.ok (datagram, socket), network) =>
      (.ok datagram, { channel with network }.withSocket (some socket))

/-- Puts a datagram into the inbox of the open socket; false when there is none. -/
def push (channel : Channel) (delivery : Delivery) : Bool × Channel :=
  match channel.session.socket with
  | none => (false, channel)
  | some socket =>
    let arrival := ⟨channel.clock + delivery.delayMs, delivery.datagram⟩
    (true, channel.withSocket (some (socket.enqueue arrival)))

/-- Opens the session, looks whether it is open and closes it again. -/
def within (channel : Channel) : Except Failure Bool × Channel :=
  match channel.ensureOpen with
  | (.error failure, channel) => (.error failure, channel)
  | (.ok _, channel) =>
    let inside := channel.session.isOpen
    match channel.close with
    | (.error failure, channel) => (.error failure, channel)
    | (.ok _, channel) => (.ok inside, channel)

theorem session_wait (channel : Channel) (timeoutMs : Int) (opened : channel.session.isOpen) :
    (channel.wait timeoutMs).2.session = channel.session := by
  unfold wait ensureOpen
  cases hs : channel.session.socket with
  | none => simp [Session.isOpen, hs] at opened
  | some socket => rfl

/-- Waiting adds nothing to the inbox. -/
theorem pending_wait_le (channel : Channel) (timeoutMs : Int) :
    (channel.wait timeoutMs).2.session.pending ≤ channel.session.pending := by
  by_cases opened : channel.session.isOpen
  · exact Nat.le_of_eq (congrArg Session.pending (session_wait channel timeoutMs opened))
  · have hs : channel.session.socket = none := by simpa [Session.isOpen] using opened
    unfold wait ensureOpen
    simp only [hs]
    cases ho : channel.network.openSocket channel.session.bindHost with
    | mk result network =>
      cases result with
      | error failure => simp [Session.pending, Session.inbox, hs]
      | ok socket =>
        have := Network.inbox_openSocket ho
        simp [withSocket, Session.pending, Session.inbox, this]

/-- A received datagram is no longer in the inbox. -/
theorem pending_receive_lt {channel after : Channel} {size : Int} {datagram : Datagram}
    (h : channel.receive size = (.ok datagram, after)) :
    after.session.pending < channel.session.pending := by
  unfold receive ensureOpen at h
  cases hs : channel.session.socket with
  | none =>
    simp only [hs] at h
    cases ho : channel.network.openSocket channel.session.bindHost with
    | mk result network =>
      cases result with
      | error failure => simp [ho] at h
      | ok socket =>
        have hi := Network.inbox_openSocket ho
        simp only [ho, withSocket] at h
        cases hr : network.receive socket size with
        | mk outcome network' =>
          cases outcome with
          | error reason => simp [hr, abandon_ne_ok] at h
          | ok taken =>
            have := Network.inbox_receive hr
            simp [hi] at this
  | some socket =>
    simp only [hs] at h
    cases hr : channel.network.receive socket size with
    | mk outcome network' =>
      cases outcome with
      | error reason => simp [hr, abandon_ne_ok] at h
      | ok taken =>
        obtain ⟨datagram', socket'⟩ := taken
        have hl := Network.inbox_receive hr
        simp only [hr, Prod.mk.injEq] at h
        rw [← h.2]
        simpa [withSocket, Session.pending, Session.inbox, hs] using hl

end Channel

end NtpQuery
