import NtpQuery.Budget
import NtpQuery.Event
import NtpQuery.Session

/-!
# Exchanges

An exchange asks one question and waits for its answer. The timeout is shared
evenly among the attempts. Each attempt sends the request and then receives
datagrams until one is the awaited response or the attempt's time is over; a
datagram that is turned away only costs the time it took. When no attempt is
left, nobody responded. An error of the session ends the exchange at once.

An attempt is over at its deadline, counted from the moment after sending. A
datagram that is turned away at or after the deadline ends the attempt, so
what else waits in the inbox is left to the next one.

The phases that an exchange goes through and the events it causes are kept,
newest first, in its trail.
-/

namespace NtpQuery

/-- One question to one server. -/
structure Query where
  destination : Endpoint
  kind : QueryKind
  association : Int := 0
  budget : Budget := .standard
  deriving Repr, Inhabited

inductive Phase where
  | idle
  | sending
  | waiting
  | validating
  | succeeded
  | exhausted
  deriving DecidableEq, Repr, Inhabited

def Phase.name : Phase → String
  | .idle => "idle"
  | .sending => "sending"
  | .waiting => "waiting"
  | .validating => "validating"
  | .succeeded => "succeeded"
  | .exhausted => "exhausted"

/-- A response and the timing of the attempt that it answers. -/
structure Answer (α : Type) where
  packet : α
  source : Endpoint
  /-- How many requests were sent. -/
  attempts : Nat
  /-- The wall clock second of the last request. -/
  sentAt : Int
  /-- The wall clock second of the response. -/
  receivedAt : Int
  /-- Milliseconds from the last request to the response. -/
  roundTrip : Int
  deriving Repr

/-- The course of an exchange. -/
structure Trail where
  phasesRev : List Phase := []
  eventsRev : List TimedEvent := []
  attempts : Nat := 0
  deriving Repr, Inhabited

namespace Trail

def enter (trail : Trail) (phase : Phase) : Trail :=
  { trail with phasesRev := phase :: trail.phasesRev }

def note (trail : Trail) (time : Int) (event : Event) : Trail :=
  { trail with eventsRev := ⟨time, event⟩ :: trail.eventsRev }

def phases (trail : Trail) : List Phase := trail.phasesRev.reverse

def events (trail : Trail) : List TimedEvent := trail.eventsRev.reverse

/-- The phase that was entered last. -/
def phase (trail : Trail) : Phase := trail.phasesRev.headD .idle

@[simp] theorem enter_phasesRev (trail : Trail) (phase : Phase) :
    (trail.enter phase).phasesRev = phase :: trail.phasesRev := rfl

@[simp] theorem enter_eventsRev (trail : Trail) (phase : Phase) :
    (trail.enter phase).eventsRev = trail.eventsRev := rfl

@[simp] theorem enter_attempts (trail : Trail) (phase : Phase) :
    (trail.enter phase).attempts = trail.attempts := rfl

@[simp] theorem note_phasesRev (trail : Trail) (time : Int) (event : Event) :
    (trail.note time event).phasesRev = trail.phasesRev := rfl

@[simp] theorem note_eventsRev (trail : Trail) (time : Int) (event : Event) :
    (trail.note time event).eventsRev = ⟨time, event⟩ :: trail.eventsRev := rfl

@[simp] theorem note_attempts (trail : Trail) (time : Int) (event : Event) :
    (trail.note time event).attempts = trail.attempts := rfl

end Trail

/-- How to ask a question and to tell its answer. -/
structure Exchange (α : Type) where
  query : Query
  /-- The request for an attempt at a wall clock second. -/
  request : (attempt : Nat) → (now : Int) → Bytes
  /-- The packet of the awaited response, or why a datagram is none. -/
  accept : Datagram → Except String α
  /-- The sequence number of the request, if it has one. -/
  sequence : Option Int := none
  /-- Datagrams are cut to this size. -/
  receiveSize : Int := 512

/-- What an exchange ends with. -/
structure Run (α : Type) where
  outcome : Except Failure (Answer α)
  trail : Trail
  channel : Channel

namespace Exchange

variable {α : Type}

/-- When the request of the running attempt left. -/
structure Departure where
  /-- The wall clock second before sending. -/
  sentAt : Int
  /-- The monotonic clock after sending. -/
  clock : Int
  deriving Repr, Inhabited

/-- How an attempt ends: with a response, without one, or with a failure. -/
inductive Ending (α : Type) where
  | accepted (answer : Answer α)
  | over
  | failed (failure : Failure)

def kindName (exchange : Exchange α) : String := exchange.query.kind.name

def attemptMs (exchange : Exchange α) : Int := exchange.query.budget.attemptMs

/-- One round of listening: waits for a datagram, takes it and compares it with
what is awaited. The result is how the attempt ends, or none when it goes on. -/
def round (exchange : Exchange α) (departure : Departure) (channel : Channel) (trail : Trail) :
    Option (Ending α) × Trail × Channel :=
  let deadline := departure.clock + exchange.attemptMs
  match channel.wait (max 0 (deadline - channel.clock)) with
  | (.error failure, channel) => (some (.failed failure), trail, channel)
  | (.ok false, channel) =>
    (some .over,
      (trail.note channel.clock (.attemptTimeout exchange.kindName trail.attempts)).enter .idle,
      channel)
  | (.ok true, channel) =>
    match channel.receive exchange.receiveSize with
    | (.error failure, channel) => (some (.failed failure), trail, channel)
    | (.ok datagram, channel) =>
      let roundTrip := channel.clock - departure.clock
      let trail :=
        (trail.note channel.clock
          (.received exchange.kindName datagram.source datagram.data.length roundTrip)).enter
            .validating
      match exchange.accept datagram with
      | .ok packet =>
        (some (.accepted
          { packet
            source := datagram.source
            attempts := trail.attempts
            sentAt := departure.sentAt
            receivedAt := channel.network.wallSeconds
            roundTrip }),
          trail.enter .succeeded, channel)
      | .error reason =>
        let trail :=
          trail.note channel.clock (.discarded exchange.kindName datagram.source reason)
        if deadline ≤ channel.clock then (some .over, trail.enter .idle, channel)
        else (none, trail.enter .waiting, channel)

/-- A round that does not end the attempt takes a datagram out of the inbox. -/
theorem pending_round_lt {exchange : Exchange α} {departure : Departure}
    {channel after : Channel} {trail trail' : Trail}
    (h : exchange.round departure channel trail = (none, trail', after)) :
    after.session.pending < channel.session.pending := by
  unfold round at h
  simp only at h
  split at h
  · simp at h
  · simp at h
  · rename_i waited hw
    split at h
    · simp at h
    · rename_i datagram received hr
      split at h
      · simp at h
      · split at h
        · simp at h
        · simp only [Prod.mk.injEq, true_and] at h
          rw [← h.2]
          have hle := Channel.pending_wait_le channel
            (max 0 (departure.clock + exchange.attemptMs - channel.clock))
          rw [hw] at hle
          exact Nat.lt_of_lt_of_le (Channel.pending_receive_lt hr) hle

/-- Receives datagrams until the attempt ends. -/
def listen (exchange : Exchange α) (departure : Departure) (channel : Channel) (trail : Trail) :
    Ending α × Trail × Channel :=
  match _next : exchange.round departure channel trail with
  | (some ending, trail, channel) => (ending, trail, channel)
  | (none, trail, channel) => listen exchange departure channel trail
termination_by channel.session.pending
decreasing_by exact pending_round_lt _next

/-- Makes up to the given number of further attempts. -/
def attempt (exchange : Exchange α) : (left : Nat) → Channel → Trail → Run α
  | 0, channel, trail =>
    { outcome := .error (.reported .unanswered)
      trail :=
        (trail.enter .exhausted).note channel.clock (.exhausted exchange.kindName trail.attempts)
      channel }
  | left + 1, channel, trail =>
    let trail := { trail with attempts := trail.attempts + 1 }.enter .sending
    let sentAt := channel.network.wallSeconds
    let request := exchange.request trail.attempts sentAt
    match channel.send request exchange.query.destination with
    | (.error failure, channel) => { outcome := .error failure, trail, channel }
    | (.ok _, channel) =>
      let trail :=
        (trail.note channel.clock
          (.sent exchange.kindName trail.attempts request.length exchange.sequence)).enter .waiting
      match exchange.listen ⟨sentAt, channel.clock⟩ channel trail with
      | (.accepted answer, trail, channel) => { outcome := .ok answer, trail, channel }
      | (.failed failure, trail, channel) => { outcome := .error failure, trail, channel }
      | (.over, trail, channel) => attempt exchange left channel trail

/-- Carries the exchange out. -/
def run (exchange : Exchange α) (channel : Channel) : Run α :=
  exchange.attempt exchange.query.budget.attempts channel (Trail.enter {} .idle)

end Exchange

end NtpQuery
