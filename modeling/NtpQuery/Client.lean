import NtpQuery.Correlator
import NtpQuery.EventLog.Basic
import NtpQuery.Exchange
import NtpQuery.Metrics
import NtpQuery.TimeResult
import NtpQuery.VariableList

/-!
# The client

A client runs queries over one session and keeps a record of them: metrics
and, where asked for, an event log. Both are made from the events that a query
yields.

A status query reads the variables of a server and then, when the server names
a system peer, those of the peer. The follow-up may fail without harm: the
result then holds the server's variables only, and the failure is recorded. A
time query compares clocks. Budget and address are checked before anything is
recorded.
-/

namespace NtpQuery

/-- What is kept about queries. -/
structure Record where
  metrics : Metrics := {}
  log : Option EventLog := none
  /-- What the log has refused, newest first. -/
  refusalsRev : List Failure := []
  deriving Repr, Inhabited

namespace Record

/-- What a log refuses of an event. -/
def refusal? (record : Record) (event : TimedEvent) : Option Failure :=
  record.log.bind fun log =>
    match (log.observe event).1 with
    | .error failure => some failure
    | .ok _ => none

/-- Takes note of an event. A query is not stopped by a refusal of the log: what is said of a query
holds of one with a log as long as `refusalsRev` has nothing of it. -/
def observe (record : Record) (event : TimedEvent) : Record :=
  { metrics := record.metrics.observe event
    log := record.log.map fun log => (log.observe event).2
    refusalsRev := (record.refusal? event).toList ++ record.refusalsRev }

def observeAll (record : Record) (events : List TimedEvent) : Record :=
  events.foldl observe record

@[simp] theorem observeAll_nil (record : Record) : record.observeAll [] = record := rfl

@[simp] theorem observeAll_cons (record : Record) (event : TimedEvent)
    (events : List TimedEvent) :
    record.observeAll (event :: events) = (record.observe event).observeAll events := rfl

end Record

structure Client where
  channel : Channel
  defaults : Budget := .standard
  record : Record := {}
  deriving Repr, Inhabited

/-- What a query is asked to do. -/
structure Request where
  host : String
  port : Int := standardPort
  retries : Option Int := none
  timeoutMs : Option Int := none
  deriving Repr, Inhabited

namespace Client

/-- A client with a fresh session on a network. -/
def onNetwork (network : Network) (log : Option EventLog) : Client where
  channel := { session := {}, network }
  record := { metrics := .fresh network.clock, log }

def network (client : Client) : Network := client.channel.network

def now (client : Client) : Int := client.channel.clock

def withNetwork (client : Client) (network : Network) : Client :=
  { client with channel := { client.channel with network } }

/-- Takes note of an event that happens now. -/
def observe (client : Client) (event : Event) : Client :=
  { client with record := client.record.observe ⟨client.now, event⟩ }

/-- The client after an exchange. -/
def after {α : Type} (client : Client) (run : Run α) : Client :=
  { client with
    channel := run.channel
    record := client.record.observeAll run.trail.events }

/-- Budget and destination of a request. The budget is checked first. -/
def accept (client : Client) (request : Request) : Except Failure (Budget × Endpoint) :=
  match client.defaults.override request.retries request.timeoutMs with
  | .error error => .error (.reported error)
  | .ok budget =>
    match client.network.resolve request.host request.port with
    | .error error => .error (.reported error)
    | .ok destination => .ok (budget, destination)

/-- Why a request that names no port at all is refused. The budget is checked first. -/
def withoutPort (client : Client) (retries timeoutMs : Option Int) : Failure :=
  match client.defaults.override retries timeoutMs with
  | .error error => .reported error
  | .ok _ => .badType

/-- Notes the start of an accepted query. -/
def start (client : Client) (kind : QueryKind) (budget : Budget) (destination : Endpoint) :
    Client :=
  client.observe (.query kind.name destination budget.retries budget.timeoutMs)

/-- Notes the end of a query that failed. Only query errors are recorded. -/
def fail (client : Client) (kind : QueryKind) (failure : Failure) : Client :=
  match failure with
  | .reported error => client.observe (.failed kind.name error)
  | _ => client

/-- The exchange that reads the variables of an association. -/
def variablesExchange (budget : Budget) (destination : Endpoint) (association sequence : Int)
    (payload : Bytes) : Exchange ControlPacket where
  query := { destination, kind := .status, association, budget }
  request := fun _ _ => payload
  accept := fun datagram =>
    (Correlator.control destination sequence datagram).mapError Mismatch.name
  sequence := some sequence

/-- Reads the variables of an association. -/
def fetchVariables (client : Client) (budget : Budget) (destination : Endpoint)
    (association : Int) : Except Failure (Answer ControlPacket) × Client :=
  let (sequence, channel) := client.channel.nextSequence
  let client := { client with channel }
  match ControlPacket.request 2 association sequence with
  | .error failure => (.error failure, client)
  | .ok payload =>
    let run := (variablesExchange budget destination association sequence payload).run channel
    (run.outcome, client.after run)

/-- The text of the peer that the system text names; empty when there is no such
peer or asking it failed. -/
def fetchPeer (client : Client) (budget : Budget) (destination : Endpoint)
    (systemText : String) : Except Failure String × Client :=
  match VariableList.peerAssociation? systemText with
  | none => (.error .badValue, client)
  | some none => (.ok "", client)
  | some (some association) =>
    match client.fetchVariables budget destination association with
    | (.ok answer, client) => (.ok answer.packet.text, client)
    | (.error (.reported error), client) =>
      (.ok "", client.observe (.peerFailed (.peer association error)))
    | (.error failure, client) => (.error failure, client)

/-- The variables of a server and of its peer. -/
def statusVariables (systemText peerText : String) : Mapping String String :=
  let known := VariableList.read systemText "sys" []
  if peerText.isEmpty then known else VariableList.read peerText "peer" known

def textMembers (known : Mapping String String) : List (String × Json) :=
  known.map fun (name, value) => (name, .text value)

/-- The variables of a server. -/
def queryStatus (client : Client) (request : Request) :
    Except Failure (Mapping String String) × Client :=
  match client.accept request with
  | .error failure => (.error failure, client)
  | .ok (budget, destination) =>
    match (client.start .status budget destination).fetchVariables budget destination 0 with
    | (.error failure, client) => (.error failure, client.fail .status failure)
    | (.ok answer, client) =>
      match client.fetchPeer budget destination answer.packet.text with
      | (.error failure, client) => (.error failure, client)
      | (.ok peerText, client) =>
        let known := statusVariables answer.packet.text peerText
        (.ok known,
          client.observe
            (.answered QueryKind.status.name answer.roundTrip (textMembers known)))

/-- The exchange that asks a server for its time. -/
def timeExchange (budget : Budget) (destination : Endpoint) : Exchange ClientPacket where
  query := { destination, kind := .time, budget }
  request := fun _ now => ClientPacket.request now
  accept := fun datagram => (Correlator.client destination datagram).mapError Mismatch.name

/-- The time of a server compared with the local one. -/
def queryTime (client : Client) (request : Request) : Except Failure TimeResult × Client :=
  match client.accept request with
  | .error failure => (.error failure, client)
  | .ok (budget, destination) =>
    let client := client.start .time budget destination
    let run := (timeExchange budget destination).run client.channel
    let client := client.after run
    match run.outcome with
    | .error failure => (.error failure, client.fail .time failure)
    | .ok answer =>
      match TimeResult.ofAnswer answer.packet (answer.sentAt + Wire.epochOffset)
          (answer.receivedAt + Wire.epochOffset) with
      | .error failure => (.error failure, client)
      | .ok result =>
        (.ok result,
          client.observe (.answered QueryKind.time.name answer.roundTrip result.entries))

/-- Changes the numbers used where a request gives none. -/
def updateDefaults (client : Client) (retries timeoutMs : Option Int) :
    Except QueryError Unit × Client :=
  match client.defaults.override retries timeoutMs with
  | .error error => (.error error, client)
  | .ok defaults => (.ok (), { client with defaults })

def close (client : Client) : Except Failure Unit × Client :=
  let (result, channel) := client.channel.close
  (result, { client with channel })

end Client

end NtpQuery
