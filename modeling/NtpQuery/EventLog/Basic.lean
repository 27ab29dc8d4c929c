import NtpQuery.Calendar
import NtpQuery.Event
import NtpQuery.EventLog.Directory
import NtpQuery.Json.Printer

/-!
# The event log

A log has two files with one JSON record a line: events and summaries. Events
are buffered and written when the buffer has reached its size, on `flush` and
on `close`; the buffer size therefore decides when a line is written, never
which lines there are. Where no size is given, every event is refused after it
was taken. Summaries are written at once. A closed log still takes events but
can write nothing.

A record with a whole number of too many digits cannot be written. It stays in
the buffer, and so does all that is buffered with it. How much of their text has
reached the file by then is left open: it counts as none.

An event record starts with its type and the time of the monotonic clock. The
two files are in a directory named after the session, which may be a path.
-/

namespace NtpQuery

/-- How many events are buffered at most where no other size is asked for. -/
def EventLog.standardBufferSize : Int := 100

structure EventLog where
  sessionId : String
  /-- How many events are buffered at most; none when no size is given. -/
  bufferSize : Option Int := some EventLog.standardBufferSize
  /-- The monotonic clock at the start. -/
  started : Int := 0
  /-- Records not yet written, newest first. -/
  bufferRev : List Json := []
  /-- Records in the file of events, newest first. -/
  writtenRev : List Json := []
  /-- Records in the file of summaries, newest first. -/
  summariesRev : List Json := []
  /-- How many events were logged. -/
  count : Nat := 0
  closed : Bool := false
  deriving Repr, Inhabited

namespace EventLog

abbrev Members := List (String × Json)

/-- An event record. Data with the name of a leading member replaces it in place. -/
def entry (type : String) (time : Int) (data : Members) : Json :=
  .object (Mapping.putAll data [("type", .text type), ("ts", .whole time)])

def failureEntry (time : Int) (kind : String) (error : QueryError) : Json :=
  entry "failure" time
    [("kind", .text kind), ("error", .text error.kindName), ("message", .text error.message)]

/-- The record of an event. -/
def entryOf (event : TimedEvent) : Json :=
  let time := event.time
  match event.event with
  | .query kind destination retries timeoutMs =>
    entry "query" time
      [("kind", .text kind), ("host", .text destination.host), ("port", .whole destination.port),
       ("retries", .whole retries), ("timeout_ms", .whole timeoutMs)]
  | .sent kind attempt size sequence =>
    entry "sent" time
      [("kind", .text kind), ("attempt", .whole attempt), ("size", .whole size),
       ("seq", sequence.elim .null .whole)]
  | .received kind source size roundTrip =>
    entry "recv" time
      [("kind", .text kind), ("source", .text source.toText), ("size", .whole size),
       ("rtt", .whole roundTrip)]
  | .discarded kind source reason =>
    entry "discard" time
      [("kind", .text kind), ("source", .text source.toText), ("reason", .text reason)]
  | .attemptTimeout kind attempt =>
    entry "attempt_timeout" time [("kind", .text kind), ("attempt", .whole attempt)]
  | .exhausted kind attempts =>
    entry "exhausted" time [("kind", .text kind), ("attempts", .whole attempts)]
  | .failed kind error => failureEntry time kind error
  | .peerFailed error => failureEntry time QueryKind.status.name error
  | .answered kind _ result =>
    entry "result" time [("kind", .text kind), ("result", .object result)]

/-- Writes what is buffered, if all of it can be written. -/
def writeBuffer (log : EventLog) : Except Failure Unit × EventLog :=
  if log.bufferRev.isEmpty then (.ok (), log)
  else if log.closed || !log.bufferRev.all Json.isWritable then (.error .badValue, log)
  else (.ok (), { log with bufferRev := [], writtenRev := log.bufferRev ++ log.writtenRev })

/-- Logs a record. -/
def add (log : EventLog) (record : Json) : Except Failure Unit × EventLog :=
  let log := { log with bufferRev := record :: log.bufferRev, count := log.count + 1 }
  match log.bufferSize with
  | none => (.error .badType, log)
  | some size => if size ≤ log.bufferRev.length then log.writeBuffer else (.ok (), log)

/-- All records that were logged, in order, whether written or not. -/
def records (log : EventLog) : List Json :=
  (log.bufferRev ++ log.writtenRev).reverse

/-- Writing the buffer loses nothing and keeps the order. -/
@[simp] theorem records_writeBuffer (log : EventLog) :
    log.writeBuffer.2.records = log.records := by
  unfold writeBuffer
  split
  · rfl
  · split <;> simp [records]

/-- A record goes behind all that were logged before, also when writing fails. -/
theorem records_add (log : EventLog) (record : Json) :
    (log.add record).2.records = log.records ++ [record] := by
  unfold add
  simp only
  split
  · simp [records]
  · split
    · rw [records_writeBuffer]
      simp [records]
    · simp [records]

def observe (log : EventLog) (event : TimedEvent) : Except Failure Unit × EventLog :=
  log.add (entryOf event)

/-- Names that custom data may not use. -/
def reservedNames : List String := ["event_type", "self"]

/-- Logs an event of any type with data of its own. -/
def addCustom (log : EventLog) (time : Int) (type : String) (data : Members) :
    Except Failure Unit × EventLog :=
  if data.any fun (name, _) => reservedNames.contains name then (.error .badType, log)
  else log.add (entry type time data)

/-- The record of a summary, with the number of events so far. -/
def summaryEntry (sessionId : String) (started time : Int) (date : DateTime) (count : Nat)
    (stats : Json) : Json :=
  .object
    [("type", .text "summary"), ("session_id", .text sessionId),
     ("end_timestamp", .text date.iso), ("duration_ms", .whole (time - started)),
     ("total_events", .whole count), ("stats", stats)]

/-- Writes a summary at the given time, with the wall clock in ms. -/
def addSummary (log : EventLog) (time wallMs : Int) (stats : Json) :
    Except Failure Unit × EventLog :=
  match DateTime.ofUnixMs? wallMs with
  | none => (.error .overflow, log)
  | some date =>
    let record := summaryEntry log.sessionId log.started time date log.count stats
    if log.closed || !record.isWritable then (.error .badValue, log)
    else (.ok (), { log with summariesRev := record :: log.summariesRev })

def flush (log : EventLog) : Except Failure Unit × EventLog :=
  match log.writeBuffer with
  | (.error failure, log) => (.error failure, log)
  | (.ok _, log) => if log.closed then (.error .badValue, log) else (.ok (), log)

def close (log : EventLog) : Except Failure Unit × EventLog :=
  match log.flush with
  | (.error failure, log) => (.error failure, log)
  | (.ok _, log) => (.ok (), { log with closed := true })

/-- The lines of the file of events. -/
def eventLines (log : EventLog) : List String :=
  (log.writtenRev.map Json.print).reverse

/-- The lines of the file of summaries. -/
def summaryLines (log : EventLog) : List String :=
  (log.summariesRev.map Json.print).reverse

/-- The content of a file with these lines. -/
def fileText (lines : List String) : String :=
  String.join (lines.map (· ++ "\n"))

/-- The name of a new log session, from the wall clock and a random number. -/
def newSessionId (label : String) (wallMs random : Int) : Except Failure String :=
  match DateTime.ofUnixMs? wallMs with
  | none => .error .overflow
  | some date => .ok (label ++ "_" ++ date.compact ++ "_" ++ toString random)

/-- The log of a new session in a directory for all logs. -/
def create (root sessionId : String) (bufferSize : Option Int) (now : Int) :
    Except Failure EventLog :=
  match pathFailure? root sessionId with
  | some failure => .error failure
  | none => .ok { sessionId, bufferSize, started := now }

end EventLog

end NtpQuery
