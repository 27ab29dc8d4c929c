import NtpQuery.EventLog.Basic
import NtpQuery.Json.Parser
import NtpQuery.Sorting.Arrange

/-!
# Reading event logs

A log is read back from the texts of its two files, of which either may be
absent. Lines end with a line feed, a carriage return or both. Every line of
the file of events is a JSON record; the summary is the last line of the other
file that names itself one.

Statistics count the events of each kind and describe the round-trip times.
Records come from anywhere, so a kind or a reason may be any JSON value that
can serve as a key: a text, a number, a truth value or null. Numbers of equal
value are the same key. Lists and objects are no keys.
-/

namespace NtpQuery

/-- The texts of the two files; none for a file that is absent. -/
structure LogFiles where
  eventsText : Option String := none
  summaryText : Option String := none
  deriving Repr, Inhabited

namespace LogFiles

/-- Carriage returns, alone or before a line feed, as line feeds. -/
def withLineFeeds : List Char → List Char
  | '\r' :: '\n' :: rest => '\n' :: withLineFeeds rest
  | '\r' :: rest => '\n' :: withLineFeeds rest
  | c :: rest => c :: withLineFeeds rest
  | [] => []

/-- The lines of a text, without their ends. A text that ends with a line feed
has no empty line behind it. -/
def lines (text : String) : List (List Char) :=
  let parts := Text.split '\n' (withLineFeeds text.toList)
  if parts.getLast? = some [] then parts.dropLast else parts

def parseLine (line : List Char) : Except Failure Json :=
  (Json.parse (String.ofList line)).mapError fun
    | .malformed => .notJson
    | .tooManyDigits => .badValue
    | .tooDeep => .tooDeep

def eventLines (files : LogFiles) : List (List Char) :=
  (files.eventsText.map lines).getD []

/-- All records of the file of events. -/
def events (files : LogFiles) : Except Failure (List Json) :=
  files.eventLines.mapM parseLine

/-- Goes through the records in order. Each has to be an object. -/
def foldEvents {σ : Type} (step : σ → Json → Except Failure σ) (start : σ) :
    List (List Char) → Except Failure σ
  | [] => .ok start
  | line :: rest =>
    match parseLine line with
    | .error failure => .error failure
    | .ok (.object members) =>
      match step start (.object members) with
      | .error failure => .error failure
      | .ok next => foldEvents step next rest
    | .ok _ => .error .missing

def contains (part : List Char) : List Char → Bool
  | [] => part.isEmpty
  | c :: rest => part.isPrefixOf (c :: rest) || contains part rest

def isSummaryLine (line : List Char) : Bool :=
  contains "\"type\":\"summary\"".toList line

/-- The last summary; an empty object when there is none. -/
def lastSummary (files : LogFiles) : Except Failure Json :=
  match (((files.summaryText.map lines).getD []).filter isSummaryLine).getLast? with
  | some line => parseLine line
  | none => .ok (.object [])

def hasType (type : String) (event : Json) : Bool :=
  match event.member? "type" with
  | some (.text t) => t = type
  | _ => false

/-- Whether the value can be a key. -/
def isKey : Json → Bool
  | .list _ | .object _ => false
  | _ => true

/-- Whether the type of an event is equal to a value. A type that is absent is null,
and what is not a number is, by itself, equal to nothing. -/
def isOfType (type event : Json) : Bool :=
  match type with
  | .number (.real .nan) => false
  | _ => Json.same ((event.member? "type").getD .null) type

/-- The records of a type. -/
def eventsOfType (files : LogFiles) (type : Json) : Except Failure (List Json) :=
  (foldEvents (fun found event => .ok (if isOfType type event then event :: found else found)) []
    files.eventLines).map List.reverse

/-- A key as text. -/
def keyText : Json → String
  | .null => "None"
  | .bool b => if b then "True" else "False"
  | .number n => n.toText
  | .text s => s
  | .list _ | .object _ => ""

/-- The member of an event that serves as a key, or `unknown`. -/
def keyOf (name : String) (event : Json) : Except Failure Json :=
  let key := (event.member? name).getD (.text "unknown")
  if isKey key then .ok key else .error .badType

/-- Entries under the texts of their keys; of two with one text the later counts. -/
def textKeys {α : Type} (entries : Mapping Json α) : Mapping String α :=
  Mapping.ofEntries (entries.map fun (key, value) => (keyText key, value))

/-- How often each reason made a query turn a datagram away. -/
def discardReasons (files : LogFiles) : Except Failure (Mapping String Nat) :=
  match files.eventsOfType (.text "discard") with
  | .error failure => .error failure
  | .ok events =>
    (events.foldlM (fun (counts : Mapping Json Nat) event =>
      (keyOf "reason" event).map fun reason =>
        counts.updateBy Json.same reason fun n => n.getD 0 + 1) []).map textKeys

/-- The events of a kind in numbers. -/
structure Tally where
  queries : Nat := 0
  sent : Nat := 0
  received : Nat := 0
  failures : Nat := 0
  deriving DecidableEq, Repr, Inhabited

namespace Tally

def add (tally : Tally) (event : Json) : Tally :=
  if hasType "query" event then { tally with queries := tally.queries + 1 }
  else if hasType "sent" event then { tally with sent := tally.sent + 1 }
  else if hasType "recv" event then { tally with received := tally.received + 1 }
  else if hasType "failure" event then { tally with failures := tally.failures + 1 }
  else tally

def members (tally : Tally) : List (String × Json) :=
  [("queries", .whole tally.queries), ("sent", .whole tally.sent),
   ("received", .whole tally.received), ("failures", .whole tally.failures)]

end Tally

structure Statistics where
  byKind : Mapping Json Tally := []
  total : Tally := {}
  /-- The round-trip times of each kind, newest first. -/
  roundTrips : Mapping Json (List Json) := []
  deriving Repr, Inhabited

/-- The round-trip time that an event holds. -/
def roundTrip? (event : Json) : Option Json :=
  if hasType "recv" event then (event.member? "rtt").filter (!·.isNull) else none

def Statistics.add (statistics : Statistics) (event : Json) : Except Failure Statistics :=
  (keyOf "kind" event).map fun kind =>
    { byKind := statistics.byKind.updateBy Json.same kind fun t => (t.getD {}).add event
      total := statistics.total.add event
      roundTrips :=
        match roundTrip? event with
        | some time =>
          statistics.roundTrips.updateBy Json.same kind fun times => time :: times.getD []
        | none => statistics.roundTrips }

/-- Samples in ascending order. Where one cannot be compared, they are arranged as
far as the others allow. -/
def ascending (samples : List (Number × Json)) : List (Number × Json) :=
  if samples.all fun sample => sample.1.isComparable then
    sortBy (fun a b => a.1.notAbove b.1) samples
  else arrange (fun a b => a.1.less b.1) samples

/-- Mean and median of the round-trip times of a kind, in the order of arrival. -/
def timesRecord (times : List Json) : Except Failure Json :=
  match times.mapM fun time => time.number?.map (·, time) with
  | none => .error .badType
  | some samples =>
    match Number.mean? (samples.map (·.1)) with
    | none => .error .overflow
    | some mean =>
      let record (median : Json) : Json := .object [("mean", .number mean), ("median", median)]
      match middle? (ascending samples) with
      | some (.one (_, time)) => .ok (record time)
      | some (.two (a, _) (b, _)) =>
        match a.halfSum? b with
        | some x => .ok (record (.real x))
        | none => .error .overflow
      | none => .error .badType

/-- The records of the round-trip times, kind by kind. -/
def timesRecords : Mapping Json (List Json) → Except Failure (Mapping Json Json)
  | [] => .ok []
  | (kind, timesRev) :: rest =>
    match timesRecord timesRev.reverse with
    | .error failure => .error failure
    | .ok record => (timesRecords rest).map ((kind, record) :: ·)

/-- The value of a key. -/
def valueOf? {α : Type} (key : Json) (entries : Mapping Json α) : Option α :=
  (entries.find? fun (k, _) => Json.same k key).map (·.2)

/-- What the events are, in numbers. -/
def tallies (files : LogFiles) : Except Failure Statistics :=
  foldEvents Statistics.add {} files.eventLines

/-- The statistics of all events as a record. -/
def statistics (files : LogFiles) : Except Failure Json :=
  match files.tallies with
  | .error failure => .error failure
  | .ok found =>
    (timesRecords found.roundTrips).map fun times =>
      let kinds := found.byKind.map fun (kind, tally) =>
        let rtt := ((valueOf? kind times).map (("rtt", ·))).toList
        (kind, Json.object (tally.members ++ rtt))
      .object [("by_kind", .object (textKeys kinds)), ("total", .object found.total.members)]

end LogFiles

/-- The files as they are on the disk. -/
def EventLog.files (log : EventLog) : LogFiles where
  eventsText := some (fileText log.eventLines)
  summaryText := some (fileText log.summaryLines)

end NtpQuery
