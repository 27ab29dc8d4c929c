import NtpQuery.Binary64.Fixed
import NtpQuery.CommandLine.Command

/-!
# Loopback checks

Each check runs one status and one time query against a fresh responder on the
local machine and tells how they went, how many requests the responder saw and
how many datagrams the client turned away. All checks share one event log,
whose summary holds their results; a table of the results is printed.
-/

namespace NtpQuery.Loopback

structure Scenario where
  name : String
  config : ResponderConfig := {}
  deriving Repr

/-- The checks that are always run. -/
def scenarios : List Scenario :=
  [⟨"clean", {}⟩,
   ⟨"drop-first-two", { dropFirst := 2 }⟩,
   ⟨"stale-sequence", { staleFirst := true }⟩,
   ⟨"short-datagram", { shortFirst := true }⟩,
   ⟨"silent-peer", { answerPeer := false }⟩,
   ⟨"stratum-1", { stratum := 1, refId := [71, 80, 83, 0], clockOffset := 3 }⟩]

structure Result where
  scenario : String
  status : String
  peer : String
  time : String
  requests : Int
  discarded : Int
  deriving DecidableEq, Repr

namespace Result

def record (result : Result) : Json :=
  .object
    [("scenario", .text result.scenario), ("status", .text result.status),
     ("peer", .text result.peer), ("time", .text result.time),
     ("requests", .whole result.requests), ("discarded", .whole result.discarded)]

def row (scenario status peer requests discarded time : String) : String :=
  Text.padRight 16 scenario ++ " " ++ Text.padRight 18 status ++ " " ++
    Text.padLeft 5 peer ++ " " ++ Text.padLeft 5 requests ++ " " ++
    Text.padLeft 5 discarded ++ "  " ++ time ++ "\n"

end Result

def rule (c : Char) : String :=
  String.ofList (List.replicate 78 c) ++ "\n"

/-- The table of results. -/
def table (results : List Result) : String :=
  "\n" ++ rule '=' ++ "  ntpq Loopback Checks\n" ++ rule '=' ++ "\n" ++
    Result.row "Scenario" "Status" "Peer" "Reqs" "Disc" "Time" ++ rule '-' ++
    String.join (results.map fun r =>
      Result.row r.scenario r.status r.peer (toString r.requests) (toString r.discarded) r.time)

/-- What a status query shows: the number of variables and whether there are any of a peer. -/
def statusText (result : Except QueryError (Mapping String String)) : String × String :=
  match result with
  | .ok known =>
    let peer := known.any fun (key, _) => "peer.".toList.isPrefixOf key.toList
    (toString known.length ++ " vars", if peer then "yes" else "no")
  | .error error => (error.message, "-")

def timeText (result : Except QueryError TimeResult) : String :=
  match result with
  | .ok result => "offset=" ++ result.offset.toSignedFixed 1 ++ "s refid=" ++ result.refid
  | .error error => error.message

/-- The answer or the query error of a query; none for any other failure. -/
def reported {α : Type} : Except Failure α → Except Failure (Except QueryError α)
  | .ok a => .ok (.ok a)
  | .error (.reported error) => .ok (.error error)
  | .error failure => .error failure

/-- The budget of the queries. -/
def budget : Budget := { Budget.standard with retries := 3 }

/-- The two queries of a check, one after the other, and the end of the session. -/
def runQueries (client : Client) (endpoint : Endpoint) :
    Except Failure ((String × String) × String) × Client :=
  let request : Request := { host := endpoint.host, port := endpoint.port }
  let (status, client) := client.queryStatus request
  match reported status with
  | .error failure =>
    match client.close with
    | (.error failure, client) => (.error failure, client)
    | (.ok _, client) => (.error failure, client)
  | .ok status =>
    let (time, client) := client.queryTime request
    match client.close with
    | (.error failure, client) => (.error failure, client)
    | (.ok _, client) =>
      match reported time with
      | .error failure => (.error failure, client)
      | .ok time => (.ok (statusText status, timeText time), client)

def discardedTotal (metrics : Metrics) : Nat :=
  metrics.total fun stats => stats.discarded.foldr (fun (_, count) sum => count + sum) 0

/-- Runs a check. The times are those of the way to the responder and back. -/
def runScenario (scenario : Scenario) (upMs downMs : Int) (log : EventLog) (net : Network) :
    Except Failure Result × EventLog × Network :=
  let (port, net) := net.assignPort
  let endpoint : Endpoint := ⟨"127.0.0.1", port⟩
  let net := { net with station := some { endpoint, config := scenario.config, upMs, downMs } }
  let client := { Client.onNetwork net (some log) with defaults := budget }
  let (outcome, client) := runQueries client endpoint
  let seen := client.network.station.elim 0 (·.stats.seen)
  let result := outcome.map fun ((status, peer), time) =>
    { scenario := scenario.name, status, peer, time
      requests := seen
      discarded := discardedTotal client.record.metrics }
  (result, client.record.log.getD log, { client.network with station := none })

def runScenarios : List Scenario → EventLog → Network →
    Except Failure (List Result) × EventLog × Network
  | [], log, net => (.ok [], log, net)
  | scenario :: rest, log, net =>
    match runScenario scenario 0 0 log net with
    | (.error failure, log, net) => (.error failure, log, net)
    | (.ok result, log, net) =>
      let (results, log, net) := runScenarios rest log net
      (results.map (result :: ·), log, net)

/-- The name of the log session of all checks. -/
def sessionId (net : Network) : Except Failure String :=
  match DateTime.ofUnixMs? net.wallMs with
  | none => .error .overflow
  | some date => .ok ("Loopback_" ++ date.compact)

/-- All checks with their printed table and their log. -/
structure Report where
  results : List Result
  stdout : String
  log : EventLog

/-- Runs all checks. -/
def runAll (net : Network) : Except Failure Report :=
  match sessionId net with
  | .error failure => .error failure
  | .ok sessionId =>
    match runScenarios scenarios { sessionId, started := net.clock } net with
    | (.error failure, _, _) => .error failure
    | (.ok results, log, net) =>
      let stats : Json := .object [("scenarios", .list (results.map Result.record))]
      match log.addSummary net.clock net.wallMs stats with
      | (.error failure, _) => .error failure
      | (.ok _, log) =>
        match log.close with
        | (.error failure, _) => .error failure
        | (.ok _, log) =>
          .ok
            { results, log
              stdout := table results ++ "\nLog: logs/" ++ sessionId ++ "\n" }

end NtpQuery.Loopback
