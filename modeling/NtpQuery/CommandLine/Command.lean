import NtpQuery.CommandLine.Options

/-!
# Commands

A command runs one query with a client of its own. The result is printed line
by line, a query error is printed instead and gives exit code 1, and arguments
that are refused give exit code 2. Where a log directory is named, the query
is logged in a new session there; at the end the session is closed, the
statistics are written as its summary and the log is closed. When closing the
session fails, nothing of that is written.
-/

namespace NtpQuery.CommandLine

/-- What a program prints and the code it ends with. -/
structure Printed where
  stdout : String := ""
  stderr : String := ""
  code : Nat := 0
  deriving DecidableEq, Repr

/-- An event log and the directory below which its session is. -/
structure LoggedSession where
  root : String
  log : EventLog

/-- What a command leaves behind. -/
structure Outcome where
  result : Except Failure Printed
  network : Network
  logged : Option LoggedSession := none

/-- A value of a result as it is printed. -/
def valueText : Json → String
  | .text s => s
  | .number n => n.toText
  | value => value.print

/-- One line for each entry: key, blank, value. -/
def resultLines (entries : List (String × Json)) : String :=
  String.join (entries.map fun (key, value) => key ++ " " ++ valueText value ++ "\n")

/-- Runs the query that the options ask for. -/
def runQuery (client : Client) (options : Options) (timeoutMs : Option Int) :
    Except Failure (List (String × Json)) × Client :=
  match options.request timeoutMs, options.kind with
  | .error failure, _ => (.error failure, client)
  | .ok request, .time =>
    let (result, client) := client.queryTime request
    (result.map TimeResult.entries, client)
  | .ok request, .status =>
    let (result, client) := client.queryStatus request
    (result.map Client.textMembers, client)

/-- What is printed for the end of a query. A failure that no query reports is
no answer to the user. -/
def printed (result : Except Failure (List (String × Json))) : Except Failure Printed :=
  match result with
  | .ok entries => .ok { stdout := resultLines entries }
  | .error (.reported error) =>
    if error.isQueryFailure then .ok { stderr := error.message ++ "\n", code := 1 }
    else .error (.reported error)
  | .error failure => .error failure

/-- Writes the summary and closes the log. -/
def finishLog (client : Client) (log : EventLog) : Except Failure Unit × EventLog :=
  match client.record.metrics.snapshot client.now with
  | .error failure => (.error failure, log)
  | .ok stats =>
    match log.addSummary client.now client.network.wallMs stats with
    | (.error failure, log) => (.error failure, log)
    | (.ok _, log) => log.close

/-- Runs the query of a client, closes the session and finishes the log. -/
def runClient (client : Client) (root : String) (options : Options) (timeoutMs : Option Int) :
    Outcome :=
  let (result, client) := runQuery client options timeoutMs
  let (closed, client) := client.close
  let session (log : EventLog) : LoggedSession := { root, log }
  match closed, client.record.log with
  | .error failure, log =>
    { result := .error failure, network := client.network, logged := log.map session }
  | .ok _, none => { result := printed result, network := client.network }
  | .ok _, some log =>
    let (finished, log) := finishLog client log
    { result := match finished with
        | .error failure => .error failure
        | .ok _ => printed result
      network := client.network
      logged := some (session log) }

/-- The event log that the options ask for. An empty directory asks for none. -/
def openLog (options : Options) (network : Network) : Except Failure (Option LoggedSession) :=
  match options.logDir with
  | none => .ok none
  | some root =>
    if root.isEmpty then .ok none
    else
      match EventLog.newSessionId "ntpq" network.wallMs network.random with
      | .error failure => .error failure
      | .ok sessionId =>
        (EventLog.create root sessionId (some EventLog.standardBufferSize) network.clock).map
          fun log => some { root, log }

/-- Runs the program with its arguments. -/
def run (arguments : List String) (network : Network) : Outcome :=
  match Options.read arguments with
  | .error .help => { result := .ok {}, network }
  | .error (.refused program message) =>
    { result := .ok { stderr := program ++ ": error: " ++ message ++ "\n", code := 2 }, network }
  | .ok options =>
    match options.timeoutMs, openLog options network with
    | .error failure, _ => { result := .error failure, network }
    | .ok _, .error failure => { result := .error failure, network }
    | .ok timeoutMs, .ok logged =>
      let client := Client.onNetwork network (logged.map (·.log))
      runClient client (logged.elim "" (·.root)) options timeoutMs

end NtpQuery.CommandLine
