import NtpQuery.CommandLine.Command

/-!
# The program

Runs the command line on a simulated local network. The only host on it is the
built-in responder, which answers on the local address at the standard port.
Event logs are written below the directory that the options name.
-/

namespace NtpQuery.Main

/-- The local network: one responder, known by address and by name. -/
def localNetwork (clock random : Int) : Network where
  clock := clock
  hosts := [("localhost", .addresses ["127.0.0.1"])]
  random := random
  station := some { endpoint := ⟨"127.0.0.1", standardPort⟩ }

def writeLog (session : CommandLine.LoggedSession) : IO Unit := do
  let directory := session.root ++ "/" ++ EventLog.directory session.log.sessionId
  IO.FS.createDirAll directory
  IO.FS.writeFile (directory ++ "/events.jsonl") (EventLog.fileText session.log.eventLines)
  IO.FS.writeFile (directory ++ "/summary.jsonl") (EventLog.fileText session.log.summaryLines)

end NtpQuery.Main

def main (arguments : List String) : IO UInt32 := do
  let clock ← IO.monoMsNow
  let random ← IO.rand 1000 9999
  let outcome := NtpQuery.CommandLine.run arguments (NtpQuery.Main.localNetwork clock random)
  match outcome.logged with
  | some session => NtpQuery.Main.writeLog session
  | none => pure ()
  match outcome.result with
  | .ok printed =>
    IO.print printed.stdout
    IO.eprint printed.stderr
    return UInt32.ofNat printed.code
  | .error _ =>
    IO.eprintln "ntpq: the query could not be carried out"
    return 1
