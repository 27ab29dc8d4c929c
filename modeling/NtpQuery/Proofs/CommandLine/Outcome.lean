import NtpQuery.CommandLine.Command
import NtpQuery.Proofs.Client.Conclusion
import NtpQuery.Proofs.EventLog.Recording

/-!
# What a command leaves behind

A command that ends with a code has run its query, closed the session and
finished its log. The code tells whether the query returned; what is printed is
its result or its error and nothing else. Either way the log is complete: its
summary tells as many events as there are lines, and it shows the metrics with
which the client ended.
-/

namespace NtpQuery

/-- The log of a record is given each event in turn. -/
theorem Record.log_eq_actAll (record : Record) (events : List TimedEvent) :
    (record.observeAll events).log = record.log.map fun log => log.actAll (events.map .note) := by
  induction events generalizing record with
  | nil => exact Option.map_id'.symm
  | cons event events ih =>
    rw [observeAll_cons, ih, observe, Option.map_map]
    rfl

/-- The sums over the kinds that a snapshot shows. -/
theorem Metrics.total_snapshot {metrics : Metrics} {now : Int} {shown : Json}
    (h : metrics.snapshot now = .ok shown) :
    shown.at? ["total", "queries"] = some (.whole (metrics.total (·.queries))) ∧
      shown.at? ["total", "succeeded"] = some (.whole (metrics.total (·.succeeded))) := by
  rw [snapshot] at h
  cases kinds : kindRecords metrics.kinds with
  | error failure => simp [kinds, Except.map] at h
  | ok records =>
    simp only [kinds, Except.map] at h
    rw [← Except.ok.inj h]
    exact ⟨rfl, rfl⟩

namespace CommandLine

/-- What a query of a kind returns, as entries. -/
def asked (client : Client) (kind : QueryKind) (request : Request) :
    Except Failure (List (String × Json)) :=
  match kind with
  | .time => (client.queryTime request).1.map TimeResult.entries
  | .status => (client.queryStatus request).1.map Client.textMembers

theorem perform_ofKind (client : Client) (kind : QueryKind) (request : Request) :
    (client.perform (.ofKind kind request)).1 = (asked client kind request).map fun _ => () := by
  cases kind with
  | time =>
    show (client.queryTime request).1.map _ = ((client.queryTime request).1.map _).map _
    cases (client.queryTime request).1 <;> rfl
  | status =>
    show (client.queryStatus request).1.map _ = ((client.queryStatus request).1.map _).map _
    cases (client.queryStatus request).1 <;> rfl

theorem runQuery_eq {client : Client} {options : Options} {timeoutMs : Option Int}
    {request : Request} (requested : options.request timeoutMs = .ok request) :
    runQuery client options timeoutMs = (asked client options.kind request,
      (client.perform (.ofKind options.kind request)).2) := by
  rw [runQuery, requested]
  cases options.kind <;> rfl

theorem printed_ok {result : Except Failure (List (String × Json))} {shown : Printed}
    (h : printed result = .ok shown) :
    (∃ entries, result = .ok entries ∧ shown = { stdout := resultLines entries }) ∨
      ∃ error, result = .error (.reported error) ∧ error.isQueryFailure = true ∧
        shown = { stderr := error.message ++ "\n", code := 1 } := by
  unfold printed at h
  split at h
  · exact .inl ⟨_, rfl, (Except.ok.inj h).symm⟩
  · split at h
    · rename_i failed
      exact .inr ⟨_, rfl, failed, (Except.ok.inj h).symm⟩
    · simp at h
  · simp at h

/-- The code tells how the query ended, and what is printed is its result or its error. -/
structure Printed.Tells (shown : Printed) (result : Except Failure (List (String × Json))) :
    Prop where
  zero : shown.code = 0 ↔ ∃ entries, result = .ok entries
  one : shown.code = 1 ↔ ∃ error, result = .error (.reported error) ∧ error.isQueryFailure = true
  entries : ∀ entries, result = .ok entries → shown.stderr = "" ∧
    shown.stdout =
      String.join (entries.map fun (key, value) => key ++ " " ++ valueText value ++ "\n")
  error : ∀ error, result = .error (.reported error) →
    shown.stdout = "" ∧ shown.stderr = error.message ++ "\n"

theorem tells_printed {result : Except Failure (List (String × Json))} {shown : Printed}
    (h : printed result = .ok shown) : shown.Tells result := by
  rcases printed_ok h with ⟨entries, rfl, rfl⟩ | ⟨error, rfl, failed, rfl⟩
  · refine ⟨by simp, by simp, ?_, by simp⟩
    rintro _ same
    obtain rfl := Except.ok.inj same
    exact ⟨rfl, rfl⟩
  · refine ⟨by simp, ?_, by simp, ?_⟩
    · exact ⟨fun _ => ⟨error, rfl, failed⟩, fun _ => rfl⟩
    · rintro _ same
      obtain rfl := Failure.reported.inj (Except.error.inj same)
      exact ⟨rfl, rfl⟩

/-- Whether an outcome is that an address is refused. -/
def isAddressError {α : Type} : Except Failure α → Bool
  | .error (.reported (.address _)) => true
  | _ => false

/-- The log of a command: its file has the records of the client, and its only summary tells their
number and shows the metrics of the client. -/
structure Complete (log : EventLog) (client : Client)
    (result : Except Failure (List (String × Json))) : Prop where
  lines : ∀ kept ∈ client.record.log,
    log.files.eventLines = kept.records.map fun record => record.print.toList
  summary : ∃ date stats, client.record.metrics.snapshot client.now = .ok stats ∧
    log.files.summaryText.map LogFiles.lines =
      some [(EventLog.summaryEntry log.sessionId log.started client.now date
        log.files.eventLines.length stats).print.toList] ∧
    stats.at? ["total", "succeeded"] = some (.whole (if result.toBool then 1 else 0)) ∧
    stats.at? ["total", "queries"] = some (.whole (if isAddressError result then 0 else 1))

variable {client : Client} {kind : QueryKind} {request : Request}

theorem asked_eq_error {failure : Failure} :
    asked client kind request = .error failure ↔
      (client.perform (.ofKind kind request)).1 = .error failure := by
  rw [perform_ofKind]
  cases asked client kind request <;> simp [Except.map]

/-- An option without its value is the only mistake that is left in the options. -/
theorem request_error {options : Options} {timeoutMs : Option Int} {failure : Failure}
    (h : options.request timeoutMs = .error failure) : failure = .badType := by
  rw [Options.request] at h
  cases retries : options.retries with
  | empty =>
    simp [retries, Setting.value?] at h
    exact h.symm
  | _ =>
    cases port : options.port with
    | empty =>
      simp [retries, port, Setting.value?] at h
      exact h.symm
    | _ => simp [retries, port, Setting.value?] at h

/-- A query whose end is told was accepted, unless its address was refused. -/
theorem accept_of_printed {shown : Printed}
    (told : printed (asked client kind request) = .ok shown) :
    (client.accept request).toBool = !isAddressError (asked client kind request) := by
  cases accepted : client.accept request with
  | ok accepts =>
    rcases printed_ok told with ⟨entries, returned, -⟩ | ⟨error, failed, -, -⟩
    · rw [returned]
      rfl
    · rw [← Call.request_ofKind kind request] at accepted
      rw [failed]
      rcases Client.reported_perform accepted (asked_eq_error.mp failed) with
        rfl | ⟨refusal, message, rfl⟩
      · rfl
      · cases refusal <;> rfl
  | error failure =>
    have failed : asked client kind request = .error failure := by
      rw [← Call.request_ofKind kind request] at accepted
      rw [asked_eq_error, Client.perform_of_refused accepted]
    rw [failed] at told ⊢
    rcases Client.accept_error accepted with ⟨message, rfl, -⟩ | ⟨message, rfl⟩
    · simp [printed, QueryError.isQueryFailure] at told
    · rfl

/-- A fresh client has counted its only query, unless the address was refused. -/
theorem total_asked {network : Network} {kept : Option EventLog} {shown : Printed}
    (told : printed (asked (.onNetwork network kept) kind request) = .ok shown) :
    ((Client.onNetwork network kept).perform (.ofKind kind request)).2.total .succeeded =
        (if (asked (.onNetwork network kept) kind request).toBool then 1 else 0) ∧
      ((Client.onNetwork network kept).perform (.ofKind kind request)).2.total .queries =
        if isAddressError (asked (.onNetwork network kept) kind request) then 0 else 1 := by
  have counted : (Client.onNetwork network kept).Counted (.ofKind kind request) :=
    Client.counted_perform (by rfl) _
  have accepted := accept_of_printed told
  constructor
  · rw [counted.succeeded, perform_ofKind]
    cases asked (.onNetwork network kept) kind request <;> rfl
  · rw [counted.queries, Call.request_ofKind, accepted]
    cases isAddressError (asked (.onNetwork network kept) kind request) <;> rfl

/-- A log that is finished has its records and one summary more. -/
theorem finishLog_ok {log finished : EventLog} (isOpen : log.closed = false)
    (h : finishLog client log = (.ok (), finished)) :
    ∃ date stats, client.record.metrics.snapshot client.now = .ok stats ∧
      finished.sessionId = log.sessionId ∧ finished.started = log.started ∧
      finished.writtenRev = log.records.reverse ∧
      finished.summariesRev =
        EventLog.summaryEntry log.sessionId log.started client.now date log.count stats ::
          log.summariesRev := by
  rw [finishLog] at h
  cases shown : client.record.metrics.snapshot client.now with
  | error failure => simp [shown] at h
  | ok stats =>
    rcases log.addSummary_cases client.now client.network.wallMs stats with
      ⟨date, -, written⟩ | ⟨failure, refused⟩
    · simp only [shown, written] at h
      generalize summed : { log with summariesRev := _ } = next at h
      have open' : next.closed = false := by rw [← summed]; exact isOpen
      obtain ⟨closes, rfl⟩ := Prod.ext_iff.mp h
      have kept := next.extends_close
      refine ⟨date, stats, rfl, ?_, ?_, ?_, ?_⟩
      · rw [kept.sessionId, ← summed]
      · rw [kept.started, ← summed]
      · rw [(EventLog.close_spec open').2 closes, ← summed]
        rfl
      · exact (next.summariesRev_act (rfl : EventLog.Act.close.isSummary = false)).trans (by rw [← summed])
    · simp [shown, refused] at h

theorem openLog_none {options : Options} {network : Network}
    (h : openLog options network = .ok none) :
    ¬ ∃ root, options.logDir = some root ∧ root ≠ "" := by
  rintro ⟨root, named, nonempty⟩
  simp only [openLog, named, String.isEmpty_iff, nonempty, if_false] at h
  split at h
  · simp at h
  · rw [EventLog.create] at h
    split at h
    · simp [Except.map] at h
    · simp [Except.map] at h

theorem openLog_some {options : Options} {network : Network} {opened : LoggedSession}
    (h : openLog options network = .ok (some opened)) :
    options.logDir = some opened.root ∧ opened.root ≠ "" ∧ ∃ sessionId,
      opened.log = { sessionId, bufferSize := some EventLog.standardBufferSize,
                     started := network.clock } := by
  rw [openLog] at h
  split at h
  · simp at h
  · rename_i root named
    split at h
    · simp at h
    · rename_i nonempty
      split at h
      · simp at h
      · rename_i sessionId _
        rw [EventLog.create] at h
        split at h
        · simp [Except.map] at h
        · obtain rfl := Option.some.inj (Except.ok.inj h)
          exact ⟨named, by simpa using nonempty, sessionId, rfl⟩

/-- A client that is finished with a code, and the log that it leaves. -/
theorem runClient_ok {root : String} {options : Options} {timeoutMs : Option Int}
    {shown : Printed} (h : (runClient client root options timeoutMs).result = .ok shown) :
    printed (runQuery client options timeoutMs).1 = .ok shown ∧
      (runClient client root options timeoutMs).logged =
        (runQuery client options timeoutMs).2.close.2.record.log.map (fun log =>
          { root, log := (finishLog (runQuery client options timeoutMs).2.close.2 log).2 }) ∧
      ∀ log ∈ (runQuery client options timeoutMs).2.close.2.record.log,
        (finishLog (runQuery client options timeoutMs).2.close.2 log).1 = .ok () := by
  unfold runClient at h ⊢
  generalize runQuery client options timeoutMs = ran at h ⊢
  obtain ⟨result, next⟩ := ran
  simp only at h ⊢
  generalize next.close = ended at h ⊢
  obtain ⟨closed, last⟩ := ended
  simp only at h ⊢
  cases closed with
  | error failure => simp at h
  | ok done =>
    cases kept : last.record.log with
    | none =>
      simp only [kept] at h ⊢
      exact ⟨h, rfl, by simp⟩
    | some log =>
      simp only [kept] at h ⊢
      cases finished : (finishLog last log).1 with
      | error failure => simp [finished] at h
      | ok done =>
        simp only [finished] at h
        exact ⟨h, rfl, by simp [finished]⟩

/-- A query gives its events to the log, if there is one. -/
theorem log_perform (client : Client) (call : Call) :
    ∃ events : List TimedEvent, (client.perform call).2.record.log =
      client.record.log.map fun log => log.actAll (events.map .note) := by
  obtain ⟨events, account⟩ := client.account_perform call
  exact ⟨events, by rw [account.record, Record.log_eq_actAll]⟩

/-- The log of a client that has made a query with a new log. -/
theorem fresh_perform (network : Network) {opened : EventLog} (call : Call)
    (fresh : opened = { sessionId := opened.sessionId, bufferSize := opened.bufferSize,
                        started := opened.started }) :
    ∃ log, ((Client.onNetwork network (some opened)).perform call).2.record.log = some log ∧
      log.closed = false ∧ log.sessionId = opened.sessionId ∧
      log.count = log.records.length ∧ log.summariesRev = [] := by
  obtain ⟨events, given⟩ := log_perform (.onNetwork network (some opened)) call
  have goesOn : ∀ act ∈ events.map EventLog.Act.note, act ≠ .close := by simp
  have others : ∀ act ∈ events.map EventLog.Act.note, act.isSummary = false := by
    simp [EventLog.Act.isSummary]
  have logged := opened.extends_actAll (events.map .note)
  refine ⟨_, given, ?_, logged.sessionId, ?_, ?_⟩
  · rw [opened.closed_actAll goesOn, fresh]
  · rw [logged.count, logged.records, fresh]
    simp [EventLog.records]
  · rw [opened.summariesRev_actAll others, fresh]

theorem complete_finishLog {log last : EventLog}
    {result : Except Failure (List (String × Json))} (isOpen : log.closed = false)
    (count : log.count = log.records.length) (alone : log.summariesRev = [])
    (kept : client.record.log = some log) (finished : finishLog client log = (.ok (), last))
    (succeeded : client.total .succeeded = if result.toBool then 1 else 0)
    (queries : client.total .queries = if isAddressError result then 0 else 1) :
    last.sessionId = log.sessionId ∧ Complete last client result := by
  obtain ⟨date, stats, snapshot, session, start, written, summaries⟩ := finishLog_ok isOpen finished
  have lines : last.files.eventLines = log.records.map fun record => record.print.toList := by
    rw [EventLog.eventLines_files, written, List.reverse_reverse]
  have totals := Metrics.total_snapshot snapshot
  refine ⟨session, ?_, date, stats, snapshot, ?_, ?_, ?_⟩
  · intro other mem
    obtain rfl := Option.some.inj (kept.symm.trans mem)
    exact lines
  · rw [lines, List.length_map, ← count, session, start, EventLog.files, EventLog.summaryLines,
      summaries, alone]
    exact congrArg some (LogFiles.lines_print [_])
  · rw [totals.2]
    show some (Json.whole ((client.total .succeeded : Nat) : Int)) = _
    rw [succeeded]
    split <;> rfl
  · rw [totals.1]
    show some (Json.whole ((client.total .queries : Nat) : Int)) = _
    rw [queries]
    split <;> rfl

/-- A command that ends with a code has read its options, opened its log and run its query. -/
theorem run_ok {arguments : List String} {network : Network} {options : Options}
    {shown : Printed} (parsed : Options.read arguments = .ok options)
    (returned : (run arguments network).result = .ok shown) :
    ∃ timeoutMs request opened, options.timeoutMs = .ok timeoutMs ∧
      options.request timeoutMs = .ok request ∧ openLog options network = .ok opened ∧
      run arguments network = runClient (.onNetwork network (opened.map (·.log)))
        (opened.elim "" (·.root)) options timeoutMs := by
  rw [run, parsed] at returned ⊢
  cases timeout : options.timeoutMs with
  | error failure => simp [timeout] at returned
  | ok timeoutMs =>
    cases logged : openLog options network with
    | error failure => simp [timeout, logged] at returned
    | ok opened =>
      simp only [timeout, logged] at returned ⊢
      cases requested : options.request timeoutMs with
      | error failure =>
        obtain ⟨told, -, -⟩ := runClient_ok returned
        obtain rfl := request_error requested
        rw [runQuery, requested] at told
        simp [printed] at told
      | ok request => exact ⟨timeoutMs, request, opened, rfl, requested, rfl, rfl⟩

/-- The code of a command tells how its query ended. Whatever the code, the log is complete. -/
theorem outcome_run (arguments : List String) (network : Network) (options : Options)
    (shown : Printed) (parsed : Options.read arguments = .ok options ∧ options.verbose = false)
    (returned : (run arguments network).result = .ok shown) :
    ∃ timeoutMs request opened, options.timeoutMs = .ok timeoutMs ∧
      options.request timeoutMs = .ok request ∧ openLog options network = .ok opened ∧
      let client := Client.onNetwork network (opened.map (·.log))
      let result := asked client options.kind request
      let last := (client.perform (.ofKind options.kind request)).2.close.2
      shown.Tells result ∧
      (opened.isSome ↔ ∃ root, options.logDir = some root ∧ root ≠ "") ∧
      (opened = none → (run arguments network).logged = none) ∧
      ∀ session, opened = some session → ∃ log,
        (run arguments network).logged = some { session with log } ∧
        log.sessionId = session.log.sessionId ∧ Complete log last result := by
  obtain ⟨timeoutMs, request, opened, timeout, requested, logged, ran⟩ :=
    run_ok parsed.1 returned
  rw [ran] at returned ⊢
  obtain ⟨told, left, finished⟩ := runClient_ok returned
  rw [runQuery_eq requested] at told left finished
  refine ⟨timeoutMs, request, opened, timeout, requested, logged, tells_printed told, ?_, ?_, ?_⟩
  · cases opened with
    | none => simpa using openLog_none logged
    | some session =>
      obtain ⟨named, nonempty, -⟩ := openLog_some logged
      simpa [named] using nonempty
  · rintro rfl
    obtain ⟨events, given⟩ := log_perform (.onNetwork network none) (.ofKind options.kind request)
    have unlogged : ((Client.onNetwork network none).perform
        (.ofKind options.kind request)).2.close.2.record.log = none := given
    rw [left]
    exact congrArg _ unlogged
  · rintro session rfl
    obtain ⟨-, -, sessionId, fresh⟩ := openLog_some logged
    obtain ⟨log, kept, isOpen, same, count, alone⟩ :=
      fresh_perform network (.ofKind options.kind request)
        (by rw [fresh] : session.log = _)
    have closed : ((Client.onNetwork network (some session.log)).perform
        (.ofKind options.kind request)).2.close.2.record.log = some log := kept
    obtain ⟨succeeded, queries⟩ := total_asked told
    obtain ⟨unchanged, complete⟩ := complete_finishLog isOpen count alone closed
      (Prod.ext (finished log closed) rfl) succeeded queries
    refine ⟨_, ?_, unchanged.trans same, complete⟩
    rw [left]
    exact congrArg (Option.map _) closed

/-- A time query that is answered, with a log. -/
theorem outcome_run_answered :
    let arguments :=
      ["--log-dir", "logs", "--retries", "0", "--port", "12300", "time", "127.0.0.1"]
    let network : Network := { station := some { endpoint := ⟨"127.0.0.1", 12300⟩ } }
    let shown : Printed :=
      { stdout := "time 1700000000\noffset 0.000000\ndelay 0.000000\nstratum 2\n" ++
          "precision -20\nrefid 192.168.1.1\n" }
    (run arguments network).result = .ok shown ∧ ∃ client log entries,
      (run arguments network).logged = some { root := "logs", log } ∧
        shown.Tells (.ok entries) ∧ Complete log client (.ok entries) := by
  intro arguments network shown
  have parsed : Options.read arguments = .ok
      { retries := .value 0, port := .value 12300, logDir := some "logs", kind := .time,
        host := "127.0.0.1" } := by
    decide +kernel
  have returned : (run arguments network).result = .ok shown := by decide +kernel
  obtain ⟨timeoutMs, request, opened, -, -, opens, tells, named, -, logged⟩ :=
    outcome_run arguments network _ shown ⟨parsed, rfl⟩ returned
  obtain ⟨session, rfl⟩ := Option.isSome_iff_exists.mp (named.mpr ⟨"logs", rfl, by decide⟩)
  obtain ⟨log, left, -, complete⟩ := logged session rfl
  obtain ⟨entries, answered⟩ := tells.zero.mp rfl
  rw [answered] at tells complete
  obtain ⟨root, -, -⟩ := openLog_some opens
  refine ⟨returned, _, log, entries, ?_, tells, complete⟩
  rw [left, Option.some.inj root]

end CommandLine

end NtpQuery
