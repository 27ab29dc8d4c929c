import NtpQuery.Proofs.Client.Legibility
import NtpQuery.Proofs.EventLog.Replay

/-!
# The log of a client replays to its metrics

Metrics are counted while queries run, the log is written and can be read later.
Both are made from the same events, so whoever counts the records of the closed
log arrives at the counters of the metrics, for each kind of query and for all
of them, and at the same reasons for which datagrams were turned away.

A log with a number that is too long to be written cannot be closed, and every
other can. This takes a budget with such a number. By the clocks of a machine
all else is in the range of the doubles, round-trip times with their means and
medians among it.
-/

namespace NtpQuery

/-- The counters of a kind as a log counts them. -/
def KindStats.tally (stats : KindStats) : LogFiles.Tally where
  queries := stats.queries
  sent := stats.sent
  received := stats.received
  failures := stats.noResponse + stats.transportErrors + stats.peerFailures

/-- The counters of all kinds as a log counts them. -/
def Metrics.tally (metrics : Metrics) : LogFiles.Tally where
  queries := metrics.total (·.queries)
  sent := metrics.total (·.sent)
  received := metrics.total (·.received)
  failures := metrics.total (·.noResponse) + metrics.total (·.transportErrors) +
    metrics.total (·.peerFailures)

/-- The statistics of a log show the counters of metrics: in all, and of each kind together with
its times. A kind without events is not shown. -/
structure Json.Shows (shown : Json) (metrics : Metrics) : Prop where
  kinds : ∀ kind : QueryKind,
    shown.at? ["by_kind", kind.name] = none ∧ (metrics.kind kind.name).tally = {} ∨
      ∃ times, shown.at? ["by_kind", kind.name] =
        some (.object ((metrics.kind kind.name).tally.members ++ times))
  total : shown.at? ["total"] = some (.object metrics.tally.members)

/-- The statistics of an empty log show metrics that have counted no query. -/
theorem Json.Shows.queries_of_nil {metrics : Metrics}
    (shows : Json.Shows (.object
      [("by_kind", .object []), ("total", .object ({} : LogFiles.Tally).members)]) metrics) :
    metrics.tally.queries = 0 := by
  have total := (Json.object.inj (Option.some.inj shows.total)).symm
  simpa [LogFiles.Tally.members, Json.whole] using congrArg List.head? total

namespace Client

/-- What the files of a closed log say of queries, compared with the metrics of the client. -/
structure Replayed (client : Client) (calls : List Call) (last : Client) (log : EventLog) :
    Prop where
  statistics : ∃ shown, log.close.2.files.statistics = .ok shown ∧
    shown.Shows last.record.metrics
  reasons : ∃ counts, log.close.2.files.discardReasons = .ok counts ∧ counts.keys.Nodup ∧
    ∀ reason, counts.get? reason = Option.merge (· + ·)
      ((last.stats .status).discarded.get? reason) ((last.stats .time).discarded.get? reason)
  results : ∃ records, log.close.2.files.eventsOfType (.text "result") = .ok records ∧
    records.length = last.record.metrics.total (·.succeeded)
  exhausted : ∃ records, log.close.2.files.eventsOfType (.text "exhausted") = .ok records ∧
    records.length = last.record.metrics.total (·.noResponse) +
      (client.followUps calls).countP isUnanswered

namespace Accounts

variable {client : Client} {calls : List Call} {events : List TimedEvent}

/-- Each reason was told as often as events of both kinds told it. -/
theorem get?_reasons (accounts : client.Accounts calls events)
    (fresh : client.record.metrics.kinds = [("status", {}), ("time", {})]) (reason : String) :
    (Mapping.countAll (reasons events) []).get? reason = Option.merge (· + ·)
      (((client.performAll calls).2.stats .status).discarded.get? reason)
      (((client.performAll calls).2.stats .time).discarded.get? reason) := by
  have discarded : ∀ kind : QueryKind, ((client.performAll calls).2.stats kind).discarded =
      Mapping.countAll (reasons (ofKind kind.name events)) [] := by
    intro kind
    rw [stats, accounts.record, Record.discarded_observeAll, kind_of_fresh fresh]
  have told : ∀ events : List TimedEvent, (Mapping.countAll (reasons events) []).get? reason =
      if 0 < (reasons events).count reason then some ((reasons events).count reason) else none := by
    intro events
    simp [Mapping.get?_countAll, List.count_pos_iff]
  have counts : (reasons events).count reason =
      (reasons (ofKind QueryKind.status.name events)).count reason +
        (reasons (ofKind QueryKind.time.name events)).count reason := by
    simp only [reasons, List.count_filterMap]
    exact (countP_ofKinds accounts.own _).symm
  -- A reason that a kind never had is missing there, not counted as zero.
  rw [discarded, discarded, told, told, told, counts]
  rcases Nat.eq_zero_or_pos ((reasons (ofKind QueryKind.status.name events)).count reason) with
    none | some
  · rw [none, Nat.zero_add, if_neg (Nat.lt_irrefl 0), Option.merge_none_left]
  · rw [if_pos (Nat.add_pos_left some _), if_pos some]
    split
    · rfl
    · rename_i none
      rw [Nat.eq_zero_of_not_pos none]
      rfl

/-- Counting the records of a kind is counting in its statistics. -/
theorem tally_kind (accounts : client.Accounts calls events)
    (fresh : client.record.metrics.kinds = [("status", {}), ("time", {})]) (kind : QueryKind) :
    LogFiles.Tally.ofEvents (ofKind kind.name events) =
      ((client.performAll calls).2.stats kind).tally := by
  simp only [LogFiles.Tally.ofEvents, ← accounts.counter_stats fresh kind]
  rfl

theorem tally_total (accounts : client.Accounts calls events)
    (fresh : client.record.metrics.kinds = [("status", {}), ("time", {})]) :
    LogFiles.Tally.ofEvents events = (client.performAll calls).2.record.metrics.tally := by
  simp only [LogFiles.Tally.ofEvents, Metrics.tally, accounts.count_eq_add fresh,
    (accounts.bothKinds fresh).total]
  rfl

end Accounts

/-- The log that a client was given has the records of all events. It can be closed when they can
be written, and its files hold them then. -/
theorem Accounts.log {client : Client} {calls : List Call} {events : List TimedEvent}
    (accounts : client.Accounts calls events) {sessionId : String} {size : Option Int}
    {started : Int}
    (logged : client.record.log = some { sessionId, bufferSize := size, started }) :
    ∃ log, (client.performAll calls).2.record.log = some log ∧
      (log.close.1 = .ok () ↔ log.IsLegible) ∧
      (¬ log.IsLegible → log.close.1 = .error .badValue) ∧
      log.records = events.map EventLog.entryOf ∧
      (log.IsLegible → log.close.2.files.Holds events) := by
  obtain ⟨log, kept, isOpen, written, records⟩ :=
    Record.log_observeAll logged rfl (by simp [EventLog.Written]) events
  rw [← accounts.record] at kept
  replace records : log.records = events.map EventLog.entryOf := records
  have closes := written.close_ok_iff isOpen
  refine ⟨log, kept, closes, written.close_refused isOpen, records, ?_⟩
  intro legible
  have readable : ∀ event ∈ events, (EventLog.entryOf event).IsRecord := by
    intro event mem
    refine EventLog.isRecord_entryOf (accounts.flat event mem) (legible _ ?_)
    rw [records]
    exact List.mem_map_of_mem mem
  refine LogFiles.holds_of_lines ?_ readable
  rw [← records]
  exact EventLog.eventLines_files_close isOpen (closes.mpr legible)

/-- A log that is legible in the end was so all the time, and has refused nothing. -/
theorem Accounts.refusalsRev {client : Client} {calls : List Call} {events : List TimedEvent}
    (accounts : client.Accounts calls events) {sessionId : String} {size started : Int}
    (logged : client.record.log = some { sessionId, bufferSize := some size, started })
    {log : EventLog} (records : log.records = events.map EventLog.entryOf)
    (legible : log.IsLegible) :
    (client.performAll calls).2.record.refusalsRev = client.record.refusalsRev := by
  obtain ⟨ready, empty⟩ := Record.ready_of_fresh logged
  rw [accounts.record]
  refine (empty.observeAll ready ?_).2
  intro event mem
  exact legible _ (by rw [records]; exact List.mem_map_of_mem mem)

/-- By the clocks of a machine all round trips are in the range of the doubles. -/
theorem Accounts.areTimely {client : Client} {calls : List Call} {events : List TimedEvent}
    (accounts : client.Accounts calls events)
    (clocked : client.network.Clocked (client.performAll calls).2.network) :
    LogFiles.AreTimely events := by
  intro event mem time told
  obtain ⟨call, -, budget, -, between⟩ := accounts.told clocked.forward event mem
  have trip := between.roundTrip time (Event.measured?_of_roundTrip? told)
  have elapsed : (client.performAll calls).2.now - client.now ≤ Binary64.largest :=
    clocked.elapsed
  omega

/-- The log of a fresh client replays to its metrics after any queries, and it has refused nothing
of them. It can be closed unless it has a number that is too long to be written, which it refuses,
and no other number is than those of a budget. -/
theorem replayed_performAll (client : Client) (calls : List Call) (sessionId : String)
    (size started : Int)
    (fresh : client.record.metrics.kinds = [("status", {}), ("time", {})])
    (logged : client.record.log = some { sessionId, bufferSize := some size, started })
    (clocked : client.network.Clocked (client.performAll calls).2.network) :
    ∃ log, (client.performAll calls).2.record.log = some log ∧
      (log.close.1 = .ok () ↔ log.IsLegible) ∧
      (¬ log.IsLegible → log.close.1 = .error .badValue) ∧
      (log.IsLegible → client.Replayed calls (client.performAll calls).2 log ∧
        (client.performAll calls).2.record.refusalsRev = client.record.refusalsRev) ∧
      (client.network.clock.natAbs ≤ Binary64.largest → client.HasWritable calls →
        log.IsLegible) := by
  obtain ⟨events, accounts⟩ := client.accounts_performAll calls
  obtain ⟨log, kept, closes, refuses, records, holds⟩ := accounts.log logged
  refine ⟨log, kept, closes, refuses, ?_, ?_⟩
  · intro legible
    replace holds := holds legible
    have both := accounts.bothKinds fresh
    refine ⟨⟨?_, ?_, ?_, ?_⟩, accounts.refusalsRev logged records legible⟩
    · obtain ⟨kinds, shown, each⟩ := LogFiles.statistics_ok holds (accounts.areTimely clocked)
      refine ⟨_, shown, ?_, ?_⟩
      · intro kind
        have found := each kind.name
        rw [accounts.tally_kind fresh] at found
        have path : Json.at? ["by_kind", kind.name] (.object [("by_kind", .object kinds),
            ("total", .object (LogFiles.Tally.ofEvents events).members)]) =
            Mapping.get? kind.name kinds := Option.bind_fun_some _
        rw [path]
        exact found
      · rw [accounts.tally_total fresh]
        rfl
    · refine ⟨_, LogFiles.discardReasons_eq holds, ?_, accounts.get?_reasons fresh⟩
      exact Mapping.nodup_keys_countAll _ List.nodup_nil
    · obtain ⟨found, read, length⟩ := LogFiles.length_eventsOfType
        (fun event => Event.typeName_eq_result_iff.trans decide_eq_true_iff.symm) holds
      refine ⟨found, read, ?_⟩
      rw [both.total]
      exact length.trans (accounts.count_eq_add fresh .succeeded)
    · obtain ⟨found, read, length⟩ := LogFiles.length_eventsOfType
        (fun _ => Event.typeName_eq_exhausted_iff) holds
      refine ⟨found, read, ?_⟩
      rw [both.total]
      have exhausted := accounts.exhausted
      rw [accounts.count_eq_add fresh .noResponse] at exhausted
      exact length.trans exhausted
  · intro early budgets record mem
    rw [records] at mem
    obtain ⟨event, one, rfl⟩ := List.mem_map.mp mem
    exact accounts.isWritable budgets early clocked event one

/-- A status query whose follow-up is not answered, a time query that cannot be sent and one for a
name without an address, with a log that is written three records at a time. -/
theorem replayed_performAll_silent :
    let network : Network :=
      { station := some { endpoint := ⟨"127.0.0.1", 12300⟩, config := { answerPeer := false } }
        faults := { send := [none, none, some "no route"] } }
    let client := Client.onNetwork network (some { sessionId := "queries", bufferSize := some 3 })
    let here : Request :=
      { host := "127.0.0.1", port := 12300, retries := some 0, timeoutMs := some 1000 }
    let calls : List Call := [.status here, .time here, .time { host := "nowhere" }]
    ∃ log, (client.performAll calls).2.record.log = some log ∧ log.close.1 = .ok () ∧
      client.Replayed calls (client.performAll calls).2 log := by
  intro network client here calls
  obtain ⟨elapsed, early, late⟩ :
      (client.performAll calls).2.network.clock - client.network.clock ≤ Binary64.largest ∧
        client.network.wallMs.natAbs ≤ Binary64.largest ∧
        (client.performAll calls).2.network.wallMs.natAbs ≤ Binary64.largest := by
    decide +kernel
  have clocked : client.network.Clocked (client.performAll calls).2.network :=
    ⟨by decide, elapsed, early, late⟩
  have budgets : client.HasWritable calls := hasWritable_of_lt (by decide) (by decide)
  obtain ⟨log, kept, closes, -, replayed, legible⟩ :=
    replayed_performAll client calls "queries" 3 0 rfl rfl clocked
  have legible := legible (by decide +kernel) budgets
  exact ⟨log, kept, closes.mpr legible, (replayed legible).1⟩

/-- More retries than a text has digits for: the query is answered, and its log cannot be closed.
The file that it leaves has nothing of the query. -/
theorem performAll_unwritten :
    let network : Network := { station := some { endpoint := ⟨"127.0.0.1", 12300⟩ } }
    let client := Client.onNetwork network (some { sessionId := "queries" })
    let calls : List Call :=
      [.status
        { host := "127.0.0.1", port := 12300, retries := some (10 ^ 5000), timeoutMs := some 1000 }]
    (client.performAll calls).1 = [.ok ()] ∧
      ∃ log, (client.performAll calls).2.record.log = some log ∧ log.close.1 = .error .badValue ∧
        log.close.2.files.eventLines = [] ∧
        ∀ shown, log.close.2.files.statistics = .ok shown →
          ¬ shown.Shows (client.performAll calls).2.record.metrics := by
  intro network client calls
  obtain ⟨answered, some, refused, asked⟩ :
      (client.performAll calls).1 = [.ok ()] ∧
        (client.performAll calls).2.record.log.isSome = true ∧
        (∀ log ∈ (client.performAll calls).2.record.log,
          log.close.1 = .error .badValue ∧ log.close.2.writtenRev.length = 0) ∧
        (client.performAll calls).2.record.metrics.tally.queries = 1 := by
    decide +kernel
  obtain ⟨log, kept⟩ := Option.isSome_iff_exists.mp some
  obtain ⟨closes, empty⟩ := refused log kept
  have none : log.close.2.files.eventLines = [] := by
    rw [EventLog.eventLines_files, List.length_eq_zero_iff.mp empty]
    rfl
  refine ⟨answered, log, kept, closes, none, ?_⟩
  intro shown told shows
  rw [LogFiles.statistics_of_nil none] at told
  obtain rfl := Except.ok.inj told
  exact absurd (asked.symm.trans shows.queries_of_nil) (by decide)

end Client

end NtpQuery
