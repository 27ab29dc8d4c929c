import NtpQuery.Proofs.CommandLine.Outcome
import NtpQuery.Proofs.CommandLine.Reading
import NtpQuery.Proofs.Metrics.Snapshot

/-!
# What becomes of accepted arguments

Arguments that are accepted may still be of no use. A timeout that is not a number
or is endless as a number of ms, and an option without its value, let the command
fail before it has asked anything. Where nothing is refused these are its own
mistakes, all of them. Other options make a request with a budget; every wait of it
can be told to the system, however long it is, and the command ends with a code.

What else a command needs is not in its hands: for the log that is asked for a
directory, a last date and numbers that can be written, and for a time query the
clocks of a machine.
-/

namespace NtpQuery

namespace Client

/-- A client whose statistics can be shown, and whose log is open, if it has one. -/
structure Finishable (client : Client) : Prop where
  isOpen : ∀ log ∈ client.record.log, log.closed = false
  snapshot : ∀ now, ∃ stats, client.record.metrics.snapshot now = .ok stats

/-- A client with a log has noted a number that is too long to be written, or would have to write
one as its summary. -/
def IsOverlong (client : Client) : Prop :=
  ∃ log, client.record.log = some log ∧ (¬ log.IsLegible ∨
    ∃ date stats, client.record.metrics.snapshot client.now = .ok stats ∧
      (EventLog.summaryEntry log.sessionId log.started client.now date log.count stats).isWritable =
        false)

end Client

namespace CommandLine

variable {client : Client} {options : Options} {timeoutMs : Option Int} {network : Network}

/-- A log is finished unless the time is beyond the calendar or a number cannot be written. -/
theorem finishLog_outcome {log : EventLog} (kept : client.record.log = some log)
    (finishable : client.Finishable) :
    (finishLog client log).1 = .ok () ∨
      (finishLog client log).1 = .error .overflow ∧
        DateTime.ofUnixMs? client.network.wallMs = none ∨
      (finishLog client log).1 = .error .badValue ∧ client.IsOverlong := by
  have isOpen := finishable.isOpen log kept
  obtain ⟨stats, shown⟩ := finishable.snapshot client.now
  cases dated : DateTime.ofUnixMs? client.network.wallMs with
  | none =>
    right
    left
    simp [finishLog, shown, EventLog.addSummary, dated]
  | some date =>
    cases writes : (EventLog.summaryEntry log.sessionId log.started client.now date log.count
        stats).isWritable with
    | false =>
      right
      right
      refine ⟨?_, log, kept, .inr ⟨date, stats, shown, writes⟩⟩
      simp [finishLog, shown, EventLog.addSummary, dated, writes]
    | true =>
      simp only [finishLog, shown, EventLog.addSummary_of_open isOpen dated writes]
      generalize summed : { log with summariesRev := _ } = next
      have buffer : next.bufferRev = log.bufferRev := by rw [← summed]
      rcases EventLog.close_cases (by rw [← summed]; exact isOpen : next.closed = false) with
        ⟨-, closed⟩ | ⟨⟨record, mem, unwritable⟩, refused⟩
      · rw [closed]
        exact .inl rfl
      · right
        right
        refine ⟨refused, log, kept, .inl fun legible => ?_⟩
        rw [buffer] at mem
        have written := legible record (List.mem_reverse.mpr (List.mem_append_left _ mem))
        simp [written] at unwritable

/-- Where nothing is refused, what a command prints is decided by its query, unless a log cannot be
given its last date or what it is to hold. -/
theorem runClient_outcome (root : String)
    (quiet : (runQuery client options timeoutMs).2.network.Quiet)
    (finishable : (runQuery client options timeoutMs).2.Finishable) :
    ((runClient client root options timeoutMs).network.clock =
          (runQuery client options timeoutMs).2.network.clock ∧
        (runClient client root options timeoutMs).network.wallMs =
          (runQuery client options timeoutMs).2.network.wallMs) ∧
      ((runClient client root options timeoutMs).result =
          printed (runQuery client options timeoutMs).1 ∨
        (runClient client root options timeoutMs).result = .error .overflow ∧
          (runQuery client options timeoutMs).2.record.log.isSome ∧
          DateTime.ofUnixMs? (runQuery client options timeoutMs).2.network.wallMs = none ∨
        (runClient client root options timeoutMs).result = .error .badValue ∧
          (runQuery client options timeoutMs).2.close.2.IsOverlong) := by
  rw [runClient]
  generalize runQuery client options timeoutMs = ran at quiet finishable ⊢
  obtain ⟨result, next⟩ := ran
  simp only at quiet finishable ⊢
  obtain ⟨closes, record, clock, wall⟩ := Client.close_quiet quiet
  generalize next.close = ended at closes record clock wall ⊢
  obtain ⟨closed, last⟩ := ended
  simp only at closes record clock wall
  subst closes
  cases kept : last.record.log with
  | none => exact ⟨⟨clock, wall⟩, .inl rfl⟩
  | some log =>
    have ready : last.Finishable :=
      ⟨record ▸ finishable.isOpen, record ▸ finishable.snapshot⟩
    rcases finishLog_outcome kept ready with
      finished | ⟨unfinished, undated⟩ | ⟨unfinished, overlong⟩
    · simp only [finished]
      exact ⟨⟨clock, wall⟩, .inl trivial⟩
    · simp only [unfinished]
      refine ⟨⟨clock, wall⟩, .inr (.inl ⟨trivial, ?_, wall ▸ undated⟩)⟩
      rw [← record, kept]
      rfl
    · simp only [unfinished]
      exact ⟨⟨clock, wall⟩, .inr (.inr ⟨trivial, overlong⟩)⟩

theorem finishable_fresh {logged : Option LoggedSession}
    (opened : openLog options network = .ok logged) :
    (Client.onNetwork network (logged.map (·.log))).Finishable where
  isOpen log mem := by
    cases logged with
    | none => cases mem
    | some session =>
      obtain ⟨-, -, sessionId, fresh⟩ := openLog_some opened
      obtain rfl : session.log = log := Option.some.inj mem
      rw [fresh]
  snapshot now :=
    Metrics.BothKinds.snapshot_ok (by rfl) (Metrics.sampled_fresh _) (Nat.zero_le 1) now

/-- A summary of nothing has only zeros to tell. -/
theorem isWritable_summaryEntry_fresh {now : Int} {stats : Json} (sessionId : String)
    (date : DateTime) (shown : (Metrics.fresh now).snapshot now = .ok stats) :
    (EventLog.summaryEntry sessionId now now date 0 stats).isWritable = true := by
  have zeros : (EventLog.summaryEntry sessionId now now date 0 stats).wholes =
      (now - now) :: 0 :: (now - now) :: List.replicate 16 0 := by
    obtain rfl := Except.ok.inj shown
    rfl
  rw [Json.isWritable, zeros, Int.sub_self]
  decide +kernel

/-- A client that has asked nothing can write what it has to. -/
theorem not_isOverlong_fresh {logged : Option LoggedSession} (quiet : network.Quiet)
    (opened : openLog options network = .ok logged) :
    ¬ (Client.onNetwork network (logged.map (·.log))).close.2.IsOverlong := by
  obtain ⟨-, record, clock, -⟩ :=
    @Client.close_quiet (Client.onNetwork network (logged.map (·.log))) quiet
  rintro ⟨log, kept, overlong⟩
  rw [record] at kept
  obtain ⟨session, rfl, rfl⟩ := Option.map_eq_some_iff.mp kept
  obtain ⟨-, -, sessionId, fresh⟩ := openLog_some opened
  rw [fresh, record] at overlong
  rcases overlong with illegible | ⟨date, stats, shown, unwritable⟩
  · exact illegible (EventLog.isLegible_fresh _ _ _)
  · have now : (Client.onNetwork network (some session.log)).close.2.now = network.clock := clock
    rw [Option.map_some, now] at shown unwritable
    simp [isWritable_summaryEntry_fresh sessionId date shown] at unwritable

theorem isSome_log_perform (client : Client) (call : Call) :
    (client.perform call).2.record.log.isSome = client.record.log.isSome := by
  obtain ⟨events, given⟩ := log_perform client call
  rw [given, Option.isSome_map]

/-- One query leaves a client that can be finished. -/
theorem finishable_perform {logged : Option LoggedSession}
    (opened : openLog options network = .ok logged) (call : Call) :
    ((Client.onNetwork network (logged.map (·.log))).perform call).2.Finishable where
  isOpen log mem := by
    cases logged with
    | none =>
      have same := isSome_log_perform (.onNetwork network none) call
      have kept := Option.isSome_of_mem mem
      exact absurd (same.symm.trans kept) Bool.false_ne_true
    | some session =>
      obtain ⟨-, -, sessionId, fresh⟩ := openLog_some opened
      obtain ⟨kept, given, isOpen, -⟩ := fresh_perform network call (by rw [fresh] : session.log = _)
      obtain rfl := Option.some.inj (given.symm.trans mem)
      exact isOpen
  snapshot now := by
    generalize logged.map (·.log) = log
    have counted : (Client.onNetwork network log).Counted call :=
      Client.counted_perform (by rfl) call
    obtain ⟨events, account⟩ := (Client.onNetwork network log).account_perform call
    apply counted.bothKinds.snapshot_ok
    · rw [account.record]
      exact Metrics.Sampled.observeAll (Metrics.sampled_fresh _) events
    · show Client.total _ .succeeded ≤ 1
      rw [counted.succeeded]
      exact Nat.le_trans (Nat.le_of_eq (Nat.zero_add _)) (Bool.toNat_le _)

/-- What is printed of a query with a budget, where nothing is refused. -/
theorem printed_asked {kind : QueryKind} {request : Request} {budget : Budget}
    (quiet : client.network.Quiet)
    (made : client.defaults.override request.retries request.timeoutMs = .ok budget)
    (tellable : Network.Tellable budget.attemptMs) :
    (∃ shown, printed (asked client kind request) = .ok shown ∧
        (shown.code = 0 ∨ shown.code = 1)) ∨
      printed (asked client kind request) = .error .overflow ∧ kind = .time ∧
        ¬ client.network.Clocked (client.perform (.ofKind kind request)).2.network := by
  have reports : ∀ {error : QueryError}, error.isQueryFailure = true →
      (client.perform (.ofKind kind request)).1 = .error (.reported error) →
      ∃ shown, printed (asked client kind request) = .ok shown ∧
        (shown.code = 0 ∨ shown.code = 1) := by
    intro error failed performed
    rw [asked_eq_error.mpr performed]
    exact ⟨_, if_pos failed, .inr rfl⟩
  cases accepted : client.accept request with
  | error failure =>
    rcases Client.accept_error accepted with ⟨message, -, excluded⟩ | ⟨message, rfl⟩
    · simp [made] at excluded
    · left
      rw [← Call.request_ofKind kind request] at accepted
      exact reports rfl (by rw [Client.perform_of_refused accepted])
  | ok accepts =>
    obtain ⟨own, destination⟩ := accepts
    obtain rfl := Except.ok.inj (made.symm.trans (Client.override_of_accept accepted))
    rw [← Call.request_ofKind kind request] at accepted
    rcases Client.perform_quiet accepted quiet tellable with
      returned | unanswered | ⟨overflow, time, far⟩
    · left
      cases entries : asked client kind request with
      | error failure => simp [asked_eq_error.mp entries] at returned
      | ok entries => exact ⟨_, rfl, .inl rfl⟩
    · exact .inl (reports rfl unanswered)
    · right
      refine ⟨by rw [asked_eq_error.mpr overflow]; rfl, ?_, far⟩
      cases kind with
      | status => simp [Call.kind, Call.ofKind] at time
      | time => rfl

/-- How a command with accepted options ends where nothing is refused. -/
inductive Ending (options : Options) (before after : Network) : Except Failure Printed → Prop
  /-- The options have no mistake, and the result of the query or its error is printed. -/
  | told {timeoutMs : Option Int} {request : Request} {budget : Budget} {shown : Printed}
      (unmistaken : ∀ failure, ¬ options.Mistake failure)
      (timed : options.timeoutMs = .ok timeoutMs) (least : ∀ ms ∈ timeoutMs, 1 ≤ ms)
      (requested : options.request timeoutMs = .ok request)
      (made : Budget.standard.override request.retries request.timeoutMs = .ok budget)
      (code : shown.code = 0 ∨ shown.code = 1) : Ending options before after (.ok shown)
  | mistaken {failure : Failure} (mistake : options.Mistake failure) :
      Ending options before after (.error failure)
  /-- There can be no log where one was asked for. -/
  | unlogged {failure : Failure} (unopened : openLog options before = .error failure) :
      Ending options before after (.error failure)
  /-- The log cannot be finished, because the clock has left the calendar. -/
  | undated {session : LoggedSession} (opened : openLog options before = .ok (some session))
      (undated : DateTime.ofUnixMs? after.wallMs = none) :
      Ending options before after (.error .overflow)
  /-- The log cannot be finished, because a number is too long to be written. -/
  | unwritten {session : LoggedSession} {timeoutMs : Option Int} {request : Request}
      (opened : openLog options before = .ok (some session))
      (timed : options.timeoutMs = .ok timeoutMs)
      (requested : options.request timeoutMs = .ok request)
      (overlong : ((Client.onNetwork before (some session.log)).perform
        (.ofKind options.kind request)).2.close.2.IsOverlong) :
      Ending options before after (.error .badValue)
  /-- The clocks are not those of a machine. -/
  | farOff (time : options.kind = .time) (unclocked : ¬ before.Clocked after) :
      Ending options before after (.error .overflow)

theorem Ending.of_kept {after : Network} {logged : Option LoggedSession}
    (opened : openLog options network = .ok logged) (kept : (logged.map (·.log)).isSome)
    (undated : DateTime.ofUnixMs? after.wallMs = none) :
    Ending options network after (.error .overflow) := by
  cases logged with
  | none => cases kept
  | some session => exact .undated opened undated

section

variable {logged : Option LoggedSession} {request : Request} {failure : Failure}
  (quiet : network.Quiet) (opened : openLog options network = .ok logged) (root : String)

include quiet opened

/-- Options that make no request fail for their mistake, once the log is finished. -/
theorem ending_unrequested (requested : options.request timeoutMs = .error failure) :
    let ran := runClient (.onNetwork network (logged.map (·.log))) root options timeoutMs
    Ending options network ran.network ran.result := by
  intro ran
  have query : runQuery (.onNetwork network (logged.map (·.log))) options timeoutMs =
      (.error failure, .onNetwork network (logged.map (·.log))) := by
    rw [runQuery, requested]
  obtain ⟨⟨-, wall⟩, ended⟩ := @runClient_outcome (.onNetwork network (logged.map (·.log))) options
    timeoutMs root (by rw [query]; exact quiet) (by rw [query]; exact finishable_fresh opened)
  rw [query] at wall ended
  rcases ended with told | ⟨overflow, kept, undated⟩ | ⟨-, overlong⟩
  · obtain ⟨rfl, mistake⟩ := Options.mistake_of_request requested
    rw [told]
    exact .mistaken mistake
  · rw [overflow]
    exact .of_kept opened kept ((congrArg DateTime.ofUnixMs? wall).trans undated)
  · exact absurd overlong (not_isOverlong_fresh quiet opened)

/-- Options that make a request lead to a query, whose end is printed. -/
theorem ending_requested (checked : options.Checked) (timed : options.timeoutMs = .ok timeoutMs)
    (requested : options.request timeoutMs = .ok request) :
    let ran := runClient (.onNetwork network (logged.map (·.log))) root options timeoutMs
    Ending options network ran.network ran.result := by
  intro ran
  obtain ⟨budget, made, tellable⟩ := Options.override_request checked timed requested
  have query := @runQuery_eq (.onNetwork network (logged.map (·.log))) _ _ _ requested
  have later : ((Client.onNetwork network (logged.map (·.log))).perform
      (.ofKind options.kind request)).2.network.Quiet :=
    (Client.onward_carried.perform (.onNetwork network _) _).steady.quiet quiet
  obtain ⟨⟨clock, wall⟩, ended⟩ := @runClient_outcome (.onNetwork network (logged.map (·.log)))
    options timeoutMs root (by rw [query]; exact later)
    (by rw [query]; exact finishable_perform opened _)
  rw [query] at clock wall ended
  rcases ended with told | ⟨overflow, kept, undated⟩ | ⟨refused, overlong⟩
  · rw [told]
    rcases @printed_asked (.onNetwork network (logged.map (·.log))) options.kind request budget
      quiet made tellable with ⟨shown, prints, code⟩ | ⟨overflow, time, far⟩
    · have least := fun ms mem => (Options.timeoutMs_range checked timed ms mem).1
      rw [prints]
      exact .told (Options.unmistaken timed requested) timed least requested made code
    · rw [overflow]
      apply Ending.farOff time
      rintro ⟨forward, elapsed, early, late⟩
      exact far ⟨forward, by rw [← clock]; exact elapsed, early, by rw [← wall]; exact late⟩
  · rw [isSome_log_perform] at kept
    rw [overflow]
    exact .of_kept opened kept ((congrArg DateTime.ofUnixMs? wall).trans undated)
  · rw [refused]
    cases logged with
    | none =>
      obtain ⟨log, kept, -⟩ := overlong
      have same := isSome_log_perform (.onNetwork network none) (.ofKind options.kind request)
      rw [(Client.close_quiet later).2.1] at kept
      have some := Option.isSome_of_mem kept
      exact absurd (same.symm.trans some) Bool.false_ne_true
    | some session => exact .unwritten opened timed requested overlong

end

/-- Accepted arguments are in their ranges, and where nothing is refused the command ends with a
code, or there is a mistake in its options, or a clock or a directory is of no use. -/
theorem ending_run (arguments : List String) (network : Network) (options : Options)
    (parsed : Options.read arguments = .ok options) (quiet : network.Quiet) :
    options.Checked ∧
      Ending options network (run arguments network).network (run arguments network).result := by
  have checked := Options.checked_read parsed
  refine ⟨checked, ?_⟩
  simp only [run, parsed]
  cases timed : options.timeoutMs with
  | error failure => exact .mistaken (Options.mistake_of_timeoutMs checked timed)
  | ok timeoutMs =>
    cases opened : openLog options network with
    | error failure => exact .unlogged opened
    | ok logged =>
      simp only
      cases requested : options.request timeoutMs with
      | error failure => exact ending_unrequested quiet opened _ requested
      | ok request => exact ending_requested quiet opened _ checked timed requested

/-- A timeout of ninety-five years is served. -/
theorem ending_run_patient :
    let arguments := ["--timeout", "3e9", "--log-dir", "logs", "time", "127.0.0.1"]
    let network : Network := { station := some { endpoint := ⟨"127.0.0.1", 123⟩ } }
    let options : Options :=
      { timeout := .value ((Binary64.read? "3e9".toList).getD .nan), logDir := some "logs",
        kind := .time, host := "127.0.0.1" }
    network.Quiet ∧ Options.read arguments = .ok options ∧
      (options.Checked ∧
        Ending options network (run arguments network).network (run arguments network).result) ∧
      (run arguments network).result.toBool = true := by
  intro arguments network options
  have quiet : network.Quiet := ⟨fun kind => by cases kind <;> rfl, rfl, rfl⟩
  have parsed : Options.read arguments = .ok options := by decide +kernel
  exact ⟨quiet, parsed, ending_run arguments network options parsed quiet, by decide +kernel⟩

/-- Timeouts that are accepted and that no query is made with. -/
theorem run_timeout_unusable :
    let arguments (timeout : String) := ["--timeout", timeout, "time", "nohost"]
    ({} : Network).Quiet ∧ ∀ timeout failure,
      (timeout, failure) ∈
        [("nan", Failure.badValue), ("inf", .overflow), ("1e306", .overflow)] →
      (Options.read (arguments timeout)).toBool = true ∧
        (run (arguments timeout) {}).result = .error failure := by
  intro arguments
  refine ⟨⟨fun kind => by cases kind <;> rfl, rfl, rfl⟩, ?_⟩
  simp only [List.mem_cons, Prod.mk.injEq, List.not_mem_nil, or_false]
  rintro timeout failure (⟨rfl, rfl⟩ | ⟨rfl, rfl⟩ | ⟨rfl, rfl⟩)
  · decide +kernel
  · decide +kernel
  · decide +kernel

end CommandLine

end NtpQuery
