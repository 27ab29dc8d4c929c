import NtpQuery.Proofs.Client.Conservation

/-!
# What the log of a client refuses

A log cannot write a number of too many digits. What a client notes has one only
if a budget has it or a clock shows it, because the events of a query tell
nothing that is larger. By the clocks of a machine, and with budgets that can be
written themselves, a log that is legible stays so and refuses nothing. Then no
query is disturbed by its log, and every one ends as it would without.
-/

namespace NtpQuery

/-- A number in the range of the doubles, or twice as large, can be written. -/
theorem Binary64.lt_ten_pow_of_le {n : Nat} (small : n ≤ 2 * Binary64.largest) :
    n < 10 ^ Text.Numeral.maxDigits := by
  have far : 2 * Binary64.largest < 10 ^ Text.Numeral.maxDigits := by decide +kernel
  exact Nat.lt_of_le_of_lt small far

namespace Budget

/-- Whether the numbers of a budget can be written, and with them the number of each attempt. -/
def IsWritable (budget : Budget) : Prop :=
  budget.attempts < 10 ^ Text.Numeral.maxDigits ∧ budget.timeoutMs < 10 ^ Text.Numeral.maxDigits

theorem IsWritable.reach_lt {budget : Budget} (writable : budget.IsWritable) :
    budget.reach < 10 ^ Text.Numeral.maxDigits := by
  have range := Binary64.two_pow_le_largest
  have short : 2 ^ 32 < 10 ^ Text.Numeral.maxDigits :=
    Binary64.lt_ten_pow_of_le (by omega)
  rw [reach]
  exact max_lt short (max_lt writable.1 writable.2)

end Budget

/-- The record of an event can be written when the clock and the limit can. -/
theorem EventLog.isWritable_entryOf {event : TimedEvent} {first last : Int} {limit : Nat}
    (between : event.Between first last limit) (early : first.natAbs ≤ Binary64.largest)
    (elapsed : last - first ≤ Binary64.largest) (short : limit < 10 ^ Text.Numeral.maxDigits) :
    (entryOf event).isWritable = true := by
  rw [Json.isWritable_iff]
  intro n mem
  rcases mem_wholes_entryOf event mem with rfl | told | told
  · have earliest := between.earliest
    have latest := between.latest
    exact Binary64.lt_ten_pow_of_le (by omega)
  · have trip := between.roundTrip n (Event.measured?_of_roundTrip? told)
    exact Binary64.lt_ten_pow_of_le (by omega)
  · exact Nat.lt_of_le_of_lt (between.numbers n told) short

namespace Record

variable {record : Record}

/-- A log that a record keeps has a record of each event, in order. -/
theorem log_observeAll {log : EventLog} (logged : record.log = some log)
    (isOpen : log.closed = false) (written : log.Written) (events : List TimedEvent) :
    ∃ last, (record.observeAll events).log = some last ∧ last.closed = false ∧ last.Written ∧
      last.records = log.records ++ events.map EventLog.entryOf := by
  induction events generalizing record log with
  | nil => exact ⟨log, logged, isOpen, written, by simp⟩
  | cons event events ih =>
    have noted : (record.observe event).log = some (log.observe event).2 := by
      rw [observe, logged]
      rfl
    obtain ⟨last, kept, lastOpen, lastWritten, records⟩ :=
      ih noted ((log.closed_add _).trans isOpen) (written.add _)
    refine ⟨last, kept, lastOpen, lastWritten, ?_⟩
    rw [records, EventLog.observe, EventLog.records_add, List.append_assoc, List.map_cons,
      List.singleton_append]

/-- The log of a record is legible, if it has one. -/
def IsLegible (record : Record) : Prop :=
  ∀ log ∈ record.log, log.IsLegible

/-- A fresh log is open and legible. -/
theorem ready_of_fresh {sessionId : String} {size started : Int}
    (logged : record.log = some { sessionId, bufferSize := some size, started }) :
    record.Ready ∧ record.IsLegible := by
  refine ⟨?_, ?_⟩
  · intro log kept
    obtain rfl := Option.some.inj (logged.symm.trans kept)
    exact ⟨rfl, rfl⟩
  · intro log kept
    obtain rfl := Option.some.inj (logged.symm.trans kept)
    exact EventLog.isLegible_fresh sessionId (some size) started

/-- An event that can be written is not refused. -/
theorem IsLegible.observe (legible : record.IsLegible) (ready : record.Ready) {event : TimedEvent}
    (writable : (EventLog.entryOf event).isWritable = true) :
    (record.observe event).IsLegible ∧
      (record.observe event).refusalsRev = record.refusalsRev := by
  cases logged : record.log with
  | none =>
    have unlogged : (record.observe event).log = none := by rw [Record.observe, logged]; rfl
    refine ⟨by simp [IsLegible, unlogged], ?_⟩
    rw [Record.observe, refusal?, logged]
    rfl
  | some log =>
    obtain ⟨isOpen, sized⟩ := ready log logged
    obtain ⟨taken, kept⟩ := (legible log logged).add isOpen sized writable
    have noted : (record.observe event).log = some (log.add (EventLog.entryOf event)).2 := by
      rw [Record.observe, logged]
      rfl
    refine ⟨?_, ?_⟩
    · rintro last mem
      obtain rfl := Option.some.inj (noted.symm.trans mem)
      exact kept
    · simp [Record.observe, refusal?, logged, EventLog.observe, taken]

theorem IsLegible.observeAll (legible : record.IsLegible) (ready : record.Ready)
    {events : List TimedEvent}
    (writable : ∀ event ∈ events, (EventLog.entryOf event).isWritable = true) :
    (record.observeAll events).IsLegible ∧
      (record.observeAll events).refusalsRev = record.refusalsRev := by
  induction events generalizing record with
  | nil => exact ⟨legible, rfl⟩
  | cons event events ih =>
    rw [List.forall_mem_cons] at writable
    obtain ⟨kept, same⟩ := legible.observe ready writable.1
    obtain ⟨all, none⟩ := ih kept (ready.observe event) writable.2
    exact ⟨all, none.trans same⟩

end Record

namespace Client

variable {client : Client} {calls : List Call} {events : List TimedEvent}

/-- The budgets of the calls that have one can be written. -/
def HasWritable (client : Client) (calls : List Call) : Prop :=
  ∀ call ∈ calls, ∀ budget,
    client.defaults.override call.request.retries call.request.timeoutMs = .ok budget →
      budget.IsWritable

/-- Numbers of 60 binary digits can be written. -/
theorem hasWritable_of_lt (kept : client.defaults.retries < 2 ^ 60 ∧
      client.defaults.timeoutMs < 2 ^ 60)
    (given : ∀ call ∈ calls, (∀ n ∈ call.request.retries, n < 2 ^ 60) ∧
      ∀ n ∈ call.request.timeoutMs, n < 2 ^ 60) : client.HasWritable calls := by
  intro call mem budget made
  have retries := Budget.override_retries (p := (· < 2 ^ 60)) made (by omega) (given call mem).1
  have timeoutMs := Budget.override_timeoutMs (p := (· < 2 ^ 60)) made (by omega) (given call mem).2
  have range := Binary64.two_pow_le_largest
  refine ⟨Binary64.lt_ten_pow_of_le ?_, Binary64.lt_ten_pow_of_le (by omega)⟩
  rw [Budget.attempts]
  omega

/-- All that is told of queries by the clocks of a machine can be written, unless a budget cannot. -/
theorem Accounts.isWritable (accounts : client.Accounts calls events)
    (budgets : client.HasWritable calls) (early : client.network.clock.natAbs ≤ Binary64.largest)
    (clocked : client.network.Clocked (client.performAll calls).2.network) :
    ∀ event ∈ events, (EventLog.entryOf event).isWritable = true := by
  intro event mem
  obtain ⟨call, among, budget, made, between⟩ := accounts.told clocked.forward event mem
  exact EventLog.isWritable_entryOf between early clocked.elapsed
    (budgets call among budget made).reach_lt

/-- Whatever comes in, each of any number of queries ends with a result or with the report that
nobody responded, and an open log stays open. A legible log refuses nothing when the clock and the
retries are within the same bounds. -/
theorem performAll_outcomes (client : Client) (calls : List Call)
    (quiet : client.network.Quiet) (log : client.record.Ready)
    (defaults : client.defaults.timeoutMs < Network.exactWaitMs)
    (sound : ∀ call ∈ calls, call.request.Sound client.network)
    (early : client.network.Reckoned) (late : (client.performAll calls).2.network.Reckoned) :
    (∀ outcome ∈ (client.performAll calls).1,
        outcome = .ok () ∨ outcome = .error (.reported .unanswered)) ∧
      (client.performAll calls).2.record.Ready ∧
      (client.record.IsLegible → client.network.clock.natAbs < 2 ^ 50 * 1000 →
        client.defaults.retries < 2 ^ 50 →
        (∀ call ∈ calls, ∀ retries ∈ call.request.retries, retries < 2 ^ 50) →
        (client.performAll calls).2.record.IsLegible ∧
          (client.performAll calls).2.record.refusalsRev = client.record.refusalsRev) := by
  have healthy : client.Healthy := ⟨quiet, log, defaults⟩
  have onward := onward_carried.performAll client calls
  refine ⟨?_, onward.log log, ?_⟩
  · clear quiet log defaults onward
    induction calls generalizing client with
    | nil => simp [performAll]
    | cons call calls ih =>
      have first := onward_carried.perform client call
      have others := onward_carried.performAll (client.perform call).2 calls
      have middle := early.between healthy.quiet late first.steady others.steady
      have sound' : ∀ other ∈ calls, other.request.Sound (client.perform call).2.network := by
        intro other mem
        exact (sound other (List.mem_cons_of_mem _ mem)).steady first.steady
      intro result mem
      rcases List.mem_cons.mp mem with rfl | mem
      · exact perform_healthy healthy (sound call List.mem_cons_self) early middle
      · exact ih _ sound' middle late (first.healthy healthy) result mem
  · intro legible clock kept given
    obtain ⟨events, accounts⟩ := client.accounts_performAll calls
    have range := Binary64.two_pow_le_largest
    have budgets : client.HasWritable calls := by
      simp only [Network.exactWaitMs] at defaults
      refine hasWritable_of_lt ⟨by omega, by omega⟩ ?_
      intro call mem
      refine ⟨fun n told => Int.lt_trans (given call mem n told) (by decide), fun n told => ?_⟩
      exact Int.lt_trans ((sound call mem).timeout n told).2 (by decide)
    rw [accounts.record]
    exact legible.observeAll log (accounts.isWritable budgets (by omega)
      (early.clocked quiet onward.steady late))

/-- An empty datagram, an overlong one, a response that names a peer with two dozen digits, and the
answer of a server whose clock is at the end of its range. -/
theorem performAll_outcomes_junk :
    let server : Endpoint := ⟨"10.0.0.1", 123⟩
    let peer : Bytes := [30, 130, 0, 2, 0, 0, 0, 0, 0, 0, 0, 0] ++
      ControlPacket.asciiBytes "peer=" ++ List.replicate 24 57
    let client := Client.onNetwork
      { script :=
          [[⟨0, ⟨[], ⟨"192.0.2.7", 9⟩⟩⟩, ⟨1, ⟨List.replicate 600 255, server⟩⟩,
              ⟨2, ⟨peer, server⟩⟩],
            [], [⟨4, ⟨36 :: List.replicate 47 255, server⟩⟩]] }
      (some { sessionId := "s", bufferSize := some 1 })
    let calls := [Call.status { host := "10.0.0.1", retries := some 0 },
      Call.time { host := "10.0.0.1", timeoutMs := some 6 }]
    (client.performAll calls).1 = [.ok (), .ok ()] ∧
      (∀ outcome ∈ (client.performAll calls).1,
        outcome = .ok () ∨ outcome = .error (.reported .unanswered)) ∧
      (client.performAll calls).2.record.Ready ∧
      (client.performAll calls).2.record.refusalsRev = [] := by
  intro server peer client calls
  have quiet : client.network.Quiet := ⟨fun kind => by cases kind <;> rfl, rfl, rfl⟩
  obtain ⟨log, legible⟩ := Record.ready_of_fresh (by rfl : client.record.log = some
    { sessionId := "s", bufferSize := some 1 })
  have sound : ∀ call ∈ calls, call.request.Sound client.network := by
    intro call mem
    have host : client.network.lookup "10.0.0.1" = some ["10.0.0.1"] := by decide +kernel
    simp only [calls, List.mem_cons, List.not_mem_nil, or_false] at mem
    rcases mem with rfl | rfl
    · exact ⟨by decide, ⟨_, _, host⟩, by simp [Call.request], by simp [Call.request]⟩
    · exact ⟨by decide, ⟨_, _, host⟩, by simp [Call.request],
        by simp [Call.request, Network.exactWaitMs]⟩
  have early : client.network.Reckoned := by
    rw [Network.Reckoned]
    decide
  have late : (client.performAll calls).2.network.Reckoned := by
    rw [Network.Reckoned]
    decide +kernel
  obtain ⟨outcomes, ready, refusals⟩ :=
    performAll_outcomes client calls quiet log (by decide) sound early late
  have few : ∀ call ∈ calls, ∀ retries ∈ call.request.retries, retries < 2 ^ 50 := by decide
  exact ⟨by decide +kernel, outcomes, ready, (refusals legible (by decide) (by decide) few).2⟩

end Client

end NtpQuery
