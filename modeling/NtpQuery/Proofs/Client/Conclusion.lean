import NtpQuery.Proofs.Client.Answering
import NtpQuery.Proofs.Client.Conservation
import NtpQuery.Proofs.Session.Lifecycle

/-!
# What a query comes to in the totals

A query is counted when it is accepted, and once more for the way it ended: as a
result, as an attempt that nobody responded to, or as an error of the system.
The error of an accepted query is never about its address or its arguments.

Where closing a socket is never refused, and by the clocks of a machine, the only
failure that is not reported is a time to wait beyond the range of the doubles.
Where nothing is refused at all, the query had no response otherwise.
-/

namespace NtpQuery

/-- A query of a kind. -/
def Call.ofKind : QueryKind → Request → Call
  | .status => .status
  | .time => .time

@[simp] theorem Call.request_ofKind (kind : QueryKind) (request : Request) :
    (Call.ofKind kind request).request = request := by
  cases kind <;> rfl

/-- An accepted query reports that nobody responded, or what the system refused. -/
theorem Failure.Cause.reported {attemptMs : Int} {faults after : Faults} {error : QueryError}
    (cause : (Failure.reported error).Cause attemptMs faults after) :
    error = .unanswered ∨ ∃ (refusal : Refusal) (message : String),
      error = refusal.error message := by
  generalize reported : Failure.reported error = failure at cause
  cases cause with
  | unanswered => exact .inl (Failure.reported.inj reported)
  | refused => exact .inr ⟨_, _, Failure.reported.inj reported⟩
  | unclosed => simp at reported
  | untold => simp at reported

/-- Where nothing is refused, a query can only fail for want of a response. -/
theorem Failure.Cause.of_quiet {attemptMs : Int} {faults after : Faults} {failure : Failure}
    (cause : failure.Cause attemptMs faults after) (quiet : faults.Quiet)
    (tellable : Network.Tellable attemptMs) : failure = .reported .unanswered := by
  cases cause with
  | unanswered => rfl
  | refused spent => exact absurd quiet spent.not_quiet
  | unclosed spent => exact absurd quiet spent.not_quiet
  | untold unspent untellable =>
    rw [setback_of_none quiet.wait, Int.add_zero] at untellable
    exact absurd tellable untellable

/-- The counters of all kinds after events of the two kinds. -/
theorem Record.total_observeAll {record : Record} (both : record.metrics.BothKinds)
    {events : List TimedEvent}
    (own : ∀ event ∈ events, ∃ kind : QueryKind, event.event.kindName = kind.name)
    (counter : Counter) :
    (record.observeAll events).metrics.total (·.counter counter) =
      record.metrics.total (·.counter counter) + counter.count events := by
  have counts : counter.count (ofKind QueryKind.status.name events) +
      counter.count (ofKind QueryKind.time.name events) = counter.count events :=
    Client.countP_ofKinds own _
  rw [(both.observeAll own).total, both.total, Record.counter_observeAll,
    Record.counter_observeAll, ← counts]
  simp only [QueryKind.name]
  omega

namespace Client

variable {client : Client}

/-- The totals that a client has counted. -/
def total (client : Client) (counter : Counter) : Nat :=
  client.record.metrics.total (·.counter counter)

/-- What a query adds to the totals of a client. -/
structure Counted (client : Client) (call : Call) : Prop where
  bothKinds : (client.perform call).2.record.metrics.BothKinds
  queries : (client.perform call).2.total .queries =
    client.total .queries + (client.accept call.request).toBool.toNat
  succeeded : (client.perform call).2.total .succeeded =
    client.total .succeeded + (client.perform call).1.toBool.toNat
  noResponse : (client.perform call).2.total .noResponse =
    client.total .noResponse + (isUnanswered (client.perform call).1).toNat
  transportErrors : (client.perform call).2.total .transportErrors =
    client.total .transportErrors +
      ((client.accept call.request).toBool && isReportedOther (client.perform call).1).toNat

theorem counted_perform (both : client.record.metrics.BothKinds) (call : Call) :
    client.Counted call := by
  obtain ⟨events, account⟩ := client.account_perform call
  have own : ∀ event ∈ events, ∃ kind : QueryKind, event.event.kindName = kind.name :=
    fun event mem => ⟨call.kind, account.own event mem⟩
  have totals : ∀ counter, (client.perform call).2.total counter =
      client.total counter + counter.count events := by
    intro counter
    rw [total, account.record, Record.total_observeAll both own]
    rfl
  refine ⟨?_, ?_, ?_, ?_, ?_⟩
  · rw [account.record]
    exact both.observeAll own
  · rw [totals, account.queries]
  · rw [totals, account.succeeded]
  · rw [totals, account.noResponse]
  · rw [totals, account.transportErrors]

/-- The error that an accepted query reports. -/
theorem reported_perform {call : Call} {budget : Budget} {destination : Endpoint}
    {error : QueryError} (accepted : client.accept call.request = .ok (budget, destination))
    (failed : (client.perform call).1 = .error (.reported error)) :
    error = .unanswered ∨ ∃ (refusal : Refusal) (message : String),
      error = refusal.error message := by
  rcases fate_perform accepted with fate | far
  · generalize client.perform call = result at fate failed
    cases fate with
    | returned => simp at failed
    | withoutPeer => simp at failed
    | failed cause =>
      obtain rfl := Except.error.inj failed
      exact cause.reported
  · generalize client.perform call = result at far failed
    cases far with
    | intro => simp at failed

/-- A query that is not accepted is told that its numbers or its address are wrong. -/
theorem accept_of_outcome {call : Call}
    (argument : ∀ message, (client.perform call).1 ≠ .error (.reported (.argument message)))
    (address : ∀ message, (client.perform call).1 ≠ .error (.reported (.address message))) :
    (client.accept call.request).toBool = true := by
  cases accepts : client.accept call.request with
  | ok accepts => rfl
  | error failure =>
    have performed := congrArg Prod.fst (perform_of_refused accepts)
    rcases accept_error accepts with ⟨message, rfl, -⟩ | ⟨message, rfl⟩
    · exact absurd performed (argument message)
    · exact absurd performed (address message)

/-- Where closing is not refused it is not refused later, and clocks are not turned back by more
than was to come. -/
def Abates (client after : Client) : Prop :=
  refused client.network.faults.close = 0 →
    refused after.network.faults.close = 0 ∧
      setback after.network.faults.wait ≤ setback client.network.faults.wait

theorem abates_after {α : Type} (client : Client) (exchange : Exchange α) {channel : Channel}
    (network : channel.network = client.network) :
    client.Abates (client.after (exchange.run channel)) := by
  intro closing
  have ended := (exchange.ended_run channel).1
  show refused (exchange.run channel).channel.network.faults.close = 0 ∧ _
  rw [← network] at closing ⊢
  generalize exchange.run channel = run at ended ⊢
  cases ended with
  | finished finished close waits => exact ⟨close.trans closing, waits⟩
  | unclosed spent close => omega
  | untold underway untellable => exact ⟨underway.close.trans closing, underway.waits⟩

theorem abates_carried : Carried Abates where
  refl client := fun closing => ⟨closing, Int.le_refl _⟩
  trans h h' := fun closing =>
    ⟨(h' (h closing).1).1, Int.le_trans (h' (h closing).1).2 (h closing).2⟩
  observe client event := fun closing => ⟨closing, Int.le_refl _⟩
  fetch client budget destination association := by
    obtain ⟨payload, -, run⟩ := client.fetchVariables_eq budget destination association
    rw [run]
    exact abates_after client _ rfl
  ask client budget destination := abates_after client _ rfl

/-- How an accepted query ends where closing is not refused. -/
theorem outcome_perform {call : Call} {budget : Budget} {destination : Endpoint}
    (accepted : client.accept call.request = .ok (budget, destination))
    (closing : refused client.network.faults.close = 0)
    (clocked : client.network.Clocked (client.perform call).2.network) :
    (client.perform call).1 = .ok () ∨
      (client.perform call).1 = .error (.reported .unanswered) ∨
      (∃ (refusal : Refusal) (message : String),
        (client.perform call).1 = .error (.reported (refusal.error message))) ∨
      (client.perform call).1 = .error .overflow ∧
        ¬ Network.Tellable (budget.attemptMs + setback client.network.faults.wait) := by
  have fate := fate_of_clocked accepted clocked
  generalize client.perform call = result at fate ⊢
  cases fate with
  | returned => exact .inl rfl
  | withoutPeer => exact .inl rfl
  | failed cause =>
    cases cause with
    | unanswered => exact .inr (.inl rfl)
    | refused => exact .inr (.inr (.inl ⟨_, _, rfl⟩))
    | unclosed spent close => omega
    | untold unspent untellable => exact .inr (.inr (.inr ⟨rfl, untellable⟩))

/-- How an accepted query ends where nothing is refused. -/
theorem perform_quiet {call : Call} {budget : Budget} {destination : Endpoint}
    (accepted : client.accept call.request = .ok (budget, destination))
    (quiet : client.network.Quiet) (tellable : Network.Tellable budget.attemptMs) :
    (client.perform call).1 = .ok () ∨
      (client.perform call).1 = .error (.reported .unanswered) ∨
      (client.perform call).1 = .error .overflow ∧ call.kind = .time ∧
        ¬ client.network.Clocked (client.perform call).2.network := by
  rcases fate_perform accepted with fate | far
  · generalize client.perform call = result at fate ⊢
    cases fate with
    | returned => exact .inl rfl
    | withoutPeer => exact .inl rfl
    | failed cause =>
      obtain rfl := cause.of_quiet quiet tellable
      exact .inr (.inl rfl)
  · generalize client.perform call = result at far ⊢
    cases far with
    | intro outcome far unclocked => exact .inr (.inr ⟨rfl, rfl, unclocked⟩)

/-- Where nothing is refused a client can be closed. What it noted stays, and so do the clocks. -/
theorem close_quiet (quiet : client.network.Quiet) :
    client.close.1 = .ok () ∧ client.close.2.record = client.record ∧
      client.close.2.network.clock = client.network.clock ∧
      client.close.2.network.wallMs = client.network.wallMs := by
  rw [close, Channel.close]
  cases client.channel.session.socket with
  | none => exact ⟨rfl, rfl, rfl, rfl⟩
  | some socket =>
    obtain ⟨close, -, closed⟩ := client.network.closeSocket_unrefused socket.id quiet.close
    simp only [show client.channel.network.closeSocket socket.id = _ from closed]
    exact ⟨trivial, trivial, rfl, rfl⟩

end Client

end NtpQuery
