import NtpQuery.Proofs.Client.Clocks
import NtpQuery.Proofs.Exchange.Course
import NtpQuery.Proofs.VariableList

/-!
# Why a query fails

A query that was accepted can fail, and every failure has a cause in what the
system refused. No response and the refusal of a socket, of a request or of a
datagram are query errors, each with the error that tells of it. A refusal
within the follow-up is no failure of the query.

There are two other failures, and neither is a query error. An error after
which the socket is closed is lost when the system refuses to close it, so that
the failure of the system comes out in its place. And a time to wait that is
beyond the range of the doubles cannot be told. A time query could fail for a
time that its clocks show as well, but for none that a clock of a machine shows.
-/

namespace NtpQuery

/-- Nothing was refused between the two, and interruptions that turn the clock back may have
come. -/
structure Faults.Unspent (faults after : Faults) : Prop where
  refusals : after.refusals = faults.refusals
  close : refused after.close = refused faults.close
  waits : setback after.wait ≤ setback faults.wait

/-- The cause of a failure, in the faults before and after it. An attempt may take so many ms. -/
inductive Failure.Cause (attemptMs : Int) (faults after : Faults) : Failure → Prop
  | unanswered (unspent : faults.Unspent after) : Cause attemptMs faults after (.reported .unanswered)
  | refused {refusal : Refusal} {message : String} (spent : faults.Spent refusal after)
      (close : NtpQuery.refused after.close = NtpQuery.refused faults.close) :
      Cause attemptMs faults after (.reported (refusal.error message))
  | unclosed {refusal : Refusal} (spent : faults.Spent refusal after)
      (close : NtpQuery.refused after.close + 1 = NtpQuery.refused faults.close) :
      Cause attemptMs faults after .system
  | untold (unspent : faults.Unspent after)
      (untellable : ¬ Network.Tellable (attemptMs + setback faults.wait)) :
      Cause attemptMs faults after .overflow

namespace Faults.Unspent

variable {faults middle after : Faults}

theorem refl (faults : Faults) : faults.Unspent faults :=
  ⟨rfl, rfl, Int.le_refl _⟩

theorem trans (h : faults.Unspent middle) (h' : middle.Unspent after) : faults.Unspent after :=
  ⟨h'.refusals.trans h.refusals, h'.close.trans h.close, Int.le_trans h'.waits h.waits⟩

theorem spent (h : faults.Unspent middle) {refusal : Refusal}
    (h' : middle.Spent refusal after) : faults.Spent refusal after := by
  rw [Faults.Spent, ← h.refusals]
  exact h'

/-- What comes later has its cause there. -/
theorem cause (h : faults.Unspent middle) {attemptMs : Int} {failure : Failure}
    (cause : failure.Cause attemptMs middle after) : failure.Cause attemptMs faults after := by
  cases cause with
  | unanswered unspent => exact .unanswered (h.trans unspent)
  | refused spent close => exact .refused (h.spent spent) (close.trans h.close)
  | unclosed spent close => exact .unclosed (h.spent spent) (close.trans h.close)
  | untold unspent untellable =>
    exact .untold (h.trans unspent) fun tellable =>
      untellable (tellable.mono (Int.add_le_add_left h.waits _))

end Faults.Unspent

namespace Exchange

variable {α : Type} {exchange : Exchange α} {channel : Channel}

theorem unspent_of_answered {answer : Answer α}
    (outcome : (exchange.run channel).outcome = .ok answer) :
    channel.network.faults.Unspent (exchange.run channel).channel.network.faults := by
  have ended := (exchange.ended_run channel).1
  generalize exchange.run channel = run at ended outcome
  cases ended with
  | finished finished close waits =>
    cases finished with
    | exhausted => simp at outcome
    | answered tally accepts source refusals => exact ⟨refusals, close, waits⟩
    | refused => simp at outcome
  | unclosed => simp at outcome
  | untold => simp at outcome

/-- Every failure of an exchange has a cause. -/
theorem cause_of_failed {failure : Failure}
    (outcome : (exchange.run channel).outcome = .error failure) :
    failure.Cause exchange.attemptMs channel.network.faults
      (exchange.run channel).channel.network.faults := by
  have ended := (exchange.ended_run channel).1
  generalize exchange.run channel = run at ended outcome
  cases ended with
  | finished finished close waits =>
    cases finished with
    | exhausted underway =>
      obtain rfl := Except.error.inj outcome
      exact .unanswered ⟨underway.refusals, close, waits⟩
    | answered => simp at outcome
    | refused tally rejects spent =>
      obtain rfl := Except.error.inj outcome
      exact .refused spent close
  | unclosed spent close =>
    obtain rfl := Except.error.inj outcome
    exact .unclosed spent close
  | untold underway untellable =>
    obtain rfl := Except.error.inj outcome
    exact .untold ⟨underway.refusals, underway.close, underway.waits⟩ untellable

end Exchange

namespace Client

variable {client next : Client} {budget : Budget} {destination : Endpoint}

/-- How an accepted query can end. -/
inductive Fate (client : Client) (budget : Budget) (destination : Endpoint) :
    Call → Except Failure Unit × Client → Prop
  /-- Nothing was refused. -/
  | returned {call : Call} {next : Client}
      (unspent : client.network.faults.Unspent next.network.faults) :
      Fate client budget destination call (.ok (), next)
  /-- All that was refused is a step of the follow-up. -/
  | withoutPeer {request : Request} {next : Client} {refusal : Refusal}
      (spent : client.network.faults.Spent refusal next.network.faults)
      (close : refused next.network.faults.close = refused client.network.faults.close) :
      Fate client budget destination (.status request) (.ok (), next)
  | failed {call : Call} {failure : Failure} {next : Client}
      (cause : failure.Cause budget.attemptMs client.network.faults next.network.faults) :
      Fate client budget destination call (.error failure, next)

/-- How an accepted query would end by clocks that no machine has: they showed a time that cannot
be compared with the server's when the request left or the answer came. -/
inductive FarOff (client : Client) (budget : Budget) (destination : Endpoint) :
    Call → Except Failure Unit × Client → Prop
  | intro {request : Request} {next : Client} {answer : Answer ClientPacket}
      (outcome : ((timeExchange budget destination).run client.channel).outcome = .ok answer)
      (far : ¬ (TimeResult.IsNear (answer.sentAt + Wire.epochOffset) ∧
        TimeResult.IsNear (answer.receivedAt + Wire.epochOffset)))
      (unclocked : ¬ client.network.Clocked next.network) :
      FarOff client budget destination (.time request) (.error .overflow, next)

theorem unspent_of_fetched {association : Int} {answer : Answer ControlPacket}
    (fetched : client.fetchVariables budget destination association = (.ok answer, next)) :
    client.network.faults.Unspent next.network.faults ∧
      answer.packet.text.toList.length ≤ Wire.controlDataSize := by
  obtain ⟨payload, -, run⟩ := client.fetchVariables_eq budget destination association
  rw [fetched, Prod.mk.injEq] at run
  obtain ⟨outcome, rfl⟩ := run
  obtain ⟨-, -, -, -, -, -, -, accepts, -, -⟩ := (Exchange.Carried.steady _).origin outcome.symm
  exact ⟨Exchange.unspent_of_answered outcome.symm,
    ControlPacket.length_text_le (variablesExchange_accept.mp accepts).1⟩

theorem cause_of_unfetched {association : Int} {failure : Failure}
    (fetched : client.fetchVariables budget destination association = (.error failure, next)) :
    failure.Cause budget.attemptMs client.network.faults next.network.faults := by
  obtain ⟨payload, -, run⟩ := client.fetchVariables_eq budget destination association
  rw [fetched, Prod.mk.injEq] at run
  obtain ⟨outcome, rfl⟩ := run
  exact Exchange.cause_of_failed outcome.symm

/-- A follow-up that does not fail may still have met a refusal. -/
theorem spent_of_followed {text peerText : String}
    (followed : client.fetchPeer budget destination text = (.ok peerText, next)) :
    client.network.faults.Unspent next.network.faults ∨
      ∃ refusal, client.network.faults.Spent refusal next.network.faults ∧
        refused next.network.faults.close = refused client.network.faults.close := by
  have followUp := followUp_fetchPeer client budget destination text
  rw [followed] at followUp
  cases followUp with
  | needless => exact .inl (.refl _)
  | answered peer fetched => exact .inl (unspent_of_fetched fetched).1
  | @unanswered association error last peer fetched =>
    have cause := cause_of_unfetched fetched
    show client.network.faults.Unspent last.network.faults ∨
      ∃ refusal, client.network.faults.Spent refusal last.network.faults ∧
        refused last.network.faults.close = refused client.network.faults.close
    generalize last.network.faults = faults at cause ⊢
    generalize hf : Failure.reported error = failure at cause
    cases cause with
    | unanswered unspent => exact .inl unspent
    | refused spent close => exact .inr ⟨_, spent, close⟩
    | unclosed => simp at hf
    | untold => simp at hf

theorem cause_of_unfollowed {text : String} {failure : Failure}
    (limited : text.toList.length ≤ Wire.controlDataSize)
    (followed : client.fetchPeer budget destination text = (.error failure, next)) :
    failure.Cause budget.attemptMs client.network.faults next.network.faults := by
  have followUp := followUp_fetchPeer client budget destination text
  rw [followed] at followUp
  cases followUp with
  | unreadable peer =>
    have known := VariableList.peerAssociation?_isSome
      (Nat.le_trans limited (show Wire.controlDataSize ≤ Text.Numeral.maxDigits by decide))
    simp [peer] at known
  | failed peer fetched unreported => exact cause_of_unfetched fetched

@[simp] theorem network_fail (client : Client) (kind : QueryKind) (failure : Failure) :
    (client.fail kind failure).network = client.network := by
  unfold fail
  split <;> rfl

theorem fate_queryStatus {request : Request}
    (accepted : client.accept request = .ok (budget, destination)) :
    client.Fate budget destination (.status request) (client.perform (.status request)) := by
  have course := statusCourse_queryStatus client request
  rw [perform]
  generalize client.queryStatus request = result at course ⊢
  cases course with
  | refused refusal => simp [accepted] at refusal
  | unanswered accepted' fetched =>
    obtain ⟨rfl, rfl⟩ := accept_unique accepted accepted'
    have cause := cause_of_unfetched fetched
    apply Fate.failed
    rw [network_fail]
    exact cause
  | unfinished accepted' fetched followed =>
    obtain ⟨rfl, rfl⟩ := accept_unique accepted accepted'
    obtain ⟨unspent, limited⟩ := unspent_of_fetched fetched
    exact .failed (unspent.cause (cause_of_unfollowed limited followed))
  | answered accepted' fetched followed =>
    obtain ⟨rfl, rfl⟩ := accept_unique accepted accepted'
    have unspent := (unspent_of_fetched fetched).1
    rcases spent_of_followed followed with rest | ⟨refusal, spent, close⟩
    · exact .returned (unspent.trans rest)
    · exact .withoutPeer (unspent.spent spent) (close.trans unspent.close)

theorem fate_queryTime {request : Request}
    (accepted : client.accept request = .ok (budget, destination)) :
    client.Fate budget destination (.time request) (client.perform (.time request)) ∨
      client.FarOff budget destination (.time request) (client.perform (.time request)) := by
  have course := timeCourse_queryTime client request
  rw [perform]
  generalize client.queryTime request = result at course ⊢
  cases course with
  | refused refusal => simp [accepted] at refusal
  | unanswered accepted' outcome =>
    obtain ⟨rfl, rfl⟩ := accept_unique accepted accepted'
    left
    apply Fate.failed
    rw [network_fail]
    exact Exchange.cause_of_failed outcome
  | uncomputed accepted' outcome computed =>
    obtain ⟨rfl, rfl⟩ := accept_unique accepted accepted'
    obtain ⟨-, -, -, -, -, -, -, accepts, -, -⟩ := (Exchange.Carried.steady _).origin outcome
    obtain ⟨rfl, far⟩ := TimeResult.ofAnswer_error (timeExchange_accept.mp accepts).1 computed
    exact .inr (.intro outcome far fun clocked => far (near_of_answered clocked outcome))
  | answered accepted' outcome computed =>
    obtain ⟨rfl, rfl⟩ := accept_unique accepted accepted'
    exact .inl (.returned (Exchange.unspent_of_answered outcome))

/-- An accepted query ends in one of the ways that there are, whatever the system refuses, unless
its clocks are not those of a machine. -/
theorem fate_perform {call : Call}
    (accepted : client.accept call.request = .ok (budget, destination)) :
    client.Fate budget destination call (client.perform call) ∨
      client.FarOff budget destination call (client.perform call) := by
  cases call with
  | status request => exact .inl (fate_queryStatus accepted)
  | time request => exact fate_queryTime accepted

/-- By the clocks of a machine an accepted query ends in one of the ways that there are. -/
theorem fate_of_clocked {call : Call}
    (accepted : client.accept call.request = .ok (budget, destination))
    (clocked : client.network.Clocked (client.perform call).2.network) :
    client.Fate budget destination call (client.perform call) := by
  rcases fate_perform accepted with fate | far
  · exact fate
  · generalize client.perform call = result at far clocked ⊢
    cases far with
    | intro outcome far unclocked => exact absurd clocked unclocked

/-- Where neither a socket can be bound nor be closed. -/
theorem fate_perform_unbound :
    let network : Network := { faults := { bind := [some "in use"], close := [some "bad fd"] } }
    let client := Client.onNetwork network none
    let call : Call := .status
      { host := "127.0.0.1", port := 12300, retries := some 0, timeoutMs := some 1000 }
    client.accept call.request = .ok (⟨0, 1000, by decide⟩, ⟨"127.0.0.1", 12300⟩) ∧
      (client.Fate ⟨0, 1000, by decide⟩ ⟨"127.0.0.1", 12300⟩ call (client.perform call) ∨
        client.FarOff ⟨0, 1000, by decide⟩ ⟨"127.0.0.1", 12300⟩ call (client.perform call)) := by
  intro network client call
  have found : client.network.lookup call.request.host = some ["127.0.0.1"] := by decide +kernel
  have accepted : client.accept call.request =
      .ok (⟨0, 1000, by decide⟩, ⟨"127.0.0.1", 12300⟩) := accept_of_lookup rfl found (by decide)
  exact ⟨accepted, fate_perform accepted⟩

/-- A request that cannot be sent is not told of where the socket cannot be closed. -/
theorem queryTime_unclosed :
    let network : Network := { faults := { send := [some "no route"], close := [some "bad fd"] } }
    let client := Client.onNetwork network none
    let request : Request :=
      { host := "127.0.0.1", port := 12300, retries := some 0, timeoutMs := some 1000 }
    (client.accept request).toBool = true ∧
      ∃ failure, (client.queryTime request).1 = .error failure ∧
        failure.isQueryFailure = false := by
  intro network client request
  have found : client.network.lookup request.host = some ["127.0.0.1"] := by decide +kernel
  have accepted : client.accept request =
      .ok (⟨0, 1000, by decide⟩, ⟨"127.0.0.1", 12300⟩) := accept_of_lookup rfl found (by decide)
  refine ⟨by rw [accepted]; rfl, .system, ?_, rfl⟩
  simp only [queryTime, accepted]
  rfl

end Client

end NtpQuery
