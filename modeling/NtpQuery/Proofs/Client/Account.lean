import NtpQuery.Proofs.Client.Failing
import NtpQuery.Proofs.Exchange.Measures
import NtpQuery.Proofs.Exchange.Settlement

/-!
# The account of a query

What a client keeps about a query are the events that the query caused, and
these add up to what happened: whether the query was accepted, whether it
returned, how many datagrams left, and what became of its follow-up. `Account`
says so for one query. Queries on one client are accounted for one by one, each
with the client that it finds.

A failure that is no query error is noted nowhere. The sums that depend on how
a query ended therefore presuppose that it returned or reported an error.

What the events tell is bounded by the budget and by the clock, where it is not
turned back.
-/

namespace NtpQuery

theorem Record.observeAll_append (record : Record) (events later : List TimedEvent) :
    record.observeAll (events ++ later) = (record.observeAll events).observeAll later :=
  List.foldl_append

/-- No number that is told of a query with this budget is larger, times apart. -/
def Budget.reach (budget : Budget) : Nat :=
  max (2 ^ 32) (max budget.attempts budget.timeoutMs)

theorem Budget.le_reach (budget : Budget) :
    2 ^ 32 ≤ budget.reach ∧ budget.attempts ≤ budget.reach ∧ budget.timeoutMs ≤ budget.reach := by
  rw [reach]
  omega

def Call.kind : Call → QueryKind
  | .status _ => .status
  | .time _ => .time

/-- An outcome that is a result or a reported error. -/
def Regular {α : Type} (outcome : Except Failure α) : Prop :=
  ∀ failure, outcome = .error failure → ∃ error, failure = .reported error

namespace Client

/-- Queries made one after the other, each with the client that it finds. -/
def stages (client : Client) : List Call → List (Client × Call)
  | [] => []
  | call :: calls => (client, call) :: (client.perform call).2.stages calls

/-- What asking for the peer that a text names came to; none when it names no peer. -/
def peerAsked? (client : Client) (budget : Budget) (destination : Endpoint) (text : String) :
    Option (Except Failure (Answer ControlPacket)) :=
  match VariableList.peerAssociation? text with
  | some (some association) => some (client.fetchVariables budget destination association).1
  | _ => none

/-- What the follow-up of a query came to; none when it made none. -/
def followUp? (client : Client) : Call → Option (Except Failure (Answer ControlPacket))
  | .time _ => none
  | .status request =>
    match client.accept request with
    | .error _ => none
    | .ok (budget, destination) =>
      match (client.start .status budget destination).fetchVariables budget destination 0 with
      | (.error _, _) => none
      | (.ok answer, next) => next.peerAsked? budget destination answer.packet.text

/-- Whether an outcome is a reported error other than that nobody responded. -/
def isReportedOther {α : Type} : Except Failure α → Bool
  | .error (.reported error) => !error.isNoResponse
  | _ => false

/-- The budget of a query, if it gets one, and the times at its ends bound what an event tells. -/
def Tells (client : Client) (call : Call) (last : Client) (event : TimedEvent) : Prop :=
  ∃ budget, client.defaults.override call.request.retries call.request.timeoutMs = .ok budget ∧
    event.Between client.now last.now budget.reach

theorem Tells.mono {client first last later : Client} {call : Call} {event : TimedEvent}
    (tells : client.Tells call last event) (defaults : client.defaults = first.defaults)
    (before : first.now ≤ client.now) (after : last.now ≤ later.now) :
    first.Tells call later event := by
  obtain ⟨budget, made, between⟩ := tells
  exact ⟨budget, defaults ▸ made, between.mono before after (Nat.le_refl _)⟩

/-- What the events of a query say of it. -/
structure Account (client : Client) (call : Call) (events : List TimedEvent) : Prop where
  record : (client.perform call).2.record = client.record.observeAll events
  own : ∀ event ∈ events, event.event.kindName = call.kind.name
  flat : ∀ event ∈ events, event.event.IsFlat
  sent : (client.perform call).2.network.sentRev.length =
    client.network.sentRev.length + Counter.sent.count events
  queries : Counter.queries.count events = (client.accept call.request).toBool.toNat
  succeeded : Counter.succeeded.count events = (client.perform call).1.toBool.toNat
  noResponse : Counter.noResponse.count events = (isUnanswered (client.perform call).1).toNat
  transportErrors : Counter.transportErrors.count events =
    ((client.accept call.request).toBool && isReportedOther (client.perform call).1).toNat
  exhausted : exhaustions events =
    Counter.noResponse.count events + ((client.followUp? call).any isUnanswered).toNat
  settled : Regular (client.perform call).1 →
    Counter.queries.count events = Counter.succeeded.count events +
      Counter.noResponse.count events + Counter.transportErrors.count events
  received : Regular (client.perform call).1 →
    Counter.received.count events = Counter.discarded.count events +
      Counter.succeeded.count events + ((client.followUp? call).any Except.toBool).toNat
  followUps : Regular (client.perform call).1 →
    (client.followUp? call).isSome.toNat =
      ((client.followUp? call).any Except.toBool).toNat + Counter.peerFailures.count events
  told : setback client.network.faults.wait = 0 →
    ∀ event ∈ events, client.Tells call (client.perform call).2 event

/-- Between two clients datagrams were exchanged for a query of a kind: so many were accepted, and
so often the attempts ran out or a follow-up failed. -/
structure Ran (client next : Client) (kind : QueryKind) (budget : Budget)
    (heard exhausted failed : Nat) (events : List TimedEvent) : Prop where
  record : next.record = client.record.observeAll events
  own : ∀ event ∈ events, event.event.kindName = kind.name
  flat : ∀ event ∈ events, event.event.IsFlat
  sent : next.network.sentRev.length =
    client.network.sentRev.length + Counter.sent.count events
  queries : Counter.queries.count events = 0
  succeeded : Counter.succeeded.count events = 0
  noResponse : Counter.noResponse.count events = 0
  transportErrors : Counter.transportErrors.count events = 0
  received : Counter.received.count events = Counter.discarded.count events + heard
  exhausted : exhaustions events = exhausted
  peerFailures : Counter.peerFailures.count events = failed
  steady : client.channel.Steady next.channel
  told : setback client.network.faults.wait = 0 →
    ∀ event ∈ events, event.Between client.now next.now budget.reach

theorem nodup_keys_statusVariables (systemText peerText : String) :
    (statusVariables systemText peerText).keys.Nodup := by
  have known : (VariableList.read systemText "sys" []).keys.Nodup :=
    Mapping.nodup_keys_putAll _ List.nodup_nil
  rw [statusVariables]
  split
  · exact known
  · exact Mapping.nodup_keys_putAll _ known

/-- Variables are texts, each with a name of its own. -/
theorem isFlat_textMembers {kind : String} {roundTrip : Int} (systemText peerText : String) :
    (Event.answered kind roundTrip (textMembers (statusVariables systemText peerText))).IsFlat := by
  refine ⟨?_, ?_⟩
  · rw [textMembers, Mapping.keys, List.map_map]
    exact nodup_keys_statusVariables systemText peerText
  · intro member mem
    obtain ⟨entry, -, rfl⟩ := List.mem_map.mp mem
    exact Json.isScalar_text entry.2

theorem isFlat_entries {kind : String} {roundTrip : Int} (result : TimeResult) :
    (Event.answered kind roundTrip result.entries).IsFlat :=
  ⟨by simp [TimeResult.entries], by simp [TimeResult.entries]⟩

theorem memberWholes_textMembers (known : Mapping String String) :
    Json.memberWholes (textMembers known) = [] := by
  induction known with
  | nil => rfl
  | cons entry known ih =>
    rw [textMembers, List.map_cons, Json.memberWholes, ← textMembers, ih]
    rfl

/-- The numbers of a time result are those of the packet. -/
theorem memberWholes_entries {data : Bytes} {packet : ClientPacket} {t1 t4 : Int}
    {result : TimeResult} (decoded : ClientPacket.decodeAnswer data = .ok packet)
    (computed : TimeResult.ofAnswer packet t1 t4 = .ok result) :
    ∀ n ∈ Json.memberWholes result.entries, n.natAbs ≤ 2 ^ 32 := by
  obtain ⟨time, stratum, precision, -⟩ := TimeResult.ofAnswer_eq_ok computed
  have fits := TimeResult.fits_of_decodeAnswer decoded
  have transmitted := fits.transmitSeconds
  have level := fits.stratum
  have power := fits.precision
  intro n mem
  replace mem : n ∈ [result.time, result.stratum, result.precision] := mem
  simp only [List.mem_cons, List.not_mem_nil, or_false, time, stratum, precision,
    Wire.epochOffset] at mem
  omega

/-- What is noted of a query when it is over: its result, its error, or nothing. -/
inductive Closing (client last : Client) (kind : QueryKind) :
    Except Failure Unit → List TimedEvent → Prop
  | answered {roundTrip : Int} {members : List (String × Json)}
      (flat : (Event.answered kind.name roundTrip members).IsFlat)
      (small : ∀ n ∈ Json.memberWholes members, n.natAbs ≤ 2 ^ 32)
      (trip : setback client.network.faults.wait = 0 →
        0 ≤ roundTrip ∧ roundTrip ≤ last.now - client.now) :
      Closing client last kind (.ok ()) [⟨last.now, .answered kind.name roundTrip members⟩]
  | failed {error : QueryError} :
      Closing client last kind (.error (.reported error)) [⟨last.now, .failed kind.name error⟩]
  | untold {failure : Failure} (unreported : ∀ error, failure ≠ .reported error) :
      Closing client last kind (.error failure) []

theorem closing_fail (client last : Client) (kind : QueryKind) (failure : Failure) :
    ∃ events, Closing client last kind (.error failure) events ∧
      (last.fail kind failure).record = last.record.observeAll events := by
  cases failure with
  | reported error => exact ⟨_, .failed, rfl⟩
  | _ => exact ⟨[], .untold (by simp), rfl⟩

variable {client middle next : Client} {budget : Budget} {destination : Endpoint}

namespace Ran

variable {kind : QueryKind} {heard exhausted failed : Nat} {events : List TimedEvent}

theorem nothing (client : Client) (kind : QueryKind) (budget : Budget) :
    client.Ran client kind budget 0 0 0 [] :=
  ⟨rfl, by simp, by simp, rfl, rfl, rfl, rfl, rfl, rfl, rfl, rfl, .refl _, by simp⟩

theorem trans {heard' exhausted' failed' : Nat} {later : List TimedEvent}
    (h : client.Ran middle kind budget heard exhausted failed events)
    (h' : middle.Ran next kind budget heard' exhausted' failed' later) :
    client.Ran next kind budget (heard + heard') (exhausted + exhausted') (failed + failed')
      (events ++ later) := by
  obtain ⟨record, own, flat, sent, queries, succeeded, noResponse, transportErrors, received,
    run_out, peers, steady, told⟩ := h
  obtain ⟨record', own', flat', sent', queries', succeeded', noResponse', transportErrors',
    received', run_out', peers', steady', told'⟩ := h'
  refine ⟨?_, ?_, ?_, ?_, ?_, ?_, ?_, ?_, ?_, ?_, ?_, steady.trans steady', ?_⟩
  · rw [Record.observeAll_append, ← record, record']
  · exact List.forall_mem_append.mpr ⟨own, own'⟩
  · exact List.forall_mem_append.mpr ⟨flat, flat'⟩
  case refine_12 =>
    intro forward
    obtain ⟨forward', earlier⟩ := steady.forward forward
    have later := (steady'.forward forward').2
    refine List.forall_mem_append.mpr ⟨?_, ?_⟩
    · intro event mem
      exact (told forward event mem).mono (Int.le_refl _) later (Nat.le_refl _)
    · intro event mem
      exact (told' forward' event mem).mono earlier (Int.le_refl _) (Nat.le_refl _)
  all_goals
    simp only [Counter.count_append, exhaustions_append]
    omega

end Ran

/-- An exchange for a query, whatever the session does before. -/
theorem ran_after {α : Type} (client : Client) (exchange : Exchange α) {channel : Channel}
    (network : channel.network = client.network)
    (fits : exchange.Fits exchange.query.budget.reach) :
    ∃ events, client.Ran (client.after (exchange.run channel)) exchange.query.kind
      exchange.query.budget (exchange.run channel).outcome.toBool.toNat
      (isUnanswered (exchange.run channel).outcome).toNat 0 events := by
  have settled := exchange.settled_run channel
  obtain ⟨queries, succeeded, noResponse, transportErrors, peerFailures⟩ := settled.idle
  have steady := (Exchange.Carried.steady exchange).run channel
  have same : client.channel.Steady channel :=
    .of_unmoved (congrArg Network.hosts network) (congrArg Network.wallOffset network)
      (fun quiet => by rwa [network]) (congrArg Network.clock network)
      (congrArg (·.faults.wait) network)
  have now : client.now = channel.clock := congrArg Network.clock network.symm
  refine ⟨_, rfl, settled.kindName_eq, fun event mem => (settled.own event mem).isFlat,
    network ▸ settled.sent, queries, succeeded, noResponse, transportErrors, settled.received,
    settled.exhausted, peerFailures, same.trans steady, ?_⟩
  intro forward
  rw [now]
  exact Exchange.between_run fits channel (network ▸ forward)

theorem fits_variablesExchange {association sequence : Int} {payload : Bytes}
    (length : payload.length = Wire.controlPacketSize)
    (numbered : 0 ≤ sequence ∧ sequence < 65536) :
    (variablesExchange budget destination association sequence payload).Fits budget.reach := by
  have reach := budget.le_reach
  refine ⟨reach.2.1, ?_, ?_, ?_⟩
  · intro _ _
    show payload.length ≤ _
    simp only [length, Wire.controlPacketSize]
    omega
  · show (0 : Int) ≤ 512 ∧ (512 : Int) ≤ budget.reach
    omega
  · rintro n ⟨⟩
    omega

theorem fits_timeExchange : (timeExchange budget destination).Fits budget.reach := by
  have reach := budget.le_reach
  refine ⟨reach.2.1, ?_, ?_, by simp [timeExchange]⟩
  · intro _ now
    show (ClientPacket.request now).length ≤ _
    simp only [ClientPacket.length_request, Wire.clientPacketSize]
    omega
  · show (0 : Int) ≤ 512 ∧ (512 : Int) ≤ budget.reach
    omega

theorem ran_fetchVariables {association : Int} {result : Except Failure (Answer ControlPacket)}
    (fetched : client.fetchVariables budget destination association = (result, next)) :
    ∃ events, client.Ran next .status budget result.toBool.toNat (isUnanswered result).toNat 0
      events := by
  obtain ⟨payload, written, run⟩ := client.fetchVariables_eq budget destination association
  rw [fetched, Prod.mk.injEq] at run
  obtain ⟨rfl, rfl⟩ := run
  obtain ⟨other, same, length, -⟩ :=
    ControlPacket.request_spec association client.numbered.channel.session.sequence
  obtain rfl := Except.ok.inj (same.symm.trans written)
  exact ran_after client _ (rfl : client.numbered.channel.network = client.network)
    (fits_variablesExchange length
      ⟨Int.emod_nonneg _ (by decide), Int.emod_lt_of_pos _ (by decide)⟩)

/-- The round trip of an answer is within the time that it took to fetch it. -/
theorem roundTrip_fetched {association : Int} {answer : Answer ControlPacket}
    (fetched : client.fetchVariables budget destination association = (.ok answer, next))
    (forward : setback client.network.faults.wait = 0) :
    0 ≤ answer.roundTrip ∧ answer.roundTrip ≤ next.now - client.now := by
  obtain ⟨payload, -, run⟩ := client.fetchVariables_eq budget destination association
  rw [fetched, Prod.mk.injEq] at run
  obtain ⟨outcome, rfl⟩ := run
  exact Exchange.roundTrip_run _ client.numbered.channel forward outcome.symm

theorem ran_peerFailed (client : Client) (budget : Budget) (error : QueryError) :
    client.Ran (client.observe (.peerFailed error)) .status budget 0 0 1
      [⟨client.now, .peerFailed error⟩] := by
  refine ⟨rfl, by simp [Event.kindName], by simp [Event.IsFlat], rfl, rfl, rfl, rfl, rfl, rfl, rfl,
    rfl, .refl _, ?_⟩
  intro _ event mem
  rw [List.mem_singleton.mp mem]
  exact .of_plain (Int.le_refl _) (Int.le_refl _) rfl rfl

/-- A follow-up that was made was answered or noted as failed, unless it failed the query. -/
theorem ran_fetchPeer {text : String} {result : Except Failure String}
    (followed : client.fetchPeer budget destination text = (result, next)) :
    ∃ failed events, client.Ran next .status budget
        ((client.peerAsked? budget destination text).any Except.toBool).toNat
        ((client.peerAsked? budget destination text).any isUnanswered).toNat failed events ∧
      (result.toBool = true → (client.peerAsked? budget destination text).isSome.toNat =
        ((client.peerAsked? budget destination text).any Except.toBool).toNat + failed) ∧
      ∀ error, result ≠ .error (.reported error) := by
  have followUp := followUp_fetchPeer client budget destination text
  rw [followed] at followUp
  cases followUp with
  | unreadable peer =>
    simp only [peerAsked?, peer]
    exact ⟨0, [], .nothing client .status budget, by simp [Except.toBool], by simp⟩
  | needless peer =>
    simp only [peerAsked?, peer]
    exact ⟨0, [], .nothing client .status budget, fun _ => rfl, by simp⟩
  | answered peer fetched =>
    obtain ⟨events, ran⟩ := ran_fetchVariables fetched
    simp only [peerAsked?, peer, fetched]
    exact ⟨0, events, ran, fun _ => rfl, by simp⟩
  | @unanswered association error last peer fetched =>
    obtain ⟨events, ran⟩ := ran_fetchVariables fetched
    simp only [peerAsked?, peer, fetched]
    exact ⟨1, _, ran.trans (ran_peerFailed last budget _), fun _ => rfl, by simp⟩
  | failed peer fetched unreported =>
    obtain ⟨events, ran⟩ := ran_fetchVariables fetched
    simp only [peerAsked?, peer, fetched]
    refine ⟨0, events, ran, by simp [Except.toBool], ?_⟩
    intro error same
    exact unreported error (Except.error.inj same)

theorem ran_afterAsking (client : Client) (budget : Budget) (destination : Endpoint) :
    ∃ events, (client.start .time budget destination).Ran (client.afterAsking budget destination)
      .time budget ((timeExchange budget destination).run client.channel).outcome.toBool.toNat
      (isUnanswered ((timeExchange budget destination).run client.channel).outcome).toNat 0
      events :=
  ran_after (client.start .time budget destination) _ rfl fits_timeExchange

/-- What is noted at the end counts as the end that it was. -/
theorem Closing.spec {kind : QueryKind} {last : Client} {outcome : Except Failure Unit}
    {events : List TimedEvent} (closing : Closing client last kind outcome events) :
    (∀ event ∈ events, event.event.kindName = kind.name) ∧
      (∀ event ∈ events, event.event.IsFlat) ∧
      (∀ counter ∈ [Counter.queries, .peerFailures, .sent, .received, .discarded],
        counter.count events = 0) ∧ exhaustions events = 0 ∧
      Counter.succeeded.count events = outcome.toBool.toNat ∧
      Counter.noResponse.count events = (isUnanswered outcome).toNat ∧
      Counter.transportErrors.count events = (isReportedOther outcome).toNat ∧
      (Regular outcome → Counter.succeeded.count events + Counter.noResponse.count events +
        Counter.transportErrors.count events = 1) := by
  cases closing with
  | answered flat =>
    refine ⟨by simp [Event.kindName], by simpa using flat, by simp [Event.counter?], rfl, rfl, rfl,
      rfl, fun _ => rfl⟩
  | @failed error =>
    cases silent : error.isNoResponse with
    | false =>
      simp [Event.kindName, Event.IsFlat, Event.counter?, Event.isExhausted, silent, isUnanswered,
        isReportedOther, Failure.isNoResponse, Except.toBool]
    | true =>
      simp [Event.kindName, Event.IsFlat, Event.counter?, Event.isExhausted, silent, isUnanswered,
        isReportedOther, Failure.isNoResponse, Except.toBool]
  | @untold failure unreported =>
    refine ⟨by simp, by simp, by simp, rfl, rfl, ?_, ?_, ?_⟩
    · cases failure with
      | reported error => exact absurd rfl (unreported error)
      | _ => rfl
    · cases failure with
      | reported error => exact absurd rfl (unreported error)
      | _ => rfl
    · intro regular
      obtain ⟨error, reported⟩ := regular failure rfl
      exact absurd reported (unreported error)

/-- What is noted at the end is noted then. -/
theorem Closing.between {kind : QueryKind} {last : Client} {outcome : Except Failure Unit}
    {events : List TimedEvent} (closing : Closing client last kind outcome events)
    (forward : setback client.network.faults.wait = 0) (earlier : client.now ≤ last.now)
    (budget : Budget) :
    ∀ event ∈ events, event.Between client.now last.now budget.reach := by
  have reach := budget.le_reach.1
  cases closing with
  | answered flat small trip =>
    intro event mem
    rw [List.mem_singleton.mp mem]
    refine ⟨earlier, Int.le_refl _, ?_, fun n mem => Nat.le_trans (small n mem) reach⟩
    intro time told
    obtain rfl := Option.some.inj told
    exact trip forward
  | failed =>
    intro event mem
    rw [List.mem_singleton.mp mem]
    exact .of_plain earlier (Int.le_refl _) rfl rfl
  | untold => simp

/-- What is noted at the start is the destination and the budget. -/
theorem between_start {call : Call} (accepted : client.accept call.request = .ok (budget, destination)) :
    (⟨client.now, .query call.kind.name destination budget.retries budget.timeoutMs⟩ :
      TimedEvent).Between client.now client.now budget.reach := by
  have reach := budget.le_reach
  have port := port_of_accept accepted
  refine ⟨Int.le_refl _, Int.le_refl _, by simp [Event.measured?], ?_⟩
  rw [Budget.attempts] at reach
  simp only [Event.numbers, List.mem_cons, List.not_mem_nil, or_false]
  omega

/-- An accepted query: it is noted, carried out and concluded. -/
theorem Ran.account {call : Call} {outcome : Except Failure Unit} {last : Client}
    {heard exhausted failed : Nat} {events closing : List TimedEvent}
    (ran : (client.start call.kind budget destination).Ran next call.kind budget heard exhausted
      failed events)
    (accepted : client.accept call.request = .ok (budget, destination))
    (performed : client.perform call = (outcome, last))
    (closes : Closing client next call.kind outcome closing)
    (record : last.record = next.record.observeAll closing)
    (network : last.network = next.network)
    (ends : exhausted =
      (isUnanswered outcome).toNat + ((client.followUp? call).any isUnanswered).toNat)
    (matched : Regular outcome →
      heard = outcome.toBool.toNat + ((client.followUp? call).any Except.toBool).toNat ∧
      (client.followUp? call).isSome.toNat =
        ((client.followUp? call).any Except.toBool).toNat + failed) :
    ∃ all, client.Account call all := by
  obtain ⟨own, flat, zero, unended, succeeded, noResponse, transportErrors, settled⟩ := closes.spec
  simp only [List.mem_cons, List.not_mem_nil, or_false, forall_eq_or_imp, forall_eq] at zero
  obtain ⟨queries, peers, sent, received, discarded⟩ := zero
  let opening : TimedEvent :=
    ⟨client.now, .query call.kind.name destination budget.retries budget.timeoutMs⟩
  -- The event at the start counts as a query and as nothing else.
  have counts : ∀ counter : Counter, counter.count (opening :: (events ++ closing)) =
      counter.count events + counter.count closing + if counter = .queries then 1 else 0 := by
    intro counter
    rw [Counter.count_cons, Counter.count_append]
    cases counter <;> rfl
  refine ⟨opening :: (events ++ closing), ?_, ?_, ?_, ?_, ?_, ?_, ?_, ?_, ?_, ?_, ?_, ?_, ?_⟩
  · rw [performed]
    show last.record = _
    rw [record, ran.record, Record.observeAll_cons, Record.observeAll_append]
    rfl
  · exact List.forall_mem_cons.mpr ⟨rfl, List.forall_mem_append.mpr ⟨ran.own, own⟩⟩
  · exact List.forall_mem_cons.mpr ⟨trivial, List.forall_mem_append.mpr ⟨ran.flat, flat⟩⟩
  · rw [performed]
    show last.network.sentRev.length = _
    rw [network, ran.sent, counts, sent]
    rfl
  · rw [counts, ran.queries, queries, accepted]
    rfl
  · rw [counts, ran.succeeded, succeeded, performed]
    exact Nat.zero_add _
  · rw [counts, ran.noResponse, noResponse, performed]
    exact Nat.zero_add _
  · rw [counts, ran.transportErrors, transportErrors, performed, accepted]
    exact Nat.zero_add _
  · have none : opening.event.isExhausted = false := rfl
    simp only [exhaustions_cons, exhaustions_append, none, ran.exhausted, unended, counts,
      ran.noResponse, noResponse, ends, reduceCtorEq, if_false]
    omega
  · intro regular
    rw [performed] at regular
    have one := settled regular
    simp only [counts, ran.queries, ran.succeeded, ran.noResponse, ran.transportErrors, queries,
      reduceCtorEq, if_true, if_false]
    omega
  · intro regular
    rw [performed] at regular
    have heard := (matched regular).1
    simp only [counts, ran.received, ran.succeeded, received, discarded, succeeded, heard,
      reduceCtorEq, if_false]
    omega
  · intro regular
    rw [performed] at regular
    rw [counts, ran.peerFailures, peers, (matched regular).2]
    rfl
  · intro forward event mem
    have later : client.now ≤ next.now := (ran.steady.forward forward).2
    refine ⟨budget, override_of_accept accepted, ?_⟩
    rw [performed, show (outcome, last).2.now = next.now from congrArg Network.clock network]
    rcases List.mem_cons.mp mem with rfl | mem
    · exact (between_start accepted).mono (Int.le_refl _) later (Nat.le_refl _)
    · rcases List.mem_append.mp mem with mem | mem
      · exact ran.told forward event mem
      · exact closes.between forward later budget event mem

theorem followUp?_of_refused {call : Call} {failure : Failure}
    (refusal : client.accept call.request = .error failure) : client.followUp? call = none := by
  cases call with
  | status request => simp only [followUp?, show client.accept request = _ from refusal]
  | time request => rfl

/-- A query that is not accepted notes nothing. -/
theorem account_of_refused {call : Call} {failure : Failure}
    (refusal : client.accept call.request = .error failure) : client.Account call [] := by
  have performed := perform_of_refused refusal
  have alone := followUp?_of_refused refusal
  constructor
  · rw [performed]
    rfl
  · simp
  · simp
  · rw [performed]
    rfl
  · rw [refusal]
    rfl
  · rw [performed]
    rfl
  · rw [performed]
    rcases accept_error refusal with ⟨message, rfl, -⟩ | ⟨message, rfl⟩
    · rfl
    · rfl
  · rw [refusal]
    rfl
  · rw [alone]
    rfl
  · exact fun _ => rfl
  · rw [alone]
    exact fun _ => rfl
  · rw [alone]
    exact fun _ => rfl
  · simp

theorem account_queryStatus (client : Client) (request : Request) :
    ∃ events, client.Account (.status request) events := by
  have course := statusCourse_queryStatus client request
  have performed : client.perform (.status request) =
      ((client.queryStatus request).1.map fun _ => (), (client.queryStatus request).2) := rfl
  generalize client.queryStatus request = result at course performed
  cases course with
  | refused refusal => exact ⟨[], account_of_refused refusal⟩
  | @unanswered _ _ failure next accepted fetched =>
    obtain ⟨events, ran⟩ := ran_fetchVariables fetched
    obtain ⟨closing, closes, record⟩ := closing_fail client next .status failure
    have alone : client.followUp? (.status request) = none := by
      simp only [followUp?, accepted, fetched]
    refine ran.account accepted performed closes record (network_fail _ _ _) ?_ ?_
    · rw [alone]
      rfl
    · rw [alone]
      exact fun _ => ⟨rfl, rfl⟩
  | @unfinished budget destination answer failure next last accepted fetched followed =>
    obtain ⟨events, ran⟩ := ran_fetchVariables fetched
    obtain ⟨failed, later, ran', -, unreported⟩ := ran_fetchPeer followed
    have unreported : ∀ error, failure ≠ .reported error :=
      fun error same => unreported error (congrArg Except.error same)
    have asked : client.followUp? (.status request) =
        next.peerAsked? budget destination answer.packet.text := by
      simp only [followUp?, accepted, fetched]
    refine (ran.trans ran').account accepted performed (.untold unreported) rfl rfl ?_ ?_
    · rw [asked]
      cases failure with
      | reported error => exact absurd rfl (unreported error)
      | _ => rfl
    · intro regular
      obtain ⟨error, reported⟩ := regular failure rfl
      exact absurd reported (unreported error)
  | @answered budget destination answer peerText next last accepted fetched followed =>
    obtain ⟨events, ran⟩ := ran_fetchVariables fetched
    obtain ⟨failed, later, ran', started, -⟩ := ran_fetchPeer followed
    have asked : client.followUp? (.status request) =
        next.peerAsked? budget destination answer.packet.text := by
      simp only [followUp?, accepted, fetched]
    have trip : setback client.network.faults.wait = 0 →
        0 ≤ answer.roundTrip ∧ answer.roundTrip ≤ last.now - client.now := by
      intro forward
      have later := (ran'.steady.forward (ran.steady.forward forward).1).2
      have within := roundTrip_fetched fetched forward
      exact ⟨within.1, Int.le_trans within.2 (Int.sub_le_sub_right later _)⟩
    refine (ran.trans ran').account accepted performed
      (.answered (isFlat_textMembers _ _) (by simp [memberWholes_textMembers]) trip) rfl rfl ?_ ?_
    · rw [asked]
      rfl
    · rw [asked]
      intro regular
      exact ⟨rfl, by rw [started rfl, Nat.zero_add]⟩

theorem account_queryTime (client : Client) (request : Request) :
    ∃ events, client.Account (.time request) events := by
  have course := timeCourse_queryTime client request
  have performed : client.perform (.time request) =
      ((client.queryTime request).1.map fun _ => (), (client.queryTime request).2) := rfl
  generalize client.queryTime request = result at course performed
  cases course with
  | refused refusal => exact ⟨[], account_of_refused refusal⟩
  | @unanswered budget destination failure accepted outcome =>
    obtain ⟨events, ran⟩ := ran_afterAsking client budget destination
    obtain ⟨closing, closes, record⟩ :=
      closing_fail client (client.afterAsking budget destination) .time failure
    rw [outcome] at ran
    exact ran.account accepted performed closes record (network_fail _ _ _) rfl
      fun _ => ⟨rfl, rfl⟩
  | @uncomputed budget destination answer failure accepted outcome computed =>
    obtain ⟨events, ran⟩ := ran_afterAsking client budget destination
    obtain ⟨-, -, -, -, -, -, -, accepts, -, -⟩ := (Exchange.Carried.steady _).origin outcome
    obtain ⟨rfl, -⟩ := TimeResult.ofAnswer_error (timeExchange_accept.mp accepts).1 computed
    rw [outcome] at ran
    refine ran.account accepted performed (.untold (by simp)) rfl rfl rfl ?_
    intro regular
    obtain ⟨error, reported⟩ := regular .overflow rfl
    simp at reported
  | @answered budget destination answer result accepted outcome computed =>
    obtain ⟨events, ran⟩ := ran_afterAsking client budget destination
    obtain ⟨-, -, -, -, -, -, -, accepts, -, -⟩ := (Exchange.Carried.steady _).origin outcome
    have small := memberWholes_entries (timeExchange_accept.mp accepts).1 computed
    have trip : setback client.network.faults.wait = 0 → 0 ≤ answer.roundTrip ∧
        answer.roundTrip ≤ (client.afterAsking budget destination).now - client.now :=
      fun forward => Exchange.roundTrip_run _ client.channel forward outcome
    rw [outcome] at ran
    exact ran.account accepted performed (.answered (isFlat_entries result) small trip) rfl rfl rfl
      fun _ => ⟨rfl, rfl⟩

/-- Every query is accounted for. -/
theorem account_perform (client : Client) (call : Call) :
    ∃ events, client.Account call events := by
  cases call with
  | status request => exact account_queryStatus client request
  | time request => exact account_queryTime client request

end Client

end NtpQuery
