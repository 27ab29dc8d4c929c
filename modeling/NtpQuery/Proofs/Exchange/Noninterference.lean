import NtpQuery.Client
import NtpQuery.Proofs.Exchange.Completeness
import NtpQuery.Proofs.Exchange.Schedule

/-!
# Unwanted datagrams do not interfere

Two runs of an exchange on networks that differ only in datagrams that the
exchange turns away end alike and send the same requests at the same times,
although they wait and receive differently all the way. Each run is described
by itself first: it ends in the first attempt at whose deadline an awaited
datagram has come, with the first such datagram (`answered_of_awaited`). What was
delivered up to an attempt does not depend on how the run went, and the awaited
part of it is the same on both networks (`alike_sendings`).

A datagram that arrives just at the deadline of an attempt is the exception. It
is read in that attempt, unless one that is turned away is read there before it.
-/

namespace NtpQuery

/-- Networks that differ, in what matters to an exchange, only in scripted datagrams that are not
wanted. -/
structure Network.Alike (wanted : Datagram → Bool) (left right : Network) : Prop where
  clock : left.clock = right.clock
  wallOffset : left.wallOffset = right.wallOffset
  station : left.station = right.station
  script : ∀ k : Nat, (left.script.getD k []).filter (wanted ·.datagram) =
    (right.script.getD k []).filter (wanted ·.datagram)

namespace Network.Alike

variable {wanted : Datagram → Bool} {left right : Network}

theorem symm (alike : left.Alike wanted right) : right.Alike wanted left :=
  ⟨alike.clock.symm, alike.wallOffset.symm, alike.station.symm, fun k => (alike.script k).symm⟩

theorem advance (alike : left.Alike wanted right) (ms : Int) :
    (left.advance ms).Alike wanted (right.advance ms) :=
  ⟨congrArg (· + ms) alike.clock, alike.wallOffset, alike.station, alike.script⟩

theorem wallSeconds (alike : left.Alike wanted right) : left.wallSeconds = right.wallSeconds := by
  simp only [Network.wallSeconds, Network.wallMs, alike.clock, alike.wallOffset]

/-- What sending brings in differs only in datagrams that are not wanted. -/
theorem bring (alike : left.Alike wanted right) (data : Bytes) (destination : Endpoint) :
    (left.bring data destination).1.filter (wanted ·.datagram) =
        (right.bring data destination).1.filter (wanted ·.datagram) ∧
      (left.bring data destination).2.Alike wanted (right.bring data destination).2 := by
  obtain ⟨replies, station, -, bring⟩ := left.bring_split data destination
  rw [bring left rfl rfl rfl,
    bring right alike.clock.symm alike.wallOffset.symm alike.station.symm]
  constructor
  · have due := alike.script 0
    simp only [List.getD_eq_getElem?_getD, ← List.head?_eq_getElem?,
      ← List.headD_eq_head?_getD] at due
    rw [List.filter_append, List.filter_append, List.filter_map, List.filter_map]
    simp only [Function.comp_def, due]
  · refine ⟨alike.clock, alike.wallOffset, rfl, ?_⟩
    intro k
    have later := alike.script (k + 1)
    simp only [List.getD_eq_getElem?_getD] at later ⊢
    rw [List.getElem?_tail, List.getElem?_tail]
    exact later

end Network.Alike

/-- A channel on which nothing is refused and everything arrives in the order of time. -/
structure Channel.Faultless (channel : Channel) : Prop where
  quiet : channel.network.Quiet
  causal : channel.network.Causal
  ordered : channel.session.inbox.Ordered

namespace Exchange

variable {α : Type}

/-- The datagram is an awaited response. -/
def wants (exchange : Exchange α) (datagram : Datagram) : Bool :=
  (exchange.accept (datagram.cut exchange.receiveSize)).toBool

/-- Channels that differ only in datagrams that the exchange turns away. -/
structure Alike (exchange : Exchange α) (left right : Channel) : Prop where
  network : left.network.Alike exchange.wants right.network
  inbox : left.session.inbox.filter exchange.awaits = right.session.inbox.filter exchange.awaits

/-- No awaited datagram that an attempt could read arrives just at the deadline of the attempt. -/
def ClearOfDeadlines (exchange : Exchange α) (start : Channel) : Prop :=
  ∀ n, 1 ≤ n → n ≤ exchange.query.budget.retries + 1 →
    ∀ arrival ∈ exchange.delivered start n, exchange.awaits arrival = true →
      arrival.time ≠ start.clock + n * exchange.attemptMs

variable {exchange : Exchange α} {start left right : Channel}

theorem mem_delivered_of_le {n m : Nat} (le : n ≤ m) {arrival : Arrival}
    (mem : arrival ∈ exchange.delivered start n) : arrival ∈ exchange.delivered start m := by
  induction le with
  | refl => exact mem
  | step _ ih => exact Inbox.mem_enqueueAll.mpr (.inr ih)

/-- An awaited datagram that comes before the deadline of an attempt is answer enough for it. -/
theorem answered_of_awaited (faultless : start.Faultless) (positive : 0 < exchange.attemptMs)
    (exact : exchange.query.budget.timeoutMs < Network.exactWaitMs) {n : Nat}
    (some : 1 ≤ n) (few : n ≤ exchange.query.budget.retries + 1) {arrival : Arrival}
    (mem : arrival ∈ exchange.delivered start n) (awaited : exchange.awaits arrival = true)
    (soon : arrival.time < start.clock + n * exchange.attemptMs) :
    ∃ answer, (exchange.run start).outcome = .ok answer ∧ answer.attempts ≤ n := by
  obtain ⟨quiet, causal, ordered⟩ := faultless
  cases ended : (exchange.run start).outcome with
  | error failure =>
    obtain ⟨-, -, none⟩ := none_of_unanswered quiet causal ordered positive exact ended
    have late := none arrival (mem_delivered_of_le few mem) awaited
    have shares := Int.mul_le_mul_of_nonneg_right (Int.ofNat_le.mpr few) (Int.le_of_lt positive)
    omega
  | ok answer =>
    obtain ⟨-, -, earliest, first⟩ :=
      first_of_answered quiet causal ordered positive exact ended
    refine ⟨answer, rfl, ?_⟩
    -- The first awaited datagram of a later attempt would come no later than this one.
    by_contra further
    have later : (n : Int) ≤ answer.attempts - 1 := by omega
    have shares := Int.mul_le_mul_of_nonneg_right later (Int.le_of_lt positive)
    have whole : (0 : Int) < n * exchange.attemptMs := Int.mul_pos (by omega) positive
    have sooner : earliest.time ≤ arrival.time :=
      (ordered_delivered exchange ordered answer.attempts).find?_le first.first
        (mem_delivered_of_le (by omega) mem) awaited
    have := first.lower
    have := first.clock
    omega

theorem Alike.symm (alike : exchange.Alike left right) : exchange.Alike right left :=
  ⟨alike.network.symm, alike.inbox.symm⟩

/-- Whatever an exchange takes out of its inbox, what its attempts deliver differs only in
datagrams that are turned away. -/
theorem alike_sendings (alike : exchange.Alike left right)
    (ordered : left.session.inbox.Ordered) (ordered' : right.session.inbox.Ordered) (n : Nat) :
    (exchange.delivered left n).filter exchange.awaits =
        (exchange.delivered right n).filter exchange.awaits ∧
      (exchange.sendings left n).2.Alike exchange.wants (exchange.sendings right n).2 := by
  induction n with
  | zero => exact ⟨alike.inbox, alike.network⟩
  | succ n ih =>
    obtain ⟨inbox, network⟩ := ih
    obtain ⟨brought, after⟩ := network.bring
      (exchange.request (n + 1) (exchange.sendings left n).2.wallSeconds)
      exchange.query.destination
    have sorted : (exchange.sendings left n).1.Ordered := ordered_delivered exchange ordered n
    have sorted' : (exchange.sendings right n).1.Ordered := ordered_delivered exchange ordered' n
    simp only [delivered, sendings, ← network.wallSeconds]
    refine ⟨?_, after.advance exchange.attemptMs⟩
    rw [Inbox.filter_enqueueAll sorted, Inbox.filter_enqueueAll sorted']
    exact congrArg₂ Inbox.enqueueAll inbox brought

/-- An awaited datagram that is delivered on one side is delivered on the other. -/
theorem Alike.mem_delivered (alike : exchange.Alike left right)
    (ordered : left.session.inbox.Ordered) (ordered' : right.session.inbox.Ordered) {n : Nat}
    {arrival : Arrival} (mem : arrival ∈ exchange.delivered left n)
    (awaited : exchange.awaits arrival = true) : arrival ∈ exchange.delivered right n := by
  have among := List.mem_filter.mpr ⟨mem, awaited⟩
  rw [(alike_sendings alike ordered ordered' n).1] at among
  exact (List.mem_filter.mp among).1

theorem Alike.clear (alike : exchange.Alike left right)
    (ordered : left.session.inbox.Ordered) (ordered' : right.session.inbox.Ordered)
    (clear : exchange.ClearOfDeadlines left) : exchange.ClearOfDeadlines right := by
  intro n some few arrival mem awaited
  have apart := clear n some few arrival (alike.symm.mem_delivered ordered' ordered mem awaited)
    awaited
  have start : left.clock = right.clock := alike.network.clock
  rwa [start] at apart

/-- With an answer on one side, the other side is answered no later. -/
theorem Alike.answered (alike : exchange.Alike left right)
    (faultless : left.Faultless) (faultless' : right.Faultless)
    (positive : 0 < exchange.attemptMs)
    (exact : exchange.query.budget.timeoutMs < Network.exactWaitMs)
    (clear : exchange.ClearOfDeadlines left) {answer : Answer α}
    (answered : (exchange.run left).outcome = .ok answer) :
    ∃ answer', (exchange.run right).outcome = .ok answer' ∧
      answer'.attempts ≤ answer.attempts := by
  obtain ⟨some, few, arrival, first⟩ := first_of_answered faultless.quiet faultless.causal
    faultless.ordered positive exact answered
  have mem := List.mem_of_find?_eq_some first.first
  have awaited := List.find?_some first.first
  have apart := clear _ some few arrival mem awaited
  have across := alike.mem_delivered faultless.ordered faultless'.ordered mem awaited
  apply answered_of_awaited faultless' positive exact some few across awaited
  have start : left.clock = right.clock := alike.network.clock
  have := first.upper
  have := first.clock
  omega

/-- Answers to the same number of requests are the same answer. -/
theorem Alike.answer_eq (alike : exchange.Alike left right)
    (faultless : left.Faultless) (faultless' : right.Faultless)
    (positive : 0 < exchange.attemptMs)
    (exact : exchange.query.budget.timeoutMs < Network.exactWaitMs) {answer answer' : Answer α}
    (answered : (exchange.run left).outcome = .ok answer)
    (answered' : (exchange.run right).outcome = .ok answer')
    (same : answer.attempts = answer'.attempts) : answer = answer' := by
  obtain ⟨-, -, arrival, first⟩ := first_of_answered faultless.quiet faultless.causal
    faultless.ordered positive exact answered
  obtain ⟨-, -, arrival', first'⟩ := first_of_answered faultless'.quiet faultless'.causal
    faultless'.ordered positive exact answered'
  obtain ⟨-, sentAt, receivedAt⟩ :=
    (exchange.regular_run left faultless.quiet exact).answered answer answered
  obtain ⟨-, sentAt', receivedAt'⟩ :=
    (exchange.regular_run right faultless'.quiet exact).answered answer' answered'
  have start : left.clock = right.clock := alike.network.clock
  have found : some arrival = some arrival' := by
    rw [← first.first, ← first'.first, ← same, ← List.head?_filter, ← List.head?_filter,
      (alike_sendings alike faultless.ordered faultless'.ordered answer.attempts).1]
  obtain rfl := Option.some.inj found
  have packet := Except.ok.inj (first.packet.symm.trans first'.packet)
  have clock : (exchange.run left).channel.clock = (exchange.run right).channel.clock := by
    rw [first.clock, first'.clock, start]
  rw [start, same, alike.network.wallOffset] at sentAt
  rw [clock, alike.network.wallOffset] at receivedAt
  have roundTrip := first.roundTrip
  rw [clock, start, same] at roundTrip
  cases answer
  cases answer'
  simp only at packet sentAt sentAt' receivedAt receivedAt' roundTrip same
  rw [Answer.mk.injEq]
  exact ⟨packet, first.source.trans first'.source.symm, same, sentAt.trans sentAt'.symm,
    receivedAt.trans receivedAt'.symm, roundTrip.trans first'.roundTrip.symm⟩

theorem Alike.schedule (alike : exchange.Alike left right) (n : Nat) :
    exchange.schedule left n = exchange.schedule right n := by
  have start : left.clock = right.clock := alike.network.clock
  simp only [Exchange.schedule, start, alike.network.wallOffset]

theorem Alike.outcome_eq (alike : exchange.Alike left right)
    (faultless : left.Faultless) (faultless' : right.Faultless)
    (positive : 0 < exchange.attemptMs)
    (exact : exchange.query.budget.timeoutMs < Network.exactWaitMs)
    (clear : exchange.ClearOfDeadlines left) :
    (exchange.run left).outcome = (exchange.run right).outcome := by
  have clear' := alike.clear faultless.ordered faultless'.ordered clear
  cases ended : (exchange.run left).outcome with
  | ok answer =>
    obtain ⟨answer', ended', few⟩ :=
      alike.answered faultless faultless' positive exact clear ended
    obtain ⟨again, same, few'⟩ :=
      alike.symm.answered faultless' faultless positive exact clear' ended'
    obtain rfl := Except.ok.inj (ended.symm.trans same)
    rw [ended', alike.answer_eq faultless faultless' positive exact ended ended' (by omega)]
  | error failure =>
    cases ended' : (exchange.run right).outcome with
    | ok answer' =>
      obtain ⟨answer, same, -⟩ :=
        alike.symm.answered faultless' faultless positive exact clear' ended'
      rw [ended] at same
      simp at same
    | error failure' =>
      rw [((exchange.regular_run left faultless.quiet exact).unanswered _ ended).1,
        ((exchange.regular_run right faultless'.quiet exact).unanswered _ ended').1]

/-- Datagrams that an exchange turns away change neither how it ends nor what it sends and when,
unless an awaited one arrives just at a deadline. -/
theorem noninterference (exchange : Exchange α) (left right : Channel)
    (alike : exchange.Alike left right) (faultless : left.Faultless)
    (faultless' : right.Faultless) (positive : 0 < exchange.attemptMs)
    (exact : exchange.query.budget.timeoutMs < Network.exactWaitMs)
    (clear : exchange.ClearOfDeadlines left) :
    (exchange.run left).outcome = (exchange.run right).outcome ∧
      ∃ sent, (exchange.run left).channel.network.sentRev = sent ++ left.network.sentRev ∧
        (exchange.run right).channel.network.sentRev = sent ++ right.network.sentRev := by
  have same := alike.outcome_eq faultless faultless' positive exact clear
  have regular := exchange.regular_run left faultless.quiet exact
  have regular' := exchange.regular_run right faultless'.quiet exact
  refine ⟨same, ?_⟩
  cases ended : (exchange.run left).outcome with
  | ok answer =>
    obtain ⟨sent, -⟩ := regular.answered answer ended
    obtain ⟨sent', -⟩ := regular'.answered answer (same ▸ ended)
    rw [← alike.schedule] at sent'
    exact ⟨_, sent, sent'⟩
  | error failure =>
    obtain ⟨-, sent, -⟩ := regular.unanswered failure ended
    obtain ⟨-, sent', -⟩ := regular'.unanswered failure (same ▸ ended)
    rw [← alike.schedule] at sent'
    exact ⟨_, sent, sent'⟩

/-- A response to the first request that comes in the second attempt, alone and among all kinds of
datagrams that are turned away, one of them just at the first deadline. -/
theorem noninterference_among_others :
    let server : Endpoint := ⟨"10.0.0.1", 123⟩
    let request : Bytes := [30, 2, 0, 7, 0, 0, 0, 0, 0, 0, 0, 1, 65]
    let response : Bytes := [30, 130, 0, 7, 0, 0, 0, 0, 0, 0, 0, 1, 65]
    let stale : Bytes := [30, 130, 0, 6, 0, 0, 0, 0, 0, 0, 0, 1, 65]
    let exchange := Client.variablesExchange ⟨1, 21, by decide⟩ server 0 7 request
    let socket : Socket := { id := 0, address := ⟨"0.0.0.0", 40001⟩ }
    let left : Channel :=
      { session := { socket := some socket }
        network := { clock := 100, script := [[⟨12, ⟨response, server⟩⟩]] } }
    let right : Channel :=
      { session :=
          { socket := some { socket with inbox := [⟨97, ⟨response, ⟨"10.0.0.1", 124⟩⟩⟩] } }
        network :=
          { clock := 100
            script :=
              [[⟨3, ⟨response, ⟨"10.0.0.2", 123⟩⟩⟩, ⟨12, ⟨response, server⟩⟩,
                  ⟨10, ⟨[30, 130], server⟩⟩],
                [⟨0, ⟨request, server⟩⟩, ⟨1, ⟨stale, server⟩⟩]] } }
    ((exchange.run left).outcome.toOption.map fun answer => (answer.attempts, answer.roundTrip)) =
        some (2, 2) ∧
      (exchange.run right).channel.network.receivedRev.length = 6 ∧
      (exchange.run left).outcome = (exchange.run right).outcome ∧
      ∃ sent, (exchange.run left).channel.network.sentRev = sent ++ left.network.sentRev ∧
        (exchange.run right).channel.network.sentRev = sent ++ right.network.sentRev := by
  intro server request response stale exchange socket left right
  have alike : exchange.Alike left right := by
    refine ⟨⟨rfl, rfl, rfl, ?_⟩, by decide +kernel⟩
    intro k
    rcases k with _ | _ | k
    · decide +kernel
    · decide +kernel
    · rfl
  have faultless : left.Faultless :=
    ⟨⟨fun kind => by cases kind <;> rfl, rfl, rfl⟩, ⟨by decide, by simp [left]⟩, .nil⟩
  have faultless' : right.Faultless :=
    ⟨⟨fun kind => by cases kind <;> rfl, rfl, rfl⟩, ⟨by decide, by simp [right]⟩,
      List.pairwise_singleton _ _⟩
  have clear : exchange.ClearOfDeadlines left := by
    intro n some few arrival mem _
    have arrivals : n = 1 ∨ n = 2 → exchange.delivered left n =
        [⟨112, ⟨response, server⟩⟩] := by
      rintro (rfl | rfl)
      · decide +kernel
      · decide +kernel
    have number : n = 1 ∨ n = 2 := by
      have : n ≤ 2 := few
      omega
    rw [arrivals number, List.mem_singleton] at mem
    have share : exchange.attemptMs = 10 := by decide
    have clock : left.clock = 100 := rfl
    rw [mem, share, clock]
    simp only
    omega
  have same := noninterference exchange left right alike faultless faultless' (by decide) (by decide)
    clear
  exact ⟨by decide +kernel, by decide +kernel, same⟩

end Exchange

end NtpQuery
