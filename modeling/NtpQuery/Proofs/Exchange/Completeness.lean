import NtpQuery.Proofs.Exchange.Course

/-!
# No response is missed

On a network where nothing is refused, an exchange takes in what was delivered
in the order of the inbox until it comes to the response. Attempts follow each
other without a gap, so the time of all of them is spent listening.

`sendings` tells what would lie in the inbox if nothing was taken out of it. A
sent request only brings in datagrams that arrive later, so what was taken
out is always the front of that inbox, and `Kept` is the invariant: the
delivered datagrams are the rejected ones, which have arrived, and those that
still lie in the real inbox. A datagram that is read at the very end of an
attempt may leave others behind, but then they arrive no earlier than the end.
Only at the start can the inbox hold datagrams from before; they are read at
the time of the start.
-/

namespace NtpQuery

namespace Network

/-- Nothing that is brought in arrives before it was. -/
structure Causal (net : Network) : Prop where
  script : ∀ deliveries ∈ net.script, ∀ delivery ∈ deliveries, 0 ≤ delivery.delayMs
  station : ∀ station, net.station = some station → 0 ≤ station.upMs + station.downMs

theorem Causal.le_time {net : Network} (causal : net.Causal) {data : Bytes}
    {destination : Endpoint} {arrival : Arrival}
    (h : arrival ∈ (net.bring data destination).1) : net.clock ≤ arrival.time := by
  cases brings_of_mem_bring h with
  | scripted due mem =>
    have := causal.script _ (List.mem_of_head? due) _ mem
    simp only
    omega
  | replied here asked handled mem =>
    have := causal.station _ here
    simp only
    omega

theorem Causal.of_setup {net after : Network} (causal : net.Causal)
    (script : after.script = net.script.tail)
    (setup : after.station.map Station.setup = net.station.map Station.setup) : after.Causal := by
  constructor
  · intro deliveries mem
    rw [script] at mem
    exact causal.script deliveries (List.mem_of_mem_tail mem)
  · intro station here
    rw [here, Option.map_some] at setup
    obtain ⟨before, hb, same⟩ := Option.map_eq_some_iff.mp setup.symm
    have up : before.upMs = station.upMs := congrArg (·.upMs) same
    have down : before.downMs = station.downMs := congrArg (·.downMs) same
    have := causal.station before hb
    omega

end Network

namespace Exchange

variable {α : Type}

/-- The arrival is an awaited response. -/
def awaits (exchange : Exchange α) (arrival : Arrival) : Bool :=
  (exchange.accept (arrival.datagram.cut exchange.receiveSize)).toBool

/-- The inbox and the network after a number of attempts in which nothing is taken out of the
inbox. -/
def sendings (exchange : Exchange α) (start : Channel) : Nat → Inbox × Network
  | 0 => (start.session.inbox, start.network)
  | n + 1 =>
    let earlier := exchange.sendings start n
    let request := exchange.request (n + 1) earlier.2.wallSeconds
    let brought := earlier.2.bring request exchange.query.destination
    (earlier.1.enqueueAll brought.1, brought.2.advance exchange.attemptMs)

/-- The datagrams that a number of attempts deliver, and those that were there before, in the
order of the inbox. -/
def delivered (exchange : Exchange α) (start : Channel) (n : Nat) : Inbox :=
  (exchange.sendings start n).1

/-- The real channel after a number of requests and the datagrams that were taken out and turned
away. -/
structure Kept (exchange : Exchange α) (start : Channel) (n : Nat) (passed : Inbox)
    (channel : Channel) : Prop where
  quiet : channel.network.Quiet
  script : channel.network.script = (exchange.sendings start n).2.script
  station : channel.network.station = (exchange.sendings start n).2.station
  wallOffset : channel.network.wallOffset = start.network.wallOffset
  delivered : exchange.delivered start n = passed ++ channel.session.inbox
  received : channel.network.receivedRev =
    (passed.map (·.datagram.cut exchange.receiveSize)).reverse ++ start.network.receivedRev
  rejected : ∀ arrival ∈ passed, exchange.awaits arrival = false
  early : ∀ arrival ∈ passed, arrival.time ≤ channel.clock
  started : start.clock ≤ channel.clock
  late : channel.clock = start.clock ∨
    ∀ arrival ∈ channel.session.inbox, channel.clock ≤ arrival.time

variable {exchange : Exchange α} {start channel after : Channel} {n : Nat} {passed : Inbox}
  {departure : Departure} {trail : Trail}

theorem awaits_of_accept {arrival : Arrival} {packet : α}
    (h : exchange.accept (arrival.datagram.cut exchange.receiveSize) = .ok packet) :
    exchange.awaits arrival = true := by
  simp [awaits, h, Except.toBool]

theorem awaits_of_reject {arrival : Arrival} {reason : String}
    (h : exchange.accept (arrival.datagram.cut exchange.receiveSize) = .error reason) :
    exchange.awaits arrival = false := by
  simp [awaits, h, Except.toBool]

theorem sendings_spec (exchange : Exchange α) (start : Channel) (causal : start.network.Causal)
    (n : Nat) :
    (exchange.sendings start n).2.clock = start.clock + n * exchange.attemptMs ∧
      (exchange.sendings start n).2.wallOffset = start.network.wallOffset ∧
      (exchange.sendings start n).2.Causal := by
  induction n with
  | zero => exact ⟨by simp [sendings, Channel.clock], rfl, causal⟩
  | succ n ih =>
    obtain ⟨clock, offset, causal⟩ := ih
    obtain ⟨station, setup, bring⟩ := (exchange.sendings start n).2.bring_eq
      (exchange.request (n + 1) (exchange.sendings start n).2.wallSeconds)
      exchange.query.destination
    have here := bring _ rfl rfl rfl rfl
    simp only [sendings]
    rw [here]
    refine ⟨?_, offset, causal.of_setup rfl setup⟩
    simp only [Network.advance, clock]
    grind

theorem ordered_delivered (exchange : Exchange α) (ordered : start.session.inbox.Ordered)
    (n : Nat) : (exchange.delivered start n).Ordered := by
  induction n with
  | zero => exact ordered
  | succ n ih => exact ih.enqueueAll _

theorem Kept.begin (quiet : start.network.Quiet) : exchange.Kept start 0 [] start where
  quiet := quiet
  script := rfl
  station := rfl
  wallOffset := rfl
  delivered := rfl
  received := rfl
  rejected := by simp
  early := by simp
  started := Int.le_refl _
  late := .inl rfl

/-- What a request brings in is queued behind all that was taken out. -/
theorem Kept.send (kept : exchange.Kept start n passed channel) (causal : start.network.Causal)
    (clock : channel.clock = start.clock + n * exchange.attemptMs)
    (sending : channel.send (exchange.request (n + 1) channel.network.wallSeconds)
      exchange.query.destination = (.ok (), after)) :
    exchange.Kept start (n + 1) passed after := by
  have off := Channel.send_ok sending
  obtain ⟨clock', offset', causal'⟩ := sendings_spec exchange start causal n
  obtain ⟨station, setup, bring⟩ := (exchange.sendings start n).2.bring_eq
    (exchange.request (n + 1) (exchange.sendings start n).2.wallSeconds)
    exchange.query.destination
  have same_clock : channel.network.clock = (exchange.sendings start n).2.clock :=
    clock.trans clock'.symm
  have same_offset : channel.network.wallOffset = (exchange.sendings start n).2.wallOffset :=
    kept.wallOffset.trans offset'.symm
  have same_seconds : channel.network.wallSeconds =
      (exchange.sendings start n).2.wallSeconds := by
    simp only [Network.wallSeconds, Network.wallMs, same_clock, same_offset]
  have planned := bring _ rfl rfl rfl rfl
  have real := bring channel.network same_clock same_offset kept.script kept.station
  rw [← same_seconds] at real planned
  have later : ∀ arrival ∈ (channel.network.bring (exchange.request (n + 1)
      channel.network.wallSeconds) exchange.query.destination).1,
      channel.clock ≤ arrival.time := by
    intro arrival mem
    rw [real] at mem
    have := causal'.le_time mem
    rw [← same_clock] at this
    exact this
  have arrivals : exchange.delivered start (n + 1) = passed ++ after.session.inbox := by
    rw [off.inbox, ← Inbox.enqueueAll_append, ← kept.delivered, real]
    · simp only [Exchange.delivered, sendings, same_seconds]
    · intro earlier he arrival ha
      exact Int.le_trans (kept.early earlier he) (later arrival ha)
  refine ⟨off.quiet kept.quiet, ?_, ?_, off.wallOffset.trans kept.wallOffset, arrivals,
    off.receivedRev.trans kept.received, kept.rejected, ?_, ?_, ?_⟩
  · simp only [sendings]
    rw [off.script, kept.script, ← same_seconds, planned]
    rfl
  · simp only [sendings]
    rw [off.station, real, ← same_seconds, planned]
    rfl
  · rw [off.clock]
    exact kept.early
  · rw [off.clock]
    exact kept.started
  · rw [off.clock]
    apply kept.late.imp_right
    intro late arrival mem
    rw [off.inbox] at mem
    rcases Inbox.mem_enqueueAll.mp mem with new | old
    · exact later arrival new
    · exact late arrival old

/-- What waiting and receiving leave alone where nothing is refused. -/
structure Undisturbed (channel after : Channel) : Prop where
  quiet : after.network.Quiet
  isOpen : after.session.isOpen
  script : after.network.script = channel.network.script
  station : after.network.station = channel.network.station
  wallOffset : after.network.wallOffset = channel.network.wallOffset

/-- The waits of an attempt do not fail where nothing is refused, and they end with the first
datagram or with the attempt. -/
theorem wait_quiet {ready : Channel} {result : Except Failure Bool}
    (quiet : channel.network.Quiet) (opened : channel.session.isOpen)
    (budget : exchange.attemptMs < Network.exactWaitMs)
    (lower : departure.clock ≤ channel.clock) (upper : channel.clock ≤ exchange.deadline departure)
    (waited : channel.wait (exchange.remaining departure channel) = (result, ready)) :
    Undisturbed channel ready ∧ ready.session = channel.session ∧
      ready.network.receivedRev = channel.network.receivedRev ∧
      ((∃ first rest, result = .ok true ∧ channel.session.inbox = first :: rest ∧
          first.time ≤ exchange.deadline departure ∧
          ready.clock = max channel.clock first.time) ∨
        (result = .ok false ∧ ready.clock = exchange.deadline departure ∧
          ∀ first ∈ channel.session.inbox.head?, exchange.deadline departure < first.time)) := by
  have left : exchange.remaining departure channel =
      exchange.deadline departure - channel.clock := by
    simp only [remaining]
    omega
  have span : exchange.deadline departure = departure.clock + exchange.attemptMs := rfl
  have whole : channel.clock + exchange.remaining departure channel =
      exchange.deadline departure := by
    omega
  obtain ⟨wait, unrefused, hw⟩ := Channel.wait_quiet
    (exchange.remaining departure channel) opened quiet (by omega) (by omega)
  rw [hw, Prod.mk.injEq] at waited
  obtain ⟨rfl, rfl⟩ := waited
  refine ⟨⟨⟨quiet.refusals, unrefused, quiet.close⟩, opened, rfl, rfl, rfl⟩, rfl, rfl, ?_⟩
  cases sooner : (channel.session.inbox.await channel.clock
    (exchange.remaining departure channel)).1 with
  | true =>
    obtain ⟨first, rest, inbox, soon, clock⟩ := Inbox.await_true sooner
    exact .inl ⟨first, rest, rfl, inbox, whole ▸ soon, clock⟩
  | false =>
    obtain ⟨clock, behind⟩ := Inbox.await_false sooner
    rw [whole] at clock behind
    exact .inr ⟨rfl, clock, behind⟩

/-- Where nothing is refused, a datagram is taken when it arrives or, when it has arrived before,
at once. -/
theorem receive_quiet {ready : Channel} {result : Except Failure Datagram}
    (quiet : channel.network.Quiet) (opened : channel.session.isOpen)
    (budget : exchange.attemptMs < Network.exactWaitMs)
    (lower : departure.clock ≤ channel.clock) (upper : channel.clock ≤ exchange.deadline departure)
    (waited : channel.wait (exchange.remaining departure channel) = (.ok true, ready))
    (received : ready.receive exchange.receiveSize = (result, after)) :
    Undisturbed channel after ∧ ∃ arrival,
      result = .ok (arrival.datagram.cut exchange.receiveSize) ∧
      channel.session.inbox = arrival :: after.session.inbox ∧
      arrival.time ≤ exchange.deadline departure ∧
      after.clock = max channel.clock arrival.time ∧
      after.network.receivedRev =
        arrival.datagram.cut exchange.receiveSize :: channel.network.receivedRev := by
  obtain ⟨kept, session, before, sooner⟩ := wait_quiet quiet opened budget lower upper waited
  obtain ⟨first, rest, -, inbox, soon, clock⟩ :=
    sooner.resolve_right fun ended => by simp at ended
  rcases result with failure | datagram
  · have dropped := (Channel.receive_error kept.isOpen (inbox_ne_nil opened waited) received).1
    exact absurd kept.quiet dropped.not_quiet
  · have taken := Channel.receive_ok kept.isOpen received
    obtain ⟨arrival, inbox', rfl⟩ := taken.inbox
    obtain ⟨receive, hn⟩ := taken.network
    rw [session] at inbox'
    obtain ⟨rfl, -⟩ := List.cons.inj (inbox.symm.trans inbox')
    refine ⟨⟨taken.quiet kept.quiet, taken.isOpen, ?_, ?_, ?_⟩, first, rfl, inbox', soon,
      taken.clock.trans clock, ?_⟩
    · rw [hn]
      exact kept.script
    · rw [hn]
      exact kept.station
    · rw [hn]
      exact kept.wallOffset
    · rw [taken.receivedRev, before]

theorem Kept.ordered (kept : exchange.Kept start n passed channel)
    (ordered : start.session.inbox.Ordered) : channel.session.inbox.Ordered := by
  have all := ordered_delivered exchange ordered n
  rw [kept.delivered] at all
  exact (List.pairwise_append.mp all).2.1

/-- What lies behind the first datagram arrives no earlier. -/
theorem Kept.behind {arrival : Arrival} {rest : Inbox}
    (kept : exchange.Kept start n passed channel) (ordered : start.session.inbox.Ordered)
    (inbox : channel.session.inbox = arrival :: rest) :
    ∀ other ∈ rest, arrival.time ≤ other.time := by
  have sorted := kept.ordered ordered
  rw [inbox] at sorted
  exact (List.pairwise_cons.mp sorted).1

/-- A datagram that is turned away joins those in front. -/
theorem Kept.reject {arrival : Arrival} (kept : exchange.Kept start n passed channel)
    (ordered : start.session.inbox.Ordered) (same : Undisturbed channel after)
    (inbox : channel.session.inbox = arrival :: after.session.inbox)
    (clock : after.clock = max channel.clock arrival.time)
    (received : after.network.receivedRev =
      arrival.datagram.cut exchange.receiveSize :: channel.network.receivedRev)
    (rejects : exchange.awaits arrival = false) :
    exchange.Kept start n (passed ++ [arrival]) after := by
  have later := kept.behind ordered inbox
  have started := kept.started
  refine ⟨same.quiet, same.script.trans kept.script, same.station.trans kept.station,
    same.wallOffset.trans kept.wallOffset, ?_, ?_, ?_, ?_, by omega, ?_⟩
  · rw [kept.delivered, inbox, List.append_assoc, List.singleton_append]
  · rw [received, kept.received]
    simp
  · intro other mem
    rcases List.mem_append.mp mem with mem | mem
    · exact kept.rejected other mem
    · rw [List.mem_singleton.mp mem]
      exact rejects
  · intro other mem
    rcases List.mem_append.mp mem with mem | mem
    · have := kept.early other mem
      omega
    · rw [List.mem_singleton.mp mem]
      omega
  · by_cases stale : arrival.time ≤ channel.clock
    · cases kept.late with
      | inl here =>
        left
        omega
      | inr late =>
        have first := late arrival (inbox ▸ List.mem_cons_self)
        right
        intro other mem
        have := later other mem
        omega
    · right
      intro other mem
      have := later other mem
      omega

/-- The answer is the first awaited datagram of all that were delivered by then. -/
structure FirstAwaited (exchange : Exchange α) (start : Channel) (answer : Answer α)
    (arrival : Arrival) (after : Channel) : Prop where
  first : (exchange.delivered start answer.attempts).find? exchange.awaits = some arrival
  /-- What was delivered was received up to that datagram, and the rest is in the inbox. -/
  queued : ∃ passed, exchange.delivered start answer.attempts =
      passed ++ arrival :: after.session.inbox ∧
    after.network.receivedRev =
      ((passed ++ [arrival]).map (·.datagram.cut exchange.receiveSize)).reverse ++
        start.network.receivedRev
  packet : exchange.accept (arrival.datagram.cut exchange.receiveSize) = .ok answer.packet
  source : answer.source = arrival.datagram.source
  clock : after.clock = max arrival.time start.clock
  lower : start.clock + (answer.attempts - 1) * exchange.attemptMs ≤ after.clock
  upper : after.clock ≤ start.clock + answer.attempts * exchange.attemptMs
  roundTrip : answer.roundTrip =
    after.clock - (start.clock + (answer.attempts - 1) * exchange.attemptMs)

/-- All that was delivered was received and turned away, or arrives at the end or later. -/
structure NoneAwaited (exchange : Exchange α) (start : Channel) (n : Nat) (passed : Inbox)
    (after : Channel) : Prop extends Exchange.Kept exchange start n passed after where
  clock : after.clock = start.clock + n * exchange.attemptMs
  rest : ∀ arrival ∈ after.session.inbox, start.clock + n * exchange.attemptMs ≤ arrival.time

/-- What holds when an attempt ends where nothing is refused. -/
def Settled (exchange : Exchange α) (start : Channel) (n : Nat) :
    Ending α → Channel → Prop
  | .over, after => ∃ passed, exchange.NoneAwaited start n passed after
  | .accepted answer, after =>
    answer.attempts = n ∧ ∃ arrival, exchange.FirstAwaited start answer arrival after
  | .failed _, _ => False

/-- What is left when the time of an attempt is over. -/
theorem Kept.timeOut (kept : exchange.Kept start n passed channel)
    (ordered : start.session.inbox.Ordered) (same : Undisturbed channel after)
    (session : after.session = channel.session)
    (received : after.network.receivedRev = channel.network.receivedRev)
    (clock : after.clock = start.clock + n * exchange.attemptMs)
    (upper : channel.clock ≤ after.clock)
    (behind : ∀ first ∈ channel.session.inbox.head?, after.clock < first.time) :
    exchange.NoneAwaited start n passed after := by
  have rest : ∀ arrival ∈ channel.session.inbox, after.clock ≤ arrival.time := by
    cases hi : channel.session.inbox with
    | nil => simp
    | cons first others =>
      rw [hi] at behind
      have soonest := behind first rfl
      intro arrival mem
      rcases List.mem_cons.mp mem with rfl | mem
      · omega
      · have := kept.behind ordered hi arrival mem
        omega
  refine ⟨⟨same.quiet, same.script.trans kept.script, same.station.trans kept.station,
    same.wallOffset.trans kept.wallOffset, ?_, received.trans kept.received, kept.rejected, ?_,
    Int.le_trans kept.started upper, .inr ?_⟩, clock, ?_⟩
  · rw [session, kept.delivered]
  · intro arrival mem
    exact Int.le_trans (kept.early arrival mem) upper
  · rw [session]
    exact rest
  · rw [session, ← clock]
    exact rest

/-- The datagram that is accepted is the first awaited one, since all before it were turned away. -/
theorem Kept.accept {arrival : Arrival} {packet : α}
    (kept : exchange.Kept start (n + 1) passed channel)
    (departed : departure.clock = start.clock + n * exchange.attemptMs)
    (lower : departure.clock ≤ channel.clock)
    (attempts : trail.attempts = n + 1)
    (inbox : channel.session.inbox = arrival :: after.session.inbox)
    (soon : after.clock ≤ exchange.deadline departure)
    (clock : after.clock = max channel.clock arrival.time)
    (received : after.network.receivedRev =
      arrival.datagram.cut exchange.receiveSize :: channel.network.receivedRev)
    (accepts : exchange.accept (arrival.datagram.cut exchange.receiveSize) = .ok packet) :
    exchange.FirstAwaited start
      (answerOf departure trail (arrival.datagram.cut exchange.receiveSize) packet after) arrival
      after := by
  have number : ((answerOf departure trail (arrival.datagram.cut exchange.receiveSize) packet
      after).attempts : Int) = n + 1 := by
    simp [answerOf, attempts]
  have earlier : (n + 1 - 1 : Int) * exchange.attemptMs = n * exchange.attemptMs := by
    simp
  have started := kept.started
  refine ⟨?_, ⟨passed, ?_, ?_⟩, accepts, rfl, ?_, ?_, ?_, ?_⟩
  · have split : exchange.delivered start (n + 1) = passed ++ arrival :: after.session.inbox := by
      rw [kept.delivered, inbox]
    have none : passed.find? exchange.awaits = none :=
      List.find?_eq_none.mpr fun other mem => by simp [kept.rejected other mem]
    simp only [answerOf, attempts, split, List.find?_append, none, Option.none_or]
    exact List.find?_cons_of_pos (awaits_of_accept accepts)
  · simp only [answerOf, attempts, kept.delivered, inbox]
  · rw [received, kept.received]
    simp
  · rcases kept.late with here | late
    · omega
    · have := late arrival (inbox ▸ List.mem_cons_self)
      omega
  · rw [number, earlier]
    omega
  · rw [number]
    have span : exchange.deadline departure = departure.clock + exchange.attemptMs := rfl
    grind
  · rw [number, earlier, ← departed]
    rfl

theorem Kept.step {ending : Option (Ending α)} {trail' : Trail}
    (kept : exchange.Kept start (n + 1) passed channel) (ordered : start.session.inbox.Ordered)
    (budget : exchange.attemptMs < Network.exactWaitMs) (opened : channel.session.isOpen)
    (departed : departure.clock = start.clock + n * exchange.attemptMs)
    (lower : departure.clock ≤ channel.clock) (upper : channel.clock < exchange.deadline departure)
    (attempts : trail.attempts = n + 1)
    (step : exchange.Step departure channel trail ending trail' after) :
    match ending with
    | none => ∃ arrival, exchange.Kept start (n + 1) (passed ++ [arrival]) after ∧
        departure.clock ≤ after.clock ∧ after.clock < exchange.deadline departure
    | some ending => exchange.Settled start (n + 1) ending after := by
  have finish : exchange.deadline departure =
      start.clock + (n + 1 : Nat) * exchange.attemptMs := by
    rw [deadline, departed]
    grind
  have within := Int.le_of_lt upper
  cases step with
  | unwaited waited =>
    obtain ⟨-, -, -, sooner⟩ := wait_quiet kept.quiet opened budget lower within waited
    simp at sooner
  | timedOut waited =>
    obtain ⟨same, session, received, sooner⟩ :=
      wait_quiet kept.quiet opened budget lower within waited
    obtain ⟨-, clock, behind⟩ := sooner.resolve_left fun ended => by simp at ended
    rw [← clock] at behind
    exact ⟨passed, kept.timeOut ordered same session received (clock.trans finish) (by omega)
      behind⟩
  | unreceived waited received =>
    obtain ⟨-, arrival, absurdity, -⟩ :=
      receive_quiet kept.quiet opened budget lower within waited received
    simp at absurdity
  | accepted waited received accepts =>
    obtain ⟨same, arrival, taken, inbox, soon, clock, record⟩ :=
      receive_quiet kept.quiet opened budget lower within waited received
    obtain rfl := Except.ok.inj taken
    exact ⟨attempts, arrival, kept.accept departed lower attempts inbox (by omega) clock record
      accepts⟩
  | late waited received rejects past =>
    obtain ⟨same, arrival, taken, inbox, soon, clock, record⟩ :=
      receive_quiet kept.quiet opened budget lower within waited received
    obtain rfl := Except.ok.inj taken
    have next := kept.reject ordered same inbox clock record (awaits_of_reject rejects)
    refine ⟨_, next, by omega, ?_⟩
    -- The datagram came just at the end, so those behind it come no earlier.
    intro other mem
    have := kept.behind ordered inbox other mem
    omega
  | again waited received rejects early =>
    obtain ⟨same, arrival, taken, inbox, soon, clock, record⟩ :=
      receive_quiet kept.quiet opened budget lower within waited received
    obtain rfl := Except.ok.inj taken
    exact ⟨arrival, kept.reject ordered same inbox clock record (awaits_of_reject rejects),
      by omega, early⟩

theorem Kept.listen (kept : exchange.Kept start (n + 1) passed channel) (departure : Departure)
    (trail : Trail) (ordered : start.session.inbox.Ordered)
    (budget : exchange.attemptMs < Network.exactWaitMs)
    (opened : channel.session.isOpen)
    (departed : departure.clock = start.clock + n * exchange.attemptMs)
    (lower : departure.clock ≤ channel.clock) (upper : channel.clock < exchange.deadline departure)
    (attempts : trail.attempts = n + 1) :
    exchange.Settled start (n + 1) (exchange.listen departure channel trail).1
      (exchange.listen departure channel trail).2.2 := by
  refine listen_induction (motive := fun channel trail ending _ after =>
      ∀ passed, exchange.Kept start (n + 1) passed channel → departure.clock ≤ channel.clock →
        channel.clock < exchange.deadline departure → trail.attempts = n + 1 →
        exchange.Settled start (n + 1) ending after)
    ?_ ?_ channel trail opened passed kept lower upper attempts
  · intro channel trail ending trail' after opened step passed kept lower upper attempts
    exact kept.step ordered budget opened departed lower upper attempts step
  · intro channel trail trail' next ending trail'' after opened step rest passed kept lower upper
      attempts
    obtain ⟨arrival, kept', lower', upper'⟩ :=
      kept.step ordered budget opened departed lower upper attempts step
    refine rest _ kept' lower' upper' ?_
    cases step
    exact attempts

/-- What holds when the exchange is over where nothing is refused. -/
def Resolved (exchange : Exchange α) (start : Channel) (run : Run α) : Prop :=
  match run.outcome with
  | .ok answer =>
    1 ≤ answer.attempts ∧ answer.attempts ≤ exchange.query.budget.attempts ∧
      ∃ arrival, exchange.FirstAwaited start answer arrival run.channel
  | .error failure =>
    failure = .reported .unanswered ∧
      ∃ passed, exchange.NoneAwaited start exchange.query.budget.attempts passed run.channel

theorem Kept.attend {sent : Channel} {ending : Ending α} {trail' : Trail}
    (kept : exchange.Kept start n passed channel) (causal : start.network.Causal)
    (ordered : start.session.inbox.Ordered) (positive : 0 < exchange.attemptMs)
    (budget : exchange.attemptMs < Network.exactWaitMs)
    (clock : channel.clock = start.clock + n * exchange.attemptMs) (attempts : trail.attempts = n)
    (sending : exchange.launch channel trail = (.ok (), sent))
    (heard : exchange.attend channel trail sent = (ending, trail', after)) :
    exchange.Settled start (n + 1) ending after := by
  have request : exchange.requestOf (beginning trail) channel =
      exchange.request (n + 1) channel.network.wallSeconds := by
    simp [requestOf, beginning, attempts]
  have off := Channel.send_ok sending
  rw [launch, request] at sending
  have settled := (kept.send causal clock sending).listen
    ⟨channel.network.wallSeconds, sent.clock⟩
    (exchange.asked (beginning trail) (exchange.requestOf (beginning trail) channel) sent)
    ordered budget off.isOpen (off.clock.trans clock) (Int.le_refl _)
    (by simp only [deadline]; omega) (by simp [asked, beginning, attempts])
  rw [← Exchange.attend, heard] at settled
  exact settled

theorem Kept.attempt {left : Nat} (kept : exchange.Kept start n passed channel)
    (causal : start.network.Causal) (ordered : start.session.inbox.Ordered)
    (positive : 0 < exchange.attemptMs) (budget : exchange.attemptMs < Network.exactWaitMs)
    (clock : channel.clock = start.clock + n * exchange.attemptMs)
    (rest : ∀ arrival ∈ channel.session.inbox,
      0 < n → start.clock + n * exchange.attemptMs ≤ arrival.time)
    (attempts : trail.attempts = n) (share : n + left = exchange.query.budget.attempts) :
    exchange.Resolved start (exchange.attempt left channel trail) := by
  refine attempt_induction (motive := fun left channel trail run =>
      ∀ n passed, exchange.Kept start n passed channel →
        channel.clock = start.clock + n * exchange.attemptMs →
        (∀ arrival ∈ channel.session.inbox,
          0 < n → start.clock + n * exchange.attemptMs ≤ arrival.time) →
        trail.attempts = n → n + left = exchange.query.budget.attempts →
        exchange.Resolved start run)
    ?_ ?_ ?_ ?_ ?_ left channel trail n passed kept clock rest attempts share
  · intro channel trail n passed kept clock rest attempts share
    obtain rfl : n = exchange.query.budget.attempts := by omega
    exact ⟨rfl, passed, kept, clock, fun arrival mem => rest arrival mem (Nat.succ_pos _)⟩
  · intro left channel trail failure after sending n passed kept
    obtain ⟨refusal, -, dropped, -⟩ := Channel.send_error sending
    exact absurd kept.quiet dropped.not_quiet
  · intro left channel trail sent answer trail' after sending heard n passed kept clock _ attempts
      share
    obtain ⟨number, arrival, first⟩ :=
      kept.attend causal ordered positive budget clock attempts sending heard
    exact ⟨by omega, by omega, arrival, first⟩
  · intro left channel trail sent failure trail' after sending heard n passed kept clock _ attempts
    exact (kept.attend causal ordered positive budget clock attempts sending heard).elim
  · intro left channel trail sent trail' after run sending heard further n passed kept clock _
      attempts share
    obtain ⟨passed', kept', clock', rest'⟩ :=
      kept.attend causal ordered positive budget clock attempts sending heard
    have number : trail'.attempts = n + 1 := attempts ▸ attempts_attend sending heard
    exact further (n + 1) passed' kept' clock' (fun arrival mem _ => rest' arrival mem) number
      (by omega)

theorem resolved_run (exchange : Exchange α) (channel : Channel)
    (quiet : channel.network.Quiet) (causal : channel.network.Causal)
    (ordered : channel.session.inbox.Ordered) (positive : 0 < exchange.attemptMs)
    (exact : exchange.query.budget.timeoutMs < Network.exactWaitMs) :
    exchange.Resolved channel (exchange.run channel) := by
  have share : exchange.query.budget.attemptMs ≤ exchange.query.budget.timeoutMs :=
    Nat.div_le_self _ _
  have budget : exchange.attemptMs < Network.exactWaitMs :=
    Int.ofNat_lt.mpr (Nat.lt_of_le_of_lt share exact)
  exact (Kept.begin quiet).attempt causal ordered positive budget (by simp)
    (fun _ _ none => absurd none (Nat.lt_irrefl 0)) rfl (Nat.zero_add _)

section

variable (quiet : channel.network.Quiet) (causal : channel.network.Causal)
  (ordered : channel.session.inbox.Ordered) (positive : 0 < exchange.attemptMs)
  (exact : exchange.query.budget.timeoutMs < Network.exactWaitMs)

include quiet causal ordered positive exact

/-- An answer is the first awaited datagram that was delivered by then. -/
theorem first_of_answered {answer : Answer α}
    (outcome : (exchange.run channel).outcome = .ok answer) :
    1 ≤ answer.attempts ∧ answer.attempts ≤ exchange.query.budget.retries + 1 ∧
      ∃ arrival, exchange.FirstAwaited channel answer arrival
        (exchange.run channel).channel := by
  have resolved := resolved_run exchange channel quiet causal ordered positive exact
  rw [Resolved, outcome] at resolved
  exact resolved

/-- Without an answer, no awaited datagram was delivered in time. -/
theorem none_of_unanswered {failure : Failure}
    (outcome : (exchange.run channel).outcome = .error failure) :
    failure = .reported .unanswered ∧
      (∃ passed, exchange.delivered channel (exchange.query.budget.retries + 1) =
          passed ++ (exchange.run channel).channel.session.inbox ∧
        (exchange.run channel).channel.network.receivedRev =
          (passed.map (·.datagram.cut exchange.receiveSize)).reverse ++
            channel.network.receivedRev) ∧
      ∀ arrival ∈ exchange.delivered channel (exchange.query.budget.retries + 1),
        exchange.awaits arrival = true →
        channel.clock + (exchange.query.budget.retries + 1 : Nat) * exchange.attemptMs ≤
          arrival.time := by
  have resolved := resolved_run exchange channel quiet causal ordered positive exact
  rw [Resolved, outcome] at resolved
  obtain ⟨unanswered, passed, kept, -, rest⟩ := resolved
  refine ⟨unanswered, ⟨passed, kept.delivered, kept.received⟩, ?_⟩
  intro arrival mem awaited
  have whole : exchange.delivered channel (exchange.query.budget.retries + 1) =
      passed ++ (exchange.run channel).channel.session.inbox := kept.delivered
  rw [whole] at mem
  rcases List.mem_append.mp mem with turned | left
  · simp [kept.rejected arrival turned] at awaited
  · exact rest arrival left

end

/-- Where nothing is refused, an exchange ends with the first awaited datagram that was delivered
in its time, and without an answer only when there was none. -/
theorem complete_run (exchange : Exchange α) (channel : Channel)
    (quiet : channel.network.Quiet) (causal : channel.network.Causal)
    (ordered : channel.session.inbox.Ordered) (positive : 0 < exchange.attemptMs)
    (exact : exchange.query.budget.timeoutMs < Network.exactWaitMs) :
    match (exchange.run channel).outcome with
    | .ok answer =>
      1 ≤ answer.attempts ∧ answer.attempts ≤ exchange.query.budget.retries + 1 ∧
        ∃ arrival, exchange.FirstAwaited channel answer arrival (exchange.run channel).channel
    | .error failure =>
      failure = .reported .unanswered ∧
        (∃ passed, exchange.delivered channel (exchange.query.budget.retries + 1) =
            passed ++ (exchange.run channel).channel.session.inbox ∧
          (exchange.run channel).channel.network.receivedRev =
            (passed.map (·.datagram.cut exchange.receiveSize)).reverse ++
              channel.network.receivedRev) ∧
        ∀ arrival ∈ exchange.delivered channel (exchange.query.budget.retries + 1),
          exchange.awaits arrival = true →
          channel.clock + (exchange.query.budget.retries + 1 : Nat) * exchange.attemptMs ≤
            arrival.time := by
  cases outcome : (exchange.run channel).outcome with
  | ok answer => exact first_of_answered quiet causal ordered positive exact outcome
  | error failure => exact none_of_unanswered quiet causal ordered positive exact outcome

/-- A stale datagram, one that is turned away at the end of the first attempt, and a response that
the second attempt brings in ahead of a late one to the first. -/
theorem complete_run_overtaken :
    let source : Endpoint := ⟨"10.0.0.1", 123⟩
    let exchange : Exchange Bytes :=
      { query := { destination := source, kind := .time, budget := ⟨1, 10, by decide⟩ }
        request := fun _ _ => [1]
        accept := fun datagram =>
          if datagram.data.head? = some 2 then .ok datagram.data else .error "other" }
    let channel : Channel :=
      { session := { socket := some ⟨0, ⟨"0.0.0.0", 40001⟩, [⟨-3, ⟨[9], source⟩⟩]⟩ }
        network :=
          { script := [[⟨7, ⟨[2, 1], source⟩⟩, ⟨5, ⟨[3], source⟩⟩], [⟨1, ⟨[2, 2], source⟩⟩]] } }
    ∃ answer, (exchange.run channel).outcome = .ok answer ∧ answer.packet = [2, 2] ∧
      answer.attempts = 2 ∧ 1 ≤ answer.attempts ∧ answer.attempts ≤ 1 + 1 ∧
      ∃ arrival, exchange.FirstAwaited channel answer arrival (exchange.run channel).channel := by
  intro source exchange channel
  have all := complete_run exchange channel
    ⟨fun kind => by cases kind <;> rfl, rfl, rfl⟩ ⟨by decide, by simp [channel]⟩
    (by simp [channel, Inbox.Ordered, Session.inbox]) (by decide) (by decide)
  cases outcome : (exchange.run channel).outcome with
  | error failure =>
    have : (exchange.run channel).outcome.toBool = true := by decide +kernel
    simp [outcome, Except.toBool] at this
  | ok answer =>
    rw [outcome] at all
    have : (exchange.run channel).outcome.toOption.map (fun a => (a.packet, a.attempts)) =
        some ([2, 2], 2) := by
      decide +kernel
    simp only [outcome, Except.toOption, Option.map_some, Option.some.injEq, Prod.mk.injEq] at this
    exact ⟨answer, rfl, this.1, this.2, all⟩

end Exchange

end NtpQuery
