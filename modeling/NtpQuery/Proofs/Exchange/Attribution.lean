import NtpQuery.Proofs.Exchange.Schedule

/-!
# Replies and the requests that they answer

Where all that arrives comes from one responder, every datagram in the inbox is
a reply to a request of the exchange: it was made when that request arrived at
the responder and came back after the time of both ways. Which request it is
stays open, and so does how many were sent since. This is kept by all
operations, however waiting and receiving go.
-/

namespace NtpQuery

/-- What arrives is a reply of the responder to a datagram that was sent. -/
structure Station.Replies (station : Station) (wallOffset : Int) (sent : SentDatagram)
    (arrival : Arrival) : Prop where
  asked : sent.destination = station.endpoint
  source : arrival.datagram.source = station.endpoint
  time : arrival.time = sent.time + station.upMs + station.downMs
  made : ∃ stats replies,
    (Responder.handle station.config
      (Network.wholeSeconds (sent.time + wallOffset + station.upMs))
      (sent.data.take Wire.controlPacketSize) stats).1 = .ok replies ∧
    arrival.datagram.data ∈ replies

theorem Station.Replies.of_setup {station other : Station} {wallOffset : Int}
    {sent : SentDatagram} {arrival : Arrival} (same : station.setup = other.setup)
    (replies : station.Replies wallOffset sent arrival) :
    other.Replies wallOffset sent arrival := by
  have endpoint : station.endpoint = other.endpoint := congrArg (·.endpoint) same
  have config : station.config = other.config := congrArg (·.config) same
  have up : station.upMs = other.upMs := congrArg (·.upMs) same
  have down : station.downMs = other.downMs := congrArg (·.downMs) same
  obtain ⟨asked, source, time, made⟩ := replies
  rw [endpoint] at asked source
  rw [up, down] at time
  rw [config, up] at made
  exact ⟨asked, source, time, made⟩

namespace Exchange

variable {α : Type} {exchange : Exchange α} {start channel after : Channel} {station : Station}

/-- All that lies in the inbox answers requests that the exchange has sent since its start. -/
structure Attributed (exchange : Exchange α) (start : Channel) (station : Station)
    (channel : Channel) : Prop where
  script : channel.network.script = []
  wallOffset : channel.network.wallOffset = start.network.wallOffset
  setup : channel.network.station.map Station.setup = some station.setup
  requests : ∃ requests, channel.network.sentRev = requests ++ start.network.sentRev ∧
    (∀ sent ∈ requests, ∃ attempt,
      sent = exchange.requestAt start.network.wallOffset attempt sent.time) ∧
    ∀ arrival ∈ channel.session.inbox,
      ∃ sent ∈ requests, station.Replies start.network.wallOffset sent arrival

namespace Attributed

theorem begin (script : start.network.script = [])
    (here : start.network.station = some station) (empty : start.session.inbox = []) :
    exchange.Attributed start station start :=
  ⟨script, rfl, by rw [here, Option.map_some], [], rfl, by simp, by simp [empty]⟩

theorem of_passive (attributed : exchange.Attributed start station channel)
    (passive : channel.Passive after) : exchange.Attributed start station after := by
  obtain ⟨requests, record, own, answers⟩ := attributed.requests
  refine ⟨passive.script.trans attributed.script, passive.wallOffset.trans attributed.wallOffset,
    ?_, requests, passive.sentRev.trans record, own,
    fun arrival mem => answers arrival (passive.inbox arrival mem)⟩
  rw [passive.station]
  exact attributed.setup

/-- What a request brings in answers this request. -/
theorem sentOff {attempt : Nat} (attributed : exchange.Attributed start station channel)
    (off : channel.SentOff (exchange.request attempt channel.network.wallSeconds)
      exchange.query.destination after) : exchange.Attributed start station after := by
  obtain ⟨requests, record, own, answers⟩ := attributed.requests
  have setup := off.setup.trans attributed.setup
  have script : after.network.script = [] := by
    rw [off.script, attributed.script]
    rfl
  refine ⟨script, off.wallOffset.trans attributed.wallOffset, setup,
    ⟨channel.clock, exchange.request attempt channel.network.wallSeconds,
      exchange.query.destination⟩ :: requests, ?_, ?_, ?_⟩
  · rw [off.sentRev, record]
    rfl
  · intro one mem
    rcases List.mem_cons.mp mem with rfl | mem
    · refine ⟨attempt, ?_⟩
      simp only [requestAt, Network.wallSeconds, Network.wallMs, Channel.clock,
        attributed.wallOffset]
    · exact own one mem
  · intro arrival mem
    rw [off.inbox] at mem
    rcases Inbox.mem_enqueueAll.mp mem with new | old
    · refine ⟨_, List.mem_cons_self, ?_⟩
      cases Network.brings_of_mem_bring new with
      | scripted due =>
        rw [attributed.script] at due
        simp at due
      | @replied now stats replies reply here asked handled chosen =>
        have same := attributed.setup
        rw [here, Option.map_some, Option.some.injEq] at same
        apply Station.Replies.of_setup same
        refine ⟨asked.symm, rfl, rfl, stats, replies, ?_, chosen⟩
        rw [Network.wallMs, attributed.wallOffset] at handled
        exact handled
    · obtain ⟨one, known, answered⟩ := answers arrival old
      exact ⟨one, List.mem_cons_of_mem _ known, answered⟩

end Attributed

/-- Listening sends nothing and leaves what is known of the inbox. -/
def Attends (exchange : Exchange α) (start : Channel) (station : Station)
    (channel after : Channel) : Prop :=
  (exchange.Attributed start station channel → exchange.Attributed start station after) ∧
    after.network.sentRev = channel.network.sentRev

theorem heeding_attends (exchange : Exchange α) (start : Channel) (station : Station) :
    exchange.Heeding (exchange.Attends start station) where
  trans h h' := ⟨h'.1 ∘ h.1, h'.2.trans h.2⟩
  wait channel ms opened nonneg := by
    have passive := Channel.Passive.wait channel opened nonneg
    exact ⟨fun attributed => attributed.of_passive passive, passive.sentRev⟩
  receive channel opened waiting := by
    have passive := Channel.Passive.receive channel exchange.receiveSize opened waiting
    exact ⟨fun attributed => attributed.of_passive passive, passive.sentRev⟩

theorem carried_attributed (exchange : Exchange α) (start : Channel) (station : Station) :
    exchange.Carried fun channel after =>
      exchange.Attributed start station channel → exchange.Attributed start station after where
  refl _ := id
  trans h h' := h' ∘ h
  wait channel ms opened nonneg :=
    ((heeding_attends exchange start station).wait channel ms opened nonneg).1
  receive channel opened waiting :=
    ((heeding_attends exchange start station).receive channel opened waiting).1
  send channel attempt := by
    intro attributed
    cases sending : channel.send (exchange.request attempt channel.network.wallSeconds)
        exchange.query.destination with
    | mk result after =>
      cases result with
      | error failure =>
        obtain ⟨refusal, -, dropped, -⟩ := Channel.send_error sending
        exact attributed.of_passive (.of_dropped dropped)
      | ok => exact attributed.sentOff (Channel.send_ok sending)

/-- The answer of a responder is a reply to one of the requests. This need not be the last one,
although the time of departure is that of the last one. -/
structure Attribution (exchange : Exchange α) (start : Channel) (station : Station)
    (answer : Answer α) (after : Channel) (requests : List SentDatagram)
    (last asked : SentDatagram) (arrival : Arrival) : Prop where
  record : after.network.sentRev = requests ++ start.network.sentRev
  own : ∀ sent ∈ requests, ∃ attempt,
    sent = exchange.requestAt start.network.wallOffset attempt sent.time
  newest : requests.head? = some last
  mem : asked ∈ requests
  replies : station.Replies start.network.wallOffset asked arrival
  accepts : exchange.accept (arrival.datagram.cut exchange.receiveSize) = .ok answer.packet
  sentAt : answer.sentAt = Network.wholeSeconds (last.time + start.network.wallOffset)
  receivedAt : answer.receivedAt = Network.wholeSeconds (after.clock + start.network.wallOffset)
  arrived : arrival.time ≤ after.clock

theorem attribution_run {answer : Answer α} (script : start.network.script = [])
    (here : start.network.station = some station) (empty : start.session.inbox = [])
    (outcome : (exchange.run start).outcome = .ok answer) :
    ∃ requests last asked arrival,
      exchange.Attribution start station answer (exchange.run start).channel requests last asked
        arrival := by
  have began : exchange.Attributed start station start := .begin script here empty
  obtain @⟨asking, sent, attempt, before, sending, off, sentAt, heard⟩ :=
    (carried_attributed exchange start station).origin_of
      (heeding_attends exchange start station) outcome
  obtain @⟨ready, arrival, listening, rest, queued, accepts, -, receivedAt, arrived⟩ := heard
  have known := listening.1 (sending (before began))
  obtain ⟨earlier, until_asking, -⟩ := (before began).requests
  obtain ⟨requests, record, own, answers⟩ := known.requests
  obtain ⟨asked, mem, replies⟩ := answers arrival queued
  have newest : requests = ⟨asking.clock, exchange.request attempt asking.network.wallSeconds,
      exchange.query.destination⟩ :: earlier := by
    rw [listening.2, off.sentRev, until_asking, ← List.cons_append] at record
    exact (List.append_cancel_right record).symm
  refine ⟨requests, _, asked, arrival, rest.2.trans record, own, by rw [newest]; rfl, mem, replies,
    accepts, ?_, ?_, arrived⟩
  · rw [sentAt, Network.wallSeconds, Network.wallMs, (before began).wallOffset]
    rfl
  · rw [receivedAt, Network.wallSeconds, Network.wallMs, (rest.1 known).wallOffset]
    rfl

end Exchange

end NtpQuery
