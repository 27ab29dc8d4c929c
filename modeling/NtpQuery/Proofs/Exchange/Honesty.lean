import NtpQuery.Proofs.Exchange.Round
import NtpQuery.Proofs.Wire.Control

/-!
# Honest servers on a careless network

A network may lose, delay, repeat and reorder datagrams, and anyone may send
anything. What is asked of it is that a datagram from a server that was asked
is a copy of a response to a request that was sent, or no control response at
all. Which request is left open: a copy may answer an old one.

The requests are those of a whole run, so the property looks ahead. It is kept
by every operation up to the end of the run, since sending brings in what the
script holds for one of the requests of the run, or what the responder makes
of it.
-/

namespace NtpQuery

/-- A datagram that was sent and is a control request. -/
def SentDatagram.Asks (sent : SentDatagram) (request : ControlPacket) : Prop :=
  ControlPacket.decode sent.data = .ok request ∧ request.mode = 6

namespace Datagram

/-- A copy of a response to one of the requests, or no control response. -/
inductive Genuine (all : List SentDatagram) (datagram : Datagram) : Prop
  | reply {sent : SentDatagram} {request : ControlPacket} {text : String} (mem : sent ∈ all)
      (asks : sent.Asks request) (plain : ControlPacket.Plain text)
      (copy : ControlPacket.response request text 0 = .ok datagram.data)
  | other (op : ∀ octet, datagram.data[1]? = some octet → octet.toNat < 128)

/-- What is accepted of a genuine datagram answers one of the requests. -/
theorem Genuine.answers {all : List SentDatagram} {datagram : Datagram} {packet : ControlPacket}
    (genuine : datagram.Genuine all)
    (decoded : ControlPacket.decode (datagram.cut 512).data = .ok packet)
    (response : packet.isResponse = true) :
    ∃ sent ∈ all, ∃ request, sent.Asks request ∧ request.sequence = packet.sequence ∧
      ControlPacket.response request packet.text 0 = .ok (datagram.cut 512).data := by
  cases genuine with
  | @reply sent request text mem asks plain copy =>
    obtain ⟨same, read, sequence, -, rfl⟩ := ControlPacket.decode_response asks.1 plain copy
    have whole : datagram.cut 512 = datagram := cut_of_short (ControlPacket.length_response copy)
    rw [whole] at decoded ⊢
    obtain rfl := Except.ok.inj (read.symm.trans decoded)
    exact ⟨sent, mem, request, asks, sequence.symm, copy⟩
  | other op =>
    obtain ⟨octet, here, high⟩ := ControlPacket.second_of_isResponse decoded response
    have kept : datagram.data[1]? = some octet := by
      rw [← here, show (datagram.cut 512).data = _ from datagram.data_cut 512]
      exact (List.getElem?_take_of_lt (by decide)).symm
    have low := op octet kept
    omega

/-- Servers that were asked send what is genuine. -/
def Truthful (all : List SentDatagram) (datagram : Datagram) : Prop :=
  (∃ sent ∈ all, sent.destination = datagram.source) → datagram.Genuine all

end Datagram

namespace Channel

/-- All that lies in the inbox is truthful, and so is all that further requests bring in, until
the given ones were all sent. -/
structure Honest (channel : Channel) (all : List SentDatagram) : Prop where
  inbox : ∀ arrival ∈ channel.session.inbox, arrival.datagram.Truthful all
  script : ∀ deliveries ∈
      channel.network.script.take (all.length - channel.network.sentRev.length),
    ∀ delivery ∈ deliveries, delivery.datagram.Truthful all
  station : ∀ station, channel.network.station = some station →
    ∀ sent ∈ all, sent.destination = station.endpoint →
    ∀ now stats replies, (Responder.handle station.config now
      (sent.data.take Wire.controlPacketSize) stats).1 = .ok replies →
    ∀ reply ∈ replies, Datagram.Truthful all ⟨reply, station.endpoint⟩

variable {channel after : Channel} {all : List SentDatagram}

theorem Honest.of_same (honest : channel.Honest all)
    (inbox : ∀ arrival ∈ after.session.inbox, arrival ∈ channel.session.inbox)
    (script : after.network.script = channel.network.script)
    (sent : after.network.sentRev = channel.network.sentRev)
    (station : after.network.station = channel.network.station) : after.Honest all := by
  refine ⟨fun arrival mem => honest.inbox arrival (inbox arrival mem), ?_, ?_⟩
  · rw [script, sent]
    exact honest.script
  · rw [station]
    exact honest.station

theorem Honest.dropped {refusal : Refusal} (honest : channel.Honest all)
    (dropped : channel.Dropped refusal after) : after.Honest all := by
  obtain ⟨_, _, _, _, _, _, _, _, hn⟩ := dropped.network
  have empty : after.session.inbox = [] := Session.inbox_eq_nil dropped.socket
  apply honest.of_same
  · simp [empty]
  · rw [hn]
  · rw [hn]
  · rw [hn]

theorem Honest.sentOff {data : Bytes} {destination : Endpoint} (honest : channel.Honest all)
    (off : channel.SentOff data destination after) (known : after.network.sentRev <:+ all) :
    after.Honest all := by
  have counted := known.length_le
  rw [off.sentRev, List.length_cons] at counted
  have left : all.length - channel.network.sentRev.length =
      all.length - (channel.network.sentRev.length + 1) + 1 := by
    omega
  have mem : ⟨channel.clock, data, destination⟩ ∈ all := by
    apply known.mem
    rw [off.sentRev]
    exact List.mem_cons_self
  refine ⟨?_, ?_, ?_⟩
  · intro arrival queued
    rw [off.inbox] at queued
    cases Inbox.mem_enqueueAll.mp queued with
    | inr old => exact honest.inbox arrival old
    | inl new =>
      cases Network.brings_of_mem_bring new with
      | scripted due chosen =>
        apply honest.script _ _ _ chosen
        rw [left]
        cases hs : channel.network.script with
        | nil => simp [hs] at due
        | cons first rest =>
          simp only [hs, List.head?_cons, Option.some.injEq] at due
          simp [due]
      | replied here asked handled chosen =>
        exact honest.station _ here _ mem asked.symm _ _ _ handled _ chosen
  · intro deliveries chosen
    apply honest.script
    rw [off.script, off.sentRev, List.length_cons] at chosen
    rw [left]
    cases hs : channel.network.script with
    | nil => simp [hs] at chosen
    | cons first rest =>
      rw [hs, List.tail_cons] at chosen
      rw [List.take_succ_cons]
      exact List.mem_cons_of_mem _ chosen
  · intro station here
    have setup := off.setup
    rw [here, Option.map_some] at setup
    obtain ⟨before, hb, same⟩ := Option.map_eq_some_iff.mp setup.symm
    have endpoint : before.endpoint = station.endpoint := congrArg (·.endpoint) same
    have config : before.config = station.config := congrArg (·.config) same
    rw [← endpoint, ← config]
    exact honest.station before hb

end Channel

namespace Exchange

variable {α : Type}

/-- What an exchange sends and receives, in a session that is otherwise left alone. -/
structure Traffic (exchange : Exchange α) (channel after : Channel) : Prop where
  sent : ∃ requests, after.network.sentRev = requests ++ channel.network.sentRev ∧
    ∀ sent ∈ requests, sent.destination = exchange.query.destination ∧
      ∃ attempt now, sent.data = exchange.request attempt now
  received : channel.network.receivedRev <:+ after.network.receivedRev
  sequence : after.session.sequence = channel.session.sequence
  issued : after.session.issued = channel.session.issued
  honest : ∀ all, after.network.sentRev <:+ all → channel.Honest all → after.Honest all

namespace Traffic

variable {exchange : Exchange α} {channel after : Channel}

theorem refl (exchange : Exchange α) (channel : Channel) : exchange.Traffic channel channel :=
  ⟨⟨[], rfl, by simp⟩, List.suffix_refl _, rfl, rfl, fun _ _ honest => honest⟩

theorem suffix (h : exchange.Traffic channel after) :
    channel.network.sentRev <:+ after.network.sentRev := by
  obtain ⟨requests, sent, -⟩ := h.sent
  exact ⟨requests, sent.symm⟩

theorem trans {first second third : Channel} (h : exchange.Traffic first second)
    (h' : exchange.Traffic second third) : exchange.Traffic first third := by
  obtain ⟨earlier, sent, own⟩ := h.sent
  obtain ⟨later, sent', own'⟩ := h'.sent
  refine ⟨⟨later ++ earlier, ?_, ?_⟩, h.received.trans h'.received,
    h'.sequence.trans h.sequence, h'.issued.trans h.issued, ?_⟩
  · rw [sent', sent, List.append_assoc]
  · intro one mem
    cases List.mem_append.mp mem with
    | inl mem => exact own' one mem
    | inr mem => exact own one mem
  · intro all known honest
    exact h'.honest all known (h.honest all (h'.suffix.trans known) honest)

theorem of_dropped {refusal : Refusal} (dropped : channel.Dropped refusal after) :
    exchange.Traffic channel after := by
  obtain ⟨_, _, _, _, _, _, _, _, hn⟩ := dropped.network
  refine ⟨⟨[], ?_, by simp⟩, ⟨[], ?_⟩, ?_, ?_, fun _ _ honest => honest.dropped dropped⟩
  · rw [hn, List.nil_append]
  · rw [hn, List.nil_append]
  · rw [dropped.session]
  · rw [dropped.session]

theorem carried (exchange : Exchange α) : exchange.Carried exchange.Traffic where
  refl := refl exchange
  trans := trans
  send channel attempt := by
    cases sending : channel.send (exchange.request attempt channel.network.wallSeconds)
        exchange.query.destination with
    | mk result after =>
      cases result with
      | error failure =>
        obtain ⟨refusal, -, dropped, -⟩ := Channel.send_error sending
        exact of_dropped dropped
      | ok =>
        have off := Channel.send_ok sending
        refine ⟨⟨[_], off.sentRev, ?_⟩, ⟨[], off.receivedRev.symm⟩, ?_, ?_, ?_⟩
        · intro one mem
          rw [List.mem_singleton.mp mem]
          exact ⟨rfl, attempt, _, rfl⟩
        · rw [off.session]
        · rw [off.session]
        · intro all known honest
          exact honest.sentOff off known
  wait channel ms opened nonneg := by
    obtain ⟨socket, hs⟩ := Option.isSome_iff_exists.mp opened
    obtain ⟨⟨_, _, _, hn⟩, -⟩ := channel.network.wait_spec socket nonneg (Int.le_refl _)
    rw [Channel.wait_eq hs, hn]
    refine ⟨⟨[], rfl, by simp⟩, List.suffix_refl _, rfl, rfl, ?_⟩
    intro all _ honest
    exact honest.of_same (fun _ mem => mem) rfl rfl rfl
  receive channel opened waiting := by
    cases received : channel.receive exchange.receiveSize with
    | mk result after =>
      cases result with
      | error failure => exact of_dropped (Channel.receive_error opened waiting received).1
      | ok datagram =>
        have taken := Channel.receive_ok opened received
        obtain ⟨arrival, inbox, -⟩ := taken.inbox
        obtain ⟨_, hn⟩ := taken.network
        refine ⟨⟨[], taken.sentRev, by simp⟩, ⟨[datagram], taken.receivedRev.symm⟩, ?_, ?_, ?_⟩
        · rw [taken.session]
        · rw [taken.session]
        · intro all _ honest
          apply honest.of_same
          · intro one mem
            rw [inbox]
            exact List.mem_cons_of_mem _ mem
          · rw [hn]
          · rw [hn]
          · rw [hn]

/-- On an honest network the datagram that is taken for the answer is truthful. It was received in
the exchange, and its destination was asked. -/
theorem truthful_of_answer {answer : Answer α} {all : List SentDatagram}
    (answered : (exchange.run channel).outcome = .ok answer) (honest : channel.Honest all)
    (known : (exchange.run channel).channel.network.sentRev <:+ all) :
    ∃ (datagram : Datagram) (got : List Datagram), datagram.Truthful all ∧
      exchange.accept (datagram.cut exchange.receiveSize) = .ok answer.packet ∧
      (∃ sent ∈ all, sent.destination = exchange.query.destination) ∧
      (exchange.run channel).channel.network.receivedRev =
        (datagram.cut exchange.receiveSize :: got) ++ channel.network.receivedRev := by
  obtain @⟨asking, sent, attempt, start, sending, off, -, heard⟩ :=
    (carried exchange).origin answered
  obtain @⟨ready, arrival, listening, rest, queued, accepts, received, -, -⟩ := heard
  have until_ready := (start.trans sending).trans listening
  obtain ⟨got, earlier⟩ := until_ready.received
  refine ⟨arrival.datagram, got, ?_, accepts, ?_, ?_⟩
  · exact (until_ready.honest all (rest.suffix.trans known) honest).inbox arrival queued
  · have own : sent.network.sentRev <:+ all := (listening.trans rest).suffix.trans known
    exact ⟨_, own.mem (off.sentRev ▸ List.mem_cons_self), rfl⟩
  · rw [received, ← earlier, List.cons_append]

end Traffic

end Exchange

end NtpQuery
