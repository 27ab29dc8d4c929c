import Mathlib.Algebra.Order.Group.Unbundled.Abs
import NtpQuery.Proofs.Client.Query
import NtpQuery.Proofs.Exchange.Attribution
import NtpQuery.Proofs.Exchange.Honesty
import NtpQuery.Proofs.Responder
import NtpQuery.Proofs.TimeResult

/-!
# How far off a time result is

The offset that a time query reports is the offset of the responder's clock,
give or take half the reported delay, as long as the response answers the
request whose departure the delay is counted from. A response to an earlier
request that comes in a later attempt is counted from the departure of the
later request. Its delay is too short and its offset too small, by up to the
seconds between the two requests. What still holds then is the upper bound.
-/

namespace NtpQuery

namespace Network

theorem wholeSeconds_mono {early late : Int} (h : early ≤ late) :
    wholeSeconds early ≤ wholeSeconds late := by
  simp only [wholeSeconds]
  rcases Int.le_total 0 early with positive | negative
  · rw [Int.tdiv_eq_ediv_of_nonneg positive, Int.tdiv_eq_ediv_of_nonneg (Int.le_trans positive h)]
    omega
  · have below : early.tdiv 1000 = -((-early) / 1000) := by
      rw [← Int.tdiv_eq_ediv_of_nonneg (by omega), Int.neg_tdiv, Int.neg_neg]
    rcases Int.le_total 0 late with positive | negative'
    · rw [below, Int.tdiv_eq_ediv_of_nonneg positive]
      omega
    · have below' : late.tdiv 1000 = -((-late) / 1000) := by
        rw [← Int.tdiv_eq_ediv_of_nonneg (by omega), Int.neg_tdiv, Int.neg_neg]
      rw [below, below']
      omega

end Network

/-- Unix seconds that fit the first 32 bits of seconds since 1900. -/
def Wire.InEra (unix : Int) : Prop :=
  0 ≤ unix + Wire.epochOffset ∧ unix + Wire.epochOffset < 4294967296

instance (unix : Int) : Decidable (Wire.InEra unix) :=
  inferInstanceAs (Decidable (_ ∧ _))

theorem Wire.toNtpSeconds_eq {unix : Int} (era : Wire.InEra unix) :
    Wire.toNtpSeconds unix = unix + Wire.epochOffset :=
  Int.emod_eq_of_lt era.1 era.2

namespace Timing

variable {sent received arrived ahead epoch : Int}

/-- Offset and delay for a server that answers in the second in which it receives and whose clock
is ahead. -/
theorem double_offset_eq :
    (doubleOffset (sent + epoch) (received + ahead + epoch) (received + ahead + epoch)
        (arrived + epoch) : Rat) / 2 - ahead = ((received - sent) + (received - arrived)) / 2 := by
  simp only [doubleOffset]
  push_cast
  ring

theorem roundTripDelay_eq :
    (roundTripDelay (sent + epoch) (received + ahead + epoch) (received + ahead + epoch)
        (arrived + epoch) : Rat) = arrived - sent := by
  simp only [roundTripDelay]
  push_cast
  ring

end Timing

/-- What a time result says of a clock that is some seconds ahead, when a request of the second
`asked` was received in the second `received` and the delay is counted from the second `sent`. -/
structure TimeResult.Gauges (result : TimeResult) (ahead sent asked received : Int)
    (offset delay : Rat) : Prop where
  offset_eq : result.offset.toRat? = some offset
  delay_eq : result.delay.toRat? = some delay
  upper : offset - ahead ≤ delay / 2
  lower : -(delay / 2) - (sent - asked) ≤ offset - ahead
  within_iff : |offset - ahead| ≤ delay / 2 ↔ sent ≤ received

theorem TimeResult.gauges_ofAnswer {packet : ClientPacket} {result : TimeResult}
    {ahead sent asked received arrived : Int}
    (computed : TimeResult.ofAnswer packet (sent + Wire.epochOffset)
      (arrived + Wire.epochOffset) = .ok result)
    (receive : packet.receiveSeconds = received + ahead + Wire.epochOffset)
    (transmit : packet.transmitSeconds = received + ahead + Wire.epochOffset)
    (departure : Wire.InEra sent) (arrival : Wire.InEra arrived)
    (server : Wire.InEra (received + ahead)) (forth : asked ≤ received)
    (back : received ≤ arrived) :
    ∃ offset delay, result.Gauges ahead sent asked received offset delay := by
  have exact := TimeResult.ofAnswer_exact computed
  rw [receive, transmit] at exact
  simp only [Wire.InEra] at departure arrival server
  obtain ⟨offset, delay⟩ := exact (by simp only [Timing.doubleOffset]; omega)
    (by simp only [Timing.roundTripDelay]; omega)
  have forth' : (asked : Rat) ≤ received := Int.cast_le.mpr forth
  have back' : (received : Rat) ≤ arrived := Int.cast_le.mpr back
  refine ⟨_, _, offset, delay, ?_, ?_, ?_⟩
  · rw [Timing.double_offset_eq, Timing.roundTripDelay_eq]
    linarith
  · rw [Timing.double_offset_eq, Timing.roundTripDelay_eq]
    linarith
  · rw [Timing.double_offset_eq, Timing.roundTripDelay_eq, abs_le, ← @Int.cast_le Rat]
    constructor
    · rintro ⟨lower, -⟩
      linarith
    · intro early
      exact ⟨by linarith, by linarith⟩

namespace Client

variable {client next : Client} {request : Request} {station : Station} {result : TimeResult}

/-- A time in ms as the wall clock tells it. -/
def second (client : Client) (time : Int) : Int :=
  Network.wholeSeconds (time + client.network.wallOffset)

/-- The clocks of both sides stay within 32 bits of seconds during a query. -/
structure WithinEra (client : Client) (station : Station) (next : Client) : Prop where
  requests : ∀ requests, next.network.sentRev = requests ++ client.network.sentRev →
    ∀ sent ∈ requests, Wire.InEra (client.second sent.time) ∧
      Wire.InEra (client.second (sent.time + station.upMs) + station.config.clockOffset)
  arrival : Wire.InEra (client.second next.now)

/-- The packet that a time query accepts from a responder shows the time at which the request that
it answers came. -/
theorem packet_of_attribution {budget : Budget} {destination : Endpoint}
    {answer : Answer ClientPacket} {start after : Channel} {requests : List SentDatagram}
    {last asked : SentDatagram} {arrival : Arrival}
    (attribution : (timeExchange budget destination).Attribution start station answer after requests
      last asked arrival) :
    ∃ request, answer.packet = Responder.answerPacket station.config
      (Network.wholeSeconds (asked.time + start.network.wallOffset + station.upMs)) request := by
  obtain ⟨attempt, own⟩ := attribution.own asked attribution.mem
  obtain ⟨stats, replies, handled, mem⟩ := attribution.replies.made
  have data : asked.data =
      ClientPacket.request (Network.wholeSeconds (asked.time + start.network.wallOffset)) :=
    congrArg (·.data) own
  have fits : asked.data.length ≤ Wire.controlPacketSize := by
    rw [data, ClientPacket.length_request]
    decide
  rw [List.take_of_length_le fits, data] at handled
  have read := (timeExchange_accept.mp attribution.accepts).1
  have short := Responder.length_reply_le handled mem
  have whole : arrival.datagram.cut 512 = arrival.datagram :=
    Datagram.cut_of_short (Nat.le_trans short (by decide))
  rw [show (timeExchange budget destination).receiveSize = 512 from rfl, whole] at read
  exact ⟨_, Responder.eq_answerPacket handled mem read⟩

/-- A time query whose answer came from a responder tells the offset of its clock with half the
delay as the upper bound. The lower bound is half the delay and the seconds by which the last
request is later than the one that was answered; it is half the delay just when the responder
received that request no earlier than the last one was sent. -/
theorem queryTime_gauges (script : client.network.script = [])
    (here : client.network.station = some station) (empty : client.channel.session.inbox = [])
    (up : 0 ≤ station.upMs) (down : 0 ≤ station.downMs)
    (returned : client.queryTime request = (.ok result, next))
    (era : client.WithinEra station next) :
    ∃ requests last asked offset delay,
      next.network.sentRev = requests ++ client.network.sentRev ∧
        requests.head? = some last ∧ asked ∈ requests ∧
        result.Gauges station.config.clockOffset (client.second last.time)
          (client.second asked.time) (client.second (asked.time + station.upMs)) offset delay ∧
        (asked = last → |offset - station.config.clockOffset| ≤ delay / 2) := by
  have course := timeCourse_queryTime client request
  rw [returned] at course
  cases course with
  | @answered budget destination answer _ accepted outcome computed =>
    obtain ⟨requests, last, asked, arrival, attribution⟩ :=
      Exchange.attribution_run script here empty outcome
    obtain ⟨asker, shown⟩ := packet_of_attribution attribution
    rw [Int.add_right_comm] at shown
    have known := era.requests requests attribution.record
    have server := (known asked attribution.mem).2
    have receive : answer.packet.receiveSeconds =
        client.second (asked.time + station.upMs) + station.config.clockOffset +
          Wire.epochOffset := by
      rw [shown]
      exact Wire.toNtpSeconds_eq server
    have transmit : answer.packet.transmitSeconds = answer.packet.receiveSeconds := by
      rw [shown]
      rfl
    have forth : client.second asked.time ≤ client.second (asked.time + station.upMs) :=
      Network.wholeSeconds_mono (by omega)
    have time := attribution.replies.time
    have arrived := attribution.arrived
    have back : client.second (asked.time + station.upMs) ≤ client.second
        ((timeExchange budget destination).run client.channel).channel.clock :=
      Network.wholeSeconds_mono (by omega)
    rw [attribution.sentAt, attribution.receivedAt] at computed
    have departed := (known last (List.mem_of_head? attribution.newest)).1
    obtain ⟨offset, delay, gauges⟩ := TimeResult.gauges_ofAnswer computed receive
      (transmit.trans receive) departed era.arrival server forth back
    refine ⟨requests, last, asked, offset, delay, attribution.record, attribution.newest,
      attribution.mem, gauges, ?_⟩
    rintro rfl
    exact gauges.within_iff.mpr forth

/-- The first request is ignored and the second one answered in its own attempt. -/
theorem queryTime_gauges_dropped :
    let station : Station :=
      { endpoint := ⟨"127.0.0.1", 12300⟩, config := { clockOffset := 5, dropFirst := 1 }
        upMs := 300, downMs := 900 }
    let client := Client.onNetwork { station := some station } none
    let request : Request :=
      { host := "127.0.0.1", port := 12300, retries := some 1, timeoutMs := some 4000 }
    let next := (client.queryTime request).2
    ∃ result, client.queryTime request = (.ok result, next) ∧ client.WithinEra station next ∧
      ∃ requests last asked offset delay,
        next.network.sentRev = requests ++ client.network.sentRev ∧
          requests.head? = some last ∧ asked ∈ requests ∧
          result.Gauges 5 (client.second last.time) (client.second asked.time)
            (client.second (asked.time + 300)) offset delay ∧
          (asked = last → |offset - (5 : Int)| ≤ delay / 2) := by
  intro station client request next
  have answered : (client.queryTime request).1.toBool = true := by decide +kernel
  have record : next.network.sentRev =
      [⟨2000, ClientPacket.request 1700000002, ⟨"127.0.0.1", 12300⟩⟩,
        ⟨0, ClientPacket.request 1700000000, ⟨"127.0.0.1", 12300⟩⟩] := by
    decide +kernel
  have finished : next.now = 3200 := by decide +kernel
  have era : client.WithinEra station next := by
    constructor
    · intro requests recorded sent mem
      have all : requests = _ := (List.append_nil requests).symm.trans (recorded.symm.trans record)
      rw [all] at mem
      simp only [List.mem_cons, List.not_mem_nil, or_false] at mem
      rcases mem with rfl | rfl
      · decide +kernel
      · decide +kernel
    · rw [finished]
      decide +kernel
  cases ended : (client.queryTime request).1 with
  | error failure => simp [ended, Except.toBool] at answered
  | ok result =>
    have returned : client.queryTime request = (.ok result, next) := Prod.ext ended rfl
    exact ⟨result, returned, era,
      queryTime_gauges rfl rfl rfl (by decide) (by decide) returned era⟩

/-- A reply that comes in the attempt after its own. The clock of the responder is right, yet it
is reported to be a second behind without any delay. -/
theorem queryTime_beyond_half_delay :
    let station : Station := { endpoint := ⟨"127.0.0.1", 12300⟩, downMs := 1500 }
    let client := Client.onNetwork { station := some station } none
    let request : Request :=
      { host := "127.0.0.1", port := 12300, retries := some 1, timeoutMs := some 2000 }
    ∃ result offset delay, (client.queryTime request).1 = .ok result ∧
      result.offset.toRat? = some offset ∧ result.delay.toRat? = some delay ∧
      client.WithinEra station (client.queryTime request).2 ∧
      station.config.clockOffset = 0 ∧ ¬ |offset - (0 : Int)| ≤ delay / 2 := by
  intro station client request
  have record : (client.queryTime request).2.network.sentRev =
      [⟨1000, ClientPacket.request 1700000001, ⟨"127.0.0.1", 12300⟩⟩,
        ⟨0, ClientPacket.request 1700000000, ⟨"127.0.0.1", 12300⟩⟩] := by
    decide +kernel
  have finished : (client.queryTime request).2.now = 1500 := by decide +kernel
  have values : (client.queryTime request).1.toOption.map
      (fun result => (result.offset.toRat?, result.delay.toRat?)) = some (some (-1), some 0) := by
    decide +kernel
  cases ended : (client.queryTime request).1 with
  | error failure => simp [ended, Except.toOption] at values
  | ok result =>
    simp only [ended, Except.toOption, Option.map_some, Option.some.injEq, Prod.mk.injEq] at values
    refine ⟨result, -1, 0, rfl, values.1, values.2, ?_, rfl, by norm_num⟩
    constructor
    · intro requests recorded sent mem
      have all : requests = _ := (List.append_nil requests).symm.trans (recorded.symm.trans record)
      rw [all] at mem
      simp only [List.mem_cons, List.not_mem_nil, or_false] at mem
      rcases mem with rfl | rfl
      · decide +kernel
      · decide +kernel
    · rw [finished]
      decide +kernel

end Client

end NtpQuery
