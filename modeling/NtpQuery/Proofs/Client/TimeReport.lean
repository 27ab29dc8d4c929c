import NtpQuery.Proofs.Client.Offset
import NtpQuery.Proofs.Client.Report

/-!
# A time query from end to end

A client asks a responder for its time on a network on which nothing else is
going on. The requests that the responder ignores cost one attempt each, and
the next one is answered. What the result says follows from three seconds: the
one in which this request left, the one in which it came, by the clock of the
responder, and the one in which the answer arrived. The rest of the result is
what the responder is set up to say of itself.

Unlike a response with variables, the answer depends on when it is made, so the
replies are a function of the seconds in which the request leaves and comes.
-/

namespace NtpQuery

namespace Responder

/-- The replies to the client request of a second, when it comes in another one. -/
def timeReplies (config : ResponderConfig) (now later : Int) : List Bytes :=
  let full := (answerPacket config later (ClientPacket.requestPacket now)).octets
  (if config.shortFirst then [full.take (Wire.clientPacketSize - 1)] else []) ++ [full]

end Responder

/-- What a time result tells of a responder, given the second in which the request left, the one
in which the responder received it, by its own clock, and the one in which the answer came. -/
structure TimeResult.Tells (result : TimeResult) (config : ResponderConfig)
    (departure receipt arrival : Int) : Prop where
  time : result.time = receipt
  offset : result.offset.toRat? = some (((2 * receipt - departure - arrival : Int) : Rat) / 2)
  delay : result.delay.toRat? = some ((arrival - departure : Int) : Rat)
  stratum : result.stratum = config.stratum
  precision : result.precision = config.precision
  refid : Timing.refidText config.stratum (config.refId.take 4) = .ok result.refid

/-- The reference identifier travels as a number and comes out as it was. -/
theorem Responder.refIdBytes_answerPacket {config : ResponderConfig} (fits : config.Fits)
    (now : Int) (request : ClientPacket) :
    (answerPacket config now request).refIdBytes = .ok (config.refId.take 4) := by
  have four : (config.refId.take 4).length = 4 := List.length_take_of_le fits.refId
  have small := Bytes.toNat_lt (config.refId.take 4)
  rw [four] at small
  apply Wire.unsigned_eq_ok.mpr
  refine ⟨Int.natCast_nonneg _, Int.ofNat_lt.mpr small, ?_⟩
  have whole := Bytes.ofNat_toNat (config.refId.take 4)
  rw [four] at whole
  exact whole.symm

/-- The result for an answer, as long as all three seconds are within 32 bits. -/
theorem TimeResult.tells_ofAnswer {config : ResponderConfig} (fits : config.Fits) {data : Bytes}
    {request : ClientPacket} {departure now arrival : Int}
    (read : ClientPacket.decodeAnswer data = .ok (Responder.answerPacket config now request))
    (left : Wire.InEra departure) (came : Wire.InEra (now + config.clockOffset))
    (arrived : Wire.InEra arrival) :
    ∃ result, ofAnswer (Responder.answerPacket config now request)
        (departure + Wire.epochOffset) (arrival + Wire.epochOffset) = .ok result ∧
      result.Tells config departure (now + config.clockOffset) arrival := by
  have seconds := Wire.toNtpSeconds_eq came
  simp only [Wire.InEra] at left came arrived
  have departed : IsNear (departure + Wire.epochOffset) := isNear_of_lt (by omega)
  have returned : IsNear (arrival + Wire.epochOffset) := isNear_of_lt (by omega)
  obtain ⟨result, computed⟩ := ofAnswer_ok read departed returned
  obtain ⟨time, stratum, precision, refId, identifier, named⟩ := ofAnswer_eq_ok computed
  rw [Responder.refIdBytes_answerPacket fits] at identifier
  obtain rfl := Except.ok.inj identifier
  have exact := ofAnswer_exact computed
  have received : (Responder.answerPacket config now request).receiveSeconds =
      now + config.clockOffset + Wire.epochOffset := seconds
  have transmitted : (Responder.answerPacket config now request).transmitSeconds =
      now + config.clockOffset + Wire.epochOffset := seconds
  have double : Timing.doubleOffset (departure + Wire.epochOffset)
      (now + config.clockOffset + Wire.epochOffset) (now + config.clockOffset + Wire.epochOffset)
      (arrival + Wire.epochOffset) = 2 * (now + config.clockOffset) - departure - arrival := by
    simp only [Timing.doubleOffset]
    omega
  have trip : Timing.roundTripDelay (departure + Wire.epochOffset)
      (now + config.clockOffset + Wire.epochOffset) (now + config.clockOffset + Wire.epochOffset)
      (arrival + Wire.epochOffset) = arrival - departure := by
    simp only [Timing.roundTripDelay]
    omega
  rw [received, transmitted, double, trip] at exact
  rw [transmitted] at time
  obtain ⟨offset, delay⟩ := exact (by omega) (by omega)
  exact ⟨result, computed, by omega, offset, delay, stratum, precision, named⟩

namespace Client

open Responder

variable {station : Station} {budget : Budget} {client : Client}

/-- A responder that is set up properly replies to every request of a time query. -/
theorem serves_time (prompt : station.Prompt budget) (fits : station.config.Fits) :
    (timeExchange budget station.endpoint).Serves station (timeReplies station.config) := by
  refine ⟨prompt.alive, rfl, prompt.up, prompt.down, ?_, ?_⟩
  · intro attempt now later
    have short : (ClientPacket.request now).length ≤ Wire.controlPacketSize := by
      rw [ClientPacket.length_request]
      decide
    have cut : (ClientPacket.request now).take Wire.controlPacketSize =
        ClientPacket.request now := List.take_of_length_le short
    simp only [timeExchange, cut, replies_request]
    exact clientReplies_of_fits fits (ClientPacket.fits_requestPacket now)
  · intro now later reply mem
    apply Datagram.cut_of_short
    have whole := ClientPacket.length_octets
      (answerPacket station.config later (ClientPacket.requestPacket now))
    simp only [timeReplies, List.mem_append, List.mem_ite_nil_right, List.mem_singleton] at mem
    rcases mem with ⟨-, rfl⟩ | rfl
    · exact Nat.le_trans (List.length_take_le' _ _) (whole ▸ by decide)
    · exact whole ▸ by decide

/-- The reply that was not cut is the answer. -/
theorem decodeAnswer_answerPacket (fits : station.config.Fits)
    (mode : station.config.replyMode = 4) (now later : Int) :
    ClientPacket.decodeAnswer
        (answerPacket station.config later (ClientPacket.requestPacket now)).octets =
      .ok (answerPacket station.config later (ClientPacket.requestPacket now)) := by
  obtain ⟨written, moded⟩ := answerPacket_spec fits later (ClientPacket.fits_requestPacket now)
  simp only [ClientPacket.decodeAnswer, ClientPacket.decode_octets written, moded, mode, if_true]

/-- A cut reply is none. -/
theorem not_accept_short {data : Bytes} (short : data.length < Wire.clientPacketSize)
    (source : Endpoint) :
    ∃ reason, (timeExchange budget station.endpoint).accept ⟨data, source⟩ = .error reason := by
  cases accepts : (timeExchange budget station.endpoint).accept ⟨data, source⟩ with
  | error reason => exact ⟨reason, rfl⟩
  | ok packet =>
    have read := ClientPacket.decode_of_decodeAnswer (timeExchange_accept.mp accepts).1
    rw [ClientPacket.decode, if_pos short] at read
    simp at read

/-- The replies that answer a time query: the answer, with a cut copy in front as configured. -/
theorem answers_time (start : Channel) (seen : Nat) (prompt : station.Prompt budget)
    (fits : station.config.Fits) (mode : station.config.replyMode = 4) :
    ∃ front reply now, (timeExchange budget station.endpoint).Answers start station seen
        (timeReplies station.config) front reply
        (answerPacket station.config
          (Network.wholeSeconds
            ((timeExchange budget station.endpoint).heededAt start station seen +
              start.network.wallOffset + station.upMs))
          (ClientPacket.requestPacket now)) ∧
      ClientPacket.decodeAnswer reply = .ok (answerPacket station.config
          (Network.wholeSeconds
            ((timeExchange budget station.endpoint).heededAt start station seen +
              start.network.wallOffset + station.upMs))
          (ClientPacket.requestPacket now)) := by
  have read := decodeAnswer_answerPacket fits mode
    (Network.wholeSeconds ((timeExchange budget station.endpoint).heededAt start station seen +
      start.network.wallOffset))
    (Network.wholeSeconds ((timeExchange budget station.endpoint).heededAt start station seen +
      start.network.wallOffset + station.upMs))
  refine ⟨_, _, _, ⟨serves_time prompt fits, rfl, ?_, timeExchange_accept.mpr ⟨read, rfl⟩⟩, read⟩
  intro other mem
  obtain ⟨-, mem⟩ := List.mem_ite_nil_right.mp mem
  apply not_accept_short
  rw [List.mem_singleton.mp mem, List.length_take]
  exact Nat.lt_of_le_of_lt (Nat.min_le_left _ _) (by decide)

/-- A time query at a responder that answers in time makes as many requests as it ignores and one
more. The result tells the responder's time at the receipt of that one, and offset and delay by the
seconds of its departure and of the arrival of the answer. -/
theorem queryTime_report {request : Request} {departure receipt arrival : Int}
    (unused : client.channel.session.socket = none)
    (quiet : client.network.Quiet) (script : client.network.script = [])
    (here : client.network.station = some station) (unasked : station.stats.seen = 0)
    (prompt : station.Prompt budget) (fits : station.config.Fits)
    (mode : station.config.replyMode = 4)
    (accepted : client.accept request = .ok (budget, station.endpoint))
    (exact : budget.timeoutMs < Network.exactWaitMs)
    (few : station.config.dropFirst ≤ budget.retries)
    (left : departure =
      client.second (client.now + station.config.dropFirst.toNat * budget.attemptMs))
    (came : receipt =
      client.second (client.now + station.config.dropFirst.toNat * budget.attemptMs +
        station.upMs) + station.config.clockOffset)
    (arrived : arrival =
      client.second (client.now + station.config.dropFirst.toNat * budget.attemptMs +
        station.upMs + station.downMs))
    (era : Wire.InEra departure ∧ Wire.InEra receipt ∧ Wire.InEra arrival) :
    ∃ result next, client.queryTime request = (.ok result, next) ∧
      next.network.sentRev =
        ((timeExchange budget station.endpoint).schedule client.channel
          (station.config.dropFirst.toNat + 1)).reverse ++ client.network.sentRev ∧
      result.Tells station.config departure receipt arrival := by
  have alone : client.channel.Alone station 0 :=
    ⟨quiet, ⟨script, station.stats, here, unasked⟩, Session.inbox_eq_nil unused⟩
  have ignores : station.ignores 0 = station.config.dropFirst.toNat := by
    simp [Station.ignores]
  obtain ⟨front, reply, asked, answers, read⟩ :=
    answers_time client.channel 0 prompt fits mode
  obtain ⟨answer, outcome, ⟨packet, sentAt, receivedAt, -, sentRev⟩, -⟩ :=
    answers.answered alone prompt.soon exact (by simp only [timeExchange]; omega)
  have heeded : (timeExchange budget station.endpoint).heededAt client.channel station 0 =
      client.now + station.config.dropFirst.toNat * budget.attemptMs := by
    rw [Exchange.heededAt, ignores]
    rfl
  rw [heeded] at packet sentAt receivedAt read
  rw [ignores] at sentRev
  have server : Network.wholeSeconds (client.now + station.config.dropFirst.toNat *
      budget.attemptMs + client.channel.network.wallOffset + station.upMs) +
        station.config.clockOffset = receipt := by
    rw [came, second, Int.add_right_comm]
    rfl
  obtain ⟨result, computed, tells⟩ := TimeResult.tells_ofAnswer fits read era.1
    (server ▸ era.2.1) era.2.2
  rw [server] at tells
  have sent : answer.sentAt = departure := sentAt.trans left.symm
  have received : answer.receivedAt = arrival := receivedAt.trans arrived.symm
  have started : (client.start .time budget station.endpoint).channel = client.channel := rfl
  refine ⟨result, (client.queryTime request).2, Prod.ext ?_ rfl, ?_, tells⟩
  · simp only [queryTime, accepted, started, outcome, packet, sent, received, computed]
  · simp only [queryTime, accepted, started, outcome, packet, sent, received, computed]
    exact sentRev

/-- A responder that is five seconds ahead ignores the first request, and puts a cut reply in front
of the answer to the second one. -/
theorem queryTime_report_ahead :
    let config : ResponderConfig :=
      { stratum := 1, precision := -18, refId := [76, 79, 67, 76, 0], clockOffset := 5
        dropFirst := 1, staleFirst := true, shortFirst := true }
    let station : Station :=
      { endpoint := ⟨"127.0.0.1", 12300⟩, config, upMs := 300, downMs := 900 }
    let client := Client.onNetwork { station := some station } none
    let request : Request :=
      { host := "127.0.0.1", port := 12300, retries := some 1, timeoutMs := some 4000 }
    ∃ result next, client.queryTime request = (.ok result, next) ∧
      next.network.sentRev =
        ((timeExchange ⟨1, 4000, by decide⟩ station.endpoint).schedule client.channel
          2).reverse ++ client.network.sentRev ∧
      result.Tells config 1700000002 1700000007 1700000003 := by
  intro config station client request
  have accepted : client.accept request = .ok (⟨1, 4000, by decide⟩, station.endpoint) := by
    have found : client.network.lookup request.host = some ["127.0.0.1"] := by decide +kernel
    exact accept_of_lookup rfl found (by decide)
  exact queryTime_report rfl ⟨fun kind => by cases kind <;> rfl, rfl, rfl⟩ rfl rfl rfl
    ⟨rfl, by decide, by decide, by decide⟩ ⟨by decide, by decide, by decide, by decide⟩ rfl
    accepted (by decide) (by decide) (by decide +kernel) (by decide +kernel) (by decide +kernel)
    (by decide +kernel)

end Client

end NtpQuery
