import NtpQuery.Proofs.Wire.Client
import NtpQuery.Proofs.Wire.Control
import NtpQuery.Responder

/-!
# What a responder replies

The reply to a client request shows the time at which the request came, as the
clock of the responder tells it, in 32 bits of seconds. A cut copy in front of
it is no answer.

The reply to a control request does not depend on the time. As long as the text
for it is legible, the responder writes it and whatever its faults put in front
of it, so that a control request never stops it.
-/

namespace NtpQuery

namespace ClientPacket

theorem decode_of_decodeAnswer {data : Bytes} {p : ClientPacket}
    (h : decodeAnswer data = .ok p) : decode data = .ok p := by
  rw [decodeAnswer] at h
  split at h
  · simp at h
  · rename_i packet decoded
    split at h
    · rw [decoded]
      exact congrArg Except.ok (Except.ok.inj h)
    · simp at h

theorem Fits.version {p : ClientPacket} (fits : p.Fits) : 0 ≤ p.version ∧ p.version < 8 := by
  have octet := fits.leapVersionMode
  simp only [ClientPacket.version, Wire.versionOf]
  omega

end ClientPacket

/-- What the responder is set up to say of itself fits a packet. -/
structure ResponderConfig.Fits (config : ResponderConfig) : Prop where
  stratum : 0 ≤ config.stratum ∧ config.stratum < 256
  precision : -128 ≤ config.precision ∧ config.precision < 128
  refId : 4 ≤ config.refId.length
  replyMode : 0 ≤ config.replyMode ∧ config.replyMode < 8

namespace Responder

/-- The answer to a client request at the given Unix second, as a packet. -/
def answerPacket (config : ResponderConfig) (now : Int) (request : ClientPacket) : ClientPacket :=
  let seconds := Wire.toNtpSeconds (now + config.clockOffset)
  { leapVersionMode := versionAndMode request.version config.replyMode
    stratum := config.stratum
    precision := config.precision
    refId := Bytes.toNat (config.refId.take 4)
    refSeconds := seconds
    originSeconds := request.transmitSeconds
    originFraction := request.transmitFraction
    receiveSeconds := seconds
    transmitSeconds := seconds }

variable {config : ResponderConfig} {now : Int}

/-- A version and a mode share an octet and keep out of each other's bits. -/
theorem versionAndMode_eq {version mode : Int} (versioned : 0 ≤ version ∧ version < 8)
    (moded : 0 ≤ mode ∧ mode < 8) : versionAndMode version mode = version * 8 + mode := by
  obtain ⟨v, rfl⟩ := Int.eq_ofNat_of_zero_le versioned.1
  obtain ⟨m, rfl⟩ := Int.eq_ofNat_of_zero_le moded.1
  have joined : v * 8 ||| m = v * 8 + m := by
    have apart := Nat.shiftLeft_add_eq_or_of_lt (b := m) (i := 3) (by omega) v
    rw [Nat.shiftLeft_eq] at apart
    exact apart.symm
  have whole : versionAndMode v m = ((v * 8 ||| m : Nat) : Int) := by
    rw [versionAndMode, if_neg (by omega)]
    rfl
  rw [whole, joined]
  rfl

theorem versionAndMode_spec {version mode : Int} (versioned : 0 ≤ version ∧ version < 8)
    (moded : 0 ≤ mode ∧ mode < 8) :
    (0 ≤ versionAndMode version mode ∧ versionAndMode version mode < 256) ∧
      Wire.modeOf (versionAndMode version mode) = mode := by
  rw [versionAndMode_eq versioned moded, Wire.modeOf]
  omega

theorem versionOf_versionAndMode {version mode : Int} (versioned : 0 ≤ version ∧ version < 8)
    (moded : 0 ≤ mode ∧ mode < 8) :
    Wire.versionOf (versionAndMode version mode) = version := by
  rw [versionAndMode_eq versioned moded, Wire.versionOf]
  omega

/-- The answer fits the packet and has the mode that the responder is set to. -/
theorem answerPacket_spec (fits : config.Fits) (now : Int) {request : ClientPacket}
    (asked : request.Fits) :
    (answerPacket config now request).Fits ∧
      (answerPacket config now request).mode = config.replyMode := by
  obtain ⟨octet, mode⟩ := versionAndMode_spec asked.version fits.replyMode
  have seconds : 0 ≤ Wire.toNtpSeconds (now + config.clockOffset) ∧
      Wire.toNtpSeconds (now + config.clockOffset) < 4294967296 :=
    ⟨Int.emod_nonneg _ (by decide), Int.emod_lt_of_pos _ (by decide)⟩
  have reference := Bytes.toNat_lt (config.refId.take 4)
  rw [List.length_take_of_le fits.refId] at reference
  have none : (0 : Int) ≤ 0 ∧ (0 : Int) < 256 := by decide
  have zero : (0 : Int) ≤ 0 ∧ (0 : Int) < 4294967296 := by decide
  refine ⟨⟨octet, fits.stratum, none, fits.precision, zero, zero, ?_, seconds, zero,
    asked.transmitSeconds, asked.transmitFraction, seconds, zero, seconds, zero⟩, mode⟩
  exact ⟨Int.natCast_nonneg _, by simp only [answerPacket]; omega⟩

/-- A responder that is set up properly answers every client request. -/
theorem clientReplies_of_fits (fits : config.Fits) {request : ClientPacket}
    (asked : request.Fits) :
    clientReplies config now request = .ok
      ((if config.shortFirst then
          [(answerPacket config now request).octets.take (Wire.clientPacketSize - 1)] else []) ++
        [(answerPacket config now request).octets]) := by
  have written : clientReply config now request = .ok (answerPacket config now request).octets := by
    rw [clientReply, if_neg (Nat.not_lt.mpr fits.refId)]
    exact ClientPacket.encode_of_fits (answerPacket_spec fits now asked).1
  simp only [clientReplies, written]
  cases config.shortFirst with
  | false => rfl
  | true => rfl

theorem encode_of_clientReply {request : ClientPacket} {data : Bytes}
    (h : clientReply config now request = .ok data) :
    (answerPacket config now request).encode = .ok data := by
  rw [clientReply] at h
  split at h
  · simp at h
  · exact h

theorem mem_clientReplies {request : ClientPacket} {all : List Bytes} {reply : Bytes}
    (replied : clientReplies config now request = .ok all) (mem : reply ∈ all) :
    ∃ full, clientReply config now request = .ok full ∧
      (reply = full ∨ reply = full.take (Wire.clientPacketSize - 1)) := by
  rw [clientReplies] at replied
  split at replied
  · simp at replied
  · rename_i full written
    obtain rfl := Except.ok.inj replied
    refine ⟨full, written, ?_⟩
    split at mem
    · rcases List.mem_cons.mp mem with cut | mem
      · exact .inr cut
      · exact .inl (List.mem_singleton.mp mem)
    · exact .inl (List.mem_singleton.mp mem)

/-- A responder ignores a datagram or makes its replies, and counts it either way. -/
theorem handle_spec {data : Bytes} {replies : List Bytes}
    (stats : ResponderStats)
    (made : Responder.replies config now data = .ok replies) :
    ∃ after, after.seen = stats.seen + 1 ∧
      handle config now data stats =
        (.ok (if (stats.seen : Int) < config.dropFirst then [] else replies), after) := by
  by_cases ignored : ((stats.seen + 1 : Nat) : Int) ≤ config.dropFirst
  · have early : (stats.seen : Int) < config.dropFirst := by omega
    refine ⟨{ stats with seen := stats.seen + 1, dropped := stats.dropped + 1 }, rfl, ?_⟩
    simp only [handle, if_pos ignored, if_pos early]
  · have late : ¬ (stats.seen : Int) < config.dropFirst := by omega
    simp only [handle, if_neg ignored, if_neg late, made]
    cases replies with
    | nil => exact ⟨_, rfl, rfl⟩
    | cons reply replies => exact ⟨_, rfl, rfl⟩

/-- A client request is answered as one. -/
theorem replies_request (config : ResponderConfig) (now unix : Int) :
    replies config now (ClientPacket.request unix) =
      clientReplies config now (ClientPacket.requestPacket unix) := by
  have first : Wire.unsignedAt 0 1 (ClientPacket.request unix) = 27 := by
    simp [Wire.unsignedAt, ClientPacket.request, Bytes.toNat]
  have mode : Wire.modeOf 27 = 3 := by decide
  simp only [replies, first, mode, ClientPacket.decode_request]

theorem replies_of_handle {data : Bytes} {stats : ResponderStats} {all : List Bytes}
    {reply : Bytes} (h : (handle config now data stats).1 = .ok all) (mem : reply ∈ all) :
    replies config now data = .ok all := by
  rw [handle] at h
  simp only at h
  split at h
  · obtain rfl := Except.ok.inj h
    simp at mem
  · split at h
    · simp at h
    · rename_i none
      rw [none]
      exact h
    · rename_i all' _ some
      rw [some]
      exact h

/-- Replies to a client request are the answer and a cut copy of it. -/
theorem reply_of_request {stats : ResponderStats} {unix : Int} {all : List Bytes} {reply : Bytes}
    (handled : (handle config now (ClientPacket.request unix) stats).1 = .ok all)
    (mem : reply ∈ all) :
    ∃ full, (answerPacket config now (ClientPacket.requestPacket unix)).encode = .ok full ∧
      (reply = full ∨ reply = full.take (Wire.clientPacketSize - 1)) := by
  have replied := replies_of_handle handled mem
  rw [replies_request] at replied
  obtain ⟨full, written, whole⟩ := mem_clientReplies replied mem
  exact ⟨full, encode_of_clientReply written, whole⟩

theorem length_reply_le {stats : ResponderStats} {unix : Int} {all : List Bytes} {reply : Bytes}
    (handled : (handle config now (ClientPacket.request unix) stats).1 = .ok all)
    (mem : reply ∈ all) : reply.length ≤ Wire.clientPacketSize := by
  obtain ⟨full, encoded, rfl | rfl⟩ := reply_of_request handled mem
  · exact Nat.le_of_eq (ClientPacket.length_of_encode encoded)
  · rw [List.length_take]
    exact Nat.le_trans (Nat.min_le_left _ _) (Nat.sub_le _ _)

/-- Whatever of the replies to a client request is an answer shows the time of its arrival. -/
theorem eq_answerPacket {stats : ResponderStats} {unix : Int} {all : List Bytes} {reply : Bytes}
    {packet : ClientPacket}
    (handled : (handle config now (ClientPacket.request unix) stats).1 = .ok all)
    (mem : reply ∈ all) (read : ClientPacket.decodeAnswer reply = .ok packet) :
    packet = answerPacket config now (ClientPacket.requestPacket unix) := by
  obtain ⟨full, encoded, whole⟩ := reply_of_request handled mem
  have decoded := ClientPacket.decode_of_decodeAnswer read
  rcases whole with rfl | rfl
  · rw [ClientPacket.decode_of_encode encoded] at decoded
    exact (Except.ok.inj decoded).symm
  · rw [ClientPacket.decode, if_pos] at decoded
    · simp at decoded
    · rw [List.length_take, ClientPacket.length_of_encode encoded]
      decide

/-- A control request is answered as one, at any time. -/
theorem replies_control {data : Bytes} {request : ControlPacket}
    (read : ControlPacket.decode data = .ok request) (mode : request.mode = 6) :
    replies config now data = controlReplies config request := by
  obtain ⟨-, rfl⟩ := ControlPacket.decode_eq_ok.mp read
  have first : Wire.modeOf (Wire.unsignedAt 0 1 data) = 6 := mode
  simp only [replies, first, read]

theorem controlReplies_of_none {request : ControlPacket}
    (unknown : variablesText? config request.association = none) :
    controlReplies config request = .ok [] := by
  simp only [controlReplies, unknown]

/-- The stale reply to a request that fits can be written. -/
theorem staleReply_ok {request : ControlPacket} (fits : request.Fits) :
    ∃ stale, ControlPacket.response (earlierRequest request) "stale=1" 0 = .ok stale := by
  have zero : (0 : Int) ≤ 0 ∧ (0 : Int) < 65536 := by decide
  have earlier : (earlierRequest request).Fits :=
    ⟨fits.versionMode, fits.op, zero, zero, zero⟩
  exact ControlPacket.response_ok earlier (by decide +kernel)

/-- Where a response is written, the stale one and a cut one go in front of it as configured. -/
theorem controlReplies_of_written {request : ControlPacket} {text : String} {reply : Bytes}
    (fits : request.Fits) (known : variablesText? config request.association = some text)
    (written : ControlPacket.response request text 0 = .ok reply) :
    ∃ stale, ControlPacket.response (earlierRequest request) "stale=1" 0 = .ok stale ∧
      controlReplies config request = .ok
        ((if config.shortFirst then [reply.take Wire.controlHeaderSize] else []) ++
          (if config.staleFirst then [stale] else []) ++ [reply]) := by
  obtain ⟨stale, hs⟩ := staleReply_ok fits
  refine ⟨stale, hs, ?_⟩
  have old : staleReply request = .ok stale := hs
  simp only [controlReplies, known, written, old]
  cases config.staleFirst with
  | false => simp
  | true => simp [Except.map]

/-- The replies to a request for variables that the responder tells: the response, with the cut one
and the one to the request before it in front as configured. -/
theorem controlReplies_of_some {request : ControlPacket} {text : String} (fits : request.Fits)
    (known : variablesText? config request.association = some text)
    (legible : ControlPacket.Legible text) :
    ∃ stale reply, ControlPacket.response (earlierRequest request) "stale=1" 0 = .ok stale ∧
      ControlPacket.response request text 0 = .ok reply ∧
      controlReplies config request = .ok
        ((if config.shortFirst then [reply.take Wire.controlHeaderSize] else []) ++
          (if config.staleFirst then [stale] else []) ++ [reply]) := by
  obtain ⟨reply, written⟩ := ControlPacket.response_ok fits legible
  obtain ⟨stale, old, replied⟩ := controlReplies_of_written fits known written
  exact ⟨stale, reply, old, written, replied⟩

end Responder

end NtpQuery
