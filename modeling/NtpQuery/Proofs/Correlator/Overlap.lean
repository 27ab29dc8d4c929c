import NtpQuery.Client
import NtpQuery.Proofs.Correlator
import NtpQuery.Proofs.Responder

/-!
# Datagrams read under both formats

Control responses and answers to client requests come in over one socket, and
the two formats lie over each other: the operation code of the one is the
stratum of the other, and the sequence number takes the places of the poll
interval and the precision. An answer to a client request shows its mode, and
the correlator of client requests asks for it. The correlator of control
requests does not, so an answer that shows a stratum of 128 or more, and the
awaited number behind it, passes as a control response.

Among the replies of a responder this is the only way in which the two kinds
can be taken for each other. Replies to control requests keep the mode of the
request, and what replies to a client request has no response bit unless the
responder is set up with such a stratum.
-/

namespace NtpQuery

namespace Wire

/-- The three low bits of the first octet, for a datagram that has one. -/
def HasMode (mode : Nat) (data : Bytes) : Prop :=
  ∃ first rest, data = first :: rest ∧ first.toNat % 8 = mode

theorem unsignedAt_cons (first : UInt8) (rest : Bytes) :
    unsignedAt 0 1 (first :: rest) = first.toNat := by
  simp [unsignedAt, Bytes.toNat]

instance (mode : Nat) (data : Bytes) : Decidable (HasMode mode data) :=
  match data with
  | [] => .isFalse fun ⟨_, _, empty, _⟩ => nomatch empty
  | first :: rest =>
    decidable_of_iff (first.toNat % 8 = mode) <| by
      constructor
      · intro mode
        exact ⟨first, rest, rfl, mode⟩
      · rintro ⟨_, _, same, mode⟩
        cases same
        exact mode

/-- A datagram without octets would read as mode 0. -/
theorem hasMode_iff {mode : Nat} {data : Bytes} (positive : 0 < mode) :
    HasMode mode data ↔ modeOf (unsignedAt 0 1 data) = mode := by
  cases data with
  | nil =>
    constructor
    · rintro ⟨first, rest, empty, -⟩
      cases empty
    · intro read
      simp only [unsignedAt, modeOf, List.drop_nil, List.take_nil, Bytes.toNat_nil] at read
      omega
  | cons first rest =>
    rw [unsignedAt_cons, modeOf]
    constructor
    · rintro ⟨_, _, same, mode⟩
      cases same
      omega
    · intro read
      exact ⟨first, rest, rfl, by omega⟩

theorem HasMode.take {mode : Nat} {data : Bytes} (h : HasMode mode data) {n : Nat}
    (some : 0 < n) : HasMode mode (data.take n) := by
  obtain ⟨first, rest, rfl, mode⟩ := h
  obtain ⟨n, rfl⟩ := Nat.exists_eq_succ_of_ne_zero (Nat.ne_of_gt some)
  exact ⟨first, rest.take n, rfl, mode⟩

theorem HasMode.unique {mode other : Nat} {data : Bytes} (h : HasMode mode data)
    (h' : HasMode other data) : mode = other := by
  obtain ⟨_, _, rfl, rfl⟩ := h
  obtain ⟨_, _, same, rfl⟩ := h'
  cases same
  rfl

/-- The octets of a field of two, read one by one. -/
theorem unsignedAt_two {start : Nat} {data : Bytes} (long : start + 2 ≤ data.length) :
    unsignedAt start 2 data = unsignedAt start 1 data * 256 + unsignedAt (start + 1) 1 data := by
  obtain ⟨high, low, rest, found⟩ : ∃ high low rest, data.drop start = high :: low :: rest := by
    have : 2 ≤ (data.drop start).length := by
      rw [List.length_drop]
      omega
    match data.drop start, this with
    | high :: low :: rest, _ => exact ⟨high, low, rest, rfl⟩
  have next : data.drop (start + 1) = low :: rest := by
    rw [← List.drop_drop, found]
    rfl
  simp [unsignedAt, found, next, Bytes.toNat]

end Wire

open Wire

namespace ClientPacket

theorem decodeAnswer_eq_ok {data : Bytes} {packet : ClientPacket} :
    decodeAnswer data = .ok packet ↔
      clientPacketSize ≤ data.length ∧ HasMode 4 data ∧ packet = ofOctets data := by
  rw [hasMode_iff (by decide)]
  constructor
  · intro h
    obtain ⟨long, rfl⟩ := decode_eq_ok.mp (decode_of_decodeAnswer h)
    rw [decodeAnswer, decode_eq_ok.mpr ⟨long, rfl⟩] at h
    simp only at h
    split at h
    · rename_i mode
      exact ⟨long, mode, rfl⟩
    · simp at h
  · rintro ⟨long, mode, rfl⟩
    have server : (ofOctets data).mode = 4 := mode
    simp only [decodeAnswer, decode_eq_ok.mpr ⟨long, rfl⟩, if_pos server]

end ClientPacket

/-- The response bit is the top bit of its octet. -/
theorem ControlPacket.isResponse_ofOctets (data : Bytes) :
    (ControlPacket.ofOctets data).isResponse = true ↔ 128 ≤ unsignedAt 1 1 data := by
  have lower := unsignedAt_nonneg 1 1 data
  have upper : unsignedAt 1 1 data < 256 := unsignedAt_lt 1 1 data
  rw [ControlPacket.isResponse, ControlPacket.hasResponseBit, decide_eq_true_iff]
  simp only [ControlPacket.ofOctets]
  omega

namespace Correlator

variable {destination other : Endpoint} {sequence : Int} {datagram : Datagram}

theorem client_accepts :
    (∃ answer, client other datagram = .ok answer) ↔
      clientPacketSize ≤ datagram.data.length ∧ HasMode 4 datagram.data ∧
        datagram.source.host = other.host := by
  constructor
  · rintro ⟨answer, accepted⟩
    obtain ⟨read, host⟩ := client_eq_ok.mp accepted
    obtain ⟨long, mode, -⟩ := ClientPacket.decodeAnswer_eq_ok.mp read
    exact ⟨long, mode, host⟩
  · rintro ⟨long, mode, host⟩
    exact ⟨_, client_eq_ok.mpr ⟨ClientPacket.decodeAnswer_eq_ok.mpr ⟨long, mode, rfl⟩, host⟩⟩

theorem control_accepts :
    (∃ response, control destination sequence datagram = .ok response) ↔
      controlMinSize ≤ datagram.data.length ∧ 128 ≤ unsignedAt 1 1 datagram.data ∧
        datagram.source = destination ∧ unsignedAt 2 2 datagram.data = sequence := by
  constructor
  · rintro ⟨response, accepted⟩
    obtain ⟨read, bit, source, number⟩ := control_eq_ok.mp accepted
    obtain ⟨long, rfl⟩ := ControlPacket.decode_eq_ok.mp read
    exact ⟨long, (ControlPacket.isResponse_ofOctets _).mp bit, source, number⟩
  · rintro ⟨long, bit, source, number⟩
    exact ⟨_, control_eq_ok.mpr ⟨ControlPacket.decode_eq_ok.mpr ⟨long, rfl⟩,
      (ControlPacket.isResponse_ofOctets _).mpr bit, source, number⟩⟩

/-- What an answer to a client request has to show to pass as a control response. -/
theorem control_accepts_answer {answer : ClientPacket}
    (accepted : client other datagram = .ok answer) :
    (∃ response, control destination sequence datagram = .ok response) ↔
      128 ≤ answer.stratum ∧ datagram.source = destination ∧
        answer.poll * 256 + answer.precision % 256 = sequence := by
  obtain ⟨long, -, rfl⟩ := ClientPacket.decodeAnswer_eq_ok.mp (client_eq_ok.mp accepted).1
  have number : (ClientPacket.ofOctets datagram.data).poll * 256 +
      (ClientPacket.ofOctets datagram.data).precision % 256 = unsignedAt 2 2 datagram.data := by
    simp only [clientPacketSize] at long
    rw [unsignedAt_two (by omega)]
    simp only [ClientPacket.ofOctets, signedOctetAt_emod]
  have enough : controlMinSize ≤ datagram.data.length :=
    Nat.le_trans (by decide) long
  rw [control_accepts, number]
  exact and_iff_right enough

end Correlator

namespace Responder

variable {config : ResponderConfig} {now : Int} {asked reply : Bytes} {all : List Bytes}

/-- A datagram is answered as what its mode says, if at all. -/
theorem replies_cases (replied : replies config now asked = .ok all) (mem : reply ∈ all) :
    (HasMode 3 asked ∧ ∃ request, clientReplies config now request = .ok all) ∨
      (HasMode 6 asked ∧ ∃ request, ControlPacket.decode asked = .ok request ∧
        controlReplies config request = .ok all) := by
  rw [replies] at replied
  split at replied
  · rename_i request mode _
    exact .inl ⟨(hasMode_iff (by decide)).mpr mode, request, replied⟩
  · rename_i request mode read
    exact .inr ⟨(hasMode_iff (by decide)).mpr mode, request, read, replied⟩
  · obtain rfl := Except.ok.inj replied
    simp at mem

/-- Whatever replies to a control request is a response to it or to the one before it, or the
header of one. -/
theorem mem_controlReplies {request : ControlPacket}
    (replied : controlReplies config request = .ok all) (mem : reply ∈ all) :
    ∃ earlier text full, earlier.versionMode = request.versionMode ∧
      ControlPacket.response earlier text 0 = .ok full ∧
      (reply = full ∨ reply = full.take controlHeaderSize) := by
  rw [controlReplies] at replied
  split at replied
  · obtain rfl := Except.ok.inj replied
    simp at mem
  rename_i text _
  split at replied
  · simp at replied
  rename_i full written
  have cut : ∀ {reply}, reply ∈ (if config.shortFirst then [full.take controlHeaderSize] else []) →
      reply = full.take controlHeaderSize := by
    intro reply mem
    split at mem
    · exact List.mem_singleton.mp mem
    · simp at mem
  simp only at replied
  split at replied
  · cases old : staleReply request with
    | error failure => simp [old, Except.map] at replied
    | ok stale =>
      simp only [old, Except.map, Except.ok.injEq] at replied
      subst replied
      rcases List.mem_append.mp mem with mem | mem
      · exact ⟨request, text, full, rfl, written, .inr (cut mem)⟩
      · rcases List.mem_cons.mp mem with rfl | mem
        · exact ⟨earlierRequest request, _, reply, rfl, old, .inl rfl⟩
        · exact ⟨request, text, full, rfl, written, .inl (List.mem_singleton.mp mem)⟩
  · obtain rfl := Except.ok.inj replied
    rcases List.mem_append.mp mem with mem | mem
    · exact ⟨request, text, full, rfl, written, .inr (cut mem)⟩
    · exact ⟨request, text, full, rfl, written, .inl (List.mem_singleton.mp mem)⟩

/-- A response keeps the mode of its request. -/
theorem hasMode_response {request : ControlPacket} {text : String} {status : Int} {mode : Nat}
    (positive : 0 < mode) (moded : request.mode = mode)
    (h : ControlPacket.response request text status = .ok reply) : HasMode mode reply := by
  obtain ⟨octets, -, fits, rfl⟩ := ControlPacket.response_eq_ok.mp h
  rw [hasMode_iff positive, ControlPacket.headerOctets, List.append_assoc, unsignedAt_ofNat,
    ← moded, ControlPacket.mode]
  have bounds := fits.versionMode
  simp only [ControlPacket.responsePacket, modeOf] at bounds ⊢
  omega

/-- Everything that replies to a control request has mode 6. -/
theorem hasMode_of_control (mode : HasMode 6 asked) (replied : replies config now asked = .ok all)
    (mem : reply ∈ all) : HasMode 6 reply := by
  rcases replies_cases replied mem with ⟨other, -⟩ | ⟨-, request, read, replied⟩
  · exact absurd (mode.unique other) (by decide)
  · obtain ⟨-, rfl⟩ := ControlPacket.decode_eq_ok.mp read
    obtain ⟨earlier, text, full, same, written, whole⟩ := mem_controlReplies replied mem
    have moded : earlier.mode = (6 : Nat) := by
      rw [ControlPacket.mode, same]
      exact (hasMode_iff (by decide)).mp mode
    have kept := hasMode_response (by decide) moded written
    rcases whole with rfl | rfl
    · exact kept
    · exact kept.take (by decide)

/-- Nothing that replies to a client request has the response bit, as long as the responder is
not set up with a stratum that has it. -/
theorem stratum_of_request (mode : HasMode 3 asked) (low : config.stratum < 128)
    (replied : replies config now asked = .ok all) (mem : reply ∈ all) :
    unsignedAt 1 1 reply < 128 := by
  rcases replies_cases replied mem with ⟨-, request, replied⟩ | ⟨other, -⟩
  · obtain ⟨full, written, whole⟩ := mem_clientReplies replied mem
    have encoded := encode_of_clientReply written
    obtain ⟨long, read⟩ := ClientPacket.decode_eq_ok.mp (ClientPacket.decode_of_encode encoded)
    have stratum : unsignedAt 1 1 full = config.stratum :=
      congrArg ClientPacket.stratum read.symm
    rcases whole with rfl | rfl
    · omega
    · have cut : unsignedAt 1 1 (full.take (clientPacketSize - 1)) = unsignedAt 1 1 full := by
        simp [unsignedAt, List.drop_take, List.take_take, clientPacketSize]
      omega
  · exact absurd (mode.unique other) (by decide)

end Responder

namespace Correlator

/-- What the correlators make of the two formats. An accepted answer has mode 4, and the correlator
of control requests takes it exactly when its stratum has the response bit and the octets behind
show the awaited number. A control response is taken for an answer exactly when it is one. Of the
replies of a responder, those to control requests are never taken for answers, and those to client
requests not for control responses unless the responder says that its stratum is 128 or more. -/
theorem accepted_modes (destination other : Endpoint) (sequence : Int) (datagram : Datagram) :
    (∀ answer, client other datagram = .ok answer →
      HasMode 4 datagram.data ∧
        ((∃ response, control destination sequence datagram = .ok response) ↔
          128 ≤ answer.stratum ∧ datagram.source = destination ∧
            answer.poll * 256 + answer.precision % 256 = sequence)) ∧
    (∀ response, control destination sequence datagram = .ok response →
      ((∃ answer, client other datagram = .ok answer) ↔
        response.mode = 4 ∧ clientPacketSize ≤ datagram.data.length ∧
          datagram.source.host = other.host)) ∧
    (∀ config now asked replies, Responder.replies config now asked = .ok replies →
      datagram.data ∈ replies →
        (HasMode 6 asked → HasMode 6 datagram.data ∧
          ∀ answer, client other datagram ≠ .ok answer) ∧
        (HasMode 3 asked → config.stratum < 128 →
          ∀ response, control destination sequence datagram ≠ .ok response)) := by
  refine ⟨?_, ?_, ?_⟩
  · intro answer accepted
    exact ⟨(client_accepts.mp ⟨answer, accepted⟩).2.1, control_accepts_answer accepted⟩
  · intro response accepted
    obtain ⟨-, rfl⟩ := ControlPacket.decode_eq_ok.mp (control_eq_ok.mp accepted).1
    have mode : HasMode 4 datagram.data ↔ (ControlPacket.ofOctets datagram.data).mode = 4 :=
      hasMode_iff (by decide)
    rw [client_accepts, mode]
    exact and_left_comm
  · intro config now asked replies replied mem
    constructor
    · intro control
      have kept := Responder.hasMode_of_control control replied mem
      refine ⟨kept, ?_⟩
      intro answer accepted
      exact absurd (kept.unique (client_accepts.mp ⟨answer, accepted⟩).2.1) (by decide)
    · intro request low response accepted
      have none := Responder.stratum_of_request request low replied mem
      have bit := (control_accepts.mp ⟨response, accepted⟩).2.1
      omega

/-- An answer that passes under both formats, and the replies of a responder with stratum 2, which
do not. -/
theorem accepted_modes_both :
    let endpoint : Endpoint := ⟨"127.0.0.1", 12300⟩
    let answer : ClientPacket := { leapVersionMode := 28, stratum := 200, precision := 2 }
    let response := ControlPacket.ofOctets answer.octets
    let both : Datagram := ⟨answer.octets, endpoint⟩
    let time := (Responder.answerPacket {} 0 (ClientPacket.requestPacket 0)).octets
    (client endpoint both = .ok answer ∧ HasMode 4 both.data ∧
      ∃ response, control endpoint 2 both = .ok response) ∧
    (control endpoint 2 both = .ok response ∧ ∃ answer, client endpoint both = .ok answer) ∧
    (Responder.replies {} 0 (ClientPacket.request 0) = .ok [time] ∧
      HasMode 3 (ClientPacket.request 0) ∧
      ∀ response, control endpoint 2 ⟨time, endpoint⟩ ≠ .ok response) ∧
    ∃ asked reply, Responder.replies {} 0 asked = .ok [reply] ∧ HasMode 6 asked ∧
      HasMode 6 reply ∧ ∀ answer, client endpoint ⟨reply, endpoint⟩ ≠ .ok answer := by
  intro endpoint answer response both time
  have answered : client endpoint both = .ok answer :=
    client_eq_ok.mpr ⟨ClientPacket.decodeAnswer_eq_ok.mpr (by decide +kernel), rfl⟩
  have responded : control endpoint 2 both = .ok response :=
    control_eq_ok.mpr ⟨ControlPacket.decode_eq_ok.mpr (by decide +kernel), by decide +kernel⟩
  have told : Responder.replies {} 0 (ClientPacket.request 0) = .ok [time] :=
    (Responder.replies_request {} 0 0).trans (Responder.clientReplies_of_fits
      ⟨by decide, by decide, by decide, by decide⟩ (ClientPacket.fits_requestPacket 0))
  have request : HasMode 3 (ClientPacket.request 0) := by decide +kernel
  obtain ⟨asked, -, -, read⟩ := ControlPacket.request_spec 0 2
  have known : Responder.variablesText? {} (ControlPacket.question 0 2).association =
      some ({} : ResponderConfig).systemText := rfl
  obtain ⟨_, reply, -, -, listed⟩ := Responder.controlReplies_of_some
    (ControlPacket.fits_of_decode read).1 known (by decide +kernel)
  have shown : Responder.replies {} 0 asked = .ok [reply] :=
    (Responder.replies_control read rfl).trans listed
  have query : HasMode 6 asked :=
    (hasMode_iff (by decide)).mpr
      (congrArg ControlPacket.mode (ControlPacket.decode_eq_ok.mp read).2).symm
  obtain ⟨modes, back, -⟩ := accepted_modes endpoint endpoint 2 both
  obtain ⟨mode, overlaps⟩ := modes answer answered
  refine ⟨⟨answered, mode, overlaps.mpr (by decide +kernel)⟩,
    ⟨responded, (back response responded).mpr (by decide +kernel)⟩, ⟨told, request, ?_⟩,
    asked, reply, shown, query, ?_⟩
  · have apart := (accepted_modes endpoint endpoint 2 ⟨time, endpoint⟩).2.2 {} 0 _ _ told
    exact (apart List.mem_cons_self).2 request (by decide)
  · have apart := (accepted_modes endpoint endpoint 2 ⟨reply, endpoint⟩).2.2 {} 0 _ _ shown
    exact (apart List.mem_cons_self).1 query

/-- A late answer of a server that shows a stratum of 200. Nobody answers the time query in time;
the status query after it takes the answer for the variables of the system. -/
theorem queryStatus_takes_answer :
    let config : ResponderConfig := { stratum := 200, precision := 2, refId := [97, 61, 49, 0] }
    let endpoint : Endpoint := ⟨"127.0.0.1", 12300⟩
    let client := Client.onNetwork { station := some { endpoint, config, downMs := 1500 } } none
    let request : Request :=
      { host := "127.0.0.1", port := 12300, retries := some 0, timeoutMs := some 1000 }
    let answer := (Responder.answerPacket config 1700000000
      (ClientPacket.requestPacket 1700000000)).octets
    HasMode 4 answer ∧ ¬ HasMode 6 answer ∧
      (Correlator.client endpoint ⟨answer, endpoint⟩).toBool = true ∧
      (control endpoint 2 ⟨answer, endpoint⟩).toBool = true ∧
      (client.queryTime request).1.toBool = false ∧
      ((client.queryTime request).2.queryStatus request).1.toOption = some [("sys.a", "1")] := by
  decide +kernel

end Correlator

end NtpQuery
