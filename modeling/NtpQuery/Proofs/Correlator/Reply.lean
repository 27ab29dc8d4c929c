import NtpQuery.Proofs.Correlator
import NtpQuery.Proofs.Responder

/-!
# Responses and the requests that they answer

A response is made from a request that was read off the wire. Whatever the
request was, the response can be written as long as its text is ASCII, shows the
numbers of the request in its header, and is taken by the correlator of this
request and of no request with another number. The text that is read is what fits
the response, and no more of it than stands before the first NUL.

The faults of a responder are no responses to the request. The stale one has the
number before it, also where the numbers start again at zero, and a header alone
is too short.
-/

namespace NtpQuery

open Wire

namespace ControlPacket

/-- What the octets of a response to a request say, and how many there are. -/
structure Repeats (request : ControlPacket) (text : String) (status : Int) (data : Bytes) :
    Prop where
  versionMode : unsignedAt 0 1 data = request.versionMode
  op : unsignedAt 1 1 data = ((request.op.toNat ||| 128 : Nat) : Int)
  sequence : unsignedAt 2 2 data = request.sequence
  status : unsignedAt 4 2 data = status
  association : unsignedAt 6 2 data = request.association
  offset : unsignedAt 8 2 data = 0
  count : unsignedAt 10 2 data = (min text.toList.length 500 : Nat)
  length : data.length = 12 + min text.toList.length 500

variable {request : ControlPacket} {sent data : Bytes} {text : String} {status : Int}

/-- A text that is not ASCII is the only reason not to write a response. -/
theorem response_cases (fits : request.Fits) (stated : 0 ≤ status ∧ status < 65536)
    (text : String) :
    ((∃ c ∈ text.toList, 128 ≤ c.toNat) ∧ response request text status = .error .notAscii) ∨
      (∀ c ∈ text.toList, c.toNat < 128) ∧ ∃ data, response request text status = .ok data := by
  by_cases ascii : ∀ c ∈ text.toList, c.toNat < 128
  · obtain ⟨octets, encoded⟩ := Text.encodeAscii?_isSome ascii
    exact .inr ⟨ascii, _, response_eq_ok.mpr
      ⟨octets, encoded, fits_responsePacket fits octets stated, rfl⟩⟩
  · refine .inl ⟨by simpa using ascii, ?_⟩
    rw [response]
    cases encoded : Text.encodeAscii? text.toList with
    | none => rfl
    | some octets => exact absurd (Text.ascii_of_encodeAscii? encoded) ascii

theorem repeats_response (asked : decode sent = .ok request)
    (h : response request text status = .ok data) : Repeats request text status data := by
  obtain ⟨fits, sequence, association, -⟩ := fits_of_decode asked
  obtain ⟨octets, encoded, responded, rfl⟩ := response_eq_ok.mp h
  have length : (octets.take controlDataSize).length = min text.toList.length 500 := by
    rw [List.length_take, Text.length_of_encodeAscii? encoded, Nat.min_comm, controlDataSize]
  have header := ofOctets_headerOctets responded (octets.take controlDataSize)
  exact
    { versionMode := congrArg ControlPacket.versionMode header
      op := (congrArg ControlPacket.op header).trans (withResponseBit_eq_or fits.op)
      sequence := (congrArg ControlPacket.sequence header).trans
        (Int.emod_eq_of_lt sequence.1 sequence.2)
      status := congrArg ControlPacket.status header
      association := (congrArg ControlPacket.association header).trans
        (Int.emod_eq_of_lt association.1 association.2)
      offset := congrArg ControlPacket.offset header
      count := (congrArg ControlPacket.count header).trans (congrArg Nat.cast length)
      length := by
        rw [List.length_append, length_headerOctets, length]
        rfl }

end ControlPacket

namespace Correlator

variable {request : ControlPacket} {sent data : Bytes} {text : String} {status : Int}

/-- Who waits for the response to a request finds its text, who waits for another finds nothing. -/
theorem control_response (asked : ControlPacket.decode sent = .ok request)
    (h : ControlPacket.response request text status = .ok data) (nonempty : text.toList ≠ [])
    (destination : Endpoint) (awaited : Int) :
    (control destination awaited ⟨data, destination⟩).toOption.map (·.text) =
      if awaited = request.sequence then
        some (String.ofList ((text.toList.take 500).takeWhile (· ≠ '\x00')))
      else none := by
  obtain ⟨-, sequence, -, -⟩ := ControlPacket.fits_of_decode asked
  obtain ⟨packet, read, response, number, -, shown⟩ :=
    ControlPacket.decode_response_shown nonempty h
  rw [Int.emod_eq_of_lt sequence.1 sequence.2] at number
  split
  · rename_i same
    have accepted : control destination awaited ⟨data, destination⟩ = .ok packet :=
      control_eq_ok.mpr ⟨read, response, rfl, number.trans same.symm⟩
    rw [accepted, Except.toOption, Option.map_some, shown, ControlPacket.carried,
      String.toList_ofList, controlDataSize]
  · rename_i other
    have rejected : control destination awaited ⟨data, destination⟩ = .error .wrongSequence :=
      control_wrongSequence read response rfl fun same => other (same.symm.trans number)
    rw [rejected]
    rfl

/-- A stale reply has the number before that of the request, which is another one in 16 bits. -/
theorem control_staleReply (asked : ControlPacket.decode sent = .ok request)
    (destination : Endpoint) :
    ∃ stale, Responder.staleReply request = .ok stale ∧
      control destination request.sequence ⟨stale, destination⟩ = .error .wrongSequence := by
  obtain ⟨fits, sequence, -, -⟩ := ControlPacket.fits_of_decode asked
  obtain ⟨stale, written⟩ := Responder.staleReply_ok fits
  obtain ⟨packet, read, response, number, -, -⟩ :=
    ControlPacket.decode_response_shown (by decide +kernel) written
  refine ⟨stale, written, control_wrongSequence read response rfl ?_⟩
  have before : (Responder.earlierRequest request).sequence = (request.sequence - 1) % 65536 := rfl
  rw [number, before]
  omega

/-- To every request that can be read there is a response with any text in ASCII. It shows the
numbers of the request and is accepted for its sequence number alone, and what is read is the text
up to 500 characters and the first NUL. The stale reply and a cut one are turned away. -/
theorem response_accepted (long : 13 ≤ sent.length) (stated : 0 ≤ status ∧ status < 65536)
    (destination : Endpoint) :
    ∃ request, ControlPacket.decode sent = .ok request ∧
      (∀ text : String,
        (ControlPacket.response request text status = .error .notAscii ↔
          ∃ c ∈ text.toList, 128 ≤ c.toNat) ∧
        ((∀ c ∈ text.toList, c.toNat < 128) →
          ∃ data, ControlPacket.response request text status = .ok data ∧
            ControlPacket.Repeats request text status data ∧
            (text.toList ≠ [] → ∀ awaited,
              (control destination awaited ⟨data, destination⟩).toOption.map (·.text) =
                if awaited = request.sequence then
                  some (String.ofList ((text.toList.take 500).takeWhile (· ≠ '\x00')))
                else none))) ∧
      (∃ stale, Responder.staleReply request = .ok stale ∧
        control destination request.sequence ⟨stale, destination⟩ = .error .wrongSequence) ∧
      ∀ (reply : Bytes) (source : Endpoint),
        control destination request.sequence ⟨reply.take 12, source⟩ = .error .short := by
  have asked := ControlPacket.decode_eq_ok.mpr ⟨long, rfl⟩
  have fits := (ControlPacket.fits_of_decode asked).1
  refine ⟨_, asked, ?_, control_staleReply asked destination, ?_⟩
  · intro text
    rcases ControlPacket.response_cases fits stated text with ⟨foreign, refused⟩ | ⟨ascii, written⟩
    · refine ⟨iff_of_true refused foreign, ?_⟩
      intro ascii
      obtain ⟨c, mem, high⟩ := foreign
      exact absurd (ascii c mem) (Nat.not_lt.mpr high)
    · obtain ⟨data, h⟩ := written
      refine ⟨iff_of_false (by simp [h]) ?_, ?_⟩
      · rintro ⟨c, mem, high⟩
        exact absurd (ascii c mem) (Nat.not_lt.mpr high)
      · intro _
        exact ⟨data, h, ControlPacket.repeats_response asked h, fun nonempty =>
          control_response asked h nonempty destination⟩
  · intro reply source
    apply control_short
    exact Nat.lt_of_le_of_lt (List.length_take_le 12 reply) (by decide)

/-- A request with the number zero, whose response has a NUL in its text. -/
theorem response_accepted_wrapping :
    13 ≤ ([30, 2, 0, 0, 0, 0, 0, 0, 0, 0, 0, 0, 0] : Bytes).length ∧
      ((0 : Int) ≤ 7 ∧ (7 : Int) < 65536) ∧
      ∃ request data stale,
        ControlPacket.decode [30, 2, 0, 0, 0, 0, 0, 0, 0, 0, 0, 0, 0] = .ok request ∧
        ControlPacket.response request "a=1\x00b" 7 = .ok data ∧
        (control ⟨"::1", 123⟩ 0 ⟨data, ⟨"::1", 123⟩⟩).toOption.map (·.text) = some "a=1" ∧
        (control ⟨"::1", 123⟩ 1 ⟨data, ⟨"::1", 123⟩⟩).toOption.map (·.text) = none ∧
        Responder.staleReply request = .ok stale ∧
        control ⟨"::1", 123⟩ 0 ⟨stale, ⟨"::1", 123⟩⟩ = .error .wrongSequence ∧
        control ⟨"::1", 123⟩ 0 ⟨data.take 12, ⟨"::1", 123⟩⟩ = .error .short := by
  have long : 13 ≤ ([30, 2, 0, 0, 0, 0, 0, 0, 0, 0, 0, 0, 0] : Bytes).length := by decide
  have stated : (0 : Int) ≤ 7 ∧ (7 : Int) < 65536 := by decide
  obtain ⟨request, asked, answered, ⟨stale, written, rejected⟩, cut⟩ :=
    response_accepted long stated ⟨"::1", 123⟩
  have number : request.sequence = 0 := by
    obtain ⟨-, rfl⟩ := ControlPacket.decode_eq_ok.mp asked
    rfl
  obtain ⟨data, built, -, shown⟩ := (answered "a=1\x00b").2 (by simp)
  rw [number] at rejected cut shown
  refine ⟨long, stated, request, data, stale, asked, built, ?_, ?_, written, rejected,
    cut data ⟨"::1", 123⟩⟩
  · rw [shown (by decide +kernel), if_pos rfl]
    decide +kernel
  · rw [shown (by decide +kernel), if_neg (by decide)]

end Correlator

end NtpQuery
