import NtpQuery.Proofs.Wire.Field
import NtpQuery.Wire.Client

/-!
# Client packets read back

A client packet whose fields fit can be written in 48 octets, and reading what
was written gives the packet back, its precision with its sign.
-/

namespace NtpQuery

open Wire

namespace Wire

theorem signedOctet_eq_ok {n : Int} {octets : Bytes} :
    signedOctet n = .ok octets ↔
      -128 ≤ n ∧ n < 128 ∧ octets = Bytes.ofNat 1 (n % 256).toNat := by
  rw [signedOctet]
  split
  · rename_i fits
    constructor
    · intro h
      exact ⟨fits.1, fits.2, (Except.ok.inj h).symm⟩
    · rintro ⟨-, -, rfl⟩
      rfl
  · rename_i fits
    constructor
    · simp
    · rintro ⟨lower, upper, -⟩
      exact absurd ⟨lower, upper⟩ fits

/-- Read with a sign or without, an octet is the same to 256. -/
theorem signedOctetAt_emod (start : Nat) (data : Bytes) :
    signedOctetAt start data % 256 = unsignedAt start 1 data := by
  have lower := unsignedAt_nonneg start 1 data
  have upper : unsignedAt start 1 data < 256 := unsignedAt_lt start 1 data
  simp only [signedOctetAt]
  split
  · omega
  · omega

/-- A signed octet that was read is written as it was. -/
theorem ofNat_signedOctetAt {start : Nat} {data : Bytes} (long : start + 1 ≤ data.length) :
    Bytes.ofNat 1 (signedOctetAt start data % 256).toNat = (data.drop start).take 1 := by
  rw [signedOctetAt_emod, ofNat_unsignedAt long]

/-- The first field of written ones, when it is unsigned. -/
theorem concat_unsigned {width : Nat} {n : Int} {fields : List (Except Failure Bytes)}
    {octets : Bytes} (h : concat (unsigned width n :: fields) = .ok octets) :
    (0 ≤ n ∧ n < (256 ^ width : Nat)) ∧
      ∃ rest, concat fields = .ok rest ∧ octets = Bytes.ofNat width n.toNat ++ rest := by
  obtain ⟨front, rest, first, others, rfl⟩ := concat_cons_eq_ok.mp h
  obtain ⟨lower, upper, rfl⟩ := unsigned_eq_ok.mp first
  exact ⟨⟨lower, upper⟩, rest, others, rfl⟩

end Wire

namespace ClientPacket

/-- All fields fit their octets. -/
structure Fits (p : ClientPacket) : Prop where
  leapVersionMode : 0 ≤ p.leapVersionMode ∧ p.leapVersionMode < 256
  stratum : 0 ≤ p.stratum ∧ p.stratum < 256
  poll : 0 ≤ p.poll ∧ p.poll < 256
  precision : -128 ≤ p.precision ∧ p.precision < 128
  rootDelay : 0 ≤ p.rootDelay ∧ p.rootDelay < 4294967296
  rootDispersion : 0 ≤ p.rootDispersion ∧ p.rootDispersion < 4294967296
  refId : 0 ≤ p.refId ∧ p.refId < 4294967296
  refSeconds : 0 ≤ p.refSeconds ∧ p.refSeconds < 4294967296
  refFraction : 0 ≤ p.refFraction ∧ p.refFraction < 4294967296
  originSeconds : 0 ≤ p.originSeconds ∧ p.originSeconds < 4294967296
  originFraction : 0 ≤ p.originFraction ∧ p.originFraction < 4294967296
  receiveSeconds : 0 ≤ p.receiveSeconds ∧ p.receiveSeconds < 4294967296
  receiveFraction : 0 ≤ p.receiveFraction ∧ p.receiveFraction < 4294967296
  transmitSeconds : 0 ≤ p.transmitSeconds ∧ p.transmitSeconds < 4294967296
  transmitFraction : 0 ≤ p.transmitFraction ∧ p.transmitFraction < 4294967296

def octets (p : ClientPacket) : Bytes :=
  Bytes.ofNat 1 p.leapVersionMode.toNat ++ (Bytes.ofNat 1 p.stratum.toNat ++
    (Bytes.ofNat 1 p.poll.toNat ++ (Bytes.ofNat 1 (p.precision % 256).toNat ++
    (Bytes.ofNat 4 p.rootDelay.toNat ++ (Bytes.ofNat 4 p.rootDispersion.toNat ++
    (Bytes.ofNat 4 p.refId.toNat ++ (Bytes.ofNat 4 p.refSeconds.toNat ++
    (Bytes.ofNat 4 p.refFraction.toNat ++ (Bytes.ofNat 4 p.originSeconds.toNat ++
    (Bytes.ofNat 4 p.originFraction.toNat ++ (Bytes.ofNat 4 p.receiveSeconds.toNat ++
    (Bytes.ofNat 4 p.receiveFraction.toNat ++ (Bytes.ofNat 4 p.transmitSeconds.toNat ++
    (Bytes.ofNat 4 p.transmitFraction.toNat ++ []))))))))))))))

variable {p : ClientPacket}

theorem of_encode {data : Bytes} (h : p.encode = .ok data) : p.Fits ∧ data = p.octets := by
  rw [encode] at h
  obtain ⟨leapVersionMode, _, h1, rfl⟩ := concat_unsigned h
  obtain ⟨stratum, _, h2, rfl⟩ := concat_unsigned h1
  obtain ⟨poll, _, h3, rfl⟩ := concat_unsigned h2
  obtain ⟨_, _, precision, h4, rfl⟩ := concat_cons_eq_ok.mp h3
  obtain ⟨lower, upper, rfl⟩ := signedOctet_eq_ok.mp precision
  obtain ⟨rootDelay, _, h5, rfl⟩ := concat_unsigned h4
  obtain ⟨rootDispersion, _, h6, rfl⟩ := concat_unsigned h5
  obtain ⟨refId, _, h7, rfl⟩ := concat_unsigned h6
  obtain ⟨refSeconds, _, h8, rfl⟩ := concat_unsigned h7
  obtain ⟨refFraction, _, h9, rfl⟩ := concat_unsigned h8
  obtain ⟨originSeconds, _, h10, rfl⟩ := concat_unsigned h9
  obtain ⟨originFraction, _, h11, rfl⟩ := concat_unsigned h10
  obtain ⟨receiveSeconds, _, h12, rfl⟩ := concat_unsigned h11
  obtain ⟨receiveFraction, _, h13, rfl⟩ := concat_unsigned h12
  obtain ⟨transmitSeconds, _, h14, rfl⟩ := concat_unsigned h13
  obtain ⟨transmitFraction, _, h15, rfl⟩ := concat_unsigned h14
  obtain rfl := concat_nil_eq_ok.mp h15
  exact ⟨⟨leapVersionMode, stratum, poll, ⟨lower, upper⟩, rootDelay, rootDispersion, refId,
    refSeconds, refFraction, originSeconds, originFraction, receiveSeconds, receiveFraction,
    transmitSeconds, transmitFraction⟩, rfl⟩

/-- A packet whose fields fit can be written. -/
theorem encode_of_fits (fits : p.Fits) : p.encode = .ok p.octets := by
  obtain ⟨a, b, c, d, e, f, g, h, i, j, k, l, m, n, o⟩ := fits
  have octet : ((Nat.pow 256 1 : Nat) : Int) = 256 := rfl
  have word : ((Nat.pow 256 4 : Nat) : Int) = 4294967296 := rfl
  simp only [encode, concat, unsigned, signedOctet, octet, word, a, b, c, d, e, f, g, h, i, j, k, l,
    m, n, o, and_self, if_true, octets]

/-- A packet that does not fit cannot be written. -/
theorem encode_of_not_fits (unfit : ¬ p.Fits) : p.encode = .error .fieldOutOfRange :=
  concat_eq_error fun _ written => unfit (of_encode written).1

@[simp] theorem length_octets (p : ClientPacket) : p.octets.length = clientPacketSize := by
  simp [octets, clientPacketSize]

/-- A packet that was written is read back. -/
theorem decode_octets (fits : p.Fits) : decode p.octets = .ok p := by
  obtain ⟨a, b, c, d, e, f, g, h, i, j, k, l, m, n, o⟩ := fits
  rw [decode, if_neg (by simp)]
  simp (disch := simp) only [octets, unsignedAt_append, unsignedAt_ofNat, Bytes.length_ofNat,
    Nat.reduceSub, signedOctetAt]
  cases p
  simp only [Except.ok.injEq, ClientPacket.mk.injEq] at *
  refine ⟨?_, ?_, ?_, ?_, ?_, ?_, ?_, ?_, ?_, ?_, ?_, ?_, ?_, ?_, ?_⟩
  all_goals omega

theorem decode_of_encode {data : Bytes} (h : p.encode = .ok data) : decode data = .ok p := by
  obtain ⟨fits, rfl⟩ := of_encode h
  exact decode_octets fits

/-- What the octets of a datagram say when there are enough of them. -/
def ofOctets (data : Bytes) : ClientPacket where
  leapVersionMode := unsignedAt 0 1 data
  stratum := unsignedAt 1 1 data
  poll := unsignedAt 2 1 data
  precision := signedOctetAt 3 data
  rootDelay := unsignedAt 4 4 data
  rootDispersion := unsignedAt 8 4 data
  refId := unsignedAt 12 4 data
  refSeconds := unsignedAt 16 4 data
  refFraction := unsignedAt 20 4 data
  originSeconds := unsignedAt 24 4 data
  originFraction := unsignedAt 28 4 data
  receiveSeconds := unsignedAt 32 4 data
  receiveFraction := unsignedAt 36 4 data
  transmitSeconds := unsignedAt 40 4 data
  transmitFraction := unsignedAt 44 4 data

theorem decode_eq_ok {data : Bytes} :
    decode data = .ok p ↔ clientPacketSize ≤ data.length ∧ p = ofOctets data := by
  constructor
  · intro h
    rw [decode] at h
    split at h
    · simp at h
    · rename_i long
      exact ⟨Nat.le_of_not_lt long, (Except.ok.inj h).symm⟩
  · rintro ⟨long, rfl⟩
    rw [decode, if_neg (Nat.not_lt_of_le long)]
    rfl

/-- Whatever is read fits. -/
theorem fits_ofOctets (data : Bytes) : (ofOctets data).Fits := by
  have octet : ∀ start, 0 ≤ unsignedAt start 1 data ∧ unsignedAt start 1 data < 256 :=
    fun start => ⟨unsignedAt_nonneg start 1 data, unsignedAt_lt start 1 data⟩
  have word : ∀ start, 0 ≤ unsignedAt start 4 data ∧ unsignedAt start 4 data < 4294967296 :=
    fun start => ⟨unsignedAt_nonneg start 4 data, unsignedAt_lt start 4 data⟩
  have signed : -128 ≤ (ofOctets data).precision ∧ (ofOctets data).precision < 128 := by
    have bounds := octet 3
    simp only [ofOctets, signedOctetAt]
    split
    · omega
    · omega
  exact ⟨octet 0, octet 1, octet 2, signed, word 4, word 8, word 12, word 16, word 20, word 24,
    word 28, word 32, word 36, word 40, word 44⟩

/-- What was read is written as it was, as far as it was looked at. -/
theorem encode_ofOctets {data : Bytes} (long : clientPacketSize ≤ data.length) :
    (ofOctets data).encode = .ok (data.take clientPacketSize) := by
  rw [encode_of_fits (fits_ofOctets data)]
  congr 1
  simp only [clientPacketSize] at long
  simp only [octets, ofOctets]
  simp (disch := omega) only [ofNat_unsignedAt, ofNat_signedOctetAt, List.append_nil,
    slice_append data 40 4 4, slice_append data 36 4 8, slice_append data 32 4 12,
    slice_append data 28 4 16, slice_append data 24 4 20, slice_append data 20 4 24,
    slice_append data 16 4 28, slice_append data 12 4 32, slice_append data 8 4 36,
    slice_append data 4 4 40, slice_append data 3 1 44, slice_append data 2 1 45,
    slice_append data 1 1 46, Nat.reduceAdd]
  exact slice_append data 0 1 47

theorem length_of_encode {data : Bytes} (h : p.encode = .ok data) :
    data.length = clientPacketSize := by
  obtain ⟨-, rfl⟩ := of_encode h
  exact length_octets p

theorem fits_requestPacket (unix : Int) : (requestPacket unix).Fits :=
  (of_encode (encode_requestPacket unix)).1

/-- Every request can be read. -/
theorem decode_request (unix : Int) : decode (request unix) = .ok (requestPacket unix) :=
  decode_of_encode (encode_requestPacket unix)

theorem length_request (unix : Int) : (request unix).length = clientPacketSize :=
  length_of_encode (encode_requestPacket unix)

end ClientPacket

end NtpQuery
