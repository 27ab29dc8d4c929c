import NtpQuery.Proofs.Wire.Client
import NtpQuery.Proofs.Wire.Control

/-!
# Reading and writing packets are inverse

Both formats lose nothing. A datagram that is long enough is read as a packet,
and writing this packet gives the datagram back up to the size of the format.
A packet whose fields fit is written, and reading gives the packet back; one
that does not fit is refused, and there is no other reason to refuse it.

Control packets carry two numbers that are reduced to 16 bits when they are
written, and text that is cut. What is read back is the packet after that. A
control packet without text is written, but it is too short to be read.
-/

namespace NtpQuery

open Wire

namespace Wire

/-- Writing and reading packets of a format undo each other. -/
structure Inverse {π : Type} (encode : π → Except Failure Bytes)
    (decode : Bytes → Except QueryError π) (minSize size : Nat) (Fits Filled : π → Prop)
    (carried : π → π) : Prop where
  reads : ∀ data : Bytes, minSize ≤ data.length →
    ∃ p, decode data = .ok p ∧ encode p = .ok (data.take size)
  short : ∀ data : Bytes, data.length < minSize →
    ∃ message, decode data = .error (.malformed message)
  writes : ∀ p, Fits p →
    ∃ octets, encode p = .ok octets ∧ (Filled p → decode octets = .ok (carried p))
  refuses : ∀ p, encode p = .error .fieldOutOfRange ↔ ¬ Fits p

end Wire

namespace ControlPacket

theorem encode_eq_error {p : ControlPacket} :
    p.encode = .error .fieldOutOfRange ↔ ¬ p.Fits := by
  constructor
  · intro refused fits
    simp [encode_eq_ok.mpr ⟨fits, rfl⟩] at refused
  · intro unfit
    rw [encode, header_of_not_fits unfit]
    rfl

theorem inverse : Inverse encode decode controlMinSize controlPacketSize Fits (·.data ≠ [])
    fun p => p.readBack p.data where
  reads _ long := ⟨_, decode_eq_ok.mpr ⟨long, rfl⟩, encode_ofOctets long⟩
  short _ short := ⟨_, if_pos short⟩
  writes p fits := by
    refine ⟨_, encode_eq_ok.mpr ⟨fits, rfl⟩, fun filled => ?_⟩
    rw [decode_headerOctets fits (take_ne_nil filled), readBack, List.take_take, Nat.min_self]
    rfl
  refuses _ := encode_eq_error

end ControlPacket

namespace ClientPacket

theorem encode_eq_error {p : ClientPacket} :
    p.encode = .error .fieldOutOfRange ↔ ¬ p.Fits := by
  constructor
  · intro refused fits
    simp [encode_of_fits fits] at refused
  · exact encode_of_not_fits

theorem inverse : Inverse encode decode clientPacketSize clientPacketSize Fits (fun _ => True)
    id where
  reads _ long := ⟨_, decode_eq_ok.mpr ⟨long, rfl⟩, encode_ofOctets long⟩
  short _ short := ⟨_, if_pos short⟩
  writes _ fits := ⟨_, encode_of_fits fits, fun _ => decode_octets fits⟩
  refuses _ := encode_eq_error

end ClientPacket

namespace Wire

/-- Control packets, padded or not, and client packets are read as they were written and written
as they were read. -/
theorem codecs_inverse :
    Inverse ControlPacket.encode ControlPacket.decode controlMinSize controlPacketSize
        ControlPacket.Fits (·.data ≠ []) (fun p => p.readBack p.data) ∧
      (∀ p : ControlPacket,
        p.encodePadded = p.encode.map (Bytes.padTo controlPacketSize) ∧
          (p.encodePadded = .error .fieldOutOfRange ↔ ¬ p.Fits)) ∧
      Inverse ClientPacket.encode ClientPacket.decode clientPacketSize clientPacketSize
        ClientPacket.Fits (fun _ => True) id := by
  refine ⟨ControlPacket.inverse, fun p => ⟨p.encodePadded_eq, ?_⟩, ClientPacket.inverse⟩
  rw [p.encodePadded_eq, ← ControlPacket.encode_eq_error]
  cases p.encode <;> simp [Except.map]

example : (ControlPacket.encode { sequence := -1, association := 65536 + 7, data := [65] }).map
      ControlPacket.decode =
    .ok (.ok { sequence := 65535, association := 7, data := [65] }) := by
  rfl

end Wire

end NtpQuery
