import NtpQuery.Proofs.Binary64.Range
import NtpQuery.Proofs.Wire.Client
import NtpQuery.TimeResult

/-!
# Time results of received packets

A packet that was read off the wire makes a time result whenever the local
clock shows a time that can be reckoned with. The timestamps of the server
have 32 bits, so clocks within a quarter of the range of the doubles keep all
sums within it, and the reference identifier always has its four octets. With
clocks of fewer than 53 bits nothing is rounded.
-/

namespace NtpQuery.TimeResult

open Wire

/-- A time whose sums with another and with timestamps are in the range of the doubles. -/
def IsNear (time : Int) : Prop :=
  4 * time.natAbs ≤ Binary64.largest

theorem isNear_of_lt {time : Int} (short : time.natAbs < 2 ^ 60) : IsNear time := by
  have range := Binary64.two_pow_le_largest
  rw [IsNear]
  omega

theorem offsetDelay?_isSome {t1 t2 t3 t4 : Int} (departed : IsNear t1) (arrived : IsNear t4)
    (received : 0 ≤ t2 ∧ t2 < 2 ^ 32) (transmitted : 0 ≤ t3 ∧ t3 < 2 ^ 32) :
    (Timing.offsetDelay? t1 t2 t3 t4).isSome := by
  have range := Binary64.two_pow_le_largest
  rw [IsNear] at departed arrived
  have double : (Timing.doubleOffset t1 t2 t3 t4).natAbs ≤ Binary64.largest := by
    simp only [Timing.doubleOffset]
    omega
  have delay : (Timing.roundTripDelay t1 t2 t3 t4).natAbs ≤ Binary64.largest := by
    simp only [Timing.roundTripDelay]
    omega
  obtain ⟨x, hx⟩ := Binary64.ofInt?_of_le double
  obtain ⟨y, hy⟩ := Binary64.ofInt?_of_le delay
  simp [Timing.offsetDelay?, hx, hy]

theorem refidText_ok (stratum : Int) {refId : Bytes} (size : refId.length = 4) :
    ∃ text, Timing.refidText stratum refId = .ok text := by
  rw [Timing.refidText]
  split
  · exact ⟨_, rfl⟩
  · obtain ⟨a, b, c, d, rfl⟩ : ∃ a b c d, refId = [a, b, c, d] := by
      match refId, size with
      | [a, b, c, d], _ => exact ⟨a, b, c, d, rfl⟩
    exact ⟨_, rfl⟩

/-- The fields of what was read off the wire fit their octets. -/
theorem fits_of_decodeAnswer {data : Bytes} {packet : ClientPacket}
    (h : ClientPacket.decodeAnswer data = .ok packet) : packet.Fits := by
  unfold ClientPacket.decodeAnswer at h
  split at h
  · simp at h
  · rename_i p decoded
    split at h
    · obtain rfl := Except.ok.inj h
      obtain ⟨-, rfl⟩ := ClientPacket.decode_eq_ok.mp decoded
      exact ClientPacket.fits_ofOctets data
    · simp at h

/-- What was read off the wire has 32 bits. -/
theorem decodeAnswer_bounds {data : Bytes} {packet : ClientPacket}
    (h : ClientPacket.decodeAnswer data = .ok packet) :
    (0 ≤ packet.receiveSeconds ∧ packet.receiveSeconds < 2 ^ 32) ∧
      (0 ≤ packet.transmitSeconds ∧ packet.transmitSeconds < 2 ^ 32) ∧
      (0 ≤ packet.refId ∧ packet.refId < 2 ^ 32) := by
  have fits := fits_of_decodeAnswer h
  exact ⟨fits.receiveSeconds, fits.transmitSeconds, fits.refId⟩

/-- A packet whose reference identifier fits names a reference. -/
theorem refid_ok {packet : ClientPacket} (reference : 0 ≤ packet.refId ∧ packet.refId < 2 ^ 32) :
    ∃ refId text, packet.refIdBytes = .ok refId ∧
      Timing.refidText packet.stratum refId = .ok text := by
  have identifier : packet.refIdBytes = .ok (Bytes.ofNat 4 packet.refId.toNat) :=
    unsigned_eq_ok.mpr ⟨reference.1, by omega, rfl⟩
  obtain ⟨text, named⟩ :=
    refidText_ok packet.stratum (Bytes.length_ofNat 4 packet.refId.toNat)
  exact ⟨_, text, identifier, named⟩

/-- What was read off the wire names a reference. -/
theorem decodeAnswer_refid {data : Bytes} {packet : ClientPacket}
    (h : ClientPacket.decodeAnswer data = .ok packet) :
    ∃ refId text, packet.refIdBytes = .ok refId ∧
      Timing.refidText packet.stratum refId = .ok text :=
  refid_ok (decodeAnswer_bounds h).2.2

theorem ofAnswer_of_bounds {packet : ClientPacket}
    (received : 0 ≤ packet.receiveSeconds ∧ packet.receiveSeconds < 2 ^ 32)
    (transmitted : 0 ≤ packet.transmitSeconds ∧ packet.transmitSeconds < 2 ^ 32)
    (reference : 0 ≤ packet.refId ∧ packet.refId < 2 ^ 32) {t1 t4 : Int}
    (departed : IsNear t1) (arrived : IsNear t4) :
    ∃ result, ofAnswer packet t1 t4 = .ok result := by
  obtain ⟨⟨offset, delay⟩, computed⟩ :=
    Option.isSome_iff_exists.mp (offsetDelay?_isSome departed arrived received transmitted)
  obtain ⟨refId, text, identifier, named⟩ := refid_ok reference
  simp only [ofAnswer, computed, identifier, named]
  exact ⟨_, rfl⟩

theorem ofAnswer_ok {data : Bytes} {packet : ClientPacket}
    (h : ClientPacket.decodeAnswer data = .ok packet) {t1 t4 : Int}
    (departed : IsNear t1) (arrived : IsNear t4) :
    ∃ result, ofAnswer packet t1 t4 = .ok result := by
  obtain ⟨received, transmitted, reference⟩ := decodeAnswer_bounds h
  exact ofAnswer_of_bounds received transmitted reference departed arrived

/-- All that can go wrong is that a clock is too far off. -/
theorem ofAnswer_error {data : Bytes} {packet : ClientPacket}
    (h : ClientPacket.decodeAnswer data = .ok packet) {t1 t4 : Int} {failure : Failure}
    (failed : ofAnswer packet t1 t4 = .error failure) :
    failure = .overflow ∧ ¬ (IsNear t1 ∧ IsNear t4) := by
  obtain ⟨refId, text, identifier, named⟩ := decodeAnswer_refid h
  constructor
  · simp only [ofAnswer, identifier, named] at failed
    split at failed
    · exact (Except.error.inj failed).symm
    · simp at failed
  · rintro ⟨departed, arrived⟩
    obtain ⟨result, computed⟩ := ofAnswer_ok h departed arrived
    simp [failed] at computed

/-- What a time result takes over from the packet. -/
theorem ofAnswer_eq_ok {packet : ClientPacket} {t1 t4 : Int} {result : TimeResult}
    (h : ofAnswer packet t1 t4 = .ok result) :
    result.time = packet.transmitSeconds - epochOffset ∧ result.stratum = packet.stratum ∧
      result.precision = packet.precision ∧
      ∃ refId, packet.refIdBytes = .ok refId ∧
        Timing.refidText packet.stratum refId = .ok result.refid := by
  unfold ofAnswer at h
  simp only at h
  split at h
  · simp at h
  · split at h
    · simp at h
    · rename_i refId identifier
      split at h
      · simp at h
      · rename_i text named
        obtain rfl := Except.ok.inj h
        exact ⟨rfl, rfl, rfl, refId, identifier, named⟩

/-- Offset and delay as they are computed from whole seconds. -/
theorem offsetDelay?_eq_some {t1 t2 t3 t4 : Int} {offset delay : Binary64}
    (h : Timing.offsetDelay? t1 t2 t3 t4 = some (offset, delay)) :
    offset = (Binary64.ofInt (Timing.doubleOffset t1 t2 t3 t4)).div (.ofInt 2) ∧
      delay = .ofInt (Timing.roundTripDelay t1 t2 t3 t4) := by
  obtain ⟨x, hx, h⟩ := Option.bind_eq_some_iff.mp h
  obtain ⟨y, hy, h⟩ := Option.bind_eq_some_iff.mp h
  obtain ⟨rfl, rfl⟩ := Prod.mk.inj (Option.some.inj h)
  rw [Binary64.eq_of_finite? hx, Binary64.eq_of_finite? hy]
  exact ⟨rfl, rfl⟩

section Exact

variable {packet : ClientPacket} {t1 t4 : Int} {result : TimeResult}

theorem offsetDelay?_of_ofAnswer (h : ofAnswer packet t1 t4 = .ok result) :
    Timing.offsetDelay? t1 packet.receiveSeconds packet.transmitSeconds t4 =
      some (result.offset, result.delay) := by
  unfold ofAnswer at h
  simp only at h
  split at h
  · simp at h
  · rename_i offset delay computed
    split at h
    · simp at h
    · split at h
      · simp at h
      · obtain rfl := Except.ok.inj h
        exact computed

theorem offset_exact (h : ofAnswer packet t1 t4 = .ok result)
    (double : (Timing.doubleOffset t1 packet.receiveSeconds packet.transmitSeconds t4).natAbs <
      2 ^ 53) :
    result.offset.toRat? = some
      ((Timing.doubleOffset t1 packet.receiveSeconds packet.transmitSeconds t4 : Rat) / 2) := by
  rw [(offsetDelay?_eq_some (offsetDelay?_of_ofAnswer h)).1]
  exact Binary64.toRat?_half double

theorem delay_exact (h : ofAnswer packet t1 t4 = .ok result)
    (trip : (Timing.roundTripDelay t1 packet.receiveSeconds packet.transmitSeconds t4).natAbs <
      2 ^ 53) :
    result.delay.toRat? = some
      (Timing.roundTripDelay t1 packet.receiveSeconds packet.transmitSeconds t4 : Rat) := by
  rw [(offsetDelay?_eq_some (offsetDelay?_of_ofAnswer h)).2]
  exact Binary64.toRat?_ofInt trip

theorem ofAnswer_exact (h : ofAnswer packet t1 t4 = .ok result)
    (double : (Timing.doubleOffset t1 packet.receiveSeconds packet.transmitSeconds t4).natAbs <
      2 ^ 53)
    (trip : (Timing.roundTripDelay t1 packet.receiveSeconds packet.transmitSeconds t4).natAbs <
      2 ^ 53) :
    result.offset.toRat? = some
        ((Timing.doubleOffset t1 packet.receiveSeconds packet.transmitSeconds t4 : Rat) / 2) ∧
      result.delay.toRat? = some
        (Timing.roundTripDelay t1 packet.receiveSeconds packet.transmitSeconds t4 : Rat) :=
  ⟨offset_exact h double, delay_exact h trip⟩

end Exact

end NtpQuery.TimeResult
