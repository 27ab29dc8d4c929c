import NtpQuery.Proofs.Binary64.Fixed
import NtpQuery.Proofs.TimeResult

/-!
# Time results as they are shown

Every datagram that is long enough has a time result, whatever its octets and as
long as the local clock shows fewer than 40 bits of seconds. Sums of such seconds
are whole numbers that a double holds, and so is half of one, so what is shown
with six digits behind the point is the exact value: five tenths of a second or
none. A zero has no sign, because the sign is that of the sum.

The reference identifier is the four octets as they arrived.
-/

namespace NtpQuery

open Wire

/-- The reference identifier of a datagram is the four octets that it has there. -/
theorem ClientPacket.refIdBytes_ofOctets {data : Bytes} (long : 48 ≤ data.length) :
    (ofOctets data).refIdBytes = .ok ((data.drop 12).take 4) := by
  have fits := (fits_ofOctets data).refId
  have octets : Bytes.ofNat 4 (ofOctets data).refId.toNat = (data.drop 12).take 4 :=
    ofNat_unsignedAt (by omega)
  exact unsigned_eq_ok.mpr ⟨fits.1, fits.2, octets.symm⟩

namespace TimeResult

/-- Up to stratum 1 an octet is a character, and the first zero ends the text. -/
theorem refidText_named {stratum : Int} {refId : Bytes} {text : String} (low : stratum ≤ 1)
    (short : refId.length = 4) (h : Timing.refidText stratum refId = .ok text) :
    text.toList = (refId.takeWhile (· ≠ 0)).map fun octet =>
      if octet.toNat < 128 then Char.ofNat octet.toNat else '\uFFFD' := by
  rw [Timing.refidText, if_pos low, List.take_of_length_le (Nat.le_of_eq short)] at h
  rw [← Except.ok.inj h, String.toList_ofList]
  rfl

/-- Above stratum 1 the octets are the parts of an address. -/
theorem refidText_address {stratum : Int} {refId : Bytes} {text : String} (high : 2 ≤ stratum)
    (short : refId.length = 4) (h : Timing.refidText stratum refId = .ok text) :
    ∃ a b c d, refId = [a, b, c, d] ∧ text = toString a.toNat ++ "." ++ toString b.toNat ++ "." ++
      toString c.toNat ++ "." ++ toString d.toNat := by
  match refId, short with
  | [a, b, c, d], _ =>
    rw [Timing.refidText, if_neg (by omega)] at h
    exact ⟨a, b, c, d, rfl, (Except.ok.inj h).symm⟩

variable {packet : ClientPacket} {t1 t4 : Int} {result : TimeResult}

theorem toFixed_offset (h : ofAnswer packet t1 t4 = .ok result) {double : Int}
    (sum : Timing.doubleOffset t1 packet.receiveSeconds packet.transmitSeconds t4 = double)
    (short : double.natAbs < 2 ^ 53) :
    result.offset.toFixed 6 = (if double < 0 then "-" else "") ++ toString (double.natAbs / 2) ++
      (if double % 2 = 0 then ".000000" else ".500000") := by
  have digits : "." ++ Text.zeroPadded 6 (double.natAbs % 2 * (5 * 10 ^ 5)) =
      if double % 2 = 0 then ".000000" else ".500000" := by
    split
    · rw [show double.natAbs % 2 = 0 by omega]
      decide +kernel
    · rw [show double.natAbs % 2 = 1 by omega]
      decide +kernel
  rw [(offsetDelay?_eq_some (offsetDelay?_of_ofAnswer h)).1, sum, Binary64.toFixed_half short 5,
    ← digits, String.append_assoc, String.append_assoc]

theorem toFixed_delay (h : ofAnswer packet t1 t4 = .ok result) {trip : Int}
    (difference :
      Timing.roundTripDelay t1 packet.receiveSeconds packet.transmitSeconds t4 = trip)
    (short : trip.natAbs < 2 ^ 53) :
    result.delay.toFixed 6 = toString trip ++ ".000000" := by
  have digits : "." ++ Text.zeroPadded 6 0 = ".000000" := by decide +kernel
  rw [(offsetDelay?_eq_some (offsetDelay?_of_ofAnswer h)).2, difference,
    Binary64.toFixed_ofInt short 5, String.append_assoc, digits]

/-- Every datagram of 48 octets or more has a time result. Offset and delay are exact and are shown
with the six digits of their exact values, without a minus sign for a zero; the server's time is
in Unix seconds, and the reference identifier is an address above stratum 1 and a text up to it. -/
theorem ofAnswer_shown {data : Bytes} {t1 t4 : Int} (long : 48 ≤ data.length)
    (departed : 0 ≤ t1 ∧ t1 < 2 ^ 40) (arrived : 0 ≤ t4 ∧ t4 < 2 ^ 40) :
    let stratum := unsignedAt 1 1 data
    let t2 := unsignedAt 32 4 data
    let t3 := unsignedAt 40 4 data
    let double := (t2 - t1) + (t3 - t4)
    let trip := (t4 - t1) - (t3 - t2)
    ∃ packet result, ClientPacket.decode data = .ok packet ∧ packet.receiveSeconds = t2 ∧
      packet.transmitSeconds = t3 ∧ ofAnswer packet t1 t4 = .ok result ∧
      result.offset.toRat? = some ((double : Rat) / 2) ∧ result.delay.toRat? = some (trip : Rat) ∧
      result.entries =
        [("time", .whole (t3 - 2208988800)),
         ("offset", .text ((if double < 0 then "-" else "") ++ toString (double.natAbs / 2) ++
            (if double % 2 = 0 then ".000000" else ".500000"))),
         ("delay", .text (toString trip ++ ".000000")),
         ("stratum", .whole stratum),
         ("precision", .whole (signedOctetAt 3 data)),
         ("refid", .text result.refid)] ∧
      (2 ≤ stratum → ∃ a b c d, (data.drop 12).take 4 = [a, b, c, d] ∧
        result.refid = toString a.toNat ++ "." ++ toString b.toNat ++ "." ++ toString c.toNat ++
          "." ++ toString d.toNat) ∧
      (stratum ≤ 1 → result.refid.toList =
        (((data.drop 12).take 4).takeWhile (· ≠ 0)).map fun octet =>
          if octet.toNat < 128 then Char.ofNat octet.toNat else '\uFFFD') := by
  intro stratum t2 t3 double trip
  have fits := ClientPacket.fits_ofOctets data
  have received : 0 ≤ t2 ∧ t2 < 2 ^ 32 := fits.receiveSeconds
  have transmitted : 0 ≤ t3 ∧ t3 < 2 ^ 32 := fits.transmitSeconds
  obtain ⟨result, computed⟩ := ofAnswer_of_bounds received transmitted fits.refId
    (isNear_of_lt (by omega : t1.natAbs < 2 ^ 60)) (isNear_of_lt (by omega : t4.natAbs < 2 ^ 60))
  have sum : Timing.doubleOffset t1 (ClientPacket.ofOctets data).receiveSeconds
      (ClientPacket.ofOctets data).transmitSeconds t4 = double := rfl
  have difference : Timing.roundTripDelay t1 (ClientPacket.ofOctets data).receiveSeconds
      (ClientPacket.ofOctets data).transmitSeconds t4 = trip := rfl
  have shortDouble : double.natAbs < 2 ^ 53 := by omega
  have shortTrip : trip.natAbs < 2 ^ 53 := by omega
  have offset := offset_exact computed (by rwa [sum])
  have delay := delay_exact computed (by rwa [difference])
  rw [sum] at offset
  rw [difference] at delay
  obtain ⟨time, sameStratum, precision, refId, identifier, named⟩ := ofAnswer_eq_ok computed
  rw [ClientPacket.refIdBytes_ofOctets long] at identifier
  obtain rfl := Except.ok.inj identifier
  have four : ((data.drop 12).take 4).length = 4 := by
    rw [List.length_take, List.length_drop]
    omega
  refine ⟨_, result, ClientPacket.decode_eq_ok.mpr ⟨long, rfl⟩, rfl, rfl, computed, offset, delay,
    ?_, ?_, ?_⟩
  · have read : (ClientPacket.ofOctets data).transmitSeconds = t3 := rfl
    have level : (ClientPacket.ofOctets data).stratum = stratum := rfl
    have signed : (ClientPacket.ofOctets data).precision = signedOctetAt 3 data := by
      rw [ClientPacket.ofOctets]
    rw [entries, time, read, epochOffset, sameStratum, level, precision, signed,
      toFixed_offset computed sum shortDouble,
      toFixed_delay computed difference shortTrip]
  · intro high
    exact refidText_address high four named
  · intro low
    exact refidText_named low four named

/-- A server at stratum 2 that answers a second after it received the request, yet before the
request left. -/
theorem ofAnswer_shown_behind :
    let data : Bytes := [36, 2, 6, 250] ++ List.replicate 8 0 ++ [127, 0, 0, 1] ++
      List.replicate 19 0 ++ [10] ++ List.replicate 7 0 ++ [11] ++ List.replicate 4 0
    48 ≤ data.length ∧ ((0 : Int) ≤ 12 ∧ (12 : Int) < 2 ^ 40) ∧
      ∃ packet result, ClientPacket.decode data = .ok packet ∧
        ofAnswer packet 12 12 = .ok result ∧ result.offset.toRat? = some (-3 / 2) ∧
        result.delay.toRat? = some (-1) ∧
        result.entries =
          [("time", .whole (-2208988789)), ("offset", .text "-1.500000"),
           ("delay", .text "-1.000000"), ("stratum", .whole 2), ("precision", .whole (-6)),
           ("refid", .text "127.0.0.1")] := by
  intro data
  have long : 48 ≤ data.length := by decide
  have near : (0 : Int) ≤ 12 ∧ (12 : Int) < 2 ^ 40 := by decide
  obtain ⟨packet, result, decoded, -, -, computed, offset, delay, shown, address, -⟩ :=
    ofAnswer_shown long near near
  have level : unsignedAt 1 1 data = 2 := by decide +kernel
  have received : unsignedAt 32 4 data = 10 := by decide +kernel
  have transmitted : unsignedAt 40 4 data = 11 := by decide +kernel
  have signed : signedOctetAt 3 data = -6 := by decide +kernel
  obtain ⟨a, b, c, d, octets, refid⟩ := address (by rw [level])
  obtain ⟨rfl, rfl, rfl, rfl⟩ : 127 = a ∧ 0 = b ∧ 0 = c ∧ 1 = d := by
    simpa [data] using octets
  rw [received, transmitted] at offset delay
  refine ⟨long, near, packet, result, decoded, computed, ?_, ?_, ?_⟩
  · rw [offset]
    norm_num
  · rw [delay]
    norm_num
  · rw [shown, refid, level, received, transmitted, signed]
    rfl

end TimeResult

end NtpQuery
