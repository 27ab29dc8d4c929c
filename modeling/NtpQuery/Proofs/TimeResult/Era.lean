import NtpQuery.Client
import NtpQuery.Proofs.TimeResult

/-!
# Time results across eras

Timestamps on the wire are seconds since 1900 reduced to 32 bits, so they start
again at zero with every era of `2 ^ 32` seconds; the first one ends in February
2036. The local times of departure and arrival are not reduced when a time
result is computed. What the server shows is therefore taken for a second of
the first era, and time and offset are behind by the eras that have passed on
the server's clock. The delay does not depend on the era.
-/

namespace NtpQuery

namespace Wire

/-- How many eras have passed at a Unix second. -/
def era (unix : Int) : Int := (unix + epochOffset) / 2 ^ 32

theorem toNtpSeconds_eq_sub_era (unix : Int) :
    toNtpSeconds unix = unix + epochOffset - 2 ^ 32 * era unix := by
  simp only [toNtpSeconds, era]
  omega

theorem toNtpSeconds_bounds (unix : Int) :
    0 ≤ toNtpSeconds unix ∧ toNtpSeconds unix < 2 ^ 32 := by
  simp only [toNtpSeconds]
  omega

theorem era_eq_zero_iff {unix : Int} (after : 0 ≤ unix) :
    era unix = 0 ↔ unix + epochOffset < 2 ^ 32 := by
  simp only [era, epochOffset]
  omega

end Wire

open Wire

namespace TimeResult

variable {packet : ClientPacket} {result : TimeResult} {s c : Int}

/-- The second at which a server received a request and answered it. -/
structure AnsweredAt (packet : ClientPacket) (s : Int) : Prop where
  received : packet.receiveSeconds = toNtpSeconds s
  transmitted : packet.transmitSeconds = toNtpSeconds s
  refId : 0 ≤ packet.refId ∧ packet.refId < 2 ^ 32

theorem AnsweredAt.doubleOffset (answered : AnsweredAt packet s) :
    Timing.doubleOffset (c + epochOffset) packet.receiveSeconds packet.transmitSeconds
      (c + epochOffset) = 2 * (s - c - 2 ^ 32 * era s) := by
  rw [answered.received, answered.transmitted, toNtpSeconds_eq_sub_era, Timing.doubleOffset]
  omega

theorem AnsweredAt.roundTripDelay (answered : AnsweredAt packet s) :
    Timing.roundTripDelay (c + epochOffset) packet.receiveSeconds packet.transmitSeconds
      (c + epochOffset) = 0 := by
  rw [answered.received, answered.transmitted, Timing.roundTripDelay]
  omega

theorem AnsweredAt.time (answered : AnsweredAt packet s)
    (h : ofAnswer packet (c + epochOffset) (c + epochOffset) = .ok result) :
    result.time = s - 2 ^ 32 * era s := by
  rw [(ofAnswer_eq_ok h).1, answered.transmitted, toNtpSeconds_eq_sub_era]
  omega

theorem AnsweredAt.delay (answered : AnsweredAt packet s)
    (h : ofAnswer packet (c + epochOffset) (c + epochOffset) = .ok result) :
    result.delay.toRat? = some 0 := by
  have exact := delay_exact h (by rw [answered.roundTripDelay]; decide)
  rw [exact, answered.roundTripDelay]
  rfl

theorem AnsweredAt.offset (answered : AnsweredAt packet s)
    (h : ofAnswer packet (c + epochOffset) (c + epochOffset) = .ok result)
    (short : (s - c - 2 ^ 32 * era s).natAbs < 2 ^ 52) :
    result.offset.toRat? = some ((s - c - 2 ^ 32 * era s : Int) : Rat) := by
  have exact := offset_exact h (by rw [answered.doubleOffset]; omega)
  rw [exact, answered.doubleOffset]
  push_cast
  ring_nf

/-- Clocks with a second below `2 ^ 59` can always be reckoned with. -/
theorem AnsweredAt.computed (answered : AnsweredAt packet s) (asked : 0 ≤ c) (near : c < 2 ^ 59) :
    ∃ result, ofAnswer packet (c + epochOffset) (c + epochOffset) = .ok result := by
  have bounds := toNtpSeconds_bounds s
  have size : IsNear (c + epochOffset) := by
    apply isNear_of_lt
    simp only [epochOffset]
    omega
  refine ofAnswer_of_bounds ?_ ?_ answered.refId size size
  · rw [answered.received]
    exact bounds
  · rw [answered.transmitted]
    exact bounds

/-- A server that answers at Unix second `s`, asked when the local clock shows `c`. The result
tells the server's time and how far apart the clocks are exactly in the first era; afterwards it
is behind by the length of the eras that have passed, whatever era the local clock is in. -/
theorem ofAnswer_era (answered : AnsweredAt packet s) (asked : 0 ≤ c) (told : 0 ≤ s)
    (near : (s - c).natAbs < 2 ^ 31) :
    ((∃ result, ofAnswer packet (c + epochOffset) (c + epochOffset) = .ok result ∧
        result.offset.toRat? = some ((s - c : Int) : Rat) ∧ result.delay.toRat? = some 0 ∧
        result.time = s) ↔ s + epochOffset < 2 ^ 32) ∧
    (∀ result, ofAnswer packet (c + epochOffset) (c + epochOffset) = .ok result →
      result.time = s - 2 ^ 32 * era s ∧ result.delay.toRat? = some 0 ∧
        (c < 2 ^ 51 →
          result.offset.toRat? = some ((s - c - 2 ^ 32 * era s : Int) : Rat))) ∧
    (c < 2 ^ 59 → ∃ result, ofAnswer packet (c + epochOffset) (c + epochOffset) = .ok result) := by
  refine ⟨?_, ?_, answered.computed asked⟩
  · rw [← era_eq_zero_iff told]
    constructor
    · rintro ⟨result, computed, -, -, shown⟩
      have behind := answered.time computed
      omega
    · intro first
      have early := (era_eq_zero_iff told).mp first
      have low : c < 2 ^ 59 := by
        simp only [epochOffset] at early
        omega
      obtain ⟨result, computed⟩ := answered.computed asked low
      refine ⟨result, computed, ?_, answered.delay computed, ?_⟩
      · have exact := answered.offset computed (by rw [first]; omega)
        rw [exact, first, mul_zero, sub_zero]
      · rw [answered.time computed, first, mul_zero, sub_zero]
  · intro result computed
    refine ⟨answered.time computed, answered.delay computed, ?_⟩
    intro exact
    apply answered.offset computed
    have bounds := toNtpSeconds_bounds s
    rw [toNtpSeconds_eq_sub_era] at bounds
    simp only [epochOffset] at bounds
    omega

/-- The last second of the first era, and the one after it on both clocks. -/
theorem ofAnswer_era_turn :
    let packet : Int → ClientPacket := fun s =>
      { stratum := 2, receiveSeconds := toNtpSeconds s, transmitSeconds := toNtpSeconds s }
    (∃ result, ofAnswer (packet 2085978495) (2085978490 + epochOffset) (2085978490 + epochOffset) =
        .ok result ∧
      result.offset.toRat? = some 5 ∧ result.delay.toRat? = some 0 ∧ result.time = 2085978495) ∧
    ∃ result, ofAnswer (packet 2085978496) (2085978496 + epochOffset) (2085978496 + epochOffset) =
        .ok result ∧
      result.offset.toRat? = some (-4294967296) ∧ result.delay.toRat? = some 0 ∧
      result.time = -2208988800 := by
  intro packet
  have answered : ∀ s, AnsweredAt (packet s) s := fun s =>
    ⟨rfl, rfl, (by decide : (0 : Int) ≤ 0 ∧ (0 : Int) < 2 ^ 32)⟩
  constructor
  · have before := ofAnswer_era (answered 2085978495) (c := 2085978490) (by decide) (by decide)
      (by decide)
    exact before.1.mpr (by decide)
  · obtain ⟨-, told, computed⟩ := ofAnswer_era (answered 2085978496) (c := 2085978496) (by decide)
      (by decide) (by decide)
    obtain ⟨result, done⟩ := computed (by decide)
    obtain ⟨time, delay, offset⟩ := told result done
    exact ⟨result, done, offset (by decide), delay, time⟩

end TimeResult

/-- A query in the first second of the second era. Both clocks show Unix second 2085978496, yet the
server's is reported to be an era behind, in 1900. -/
theorem Client.queryTime_second_era :
    let endpoint : Endpoint := ⟨"127.0.0.1", 12300⟩
    let client := Client.onNetwork
      { wallOffset := 2085978496000, station := some { endpoint } } none
    let request : Request :=
      { host := "127.0.0.1", port := 12300, retries := some 0, timeoutMs := some 1000 }
    (client.queryTime request).1.toOption.map (fun result =>
      (result.time, result.offset.toRat?, result.delay.toRat?)) =
        some (2085978496 - 2 ^ 32, some (0 - 2 ^ 32), some 0) := by
  decide +kernel

end NtpQuery
