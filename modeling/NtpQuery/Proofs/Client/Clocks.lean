import NtpQuery.Proofs.Client.Query
import NtpQuery.Proofs.Exchange.Round
import NtpQuery.Proofs.TimeResult

/-!
# The range of the clocks

A clock is read as a double and shown in whole ms, so it never shows more than
the largest double. The monotonic clock does not go back. This is asked of the
two ends of a run only: the offset between the clocks never changes, so that
every time within the run lies between its ends. The answer to a time query can
then be computed with.
-/

namespace NtpQuery

namespace Network

/-- From one state of the network to a later one the clocks are those of a machine: the monotonic
one is not turned back, and no time that either measures is beyond the doubles. -/
structure Clocked (net after : Network) : Prop where
  forward : setback net.faults.wait = 0
  elapsed : after.clock - net.clock ≤ Binary64.largest
  early : net.wallMs.natAbs ≤ Binary64.largest
  late : after.wallMs.natAbs ≤ Binary64.largest

/-- The wall clock shows a time of less than `2 ^ 50` seconds, before or after 1970. -/
def Reckoned (net : Network) : Prop :=
  net.wallMs.natAbs < 2 ^ 50 * 1000

theorem natAbs_wallSeconds (net : Network) :
    net.wallSeconds.natAbs = net.wallMs.natAbs / 1000 := by
  rw [wallSeconds, wholeSeconds, Int.natAbs_tdiv]
  rfl

/-- Timestamps can be compared with any time that a clock shows. -/
theorem isNear_wallSeconds {net : Network} (shown : net.wallMs.natAbs ≤ Binary64.largest) :
    TimeResult.IsNear (net.wallSeconds + Wire.epochOffset) := by
  have seconds := net.natAbs_wallSeconds
  have range := Binary64.two_pow_le_largest
  simp only [TimeResult.IsNear, Wire.epochOffset]
  omega

namespace Clocked

variable {first middle last : Channel}

/-- What comes before a state within a run. -/
theorem before (clocked : first.network.Clocked last.network) (steady : first.Steady middle)
    (rest : middle.Steady last) : first.network.Clocked middle.network := by
  obtain ⟨forward, lower⟩ := steady.forward clocked.forward
  have upper := (rest.forward forward).2
  have offset := steady.wallOffset
  have offset' := rest.wallOffset
  have elapsed := clocked.elapsed
  have early := clocked.early
  have late := clocked.late
  simp only [wallMs, Channel.clock] at *
  exact ⟨clocked.forward, by omega, early, by rw [wallMs]; omega⟩

/-- What comes after a state within a run. -/
theorem after (clocked : first.network.Clocked last.network) (steady : first.Steady middle)
    (rest : middle.Steady last) : middle.network.Clocked last.network := by
  have lower := (steady.forward clocked.forward).2
  have elapsed := clocked.elapsed
  refine ⟨(steady.forward clocked.forward).1, ?_, (clocked.before steady rest).late, clocked.late⟩
  simp only [Channel.clock] at lower
  omega

end Clocked

/-- Clocks that show no time beyond `2 ^ 50` seconds are clocks of a machine where nothing is
refused. -/
theorem Reckoned.clocked {first last : Channel} (quiet : first.network.Quiet)
    (steady : first.Steady last) (early : first.network.Reckoned) (late : last.network.Reckoned) :
    first.network.Clocked last.network := by
  have range := Binary64.two_pow_le_largest
  have offset := steady.wallOffset
  simp only [Reckoned] at early late
  refine ⟨setback_of_none quiet.wait, ?_, by omega, by omega⟩
  simp only [wallMs] at early late
  omega

/-- A time between two that can be reckoned with is one of them. -/
theorem Reckoned.between {first middle last : Channel} (quiet : first.network.Quiet)
    (early : first.network.Reckoned) (late : last.network.Reckoned)
    (before : first.Steady middle) (after : middle.Steady last) : middle.network.Reckoned := by
  obtain ⟨forward, lower⟩ := before.forward (setback_of_none quiet.wait)
  have upper := (after.forward forward).2
  have offset := before.wallOffset
  have offset' := after.wallOffset
  simp only [Reckoned, wallMs, Channel.clock] at *
  omega

end Network

namespace Client

variable {client : Client} {budget : Budget} {destination : Endpoint}

/-- The answer to a time query was asked for and came at times that a clock shows. -/
theorem near_of_answered
    (clocked : client.network.Clocked (client.afterAsking budget destination).network)
    {answer : Answer ClientPacket}
    (outcome : ((timeExchange budget destination).run client.channel).outcome = .ok answer) :
    TimeResult.IsNear (answer.sentAt + Wire.epochOffset) ∧
      TimeResult.IsNear (answer.receivedAt + Wire.epochOffset) := by
  obtain ⟨before, sending, -, departed, listening, rest, -, -, -, arrived, -⟩ :=
    (Exchange.Carried.steady (timeExchange budget destination)).origin outcome
  have asked := clocked.before before (sending.trans (listening.trans rest))
  rw [departed, arrived]
  exact ⟨Network.isNear_wallSeconds asked.late, Network.isNear_wallSeconds clocked.late⟩

/-- The answer to a time query can be computed with. -/
theorem ofAnswer_clocked
    (clocked : client.network.Clocked (client.afterAsking budget destination).network)
    {answer : Answer ClientPacket}
    (outcome : ((timeExchange budget destination).run client.channel).outcome = .ok answer) :
    ∃ result, TimeResult.ofAnswer answer.packet (answer.sentAt + Wire.epochOffset)
      (answer.receivedAt + Wire.epochOffset) = .ok result := by
  obtain ⟨departed, arrived⟩ := near_of_answered clocked outcome
  obtain ⟨-, -, -, -, -, -, -, accepts, -, -⟩ := (Exchange.Carried.steady _).origin outcome
  exact TimeResult.ofAnswer_ok (timeExchange_accept.mp accepts).1 departed arrived

end Client

end NtpQuery
